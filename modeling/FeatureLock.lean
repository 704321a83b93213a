import FeatureLock.Forms
import FeatureLock.Main
import FeatureLock.Session
import FeatureLock.Proofs.Json.Grammar
import FeatureLock.Proofs.Json.Reading
import FeatureLock.Proofs.Json.Fields
import FeatureLock.Proofs.Json.Writing
import FeatureLock.Proofs.Json.Acceptance
import FeatureLock.Proofs.Forms
import FeatureLock.Proofs.Store.ReasonText
import FeatureLock.Proofs.Store.Table
import FeatureLock.Proofs.Store.Agreement
import FeatureLock.Proofs.Store.Backend
import FeatureLock.Proofs.Session.Interchange
import FeatureLock.Proofs.Lock.Specification
import FeatureLock.Proofs.Lock.Stage
import FeatureLock.Proofs.Lock.Alone
import FeatureLock.Proofs.Lock.EagerSweep
import FeatureLock.Proofs.Lock.FreshLock
import FeatureLock.Proofs.Lock.Linearization
import FeatureLock.Proofs.Contract
import FeatureLock.Proofs.Lock.Calls
import FeatureLock.Proofs.Lock.Granularity
import FeatureLock.Proofs.Lock.Resolution
import FeatureLock.Proofs.Lock.Tidy
import FeatureLock.Proofs.Store.Selection
import FeatureLock.Proofs.Lock.Replacement
import FeatureLock.Proofs.Lock.DelayedLock
import FeatureLock.Proofs.Lock.Deadline
import FeatureLock.Proofs.Lock.Lapse
import FeatureLock.Proofs.Store.Restriction
import FeatureLock.Proofs.Session.Isolation
import FeatureLock.Proofs.Signal
import FeatureLock.Proofs.Lock.Failing
import FeatureLock.Proofs.Lock.Refusal
import FeatureLock.Proofs.Lock.SharedRelease
import FeatureLock.Proofs.Lock.Unreadable
import FeatureLock.Proofs.Lock.Reporting
import FeatureLock.Proofs.Config.ReasonList
import FeatureLock.Proofs.Lock.Catalogued
import FeatureLock.Proofs.Config.Options
import FeatureLock.Proofs.Config.Overlay
import FeatureLock.Proofs.Config.Overrides
import FeatureLock.Proofs.Lock.DefaultDuration
import FeatureLock.Proofs.Clocks
import FeatureLock.Proofs.Lock.TimeViews
import FeatureLock.Proofs.Json.Verbatim
