import FeatureLock.Feature
import FeatureLock.Store.ReasonText

/-!
# Rows of the feature table

## Main Definitions

- `Columns`: the columns of a row that are no part of its key
- `Row`: a row, with `Row.ofFeature` and `Row.toFeature`
-/

namespace FeatureLock

/-- The columns of a row that are no part of its key. -/
structure Columns where
  locked : Bool
  unlockTime : Instant
  /-- the messages of the lock's reasons, as stored -/
  reasonText : Option String
  /-- the codes of the lock's reasons, as stored -/
  codeText : Option String
  deriving DecidableEq

/-- A row of the feature table. -/
structure Row where
  key : Key
  columns : Columns
  deriving DecidableEq

/-- The columns of a feature. -/
def Columns.ofFeature (f : Feature) : Columns where
  locked := f.locked
  unlockTime := f.unlockTime
  reasonText := some (ReasonText.encode f.reasons)
  codeText := some (ReasonText.encode f.codes)

/-- The columns of an open feature. -/
def Columns.released : Columns where
  locked := false
  unlockTime := noDeadline
  reasonText := some ReasonText.emptyText
  codeText := some ReasonText.emptyText

namespace Row

/-- The row of a feature. -/
def ofFeature (f : Feature) : Row :=
  ⟨f.key, .ofFeature f⟩

/-- **The feature of a row**, where both of its texts are lists of reasons; the messages are
decoded before the codes. -/
def toFeature (r : Row) : Except Json.Fault Feature := do
  let reasons ← ReasonText.decode r.columns.reasonText
  let codes ← ReasonText.decode r.columns.codeText
  return ⟨r.key, r.columns.locked, r.columns.unlockTime, codes, reasons⟩

end Row

end FeatureLock
