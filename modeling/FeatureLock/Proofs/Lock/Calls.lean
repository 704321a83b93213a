import FeatureLock.Proofs.Lock.Specification
import FeatureLock.Proofs.Contract

/-!
# The calls of an operation

Every operation makes only the calls that its command is for, and replies only with
what these calls have stored or found.  This is said once, under any contract that
admits the calls; what the calls and their answers are worth is for the contract to
say.

## Main Definitions

- `Operation.Ensures`: what an operation returns under a contract
- `Service.LocksAs`: the features that a lock can leave behind
- `Service.MayCall`, `Service.MayReply`: the calls that a command can make, and the
  replies that it can give
- `Ask.under`: the contract of programs that call the store under one key only

Main statements: `Service.perform_ensures`, and `Service.perform_under`, an operation keeps
to its key.
-/

namespace FeatureLock

namespace Operation

variable {K : Contract Ask Ask.Answer} {α β : Type} {post : α → Prop}

/-- **An operation ensures a condition under a contract**: it fulfils the contract, and whatever it
returns satisfies the condition. -/
structure Ensures (K : Contract Ask Ask.Answer) (p : Operation α) (post : α → Prop) : Prop where
  fulfils : Program.Fulfils K (fun result => ∀ a, result = .ok a → post a) p

theorem Ensures.mono {p : Operation α} {post' : α → Prop} (h : p.Ensures K post)
    (implies : ∀ a, post a → post' a) : p.Ensures K post' :=
  ⟨h.fulfils.mono fun _ returned a ok => implies a (returned a ok)⟩

theorem ensures_pure {a : α} (holds : post a) : Ensures K (pure a) post := by
  refine ⟨fun b returned => ?_⟩
  cases returned
  exact holds

theorem ensures_throw (e : Failure) : Ensures K (throw e) post := by
  refine ⟨fun a returned => ?_⟩
  cases returned

/-- One operation after another; the first failure ends both. -/
theorem Ensures.bind {p : Operation α} {f : α → Operation β} {post' : β → Prop}
    (h : p.Ensures K post) (rest : ∀ a, post a → (f a).Ensures K post') :
    (p >>= f).Ensures K post' := by
  refine ⟨Program.Fulfils.bind h.fulfils fun result returned => ?_⟩
  cases result with
  | error e => exact (ensures_throw e).fulfils
  | ok a => exact (rest a (returned a rfl)).fulfils

theorem ensures_call {c : Call} {post : c.Answer → Prop} (asks : K.asks (.call c))
    (counted : ∀ a, K.answers (.call c) (Except.ok a : Outcome c) → post a) :
    (call c).Ensures K post := by
  refine ⟨asks, fun result answered a returned => ?_⟩
  cases returned
  exact counted a answered

/-- A call whose answer does not matter. -/
theorem ensures_call_any {c : Call} (asks : K.asks (.call c)) :
    (call c).Ensures K fun _ => True :=
  ensures_call asks fun _ _ => trivial

theorem ensures_now (asks : K.asks .clock) : now.Ensures K fun _ => True :=
  ⟨asks, fun _ _ _ _ => trivial⟩

theorem ensures_check (check : Except Complaint α) :
    (Operation.check check).Ensures K (check = .ok ·) := by
  cases check with
  | ok a => exact ensures_pure rfl
  | error why => exact ensures_throw _

/-- A search that fails on nothing finds what may be counted on. -/
theorem findExisting_ensures {k : Key} (find : K.asks (.call (.find k))) :
    (findExisting k).Ensures K
      fun f => K.answers (.call (.find k)) (Except.ok (some f) : Outcome (.find k)) := by
  refine (ensures_call find fun _ answered => answered).bind fun found answered => ?_
  match found, answered with
  | some f, answered => exact ensures_pure answered
  | none, _ => exact ensures_throw _

/-- A replacement that fails on nothing is one that is said to have taken place. -/
theorem replaceExisting_ensures {f : Feature} (update : K.asks (.call (.update f))) :
    (replaceExisting f).Ensures K
      fun g => g = f ∧ K.answers (.call (.update f)) (Except.ok true : Outcome (.update f)) := by
  refine (ensures_call update fun _ answered => answered).bind fun found answered => ?_
  match found, answered with
  | true, answered => exact ensures_pure ⟨rfl, answered⟩
  | false, _ => exact ensures_throw _

end Operation

namespace Service

open Operation

variable {K : Contract Ask Ask.Answer} {s : Service} {k : Key} {c : Command}

theorem add_ensures (insert : k.validate = .ok () → K.asks (.call (.insert (.fresh k)))) :
    (add k).Ensures K fun f => k.validate = .ok () ∧ f = .fresh k := by
  refine (ensures_check k.validate).bind fun _ valid => ?_
  refine (ensures_call_any (insert valid)).bind fun _ _ => ?_
  exact ensures_pure ⟨valid, rfl⟩

/-- A read returns a feature that was found, as it is or without its lock. -/
theorem reconcile_ensures (find : K.asks (.call (.find k))) (clock : K.asks .clock)
    (expire : ∀ now, K.asks (.call (.expire k now))) :
    (reconcile k).Ensures K fun f =>
      ∃ g, K.answers (.call (.find k)) (Except.ok (some g) : Outcome (.find k)) ∧
        (f = g ∨ f = g.unlocked) := by
  refine (findExisting_ensures find).bind fun g found => ?_
  refine (ensures_now clock).bind fun now _ => ?_
  split
  · refine (ensures_call_any (expire now)).bind fun released _ => ?_
    match released with
    | true => exact ensures_pure ⟨g, found, .inr rfl⟩
    | false => exact (findExisting_ensures find).mono fun f found => ⟨f, found, .inl rfl⟩
  · exact ensures_pure ⟨g, found, .inl rfl⟩

/-- The calls of a read, once its key is accepted, and what it returns. -/
theorem read_ensures (find : k.validate = .ok () → K.asks (.call (.find k))) (clock : K.asks .clock)
    (expire : k.validate = .ok () → ∀ now, K.asks (.call (.expire k now))) :
    (read k).Ensures K fun f => k.validate = .ok () ∧
      ∃ g, K.answers (.call (.find k)) (Except.ok (some g) : Outcome (.find k)) ∧
        (f = g ∨ f = g.unlocked) := by
  refine (ensures_check k.validate).bind fun _ valid => ?_
  exact (reconcile_ensures (find valid) clock (expire valid)).mono fun _ found => ⟨valid, found⟩

theorem deadline_ensures (clock : K.asks .clock) (d : Option Duration) :
    (deadline d).Ensures K fun _ => True := by
  cases d with
  | none => exact ensures_pure trivial
  | some d =>
    simp only [deadline, deadlineAfter]
    split
    · exact ensures_throw _
    · split
      · exact ensures_throw _
      · refine (ensures_now clock).bind fun now _ => ?_
        split
        · exact ensures_pure trivial
        · exact ensures_throw _

/-- The features that a lock can leave behind: locked, until any time, for the reasons that its
codes stand for. -/
def LocksAs (s : Service) (k : Key) (codes : List String) (f : Feature) : Prop :=
  k.validate = .ok () ∧ ∃ reasons, s.catalog.resolve codes = .ok reasons ∧
    ∃ t, f = ⟨k, true, t, reasons.codes, reasons.reasons⟩

theorem lock_ensures {d : Option Duration} {codes : List String} (clock : K.asks .clock)
    (update : ∀ f, s.LocksAs k codes f → K.asks (.call (.update f))) :
    (s.lock k d codes).Ensures K fun f => s.LocksAs k codes f ∧
      K.answers (.call (.update f)) (Except.ok true : Outcome (.update f)) := by
  refine (ensures_check k.validate).bind fun _ valid => ?_
  refine (ensures_check (s.catalog.resolve codes)).bind fun reasons resolved => ?_
  refine (deadline_ensures clock d).bind fun t _ => ?_
  have locks : s.LocksAs k codes ⟨k, true, t, reasons.codes, reasons.reasons⟩ :=
    ⟨valid, reasons, resolved, t, rfl⟩
  refine (replaceExisting_ensures (update _ locks)).mono ?_
  rintro f ⟨rfl, answered⟩
  exact ⟨locks, answered⟩

theorem unlock_ensures (update : k.validate = .ok () → K.asks (.call (.update (.fresh k)))) :
    (unlock k).Ensures K fun f => (k.validate = .ok () ∧ f = .fresh k) ∧
      K.answers (.call (.update f)) (Except.ok true : Outcome (.update f)) := by
  refine (ensures_check k.validate).bind fun _ valid => ?_
  refine (replaceExisting_ensures (update valid)).mono ?_
  rintro f ⟨rfl, answered⟩
  exact ⟨⟨valid, rfl⟩, answered⟩

theorem delete_ensures (delete : k.validate = .ok () → K.asks (.call (.delete k))) :
    (Service.delete k).Ensures K fun _ => True := by
  refine (ensures_check k.validate).bind fun _ valid => ?_
  exact (ensures_call_any (delete valid)).bind fun _ _ => ensures_pure trivial

/-! ### All operations -/

/-- **The calls that the operation of a command can make.** -/
inductive MayCall (s : Service) : Command → Call → Prop where
  | add {k : Key} (valid : k.validate = .ok ()) : MayCall s (.add k) (.insert (.fresh k))
  | find {c : Command} (read : c.IsRead) (valid : c.key.validate = .ok ()) :
    MayCall s c (.find c.key)
  | expire {c : Command} (read : c.IsRead) (valid : c.key.validate = .ok ()) (now : Instant) :
    MayCall s c (.expire c.key now)
  | lock {k : Key} {d : Option Duration} {codes : List String} {f : Feature}
    (locks : s.LocksAs k codes f) : MayCall s (.lock k d codes) (.update f)
  | lockForDefault {k : Key} {codes : List String} {f : Feature} (locks : s.LocksAs k codes f) :
    MayCall s (.lockForDefault k codes) (.update f)
  | unlock {k : Key} (valid : k.validate = .ok ()) : MayCall s (.unlock k) (.update (.fresh k))
  | delete {k : Key} (valid : k.validate = .ok ()) : MayCall s (.delete k) (.delete k)

/-- **The replies that the operation of a command can give**, where searches find what satisfies one
condition, and what replacements are said to have stored satisfies another. -/
inductive MayReply (s : Service) (found stored : Feature → Prop) : Command → Reply → Prop where
  | add {k : Key} (valid : k.validate = .ok ()) :
    MayReply s found stored (.add k) (.feature (.fresh k))
  | found {c : Command} (read : c.IsRead) (valid : c.key.validate = .ok ()) {f : Feature}
    (holds : found f) : MayReply s found stored c (c.report f)
  | released {c : Command} (read : c.IsRead) (valid : c.key.validate = .ok ()) {f : Feature}
    (holds : found f) : MayReply s found stored c (c.report f.unlocked)
  | lock {k : Key} {d : Option Duration} {codes : List String} {f : Feature}
    (locks : s.LocksAs k codes f) (holds : stored f) :
    MayReply s found stored (.lock k d codes) (.feature f)
  | lockForDefault {k : Key} {codes : List String} {f : Feature} (locks : s.LocksAs k codes f)
    (holds : stored f) : MayReply s found stored (.lockForDefault k codes) (.feature f)
  | unlock {k : Key} (valid : k.validate = .ok ()) (holds : stored (.fresh k)) :
    MayReply s found stored (.unlock k) (.feature (.fresh k))
  | delete {k : Key} : MayReply s found stored (.delete k) .deleted

/-- **An operation makes only the calls of its command**, and replies only with what these have
stored or found. -/
theorem perform_ensures (s : Service) (c : Command) (found stored : Feature → Prop)
    (clock : K.asks .clock) (calls : ∀ call, s.MayCall c call → K.asks (.call call))
    (finds : ∀ f, K.answers (.call (.find c.key)) (Except.ok (some f) : Outcome (.find c.key)) →
      found f)
    (stores : ∀ f,
      K.answers (.call (.update f)) (Except.ok true : Outcome (.update f)) → stored f) :
    (s.perform c).Ensures K (s.MayReply found stored c) := by
  have reading : ∀ k, c.key = k → c.IsRead →
      (read k >>= fun f => pure (c.report f)).Ensures K (s.MayReply found stored c) := by
    rintro k rfl looks
    refine (read_ensures (fun valid => calls _ (.find looks valid)) clock
      fun valid now => calls _ (.expire looks valid now)).bind ?_
    rintro f ⟨valid, g, answered, rfl | rfl⟩
    · exact ensures_pure (.found looks valid (finds _ answered))
    · exact ensures_pure (.released looks valid (finds g answered))
  cases c with
  | add k =>
    refine (add_ensures fun valid => calls _ (.add valid)).bind ?_
    rintro f ⟨valid, rfl⟩
    exact ensures_pure (.add valid)
  | read k => exact reading k rfl trivial
  | isLocked k =>
    simp only [perform, isLocked, bind_assoc, pure_bind]
    exact reading k rfl trivial
  | lockReasons k =>
    simp only [perform, lockReasons, bind_assoc, pure_bind]
    exact reading k rfl trivial
  | lock k d codes =>
    refine (lock_ensures clock fun f locks => calls _ (.lock locks)).bind ?_
    rintro f ⟨locks, answered⟩
    exact ensures_pure (.lock locks (stores f answered))
  | lockForDefault k codes =>
    refine (lock_ensures clock fun f locks => calls _ (.lockForDefault locks)).bind ?_
    rintro f ⟨locks, answered⟩
    exact ensures_pure (.lockForDefault locks (stores f answered))
  | unlock k =>
    refine (unlock_ensures fun valid => calls _ (.unlock valid)).bind ?_
    rintro f ⟨⟨valid, rfl⟩, answered⟩
    exact ensures_pure (.unlock valid (stores _ answered))
  | delete k =>
    exact (delete_ensures fun valid => calls _ (.delete valid)).bind fun _ _ => ensures_pure .delete

end Service

/-! ### Keys -/

/-- **The contract of programs that call the store under one key only.** -/
def Ask.under (k : Key) : Contract Ask Ask.Answer where
  asks
    | .call c => c.key = k
    | .clock => True
  answers _ _ := True

/-- The calls of an operation are under the key that it addresses. -/
theorem Service.MayCall.key {s : Service} {c : Command} {call : Call} (h : s.MayCall c call) :
    call.key = c.key := by
  cases h with
  | lock locks =>
    obtain ⟨_, _, _, _, rfl⟩ := locks
    rfl
  | lockForDefault locks =>
    obtain ⟨_, _, _, _, rfl⟩ := locks
    rfl
  | _ => rfl

/-- **An operation keeps to its key.** -/
theorem Service.perform_under (s : Service) (c : Command) :
    Program.Fulfils (Ask.under c.key) (fun _ => True) (s.perform c) :=
  (s.perform_ensures (K := Ask.under c.key) c (fun _ => True) (fun _ => True) trivial
    (fun _ may => may.key) (fun _ _ => trivial) fun _ _ => trivial).fulfils.mono fun _ _ => trivial

end FeatureLock
