import FeatureLock.Proofs.Lock.Failing
import FeatureLock.Proofs.Lock.Resolution

/-!
# Arguments are judged before the store is asked

An operation that is given a bad argument says what is wrong with it and asks the
store nothing.  What can be wrong is listed here as objections, in the order in which
they are raised; the first one that holds is the one that is reported.

## Main Definitions

- `Objection`, `Objection.first?`: a condition with the wording of the refusal, and the
  wording of the first one that holds
- `Objection.toKey`, `Objection.toCodes`, `Objection.toDuration`: the objections to the
  arguments of a lock
- `Objection.Decide`: a check that fails exactly as objections say
- `Service.judge`: the checks of the arguments of a command

Main statements: `Objection.decide_judge`, the checks are the objections;
`Session.heedsVerdict_judge`, an operation does as they say; and
`first_objection_is_reported`.

## Design Notes

The session is any at all: its table may be missing, and hooks may wait for its calls.
A failure that comes from a call names a key, and a refused argument does not, so the
two are never taken for each other.
-/

namespace FeatureLock

/-- An instant and a duration can only come too late for the clock, never too early. -/
theorem Instant.after?_eq (now : Instant) (d : Duration) :
    now.after? d =
      if maxMillis < now.toInt + d.millis then none
      else some (Int64.ofInt (now.toInt + d.millis)) := by
  have low := minMillis_le now
  rw [after?, ofInt?]
  split
  · next within => exact (if_neg (Int.not_lt.mpr within.2)).symm
  · next without => exact (if_pos (by omega)).symm

/-! ### Objections -/

/-- A condition under which an argument is refused, and what is said then. -/
structure Objection where
  holds : Bool
  wording : String

namespace Objection

/-- **The wording of the first objection that holds.** -/
def first? (objections : List Objection) : Option String :=
  (objections.find? (·.holds)).map (·.wording)

/-- A text must not be blank, and it must not have more than 255 characters. -/
def toText (name text : String) : List Objection :=
  [⟨decide (Text.IsBlank text), name ++ " must not be blank"⟩,
    ⟨decide (255 < text.length), name ++ " exceeds 255 characters"⟩]

/-- The parts of a key are judged as they are, the subject first. -/
def toKey (k : Key) : List Objection :=
  toText "subject id" k.subject ++ toText "feature type" k.featureType

/-- Codes are judged from the first to the last, as they are trimmed. -/
def toCodes (codes : List String) : List Objection :=
  codes.flatMap fun code => toText "lock reason code" (Text.trim code)

/-- A lock has to last for at least a millisecond, for no more of them than 63 bits hold, and until
an instant that the clock can show. -/
def toDuration (now : Instant) : Option Duration → List Objection
  | none => []
  | some d =>
    let tooFar := "lock duration " ++ d.describe ++ " is out of range"
    [⟨decide (d.millis < 1), "lock duration must be at least one millisecond"⟩,
      ⟨decide (Instant.maxMillis < d.millis), tooFar⟩,
      ⟨decide (Instant.maxMillis < now.toInt + d.millis), tooFar⟩]

/-- The objections to the arguments of a command at an instant. -/
def toCommand (s : Service) (now : Instant) : Command → List Objection
  | .lock k d codes => toKey k ++ (toCodes codes ++ toDuration now d)
  | .lockForDefault k codes => toKey k ++ (toCodes codes ++ toDuration now (some s.defaultDuration))
  | c => toKey c.key

@[simp] theorem first?_nil : first? [] = none := rfl

@[simp] theorem first?_cons (o : Objection) (objections : List Objection) :
    first? (o :: objections) = if o.holds then some o.wording else first? objections := by
  rw [first?, List.find?_cons]
  cases o.holds <;> rfl

theorem first?_append (objections more : List Objection) :
    first? (objections ++ more) = (first? objections).or (first? more) := by
  rw [first?, List.find?_append, Option.map_or, first?, first?]

theorem isSome_first?_iff {objections : List Objection} :
    (first? objections).isSome = true ↔ ∃ o ∈ objections, o.holds = true := by
  rw [first?, Option.isSome_map, List.find?_isSome]

@[simp] theorem isSome_first?_append {objections more : List Objection} :
    (first? (objections ++ more)).isSome = true ↔
      (first? objections).isSome = true ∨ (first? more).isSome = true := by
  rw [first?_append, Option.isSome_or, Bool.or_eq_true]

/-- A text that is refused: a blank one, or one with more than 255 characters. -/
def IsUnfit (text : String) : Prop :=
  Text.IsBlank text ∨ 255 < text.length

/-- A duration that is refused at an instant: one of less than a millisecond, one of more
milliseconds than 63 bits hold, or one that ends when the clock can show it no more. -/
def IsOutOfRange (now : Instant) (d : Duration) : Prop :=
  d.millis < 1 ∨ Instant.maxMillis < d.millis ∨ Instant.maxMillis < now.toInt + d.millis

@[simp] theorem isSome_first?_toText {name text : String} :
    (first? (toText name text)).isSome = true ↔ IsUnfit text := by
  rw [isSome_first?_iff]
  simp [toText, IsUnfit]

@[simp] theorem isSome_first?_toKey {k : Key} :
    (first? (toKey k)).isSome = true ↔ IsUnfit k.subject ∨ IsUnfit k.featureType := by
  rw [toKey, isSome_first?_append, isSome_first?_toText, isSome_first?_toText]

@[simp] theorem isSome_first?_toCodes {codes : List String} :
    (first? (toCodes codes)).isSome = true ↔ ∃ code ∈ codes, IsUnfit (Text.trim code) := by
  induction codes with
  | nil => simp [toCodes]
  | cons code codes ih =>
    rw [toCodes] at ih
    simp [toCodes, ih]

@[simp] theorem isSome_first?_toDuration {now : Instant} {d : Option Duration} :
    (first? (toDuration now d)).isSome = true ↔ ∃ dur, d = some dur ∧ IsOutOfRange now dur := by
  rw [isSome_first?_iff]
  cases d <;> simp [toDuration, IsOutOfRange]

/-! ### Checks that fail as objections say -/

/-- What a check says when it fails. -/
def wording? {α : Type} : Except Complaint α → Option String
  | .ok _ => none
  | .error why => some why.message

theorem wording?_ite {α : Type} {p : Prop} [Decidable p] (why : Complaint)
    (check : Except Complaint α) :
    wording? (if p then .error why else check) =
      if p then some why.message else wording? check := by
  split <;> rfl

/-- **Objections decide a check** when it says what the first of them says, and passes if none of
them holds. -/
def Decide {α : Type} (objections : List Objection) (check : Except Complaint α) : Prop :=
  wording? check = first? objections

namespace Decide

variable {α β : Type} {objections more : List Objection} {check : Except Complaint α}

/-- One check after another. -/
theorem bind {next : α → Except Complaint β} (h : Decide objections check)
    (rest : ∀ a, check = .ok a → Decide more (next a)) :
    Decide (objections ++ more) (check >>= next) := by
  rw [Decide, first?_append, ← h]
  cases check with
  | error why => rfl
  | ok a => exact rest a rfl

theorem map (h : Decide objections check) (f : α → β) : Decide objections (check.map f) := by
  rw [Decide, ← h]
  cases check <;> rfl

/-- A text is judged by its own two objections. -/
theorem checkPart (p : Part) (text : String) :
    Decide (toText p.name text) (Key.checkPart p text) := by
  have wording : (Complaint.tooLong p).message = p.name ++ " exceeds 255 characters" := by
    cases p <;> rfl
  simp only [Decide, toText, first?_cons, first?_nil, decide_eq_true_eq, Key.checkPart,
    Text.trim_eq_empty_iff, wording?_ite, wording]
  rfl

theorem validate (k : Key) : Decide (toKey k) k.validate :=
  (checkPart .subject k.subject).bind fun _ _ => checkPart .featureType k.featureType

theorem checkCodes (codes : List String) : Decide (toCodes codes) (Catalog.checkCodes codes) := by
  induction codes with
  | nil => rfl
  | cons code codes ih =>
    rw [Catalog.checkCodes_cons]
    exact (checkPart .reasonCode (Text.trim code)).bind fun _ _ => ih

theorem resolve (cat : Catalog) (codes : List String) :
    Decide (toCodes codes) (cat.resolve codes) := by
  rw [Catalog.resolve_eq]
  exact (checkCodes codes).map _

theorem deadline (now : Instant) (d : Option Duration) :
    Decide (toDuration now d) (now.deadline d) := by
  cases d with
  | none => rfl
  | some d =>
    simp only [Decide, toDuration, first?_cons, first?_nil, decide_eq_true_eq, Nat.lt_one_iff,
      Instant.deadline, wording?_ite, Instant.after?_eq]
    -- the first two checks are the first two objections; the third is in the sum
    congr 2
    by_cases late : Instant.maxMillis < now.toInt + d.millis
    · simp only [if_pos late]
      rfl
    · simp only [if_neg late]
      rfl

theorem lockedAt (s : Service) (now : Instant) (k : Key) (d : Option Duration)
    (codes : List String) :
    Decide (toKey k ++ (toCodes codes ++ toDuration now d)) (s.lockedAt now k d codes) := by
  refine (validate k).bind fun _ _ => (resolve s.catalog codes).bind fun reasons _ => ?_
  have ends := (deadline now d).map fun t : Instant =>
    (⟨k, true, t, reasons.codes, reasons.reasons⟩ : Feature)
  exact ends

end Decide

end Objection

/-! ### Operations -/

/-- **The checks of the arguments of a command** at an instant. -/
def Service.judge (s : Service) (now : Instant) : Command → Except Complaint Unit
  | .lock k d codes => (s.lockedAt now k d codes).map fun _ => ()
  | .lockForDefault k codes => (s.lockedAt now k (some s.defaultDuration) codes).map fun _ => ()
  | c => c.key.validate

/-- **The objections to a command are its checks.** -/
theorem Objection.decide_judge (s : Service) (now : Instant) (c : Command) :
    Decide (toCommand s now c) (s.judge now c) := by
  cases c with
  | lock k d codes => exact (Decide.lockedAt s now k d codes).map _
  | lockForDefault k codes => exact (Decide.lockedAt s now k (some s.defaultDuration) codes).map _
  | _ => exact Decide.validate _

/-- A result that is no refusal of an argument: if it is a failure, it names a key. -/
def IsKeyed (result : Except Failure Reply) : Prop :=
  ∀ e, result = .error e → ∃ k, e.key? = some k

/-- **The contract of programs whose calls fail only with failures that name a key.** -/
def Ask.keyed : Contract Ask Ask.Answer where
  asks _ := True
  answers q a := ∀ e, Ask.signals.failure q a = some e → ∃ k, e.key? = some k

namespace Stage

/-- The stages at which no argument is left to judge, and there is something left to ask. -/
def IsJudged : Stage → Prop
  | timing .. => False
  | finished _ => False
  | _ => True

variable {c : Command} {call : Call}

theorem fulfils_call {next : Outcome call → Operation Reply}
    (ok : ∀ a, Program.Fulfils Ask.keyed IsKeyed (next (.ok a)))
    (error : ∀ e, next (.error e) = .done (.error e)) :
    Program.Fulfils Ask.keyed IsKeyed (.ask (.call call) next) := by
  refine ⟨trivial, fun a keyed => ?_⟩
  cases a with
  | ok a => exact ok a
  | error e =>
    rw [error]
    rintro _ ⟨⟩
    exact keyed e rfl

theorem isKeyed_notFound (k : Key) : IsKeyed (.error (.notFound k)) := by
  rintro _ ⟨⟩
  exact ⟨k, rfl⟩

theorem searchAgain_keyed (c : Command) : Program.Fulfils Ask.keyed IsKeyed (searchAgain c) := by
  refine fulfils_call (fun found => ?_) fun _ => rfl
  rcases found with _ | f
  · exact isKeyed_notFound c.key
  · exact nofun

theorem release_keyed (c : Command) (f : Feature) (now : Instant) :
    Program.Fulfils Ask.keyed IsKeyed (release c f now) := by
  refine fulfils_call (fun released => ?_) fun _ => rfl
  rcases released with _ | _
  · exact searchAgain_keyed c
  · exact nofun

theorem judge_keyed (c : Command) (f : Feature) :
    Program.Fulfils Ask.keyed IsKeyed (judge c f) := by
  refine ⟨trivial, fun now _ => ?_⟩
  dsimp only
  split
  · exact release_keyed c f now
  · exact nofun

/-- **Where no argument is left to judge, a failure names a key.** -/
theorem program_keyed (c : Command) (st : Stage) (judged : st.IsJudged) :
    Program.Fulfils Ask.keyed IsKeyed (st.program c) := by
  cases st with
  | adding => exact fulfils_call (fun _ => nofun) fun _ => rfl
  | searching =>
    refine fulfils_call (fun found => ?_) fun _ => rfl
    rcases found with _ | f
    · exact isKeyed_notFound c.key
    · exact judge_keyed c f
  | judging f => exact judge_keyed c f
  | releasing f now => exact release_keyed c f now
  | searchingAgain => exact searchAgain_keyed c
  | timing d reasons => exact judged.elim
  | replacing f =>
    refine fulfils_call (fun found => ?_) fun _ => rfl
    rcases found with _ | _
    · exact isKeyed_notFound f.key
    · exact nofun
  | deleting => exact fulfils_call (fun _ => nofun) fun _ => rfl
  | finished result => exact judged.elim

end Stage

/-! ### Sessions -/

namespace Session

/-- A call that fails names its key, whatever hooks there are. -/
theorem key_of_call_error {t : Session} {c : Call} {e : Failure}
    (failed : (t.call c).1 = .error e) : e.key? = some c.key := by
  -- without a hook, and behind one that lets the call through, it is the store that fails
  simp only [call] at failed
  split at failed
  · exact Store.key_of_error failed
  · split at failed
    · cases failed
      rfl
    · exact Store.key_of_error failed

/-- A call is noted, whatever hooks there are. -/
theorem calls_call (t : Session) (c : Call) : (t.call c).2.calls = t.calls ++ [c.kind] := by
  simp only [call]
  split
  · rfl
  · split <;> rfl

/-- In any session calls fail only with failures that name a key. -/
theorem answer_keyed (q : Ask) (t : Session) : Ask.keyed.answers q (t.answer q).1 := by
  cases q with
  | clock => exact nofun
  | call c =>
    intro e told
    refine ⟨c.key, key_of_call_error (t := t) ?_⟩
    simp only [answer] at told
    cases outcome : (t.call c).1 with
    | ok a =>
      rw [outcome] at told
      cases told
    | error why =>
      rw [outcome] at told
      cases told
      rfl

theorem run_keyed {p : Operation Reply} (fulfils : Program.Fulfils Ask.keyed IsKeyed p)
    (t : Session) : IsKeyed (Program.run answer p t).1 := by
  have keeps : ∀ (q : Ask) (t : Session), Ask.keyed.asks q → True →
      Ask.keyed.answers q (t.answer q).1 ∧ True :=
    fun q t _ _ => ⟨answer_keyed q t, trivial⟩
  exact (fulfils.run_keeps keeps trivial).1

/-- **A lock is refused at once, or its feature is put in place.** -/
theorem run_lock (s : Service) (t : Session) (k : Key) (d : Option Duration) (codes : List String) :
    Program.run answer (s.perform (.lock k d codes)) t =
      match s.lockedAt t.now k d codes with
      | .error why => (.error (.illegalArgument why), t)
      | .ok f => Program.run answer (Stage.replace f) t :=
  Service.run_lock rfl s k d codes

theorem run_replace (t : Session) (f : Feature) :
    (Program.run answer (Stage.replace f) t).2 = (t.call (.update f)).2 := by
  simp only [Stage.replace, Program.run_ask, answer]
  rcases (t.call (.update f)).1 with e | _ | _ <;> rfl

/-- **A lock makes one call**, unless there is an objection to its arguments. -/
theorem calls_lock (s : Service) (t : Session) (k : Key) (d : Option Duration)
    (codes : List String) :
    (Program.run answer (s.perform (.lock k d codes)) t).2.calls =
      t.calls ++
        if (Objection.first? (Objection.toCommand s t.now (.lock k d codes))).isSome then []
        else [.update] := by
  have decides : Objection.wording? (s.lockedAt t.now k d codes) =
      Objection.first? (Objection.toCommand s t.now (.lock k d codes)) :=
    Objection.Decide.lockedAt s t.now k d codes
  rw [run_lock, ← decides]
  cases s.lockedAt t.now k d codes with
  | error why => exact (List.append_nil _).symm
  | ok f =>
    simp only [run_replace, calls_call]
    rfl

/-- An operation heeds a verdict on its arguments: when one of them is refused that is all it says
and does, and when none is refused it never says so. -/
structure HeedsVerdict (p : Operation Reply) (t : Session) (verdict : Except Complaint Unit) :
    Prop where
  refused : ∀ why, verdict = .error why →
    Program.run answer p t = (.error (.illegalArgument why), t)
  accepted : ∀ a, verdict = .ok a → IsKeyed (Program.run answer p t).1

theorem heedsVerdict_lock (s : Service) (t : Session) (k : Key) (d : Option Duration)
    (codes : List String) :
    HeedsVerdict (s.perform (.lock k d codes)) t
      ((s.lockedAt t.now k d codes).map fun _ => ()) := by
  have runs := run_lock s t k d codes
  cases locks : s.lockedAt t.now k d codes with
  | error why =>
    simp only [locks] at runs
    refine ⟨?_, nofun⟩
    rintro _ ⟨⟩
    exact runs
  | ok f =>
    simp only [locks] at runs
    refine ⟨nofun, fun _ _ => ?_⟩
    rw [runs]
    exact run_keyed (Stage.program_keyed (.lock k d codes) (.replacing f) trivial) t

/-- An operation that begins with the check of its key heeds that check. -/
theorem heedsVerdict_checked {s : Service} (c : Command) (st : Stage) (judged : st.IsJudged)
    (first : Stage.first s c = Stage.checked c.key.validate fun _ => st) (t : Session) :
    HeedsVerdict (s.perform c) t c.key.validate := by
  rw [Service.perform_eq_program, first]
  cases c.key.validate with
  | error why =>
    refine ⟨?_, nofun⟩
    rintro _ ⟨⟩
    rfl
  | ok _ => exact ⟨nofun, fun _ _ => run_keyed (Stage.program_keyed c st judged) t⟩

/-- **Every operation heeds the verdict on its arguments.** -/
theorem heedsVerdict_judge (s : Service) (t : Session) (c : Command) :
    HeedsVerdict (s.perform c) t (s.judge t.now c) := by
  cases c with
  | add k =>
    exact heedsVerdict_checked _ .adding trivial (by simp only [Stage.first, Command.key]) t
  | read k =>
    exact heedsVerdict_checked _ .searching trivial (by simp only [Stage.first, Command.key]) t
  | isLocked k =>
    exact heedsVerdict_checked _ .searching trivial (by simp only [Stage.first, Command.key]) t
  | lockReasons k =>
    exact heedsVerdict_checked _ .searching trivial (by simp only [Stage.first, Command.key]) t
  | lock k d codes => exact heedsVerdict_lock s t k d codes
  | lockForDefault k codes => exact heedsVerdict_lock s t k (some s.defaultDuration) codes
  | unlock k =>
    exact heedsVerdict_checked _ (.replacing (.fresh k)) trivial
      (by simp only [Stage.first, Command.key]) t
  | delete k =>
    exact heedsVerdict_checked _ .deleting trivial (by simp only [Stage.first, Command.key]) t

end Session

/-! ### What is reported -/

/-- The message of a result that is the refusal of an argument. -/
def refusal? : Except Failure Reply → Option String
  | .error (.illegalArgument why) => some (Failure.illegalArgument why).message
  | _ => none

theorem isSome_refusal?_iff {result : Except Failure Reply} :
    (refusal? result).isSome = true ↔ ∃ why, result = .error (.illegalArgument why) := by
  constructor
  · intro refused
    rcases result with (_ | _ | why | _) | _
    · cases refused
    · cases refused
    · exact ⟨why, rfl⟩
    · cases refused
    · cases refused
  · rintro ⟨why, rfl⟩
    rfl

theorem refusal?_of_isKeyed {result : Except Failure Reply} (keyed : IsKeyed result) :
    refusal? result = none := by
  refine Option.not_isSome_iff_eq_none.mp fun refused => ?_
  obtain ⟨why, rfl⟩ := isSome_refusal?_iff.mp refused
  obtain ⟨k, named⟩ := keyed _ rfl
  cases named

/-- **A command answers with the first objection to its arguments**, and then has made no call. -/
theorem Session.refusal?_command (s : Session) (c : Command) :
    ∃ result calls stored, (s.perform (.command c)).1 = .performed result calls stored ∧
      refusal? result =
        (Objection.first? (Objection.toCommand s.service s.now c)).map ("caused: " ++ ·) ∧
      ((Objection.first? (Objection.toCommand s.service s.now c)).isSome = true → calls = []) := by
  refine ⟨_, _, _, congrArg Prod.fst (s.perform_command c rfl), ?_⟩
  have heeds : HeedsVerdict (s.service.perform c) { s with calls := [] }
      (s.service.judge s.now c) := heedsVerdict_judge s.service { s with calls := [] } c
  have decides : Objection.wording? (s.service.judge s.now c) =
      Objection.first? (Objection.toCommand s.service s.now c) :=
    Objection.decide_judge s.service s.now c
  rw [← decides]
  cases verdict : s.service.judge s.now c with
  | error why =>
    rw [heeds.refused why verdict]
    exact ⟨rfl, fun _ => rfl⟩
  | ok a => exact ⟨refusal?_of_isKeyed (heeds.accepted a verdict), nofun⟩

/-- The calls of a lock are one update, or none if there is an objection to its arguments. -/
theorem Session.calls_eq_of_perform_lock {s : Session} {k : Key} {d : Option Duration}
    {codes : List String} {result : Except Failure Reply} {calls : List CallKind}
    {stored : Except Failure (Option Feature)}
    (performed :
      (s.perform (.command (.lock k d codes))).1 = .performed result calls stored) :
    calls =
      if (Objection.first? (Objection.toCommand s.service s.now (.lock k d codes))).isSome then []
      else [.update] := by
  rw [s.perform_command (.lock k d codes) rfl] at performed
  obtain ⟨-, rfl, -⟩ := Session.Answer.performed.inj performed
  exact (calls_lock s.service { s with calls := [] } k d codes).trans (List.nil_append _)

/-- **The first objection is reported, before the store is asked.**  A lock is refused for the first
objection to its key, its codes and its duration, in this order; then it has made no call, and
otherwise it makes one.  The other operations object to the same keys in the same words. -/
theorem first_objection_is_reported (s : Session) (k : Key) :
    (∀ (d : Option Duration) (codes : List String), ∃ result stored,
      let objections :=
        Objection.toKey k ++ (Objection.toCodes codes ++ Objection.toDuration s.now d)
      (s.perform (.command (.lock k d codes))).1 =
          .performed result
            (if (Objection.first? objections).isSome then [] else [.update]) stored ∧
        refusal? result = (Objection.first? objections).map ("caused: " ++ ·) ∧
        ((∃ why, result = .error (.illegalArgument why)) ↔
          Objection.IsUnfit k.subject ∨ Objection.IsUnfit k.featureType ∨
            (∃ code ∈ codes, Objection.IsUnfit (Text.trim code)) ∨
            ∃ dur, d = some dur ∧ Objection.IsOutOfRange s.now dur)) ∧
    ∀ c ∈ [Command.add k, .read k, .isLocked k, .lockReasons k, .unlock k, .delete k],
      ∃ result calls stored, (s.perform (.command c)).1 = .performed result calls stored ∧
        refusal? result = (Objection.first? (Objection.toKey k)).map ("caused: " ++ ·) ∧
        ((Objection.first? (Objection.toKey k)).isSome = true → calls = []) := by
  constructor
  · intro d codes
    obtain ⟨result, calls, stored, performed, refusal, -⟩ :=
      s.refusal?_command (.lock k d codes)
    refine ⟨result, stored, ?_, refusal, ?_⟩
    · rw [performed, Session.calls_eq_of_perform_lock performed]
      rfl
    · rw [← isSome_refusal?_iff, refusal, Option.isSome_map]
      simp only [Objection.toCommand, Objection.isSome_first?_append,
        Objection.isSome_first?_toKey, Objection.isSome_first?_toCodes,
        Objection.isSome_first?_toDuration, or_assoc]
  · intro c among
    have objects : Objection.toCommand s.service s.now c = Objection.toKey k := by
      simp only [List.mem_cons, List.not_mem_nil, or_false] at among
      rcases among with rfl | rfl | rfl | rfl | rfl | rfl <;> rfl
    rw [← objects]
    exact s.refusal?_command c

/-- Without a table, a blank type is reported for a lock and for a deletion alike: the store would
have failed, and so would the code and the duration. -/
theorem blank_type_is_reported :
    let s := Session.start ⟨.empty, standardDuration⟩ (.database ⟨none, false, .matched, []⟩)
      (Int64.ofInt Instant.maxMillis)
    let k : Key := ⟨1, "alice", "\t"⟩
    (∃ result stored,
      (s.perform (.command (.lock k (some (.ofMillis 1)) [""]))).1 = .performed result [] stored ∧
        refusal? result = some "caused: feature type must not be blank") ∧
      ∃ result stored, (s.perform (.command (.delete k))).1 = .performed result [] stored ∧
        refusal? result = some "caused: feature type must not be blank" := by
  intro s k
  obtain ⟨locks, others⟩ := first_objection_is_reported s k
  have first : Objection.first? (Objection.toKey k) = some "feature type must not be blank" := by
    decide
  constructor
  · obtain ⟨result, stored, performed, refusal, -⟩ := locks (some (.ofMillis 1)) [""]
    rw [Objection.first?_append, first] at performed refusal
    exact ⟨result, stored, performed, refusal⟩
  · obtain ⟨result, calls, stored, performed, refusal, silent⟩ := others (.delete k) (by simp)
    rw [first] at refusal silent
    obtain rfl := silent rfl
    exact ⟨result, stored, performed, refusal⟩

end FeatureLock
