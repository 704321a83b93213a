import FeatureLock.Config.Configuration
import FeatureLock.Proofs.Lock.Messages
import Mathlib.Data.List.Forall2

/-!
# The configured reasons are taken whole or not at all

A setting that is missing is no fault of the list of reasons: without a list there are
no reasons.  So no fault within a list may be taken for the list being missing, or one
bad entry would make all reasons go without notice.

## Main Definitions

- `Value.IsReason`: the values that are read as a reason
- `Configuration.ListsReasons`: the entries that a configuration lists
- `Configuration.reasonEntries`: the reasons as a setting that has to be there

Main statements: `Configuration.reasonCatalog_eq`, the only fault that counts as no
reasons is that of the setting itself; `Configuration.reasonCatalog_eq_error_iff`, every
other fault; and `reason_list_is_whole_or_refused`.
-/

namespace FeatureLock

/-! ### One reason -/

/-- **The values that are read as a reason**: a table with a code and a message, or a list that
begins with them, both of which have a text.  What else is in the table or the list does not
count. -/
inductive Value.IsReason : Value → String × String → Prop
  | table {entries : List (String × Value)} {v w : Value} {code message : String} :
      entries.lookup "code" = some v → entries.lookup "message" = some w →
      v.asText = .ok code → w.asText = .ok message →
      IsReason (.table entries) (code, message)
  | list {v w : Value} {rest : List Value} {code message : String} :
      v.asText = .ok code → w.asText = .ok message →
      IsReason (.list (v :: w :: rest)) (code, message)

/-- A value without a text is of the wrong type, whatever it is. -/
theorem Value.asText_cases (v : Value) :
    (∃ text, v.asText = .ok text) ∨ v.asText = .error .wrongType := by
  cases v with
  | bool b => cases b <;> exact .inl ⟨_, rfl⟩
  | int n => exact .inl ⟨_, rfl⟩
  | float x => exact .inl ⟨_, rfl⟩
  | text s => exact .inl ⟨_, rfl⟩
  | _ => exact .inr rfl

namespace Configuration

theorem mapM_asText_some {v : Value} {t : String} (text : v.asText = .ok t) :
    (some v).mapM Value.asText = .ok (some t) := by
  show some <$> v.asText = .ok (some t)
  rw [text]
  rfl

/-- A field of a reason is of the wrong type, or missing, or has a text. -/
theorem mapM_asText_cases (found : Option Value) :
    found.mapM Value.asText = .error .wrongType ∨ found.mapM Value.asText = .ok none ∨
      ∃ v text, found = some v ∧ v.asText = .ok text ∧
        found.mapM Value.asText = .ok (some text) := by
  cases found with
  | none => exact .inr (.inl rfl)
  | some v =>
    rcases v.asText_cases with ⟨text, ok⟩ | failed
    · exact .inr (.inr ⟨v, text, rfl, ok, mapM_asText_some ok⟩)
    · refine .inl ?_
      show some <$> v.asText = .error .wrongType
      rw [failed]
      rfl

theorem reason_of_isReason {v : Value} {entry : String × String} (is : v.IsReason entry) :
    reason v = .ok entry := by
  cases is with
  | table here here' text text' =>
    simp only [reason, here, here', mapM_asText_some text, mapM_asText_some text']
    rfl
  | list text text' =>
    simp only [reason, text, text']
    rfl

/-- **A value is a reason, or it has a fault**, which is never that of a missing setting. -/
theorem reason_cases (v : Value) :
    (∃ entry, v.IsReason entry) ∨
      ∃ fault, reason v = .error fault ∧ (fault = .wrongType ∨ fault = .wrongEntry) := by
  have refused : ∀ {fault}, reason v = .error fault → fault = .wrongType ∨ fault = .wrongEntry →
      (∃ entry, v.IsReason entry) ∨
        ∃ fault, reason v = .error fault ∧ (fault = .wrongType ∨ fault = .wrongEntry) :=
    fun failed which => .inr ⟨_, failed, which⟩
  cases v with
  | table entries =>
    rcases mapM_asText_cases (entries.lookup "code") with code | code | ⟨v, c, here, text, code⟩
    · exact refused (by simp only [reason, code]; rfl) (.inl rfl)
    · -- without a code, it still counts whether the message has a text
      rcases mapM_asText_cases (entries.lookup "message") with m | m | ⟨w, d, -, -, m⟩
      · exact refused (by simp only [reason, code, m]; rfl) (.inl rfl)
      · exact refused (by simp only [reason, code, m]; rfl) (.inr rfl)
      · exact refused (by simp only [reason, code, m]; rfl) (.inr rfl)
    · rcases mapM_asText_cases (entries.lookup "message") with m | m | ⟨w, d, here', text', m⟩
      · exact refused (by simp only [reason, code, m]; rfl) (.inl rfl)
      · exact refused (by simp only [reason, code, m]; rfl) (.inr rfl)
      · exact .inl ⟨_, .table here here' text text'⟩
  | list items =>
    rcases items with _ | ⟨first, rest⟩
    · exact refused rfl (.inr rfl)
    · rcases first.asText_cases with ⟨c, text⟩ | code
      · rcases rest with _ | ⟨second, rest⟩
        · exact refused (by simp only [reason, text]; rfl) (.inr rfl)
        · rcases second.asText_cases with ⟨d, text'⟩ | message
          · exact .inl ⟨_, .list text text'⟩
          · exact refused (by simp only [reason, text, message]; rfl) (.inl rfl)
      · exact refused (by simp only [reason, code]; rfl) (.inl rfl)
  | _ => exact refused rfl (.inr rfl)

/-- **A value is read as the reason that it is**, and any other value is refused. -/
theorem reason_eq_ok_iff {v : Value} {entry : String × String} :
    reason v = .ok entry ↔ v.IsReason entry := by
  refine ⟨fun read => ?_, reason_of_isReason⟩
  rcases reason_cases v with ⟨other, is⟩ | ⟨fault, failed, -⟩
  · obtain rfl := Except.ok.inj ((reason_of_isReason is).symm.trans read)
    exact is
  · cases failed.symm.trans read

theorem reason_error {v : Value} {fault : SettingFault} (failed : reason v = .error fault) :
    fault = .wrongType ∨ fault = .wrongEntry := by
  rcases reason_cases v with ⟨entry, is⟩ | ⟨other, failed', which⟩
  · cases (reason_of_isReason is).symm.trans failed
  · obtain rfl := Except.error.inj (failed'.symm.trans failed)
    exact which

end Configuration

/-! ### A list of reasons -/

section

variable {α β ε : Type} {read : α → Except ε β} {xs : List α} {ys : List β} {fault : ε}

/-- Items are all read, or none of them is taken. -/
theorem mapM_eq_ok_iff :
    xs.mapM read = .ok ys ↔ List.Forall₂ (fun x y => read x = .ok y) xs ys := by
  induction xs generalizing ys with
  | nil =>
    rw [List.forall₂_nil_left_iff]
    exact ⟨fun ok => (Except.ok.inj ok).symm, fun none => none ▸ rfl⟩
  | cons x xs ih =>
    rw [List.mapM_cons, List.forall₂_cons_left_iff]
    simp only [← ih]
    constructor
    · intro ok
      cases first : read x with
      | error why =>
        rw [first] at ok
        cases ok
      | ok y =>
        cases rest : xs.mapM read with
        | error why =>
          rw [first, rest] at ok
          cases ok
        | ok zs =>
          rw [first, rest] at ok
          exact ⟨y, zs, rfl, rfl, (Except.ok.inj ok).symm⟩
    · rintro ⟨y, zs, first, rest, rfl⟩
      rw [first, rest]
      rfl

/-- The fault of a list is that of its first item that cannot be read. -/
theorem mapM_eq_error_iff :
    xs.mapM read = .error fault ↔ ∃ before x after, xs = before ++ x :: after ∧
      (∀ y ∈ before, ∃ b, read y = .ok b) ∧ read x = .error fault := by
  induction xs with
  | nil =>
    refine ⟨nofun, ?_⟩
    rintro ⟨before, x, after, empty, -⟩
    simp at empty
  | cons x xs ih =>
    rw [List.mapM_cons]
    cases first : read x with
    | error why =>
      constructor
      · intro failed
        cases failed
        exact ⟨[], x, xs, rfl, nofun, first⟩
      · rintro ⟨_ | ⟨y, before⟩, z, after, split, earlier, failed⟩
        · cases split
          cases first.symm.trans failed
          rfl
        · cases split
          obtain ⟨b, ok⟩ := earlier x List.mem_cons_self
          cases first.symm.trans ok
    | ok b =>
      have rest : (Except.ok b >>= fun b => xs.mapM read >>= fun bs => pure (b :: bs)) =
          .error fault ↔ xs.mapM read = .error fault := by
        cases xs.mapM read with
        | error why => exact Iff.rfl
        | ok bs => exact ⟨nofun, nofun⟩
      rw [rest, ih]
      constructor
      · rintro ⟨before, z, after, rfl, earlier, failed⟩
        refine ⟨x :: before, z, after, rfl, ?_, failed⟩
        rw [List.forall_mem_cons]
        exact ⟨⟨b, first⟩, earlier⟩
      · rintro ⟨_ | ⟨y, before⟩, z, after, split, earlier, failed⟩
        · cases split
          cases first.symm.trans failed
        · cases split
          exact ⟨before, z, after, rfl, fun y mem => earlier y (List.mem_cons_of_mem _ mem), failed⟩

theorem exists_forall₂_iff {R : α → β → Prop} :
    (∃ ys, List.Forall₂ R xs ys) ↔ ∀ x ∈ xs, ∃ y, R x y := by
  induction xs with
  | nil => exact ⟨fun _ => nofun, fun _ => ⟨[], .nil⟩⟩
  | cons x xs ih =>
    rw [List.forall_mem_cons, ← ih]
    constructor
    · rintro ⟨_, first | ⟨first, rest⟩⟩
      exact ⟨⟨_, first⟩, _, rest⟩
    · rintro ⟨⟨y, first⟩, ys, rest⟩
      exact ⟨y :: ys, .cons first rest⟩

end

/-! ### The reasons of a configuration -/

namespace Configuration

variable {c : Configuration} {entries : List (String × String)} {cat : Catalog}
  {fault : SettingFault}

/-- **The entries that a configuration lists**: every item of its list is one of them. -/
def ListsReasons (c : Configuration) (entries : List (String × String)) : Prop :=
  ∃ vs, c.tree.get? reasonsPath = some (.list vs) ∧ List.Forall₂ Value.IsReason vs entries

/-- The entries of a list of reasons that has to be there. -/
def reasonEntries (c : Configuration) : Except SettingFault (List (String × String)) := do
  match ← c.tree.setting reasonsPath with
  | .list vs => vs.mapM reason
  | _ => .error .wrongEntry

theorem reasonEntries_of_missing (missing : c.tree.get? reasonsPath = none) :
    c.reasonEntries = .error (.missing reasonsPath.write) := by
  simp only [reasonEntries, Value.setting, missing]
  rfl

theorem reasonEntries_of_list {vs : List Value}
    (found : c.tree.get? reasonsPath = some (.list vs)) : c.reasonEntries = vs.mapM reason := by
  simp only [reasonEntries, Value.setting, found]
  rfl

theorem reasonEntries_of_other {v : Value} (found : c.tree.get? reasonsPath = some v)
    (other : ∀ vs, v ≠ .list vs) : c.reasonEntries = .error .wrongEntry := by
  simp only [reasonEntries, Value.setting, found]
  cases v with
  | list vs => exact absurd rfl (other vs)
  | _ => rfl

theorem reasonCatalog_of_missing (missing : c.tree.get? reasonsPath = none) :
    c.reasonCatalog = .ok .empty := by
  simp only [reasonCatalog, missing]

theorem reasonCatalog_of_list {vs : List Value}
    (found : c.tree.get? reasonsPath = some (.list vs)) :
    c.reasonCatalog = (vs.mapM reason).map .ofList := by
  simp only [reasonCatalog, found]
  cases vs.mapM reason <;> rfl

theorem reasonCatalog_of_other {v : Value} (found : c.tree.get? reasonsPath = some v)
    (other : ∀ vs, v ≠ .list vs) : c.reasonCatalog = .error .wrongEntry := by
  simp only [reasonCatalog, found]

/-- The setting is missing, a list or another value. -/
theorem reasons_cases (c : Configuration) :
    c.tree.get? reasonsPath = none ∨ (∃ vs, c.tree.get? reasonsPath = some (.list vs)) ∨
      ∃ v, c.tree.get? reasonsPath = some v ∧ ∀ vs, v ≠ .list vs := by
  cases c.tree.get? reasonsPath with
  | none => exact .inl rfl
  | some v =>
    cases v with
    | list vs => exact .inr (.inl ⟨vs, rfl⟩)
    | _ => exact .inr (.inr ⟨_, rfl, nofun⟩)

/-- **The only fault that counts as no reasons is that of the setting itself**: every other one
refuses the list. -/
theorem reasonCatalog_eq (c : Configuration) :
    c.reasonCatalog =
      match c.reasonEntries with
      | .ok entries => .ok (.ofList entries)
      | .error (.missing _) => .ok .empty
      | .error fault => .error fault := by
  rcases c.reasons_cases with missing | ⟨vs, found⟩ | ⟨v, found, other⟩
  · rw [reasonEntries_of_missing missing, reasonCatalog_of_missing missing]
  · rw [reasonEntries_of_list found, reasonCatalog_of_list found]
    cases read : vs.mapM reason with
    | ok entries => rfl
    | error fault =>
      -- the fault is that of an item, so it is not taken for a missing list
      obtain ⟨-, v, -, -, -, failed⟩ := mapM_eq_error_iff.mp read
      rcases reason_error failed with rfl | rfl <;> rfl
  · rw [reasonEntries_of_other found other, reasonCatalog_of_other found other]

theorem reasonCatalog_eq_error_iff :
    c.reasonCatalog = .error fault ↔
      c.reasonEntries = .error fault ∧ ∀ name, fault ≠ .missing name := by
  rw [reasonCatalog_eq]
  cases c.reasonEntries with
  | ok entries => exact ⟨nofun, fun failed => nomatch failed.1⟩
  | error why =>
    cases why with
    | missing name =>
      refine ⟨nofun, ?_⟩
      rintro ⟨⟨⟩, present⟩
      exact absurd rfl (present name)
    | _ =>
      refine ⟨?_, fun failed => congrArg Except.error (Except.error.inj failed.1)⟩
      rintro ⟨⟩
      exact ⟨rfl, nofun⟩

/-- **The fault of a refused list**: it is no list, or it is the fault of the first item that is no
reason. -/
theorem fault_of_reasonCatalog (refused : c.reasonCatalog = .error fault) :
    (fault = .wrongEntry ∧ ∃ v, c.tree.get? reasonsPath = some v ∧ ∀ vs, v ≠ .list vs) ∨
      ∃ before v after, c.tree.get? reasonsPath = some (.list (before ++ v :: after)) ∧
        (∀ w ∈ before, ∃ entry, w.IsReason entry) ∧ (∀ entry, ¬ v.IsReason entry) ∧
        reason v = .error fault := by
  rcases c.reasons_cases with missing | ⟨vs, found⟩ | ⟨v, found, other⟩
  · cases (reasonCatalog_of_missing missing).symm.trans refused
  · rw [reasonCatalog_eq_error_iff, reasonEntries_of_list found] at refused
    obtain ⟨before, v, after, rfl, earlier, failed⟩ := mapM_eq_error_iff.mp refused.1
    simp only [reason_eq_ok_iff] at earlier
    refine .inr ⟨before, v, after, found, earlier, fun entry is => ?_, failed⟩
    cases (reason_of_isReason is).symm.trans failed
  · obtain rfl := Except.error.inj ((reasonCatalog_of_other found other).symm.trans refused)
    exact .inl ⟨rfl, v, found, other⟩

/-- **Reasons are taken as they are listed**, and without a list there are none. -/
theorem reasonCatalog_eq_ok_iff :
    c.reasonCatalog = .ok cat ↔ ∃ entries, cat = .ofList entries ∧
      (c.ListsReasons entries ∨ c.tree.get? reasonsPath = none ∧ entries = []) := by
  constructor
  · intro taken
    rcases c.reasons_cases with missing | ⟨vs, found⟩ | ⟨v, found, other⟩
    · cases (reasonCatalog_of_missing missing).symm.trans taken
      exact ⟨[], rfl, .inr ⟨missing, rfl⟩⟩
    · rw [reasonCatalog_of_list found] at taken
      cases read : vs.mapM reason with
      | error fault =>
        rw [read] at taken
        cases taken
      | ok entries =>
        rw [read] at taken
        cases taken
        have reasons := (mapM_eq_ok_iff.mp read).imp fun _ _ => reason_eq_ok_iff.mp
        exact ⟨entries, rfl, .inl ⟨vs, found, reasons⟩⟩
    · cases (reasonCatalog_of_other found other).symm.trans taken
  · rintro ⟨entries, rfl, ⟨vs, found, reasons⟩ | ⟨missing, rfl⟩⟩
    · have read := mapM_eq_ok_iff.mpr (reasons.imp fun _ _ => reason_of_isReason)
      rw [reasonCatalog_of_list found, read]
      rfl
    · exact reasonCatalog_of_missing missing

end Configuration

/-- **The configured reasons are taken whole or refused.**  For any configuration:

- The reasons are taken exactly if none are set, or a list is set and every item of it has a code
  and a message that can be read as text.
- The catalog then says of each code what its last entry in the list says, and nothing about any
  other code; it is empty only if the list is missing or empty.
- Otherwise the list is refused with the fault of reading it, which is that of its first item that
  is no reason, and never that of a missing setting. -/
theorem reason_list_is_whole_or_refused (c : Configuration) :
    let set := c.tree.get? Configuration.reasonsPath
    ((∃ cat, c.reasonCatalog = .ok cat) ↔
      set = none ∨ ∃ vs, set = some (.list vs) ∧ ∀ v ∈ vs, ∃ entry, v.IsReason entry) ∧
    (∀ cat, c.reasonCatalog = .ok cat → ∃ entries,
      (c.ListsReasons entries ∨ set = none ∧ entries = []) ∧
      (∀ code message,
        cat.message? code = some message ↔ Catalog.LastMessage entries code message) ∧
      cat.messages.map Prod.fst = (entries.map Prod.fst).eraseDups ∧
      (cat.isEmpty = true ↔ set = none ∨ set = some (.list []))) ∧
    (∀ fault, c.reasonCatalog = .error fault ↔
      c.reasonEntries = .error fault ∧ ∀ name, fault ≠ .missing name) ∧
    ∀ fault, c.reasonCatalog = .error fault →
      (fault = .wrongEntry ∧ ∃ v, set = some v ∧ ∀ vs, v ≠ .list vs) ∨
        ∃ before v after, set = some (.list (before ++ v :: after)) ∧
          (∀ w ∈ before, ∃ entry, w.IsReason entry) ∧ (∀ entry, ¬ v.IsReason entry) ∧
          Configuration.reason v = .error fault := by
  intro set
  refine ⟨⟨?_, ?_⟩, fun cat taken => ?_, fun fault => Configuration.reasonCatalog_eq_error_iff,
    fun fault => Configuration.fault_of_reasonCatalog⟩
  · rintro ⟨cat, taken⟩
    obtain ⟨entries, -, ⟨vs, found, reasons⟩ | ⟨missing, -⟩⟩ :=
      Configuration.reasonCatalog_eq_ok_iff.mp taken
    · exact .inr ⟨vs, found, exists_forall₂_iff.mp ⟨entries, reasons⟩⟩
    · exact .inl missing
  · rintro (missing | ⟨vs, found, all⟩)
    · exact ⟨_, Configuration.reasonCatalog_of_missing missing⟩
    · obtain ⟨entries, reasons⟩ := exists_forall₂_iff.mpr all
      exact ⟨_, Configuration.reasonCatalog_eq_ok_iff.mpr
        ⟨entries, rfl, .inl ⟨vs, found, reasons⟩⟩⟩
  · obtain ⟨entries, rfl, listed⟩ := Configuration.reasonCatalog_eq_ok_iff.mp taken
    refine ⟨entries, listed, fun _ _ => Catalog.message?_ofList_eq_some_iff,
      Catalog.codes_ofList entries, Catalog.isEmpty_ofList.trans ?_⟩
    rcases listed with ⟨vs, found, reasons⟩ | ⟨missing, rfl⟩
    · constructor
      · rintro rfl
        obtain rfl := List.forall₂_nil_right_iff.mp reasons
        exact .inr found
      · rintro (missing | empty)
        · cases found.symm.trans missing
        · cases found.symm.trans empty
          exact List.forall₂_nil_left_iff.mp reasons
    · exact ⟨fun _ => .inl missing, fun _ => rfl⟩

/-- A configuration whose list of reasons has these items. -/
def Configuration.listing (items : List Value) : Configuration :=
  ⟨.table [("featgate", .table [("lock", .table [("reasons", .list items)])])], []⟩

/-- A code that is listed twice has its second message; one more item without a message, and there
are no reasons at all. -/
theorem incomplete_reason_refuses_list :
    let first : Value := .table [("code", .text "ADMIN"), ("message", .text "by an administrator")]
    let second : Value := .list [.text "ADMIN", .bool true]
    let third : Value := .table [("code", .text "FRAUD")]
    (∃ cat, (Configuration.listing [first, second]).reasonCatalog = .ok cat ∧
      cat.message? "ADMIN" = some "true" ∧ cat.isEmpty = false) ∧
    ¬ ∃ cat, (Configuration.listing [first, second, third]).reasonCatalog = .ok cat := by
  intro first second third
  constructor
  · obtain ⟨-, tells, -⟩ := reason_list_is_whole_or_refused (.listing [first, second])
    have taken :
        (Configuration.listing [first, second]).reasonCatalog = .ok ⟨[("ADMIN", "true")]⟩ :=
      rfl
    obtain ⟨-, -, -, -, empty⟩ := tells _ taken
    refine ⟨_, taken, rfl, Bool.eq_false_iff.mpr fun noCode => ?_⟩
    rcases empty.mp noCode with missing | empty
    · cases missing
    · cases empty
  · rw [(reason_list_is_whole_or_refused (.listing [first, second, third])).1]
    rintro (missing | ⟨vs, found, all⟩)
    · cases missing
    · cases found
      obtain ⟨entry, is⟩ := all (.table [("code", .text "FRAUD")]) (by simp [third])
      cases is with
      | table code message => cases message

end FeatureLock
