import FeatureLock.Config.Path
import FeatureLock.Proofs.Lookup

/-!
# What stands at a path after a change

A change at a path makes what is missing on the way and replaces what is in the way.
Whatever was there before, the changed value then stands at the path, and a path that
parts from it at a name leads to what it led to before.

## Main Definitions

- `Path.Apart`: paths that part at two names

Main statements: `Value.get?_place_self` and `Value.get?_place_of_apart`, a change, and
`Value.get?_overlay_self` and `Value.get?_overlay_of_apart`, a value laid over what stands
at a path.
-/

namespace FeatureLock

namespace Path

/-- **Paths that part at two names**: up to there they take the same steps. -/
inductive Apart : Path → Path → Prop
  | parts {m n : String} {p q : Path} : m ≠ n → Apart (.name m :: p) (.name n :: q)
  | step {s : PathStep} {p q : Path} : Apart p q → Apart (s :: p) (s :: q)

theorem apart_cons_iff {s t : PathStep} {p q : Path} :
    Apart (s :: p) (t :: q) ↔
      (∃ m n, s = .name m ∧ t = .name n ∧ m ≠ n) ∨ s = t ∧ p.Apart q := by
  constructor
  · intro apart
    cases apart with
    | parts other => exact .inl ⟨_, _, rfl, rfl, other⟩
    | step apart => exact .inr ⟨rfl, apart⟩
  · rintro (⟨m, n, rfl, rfl, other⟩ | ⟨rfl, apart⟩)
    · exact .parts other
    · exact .step apart

/-- Whether two paths part is found step by step. -/
instance decidableApart : (p q : Path) → Decidable (p.Apart q)
  | [], _ => isFalse nofun
  | _ :: _, [] => isFalse nofun
  | .name m :: p, .name n :: q =>
    have := decidableApart p q
    decidable_of_iff (m ≠ n ∨ m = n ∧ Apart p q) (by simp [apart_cons_iff])
  | .position i :: p, .position j :: q =>
    have := decidableApart p q
    decidable_of_iff (i = j ∧ Apart p q) (by simp [apart_cons_iff])
  | .name _ :: _, .position _ :: _ => isFalse nofun
  | .position _ :: _, .name _ :: _ => isFalse nofun

end Path

namespace Value

theorem field?_eq (n : String) (v : Value) : v.field? n = v.entries.lookup n := by
  have same : ∀ es : List (String × Value), es.lookup n = Entries.lookup n es := by
    intro es
    induction es with
    | nil => rfl
    | cons e es ih =>
      obtain ⟨m, w⟩ := e
      simp only [Lookup.lookup_cons, Entries.lookup, ih, eq_comm]
  cases v with
  | table es => exact same es
  | _ => rfl

theorem get?_null {p : Path} : (null.get? p).getD null = null := by
  cases p with
  | nil => rfl
  | cons s p => cases s <;> rfl

/-- A position that is reached stands at the index that was found for it, and holds what was there
before, or null. -/
theorem reach_spec (i : Int) (vs : List Value) :
    indexIn? i (reach i vs).1.length = some (reach i vs).2 ∧
      (reach i vs).1[(reach i vs).2]?.getD null =
        ((indexIn? i vs.length).bind (vs[·]?)).getD null := by
  unfold reach indexIn?
  by_cases ahead : 0 ≤ i
  · -- filled up behind
    simp only [ahead, if_true, Option.bind_some, true_and]
    by_cases inside : i.toNat < vs.length
    · rw [List.getElem?_append_left inside]
    · have outside : vs.length ≤ i.toNat := Nat.le_of_not_lt inside
      rw [List.getElem?_append_right outside, List.getElem?_replicate,
        List.getElem?_eq_none outside]
      split <;> rfl
  · simp only [ahead, if_false]
    by_cases inside : i.natAbs ≤ vs.length
    · simp only [inside, if_true, Option.bind_some, true_and]
    · -- filled up in front
      have long : 0 < i.natAbs - vs.length := by omega
      simp only [inside, if_false, List.length_append, List.length_replicate, Option.bind_none]
      refine ⟨?_, ?_⟩
      · rw [if_pos (by omega)]
        congr 1
        omega
      · rw [List.getElem?_append_left (by simpa using long), List.getElem?_replicate, if_pos long]
        rfl

/-- **One step into a value that was changed further on.** -/
theorem step?_place (f : Value → Value) (s : PathStep) (p : Path) (v : Value) :
    (place f (s :: p) v).step? s = some (place f p ((v.step? s).getD null)) := by
  cases s with
  | name n =>
    simp only [place, step?, field?_eq, entries, Entries.lookup_put_self]
  | position i =>
    have items : v.step? (.position i) = (indexIn? i v.items.length).bind (v.items[·]?) := by
      cases v with
      | list vs => rfl
      | _ =>
        simp only [step?, Value.items]
        cases indexIn? i ([] : List Value).length <;> rfl
    obtain ⟨index, old⟩ := reach_spec i v.items
    have within := lt_length_reach i v.items
    rw [items, ← old]
    simp only [place, step?, List.length_set, index, Option.bind_some,
      List.getElem?_set_self within]

/-- **What is placed at a path stands there**, made from what stood there before, or from null. -/
theorem get?_place_self (f : Value → Value) (p : Path) (v : Value) :
    (place f p v).get? p = some (f ((v.get? p).getD null)) := by
  induction p generalizing v with
  | nil => rfl
  | cons s p ih =>
    rw [get?, step?_place, Option.bind_some, ih, get?]
    cases v.step? s with
    | none => rw [Option.getD_none, get?_null, Option.bind_none, Option.getD_none]
    | some w => rfl

/-- **A path that parts from the place of a change leads to what it led to before.** -/
theorem get?_place_of_apart (f : Value → Value) {p q : Path} (apart : p.Apart q) (v : Value) :
    (place f p v).get? q = v.get? q := by
  induction apart generalizing v with
  | parts other =>
    rw [get?, get?, step?, step?, field?_eq, field?_eq, place, entries,
      Entries.lookup_put_of_ne (Ne.symm other)]
  | @step s p q apart ih =>
    rw [get?, step?_place, Option.bind_some, ih, get?]
    cases v.step? s with
    | some w => rfl
    | none =>
      -- both lead nowhere, for the paths have a step left in which they part
      cases apart with
      | parts other => rfl
      | @step t p q apart => cases t <;> rfl

/-! ### Values that are laid over -/

theorem merge_of_not_table {v : Value} (other : ∀ es, v ≠ table es) (base : Value) :
    merge base v = v := by
  cases v with
  | table es => exact absurd rfl (other es)
  | _ => cases base <;> simp only [merge]

/-- **A value that is no table takes the place of whatever stood at its path.** -/
theorem get?_overlay_self {v : Value} (other : ∀ es, v ≠ table es) (base : Value) (p : Path) :
    (base.overlay p v).get? p = some v := by
  rw [overlay, get?_place_self, merge_of_not_table other]

theorem get?_overlay_of_apart {p q : Path} (apart : p.Apart q) (base v : Value) :
    (base.overlay p v).get? q = base.get? q :=
  get?_place_of_apart _ apart base

end Value

end FeatureLock
