import FeatureLock.Store.Memory
import Mathlib.Data.List.Nodup
import Mathlib.Logic.Function.Basic

/-!
# What a store holds

Seen from outside, a store is a map from keys to features.  The five calls are
defined on that map once more, one row at a time, and the features held in
memory are shown to follow them.

## Main Definitions

- `Contents`: the feature of each key
- `Contents.answer`: the five calls on the map
- `Memory.Distinct`: no two features share a key

Main statement: `Memory.answer_find?`, which says that the memory answers as the
map does and holds what the map holds.

## Design Notes

`Contents.answer` writes the fresh feature of the key where the memory takes the
lock off the feature it found.  The two are the same because a feature that is
found under a key has that key (`Memory.key_of_find?`).
-/

namespace FeatureLock

/-- The feature of each key. -/
abbrev Contents := Key → Option Feature

namespace Contents

/-- **The answer to a call, and the map afterwards.** -/
def answer : (c : Call) → Contents → Outcome c × Contents
  | .insert f, m =>
    match m f.key with
    | some _ => (.error (.alreadyExists f.key), m)
    | none => (.ok (), Function.update m f.key (some f))
  | .find k, m => (.ok (m k), m)
  | .update f, m =>
    match m f.key with
    | some _ => (.ok true, Function.update m f.key (some f))
    | none => (.ok false, m)
  | .expire k now, m =>
    match m k with
    | some f =>
      if f.isExpiredAt now then (.ok true, Function.update m k (some (.fresh k)))
      else (.ok false, m)
    | none => (.ok false, m)
  | .delete k, m => (.ok (m k).isSome, Function.update m k none)

/-- A call leaves the rows of all other keys alone. -/
theorem answer_of_ne (c : Call) (m : Contents) {k : Key} (h : k ≠ c.key) :
    (m.answer c).2 k = m k := by
  cases c with
  | insert f =>
    simp only [answer]
    split
    · rfl
    · exact Function.update_of_ne h _ _
  | find k' => rfl
  | update f =>
    simp only [answer]
    split
    · exact Function.update_of_ne h _ _
    · rfl
  | expire k' now =>
    simp only [answer]
    split
    · split
      · exact Function.update_of_ne h _ _
      · rfl
    · rfl
  | delete k' => exact Function.update_of_ne h _ _

end Contents

namespace Memory

/-- No two features share a key. -/
def Distinct (m : Memory) : Prop :=
  (m.features.map Feature.key).Nodup

theorem distinct_empty : empty.Distinct := List.nodup_nil

/-- A feature that is found under a key has that key. -/
theorem key_of_find? {m : Memory} {k : Key} {f : Feature} (h : m.find? k = some f) :
    f.key = k := by
  simpa using List.find?_some h

theorem mem_of_find? {m : Memory} {k : Key} {f : Feature} (h : m.find? k = some f) :
    f ∈ m.features :=
  List.mem_of_find?_eq_some h

theorem key_ne_of_find?_eq_none {m : Memory} {k : Key} (h : m.find? k = none) :
    ∀ f ∈ m.features, f.key ≠ k := by
  simpa [find?] using h

/-! ### The three changes -/

theorem find?_cons (f : Feature) (m : Memory) :
    find? ⟨f :: m.features⟩ = Function.update m.find? f.key (some f) := by
  funext k
  by_cases h : f.key = k
  · subst h
    simp [find?]
  · rw [Function.update_of_ne (Ne.symm h)]
    simp [find?, h]

/-- What is found in a list of features in which one was put in the place of those with its key. -/
theorem find?_map_replace (f : Feature) (fs : List Feature) (k : Key) :
    (fs.map fun g => if g.key = f.key then f else g).find? (·.key = k) =
      if k = f.key then (fs.find? (·.key = k)).map (fun _ => f) else fs.find? (·.key = k) := by
  induction fs with
  | nil => simp
  | cons g gs ih =>
    by_cases hg : g.key = f.key <;> by_cases hk : k = f.key <;> by_cases hgk : g.key = k <;>
      simp_all

/-- Replacing a feature changes the row of its key, if there is one. -/
theorem find?_replace (m : Memory) (f : Feature) {g : Feature} (h : m.find? f.key = some g) :
    (m.replace f).find? = Function.update m.find? f.key (some f) := by
  funext k
  refine (find?_map_replace f m.features k).trans ?_
  by_cases hk : k = f.key
  · subst hk
    rw [if_pos rfl, Function.update_self]
    exact congrArg (Option.map fun _ => f) h
  · rw [if_neg hk, Function.update_of_ne hk]
    rfl

theorem find?_erase (m : Memory) (k : Key) :
    (m.erase k).find? = Function.update m.find? k none := by
  funext k'
  by_cases h : k' = k
  · subst h
    rw [Function.update_self]
    simp [find?, erase]
  · rw [Function.update_of_ne h]
    simp only [find?, erase, List.find?_filter]
    congr 1
    funext f
    by_cases hf : f.key = k'
    · simp [hf, h]
    · simp [hf]

/-- A feature with its lock taken off is found as the fresh feature of its key. -/
theorem find?_replace_unlocked {m : Memory} {k : Key} {f : Feature} (h : m.find? k = some f) :
    (m.replace f.unlocked).find? = Function.update m.find? k (some (.fresh k)) := by
  have key := key_of_find? h
  have found : m.find? f.unlocked.key = some f := by
    rw [show f.unlocked.key = k from key]
    exact h
  rw [find?_replace m f.unlocked found, Feature.unlocked_eq_fresh, key]
  rfl

/-! ### Calls -/

/-- **Memory answers as the map of its features does**, and holds what the map then holds. -/
theorem answer_find? (c : Call) (m : Memory) :
    (m.answer c).1 = (Contents.answer c m.find?).1 ∧
      (m.answer c).2.find? = (Contents.answer c m.find?).2 := by
  cases c with
  | insert f =>
    cases h : m.find? f.key with
    | some g => simp [answer, Contents.answer, h]
    | none => simp [answer, Contents.answer, h, find?_cons]
  | find k => exact ⟨rfl, rfl⟩
  | update f =>
    cases h : m.find? f.key with
    | some g => simp [answer, Contents.answer, h, find?_replace m f h]
    | none => simp [answer, Contents.answer, h]
  | expire k now =>
    cases h : m.find? k with
    | some f =>
      by_cases expired : f.isExpiredAt now = true
      · simp [answer, Contents.answer, h, expired, find?_replace_unlocked h]
      · simp [answer, Contents.answer, h, expired]
    | none => simp [answer, Contents.answer, h]
  | delete k => exact ⟨rfl, find?_erase m k⟩

theorem map_key_replace (m : Memory) (f : Feature) :
    (m.replace f).features.map Feature.key = m.features.map Feature.key := by
  simp only [replace, List.map_map]
  apply List.map_congr_left
  intro g _
  by_cases h : g.key = f.key <;> simp [h]

/-- A call keeps the keys distinct. -/
theorem Distinct.answer {m : Memory} (h : m.Distinct) (c : Call) : (m.answer c).2.Distinct := by
  have replaced : ∀ f, (m.replace f).Distinct := by
    intro f
    rw [Distinct, map_key_replace]
    exact h
  cases c with
  | insert f =>
    simp only [Memory.answer]
    split
    · exact h
    · next free =>
      refine List.nodup_cons.mpr ⟨?_, h⟩
      intro mem
      obtain ⟨g, hg, same⟩ := List.mem_map.mp mem
      exact key_ne_of_find?_eq_none free g hg same
  | find k => exact h
  | update f =>
    simp only [Memory.answer]
    split
    · exact replaced f
    · exact h
  | expire k now =>
    simp only [Memory.answer]
    split
    · split
      · exact replaced _
      · exact h
    · exact h
  | delete k =>
    refine List.Nodup.sublist ?_ h
    exact List.filter_sublist.map Feature.key

end Memory

end FeatureLock
