import Mathlib.Logic.Basic

/-!
# Look-ups in lists of pairs

Messages of a catalog, options and variables are lists of pairs, and the first pair with a
key gives its value.

Main statements: `Lookup.lookup_cons`, one more pair, and `Lookup.lookup_filter`, which says
what is found when pairs are left out by their keys.
-/

namespace FeatureLock.Lookup

variable {α β : Type} [BEq α] [LawfulBEq α] [DecidableEq α]

theorem lookup_cons (k : α) (e : α × β) (es : List (α × β)) :
    (e :: es).lookup k = if k = e.1 then some e.2 else es.lookup k := by
  rw [List.lookup_cons]
  by_cases same : k = e.1
  · rw [beq_iff_eq.mpr same, if_pos same]
  · rw [beq_eq_false_iff_ne.mpr same, if_neg same]

/-- **Pairs that are left out by their keys** leave the other keys as they are. -/
theorem lookup_filter (keep : α → Bool) (k : α) (es : List (α × β)) :
    (es.filter fun e => keep e.1).lookup k = if keep k then es.lookup k else none := by
  induction es with
  | nil => simp
  | cons e es ih =>
    rw [List.filter_cons, lookup_cons k e es]
    by_cases same : k = e.1
    · subst same
      by_cases kept : keep e.1 = true
      · rw [if_pos kept, if_pos kept, lookup_cons, if_pos rfl, if_pos rfl]
      · rw [if_neg kept, if_neg kept, ih, if_neg kept]
    · rw [if_neg same, ← ih]
      split
      · rw [lookup_cons, if_neg same]
      · rfl

end FeatureLock.Lookup
