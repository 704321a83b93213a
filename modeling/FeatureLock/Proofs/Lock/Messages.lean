import FeatureLock.Proofs.Lock.Resolution
import FeatureLock.Proofs.Lookup

/-!
# The messages of a catalog

A catalog is made from entries, one after the other, and an entry replaces what an
earlier one said about the same code.  What the catalog holds in the end can be said
of the entries alone: each of their codes once, with the message of its last entry.

## Main Definitions

- `Catalog.LastMessage`: the message of the last entry of a code

Main statements: `Catalog.message?_ofList_eq_some_iff`, the messages of a catalog, and
`Catalog.codes_ofList`, its codes.

## Design Notes

Codes are compared as they were entered, white space included.
-/

namespace FeatureLock.Catalog

open Lookup

variable {entries : List (String × String)} {code message : String}

/-- **The last entry of a code has this message**: no entry after it has the same code. -/
def LastMessage (entries : List (String × String)) (code message : String) : Prop :=
  ∃ before after, entries = before ++ (code, message) :: after ∧ code ∉ after.map Prod.fst

/-! ### One more entry -/

theorem lookup_set (code message other : String) (messages : List (String × String)) :
    (set code message messages).lookup other =
      if other = code then some message else messages.lookup other := by
  induction messages with
  | nil => exact lookup_cons other (code, message) []
  | cons e messages ih =>
    unfold set
    split
    · next same =>
      rw [lookup_cons, lookup_cons, same]
      split <;> rfl
    · next differs =>
      rw [lookup_cons, lookup_cons, ih]
      by_cases first : other = e.1
      · rw [if_pos first, if_pos first, if_neg (first ▸ differs)]
      · rw [if_neg first, if_neg first]

/-- One more entry says what its code stands for, and leaves all other codes alone. -/
theorem message?_withReason (cat : Catalog) (code message other : String) :
    (cat.withReason code message).message? other =
      if other = code then some message else cat.message? other :=
  lookup_set code message other cat.messages

theorem codes_set (code message : String) (messages : List (String × String)) :
    (set code message messages).map Prod.fst =
      if code ∈ messages.map Prod.fst then messages.map Prod.fst
      else messages.map Prod.fst ++ [code] := by
  induction messages with
  | nil => rfl
  | cons e messages ih =>
    unfold set
    split
    · next same => simp [same]
    · next differs =>
      rw [List.map_cons, ih]
      have first : code ≠ e.1 := Ne.symm differs
      by_cases held : code ∈ messages.map Prod.fst
      · simp only [held, if_true, List.map_cons, List.mem_cons, or_true]
      · simp only [held, if_false, List.map_cons, List.mem_cons, first, or_self, List.cons_append]

/-! ### All entries -/

theorem ofList_concat (entries : List (String × String)) (e : String × String) :
    ofList (entries ++ [e]) = (ofList entries).withReason e.1 e.2 := by
  rw [ofList, List.foldl_append]
  rfl

/-- A catalog is asked for a code from its last entry back. -/
theorem message?_ofList (entries : List (String × String)) (code : String) :
    (ofList entries).message? code = entries.reverse.lookup code := by
  induction entries using List.reverseRec with
  | nil => rfl
  | append_singleton entries e ih =>
    rw [ofList_concat, message?_withReason, ih, List.reverse_concat, lookup_cons]

/-- **A catalog has the message of the last entry of a code, and no other.** -/
theorem message?_ofList_eq_some_iff :
    (ofList entries).message? code = some message ↔ LastMessage entries code message := by
  rw [message?_ofList, List.lookup_eq_some_iff]
  constructor
  · rintro ⟨after, before, split, apart⟩
    refine ⟨before.reverse, after.reverse, ?_, ?_⟩
    · rw [← List.reverse_reverse entries, split]
      simp
    · intro later
      obtain ⟨e, mem, rfl⟩ := List.mem_map.mp later
      simpa using apart e (List.mem_reverse.mp mem)
  · rintro ⟨before, after, rfl, apart⟩
    refine ⟨after.reverse, before.reverse, by simp, fun e mem => ?_⟩
    rw [bne_iff_ne]
    rintro rfl
    exact apart (List.mem_map_of_mem (List.mem_reverse.mp mem))

/-- A catalog has no message for the codes that no entry has. -/
theorem message?_ofList_eq_none_iff :
    (ofList entries).message? code = none ↔ code ∉ entries.map Prod.fst := by
  rw [message?_ofList, List.lookup_eq_none_iff]
  simp only [List.mem_reverse, bne_iff_ne, List.mem_map, not_exists, not_and]
  exact ⟨fun apart e mem same => apart e mem same.symm,
    fun apart e mem same => apart e mem same.symm⟩

/-- **A catalog has each code of its entries once.** -/
theorem codes_ofList (entries : List (String × String)) :
    (ofList entries).messages.map Prod.fst = (entries.map Prod.fst).eraseDups := by
  induction entries using List.reverseRec with
  | nil => rfl
  | append_singleton entries e ih =>
    rw [ofList_concat, withReason, codes_set, ih, List.map_append, List.map_singleton,
      FirstOccurrences.eraseDups_concat]
    simp only [List.mem_eraseDups]

/-- A catalog is empty only if there was no entry. -/
theorem isEmpty_ofList : (ofList entries).isEmpty = true ↔ entries = [] := by
  unfold isEmpty
  rw [List.isEmpty_iff]
  constructor
  · intro empty
    have codes := codes_ofList entries
    rw [empty] at codes
    cases entries with
    | nil => rfl
    | cons e entries =>
      have mem : e.1 ∈ ((e :: entries).map Prod.fst).eraseDups :=
        List.mem_eraseDups.mpr List.mem_cons_self
      rw [← codes] at mem
      cases mem
  · rintro rfl
    rfl

/-- Entries that are left out by their codes do not count for other codes. -/
theorem message?_ofList_filter (keep : String → Bool) (kept : keep code = true) :
    (ofList (entries.filter fun e => keep e.1)).message? code = (ofList entries).message? code := by
  rw [message?_ofList, message?_ofList, ← List.filter_reverse, lookup_filter, if_pos kept]

end FeatureLock.Catalog
