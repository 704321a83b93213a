import FeatureLock.Lock.Catalog
import Mathlib.Data.List.Induction
import Mathlib.Data.List.Nodup

/-!
# What a list of reason codes comes to

The loop over the codes of a lock carries its result along and looks into it for
repeats.  What it comes to can be said without the loop: every code is checked as it
is trimmed, and then the trimmed codes are listed once each, in the order in which
they come up first, and at the same position their messages.

## Main Definitions

- `FirstOccurrences`: a list without its repeats
- `Catalog.checkCodes`: the checks of all codes, one after the other
- `LockReasons.describing`: codes with the messages that a catalog has for them

Main statements: `Catalog.resolve_eq`, what the loop comes to; and
`resolved_codes_are_ordered_set`.
-/

namespace FeatureLock

/-! ### First occurrences -/

/-- **A list without its repeats**: what stands in a list, each once, in the order in which it comes
up there first. -/
structure FirstOccurrences (found all : List String) : Prop where
  distinct : found.Nodup
  mem_iff : ∀ x, x ∈ found ↔ x ∈ all
  ordered : found.Pairwise fun x y => all.idxOf x < all.idxOf y

namespace FirstOccurrences

variable {found all : List String} {x : String}

theorem nil : FirstOccurrences [] [] :=
  ⟨List.nodup_nil, fun _ => Iff.rfl, List.Pairwise.nil⟩

theorem idxOf_append (h : FirstOccurrences found all) (after : List String) :
    found.Pairwise fun x y => (all ++ after).idxOf x < (all ++ after).idxOf y := by
  refine h.ordered.imp_of_mem fun {y z} left right lt => ?_
  rw [List.idxOf_append_of_mem ((h.mem_iff y).mp left),
    List.idxOf_append_of_mem ((h.mem_iff z).mp right)]
  exact lt

/-- A repeat adds nothing. -/
theorem concat_old (h : FirstOccurrences found all) (old : x ∈ all) :
    FirstOccurrences found (all ++ [x]) where
  distinct := h.distinct
  mem_iff y := by
    rw [h.mem_iff, List.mem_append, List.mem_singleton]
    constructor
    · exact .inl
    · rintro (mem | rfl)
      · exact mem
      · exact old
  ordered := h.idxOf_append [x]

/-- What is new comes last. -/
theorem concat_new (h : FirstOccurrences found all) (new : x ∉ all) :
    FirstOccurrences (found ++ [x]) (all ++ [x]) where
  distinct := by
    refine List.nodup_append.mpr ⟨h.distinct, List.nodup_singleton x, ?_⟩
    rintro y mem _ last rfl
    exact new (List.mem_singleton.mp last ▸ (h.mem_iff y).mp mem)
  mem_iff y := by rw [List.mem_append, List.mem_append, h.mem_iff]
  ordered := by
    refine List.pairwise_append.mpr ⟨h.idxOf_append [x], List.pairwise_singleton _ x, ?_⟩
    rintro y mem _ last
    rw [List.mem_singleton.mp last]
    have earlier := (h.mem_iff y).mp mem
    rw [List.idxOf_append_of_mem earlier, List.idxOf_append, if_neg new]
    exact Nat.lt_add_left _ (List.idxOf_lt_length_iff.mpr earlier)

theorem eraseDups_concat (xs : List String) (x : String) :
    (xs ++ [x]).eraseDups = if x ∈ xs then xs.eraseDups else xs.eraseDups ++ [x] := by
  rw [List.eraseDups_append, List.removeAll]
  split <;> simp [*, List.eraseDups_cons]

theorem eraseDups (xs : List String) : FirstOccurrences xs.eraseDups xs := by
  induction xs using List.reverseRec with
  | nil => exact nil
  | append_singleton xs x ih =>
    rw [eraseDups_concat]
    split
    · next old => exact ih.concat_old old
    · next new => exact ih.concat_new new

/-- A list without repeats is left as it is. -/
theorem eraseDups_of_nodup {xs : List String} (distinct : xs.Nodup) : xs.eraseDups = xs := by
  induction xs using List.reverseRec with
  | nil => rfl
  | append_singleton xs x ih =>
    obtain ⟨left, -, apart⟩ := List.nodup_append.mp distinct
    have new : x ∉ xs := fun old => apart x old x (List.mem_singleton_self x) rfl
    rw [eraseDups_concat, if_neg new, ih left]

/-- A repeat can stand anywhere. -/
theorem eraseDups_insert {xs : List String} (old : x ∈ xs) (ys : List String) :
    (xs ++ x :: ys).eraseDups = (xs ++ ys).eraseDups := by
  rw [List.eraseDups_append, List.eraseDups_append, List.removeAll, List.filter_cons_of_neg,
    List.removeAll]
  simpa using old

end FirstOccurrences

/-! ### The loop -/

namespace LockReasons

/-- **Codes with the messages that a catalog has for them.** -/
def describing (cat : Catalog) (codes : List String) : LockReasons :=
  ⟨codes, codes.map cat.describe⟩

/-- Add a code to those gathered before, unless it is among them. -/
def gather (cat : Catalog) (found : LockReasons) (code : String) : LockReasons :=
  if code ∈ found.codes then found
  else ⟨found.codes ++ [code], found.reasons ++ [cat.describe code]⟩

theorem foldl_gather (cat : Catalog) (codes : List String) :
    codes.foldl (gather cat) empty = describing cat codes.eraseDups := by
  induction codes using List.reverseRec with
  | nil => rfl
  | append_singleton codes code ih =>
    rw [List.foldl_append, ih, List.foldl_cons, List.foldl_nil, FirstOccurrences.eraseDups_concat]
    simp only [gather, describing, List.mem_eraseDups]
    split
    · rfl
    · rw [List.map_append, List.map_singleton]

end LockReasons

namespace Catalog

/-- The checks of all codes, one after the other and as they are trimmed. -/
def checkCodes (codes : List String) : Except Complaint Unit :=
  forM codes fun code => Key.checkPart .reasonCode (Text.trim code)

theorem checkCodes_cons (code : String) (codes : List String) :
    checkCodes (code :: codes) =
      Key.checkPart .reasonCode (Text.trim code) >>= fun _ => checkCodes codes :=
  List.forM_cons

theorem checkCodes_append (codes more : List String) :
    checkCodes (codes ++ more) = checkCodes codes >>= fun _ => checkCodes more :=
  List.forM_append

/-- One turn of the loop: a code is checked and gathered. -/
theorem extend_eq (cat : Catalog) (found : LockReasons) (code : String) :
    cat.extend found code =
      (Key.checkPart .reasonCode (Text.trim code)).map fun _ =>
        found.gather cat (Text.trim code) := by
  simp only [extend, Key.checkPart, Text.trim_trim, LockReasons.gather]
  split
  · rfl
  · split
    · rfl
    · split <;> rfl

theorem foldlM_extend (cat : Catalog) (codes : List String) (found : LockReasons) :
    codes.foldlM cat.extend found =
      (checkCodes codes).map fun _ =>
        (codes.map Text.trim).foldl (LockReasons.gather cat) found := by
  induction codes generalizing found with
  | nil => rfl
  | cons code codes ih =>
    rw [List.foldlM_cons, extend_eq, checkCodes_cons]
    cases Key.checkPart .reasonCode (Text.trim code) with
    | error why => rfl
    | ok _ => exact ih _

/-- **What the loop comes to**: the complaint about the first code that is refused, or the first
occurrences of the trimmed codes with their messages. -/
theorem resolve_eq (cat : Catalog) (codes : List String) :
    cat.resolve codes =
      (checkCodes codes).map fun _ => .describing cat (codes.map Text.trim).eraseDups := by
  rw [resolve, foldlM_extend, LockReasons.foldl_gather]

/-! ### Which codes are refused -/

/-- A trimmed code that a lock can be placed with. -/
theorem checkPart_reasonCode_eq_ok_iff {code : String} :
    Key.checkPart .reasonCode (Text.trim code) = .ok () ↔
      ¬ (Text.trim code = "" ∨ maxPartLength < (Text.trim code).length) := by
  simp only [Key.checkPart, Text.trim_trim]
  split
  · next blank => simp [blank]
  · next filled =>
    split
    · next long => simp [long]
    · next short => simp [filled, short]

theorem checkCodes_eq_ok_iff {codes : List String} :
    checkCodes codes = .ok () ↔
      ∀ code ∈ codes, Key.checkPart .reasonCode (Text.trim code) = .ok () := by
  induction codes with
  | nil => exact ⟨fun _ _ mem => absurd mem List.not_mem_nil, fun _ => rfl⟩
  | cons code codes ih =>
    rw [checkCodes_cons, List.forall_mem_cons, ← ih]
    cases Key.checkPart .reasonCode (Text.trim code) with
    | error why => exact ⟨(nomatch ·), fun ok => nomatch ok.1⟩
    | ok _ => exact ⟨fun ok => ⟨rfl, ok⟩, fun ok => ok.2⟩

theorem resolve_eq_ok_iff {cat : Catalog} {codes : List String} {r : LockReasons} :
    cat.resolve codes = .ok r ↔
      checkCodes codes = .ok () ∧ r = .describing cat (codes.map Text.trim).eraseDups := by
  rw [resolve_eq]
  cases checkCodes codes with
  | error why => exact ⟨(nomatch ·), fun ok => nomatch ok.1⟩
  | ok _ => exact ⟨fun ok => ⟨rfl, (Except.ok.inj ok).symm⟩, fun ok => congrArg Except.ok ok.2.symm⟩

/-- **Resolving fails exactly when some code is refused.** -/
theorem resolve_eq_error_iff (cat : Catalog) (codes : List String) :
    (∃ why, cat.resolve codes = .error why) ↔
      ∃ code ∈ codes, Text.trim code = "" ∨ maxPartLength < (Text.trim code).length := by
  have passes : checkCodes codes = .ok () ↔
      ¬ ∃ code ∈ codes, Text.trim code = "" ∨ maxPartLength < (Text.trim code).length := by
    rw [checkCodes_eq_ok_iff]
    simp only [checkPart_reasonCode_eq_ok_iff, not_exists, not_and]
  rw [resolve_eq, ← not_iff_not, ← passes]
  cases checkCodes codes with
  | error why => exact ⟨fun none => absurd ⟨why, rfl⟩ none, (nomatch ·)⟩
  | ok _ => exact ⟨fun _ => rfl, fun _ ⟨_, failed⟩ => nomatch failed⟩

/-- **Resolved codes resolve to themselves.** -/
theorem resolve_resolved {cat : Catalog} {codes : List String} {r : LockReasons}
    (resolved : cat.resolve codes = .ok r) : cat.resolve r.codes = .ok r := by
  obtain ⟨passes, rfl⟩ := resolve_eq_ok_iff.mp resolved
  have first := FirstOccurrences.eraseDups (codes.map Text.trim)
  have spelled : ∀ x ∈ (codes.map Text.trim).eraseDups, ∃ code ∈ codes, Text.trim code = x :=
    fun x mem => List.mem_map.mp ((first.mem_iff x).mp mem)
  have trimmed :
      (codes.map Text.trim).eraseDups.map Text.trim = (codes.map Text.trim).eraseDups := by
    refine (List.map_congr_left fun x mem => ?_).trans (List.map_id _)
    obtain ⟨code, -, rfl⟩ := spelled x mem
    exact Text.trim_trim code
  refine resolve_eq_ok_iff.mpr ⟨checkCodes_eq_ok_iff.mpr fun x mem => ?_, ?_⟩
  · obtain ⟨code, held, rfl⟩ := spelled x mem
    rw [Text.trim_trim]
    exact checkCodes_eq_ok_iff.mp passes code held
  · simp only [LockReasons.describing, trimmed, FirstOccurrences.eraseDups_of_nodup first.distinct]

/-- One more spelling of a code that was checked before changes no complaint. -/
theorem checkCodes_insert {before : List String} {code spelling : String} (old : code ∈ before)
    (same : Text.trim spelling = Text.trim code) (after : List String) :
    checkCodes (before ++ spelling :: after) = checkCodes (before ++ after) := by
  have passes : checkCodes before = .ok () →
      Key.checkPart .reasonCode (Text.trim spelling) = .ok () := by
    intro ok
    rw [same]
    exact checkCodes_eq_ok_iff.mp ok code old
  rw [checkCodes_append, checkCodes_append, checkCodes_cons]
  cases checked : checkCodes before with
  | error why => simp only [bind, Except.bind]
  | ok _ => simp only [bind, Except.bind, passes checked]

end Catalog

/-- **The reasons of a lock are an ordered set of codes, each with its message.**  For any catalog
and any list of codes:

- Resolving fails exactly if some code is blank or too long once it is trimmed.
- Otherwise the codes are the trimmed ones without repeats, in the order in which they come up
  first.
- There are as many messages as codes, and at the position of each code stands its message.
- Resolving the resulting codes once more gives the same reasons.
- A code that is repeated later on, with any white space around it, makes no difference. -/
theorem resolved_codes_are_ordered_set (cat : Catalog) (codes : List String) :
    ((∃ why, cat.resolve codes = .error why) ↔
      ∃ code ∈ codes, Text.trim code = "" ∨ 255 < (Text.trim code).length) ∧
    (∀ r, cat.resolve codes = .ok r →
      r.codes = (codes.map Text.trim).eraseDups ∧
      FirstOccurrences r.codes (codes.map Text.trim) ∧
      r.reasons.length = r.codes.length ∧
      (∀ i : Nat, r.reasons[i]? = r.codes[i]?.map cat.describe) ∧
      cat.resolve r.codes = .ok r) ∧
    ∀ before after code leading trailing, codes = before ++ after → code ∈ before →
      Text.IsBlank leading → Text.IsBlank trailing →
        cat.resolve (before ++ (leading ++ Text.trim code ++ trailing) :: after) =
          cat.resolve codes := by
  refine ⟨?_, fun r resolved => ?_, ?_⟩
  · exact cat.resolve_eq_error_iff codes
  · obtain ⟨-, rfl⟩ := Catalog.resolve_eq_ok_iff.mp resolved
    have first := FirstOccurrences.eraseDups (codes.map Text.trim)
    exact ⟨rfl, first, List.length_map _, fun i => List.getElem?_map,
      Catalog.resolve_resolved resolved⟩
  · rintro before after code leading trailing rfl old blank blank'
    have same : Text.trim (leading ++ Text.trim code ++ trailing) = Text.trim code := by
      rw [Text.trim_pad blank blank', Text.trim_trim]
    rw [Catalog.resolve_eq, Catalog.resolve_eq, Catalog.checkCodes_insert old same, List.map_append,
      List.map_append, List.map_cons, same,
      FirstOccurrences.eraseDups_insert (List.mem_map_of_mem old)]

/-- Codes with repeats in other spellings come to three codes, and one more spelling changes
nothing. -/
theorem padded_codes_resolve :
    let cat := Catalog.ofList [("B", "bee")]
    cat.resolve [" A ", "B", "A", "C\n"] = .ok ⟨["A", "B", "C"], ["A", "bee", "C"]⟩ ∧
      cat.resolve ["A", "B", "C"] = .ok ⟨["A", "B", "C"], ["A", "bee", "C"]⟩ ∧
      cat.resolve [" A ", "B", "\u3000" ++ "B" ++ "\t", "A", "C\n"] =
        .ok ⟨["A", "B", "C"], ["A", "bee", "C"]⟩ := by
  intro cat
  have resolved : cat.resolve [" A ", "B", "A", "C\n"] = .ok ⟨["A", "B", "C"], ["A", "bee", "C"]⟩ :=
    rfl
  obtain ⟨-, results, repeats⟩ := resolved_codes_are_ordered_set cat [" A ", "B", "A", "C\n"]
  obtain ⟨-, -, -, -, again⟩ := results _ resolved
  refine ⟨resolved, again, ?_⟩
  exact (repeats [" A ", "B"] ["A", "C\n"] "B" "\u3000" "\t" rfl (by simp) (by decide)
    (by decide)).trans resolved

end FeatureLock
