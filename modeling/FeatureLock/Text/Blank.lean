/-!
# Blank text

Keys, reason codes and storage mode names are trimmed, or refused when nothing
but white space remains.  White space here is the Unicode `White_Space`
property, twenty-five code points; the zero width space U+200B, the byte order
mark U+FEFF and the separators U+001C to U+001F are not among them.

## Main Definitions

- `isWhite`: the characters with the `White_Space` property
- `trim`: a text without the white space at its two ends
- `whiteSpace`, `IsBlank`: the code points with the property, and the texts that hold
  nothing else

Main statements: `isWhite_iff`, the characters that are trimmed are those with the
property; `trim_eq_empty_iff` (trimming leaves nothing exactly of blank text),
`trim_trim` (a trimmed text is unchanged by a second trim), `trim_pad` (white space
around a text does not count) and `exists_pad_trim` (nothing else is taken away).
-/

namespace FeatureLock.Text

/-- The characters with the Unicode `White_Space` property. -/
def isWhite (c : Char) : Bool :=
  let n := c.toNat
  (9 ≤ n && n ≤ 13) || n == 0x20 || n == 0x85 || n == 0xA0 || n == 0x1680 ||
    (0x2000 ≤ n && n ≤ 0x200A) || n == 0x2028 || n == 0x2029 || n == 0x202F ||
    n == 0x205F || n == 0x3000

/-- A list of characters without its trailing white space. -/
def trimEnd (cs : List Char) : List Char :=
  (cs.reverse.dropWhile isWhite).reverse

/-- A list of characters without the white space at its two ends. -/
def trimChars (cs : List Char) : List Char :=
  trimEnd (cs.dropWhile isWhite)

/-- A text without the white space at its two ends. -/
def trim (s : String) : String :=
  String.ofList (trimChars s.toList)

/-- The code points with the Unicode `White_Space` property. -/
def whiteSpace : List Nat :=
  [0x9, 0xA, 0xB, 0xC, 0xD, 0x20, 0x85, 0xA0, 0x1680, 0x2000, 0x2001, 0x2002, 0x2003, 0x2004,
    0x2005, 0x2006, 0x2007, 0x2008, 0x2009, 0x200A, 0x2028, 0x2029, 0x202F, 0x205F, 0x3000]

/-- A text is blank when it holds nothing but white space; the empty text is blank. -/
def IsBlank (s : String) : Prop :=
  ∀ c ∈ s.toList, c.toNat ∈ whiteSpace

instance (s : String) : Decidable (IsBlank s) :=
  List.decidableBAll (fun c : Char => c.toNat ∈ whiteSpace) s.toList

/-! ### White space -/

theorem isWhite_iff {c : Char} : isWhite c = true ↔ c.toNat ∈ whiteSpace := by
  simp only [isWhite, whiteSpace, List.mem_cons, List.not_mem_nil, Bool.or_eq_true,
    Bool.and_eq_true, decide_eq_true_eq, beq_iff_eq, or_false]
  omega

theorem isBlank_iff {s : String} : IsBlank s ↔ ∀ c ∈ s.toList, isWhite c = true := by
  simp only [IsBlank, isWhite_iff]

/-! ### Trimming -/

theorem dropWhile_isWhite_eq_nil_iff {cs : List Char} :
    cs.dropWhile isWhite = [] ↔ ∀ c ∈ cs, isWhite c = true := by
  induction cs with
  | nil => simp
  | cons a l ih => cases ha : isWhite a <;> simp [ha, ih]

theorem trimChars_eq_nil_iff {cs : List Char} :
    trimChars cs = [] ↔ ∀ c ∈ cs, isWhite c = true := by
  simp only [trimChars, trimEnd, List.reverse_eq_nil_iff, dropWhile_isWhite_eq_nil_iff,
    List.mem_reverse]
  constructor
  · intro h
    rw [← dropWhile_isWhite_eq_nil_iff]
    cases hc : cs.dropWhile isWhite with
    | nil => rfl
    | cons a l =>
      have ha : isWhite a = true := h a (by simp [hc])
      have hn := List.head?_dropWhile_not isWhite cs
      simp [hc, ha] at hn
  · intro h c hc
    exact h c ((List.dropWhile_sublist isWhite).subset hc)

/-- **Trimming leaves nothing exactly of blank text.** -/
theorem trim_eq_empty_iff {s : String} : trim s = "" ↔ IsBlank s := by
  rw [trim, ← String.toList_inj, String.toList_ofList, isBlank_iff]
  exact trimChars_eq_nil_iff

/-- Text that neither begins nor ends with white space is its own trim. -/
theorem trimChars_eq_self {cs : List Char}
    (first : ∀ c ∈ cs.head?, isWhite c = false)
    (last : ∀ c ∈ cs.getLast?, isWhite c = false) : trimChars cs = cs := by
  have hd : cs.dropWhile isWhite = cs := by
    cases cs with
    | nil => rfl
    | cons a l => simp [first a (by simp)]
  have he : cs.reverse.dropWhile isWhite = cs.reverse := by
    rw [← List.head?_reverse] at last
    cases hr : cs.reverse with
    | nil => rfl
    | cons a l => simp [last a (by simp [hr])]
  rw [trimChars, hd, trimEnd, he, List.reverse_reverse]

theorem not_isWhite_head_trimChars (cs : List Char) :
    ∀ c ∈ (trimChars cs).head?, isWhite c = false := by
  intro c hc
  have hp : trimChars cs <+: cs.dropWhile isWhite := by
    rw [trimChars, trimEnd]
    have := List.dropWhile_suffix isWhite (l := (cs.dropWhile isWhite).reverse)
    simpa using List.reverse_prefix.2 this
  obtain ⟨t, ht⟩ := hp
  have hn := List.head?_dropWhile_not isWhite cs
  cases hl : trimChars cs with
  | nil => simp [hl] at hc
  | cons a l =>
    rw [hl] at hc ht
    simp only [List.head?_cons, Option.mem_some_iff] at hc
    rw [← ht] at hn
    simp only [List.cons_append, List.head?_cons] at hn
    simpa [← hc] using hn

theorem not_isWhite_getLast_trimChars (cs : List Char) :
    ∀ c ∈ (trimChars cs).getLast?, isWhite c = false := by
  intro c hc
  rw [trimChars, trimEnd, List.getLast?_reverse] at hc
  have hn := List.head?_dropWhile_not isWhite (cs.dropWhile isWhite).reverse
  rw [Option.mem_def] at hc
  rw [hc] at hn
  simpa using hn

theorem trimChars_trimChars (cs : List Char) : trimChars (trimChars cs) = trimChars cs :=
  trimChars_eq_self (not_isWhite_head_trimChars cs) (not_isWhite_getLast_trimChars cs)

/-- **A trimmed text is unchanged by a second trim.** -/
theorem trim_trim (s : String) : trim (trim s) = trim s := by
  simp only [trim, String.toList_ofList, trimChars_trimChars]

theorem trimEnd_append {cs after : List Char} (blank : ∀ c ∈ after, isWhite c = true) :
    trimEnd (cs ++ after) = trimEnd cs := by
  rw [trimEnd, List.reverse_append, List.dropWhile_append_of_pos, trimEnd]
  intro c mem
  exact blank c (List.mem_reverse.mp mem)

theorem trimChars_pad {before cs after : List Char} (leading : ∀ c ∈ before, isWhite c = true)
    (trailing : ∀ c ∈ after, isWhite c = true) :
    trimChars (before ++ cs ++ after) = trimChars cs := by
  have dropped : after.dropWhile isWhite = [] := dropWhile_isWhite_eq_nil_iff.mpr trailing
  rw [trimChars, List.append_assoc, List.dropWhile_append_of_pos leading, List.dropWhile_append]
  split
  · next empty => rw [dropped, trimChars, List.isEmpty_iff.mp empty]
  · rw [trimEnd_append trailing, trimChars]

/-- **White space around a text does not count.** -/
theorem trim_pad {before after : String} (leading : IsBlank before) (trailing : IsBlank after)
    (s : String) : trim (before ++ s ++ after) = trim s := by
  rw [isBlank_iff] at leading trailing
  rw [trim, String.toList_append, String.toList_append, trimChars_pad leading trailing, trim]

/-- **A trim takes nothing away but white space.** -/
theorem exists_pad_trim (s : String) :
    ∃ before after, IsBlank before ∧ IsBlank after ∧ s = before ++ trim s ++ after := by
  let behind := s.toList.dropWhile isWhite
  refine ⟨String.ofList (s.toList.takeWhile isWhite),
    String.ofList (behind.reverse.takeWhile isWhite).reverse, ?_, ?_, ?_⟩
  · rw [isBlank_iff, String.toList_ofList]
    exact List.all_eq_true.mp List.all_takeWhile
  · rw [isBlank_iff, String.toList_ofList]
    intro c mem
    exact List.all_eq_true.mp List.all_takeWhile c (List.mem_reverse.mp mem)
  · have parts : behind = trimEnd behind ++ (behind.reverse.takeWhile isWhite).reverse := by
      rw [trimEnd, ← List.reverse_append, List.takeWhile_append_dropWhile, List.reverse_reverse]
    rw [← String.toList_inj, String.toList_append, String.toList_append, String.toList_ofList,
      String.toList_ofList, trim, String.toList_ofList, trimChars, List.append_assoc, ← parts,
      List.takeWhile_append_dropWhile]

end FeatureLock.Text
