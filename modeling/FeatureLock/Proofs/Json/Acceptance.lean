import FeatureLock.Proofs.Json.Reading

/-!
# Nothing but the grammar is read

The readers of strings and of lists of strings accept no text that does not follow the
grammar, and what they answer is what the text denotes.  With the other half, that the
grammar is read, this says exactly which texts are accepted.

Every statement goes from the answer of a reader back to the phrase at the front of the
text.  The inductions follow the reader: for a string they are on the length of the text,
since an escape takes up to twelve characters before the reader is back where it began.

Main statements: `scanText_eq_ok_iff`, `readStrings_eq_ok_iff` and
`whole_readStrings_eq_ok_iff`.
-/

namespace FeatureLock.Json

variable {s cs a rest : List Char} {ss : List String}

/-! ### Between tokens -/

namespace Gap

theorem trans (gap : Gap cs a) (gap' : Gap a rest) : Gap cs rest := by
  induction gap with
  | none rest => exact gap'
  | more space _ ih => exact .more space (ih gap')

theorem suffix (gap : Gap cs rest) : rest <:+ cs := by
  induction gap with
  | none rest => exact List.suffix_refl _
  | more _ _ ih => exact ih.trans (List.suffix_cons _ _)

/-- White space up to the end of a text. -/
theorem nil_iff : Gap rest [] ↔ skipSpace rest = [] := by
  refine ⟨fun gap => gap.skipSpace_eq, fun skipped => ?_⟩
  rw [← skipped]
  exact gap_skipSpace rest

/-- A gap in front of a character that is no space has no characters. -/
theorem eq_of_not_isSpace (gap : Gap cs rest) (token : ∀ c ∈ cs.head?, isSpace c = false) :
    cs = rest := by
  cases gap with
  | none _ => rfl
  | more space _ =>
    have other := token _ rfl
    rw [space_iff.mp space] at other
    cases other

/-- Up to the end of a text a gap holds nothing but spaces. -/
theorem isSpace_of_mem (gap : Gap cs []) {c : Char} (mem : c ∈ cs) : isSpace c = true := by
  generalize ends : ([] : List Char) = rest at gap
  induction gap with
  | none rest =>
    subst ends
    cases mem
  | more space _ ih =>
    rcases List.mem_cons.mp mem with rfl | later
    · exact space_iff.mp space
    · exact ih later ends

end Gap

theorem gap_of_next_more {close : Char} (found : next close cs = .ok (.more rest)) :
    Gap cs (',' :: rest) := by
  have gap := gap_skipSpace cs
  simp only [next] at found
  split at found
  · cases found
  · next c more token =>
    rw [token] at gap
    split at found
    · next comma =>
      cases found
      rw [← comma]
      exact gap
    · split at found <;> cases found

theorem gap_of_next_done {close : Char} (found : next close cs = .ok (.done rest)) :
    Gap cs (close :: rest) := by
  have gap := gap_skipSpace cs
  simp only [next] at found
  split at found
  · cases found
  · next c more token =>
    rw [token] at gap
    split at found
    · cases found
    · split at found
      · next closes =>
        cases found
        rw [← closes]
        exact gap
      · cases found

/-! ### Strings -/

theorem eq_ok_of_pushChar {c : Char} {scan : Scan (List Char)}
    (pushed : pushChar c scan = .ok (s, rest)) : ∃ s', s = c :: s' ∧ scan = .ok (s', rest) := by
  cases scan with
  | error e => cases pushed
  | ok found =>
    cases pushed
    exact ⟨_, rfl, rfl⟩

/-- Where a hexadecimal digit is due there is one. -/
theorem hexDigit_of_scanText {strict : Bool} {lead : Option Nat} {left code : Nat}
    (read : scanText strict (.hex lead left code) cs = .ok (s, rest)) :
    ∃ c d more, cs = c :: more ∧ hexValue? c = some d := by
  cases cs with
  | nil => cases read
  | cons c more =>
    cases digit : hexValue? c with
    | none =>
      rw [scanText, digit] at read
      cases read
    | some d => exact ⟨c, d, more, rfl, digit⟩

/-- A digit that is not the last one. -/
theorem scanText_hex {strict : Bool} {lead : Option Nat} {left code d : Nat} {c : Char}
    (digit : hexValue? c = some d) (cs : List Char) :
    scanText strict (.hex lead (left + 1) code) (c :: cs) =
      scanText strict (.hex lead left (code * 16 + d)) cs := by
  rw [scanText, digit]

/-- Where four hexadecimal digits are due they are there. -/
theorem code_of_scanText {strict : Bool} {lead : Option Nat}
    (read : scanText strict (.hex lead 3 0) cs = .ok (s, rest)) : ∃ n mid, Code n cs mid := by
  obtain ⟨c₁, w, cs, rfl, first⟩ := hexDigit_of_scanText read
  rw [scanText_hex first] at read
  obtain ⟨c₂, x, cs, rfl, second⟩ := hexDigit_of_scanText read
  rw [scanText_hex second] at read
  obtain ⟨c₃, y, cs, rfl, third⟩ := hexDigit_of_scanText read
  rw [scanText_hex third] at read
  obtain ⟨c₄, z, cs, rfl, fourth⟩ := hexDigit_of_scanText read
  exact ⟨_, cs, .digits (hexDigit_iff.mpr first) (hexDigit_iff.mpr second)
    (hexDigit_iff.mpr third) (hexDigit_iff.mpr fourth) cs⟩

/-- Behind the first half of a surrogate pair comes the escape of the second one. -/
theorem pair_of_scanText {lead : Nat} (read : scanText true (.pairSlash lead) cs = .ok (s, rest)) :
    ∃ mid, cs = '\\' :: 'u' :: mid ∧ scanText true (.hex (some lead) 3 0) mid = .ok (s, rest) := by
  cases cs with
  | nil => cases read
  | cons slash cs =>
    rw [scanText] at read
    split at read
    · next isSlash =>
      cases cs with
      | nil => cases read
      | cons letter cs =>
        rw [scanText] at read
        split at read
        · next isLetter =>
          split at read
          · exact ⟨cs, by rw [isSlash, isLetter], read⟩
          · cases read
        · cases read
    · cases read

/-- An escape by number is followed by a string, and is no half of a surrogate pair on its own. -/
theorem spelled_of_scanCode (read : scanText true (.hex none 3 0) cs = .ok (s, rest))
    (more : ∀ s mid, mid.length < cs.length → scanText true .plain mid = .ok (s, rest) →
      Spelled s mid rest) :
    Spelled s ('\\' :: 'u' :: cs) rest := by
  obtain ⟨n, mid, code⟩ := code_of_scanText read
  have shorter := code.length_eq
  rw [code.scanText_eq] at read
  simp only [Bool.true_and] at read
  split at read
  · cases read
  · next notTrailing =>
    rw [Bool.not_eq_true] at notTrailing
    split at read
    · next leading =>
      obtain ⟨mid', rfl, readTrail⟩ := pair_of_scanText read
      obtain ⟨trail, behind, second⟩ := code_of_scanText readTrail
      have shorter' := second.length_eq
      rw [second.scanText_eq] at readTrail
      simp only at readTrail
      split at readTrail
      · next trailing =>
        obtain ⟨s', rfl, others⟩ := eq_ok_of_pushChar readTrail
        simp only [List.length_cons] at shorter
        exact .pair code second (surrogatePair_iff.mpr ⟨leading, trailing, rfl⟩)
          (more s' behind (by omega) others)
      · cases readTrail
    · next notLeading =>
      rw [Bool.not_eq_true] at notLeading
      obtain ⟨s', rfl, others⟩ := eq_ok_of_pushChar read
      rw [← toNat_ofNat (isValidChar_of code.lt notLeading notTrailing)] at code
      exact .code code (more s' mid (by omega) others)

/-- An escape is followed by a string. -/
theorem spelled_of_scanEscape (read : scanText true .escape cs = .ok (s, rest))
    (more : ∀ s mid, mid.length < cs.length → scanText true .plain mid = .ok (s, rest) →
      Spelled s mid rest) :
    Spelled s ('\\' :: cs) rest := by
  cases cs with
  | nil => cases read
  | cons letter cs =>
    rw [scanText] at read
    split at read
    · next c isLetter =>
      obtain ⟨s', rfl, others⟩ := eq_ok_of_pushChar read
      exact .short (escape_iff.mpr isLetter) (more s' cs (Nat.lt_succ_self _) others)
    · split at read
      · next isU =>
        subst isU
        split at read
        · exact spelled_of_scanCode read fun s mid shorter =>
            more s mid (Nat.lt_succ_of_lt shorter)
        · cases read
      · cases read

/-- **A string that is read denotes what was read.** -/
theorem spelled_of_scanText (read : scanText true .plain cs = .ok (s, rest)) :
    Spelled s cs rest := by
  induction length : cs.length using Nat.strongRecOn generalizing cs s with
  | ind n ih =>
    have more : ∀ s mid, mid.length < cs.length → scanText true .plain mid = .ok (s, rest) →
        Spelled s mid rest :=
      fun s mid shorter read => ih mid.length (length ▸ shorter) read rfl
    cases cs with
    | nil => cases read
    | cons c cs =>
      rw [scanText] at read
      split at read
      · next quote =>
        cases read
        rw [quote]
        exact .close _
      · next quote =>
        split at read
        · next slash =>
          rw [slash]
          exact spelled_of_scanEscape read fun s mid shorter =>
            more s mid (Nat.lt_succ_of_lt shorter)
        · next slash =>
          split at read
          · cases read
          · next printable =>
            obtain ⟨s', rfl, others⟩ := eq_ok_of_pushChar read
            exact .plain quote slash (Nat.le_of_not_lt printable)
              (more s' cs (Nat.lt_succ_self _) others)

/-- **The strings that are read**, and what they are read as. -/
theorem scanText_eq_ok_iff : scanText true .plain cs = .ok (s, rest) ↔ Spelled s cs rest :=
  ⟨spelled_of_scanText, scanText_spelled⟩

theorem Code.suffix {n : Nat} (code : Code n cs rest) : rest <:+ cs := by
  obtain ⟨-, -, -, -, rest⟩ := code
  exact ⟨[_, _, _, _], rfl⟩

theorem Spelled.suffix (spelled : Spelled s cs rest) : rest <:+ cs := by
  induction spelled with
  | close rest => exact List.suffix_cons _ _
  | plain _ _ _ _ ih => exact ih.trans (List.suffix_cons _ _)
  | short _ _ ih => exact ih.trans ((List.suffix_cons _ _).trans (List.suffix_cons _ _))
  | code code _ ih =>
    exact ih.trans (code.suffix.trans ((List.suffix_cons _ _).trans (List.suffix_cons _ _)))
  | pair first second _ _ ih =>
    have behind := (List.suffix_cons '\\' _).trans first.suffix
    exact ih.trans (second.suffix.trans ((List.suffix_cons _ _).trans
      (behind.trans ((List.suffix_cons _ _).trans (List.suffix_cons _ _)))))

/-! ### Lists of strings -/

theorem spelled_of_readChars (read : readChars cs = .ok (s, rest)) :
    ∃ a, Gap cs ('"' :: a) ∧ Spelled s a rest := by
  have gap := gap_skipSpace cs
  simp only [readChars] at read
  split at read
  · next a opens =>
    rw [opens] at gap
    exact ⟨a, gap, spelled_of_scanText read⟩
  · cases read

/-- **The strings of a list that are read** follow the grammar, whatever the budget. -/
theorem textItems_of_readTextItems {n : Nat} (read : readTextItems n cs = .ok (ss, rest)) :
    TextItems ss cs rest := by
  induction n generalizing cs ss with
  | zero => cases read
  | succ n ih =>
    rw [readTextItems] at read
    cases first : readChars cs with
    | error e =>
      rw [first] at read
      cases read
    | ok found =>
      obtain ⟨s, b⟩ := found
      obtain ⟨a, gap, text⟩ := spelled_of_readChars first
      simp only [first, bind, Except.bind] at read
      cases token : next ']' b with
      | error e =>
        rw [token] at read
        cases read
      | ok step =>
        rw [token] at read
        cases step with
        | done rest' =>
          cases read
          exact .last gap text (gap_of_next_done token)
        | more b' =>
          simp only at read
          cases others : readTextItems n b' with
          | error e =>
            rw [others] at read
            cases read
          | ok found =>
            rw [others] at read
            cases read
            exact .more gap text (gap_of_next_more token) (ih others)

theorem TextItems.gap (gap : Gap cs a) (items : TextItems ss a rest) : TextItems ss cs rest := by
  cases items with
  | last gap' text ends => exact .last (gap.trans gap') text ends
  | more gap' text comma more => exact .more (gap.trans gap') text comma more

/-- **The lists of strings that are read**, and what they are read as. -/
theorem readStrings_eq_ok_iff :
    readStrings cs = .ok (ss, rest) ↔ ∃ a, Gap cs a ∧ TextList ss a rest := by
  constructor
  · intro read
    have gap := gap_skipSpace cs
    simp only [readStrings] at read
    split at read
    · next b opens =>
      rw [opens] at gap
      refine ⟨_, gap, ?_⟩
      have inner := gap_skipSpace b
      split at read
      · next ends closes =>
        cases read
        rw [closes] at inner
        exact .empty inner
      · exact .items ((textItems_of_readTextItems read).gap inner)
    · cases read
  · rintro ⟨a, gap, list⟩
    rw [← readStrings_textList list, readStrings, readStrings, gap.skipSpace_eq]

theorem TextItems.suffix (items : TextItems ss cs rest) : ']' :: rest <:+ cs := by
  induction items with
  | last gap text ends =>
    exact ends.suffix.trans (text.suffix.trans ((List.suffix_cons _ _).trans gap.suffix))
  | more gap text comma _ ih =>
    have behind := (List.suffix_cons ',' _).trans comma.suffix
    exact ih.trans (behind.trans (text.suffix.trans ((List.suffix_cons _ _).trans gap.suffix)))

/-- A list ends with its closing bracket. -/
theorem TextList.suffix (list : TextList ss cs rest) : ']' :: rest <:+ cs := by
  cases list with
  | empty ends => exact ends.suffix.trans (List.suffix_cons _ _)
  | items items => exact items.suffix.trans (List.suffix_cons _ _)

/-- **The texts that are one list of strings**, with white space around it and nothing else. -/
theorem whole_readStrings_eq_ok_iff {text : String} :
    whole readStrings text = .ok ss ↔
      ∃ a rest, Gap text.toList a ∧ TextList ss a rest ∧ Gap rest [] := by
  constructor
  · intro read
    simp only [whole] at read
    cases found : readStrings text.toList with
    | error e =>
      rw [found] at read
      cases read
    | ok found' =>
      obtain ⟨ss', rest⟩ := found'
      obtain ⟨a, gap, list⟩ := readStrings_eq_ok_iff.mp found
      simp only [found, bind, Except.bind] at read
      split at read
      · next ends =>
        cases read
        exact ⟨a, rest, gap, list, Gap.nil_iff.mpr ends⟩
      · cases read
  · rintro ⟨a, rest, gap, list, ends⟩
    simp only [whole, readStrings_eq_ok_iff.mpr ⟨a, gap, list⟩, bind, Except.bind,
      Gap.nil_iff.mp ends]

end FeatureLock.Json
