import FeatureLock.Json.Record
import FeatureLock.Proofs.Json.Grammar

/-!
# What the grammar admits is read

The readers of strings, of lists of strings and of values that nobody asks for accept
every text that follows the grammar, and stop where the phrase ends.  The functions by
which they tell characters apart and take them for others mean what the grammar says.

Every statement has the form of a rule: from the phrase at the front of a text and
what is left behind it follows the answer of the reader.  So each is an induction on
the phrase, and the case of a rule is one step of the reader.

Main statements: `space_iff`, `escape_iff`, `hexDigit_iff` and `surrogatePair_iff`, the
classes of characters; and `scanText_spelled`, `readStrings_textList`, `Number.scan` and
`skipValue_wellFormed`.
-/

namespace FeatureLock.Json

/-! ### Characters -/

variable {c : Char} {n : Nat}

theorem space_iff : Space c ↔ isSpace c = true := by
  constructor
  · rintro ⟨⟩ <;> rfl
  · intro space
    simp only [isSpace, Bool.or_eq_true, decide_eq_true_eq] at space
    rcases space with ((rfl | rfl) | rfl) | rfl
    · exact .blank
    · exact .tab
    · exact .lineFeed
    · exact .carriageReturn

theorem escape_iff {l : Char} : Escape l c ↔ escaped? l = some c := by
  constructor
  · rintro ⟨⟩ <;> rfl
  · intro escaped
    unfold escaped? at escaped
    split at escaped <;> cases escaped
    · exact .quote
    · exact .backslash
    · exact .slash
    · exact .backspace
    · exact .formFeed
    · exact .lineFeed
    · exact .carriageReturn
    · exact .tab

theorem le_iff_toNat {a b : Char} : a ≤ b ↔ a.toNat ≤ b.toNat :=
  Char.le_def.trans UInt32.le_iff_toNat_le

/-- The place of a character in a run of characters whose numbers follow each other. -/
theorem getElem?_of_run (cs : List Char) (p k len : Nat)
    (run : ∀ m : Fin len, cs[p + m]? = some (Char.ofNat (k + m))) (low : k ≤ c.toNat)
    (high : c.toNat < k + len) : cs[p + (c.toNat - k)]? = some c := by
  have place := run ⟨c.toNat - k, by omega⟩
  rwa [Nat.add_sub_cancel' low, Char.ofNat_toNat] at place

theorem hexDigit_of_hexValue? (value : hexValue? c = some n) : HexDigit c n := by
  simp only [hexValue?, le_iff_toNat, Char.reduceToNat] at value
  split at value
  · next range =>
    cases value
    have place := getElem?_of_run "0123456789abcdef".toList 0 48 10 (by decide) range.1 (by omega)
    exact .lower (by rwa [Nat.zero_add] at place)
  · split at value
    · next range =>
      cases value
      have place := getElem?_of_run "0123456789abcdef".toList 10 97 6 (by decide) range.1 (by omega)
      have same : 10 + (c.toNat - 97) = c.toNat - 87 := by omega
      exact .lower (by rwa [same] at place)
    · split at value
      · next range =>
        cases value
        have place :=
          getElem?_of_run "0123456789ABCDEF".toList 10 65 6 (by decide) range.1 (by omega)
        have same : 10 + (c.toNat - 65) = c.toNat - 55 := by omega
        exact .upper (by rwa [same] at place)
      · cases value

theorem hexValue?_of_hexDigit (digit : HexDigit c n) : hexValue? c = some n := by
  have lower : ∀ m : Fin 16, hexValue? "0123456789abcdef".toList[m] = some m.val := by decide
  have upper : ∀ m : Fin 16, hexValue? "0123456789ABCDEF".toList[m] = some m.val := by decide
  cases digit with
  | lower place =>
    obtain ⟨within, rfl⟩ := List.getElem?_eq_some_iff.mp place
    exact lower ⟨n, within⟩
  | upper place =>
    obtain ⟨within, rfl⟩ := List.getElem?_eq_some_iff.mp place
    exact upper ⟨n, within⟩

theorem hexDigit_iff : HexDigit c n ↔ hexValue? c = some n :=
  ⟨hexValue?_of_hexDigit, hexDigit_of_hexValue?⟩

theorem HexDigit.lt (digit : HexDigit c n) : n < 16 := by
  cases digit with
  | lower place => exact (List.getElem?_eq_some_iff.mp place).1
  | upper place => exact (List.getElem?_eq_some_iff.mp place).1

theorem toNat_ofNat (valid : n.isValidChar) : (Char.ofNat n).toNat = n := by
  rw [Char.ofNat, dif_pos valid]
  rfl

/-- The number of a character is no half of a surrogate pair. -/
theorem not_isLeading_toNat (c : Char) : isLeading c.toNat = false := by
  have valid : c.toNat.isValidChar := c.valid
  simp only [Nat.isValidChar] at valid
  simp only [isLeading, Bool.and_eq_false_iff, decide_eq_false_iff_not]
  omega

theorem not_isTrailing_toNat (c : Char) : isTrailing c.toNat = false := by
  have valid : c.toNat.isValidChar := c.valid
  simp only [Nat.isValidChar] at valid
  simp only [isTrailing, Bool.and_eq_false_iff, decide_eq_false_iff_not]
  omega

/-- A number of four digits that is no half of a surrogate pair is that of a character. -/
theorem isValidChar_of (lt : n < 0x10000) (notLeading : isLeading n = false)
    (notTrailing : isTrailing n = false) : n.isValidChar := by
  simp only [isLeading, isTrailing, Bool.and_eq_false_iff, decide_eq_false_iff_not] at *
  simp only [Nat.isValidChar]
  omega

/-- **The halves of a surrogate pair are joined to the character that they denote.** -/
theorem surrogatePair_iff {lead trail : Nat} : SurrogatePair lead trail c ↔
    isLeading lead = true ∧ isTrailing trail = true ∧ joinPair lead trail = c := by
  simp only [isLeading, isTrailing, Bool.and_eq_true, decide_eq_true_eq, joinPair]
  constructor
  · rintro ⟨lead_ge, lead_lt, trail_ge, trail_lt, denotes⟩
    refine ⟨⟨lead_ge, by omega⟩, ⟨trail_ge, by omega⟩, ?_⟩
    rw [← denotes, Char.ofNat_toNat]
  · rintro ⟨⟨lead_ge, lead_le⟩, ⟨trail_ge, trail_le⟩, rfl⟩
    refine ⟨lead_ge, by omega, trail_ge, by omega, toNat_ofNat (.inr ⟨?_, ?_⟩)⟩ <;> omega

/-! ### Between tokens -/

theorem skipSpace_of_head {c : Char} (h : isSpace c = false) (cs : List Char) :
    skipSpace (c :: cs) = c :: cs := by
  simp [skipSpace, h]

/-- What is passed over is white space. -/
theorem gap_skipSpace (cs : List Char) : Gap cs (skipSpace cs) := by
  induction cs with
  | nil => exact .none []
  | cons c cs ih =>
    cases space : isSpace c with
    | true =>
      have passed : skipSpace (c :: cs) = skipSpace cs := by simp [skipSpace, space]
      rw [passed]
      exact .more (space_iff.mpr space) ih
    | false =>
      rw [skipSpace_of_head space]
      exact .none _

namespace Gap

variable {c : Char} {cs rest : List Char}

theorem skipSpace_eq (gap : Gap cs rest) : skipSpace cs = skipSpace rest := by
  induction gap with
  | none rest => rfl
  | more space _ ih => simpa [skipSpace, space_iff.mp space] using ih

/-- Behind white space comes a token. -/
theorem token (gap : Gap cs (c :: rest)) (h : isSpace c = false) : skipSpace cs = c :: rest := by
  rw [gap.skipSpace_eq, skipSpace_of_head h]

theorem length_le (gap : Gap cs rest) : rest.length ≤ cs.length := by
  induction gap with
  | none rest => exact Nat.le_refl _
  | more _ _ ih => exact Nat.le_succ_of_le ih

theorem length_lt (gap : Gap cs (c :: rest)) : rest.length < cs.length :=
  gap.length_le

theorem next_more (gap : Gap cs (',' :: rest)) (close : Char) :
    next close cs = .ok (.more rest) := by
  simp only [next, gap.token (by decide), ↓reduceIte]

theorem next_done {close : Char} (gap : Gap cs (close :: rest)) (bracket : isSpace close = false)
    (other : close ≠ ',') : next close cs = .ok (.done rest) := by
  simp only [next, gap.token bracket, other, ↓reduceIte]

theorem colon_eq (gap : Gap cs (':' :: rest)) : colon cs = .ok rest := by
  simp only [colon, gap.token (by decide), ↓reduceIte]

theorem openName_eq (gap : Gap cs ('"' :: rest)) : openName cs = .ok rest := by
  simp only [openName, gap.token (by decide), ↓reduceIte]

end Gap

/-! ### Strings -/

namespace Code

variable {n : Nat} {cs rest : List Char}

theorem length_eq (code : Code n cs rest) : cs.length = rest.length + 4 := by
  cases code
  rfl

theorem lt (code : Code n cs rest) : n < 0x10000 := by
  obtain ⟨first, second, third, fourth, -⟩ := code
  have := first.lt
  have := second.lt
  have := third.lt
  have := fourth.lt
  omega

theorem hasFourBytes_eq (code : Code n cs rest) : hasFourBytes cs = true := by
  obtain ⟨-, -, -, -, -⟩ := code
  next a b c d _ _ _ _ =>
  have := a.utf8Size_pos
  have := b.utf8Size_pos
  have := c.utf8Size_pos
  have := d.utf8Size_pos
  simp only [hasFourBytes, List.take_succ_cons, List.take_zero, List.foldl_cons, List.foldl_nil]
  refine decide_eq_true ?_
  omega

/-- The last of the four digits settles what becomes of them. -/
theorem scanText_eq (code : Code n cs rest) (strict : Bool) (lead : Option Nat) :
    scanText strict (.hex lead 3 0) cs =
      match lead with
      | none =>
        if strict && isTrailing n then .error .malformed
        else if strict && isLeading n then scanText strict (.pairSlash n) rest
        else pushChar (Char.ofNat n) (scanText strict .plain rest)
      | some first =>
        if isTrailing n then pushChar (joinPair first n) (scanText strict .plain rest)
        else .error .malformed := by
  obtain ⟨first, second, third, fourth, rest⟩ := code
  rw [scanText, hexDigit_iff.mp first]
  simp only [Nat.zero_mul, Nat.zero_add]
  rw [scanText, hexDigit_iff.mp second]
  simp only
  rw [scanText, hexDigit_iff.mp third]
  simp only
  rw [scanText, hexDigit_iff.mp fourth]
  cases lead <;> rfl

end Code

theorem not_isTrailing_of_isLeading {n : Nat} (h : isLeading n = true) : isTrailing n = false := by
  simp only [isLeading, isTrailing, Bool.and_eq_true, decide_eq_true_eq, Bool.and_eq_false_iff,
    decide_eq_false_iff_not] at h ⊢
  omega

theorem scanText_quote (strict : Bool) (rest : List Char) :
    scanText strict .plain ('"' :: rest) = .ok ([], rest) := by
  rw [scanText, if_pos rfl]

/-- A character that stands for itself. -/
theorem scanText_plain {strict : Bool} {c : Char} {cs : List Char} (quote : c ≠ '"')
    (slash : c ≠ '\\') (printable : 0x20 ≤ c.toNat) :
    scanText strict .plain (c :: cs) = pushChar c (scanText strict .plain cs) := by
  rw [scanText, if_neg quote, if_neg slash, if_neg (Nat.not_lt.mpr printable)]

theorem scanText_short {strict : Bool} {l c : Char} {cs : List Char}
    (letter : Escape l c) :
    scanText strict .plain ('\\' :: l :: cs) = pushChar c (scanText strict .plain cs) := by
  rw [scanText, if_neg (by decide), if_pos rfl, scanText, escape_iff.mp letter]

theorem scanText_u {strict : Bool} {cs : List Char} (enough : hasFourBytes cs = true) :
    scanText strict .plain ('\\' :: 'u' :: cs) = scanText strict (.hex none 3 0) cs := by
  rw [scanText, if_neg (by decide), if_pos rfl, scanText]
  simp only [show escaped? 'u' = none from rfl, ↓reduceIte, enough]

/-- The second half of a surrogate pair begins with an escape of its own. -/
theorem scanText_pair {lead : Nat} {cs : List Char} (enough : hasFourBytes cs = true) :
    scanText true (.pairSlash lead) ('\\' :: 'u' :: cs) =
      scanText true (.hex (some lead) 3 0) cs := by
  rw [scanText, if_pos rfl, scanText, if_pos rfl, if_pos enough]

/-- **A string is read as the characters it denotes.** -/
theorem scanText_spelled {s cs rest : List Char} (spelled : Spelled s cs rest) :
    scanText true .plain cs = .ok (s, rest) := by
  induction spelled with
  | close rest => exact scanText_quote true rest
  | plain quote slash printable _ ih => rw [scanText_plain quote slash printable, ih, pushChar]
  | short letter _ ih => rw [scanText_short letter, ih, pushChar]
  | code code _ ih =>
    rw [scanText_u code.hasFourBytes_eq, code.scanText_eq]
    simp only [not_isLeading_toNat, not_isTrailing_toNat, Bool.and_false, Bool.false_eq_true,
      ↓reduceIte, ih, pushChar, Char.ofNat_toNat]
  | pair first second joins _ ih =>
    obtain ⟨leading, trailing, rfl⟩ := surrogatePair_iff.mp joins
    -- the first half is no character yet: the reader waits for the second escape
    rw [scanText_u first.hasFourBytes_eq, first.scanText_eq]
    simp only [not_isTrailing_of_isLeading leading, leading, Bool.and_false, Bool.and_true,
      Bool.false_eq_true, ↓reduceIte]
    rw [scanText_pair second.hasFourBytes_eq, second.scanText_eq]
    simp only [trailing, ↓reduceIte, ih, pushChar]

theorem exists_pushChar {c : Char} {scan : Scan (List Char)} {rest : List Char}
    (h : ∃ s, scan = .ok (s, rest)) : ∃ s, pushChar c scan = .ok (s, rest) := by
  obtain ⟨s, rfl⟩ := h
  exact ⟨c :: s, rfl⟩

/-- A string that nobody asks for is passed over. -/
theorem scanText_isSpelled {cs rest : List Char} (spelled : IsSpelled cs rest) :
    ∃ s, scanText false .plain cs = .ok (s, rest) := by
  induction spelled with
  | close rest => exact ⟨[], scanText_quote false rest⟩
  | plain quote slash printable _ ih =>
    rw [scanText_plain quote slash printable]
    exact exists_pushChar ih
  | short letter _ ih =>
    rw [scanText_short letter]
    exact exists_pushChar ih
  | code code _ ih =>
    rw [scanText_u code.hasFourBytes_eq, code.scanText_eq]
    simp only [Bool.false_and, Bool.false_eq_true, ↓reduceIte]
    exact exists_pushChar ih

theorem IsSpelled.length_lt {cs rest : List Char} (spelled : IsSpelled cs rest) :
    rest.length < cs.length := by
  induction spelled with
  | close rest => exact Nat.lt_succ_self _
  | plain _ _ _ _ ih => exact Nat.lt_succ_of_lt ih
  | short _ _ ih => exact Nat.lt_succ_of_lt (Nat.lt_succ_of_lt ih)
  | code code _ ih =>
    have := code.length_eq
    simp only [List.length_cons] at this ⊢
    omega

theorem Spelled.length_lt {s cs rest : List Char} (spelled : Spelled s cs rest) :
    rest.length < cs.length :=
  spelled.isSpelled.length_lt

/-! ### Lists of strings -/

theorem readChars_spelled {s cs a rest : List Char} (gap : Gap cs ('"' :: a))
    (text : Spelled s a rest) : readChars cs = .ok (s, rest) := by
  simp only [readChars, gap.token (by decide), scanText_spelled text]

/-- A step of the budget is spent on each string. -/
theorem readTextItems_textItems {ss : List String} {cs rest : List Char}
    (items : TextItems ss cs rest) {n : Nat} (enough : cs.length ≤ n) :
    readTextItems n cs = .ok (ss, rest) := by
  induction items generalizing n with
  | last gap text ends =>
    have shorter := gap.length_lt
    obtain ⟨m, rfl⟩ := Nat.exists_eq_add_one_of_ne_zero (by omega : n ≠ 0)
    rw [readTextItems, readChars_spelled gap text]
    simp only [bind, Except.bind, ends.next_done (by decide) (by decide)]
  | more gap text comma _ ih =>
    have shorter := gap.length_lt
    have behindText := text.length_lt
    have behindComma := comma.length_lt
    obtain ⟨m, rfl⟩ := Nat.exists_eq_add_one_of_ne_zero (by omega : n ≠ 0)
    have others := ih (n := m) (by omega)
    rw [readTextItems, readChars_spelled gap text]
    simp only [bind, Except.bind, comma.next_more, others, Except.map]

/-- The first string of a list begins with a quote. -/
theorem TextItems.skipSpace {ss : List String} {cs rest : List Char}
    (items : TextItems ss cs rest) :
    ∃ a, Json.skipSpace cs = '"' :: a ∧ TextItems ss ('"' :: a) rest := by
  cases items with
  | last gap text ends => exact ⟨_, gap.token (by decide), .last (.none _) text ends⟩
  | more gap text comma more => exact ⟨_, gap.token (by decide), .more (.none _) text comma more⟩

/-- **A list of strings is read as these strings.** -/
theorem readStrings_textList {ss : List String} {cs rest : List Char} (list : TextList ss cs rest) :
    readStrings cs = .ok (ss, rest) := by
  cases list with
  | empty ends =>
    rw [readStrings, skipSpace_of_head (by decide)]
    simp only [ends.token (show isSpace ']' = false by decide)]
  | items items =>
    obtain ⟨a, opens, items⟩ := items.skipSpace
    rw [readStrings, skipSpace_of_head (by decide)]
    simp only [opens]
    exact readTextItems_textItems items (by simp only [budget]; omega)

/-! ### Numbers -/

/-- No digit goes on here. -/
def EndsDigits (rest : List Char) : Prop :=
  ∀ c ∈ rest.head?, Numeral.isDigit c = false

theorem scanDigits_isDigits {ds rest : List Char} (digits : IsDigits ds) (ends : EndsDigits rest)
    (atEnd : Fault) : scanDigits atEnd (ds ++ rest) = .ok (ds, rest) := by
  have none : rest.takeWhile Numeral.isDigit = [] ∧ rest.dropWhile Numeral.isDigit = rest := by
    cases rest with
    | nil => exact ⟨rfl, rfl⟩
    | cons c rest => simp [ends c rfl]
  rw [scanDigits, Numeral.spanDigits, List.takeWhile_append_of_pos digits.2,
    List.dropWhile_append_of_pos digits.2, none.1, none.2, List.append_nil]
  cases ds with
  | nil => exact absurd rfl digits.1
  | cons d ds => rfl

theorem IsDigits.head {ds : List Char} (digits : IsDigits ds) :
    ∃ d more, ds = d :: more ∧ Numeral.isDigit d = true := by
  cases ds with
  | nil => exact absurd rfl digits.1
  | cons d more => exact ⟨d, more, rfl, digits.2 d List.mem_cons_self⟩

/-- A digit is no sign. -/
theorem cons_ne_cons_of_isDigit {d sign : Char} (digit : Numeral.isDigit d = true)
    (noDigit : Numeral.isDigit sign = false) (ds rest : List Char) : d :: ds ≠ sign :: rest := by
  rintro ⟨⟩
  rw [digit] at noDigit
  cases noDigit

theorem Stops.endsDigits {rest : List Char} (stops : Stops rest) : EndsDigits rest :=
  fun c first => (stops c first).1

theorem Exponent.scan {exponent : Option (Bool × List Char)} {cs rest : List Char}
    (power : Exponent exponent cs) (stops : Stops rest) (atEnd : Fault) :
    scanExponent atEnd (cs ++ rest) = .ok (exponent, rest) := by
  cases power with
  | none =>
    cases rest with
    | nil => rfl
    | cons c rest =>
      have stop := stops c rfl
      simp [scanExponent, stop]
  | unsigned letter digits =>
    have scan := scanDigits_isDigits digits stops.endsDigits atEnd
    obtain ⟨d, more, rfl, digit⟩ := digits.head
    rw [List.cons_append, scanExponent, if_pos letter, scan]
    · rfl
    · exact cons_ne_cons_of_isDigit digit rfl _
    · exact cons_ne_cons_of_isDigit digit rfl _
  | plus letter digits =>
    rw [List.cons_append, List.cons_append, scanExponent, if_pos letter]
    simp only [scanDigits_isDigits digits stops.endsDigits, Except.map]
  | minus letter digits =>
    rw [List.cons_append, List.cons_append, scanExponent, if_pos letter]
    simp only [scanDigits_isDigits digits stops.endsDigits, Except.map]

/-- What follows the digits before a point or behind it goes on with no digit, and with no point. -/
theorem Exponent.ends {exponent : Option (Bool × List Char)} {cs rest : List Char}
    (power : Exponent exponent cs) (stops : Stops rest) :
    ∀ c ∈ (cs ++ rest).head?, Numeral.isDigit c = false ∧ c ≠ '.' := by
  have letters : ∀ e : Char, e = 'e' ∨ e = 'E' → Numeral.isDigit e = false ∧ e ≠ '.' := by
    rintro e (rfl | rfl) <;> decide
  cases power with
  | none => exact fun c first => ⟨(stops c first).1, (stops c first).2.1⟩
  | unsigned letter _ | plus letter _ | minus letter _ =>
    rintro c ⟨⟩
    exact letters _ letter

theorem Unsigned.scan {negative : Bool} {t : NumberText} {cs rest : List Char}
    (unsigned : Unsigned negative t cs) (stops : Stops rest) (atEnd : Fault) :
    scanUnsigned atEnd negative (cs ++ rest) = .ok (t, rest) := by
  obtain ⟨isWhole, fraction, power⟩ := unsigned
  next whole part fractionText exponentText exponent =>
  have ends := power.ends stops
  have noZero : ¬ (whole.head? = some '0' ∧ whole.length ≠ 1) := fun h => h.2 (isWhole.2 h.1)
  cases fraction with
  | none =>
    -- without a fraction the exponent comes next, and it does not begin with a point
    have scan := scanDigits_isDigits isWhole.1 (fun c first => (ends c first).1) atEnd
    simp only [scanUnsigned, List.nil_append, List.append_assoc, scan, bind, Except.bind, noZero,
      ↓reduceIte]
    split
    · next point => exact absurd rfl (ends '.' (by rw [point]; rfl)).2
    · simp only [power.scan stops]
  | point digits =>
    have point : EndsDigits ('.' :: (part ++ (exponentText ++ rest))) := by
      rintro c ⟨⟩
      rfl
    have scan := scanDigits_isDigits isWhole.1 point atEnd
    have scan' := scanDigits_isDigits digits (fun c first => (ends c first).1) atEnd
    simp only [scanUnsigned, List.cons_append, List.append_assoc, scan, bind, Except.bind, noZero,
      ↓reduceIte, scan', power.scan stops]

theorem Unsigned.head {negative : Bool} {t : NumberText} {cs : List Char}
    (unsigned : Unsigned negative t cs) : ∃ d more, cs = d :: more ∧ Numeral.isDigit d = true := by
  obtain ⟨isWhole, -, -⟩ := unsigned
  obtain ⟨d, more, rfl, digit⟩ := isWhole.1.head
  exact ⟨d, _, rfl, digit⟩

namespace Number

variable {t : NumberText} {cs rest : List Char}

/-- A number begins with a minus sign or a digit. -/
theorem head (number : Number t cs) : ∃ c more, cs = c :: more ∧ startsNumber c = true := by
  cases number with
  | positive unsigned =>
    obtain ⟨d, more, rfl, digit⟩ := unsigned.head
    exact ⟨d, more, rfl, by rw [startsNumber, digit, Bool.or_true]⟩
  | negative _ => exact ⟨'-', _, rfl, rfl⟩

/-- **A number is read as its parts.** -/
theorem scan (number : Number t cs) (stops : Stops rest) (atEnd : Fault) :
    scanNumber atEnd (cs ++ rest) = .ok (t, rest) := by
  cases number with
  | positive unsigned =>
    have scan := unsigned.scan stops atEnd
    obtain ⟨d, more, rfl, digit⟩ := unsigned.head
    rw [scanNumber, scan]
    exact cons_ne_cons_of_isDigit digit rfl _
  | negative unsigned => exact unsigned.scan stops atEnd

end Number

/-! ### Values that nobody asks for -/

theorem stops_of_gap {c : Char} {cs rest : List Char} (gap : Gap cs (c :: rest))
    (token : c = ',' ∨ c = ']' ∨ c = '}') : Stops cs := by
  cases gap with
  | none _ =>
    rintro _ ⟨⟩
    rcases token with rfl | rfl | rfl <;> decide
  | more space _ =>
    rintro _ ⟨⟩
    cases space <;> decide

theorem not_isSpace_of_startsNumber {c : Char} (h : startsNumber c = true) : isSpace c = false := by
  cases space : isSpace c with
  | false => rfl
  | true => cases space_iff.mpr space <;> cases h

namespace IsLabel

variable {cs value : List Char}

theorem length_lt (label : IsLabel cs value) : value.length < cs.length := by
  obtain ⟨gap, name, colon, gap'⟩ := label
  have := gap.length_lt
  have := name.length_lt
  have := colon.length_lt
  have := gap'.length_le
  omega

/-- A member begins with a quote. -/
theorem head (label : IsLabel cs value) : ∃ more, skipSpace cs = '"' :: more := by
  obtain ⟨gap, -, -, -⟩ := label
  exact ⟨_, gap.token rfl⟩

end IsLabel

namespace WellFormed

theorem length_lt {p : Phrase} {cs rest : List Char} (phrase : WellFormed p cs rest) :
    rest.length < cs.length := by
  induction phrase with
  | wordNull rest | wordTrue rest | wordFalse rest => simp only [List.length_cons]; omega
  | text spelled => exact Nat.lt_succ_of_lt spelled.length_lt
  | number number rest =>
    obtain ⟨c, more, rfl, -⟩ := number.head
    simp only [List.cons_append, List.length_cons, List.length_append]
    omega
  | emptyList ends | emptyObject ends => exact Nat.lt_succ_of_lt ends.length_lt
  | list _ ih | object _ ih => exact Nat.lt_succ_of_lt ih
  | lastItem gap _ ends ih =>
    have := gap.length_le
    have := ends.length_lt
    omega
  | item gap _ comma _ ih ih' =>
    have := gap.length_le
    have := comma.length_lt
    omega
  | lastMember label _ ends ih =>
    have := label.length_lt
    have := ends.length_lt
    omega
  | member label _ comma _ ih ih' =>
    have := label.length_lt
    have := comma.length_lt
    omega

/-- A value begins with a token that closes no list. -/
theorem head {cs rest : List Char} (value : WellFormed .value cs rest) :
    ∃ c more, cs = c :: more ∧ isSpace c = false ∧ c ≠ ']' := by
  cases value with
  | number number rest =>
    obtain ⟨c, more, rfl, starts⟩ := number.head
    exact ⟨c, more ++ rest, rfl, not_isSpace_of_startsNumber starts, by rintro rfl; cases starts⟩
  | _ => exact ⟨_, _, rfl, rfl, by decide⟩

end WellFormed

/-! White space in front of a phrase makes no difference: -/

theorem skipValue_gap {cs rest : List Char} (gap : Gap cs rest) (n : Nat) :
    skipValue n cs = skipValue n rest := by
  cases n with
  | zero => rw [skipValue, skipValue]
  | succ n => rw [skipValue, skipValue, gap.skipSpace_eq]

theorem skipItems_gap {cs rest : List Char} (gap : Gap cs rest) (n : Nat) :
    skipItems n cs = skipItems n rest := by
  cases n with
  | zero => rw [skipItems, skipItems]
  | succ n => rw [skipItems, skipItems, skipValue_gap gap]

theorem skipMembers_gap {cs rest : List Char} (gap : Gap cs rest) (n : Nat) :
    skipMembers n cs = skipMembers n rest := by
  have name : openName cs = openName rest := by rw [openName, openName, gap.skipSpace_eq]
  cases n with
  | zero => rw [skipMembers, skipMembers]
  | succ n => rw [skipMembers, skipMembers, name]

/-! One step of the reader at each token that can begin a value, and at the first token of a list
or of an object: -/

theorem skipValue_text (n : Nat) (cs : List Char) :
    skipValue (n + 1) ('"' :: cs) = (scanText false .plain cs).map (·.2) := by
  rw [skipValue, skipSpace_of_head rfl]
  simp only

theorem skipValue_emptyList {cs rest : List Char} (ends : Gap cs (']' :: rest)) (n : Nat) :
    skipValue (n + 1) ('[' :: cs) = .ok rest := by
  rw [skipValue, skipSpace_of_head rfl]
  simp only [ends.token (show isSpace ']' = false from rfl)]

theorem skipValue_emptyObject {cs rest : List Char} (ends : Gap cs ('}' :: rest)) (n : Nat) :
    skipValue (n + 1) ('{' :: cs) = .ok rest := by
  rw [skipValue, skipSpace_of_head rfl]
  simp only [ends.token (show isSpace '}' = false from rfl)]

theorem skipValue_list {c : Char} {cs more : List Char} (first : skipSpace cs = c :: more)
    (opens : c ≠ ']') (n : Nat) : skipValue (n + 1) ('[' :: cs) = skipItems n cs := by
  rw [skipValue, skipSpace_of_head rfl]
  simp only
  split
  · next h => exact absurd (List.cons.inj (first.symm.trans h)).1 opens
  · exact (skipItems_gap (gap_skipSpace cs) n).symm

theorem skipValue_object {cs more : List Char} (first : skipSpace cs = '"' :: more) (n : Nat) :
    skipValue (n + 1) ('{' :: cs) = skipMembers n cs := by
  rw [skipValue, skipSpace_of_head rfl]
  simp only
  split
  · next h => exact absurd (List.cons.inj (first.symm.trans h)).1 (by decide)
  · exact (skipMembers_gap (gap_skipSpace cs) n).symm

/-- What the reader does behind a member that it passed over. -/
def skipAfterMember (n : Nat) (cs : List Char) : Except Fault (List Char) := do
  match ← next '}' cs with
  | .more rest => skipMembers n rest
  | .done rest => .ok rest

theorem IsLabel.skipMembers_eq {cs value : List Char} (label : IsLabel cs value) (n : Nat) :
    skipMembers (n + 1) cs = skipValue n value >>= skipAfterMember n := by
  obtain ⟨gap, name, colon, gap'⟩ := label
  obtain ⟨s, scan⟩ := scanText_isSpelled name
  rw [skipMembers, gap.openName_eq]
  simp only [bind, Except.bind, scan, colon.colon_eq, skipValue_gap gap']
  rfl

theorem skipValue_number {c : Char} (starts : startsNumber c = true) (n : Nat) (cs : List Char) :
    skipValue (n + 1) (c :: cs) = (scanNumber .malformed (c :: cs)).map (·.2) := by
  rw [skipValue, skipSpace_of_head (not_isSpace_of_startsNumber starts)]
  split
  · next h => cases h
  -- no other token begins with what begins a number
  iterate 6
    · next h =>
      obtain ⟨rfl, -⟩ := List.cons.inj h
      cases starts
  · next h =>
    obtain ⟨rfl, rfl⟩ := List.cons.inj h
    rw [if_pos starts]

/-- The reader passes over a phrase, given two steps for each of its characters. -/
def Skips : Phrase → List Char → List Char → Prop
  | .value, cs, rest => ∀ n, 2 * cs.length ≤ n + 1 → Stops rest → skipValue (n + 1) cs = .ok rest
  | .items, cs, rest => ∀ n, 2 * cs.length ≤ n → skipItems (n + 1) cs = .ok rest
  | .members, cs, rest => ∀ n, 2 * cs.length ≤ n → skipMembers (n + 1) cs = .ok rest

theorem WellFormed.head_items {cs rest : List Char} (items : WellFormed .items cs rest) :
    ∃ c more, skipSpace cs = c :: more ∧ c ≠ ']' := by
  cases items with
  | lastItem gap value _ | item gap value _ _ =>
    obtain ⟨c, more, rfl, token, opens⟩ := value.head
    exact ⟨c, more, gap.token token, opens⟩

theorem WellFormed.head_members {cs rest : List Char} (members : WellFormed .members cs rest) :
    ∃ more, skipSpace cs = '"' :: more := by
  cases members with
  | lastMember label _ _ | member label _ _ _ => exact label.head

/-- **A phrase is passed over.** -/
theorem WellFormed.skips {p : Phrase} {cs rest : List Char} (phrase : WellFormed p cs rest) :
    Skips p cs rest := by
  -- a bracket pays for the step into a list or an object, and a comma for the step to the next
  -- item; what is left of the budget covers the shorter text behind them
  induction phrase with
  | wordNull rest | wordTrue rest | wordFalse rest =>
    intro n _ _
    rw [skipValue, skipSpace_of_head rfl]
    simp [expect]
  | text spelled =>
    intro n _ _
    obtain ⟨s, scan⟩ := scanText_isSpelled spelled
    rw [skipValue_text, scan]
    rfl
  | number number rest =>
    intro n _ stops
    obtain ⟨c, more, rfl, starts⟩ := number.head
    rw [List.cons_append, skipValue_number starts, ← List.cons_append, number.scan stops]
    rfl
  | emptyList ends => exact fun n _ _ => skipValue_emptyList ends n
  | list items ih =>
    intro n enough _
    obtain ⟨c, more, first, opens⟩ := items.head_items
    rw [List.length_cons] at enough
    obtain ⟨m, rfl⟩ := Nat.exists_eq_add_one_of_ne_zero (by omega : n ≠ 0)
    rw [skipValue_list first opens]
    exact ih m (by omega)
  | emptyObject ends => exact fun n _ _ => skipValue_emptyObject ends n
  | object members ih =>
    intro n enough _
    obtain ⟨more, first⟩ := members.head_members
    rw [List.length_cons] at enough
    obtain ⟨m, rfl⟩ := Nat.exists_eq_add_one_of_ne_zero (by omega : n ≠ 0)
    rw [skipValue_object first]
    exact ih m (by omega)
  | lastItem gap value ends ih =>
    intro n enough
    have shorter := gap.length_le
    have nonempty := value.length_lt
    obtain ⟨m, rfl⟩ := Nat.exists_eq_add_one_of_ne_zero (by omega : n ≠ 0)
    rw [skipItems, skipValue_gap gap, ih m (by omega) (stops_of_gap ends (by simp))]
    simp only [bind, Except.bind, ends.next_done (by decide) (by decide)]
  | item gap value comma more ih ih' =>
    intro n enough
    have shorter := gap.length_le
    have nonempty := value.length_lt
    have behindComma := comma.length_lt
    obtain ⟨m, rfl⟩ := Nat.exists_eq_add_one_of_ne_zero (by omega : n ≠ 0)
    rw [skipItems, skipValue_gap gap, ih m (by omega) (stops_of_gap comma (by simp))]
    simp only [bind, Except.bind, comma.next_more]
    exact ih' m (by omega)
  | lastMember label value ends ih =>
    intro n enough
    have shorter := label.length_lt
    have nonempty := value.length_lt
    obtain ⟨m, rfl⟩ := Nat.exists_eq_add_one_of_ne_zero (by omega : n ≠ 0)
    rw [label.skipMembers_eq, ih m (by omega) (stops_of_gap ends (by simp))]
    simp only [skipAfterMember, bind, Except.bind,
      ends.next_done (show isSpace '}' = false from rfl) (by decide)]
  | member label value comma more ih ih' =>
    intro n enough
    have shorter := label.length_lt
    have nonempty := value.length_lt
    have behindComma := comma.length_lt
    obtain ⟨m, rfl⟩ := Nat.exists_eq_add_one_of_ne_zero (by omega : n ≠ 0)
    rw [label.skipMembers_eq, ih m (by omega) (stops_of_gap comma (by simp))]
    simp only [skipAfterMember, bind, Except.bind, comma.next_more]
    exact ih' m (by omega)

/-- **A value is passed over** with the budget of any text that begins with it. -/
theorem skipValue_wellFormed {cs value rest : List Char} (gap : Gap cs value)
    (wellFormed : WellFormed .value value rest) (stops : Stops rest) :
    skipValue (budget cs) cs = .ok rest := by
  have shorter := gap.length_le
  rw [skipValue_gap gap]
  exact wellFormed.skips _ (by omega) stops

end FeatureLock.Json
