import FeatureLock.Proofs.Json.Reading

/-!
# Records are read from objects

An object is read as a record whichever order its members stand in, and whatever other
members there are.  What the members say is what is found; the record is then picked
from it, field by field.

## Main Definitions

- `Shape.Admits`: the values of a field's shape
- `Entries.Fits`: entries whose values their fields admit

Main statements: `readShape_holds`, a value is read as what it denotes where its shape
admits it; `Members.read`, the members that stand for fields are found; and
`readRecord_object`.
-/

namespace FeatureLock

/-! ### Entries -/

namespace Entries

variable {name : String} {v : Value} {es : Entries}

theorem lookup_eq_none (absent : name ∉ es.map Prod.fst) : lookup name es = none := by
  induction es with
  | nil => rfl
  | cons e es ih =>
    obtain ⟨n, w⟩ := e
    simp only [List.map_cons, List.mem_cons, not_or] at absent
    rw [lookup, if_neg (Ne.symm absent.1), ih absent.2]

theorem lookup_of_mem (distinct : (es.map Prod.fst).Nodup) (mem : (name, v) ∈ es) :
    lookup name es = some v := by
  induction es with
  | nil => cases mem
  | cons e es ih =>
    obtain ⟨n, w⟩ := e
    rw [List.map_cons, List.nodup_cons] at distinct
    rcases List.mem_cons.mp mem with same | later
    · cases same
      rw [lookup, if_pos rfl]
    · have other : n ≠ name := by
        rintro rfl
        exact distinct.1 (List.mem_map.mpr ⟨_, later, rfl⟩)
      rw [lookup, if_neg other, ih distinct.2 later]

/-- A name that comes once is not among the names before it. -/
theorem not_mem_of_distinct {found : Entries}
    (distinct : ((found ++ (name, v) :: es).map Prod.fst).Nodup) :
    name ∉ found.map Prod.fst := by
  rw [List.map_append, List.nodup_append] at distinct
  exact fun before => distinct.2.2 _ before _ List.mem_cons_self rfl

theorem put_of_absent (absent : name ∉ es.map Prod.fst) : put name v es = es ++ [(name, v)] := by
  induction es with
  | nil => rfl
  | cons e es ih =>
    obtain ⟨n, w⟩ := e
    simp only [List.map_cons, List.mem_cons, not_or] at absent
    rw [put, if_neg (Ne.symm absent.1), ih absent.2, List.cons_append]

end Entries

/-! ### Integers -/

namespace Numeral

/-- Only zero begins with a zero. -/
theorem eq_zero_of_head?_digits (n : Nat) (zero : (digits n).head? = some '0') : n = 0 := by
  fun_induction digits n with
  | case1 n h =>
    have all : ∀ d : Fin 10, (digitChar d) = '0' → d.val = 0 := by decide
    exact all ⟨n, h⟩ (Option.some.inj zero)
  | case2 n h ih =>
    obtain ⟨d, ds, front⟩ := List.exists_cons_of_ne_nil (digits_ne_nil (n / 10))
    rw [front] at zero ih
    have := ih zero
    omega

/-- Further digits make no number smaller. -/
theorem le_extend (n : Nat) (ds : List Char) : n ≤ extend n ds := by
  induction ds generalizing n with
  | nil => exact Nat.le_refl n
  | cons d ds ih =>
    have longer : n ≤ n * 10 + digitValue d := by omega
    exact Nat.le_trans longer (ih _)

end Numeral

namespace Json

theorem isDigits_digits (n : Nat) : IsDigits (Numeral.digits n) :=
  ⟨Numeral.digits_ne_nil n, Numeral.all_isDigit_digits n⟩

theorem isWhole_digits (n : Nat) : IsWhole (Numeral.digits n) := by
  refine ⟨isDigits_digits n, fun zero => ?_⟩
  obtain rfl := Numeral.eq_zero_of_head?_digits n zero
  simp [Numeral.digits]

/-- **An integer is written as a number**, without a fraction and without an exponent. -/
theorem number_writeChars (n : Int) :
    Number ⟨decide (n < 0), Numeral.digits n.natAbs, [], none⟩ (Numeral.writeChars n) := by
  have parts : ∀ negative, Unsigned negative ⟨negative, Numeral.digits n.natAbs, [], none⟩
      (Numeral.digits n.natAbs) := fun negative => by
    have parts : Unsigned negative ⟨negative, Numeral.digits n.natAbs, [], none⟩
        (Numeral.digits n.natAbs ++ ([] ++ [])) := .parts (isWhole_digits n.natAbs) .none .none
    rwa [List.append_nil, List.append_nil] at parts
  rw [Numeral.writeChars]
  by_cases below : n < 0
  · rw [if_pos below, decide_eq_true below]
    exact .negative (parts true)
  · rw [if_neg below, decide_eq_false below]
    exact .positive (parts false)

/-- Digits are absorbed to the last one, as long as the number fits. -/
theorem absorb_eq (m : Nat) (ds : List Char) (fits : Numeral.extend m ds ≤ maxWhole) :
    absorb m ds = (Numeral.extend m ds, []) := by
  induction ds generalizing m with
  | nil => rfl
  | cons d ds ih =>
    have small : ¬ maxWhole < m * 10 + Numeral.digitValue d :=
      Nat.not_lt.mpr (Nat.le_trans (Numeral.le_extend _ ds) fits)
    rw [absorb]
    simp only [if_neg small]
    exact ih _ fits

theorem toValue_int {n : Int} (low : -9223372036854775808 ≤ n) (high : n ≤ maxWhole) :
    (NumberText.mk (decide (n < 0)) (Numeral.digits n.natAbs) [] none).toValue = .ok (.int n) := by
  have absorbed : absorb 0 (Numeral.digits n.natAbs) = (n.natAbs, []) := by
    have value : Numeral.extend 0 (Numeral.digits n.natAbs) = n.natAbs :=
      Numeral.value_digits n.natAbs
    rw [absorb_eq, value]
    rw [value]
    simp only [maxWhole] at high ⊢
    omega
  simp only [NumberText.toValue, absorbed, and_self, ↓reduceIte]
  by_cases below : n < 0
  · have within : n.natAbs ≠ 0 ∧ n.natAbs ≤ 9223372036854775808 := by omega
    have back : -(n.natAbs : Int) = n := by omega
    simp only [below, decide_true, not_true_eq_false, ↓reduceIte, ne_eq, within,
      not_false_eq_true, and_self, back]
  · have back : (n.natAbs : Int) = n := by omega
    simp only [below, decide_false, Bool.false_eq_true, not_false_eq_true, ↓reduceIte, back]

/-- **An integer is read back from its digits.** -/
theorem readNumber_writeChars {n : Int} (low : -9223372036854775808 ≤ n) (high : n ≤ maxWhole)
    {rest : List Char} (stops : Stops rest) :
    readNumber (Numeral.writeChars n ++ rest) = .ok (.int n, rest) := by
  simp only [readNumber, (number_writeChars n).scan stops, toValue_int low high, bind, Except.bind]

/-! ### Values of a shape -/

/-- **The values of a field's shape.**  Whether a string is read verbatim depends on its spelling,
so it is nobody's value here. -/
inductive Shape.Admits : Shape → Value → Prop where
  /-- an integer between the bounds, and one that 64 bits hold -/
  | int {lo hi n : Int} (above : lo ≤ n) (below : n ≤ hi) (low : -9223372036854775808 ≤ n)
      (high : n ≤ maxWhole) : Admits (.int lo hi) (.int n)
  | bool (b : Bool) : Admits .bool (.bool b)
  | text (s : String) : Admits .text (.text s)
  | texts (ss : List String) : Admits .texts (.list (ss.map .text))
  | someText (s : String) : Admits .textOrNull (.text s)
  | null : Admits .textOrNull .null

theorem readChars_gap {cs rest : List Char} (gap : Gap cs rest) :
    readChars cs = readChars rest := by
  rw [readChars, readChars, gap.skipSpace_eq]

theorem readShape_gap {cs rest : List Char} (gap : Gap cs rest) (shape : Shape) :
    readShape shape cs = readShape shape rest := by
  have text : readText cs = readText rest := by rw [readText, readText, readChars_gap gap]
  cases shape with
  | int lo hi => rw [readShape, readInt, readInt, gap.skipSpace_eq]
  | bool => rw [readShape, readBool, readBool, gap.skipSpace_eq]
  | text => exact text
  | verbatim => rw [readShape, readVerbatim, readVerbatim, text, gap.skipSpace_eq]
  | texts =>
    rw [readShape, readTexts, readTexts, readStrings, readStrings, gap.skipSpace_eq]
  | textOrNull => rw [readShape, readTextOrNull, readTextOrNull, text, gap.skipSpace_eq]

theorem readText_spelled {s cs rest : List Char} (spelled : Spelled s cs rest) :
    readText ('"' :: cs) = .ok (.text (String.ofList s), rest) := by
  rw [readText, readChars_spelled (.none _) spelled]
  rfl

/-- **A value is read where its shape admits it.** -/
theorem readShape_holds {shape : Shape} {v : Value} {cs rest : List Char}
    (admits : shape.Admits v) (holds : Holds v cs rest) (stops : Stops rest) :
    readShape shape cs = .ok (v, rest) := by
  cases holds with
  | wordNull rest | wordTrue rest | wordFalse rest =>
    cases admits
    rfl
  | int n rest =>
    obtain ⟨above, below, low, high⟩ := admits
    obtain ⟨c, more, begins, starts⟩ := (number_writeChars n).head
    have reads := readNumber_writeChars low high stops
    rw [begins, List.cons_append] at reads
    rw [begins, List.cons_append, readShape, readInt,
      skipSpace_of_head (not_isSpace_of_startsNumber starts)]
    simp only [starts, ↓reduceIte, reads, bind, Except.bind, above, below, and_self]
  | text spelled =>
    cases admits with
    | text s => exact readText_spelled spelled
    | someText s => exact readText_spelled spelled
  | texts list =>
    -- the list of values does not show the list of strings, so the shape is looked at first
    generalize same : Value.list (List.map Value.text _) = v at admits
    cases admits with
    | texts _ =>
      rw [← same, readShape, readTexts, readStrings_textList list]
      rfl
    | _ => cases same

/-! ### Members -/

/-- A name is read, and so is the colon behind it. -/
theorem Label.reads {n cs value : List Char} (label : Label n cs value) :
    ∃ a b c, openName cs = .ok a ∧ scanText true .plain a = .ok (n, b) ∧ colon b = .ok c ∧
      Gap c value := by
  obtain ⟨gap, name, colon, gap'⟩ := label
  exact ⟨_, _, _, gap.openName_eq, scanText_spelled name, colon.colon_eq, gap'⟩

theorem Holds.wellFormed {v : Value} {cs rest : List Char} (holds : Holds v cs rest) :
    WellFormed .value cs rest := by
  cases holds with
  | wordNull rest => exact .wordNull rest
  | wordTrue rest => exact .wordTrue rest
  | wordFalse rest => exact .wordFalse rest
  | int n rest => exact .number (number_writeChars n) rest
  | text spelled => exact .text spelled.isSpelled
  | texts list => exact list.wellFormed

theorem Member.length_lt {names : List String} {es : Entries} {cs rest : List Char}
    (member : Member names es cs rest) : rest.length < cs.length := by
  cases member with
  | known label _ holds =>
    exact Nat.lt_trans holds.wellFormed.length_lt label.isLabel.length_lt
  | unknown label _ wellFormed => exact Nat.lt_trans wellFormed.length_lt label.isLabel.length_lt

/-! White space in front of the first member is passed over before the members are read. -/

theorem Label.skipSpace {n cs value : List Char} (label : Label n cs value) :
    ∃ a, Json.skipSpace cs = '"' :: a ∧ Label n ('"' :: a) value := by
  obtain ⟨gap, name, colon, gap'⟩ := label
  exact ⟨_, gap.token rfl, .name (.none _) name colon gap'⟩

theorem Member.skipSpace {names : List String} {es : Entries} {cs rest : List Char}
    (member : Member names es cs rest) :
    ∃ a, Json.skipSpace cs = '"' :: a ∧ Member names es ('"' :: a) rest := by
  cases member with
  | known label isKnown holds =>
    obtain ⟨a, opens, label⟩ := label.skipSpace
    exact ⟨a, opens, .known label isKnown holds⟩
  | unknown label isUnknown wellFormed =>
    obtain ⟨a, opens, label⟩ := label.skipSpace
    exact ⟨a, opens, .unknown label isUnknown wellFormed⟩

theorem Members.skipSpace {names : List String} {es : Entries} {cs rest : List Char}
    (members : Members names es cs rest) :
    ∃ a, Json.skipSpace cs = '"' :: a ∧ Members names es ('"' :: a) rest := by
  cases members with
  | last member ends =>
    obtain ⟨a, opens, member⟩ := member.skipSpace
    exact ⟨a, opens, .last member ends⟩
  | more member comma more =>
    obtain ⟨a, opens, member⟩ := member.skipSpace
    exact ⟨a, opens, .more member comma more⟩

end Json

/-- Entries that fields can hold: each field that has the name of an entry admits its value. -/
def Entries.Fits (fields : List Json.Field) (es : Entries) : Prop :=
  ∀ e ∈ es, ∀ f ∈ fields, f.name = e.1 → f.shape.Admits e.2

namespace Json

variable {fields : List Field}

/-- What the reader does behind a member, with the members found so far. -/
def afterMember (fields : List Field) (n : Nat) (found : Entries) (cs : List Char) :
    Except Fault (Entries × List Char) := do
  match ← next '}' cs with
  | .more cs => readFields fields n found cs
  | .done cs => .ok (found, cs)

/-- **One step of the reader**: what a member says is found. -/
theorem Member.read {es found : Entries} {cs rest : List Char}
    (member : Member (fields.map (·.name)) es cs rest)
    (distinct : ((found ++ es).map Prod.fst).Nodup) (fits : es.Fits fields) (stops : Stops rest)
    (n : Nat) : readFields fields (n + 1) found cs = afterMember fields n (found ++ es) rest := by
  cases member with
  | known label isKnown holds =>
    next v name value =>
    obtain ⟨a, b, c, opens, scans, colons, gap⟩ := label.reads
    obtain ⟨f, isFound⟩ : ∃ f, fields.find? (·.name = String.ofList name) = some f := by
      obtain ⟨f, mem, named⟩ := List.mem_map.mp isKnown
      exact Option.isSome_iff_exists.mp (List.find?_isSome.mpr ⟨f, mem, by simpa using named⟩)
    have mem := List.mem_of_find?_eq_some isFound
    have named : f.name = String.ofList name := by simpa using List.find?_some isFound
    -- the name did not come up before, so the reader does not refuse it
    have absent := Entries.not_mem_of_distinct distinct
    have reads : readShape f.shape c = .ok (v, rest) := by
      rw [readShape_gap gap]
      exact readShape_holds (fits _ List.mem_cons_self f mem named) holds stops
    simp only [readFields, opens, scans, bind, Except.bind, isFound,
      Entries.lookup_eq_none absent, Option.isSome_none, Bool.false_eq_true, ↓reduceIte, colons,
      reads, Entries.put_of_absent absent]
    rfl
  | unknown label isUnknown wellFormed =>
    next name value =>
    obtain ⟨a, b, c, opens, scans, colons, gap⟩ := label.reads
    have missing : fields.find? (·.name = String.ofList name) = none := by
      refine List.find?_eq_none.mpr fun f mem named => isUnknown ?_
      exact List.mem_map.mpr ⟨f, mem, by simpa using named⟩
    simp only [readFields, opens, scans, bind, Except.bind, missing, colons,
      skipValue_wellFormed gap wellFormed stops, Except.map, List.append_nil]
    rfl

/-- **The members that stand for fields are found**; a step of the budget is spent on each
member. -/
theorem Members.read {es : Entries} {cs rest : List Char}
    (members : Members (fields.map (·.name)) es cs rest) (found : Entries)
    (distinct : ((found ++ es).map Prod.fst).Nodup) (fits : es.Fits fields) {n : Nat}
    (enough : cs.length ≤ n) : readFields fields n found cs = .ok (found ++ es, rest) := by
  induction members generalizing found n with
  | last member ends =>
    have nonempty := member.length_lt
    obtain ⟨m, rfl⟩ := Nat.exists_eq_add_one_of_ne_zero (by omega : n ≠ 0)
    rw [member.read distinct fits (stops_of_gap ends (by simp)), afterMember]
    simp only [bind, Except.bind, ends.next_done (show isSpace '}' = false from rfl) (by decide)]
  | more member comma _ ih =>
    next es others cs a b rest more =>
    have nonempty := member.length_lt
    have behindComma := comma.length_lt
    obtain ⟨m, rfl⟩ := Nat.exists_eq_add_one_of_ne_zero (by omega : n ≠ 0)
    -- the members behind this one are read with its own entry among those found
    rw [← List.append_assoc] at distinct
    have first : ((found ++ es).map Prod.fst).Nodup := by
      rw [List.map_append] at distinct
      exact (List.nodup_append.mp distinct).1
    have others := ih _ distinct (fun e mem => fits e (List.mem_append_right _ mem))
      (n := m) (by omega)
    rw [member.read first (fun e mem => fits e (List.mem_append_left _ mem))
      (stops_of_gap comma (by simp)), afterMember]
    simp only [bind, Except.bind, comma.next_more, others, List.append_assoc]

/-- **A record is read from an object** whose members say what is in its fields. -/
theorem readRecord_object {cs object rest : List Char} {es : Entries} {vs : List Value}
    (gap : Gap cs object) (isObject : Object (fields.map (·.name)) es object rest)
    (distinct : (es.map Prod.fst).Nodup) (fits : es.Fits fields)
    (picked : fields.mapM (Field.pick es) = .ok vs) : readRecord fields cs = .ok (vs, rest) := by
  cases isObject with
  | empty ends =>
    rw [readRecord, gap.token rfl]
    simp only [bind, Except.bind, ends.token (show isSpace '}' = false from rfl), picked]
  | members members =>
    obtain ⟨a, opens, members⟩ := members.skipSpace
    have reads : readFields fields (budget ('"' :: a)) [] ('"' :: a) = .ok (es, rest) :=
      members.read [] distinct fits (by simp only [budget]; omega)
    rw [readRecord, gap.token rfl]
    simp only [opens, bind, Except.bind]
    split
    · next h => exact absurd (List.cons.inj h).1 (by decide)
    · simp only [reads, picked]

end Json

end FeatureLock
