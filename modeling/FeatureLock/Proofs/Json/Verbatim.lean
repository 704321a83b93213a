import FeatureLock.Proofs.Forms
import Mathlib.Logic.Basic

/-!
# Texts that are taken as they stand

A verbatim text is taken out of the text that is read as it stands there, so it is read only
where it is spelled without escapes.  The writer escapes the quote, the backslash and every
character below the blank.  So a verbatim text that was written is read back if it has no such
character; otherwise it is refused, and never read as another text.

## Main Definitions

- `isPlainChar`, `isPlain`: characters and texts that are written as they stand
- `Form.IsVerbatim`: the forms all of whose fields are verbatim texts

Main statements: `hasEscape_escape`, which texts are written without escapes;
`readVerbatim_quote`, one text; `readFields_texts`, the texts of an object;
`Form.IsVerbatim.read_write`, any record of verbatim texts; and
`plain_error_codes_survive_json`.
-/

namespace FeatureLock.Json

/-- A character that is written as it stands. -/
def isPlainChar (c : Char) : Bool :=
  c != '"' && c != '\\' && decide (0x20 ≤ c.toNat)

/-- A text whose characters are all written as they stand. -/
def isPlain (s : String) : Bool :=
  s.toList.all isPlainChar

/-! ### Escapes -/

theorem isPlainChar_iff {c : Char} :
    isPlainChar c = true ↔ c ≠ '"' ∧ c ≠ '\\' ∧ 0x20 ≤ c.toNat := by
  rw [isPlainChar, Bool.and_eq_true, Bool.and_eq_true, bne_iff_ne, bne_iff_ne, decide_eq_true_eq,
    and_assoc]

theorem escapeChar_of_plain {c : Char} (plain : isPlainChar c = true) : escapeChar c = [c] := by
  obtain ⟨quote, slash, printable⟩ := isPlainChar_iff.mp plain
  have other : ∀ d : Char, d.toNat < 0x20 → c ≠ d := by
    rintro d control rfl
    omega
  rw [escapeChar, if_neg quote, if_neg slash, if_neg (other _ (by decide)),
    if_neg (other _ (by decide)), if_neg (other _ (by decide)), if_neg (other _ (by decide)),
    if_neg (other _ (by decide)), if_neg (Nat.not_lt.mpr printable)]

theorem escapeChar_of_not_plain {c : Char} (escaped : isPlainChar c = false) :
    ∃ letters, escapeChar c = '\\' :: letters := by
  unfold escapeChar
  iterate 8
    split
    · exact ⟨_, rfl⟩
  next quote slash _ _ _ _ _ printable =>
  have plain := isPlainChar_iff.mpr ⟨quote, slash, Nat.not_lt.mp printable⟩
  rw [escaped] at plain
  cases plain

theorem hasEscape_cons {c : Char} (quote : c ≠ '"') (slash : c ≠ '\\') (cs : List Char) :
    hasEscape (c :: cs) = hasEscape cs := by
  simp [hasEscape, quote, Ne.symm slash]

/-- **A text is written without escapes exactly if it is plain.** -/
theorem hasEscape_escape (s rest : List Char) :
    hasEscape (escape s ++ '"' :: rest) = !s.all isPlainChar := by
  induction s with
  | nil => simp [escape, hasEscape]
  | cons c s ih =>
    rw [escape, List.flatMap_cons, List.append_assoc, ← escape, List.all_cons]
    cases plain : isPlainChar c with
    | true =>
      obtain ⟨quote, slash, -⟩ := isPlainChar_iff.mp plain
      rw [escapeChar_of_plain plain, List.singleton_append, hasEscape_cons quote slash, ih,
        Bool.true_and]
    | false =>
      obtain ⟨letters, written⟩ := escapeChar_of_not_plain plain
      simp [written, hasEscape]

/-- **A verbatim text that was written is read back if it is plain**, and refused otherwise. -/
theorem readVerbatim_quote (s : String) (rest : List Char) :
    readVerbatim (quote s ++ rest) =
      if isPlain s then .ok (.text s, rest) else .error .mistyped := by
  have reads := readText_spelled (spelled_escape s.toList rest)
  rw [String.ofList_toList] at reads
  have opens := skipSpace_of_head (show isSpace '"' = false by decide)
    (escape s.toList ++ '"' :: rest)
  have escapes : hasEscape (escape s.toList ++ '"' :: rest) = !isPlain s := hasEscape_escape _ _
  rw [quote_append, readVerbatim, reads]
  simp only [bind, Except.bind, opens, escapes]
  cases isPlain s <;> rfl

/-! ### Texts as the members of an object -/

/-- Fields and their texts, as the entries of a table. -/
def textEntries (es : List (Field × String)) : Entries :=
  es.map fun e => (e.1.name, .text e.2)

variable {fields : List Field} {found : Entries}

/-- **One step of the reader**: a field that holds a plain text is found, and any other text is the
end of it. -/
theorem readFields_text (verbatim : ∀ f ∈ fields, f.shape = .verbatim) {f : Field}
    (known : f ∈ fields) (absent : f.name ∉ found.map Prod.fst) (s : String) (n : Nat)
    (rest : List Char) :
    readFields fields (n + 1) found (quote f.name ++ ':' :: (quote s ++ rest)) =
      if isPlain s then afterMember fields n (found ++ [(f.name, .text s)]) rest
      else .error .mistyped := by
  have label := Label.name (.none _) (spelled_escape f.name.toList (':' :: (quote s ++ rest)))
    (.none _) (.none _)
  rw [← quote_append] at label
  obtain ⟨a, b, c, opens, scans, colons, gap⟩ := label.reads
  obtain ⟨g, isFound⟩ : ∃ g, fields.find? (·.name = f.name) = some g :=
    Option.isSome_iff_exists.mp (List.find?_isSome.mpr ⟨f, known, decide_eq_true rfl⟩)
  have reads : readShape g.shape c = readVerbatim (quote s ++ rest) := by
    rw [readShape_gap gap, verbatim g (List.mem_of_find?_eq_some isFound), readShape]
  rw [readVerbatim_quote] at reads
  simp only [readFields, opens, scans, bind, Except.bind, String.ofList_toList, isFound,
    Entries.lookup_eq_none absent, Option.isSome_none, Bool.false_eq_true, ↓reduceIte, colons,
    reads]
  cases isPlain s with
  | true =>
    simp only [↓reduceIte, Entries.put_of_absent absent]
    rfl
  | false => rfl

/-- **The texts of a record are found if all of them are plain**; a step of the budget is spent on
each. -/
theorem readFields_texts (verbatim : ∀ f ∈ fields, f.shape = .verbatim) (e : Field × String)
    (es : List (Field × String)) (known : ∀ x ∈ e :: es, x.1 ∈ fields)
    (distinct : ((found ++ textEntries (e :: es)).map Prod.fst).Nodup) {n : Nat}
    (enough : (e :: es).length ≤ n) (rest : List Char) :
    readFields fields n found (renderEntries (textEntries (e :: es)) ++ '}' :: rest) =
      if (e :: es).all (isPlain ·.2) then .ok (found ++ textEntries (e :: es), rest)
      else .error .mistyped := by
  induction es generalizing e found n with
  | nil =>
    have absent := Entries.not_mem_of_distinct distinct
    obtain ⟨m, rfl⟩ := Nat.exists_eq_add_one_of_ne_zero (Nat.ne_zero_of_lt enough)
    have step := readFields_text verbatim (known e List.mem_cons_self) absent e.2 m ('}' :: rest)
    have closes := (Gap.none ('}' :: rest)).next_done (show isSpace '}' = false by decide)
      (by decide)
    simp only [afterMember, bind, Except.bind, closes] at step
    simpa [textEntries, renderEntries, render] using step
  | cons x xs ih =>
    have absent := Entries.not_mem_of_distinct distinct
    obtain ⟨m, rfl⟩ := Nat.exists_eq_add_one_of_ne_zero (Nat.ne_zero_of_lt enough)
    -- the texts behind this one are read with its own entry among those found
    have distinct' : ((found ++ [(e.1.name, Value.text e.2)] ++ textEntries (x :: xs)).map
        Prod.fst).Nodup := by
      rw [List.append_assoc]
      exact distinct
    have others := ih x (fun y mem => known y (List.mem_cons_of_mem _ mem)) distinct'
      (Nat.le_of_succ_le_succ enough)
    have step := readFields_text verbatim (known e List.mem_cons_self) absent e.2 m
      (',' :: (renderEntries (textEntries (x :: xs)) ++ '}' :: rest))
    simp only [afterMember, bind, Except.bind, (Gap.none _).next_more, others] at step
    have written : renderEntries (textEntries (e :: x :: xs)) ++ '}' :: rest =
        quote e.1.name ++ ':' :: (quote e.2 ++
          ',' :: (renderEntries (textEntries (x :: xs)) ++ '}' :: rest)) := by
      simp [textEntries, renderEntries, render]
    rw [written, step]
    simp only [List.all_cons, Bool.and_eq_true, ite_and, textEntries, List.map_cons,
      List.append_assoc, List.cons_append, List.nil_append]

/-- The text of members begins with the quote of the first name. -/
theorem renderEntries_cons (e : String × Value) (es : Entries) :
    ∃ cs, renderEntries (e :: es) = '"' :: cs := by
  cases es <;> exact ⟨_, rfl⟩

/-- The text of members has a character for each of them. -/
theorem length_le_renderEntries (es : Entries) : es.length ≤ (renderEntries es).length := by
  induction es with
  | nil => exact Nat.zero_le _
  | cons e es ih =>
    cases es with
    | nil => simp [renderEntries, quote]
    | cons x xs =>
      simp only [renderEntries, quote, List.length_append, List.length_cons] at ih ⊢
      omega

/-- **A table of verbatim texts that was written is read back if all of them are plain**, and
refused otherwise. -/
theorem readRecord_texts (verbatim : ∀ f ∈ fields, f.shape = .verbatim)
    {es : List (Field × String)} (known : ∀ x ∈ es, x.1 ∈ fields)
    (distinct : ((textEntries es).map Prod.fst).Nodup) {vs : List Value}
    (picks : fields.mapM (Field.pick (textEntries es)) = .ok vs) (rest : List Char) :
    readRecord fields (render (.table (textEntries es)) ++ rest) =
      if es.all (isPlain ·.2) then .ok (vs, rest) else .error .mistyped := by
  have opens : ∀ cs, skipSpace ('{' :: cs) = '{' :: cs := skipSpace_of_head (by decide)
  have written : render (.table (textEntries es)) ++ rest =
      '{' :: (renderEntries (textEntries es) ++ '}' :: rest) := by
    simp [render]
  rw [written, readRecord, opens]
  cases es with
  | nil =>
    have closes : skipSpace ('}' :: rest) = '}' :: rest := skipSpace_of_head (by decide) rest
    simp only [textEntries, List.map_nil] at picks
    simp [textEntries, renderEntries, closes, bind, Except.bind, picks]
  | cons e es =>
    obtain ⟨cs, begins⟩ := renderEntries_cons (e.1.name, .text e.2) (textEntries es)
    have text : renderEntries (textEntries (e :: es)) ++ '}' :: rest =
        '"' :: (cs ++ '}' :: rest) :=
      congrArg (· ++ '}' :: rest) begins
    have enough : (e :: es).length ≤ budget ('"' :: (cs ++ '}' :: rest)) := by
      have long := length_le_renderEntries (textEntries (e :: es))
      rw [textEntries, List.length_map] at long
      rw [← text, budget, List.length_append, textEntries]
      omega
    have reads := readFields_texts verbatim e es known
      (show (([] ++ textEntries (e :: es)).map Prod.fst).Nodup from distinct) enough rest
    have quote : skipSpace ('"' :: (cs ++ '}' :: rest)) = '"' :: (cs ++ '}' :: rest) :=
      skipSpace_of_head (by decide) _
    rw [text] at reads ⊢
    simp only [quote, bind, Except.bind]
    split
    · next h => exact absurd (List.cons.inj h).1 (by decide)
    · by_cases plain : (e :: es).all (isPlain ·.2) = true
      · rw [if_pos plain] at reads ⊢
        simp only [reads, List.nil_append, picks]
      · rw [if_neg plain] at reads ⊢
        simp only [reads]

end FeatureLock.Json

namespace FeatureLock

open Json (Field isPlain textEntries)

/-! ### Records of verbatim texts -/

namespace Form

variable {α : Type} {form : Form α} {texts : α → List String}

/-- **A form of verbatim texts**: the names of its fields are distinct, each field holds a verbatim
text, and the record is what the texts make up. -/
structure IsVerbatim (form : Form α) (texts : α → List String) : Prop where
  names : (form.fields.map (·.name)).Nodup
  shapes : ∀ f ∈ form.fields, f.shape = .verbatim
  length : ∀ a, (texts a).length = form.fields.length
  values : ∀ a, form.values a = (texts a).map .text
  ofValues? : ∀ a, form.ofValues? (form.values a) = some a

/-- **A record of verbatim texts is read back from what it is written as if all of its texts are
plain**; otherwise what it is written as is refused. -/
theorem IsVerbatim.read_write (verbatim : form.IsVerbatim texts) (a : α) :
    form.read (form.write a) = if (texts a).all isPlain then .ok a else .error .mistyped := by
  have length : (form.values a).length = form.fields.length := by
    rw [verbatim.values, List.length_map, verbatim.length]
  have entries : textEntries (form.fields.zip (texts a)) = form.entries a := by
    rw [Form.entries, verbatim.values, List.zip_map]
    rfl
  have known : ∀ x ∈ form.fields.zip (texts a), x.1 ∈ form.fields := fun x mem =>
    (List.of_mem_zip mem).1
  have distinct : ((form.entries a).map Prod.fst).Nodup := by
    rw [map_fst_entries length]
    exact verbatim.names
  have picks : form.fields.mapM (Field.pick (form.entries a)) = .ok (form.values a) := by
    refine mapM_pick length ?_
    rintro ⟨f, v⟩ value
    have told : (f.name, v) ∈ form.entries a := mem_entries.mpr ⟨_, value, rfl⟩
    rw [Field.pick, Entries.lookup_of_mem distinct told]
  have plain : (form.fields.zip (texts a)).all (isPlain ·.2) = (texts a).all isPlain := by
    have covered : (texts a).length ≤ form.fields.length := Nat.le_of_eq (verbatim.length a)
    rw [← Function.comp_def isPlain Prod.snd, ← List.all_map, List.map_snd_zip covered]
  have reads := Json.readRecord_texts verbatim.shapes known (entries ▸ distinct)
    (entries ▸ picks) []
  rw [entries, List.append_nil, plain] at reads
  have written : (form.write a).toList = Json.render (.table (form.entries a)) :=
    String.toList_ofList
  rw [Form.read, Json.whole, written, reads]
  split
  · next => simp [bind, Except.bind, Json.skipSpace, verbatim.ofValues? a]
  · next => rfl

theorem isVerbatim_errorCode : errorCode.IsVerbatim fun c => [c.code, c.message] where
  names := by decide
  shapes := by simp [errorCode]
  length _ := rfl
  values _ := rfl
  ofValues? _ := rfl

end Form

/-- **An error code is read back from what it is written as exactly if its two texts are plain**:
no character of them is a quote, a backslash or below the blank.  Otherwise what it is written as
is refused, and never read as another error code. -/
theorem plain_error_codes_survive_json (c : ErrorCode) :
    Form.errorCode.read (Form.errorCode.write c) =
      if isPlain c.code && isPlain c.message then .ok c else .error .mistyped := by
  have reads := Form.isVerbatim_errorCode.read_write c
  rwa [List.all_cons, List.all_cons, List.all_nil, Bool.and_true] at reads

/-- **A quote in an error code is lost on JSON**: it is escaped when the error code is written, and
the text is refused. -/
theorem quoted_error_code_is_refused :
    let c : ErrorCode := ⟨"A\"B", "m"⟩
    Form.errorCode.write c = "\x7b\"code\":\"A\\\"B\",\"message\":\"m\"\x7d" ∧
      Form.errorCode.read (Form.errorCode.write c) = .error .mistyped ∧
      Form.errorCode.read (Form.errorCode.write c) ≠ .ok c := by
  intro c
  have escaped : ¬ ([c.code, c.message].all isPlain = true) := by decide
  have refused : Form.errorCode.read (Form.errorCode.write c) = .error .mistyped :=
    (Form.isVerbatim_errorCode.read_write c).trans (if_neg escaped)
  refine ⟨by decide, refused, ?_⟩
  rw [refused]
  exact nofun

end FeatureLock
