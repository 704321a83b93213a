import FeatureLock.Proofs.Json.Acceptance
import FeatureLock.Proofs.Json.Writing
import FeatureLock.Store.Row

/-!
# Stored reasons are read back

The text of a list of reasons begins and ends with a bracket.  So the trim in
front of reading leaves it alone, and it is never taken for a blank column.

A column can hold a text that nobody wrote as a list of reasons.  Two kinds of white
space meet in such a text: what is trimmed off its ends is any, and between the tokens of
a list only four characters count.  Behind the trim none of these is left at an end.

## Main Definition

- `Denotes`: the reasons that a column stands for

Main statements: `decode_encode`, and `reasons_survive_storage` with what it comes to for
a column; `decode_eq_ok_iff` and `only_lists_of_strings_are_read`, which columns are read.
-/

namespace FeatureLock.ReasonText

theorem toList_encode (reasons : List String) :
    (encode reasons).toList = '[' :: (Json.renderItems (reasons.map .text) ++ [']']) := by
  simp [encode, Json.write, Json.render]

/-- A list of strings begins with its opening bracket. -/
theorem head?_of_textList {reasons : List String} {cs : List Char}
    (list : Json.TextList reasons cs []) : cs.head? = some '[' := by
  cases list <;> rfl

/-- A list of strings has no white space at its ends. -/
theorem trim_of_textList {reasons : List String} {s : String}
    (list : Json.TextList reasons s.toList []) : Text.trim s = s := by
  have kept : Text.trimChars s.toList = s.toList := by
    apply Text.trimChars_eq_self
    · intro c first
      rw [head?_of_textList list] at first
      cases first
      decide
    · intro c last
      obtain ⟨front, whole⟩ := list.suffix
      rw [← whole, List.getLast?_append] at last
      cases last
      decide
  rw [Text.trim, kept, String.ofList_toList]

theorem not_isBlank_encode (reasons : List String) : ¬ Text.IsBlank (encode reasons) := by
  intro blank
  have bracket : '[' ∈ (encode reasons).toList := by
    rw [toList_encode]
    exact List.mem_cons_self
  exact absurd (blank '[' bracket) (by decide)

theorem encode_ne_empty (reasons : List String) : encode reasons ≠ "" := by
  intro empty
  have bracket := toList_encode reasons
  rw [empty] at bracket
  cases bracket

/-- The text of no reasons is the one that a released row holds. -/
theorem encode_nil : encode [] = emptyText := by
  apply String.toList_inj.mp
  rw [toList_encode]
  rfl

/-- The text of a list of reasons is a JSON list of these strings, and nothing else. -/
theorem textList_encode (reasons : List String) :
    Json.TextList reasons (encode reasons).toList [] := by
  have list := Json.textList_render reasons []
  rw [List.append_nil] at list
  rw [encode, Json.write, String.toList_ofList]
  exact list

theorem trim_encode (reasons : List String) : Text.trim (encode reasons) = encode reasons :=
  trim_of_textList (textList_encode reasons)

/-- **Stored reasons are read back**, whatever characters they hold. -/
theorem decode_encode (reasons : List String) : decode (some (encode reasons)) = .ok reasons := by
  simp only [decode, Option.map_some, trim_encode, encode_ne_empty, ↓reduceIte, Json.whole,
    Json.readStrings_textList (textList_encode reasons)]
  rfl

theorem encode_inj {reasons others : List String} :
    encode reasons = encode others ↔ reasons = others := by
  refine ⟨fun same => ?_, congrArg encode⟩
  have read := decode_encode reasons
  rw [same, decode_encode] at read
  exact (Except.ok.inj read).symm

/-- **Storing reasons loses nothing.**  The text of a list is a JSON list of exactly these strings;
it is read back as the list, and no two lists have the same text.  It is not blank, and the trim in
front of reading leaves it as it is.  It is the text that a released row holds if and only if the
list is empty. -/
theorem reasons_survive_storage (reasons : List String) :
    Json.TextList reasons (encode reasons).toList [] ∧
      decode (some (encode reasons)) = .ok reasons ∧
      (∀ others, encode others = encode reasons ↔ others = reasons) ∧
      ¬ Text.IsBlank (encode reasons) ∧
      Text.trim (encode reasons) = encode reasons ∧
      (encode reasons = emptyText ↔ reasons = []) ∧
      (Columns.released.reasonText = some (encode reasons) ↔ reasons = []) ∧
      (Columns.released.codeText = some (encode reasons) ↔ reasons = []) := by
  have empty : encode reasons = emptyText ↔ reasons = [] := by rw [← encode_nil, encode_inj]
  have column : some emptyText = some (encode reasons) ↔ reasons = [] := by
    rw [Option.some_inj, eq_comm, empty]
  exact ⟨textList_encode reasons, decode_encode reasons, fun _ => encode_inj,
    not_isBlank_encode reasons, trim_encode reasons, empty, column, column⟩

/-! ### Columns that are read -/

/-- **The reasons that a column stands for.**  No text and blank text stand for none; any other text
stands for the strings of a list, if it is that list with white space around it. -/
inductive Denotes : Option String → List String → Prop where
  | null : Denotes none []
  | blank {s : String} (blank : Text.IsBlank s) : Denotes (some s) []
  | list {before s after : String} {reasons : List String} (leading : Text.IsBlank before)
      (list : Json.TextList reasons s.toList []) (trailing : Text.IsBlank after) :
      Denotes (some (before ++ s ++ after)) reasons

theorem isWhite_of_isSpace {c : Char} (space : Json.isSpace c = true) : Text.isWhite c = true := by
  cases Json.space_iff.mpr space <;> decide

theorem toList_trim (s : String) : (Text.trim s).toList = Text.trimChars s.toList := by
  rw [Text.trim, String.toList_ofList]

/-- A list with white space around it that begins and ends with none is only the list. -/
theorem whole_trim_eq_ok_iff {s : String} {reasons : List String} :
    Json.whole Json.readStrings (Text.trim s) = .ok reasons ↔
      Json.TextList reasons (Text.trim s).toList [] := by
  rw [Json.whole_readStrings_eq_ok_iff]
  constructor
  · rintro ⟨a, rest, gap, list, ends⟩
    have begins : (Text.trim s).toList = a := by
      refine gap.eq_of_not_isSpace fun c first => ?_
      rw [toList_trim] at first
      have notWhite := Text.not_isWhite_head_trimChars s.toList c first
      exact Bool.eq_false_iff.mpr fun space => by simp [isWhite_of_isSpace space] at notWhite
    have nothing : rest = [] := by
      -- the last character behind the list would be the last one of the trimmed text
      refine List.eq_nil_iff_forall_not_mem.mpr fun c mem => ?_
      obtain ⟨front, whole⟩ := list.suffix
      have nonempty : rest ≠ [] := List.ne_nil_of_mem mem
      have last : (Text.trim s).toList.getLast? = some (rest.getLast nonempty) := by
        rw [begins, ← whole, List.getLast?_append, List.getLast?_cons,
          List.getLast?_eq_some_getLast nonempty]
        rfl
      rw [toList_trim] at last
      have notWhite := Text.not_isWhite_getLast_trimChars s.toList _ last
      have space := ends.isSpace_of_mem (List.getLast_mem nonempty)
      rw [isWhite_of_isSpace space] at notWhite
      cases notWhite
    rw [begins]
    rw [nothing] at list
    exact list
  · exact fun list => ⟨_, [], .none _, list, .none []⟩

/-- **A column is read as the reasons that it stands for**, and no other column is read. -/
theorem decode_eq_ok_iff {stored : Option String} {reasons : List String} :
    decode stored = .ok reasons ↔ Denotes stored reasons := by
  cases stored with
  | none =>
    refine ⟨fun read => ?_, fun denotes => ?_⟩
    · cases read
      exact .null
    · cases denotes
      rfl
  | some s =>
    simp only [decode, Option.map_some]
    split
    · next empty =>
      refine ⟨fun read => ?_, fun denotes => ?_⟩
      · cases read
        exact .blank (Text.trim_eq_empty_iff.mp empty)
      · cases denotes with
        | blank _ => rfl
        | list leading list trailing =>
          rw [Text.trim_pad leading trailing, trim_of_textList list] at empty
          rw [empty] at list
          cases list
    · next notEmpty =>
      rw [whole_trim_eq_ok_iff]
      refine ⟨fun list => ?_, fun denotes => ?_⟩
      · obtain ⟨before, after, leading, trailing, whole⟩ := Text.exists_pad_trim s
        rw [whole]
        exact .list leading list trailing
      · cases denotes with
        | blank blank => exact absurd (Text.trim_eq_empty_iff.mpr blank) notEmpty
        | list leading list trailing =>
          rw [Text.trim_pad leading trailing, trim_of_textList list]
          exact list

/-- **Only lists of strings are read.**  A column is read as certain reasons if and only if it
stands for them: it holds no text or blank text and they are none, or its text is a JSON list of
just these strings, with white space around it.  It stands for nothing else, and if it stands for
nothing it is refused.  So is every text that is not blank and in which no list begins, such as
codes with commas between them. -/
theorem only_lists_of_strings_are_read (stored : Option String) :
    (∀ reasons, decode stored = .ok reasons ↔ Denotes stored reasons) ∧
      (∀ reasons others, Denotes stored reasons → Denotes stored others → others = reasons) ∧
      ((∃ fault, decode stored = .error fault) ↔ ∀ reasons, ¬ Denotes stored reasons) ∧
      ∀ s, stored = some s → ¬ Text.IsBlank s → (Text.trim s).toList.head? ≠ some '[' →
        ∃ fault, decode stored = .error fault := by
  have refused : (∃ fault, decode stored = .error fault) ↔ ∀ reasons, ¬ Denotes stored reasons := by
    constructor
    · rintro ⟨fault, failed⟩ reasons denotes
      rw [decode_eq_ok_iff.mpr denotes] at failed
      cases failed
    · intro nothing
      cases read : decode stored with
      | error fault => exact ⟨fault, rfl⟩
      | ok reasons => exact absurd (decode_eq_ok_iff.mp read) (nothing reasons)
  refine ⟨fun _ => decode_eq_ok_iff, fun reasons others denotes denotes' => ?_, refused, ?_⟩
  · have read := decode_eq_ok_iff.mpr denotes
    rw [decode_eq_ok_iff.mpr denotes'] at read
    exact Except.ok.inj read
  · rintro s rfl notBlank begins
    refine refused.mpr fun reasons denotes => ?_
    cases denotes with
    | blank blank => exact notBlank blank
    | list leading list trailing =>
      rw [Text.trim_pad leading trailing, trim_of_textList list] at begins
      exact begins (head?_of_textList list)

/-- Codes with commas between them are refused. -/
theorem delimited_codes_are_refused :
    ∃ fault, decode (some "FAILED_ATTEMPTS,ADMIN") = .error fault :=
  (only_lists_of_strings_are_read _).2.2.2 _ rfl (by decide) (by decide)

end FeatureLock.ReasonText
