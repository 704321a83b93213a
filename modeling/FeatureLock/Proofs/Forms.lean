import FeatureLock.Forms
import FeatureLock.Proofs.Json.Writing

/-!
# Records survive JSON

A record that is written and read again is the same record.  More than that, it is read from
any object that says what is in its fields: in any order, in any spelling, with any other
members between them, and without the members that would be null.

## Main Definitions

- `Form.Shows`: the members of an object that say what is in the fields of a record
- `Form.Presents`: a text that presents a record
- `Form.IsFaithful`: what makes a form fit for reading back

Main statements: `IsFaithful.read_of_presents` and `IsFaithful.presents_write` for any form, and
`records_survive_json` for the four forms of the program.
-/

namespace FeatureLock

open Json (Field Gap Holds Label Member Members Object Shape)

namespace Form

variable {α : Type}

/-- The members that a record is written as. -/
def entries (form : Form α) (a : α) : Entries :=
  (form.fields.map (·.name)).zip (form.values a)

/-- **Members say what is in the fields of a record**, in whatever order they stand: no name comes
twice, and each field has its value, unless the value is null and the field is left out. -/
structure Shows (form : Form α) (a : α) (found : Entries) : Prop where
  distinct : (found.map Prod.fst).Nodup
  tells : ∀ e ∈ form.fields.zip (form.values a), (e.1.name, e.2) ∈ found ∨
    e.1.shape = .textOrNull ∧ e.2 = .null ∧ e.1.name ∉ found.map Prod.fst

/-- **A text presents a record** when it is an object, with white space around it, whose members
say what is in the fields.  Members of other names may stand anywhere, with any values. -/
def Presents (form : Form α) (a : α) (text : String) : Prop :=
  ∃ found object rest, Gap text.toList object ∧
    Object (form.fields.map (·.name)) found object rest ∧ Gap rest [] ∧ form.Shows a found

/-- **A faithful form**: the names of its fields are distinct, the fields admit the values of every
record, and the record is what the values make up. -/
structure IsFaithful (form : Form α) : Prop where
  names : (form.fields.map (·.name)).Nodup
  length : ∀ a, (form.values a).length = form.fields.length
  admits : ∀ a, ∀ e ∈ form.fields.zip (form.values a), e.1.shape.Admits e.2
  ofValues? : ∀ a, form.ofValues? (form.values a) = some a

/-! ### Members -/

variable {form : Form α} {a : α}

/-- The members are the fields with their values. -/
theorem mem_entries {e : String × Value} :
    e ∈ form.entries a ↔ ∃ x ∈ form.fields.zip (form.values a), (x.1.name, x.2) = e := by
  rw [entries, List.zip_map_left, List.mem_map]
  rfl

theorem map_fst_entries (length : (form.values a).length = form.fields.length) :
    (form.entries a).map Prod.fst = form.fields.map (·.name) := by
  have covered : (form.fields.map (·.name)).length ≤ (form.values a).length :=
    Nat.le_of_eq (by rw [List.length_map, length])
  rw [entries, List.map_fst_zip covered]

/-! ### Reading -/

/-- Each field of a record has a value. -/
theorem exists_mem_zip {β γ : Type} {xs : List β} {ys : List γ} (length : ys.length = xs.length)
    {x : β} (mem : x ∈ xs) : ∃ y, (x, y) ∈ xs.zip ys := by
  obtain ⟨i, within, rfl⟩ := List.mem_iff_getElem.mp mem
  have within' : i < (xs.zip ys).length := by
    rw [List.length_zip, length, Nat.min_self]
    exact within
  exact ⟨_, List.getElem_zip (h := within') ▸ List.getElem_mem within'⟩

/-- A record is picked field by field. -/
theorem mapM_pick {fields : List Field} {vs : List Value} (length : vs.length = fields.length)
    {found : Entries} (picks : ∀ e ∈ fields.zip vs, Field.pick found e.1 = .ok e.2) :
    fields.mapM (Field.pick found) = .ok vs := by
  induction fields generalizing vs with
  | nil =>
    obtain rfl := List.eq_nil_of_length_eq_zero length
    rfl
  | cons f fields ih =>
    obtain ⟨v, vs, rfl⟩ := List.exists_cons_of_length_eq_add_one length
    rw [List.zip_cons_cons, List.forall_mem_cons] at picks
    rw [List.mapM_cons, picks.1, ih (Nat.succ.inj length) picks.2]
    rfl

namespace IsFaithful

variable {found : Entries}

/-- The members that say what is in the fields are values that the fields admit. -/
theorem fits (faithful : form.IsFaithful) (shows : form.Shows a found) :
    found.Fits form.fields := by
  rintro ⟨n, v⟩ mem f isField rfl
  obtain ⟨w, value⟩ := exists_mem_zip (faithful.length a) isField
  have admits := faithful.admits a _ value
  rcases shows.tells _ value with told | ⟨-, -, absent⟩
  -- no name comes twice, so what is found under the name is what the record holds
  · have same : some v = some w :=
      (Entries.lookup_of_mem shows.distinct mem).symm.trans
        (Entries.lookup_of_mem shows.distinct told)
    cases same
    exact admits
  · exact absurd (List.mem_map.mpr ⟨_, mem, rfl⟩) absent

theorem picks (faithful : form.IsFaithful) (shows : form.Shows a found) :
    form.fields.mapM (Field.pick found) = .ok (form.values a) := by
  refine mapM_pick (faithful.length a) ?_
  rintro ⟨f, v⟩ value
  rcases shows.tells _ value with told | ⟨nullable, isNull, absent⟩
  · rw [Field.pick, Entries.lookup_of_mem shows.distinct told]
  · rw [Field.pick, Entries.lookup_eq_none absent]
    simp only at nullable isNull
    simp only [nullable, isNull, ↓reduceIte]

/-- **A record is read from every text that presents it.** -/
theorem read_of_presents (faithful : form.IsFaithful) {text : String}
    (presents : form.Presents a text) : form.read text = .ok a := by
  obtain ⟨found, object, rest, gap, isObject, ends, shows⟩ := presents
  have reads := Json.readRecord_object gap isObject shows.distinct (faithful.fits shows)
    (faithful.picks shows)
  have nothing : Json.skipSpace rest = [] := ends.skipSpace_eq
  simp only [Form.read, Json.whole, bind, Except.bind, reads, nothing, faithful.ofValues? a]

/-! ### Writing -/

/-- The members in the order of the fields say what is in the fields, and so do they in any other
order. -/
theorem shows_of_perm (faithful : form.IsFaithful) (perm : found.Perm (form.entries a)) :
    form.Shows a found := by
  constructor
  · rw [(perm.map Prod.fst).nodup_iff, map_fst_entries (faithful.length a)]
    exact faithful.names
  · rintro ⟨f, v⟩ mem
    exact .inl (perm.mem_iff.mpr (mem_entries.mpr ⟨(f, v), mem, rfl⟩))

/-- **A record is written as a text that presents it.** -/
theorem presents_write (faithful : form.IsFaithful) (a : α) : form.Presents a (form.write a) := by
  have known : ∀ e ∈ form.entries a,
      e.1 ∈ form.fields.map (·.name) ∧ ∃ shape : Shape, shape.Admits e.2 := by
    rintro e mem
    obtain ⟨⟨f, v⟩, value, rfl⟩ := mem_entries.mp mem
    exact ⟨List.mem_map.mpr ⟨f, (List.of_mem_zip value).1, rfl⟩, _, faithful.admits a _ value⟩
  have object := Json.object_render known []
  rw [List.append_nil] at object
  refine ⟨form.entries a, _, [], ?_, object, .none _, faithful.shows_of_perm (.refl _)⟩
  rw [Form.write, Json.write, String.toList_ofList]
  exact .none _

end IsFaithful

/-! ### The forms of the program -/

theorem admits_int32 (n : Int32) : int32.Admits (.int n.toInt) := by
  have low := n.le_toInt
  have high := n.toInt_lt
  exact .int (by omega) (by omega) (by omega) (by simp only [Json.maxWhole]; omega)

theorem admits_int64 (t : Instant) : int64.Admits (.int t.toInt) := by
  have low := t.minMillis_le
  have high := t.le_maxMillis
  refine .int low high low ?_
  simp only [Instant.maxMillis, Json.maxWhole] at *
  omega

theorem admits_textOrNull (s : Option String) : Shape.textOrNull.Admits (textOrNull s) := by
  cases s with
  | none => exact .null
  | some s => exact .someText s

theorem texts?_texts (ss : List String) : texts? (ss.map .text) = some ss := by
  induction ss with
  | nil => rfl
  | cons s ss ih =>
    rw [texts?] at ih ⊢
    rw [List.map_cons, List.mapM_cons, ih]
    rfl

theorem textOrNull?_textOrNull (s : Option String) : textOrNull? (textOrNull s) = some s := by
  cases s <;> rfl

theorem isFaithful_key : key.IsFaithful where
  names := by decide
  length _ := rfl
  admits k := by
    simp only [key, List.zip_cons_cons, List.zip_nil_right, List.forall_mem_cons]
    exact ⟨admits_int32 _, .text _, .text _, nofun⟩
  ofValues? k := by
    simp only [key, Int32.ofInt_toInt]

theorem isFaithful_feature : feature.IsFaithful where
  names := by decide
  length _ := rfl
  admits f := by
    simp only [feature, key, List.cons_append, List.nil_append, List.zip_cons_cons,
      List.zip_nil_right, List.forall_mem_cons]
    exact ⟨admits_int32 _, .text _, .text _, .bool _, admits_int64 _, .texts _, .texts _, nofun⟩
  ofValues? f := by
    simp only [feature, key, List.cons_append, List.nil_append, texts, texts?_texts,
      Int32.ofInt_toInt, Int64.ofInt_toInt]
    rfl

theorem isFaithful_lockReasons : lockReasons.IsFaithful where
  names := by decide
  length _ := rfl
  admits r := by
    simp only [lockReasons, List.zip_cons_cons, List.zip_nil_right, List.forall_mem_cons]
    exact ⟨.texts _, .texts _, nofun⟩
  ofValues? r := by
    simp only [lockReasons, texts, texts?_texts]
    rfl

theorem isFaithful_row : row.IsFaithful where
  names := by decide
  length _ := rfl
  admits r := by
    simp only [row, key, List.cons_append, List.nil_append, List.zip_cons_cons, List.zip_nil_right,
      List.forall_mem_cons]
    exact ⟨admits_int32 _, .text _, .text _, .bool _, admits_int64 _, admits_textOrNull _,
      admits_textOrNull _, nofun⟩
  ofValues? r := by
    simp only [row, key, List.cons_append, List.nil_append, textOrNull?_textOrNull,
      Int32.ofInt_toInt, Int64.ofInt_toInt]
    rfl

/-- **Records of a form survive JSON**: each is read back from the text that it is written as, and
from every other text that presents it. -/
def SurvivesJson (form : Form α) : Prop :=
  ∀ a, form.read (form.write a) = .ok a ∧ ∀ text, form.Presents a text → form.read text = .ok a

theorem IsFaithful.survivesJson {form : Form α} (faithful : form.IsFaithful) : form.SurvivesJson :=
  fun a => ⟨faithful.read_of_presents (faithful.presents_write a),
    fun _ presents => faithful.read_of_presents presents⟩

end Form

/-- **Features, keys, lock reasons and rows survive JSON**, whatever their texts, numbers and lists
are; and they are read from objects whose members stand in any order, with others between them, and
from which the nullable columns of a row are left out when they are null. -/
theorem records_survive_json :
    Form.feature.SurvivesJson ∧ Form.key.SurvivesJson ∧ Form.lockReasons.SurvivesJson ∧
      Form.row.SurvivesJson :=
  ⟨Form.isFaithful_feature.survivesJson, Form.isFaithful_key.survivesJson,
    Form.isFaithful_lockReasons.survivesJson, Form.isFaithful_row.survivesJson⟩

/-- A row is read although its members stand backwards behind one that no row has, and its first
reason column is left out. -/
theorem backward_row_is_read :
    Form.row.read ("\x7b\"note\":[0.5,\x7b\x7d],\"feature_lock_reason_code\":\"[]\"," ++
        "\"feature_unlock_time\":9223372036854775807,\"is_feature_locked\":true," ++
        "\"feature_type\":\"api\",\"subject_id\":\"alice\",\"tenant_id\":-2147483648\x7d") =
      .ok ⟨⟨-2147483648, "alice", "api"⟩, ⟨true, 9223372036854775807, none, some "[]"⟩⟩ := by
  obtain ⟨-, -, -, rows⟩ := records_survive_json
  have number : Json.Number ⟨false, ['0'], ['5'], none⟩ ['0', '.', '5'] :=
    .positive (.parts (by decide) (.point (by decide)) .none)
  have note : ∀ rest, Member (Form.row.fields.map (·.name)) []
      (Json.quote "note" ++ ':' :: '[' :: '0' :: '.' :: '5' :: ',' :: '\x7b' :: '\x7d' :: ']' ::
        ',' :: rest) (',' :: rest) := fun rest =>
    .unknown (.name (.none _) (Json.spelled_escape ['n', 'o', 't', 'e'] _) (.none _) (.none _))
      (by decide) (.list (.item (.none _) (.number number _) (.none _)
        (.lastItem (.none _) (.emptyObject (.none _)) (.none _))))
  have members := Json.members_render (Form.row.fields.map (·.name))
    ("feature_lock_reason_code", .text "[]")
    [("feature_unlock_time", .int 9223372036854775807), ("is_feature_locked", .bool true),
      ("feature_type", .text "api"), ("subject_id", .text "alice"),
      ("tenant_id", .int (-2147483648))] (by
      simp only [List.forall_mem_cons]
      exact ⟨⟨by decide, _, .text _⟩, ⟨by decide, _, Form.admits_int64 9223372036854775807⟩,
        ⟨by decide, _, .bool _⟩, ⟨by decide, _, .text _⟩, ⟨by decide, _, .text _⟩,
        ⟨by decide, _, Form.admits_int32 (-2147483648)⟩, nofun⟩) []
  have object := Object.members (.more (note _) (.none _) members)
  refine (rows _).2 _ ⟨_, _, [], ?_, object, .none _, ?_⟩
  · have text : ∀ {s : String} {cs : List Char}, s.toList = cs → Gap s.toList cs := by
      rintro s _ rfl
      exact .none _
    exact text (by decide +kernel)
  · refine ⟨by decide, ?_⟩
    simp only [Form.row, Form.key, Form.textOrNull, List.cons_append, List.nil_append,
      List.zip_cons_cons, List.zip_nil_right, List.forall_mem_cons]
    exact ⟨.inl (by simp), .inl (by simp), .inl (by simp), .inl (by simp), .inl (by simp),
      .inr ⟨trivial, trivial, by decide⟩, .inl (by simp), nofun⟩

end FeatureLock
