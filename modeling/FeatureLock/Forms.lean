import FeatureLock.StorageMode
import FeatureLock.Store.Row

/-!
# JSON forms

Features, keys, lock reasons, rows, error codes and storage modes are written as
JSON and read back.

## Main Definitions

- `Form`: how a record type is written and read, with `Form.write` and `Form.read`
- `Form.feature`, `Form.key`, `Form.lockReasons`, `Form.row`, `Form.errorCode`
- `readStorageMode`, `writeStorageMode`
-/

namespace FeatureLock

open Json (Fault Field Shape)

/-- How a record type is written and read: its fields, their values, and the record of a list
of values. -/
structure Form (α : Type) where
  fields : List Field
  values : α → List Value
  ofValues? : List Value → Option α

namespace Form

variable {α : Type}

/-- The structured value of a record: a table of its fields in their order. -/
def toValue (form : Form α) (a : α) : Value :=
  .table ((form.fields.map (·.name)).zip (form.values a))

/-- The text of a record. -/
def write (form : Form α) (a : α) : String :=
  Json.write (form.toValue a)

/-- **The record that a text holds.** -/
def read (form : Form α) (s : String) : Except Fault α := do
  match form.ofValues? (← Json.whole (Json.readRecord form.fields) s) with
  | some a => .ok a
  | none => .error .mistyped

/-! ### Shapes -/

/-- An integer of 32 bits with a sign. -/
def int32 : Shape := .int (-2147483648) 2147483647

/-- An integer of 64 bits with a sign. -/
def int64 : Shape := .int Instant.minMillis Instant.maxMillis

/-- A list of texts. -/
def texts (ss : List String) : Value :=
  .list (ss.map .text)

/-- The texts of a list, if it holds nothing else. -/
def texts? (vs : List Value) : Option (List String) :=
  vs.mapM fun
    | .text s => some s
    | _ => none

/-- A text or null. -/
def textOrNull : Option String → Value
  | some s => .text s
  | none => .null

/-! ### Records -/

/-- Keys. -/
def key : Form Key where
  fields := [⟨"tenantId", int32⟩, ⟨"subjectId", .text⟩, ⟨"featureType", .text⟩]
  values k := [.int k.tenant.toInt, .text k.subject, .text k.featureType]
  ofValues?
    | [.int t, .text s, .text f] => some ⟨Int32.ofInt t, s, f⟩
    | _ => none

/-- Features. -/
def feature : Form Feature where
  fields := key.fields ++
    [⟨"locked", .bool⟩, ⟨"unlockTime", int64⟩, ⟨"lockReasonCodes", .texts⟩,
      ⟨"lockReasons", .texts⟩]
  values f := key.values f.key ++
    [.bool f.locked, .int f.unlockTime.toInt, texts f.codes, texts f.reasons]
  ofValues?
    | [.int t, .text s, .text f, .bool l, .int u, .list cs, .list rs] => do
      return ⟨⟨Int32.ofInt t, s, f⟩, l, Int64.ofInt u, ← texts? cs, ← texts? rs⟩
    | _ => none

/-- Lock reasons. -/
def lockReasons : Form LockReasons where
  fields := [⟨"codes", .texts⟩, ⟨"reasons", .texts⟩]
  values r := [texts r.codes, texts r.reasons]
  ofValues?
    | [.list cs, .list rs] => do return ⟨← texts? cs, ← texts? rs⟩
    | _ => none

/-- The text of a value that is a text or null. -/
def textOrNull? : Value → Option (Option String)
  | .text s => some (some s)
  | .null => some none
  | _ => none

/-- Rows of the feature table. -/
def row : Form Row where
  fields :=
    [⟨"tenant_id", int32⟩, ⟨"subject_id", .text⟩, ⟨"feature_type", .text⟩,
      ⟨"is_feature_locked", .bool⟩, ⟨"feature_unlock_time", int64⟩,
      ⟨"feature_lock_reason", .textOrNull⟩, ⟨"feature_lock_reason_code", .textOrNull⟩]
  values r := key.values r.key ++
    [.bool r.columns.locked, .int r.columns.unlockTime.toInt, textOrNull r.columns.reasonText,
      textOrNull r.columns.codeText]
  ofValues?
    | [.int t, .text s, .text f, .bool l, .int u, r, c] => do
      return ⟨⟨Int32.ofInt t, s, f⟩, ⟨l, Int64.ofInt u, ← textOrNull? r, ← textOrNull? c⟩⟩
    | _ => none

/-- Error codes.  Their texts are taken from the text that is read as they stand there, so they
are read back only where they are written without escapes. -/
def errorCode : Form ErrorCode where
  fields := [⟨"code", .verbatim⟩, ⟨"message", .verbatim⟩]
  values c := [.text c.code, .text c.message]
  ofValues?
    | [.text c, .text m] => some ⟨c, m⟩
    | _ => none

end Form

/-! ### Storage modes -/

/-- The text of a storage mode. -/
def writeStorageMode (m : StorageMode) : String :=
  Json.write (.text m.variant)

/-- The storage mode with a given name. -/
def storageModeOf (name : List Char) : Except Fault StorageMode :=
  if name = StorageMode.externalDb.variant.toList then .ok .externalDb
  else if name = StorageMode.memory.variant.toList then .ok .memory
  else .error .mistyped

/-- A storage mode: its name, or an object that holds null under its name. -/
def scanStorageMode (cs : List Char) : Except Fault (StorageMode × List Char) :=
  match Json.skipSpace cs with
  | [] => .error .cutShort
  | '"' :: cs => do
    let (name, cs) ← Json.scanText true .plain cs
    return (← storageModeOf name, cs)
  | '{' :: cs => do
    let (name, cs) ← Json.scanText true .plain (← Json.openName cs)
    let mode ← storageModeOf name
    let cs ← match Json.skipSpace (← Json.colon cs) with
      | [] => .error .cutShort
      | 'n' :: cs => Json.expect ['u', 'l', 'l'] cs
      | cs => .error (Json.refuse cs)
    match Json.skipSpace cs with
    | [] => .error .cutShort
    | c :: cs => if c = '}' then .ok (mode, cs) else .error .malformed
  | _ :: _ => .error .malformed

/-- **The storage mode that a text holds.** -/
def readStorageMode (s : String) : Except Fault StorageMode :=
  Json.whole scanStorageMode s

end FeatureLock
