import FeatureLock.Config.Path
import FeatureLock.Instant
import FeatureLock.Text.LowerCase

/-!
# Settings as text, number and truth value

A setting is read as the type that it is used for, whatever type the source gave
it: a truth value or a number can be read as text, a text as a number.

## Main Definitions

- `SettingFault`: why a setting cannot be read
- `Value.asText`, `Value.asInt?`, `Value.asFlag?`: a value as text, as an integer
  and as a truth value
- `Value.setting`: the value at a path that has to be there
-/

namespace FeatureLock

/-- Why a setting cannot be read. -/
inductive SettingFault where
  /-- there is none under this name -/
  | missing (name : String)
  /-- its text was refused -/
  | message (text : String)
  /-- it is of a type that cannot be read as the wanted one -/
  | wrongType
  /-- something within it is missing or of the wrong kind -/
  | wrongEntry
  deriving DecidableEq

/-- The wording for a setting that is missing, or that was refused. -/
def SettingFault.text? : SettingFault → Option String
  | missing name => some ("missing configuration field \"" ++ name ++ "\"")
  | message text => some text
  | wrongType => none
  | wrongEntry => none

namespace Value

/-- **A value as text.**  Truth values and numbers are spelled out; null, lists and tables have no
text. -/
def asText : Value → Except SettingFault String
  | text s => .ok s
  | bool true => .ok "true"
  | bool false => .ok "false"
  | int n => .ok (Numeral.write n)
  | float x => .ok x.write
  | _ => .error .wrongType

/-- The words for truth, beside the number one. -/
def trueWords : List String := ["true", "on", "yes"]

/-- The words for falsehood, beside the number zero. -/
def falseWords : List String := ["false", "off", "no"]

/-- **A value as an integer of 64 bits.**  A floating-point number is rounded, halves away from
zero, and kept within the bounds; a text is a word for a truth value or an integer. -/
def asInt? : Value → Option Int
  | int n => if Instant.minMillis ≤ n ∧ n ≤ Instant.maxMillis then some n else none
  | bool b => some (if b then 1 else 0)
  | float x => some (x.roundAway Instant.minMillis Instant.maxMillis)
  | text s =>
    let word := Text.lower s
    if word ∈ trueWords then some 1
    else if word ∈ falseWords then some 0
    else (Numeral.read? s).filter fun n => Instant.minMillis ≤ n ∧ n ≤ Instant.maxMillis
  | _ => none

/-- **A value as a truth value.**  A number is true unless it is zero; a text is a word for a truth
value, or `1` or `0`. -/
def asFlag? : Value → Option Bool
  | bool b => some b
  | int n => some (n != 0)
  | float x => some (!x.isZero)
  | text s =>
    let word := Text.lower s
    if word = "1" ∨ word ∈ trueWords then some true
    else if word = "0" ∨ word ∈ falseWords then some false
    else none
  | _ => none

/-- The value at a path that has to be there. -/
def setting (path : Path) (v : Value) : Except SettingFault Value :=
  match v.get? path with
  | some w => .ok w
  | none => .error (.missing path.write)

end Value

end FeatureLock
