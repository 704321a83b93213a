import FeatureLock.Feature

/-!
# The catalog of lock reasons

A lock is placed with reason codes.  The catalog has a message for some of them;
a code without a message describes itself.

## Main Definitions

- `Catalog`, `Catalog.withReason`, `Catalog.ofList`: codes with their messages
- `describe`: the message of a code
- `resolve`: checked codes without repeats, with their messages

## Design Notes

Codes are looked up as they are resolved, that is trimmed; the catalog keeps its
codes as they were entered, white space included.
-/

namespace FeatureLock

/-- Codes with their messages, each code once. -/
structure Catalog where
  messages : List (String × String)
  deriving DecidableEq

namespace Catalog

/-- The catalog without messages. -/
def empty : Catalog := ⟨[]⟩

/-- Set the message of a code in a list of codes and messages. -/
def set (code message : String) : List (String × String) → List (String × String)
  | [] => [(code, message)]
  | (c, m) :: rest => if c = code then (c, message) :: rest else (c, m) :: set code message rest

/-- A catalog with the message of one more code, or with another message for a code it has. -/
def withReason (c : Catalog) (code message : String) : Catalog :=
  ⟨set code message c.messages⟩

/-- The catalog of a list of codes and messages; the last message of a code counts. -/
def ofList (entries : List (String × String)) : Catalog :=
  entries.foldl (fun c e => c.withReason e.1 e.2) empty

/-- How many codes have a message. -/
def size (c : Catalog) : Nat :=
  c.messages.length

/-- No code has a message. -/
def isEmpty (c : Catalog) : Bool :=
  c.messages.isEmpty

/-- The message of a code, if there is one. -/
def message? (c : Catalog) (code : String) : Option String :=
  c.messages.lookup code

/-- The message of a code; a code without one describes itself. -/
def describe (c : Catalog) (code : String) : String :=
  (c.message? code).getD code

/-- Add one code to those resolved before: trimmed, checked, and only if it is new. -/
def extend (c : Catalog) (found : LockReasons) (code : String) : Except Complaint LockReasons :=
  let code := Text.trim code
  if code = "" then .error (.blank .reasonCode)
  else if maxPartLength < code.length then .error (.tooLong .reasonCode)
  else if code ∈ found.codes then .ok found
  else .ok ⟨found.codes ++ [code], found.reasons ++ [c.describe code]⟩

/-- **The reasons of a list of codes**: the codes trimmed and without repeats, in the order of
their first occurrences, each with its message.  The first code that is blank or too long is
the complaint. -/
def resolve (c : Catalog) (codes : List String) : Except Complaint LockReasons :=
  codes.foldlM c.extend LockReasons.empty

end Catalog

end FeatureLock
