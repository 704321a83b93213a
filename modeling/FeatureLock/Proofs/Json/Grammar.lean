import FeatureLock.Json.Document

/-!
# The grammar of JSON texts

Which texts are JSON, and what they denote.  A rule relates the characters that
begin with a phrase to the characters that are left behind it, so that one rule
follows another without a text being cut to pieces.

## Main Definitions

- `Space`, `Escape`, `HexDigit`, `SurrogatePair`: the classes of characters, and what
  their characters mean
- `Gap`: white space between tokens
- `Spelled`: a string and the characters it denotes, from behind its opening quote;
  `IsSpelled`: the same without regard to what it denotes
- `Number`: the text of a number, and its parts
- `WellFormed`: a value, the items of a list or the members of an object, nested to
  any depth
- `TextList`: a list of strings
- `Holds`: a value that can stand in the field of a record
- `Object`: an object, and the members among its own that have one of some names

## Design Notes

The grammar says itself what an escape, a hexadecimal digit and a surrogate pair mean,
by the numbers of characters.  None of this is taken from the readers, so that they take
it the same way is a statement about them.

`Spelled` knows no half of a surrogate pair on its own, since it denotes no
character.  A value that nobody asks for may hold one: it is a matter of spelling
there, so `WellFormed` is stated with `IsSpelled`.

A number has no closing mark.  It ends where no more of it can follow, which is what
`Stops` says of the characters behind it.
-/

namespace FeatureLock.Json

/-! ### Characters -/

/-- White space: the blank, the tab, the line feed and the carriage return. -/
inductive Space : Char → Prop where
  | blank : Space ' '
  | tab : Space '\t'
  | lineFeed : Space '\n'
  | carriageReturn : Space '\r'

/-- The letter of an escape, and the character that the escape denotes. -/
inductive Escape : Char → Char → Prop where
  | quote : Escape '"' '"'
  | backslash : Escape '\\' '\\'
  | slash : Escape '/' '/'
  | backspace : Escape 'b' '\x08'
  | formFeed : Escape 'f' '\x0c'
  | lineFeed : Escape 'n' '\n'
  | carriageReturn : Escape 'r' '\r'
  | tab : Escape 't' '\t'

/-- A hexadecimal digit of either case, and its value, which is its place among the sixteen. -/
inductive HexDigit (c : Char) (n : Nat) : Prop where
  | lower (place : "0123456789abcdef".toList[n]? = some c)
  | upper (place : "0123456789ABCDEF".toList[n]? = some c)

/-- **The two halves of a surrogate pair, and the character that they denote**: each half gives ten
bits of what the number of the character exceeds 2 ^ 16 by. -/
structure SurrogatePair (lead trail : Nat) (c : Char) : Prop where
  lead_ge : 0xD800 ≤ lead
  lead_lt : lead < 0xDC00
  trail_ge : 0xDC00 ≤ trail
  trail_lt : trail < 0xE000
  denotes : c.toNat = 0x10000 + (lead - 0xD800) * 0x400 + (trail - 0xDC00)

/-- White space, and the characters behind it. -/
inductive Gap : List Char → List Char → Prop where
  | none (rest : List Char) : Gap rest rest
  | more {c : Char} {cs rest : List Char} (space : Space c) (gap : Gap cs rest) :
      Gap (c :: cs) rest

/-! ### Strings -/

/-- The number that four hexadecimal digits write. -/
inductive Code : Nat → List Char → List Char → Prop where
  | digits {a b c d : Char} {w x y z : Nat} (first : HexDigit a w) (second : HexDigit b x)
      (third : HexDigit c y) (fourth : HexDigit d z) (rest : List Char) :
      Code (((w * 16 + x) * 16 + y) * 16 + z) (a :: b :: c :: d :: rest) rest

/-- **A string and the characters that it denotes**, from behind its opening quote up to and with
its closing one. -/
inductive Spelled : List Char → List Char → List Char → Prop where
  | close (rest : List Char) : Spelled [] ('"' :: rest) rest
  /-- a character that stands for itself -/
  | plain {c : Char} {s cs rest : List Char} (quote : c ≠ '"') (slash : c ≠ '\\')
      (printable : 0x20 ≤ c.toNat) (more : Spelled s cs rest) : Spelled (c :: s) (c :: cs) rest
  /-- an escape of one letter -/
  | short {l c : Char} {s cs rest : List Char} (letter : Escape l c) (more : Spelled s cs rest) :
      Spelled (c :: s) ('\\' :: l :: cs) rest
  /-- an escape by the number of the character -/
  | code {c : Char} {s cs mid rest : List Char} (code : Code c.toNat cs mid)
      (more : Spelled s mid rest) : Spelled (c :: s) ('\\' :: 'u' :: cs) rest
  /-- two escapes that are the halves of a surrogate pair -/
  | pair {lead trail : Nat} {c : Char} {s cs mid mid' rest : List Char}
      (first : Code lead cs ('\\' :: 'u' :: mid)) (second : Code trail mid mid')
      (joins : SurrogatePair lead trail c) (more : Spelled s mid' rest) :
      Spelled (c :: s) ('\\' :: 'u' :: cs) rest

/-- The spelling of a string, halves of surrogate pairs on their own included. -/
inductive IsSpelled : List Char → List Char → Prop where
  | close (rest : List Char) : IsSpelled ('"' :: rest) rest
  | plain {c : Char} {cs rest : List Char} (quote : c ≠ '"') (slash : c ≠ '\\')
      (printable : 0x20 ≤ c.toNat) (more : IsSpelled cs rest) : IsSpelled (c :: cs) rest
  | short {l c : Char} {cs rest : List Char} (letter : Escape l c) (more : IsSpelled cs rest) :
      IsSpelled ('\\' :: l :: cs) rest
  | code {n : Nat} {cs mid rest : List Char} (code : Code n cs mid)
      (more : IsSpelled mid rest) : IsSpelled ('\\' :: 'u' :: cs) rest

/-! ### Numbers -/

/-- One digit or more. -/
def IsDigits (ds : List Char) : Prop :=
  ds ≠ [] ∧ ∀ d ∈ ds, Numeral.isDigit d = true

/-- The digits before the point: no other follows a zero in front. -/
def IsWhole (ds : List Char) : Prop :=
  IsDigits ds ∧ (ds.head? = some '0' → ds.length = 1)

instance (ds : List Char) : Decidable (IsDigits ds) :=
  have : Decidable (∀ d ∈ ds, Numeral.isDigit d = true) := List.decidableBAll _ ds
  inferInstanceAs (Decidable (_ ∧ _))

instance (ds : List Char) : Decidable (IsWhole ds) :=
  inferInstanceAs (Decidable (_ ∧ _))

/-- A point with digits, or nothing. -/
inductive Fraction : List Char → List Char → Prop where
  | none : Fraction [] []
  | point {ds : List Char} (digits : IsDigits ds) : Fraction ds ('.' :: ds)

/-- An exponent with a sign or without one, or nothing. -/
inductive Exponent : Option (Bool × List Char) → List Char → Prop where
  | none : Exponent none []
  | unsigned {e : Char} {ds : List Char} (letter : e = 'e' ∨ e = 'E') (digits : IsDigits ds) :
      Exponent (some (false, ds)) (e :: ds)
  | plus {e : Char} {ds : List Char} (letter : e = 'e' ∨ e = 'E') (digits : IsDigits ds) :
      Exponent (some (false, ds)) (e :: '+' :: ds)
  | minus {e : Char} {ds : List Char} (letter : e = 'e' ∨ e = 'E') (digits : IsDigits ds) :
      Exponent (some (true, ds)) (e :: '-' :: ds)

/-- A number without its sign. -/
inductive Unsigned (negative : Bool) : NumberText → List Char → Prop where
  | parts {whole part cs cs' : List Char} {exponent : Option (Bool × List Char)}
      (isWhole : IsWhole whole) (fraction : Fraction part cs) (power : Exponent exponent cs') :
      Unsigned negative ⟨negative, whole, part, exponent⟩ (whole ++ (cs ++ cs'))

/-- **The text of a number**, and its parts. -/
inductive Number : NumberText → List Char → Prop where
  | positive {t : NumberText} {ds : List Char} (unsigned : Unsigned false t ds) : Number t ds
  | negative {t : NumberText} {ds : List Char} (unsigned : Unsigned true t ds) :
      Number t ('-' :: ds)

/-- No number goes on here. -/
def Stops (rest : List Char) : Prop :=
  ∀ c ∈ rest.head?, Numeral.isDigit c = false ∧ c ≠ '.' ∧ c ≠ 'e' ∧ c ≠ 'E'

/-! ### Values of any kind -/

/-- The name of a member and the colon behind it, up to its value. -/
inductive IsLabel : List Char → List Char → Prop where
  | name {cs a b c value : List Char} (gap : Gap cs ('"' :: a)) (name : IsSpelled a b)
      (colon : Gap b (':' :: c)) (gap' : Gap c value) : IsLabel cs value

/-- The phrases that values are made of. -/
inductive Phrase where
  | value
  /-- the items of a list, from the first one up to the closing bracket -/
  | items
  /-- the members of an object, from the first one up to the closing bracket -/
  | members

/-- **A phrase of a JSON text**, nested to any depth. -/
inductive WellFormed : Phrase → List Char → List Char → Prop where
  | wordNull (rest : List Char) : WellFormed .value ('n' :: 'u' :: 'l' :: 'l' :: rest) rest
  | wordTrue (rest : List Char) : WellFormed .value ('t' :: 'r' :: 'u' :: 'e' :: rest) rest
  | wordFalse (rest : List Char) :
      WellFormed .value ('f' :: 'a' :: 'l' :: 's' :: 'e' :: rest) rest
  | text {cs rest : List Char} (spelled : IsSpelled cs rest) : WellFormed .value ('"' :: cs) rest
  | number {t : NumberText} {ds : List Char} (number : Number t ds) (rest : List Char) :
      WellFormed .value (ds ++ rest) rest
  | emptyList {cs rest : List Char} (ends : Gap cs (']' :: rest)) :
      WellFormed .value ('[' :: cs) rest
  | list {cs rest : List Char} (items : WellFormed .items cs rest) :
      WellFormed .value ('[' :: cs) rest
  | emptyObject {cs rest : List Char} (ends : Gap cs ('}' :: rest)) :
      WellFormed .value ('{' :: cs) rest
  | object {cs rest : List Char} (members : WellFormed .members cs rest) :
      WellFormed .value ('{' :: cs) rest
  | lastItem {cs a b rest : List Char} (gap : Gap cs a) (value : WellFormed .value a b)
      (ends : Gap b (']' :: rest)) : WellFormed .items cs rest
  | item {cs a b c rest : List Char} (gap : Gap cs a) (value : WellFormed .value a b)
      (comma : Gap b (',' :: c)) (more : WellFormed .items c rest) : WellFormed .items cs rest
  | lastMember {cs a b rest : List Char} (label : IsLabel cs a) (value : WellFormed .value a b)
      (ends : Gap b ('}' :: rest)) : WellFormed .members cs rest
  | member {cs a b c rest : List Char} (label : IsLabel cs a) (value : WellFormed .value a b)
      (comma : Gap b (',' :: c)) (more : WellFormed .members c rest) :
      WellFormed .members cs rest

/-! ### Lists of strings -/

/-- The strings of a list, from the first one up to the closing bracket. -/
inductive TextItems : List String → List Char → List Char → Prop where
  | last {s cs a b rest : List Char} (gap : Gap cs ('"' :: a)) (text : Spelled s a b)
      (ends : Gap b (']' :: rest)) : TextItems [String.ofList s] cs rest
  | more {ss : List String} {s cs a b c rest : List Char} (gap : Gap cs ('"' :: a))
      (text : Spelled s a b) (comma : Gap b (',' :: c)) (more : TextItems ss c rest) :
      TextItems (String.ofList s :: ss) cs rest

/-- **A list of strings.** -/
inductive TextList : List String → List Char → List Char → Prop where
  | empty {cs rest : List Char} (ends : Gap cs (']' :: rest)) : TextList [] ('[' :: cs) rest
  | items {ss : List String} {cs rest : List Char} (items : TextItems ss cs rest) :
      TextList ss ('[' :: cs) rest

/-! ### Objects -/

/-- **A value that can stand in the field of a record.** -/
inductive Holds : Value → List Char → List Char → Prop where
  | wordNull (rest : List Char) : Holds .null ('n' :: 'u' :: 'l' :: 'l' :: rest) rest
  | wordTrue (rest : List Char) : Holds (.bool true) ('t' :: 'r' :: 'u' :: 'e' :: rest) rest
  | wordFalse (rest : List Char) :
      Holds (.bool false) ('f' :: 'a' :: 'l' :: 's' :: 'e' :: rest) rest
  | int (n : Int) (rest : List Char) : Holds (.int n) (Numeral.writeChars n ++ rest) rest
  | text {s cs rest : List Char} (spelled : Spelled s cs rest) :
      Holds (.text (String.ofList s)) ('"' :: cs) rest
  | texts {ss : List String} {cs rest : List Char} (list : TextList ss cs rest) :
      Holds (.list (ss.map .text)) cs rest

/-- The name of a member and the colon behind it, up to its value, and the characters of the
name. -/
inductive Label : List Char → List Char → List Char → Prop where
  | name {n cs a b c value : List Char} (gap : Gap cs ('"' :: a)) (name : Spelled n a b)
      (colon : Gap b (':' :: c)) (gap' : Gap c value) : Label n cs value

/-- A member of an object, and what it says about the given names: the value of one of them, or
nothing if it has another name. -/
inductive Member (names : List String) : Entries → List Char → List Char → Prop where
  | known {v : Value} {n cs value rest : List Char} (label : Label n cs value)
      (isKnown : String.ofList n ∈ names) (value : Holds v value rest) :
      Member names [(String.ofList n, v)] cs rest
  | unknown {n cs value rest : List Char} (label : Label n cs value)
      (isUnknown : String.ofList n ∉ names) (value : WellFormed .value value rest) :
      Member names [] cs rest

/-- The members of an object, from the first one up to the closing bracket. -/
inductive Members (names : List String) : Entries → List Char → List Char → Prop where
  | last {es : Entries} {cs a rest : List Char} (member : Member names es cs a)
      (ends : Gap a ('}' :: rest)) : Members names es cs rest
  | more {es others : Entries} {cs a b rest : List Char} (member : Member names es cs a)
      (comma : Gap a (',' :: b)) (more : Members names others b rest) :
      Members names (es ++ others) cs rest

/-- **An object, and the members among its own that have one of the given names**, in their
order. -/
inductive Object (names : List String) : Entries → List Char → List Char → Prop where
  | empty {cs rest : List Char} (ends : Gap cs ('}' :: rest)) : Object names [] ('{' :: cs) rest
  | members {es : Entries} {cs rest : List Char} (members : Members names es cs rest) :
      Object names es ('{' :: cs) rest

/-! ### What denotes something is well-formed -/

theorem Spelled.isSpelled {s cs rest : List Char} (spelled : Spelled s cs rest) :
    IsSpelled cs rest := by
  induction spelled with
  | close rest => exact .close rest
  | plain quote slash printable _ ih => exact .plain quote slash printable ih
  | short letter _ ih => exact .short letter ih
  | code code _ ih => exact .code code ih
  | pair first second _ _ ih => exact .code first (.code second ih)

theorem Label.isLabel {n cs value : List Char} (label : Label n cs value) : IsLabel cs value := by
  obtain ⟨gap, name, colon, gap'⟩ := label
  exact .name gap name.isSpelled colon gap'

theorem TextItems.wellFormed {ss : List String} {cs rest : List Char}
    (items : TextItems ss cs rest) : WellFormed .items cs rest := by
  induction items with
  | last gap text ends => exact .lastItem gap (.text text.isSpelled) ends
  | more gap text comma _ ih => exact .item gap (.text text.isSpelled) comma ih

theorem TextList.wellFormed {ss : List String} {cs rest : List Char} (list : TextList ss cs rest) :
    WellFormed .value cs rest := by
  cases list with
  | empty ends => exact .emptyList ends
  | items items => exact .list items.wellFormed

end FeatureLock.Json
