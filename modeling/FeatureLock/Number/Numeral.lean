/-!
# Decimal numerals

Reading and writing integers in base ten, as settings, JSON texts and level
names hold them.

## Main Definitions

- `digits`: the ASCII digits of a natural number, without leading zeros
- `value`: the number that a list of digits denotes
- `write`: an integer with its sign
- `read?`, `readUnsigned?`: the integer that a whole text denotes, if any

Main statement: `value_digits`, reading back the digits of a number gives it.
-/

namespace FeatureLock.Numeral

/-- The character of a digit below ten. -/
def digitChar (d : Nat) : Char :=
  Char.ofNat (48 + d)

/-- The ASCII digits; digits of other scripts are no numerals here. -/
def isDigit (c : Char) : Bool :=
  '0' ≤ c && c ≤ '9'

/-- The number that an ASCII digit stands for. -/
def digitValue (c : Char) : Nat :=
  c.toNat - 48

/-- The digits of a natural number, most significant first and without leading zeros. -/
def digits (n : Nat) : List Char :=
  if n < 10 then [digitChar n] else digits (n / 10) ++ [digitChar (n % 10)]
termination_by n

/-- Continue a number by further digits. -/
def extend (n : Nat) (cs : List Char) : Nat :=
  cs.foldl (fun a c => a * 10 + digitValue c) n

/-- The number that a list of digits denotes; no digits denote zero. -/
def value (cs : List Char) : Nat :=
  extend 0 cs

/-- An integer in base ten, with a minus sign when negative. -/
def writeChars (n : Int) : List Char :=
  if n < 0 then '-' :: digits n.natAbs else digits n.natAbs

/-- An integer in base ten, with a minus sign when negative. -/
def write (n : Int) : String :=
  String.ofList (writeChars n)

/-- Split a list of characters after its leading digits. -/
def spanDigits (cs : List Char) : List Char × List Char :=
  (cs.takeWhile isDigit, cs.dropWhile isDigit)

/-- One or more digits and nothing else. -/
def readDigits? (cs : List Char) : Option Nat :=
  if cs = [] then none else if cs.all isDigit then some (value cs) else none

/-- An integer: an optional sign and one or more digits, nothing around them. -/
def read? (s : String) : Option Int :=
  match s.toList with
  | '-' :: cs => (readDigits? cs).map fun n => -(n : Int)
  | '+' :: cs => (readDigits? cs).map fun n => (n : Int)
  | cs => (readDigits? cs).map fun n => (n : Int)

/-- A natural number: an optional plus sign and one or more digits. -/
def readUnsigned? (s : String) : Option Nat :=
  match s.toList with
  | '+' :: cs => readDigits? cs
  | cs => readDigits? cs

/-! ### Writing and reading back -/

theorem toNat_digitChar {d : Nat} (h : d < 10) : (digitChar d).toNat = 48 + d := by
  have all : ∀ e ∈ List.range 10, (digitChar e).toNat = 48 + e := by decide
  exact all d (List.mem_range.mpr h)

theorem digitValue_digitChar {d : Nat} (h : d < 10) : digitValue (digitChar d) = d := by
  rw [digitValue, toNat_digitChar h]
  omega

theorem isDigit_digitChar {d : Nat} (h : d < 10) : isDigit (digitChar d) = true := by
  have all : ∀ e ∈ List.range 10, isDigit (digitChar e) = true := by decide
  exact all d (List.mem_range.mpr h)

theorem extend_append (n : Nat) (cs ds : List Char) :
    extend n (cs ++ ds) = extend (extend n cs) ds := by
  simp [extend]

/-- **Reading back the digits of a number gives it.** -/
theorem value_digits (n : Nat) : value (digits n) = n := by
  fun_induction digits n with
  | case1 n h => simp [value, extend, digitValue_digitChar h]
  | case2 n h ih =>
    have hm : n % 10 < 10 := Nat.mod_lt n (by decide)
    rw [value, extend_append]
    simp only [value] at ih
    rw [ih]
    simp only [extend, List.foldl_cons, List.foldl_nil, digitValue_digitChar hm]
    omega

theorem all_isDigit_digits (n : Nat) : ∀ c ∈ digits n, isDigit c = true := by
  fun_induction digits n with
  | case1 n h => simp [isDigit_digitChar h]
  | case2 n h ih =>
    intro c hc
    rcases List.mem_append.1 hc with hc | hc
    · exact ih c hc
    · rw [List.mem_singleton.1 hc]
      exact isDigit_digitChar (Nat.mod_lt n (by decide))

theorem digits_ne_nil (n : Nat) : digits n ≠ [] := by
  unfold digits
  split <;> simp

end FeatureLock.Numeral
