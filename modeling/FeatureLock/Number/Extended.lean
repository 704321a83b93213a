import FeatureLock.Number.Binary64

/-!
# Decimals in steps of an extended format

A database that reads a decimal keeps the digits that fit into 64 bits, multiplies
them by powers of ten in a format with 64 significant binary digits, rounding each
time, and rounds to the 64-bit format at the end.  The result is not always the
number nearest to the decimal.

## Main Definitions

- `Extended`: a number with 64 significant binary digits
- `Extended.nearest`, `Extended.mul`: the number nearest to a fraction, and a product
- `Significand.keep`: the digits that fit
- `Binary64.ofDigits`: the number that the digits and the exponent of a decimal give

## Design Notes

Exponents have no bounds here: numbers beyond those of the format end up as infinite
or zero either way.
-/

namespace FeatureLock

/-- A number with 64 significant binary digits: `mantissa * 2 ^ exponent`. -/
structure Extended where
  mantissa : Nat
  exponent : Int
  deriving DecidableEq

namespace Extended

/-- The bound of mantissas. -/
def mantissaBound : Nat := 18446744073709551616

/-- **The number nearest to `num / den`**, of two equally near ones the one with the even
mantissa. -/
def nearest (num den : Nat) : Extended :=
  if num = 0 then ⟨0, 0⟩ else
  let low : Int := (Nat.log2 num : Int) - Nat.log2 den - 64
  let (ln, ld) := Binary64.fraction num 2 (-low)
  let e := if ln / (ld * den) < mantissaBound then low else low + 1
  let (n, d) := Binary64.fraction num 2 (-e)
  let m := Binary64.roundEven n (d * den)
  if m = mantissaBound then ⟨mantissaBound / 2, e + 1⟩ else ⟨m, e⟩

/-- The product of two numbers, rounded. -/
def mul (x y : Extended) : Extended :=
  let z := nearest (x.mantissa * y.mantissa) 1
  { z with exponent := z.exponent + x.exponent + y.exponent }

/-- The number nearest to a power of ten. -/
def powerOfTen (e : Int) : Extended :=
  let (num, den) := Binary64.fraction 1 10 e
  nearest num den

/-- **A number times a power of ten**, by hundreds, tens and ones of the exponent. -/
def scaleTen (x : Extended) (e : Int) : Extended :=
  let sign : Int := if e < 0 then -1 else 1
  let n := e.natAbs
  let steps := List.replicate (n / 100) (powerOfTen (sign * 100)) ++
    List.replicate (n / 10 % 10) (powerOfTen (sign * 10)) ++
    List.replicate (n % 10) (powerOfTen sign)
  steps.foldl mul x

/-- The number of the 64-bit format nearest to a number. -/
def toBinary64 (negative : Bool) (x : Extended) : Binary64 :=
  let (num, den) := Binary64.fraction x.mantissa 2 x.exponent
  Binary64.ofRatio negative num den

end Extended

/-- The digits of a decimal that are kept, and the power of ten that they are to be multiplied
by. -/
structure Significand where
  digits : Nat
  exponent : Int
  deriving DecidableEq

namespace Significand

/-- One more digit is kept below this number. -/
def keepBound : Nat := 1844674407370955160

/-- **Keep a digit if it fits**; `after` says whether it stands behind the point. -/
def keep (after : Bool) (s : Significand) (c : Char) : Significand :=
  if s.digits < keepBound then
    ⟨s.digits * 10 + Numeral.digitValue c, if after then s.exponent - 1 else s.exponent⟩
  else if after then s
  else { s with exponent := s.exponent + 1 }

/-- The digits that are kept of those before and behind the point. -/
def ofDigits (whole part : List Char) : Significand :=
  part.foldl (keep true) (whole.foldl (keep false) ⟨0, 0⟩)

/-- Move zeros from the exponent to the digits, as long as they fit. -/
def raise : Nat → Significand → Significand
  | 0, s => s
  | n + 1, s =>
    if 0 < s.exponent ∧ s.digits ≤ keepBound then raise n ⟨s.digits * 10, s.exponent - 1⟩ else s

/-- Move zeros from the end of the digits to the exponent. -/
def lower : Nat → Significand → Significand
  | 0, s => s
  | n + 1, s =>
    if s.exponent < 0 ∧ s.digits % 10 = 0 then lower n ⟨s.digits / 10, s.exponent + 1⟩ else s

/-- The exponent as near to zero as the digits allow; no more than twenty of them fit. -/
def normalize (s : Significand) : Significand :=
  lower 20 (raise 20 s)

end Significand

/-- **The number that a decimal gives**, by its digits before and behind the point and its
exponent. -/
def Binary64.ofDigits (negative : Bool) (whole part : List Char) (e : Int) : Binary64 :=
  let s := Significand.ofDigits whole part
  if s.digits = 0 then .zero negative
  else
    let s := Significand.normalize { s with exponent := s.exponent + e }
    ((Extended.mk s.digits 0).scaleTen s.exponent).toBinary64 negative

end FeatureLock
