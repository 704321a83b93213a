import FeatureLock.Number.Numeral

/-!
# Binary floating-point numbers of 64 bits

Settings may hold numbers that are no integers.  They are read from decimal
text, scaled by powers of ten, rounded to integers and written back in decimal.

## Main Definitions

- `Binary64`: a number of the format, as its sign, mantissa and exponent
- `ofRatio`: the number of the format nearest to a fraction
- `ofDecimal`, `read?`: the number nearest to a decimal, and to a decimal text
- `scaleTen`: multiplication and division by a rounded power of ten
- `integer?`, `isAbove`, `isBelow`: the integer that a number is, and how it compares
  with integers
- `roundAway`: the nearest integer, halves away from zero
- `shortest`, `write`: the fewest decimal digits that read back as the number

## Design Notes

All arithmetic is exact on natural numbers, with one rounding at the end
(`ofRatio`), so the definitions compute the same way in a proof as when they
run, and nothing rests on an opaque machine type.
-/

namespace FeatureLock

/-- A number of the 64-bit format.  A finite one is `± mantissa * 2 ^ exponent`, with a mantissa
below `2 ^ 53` and an exponent of at least `-1074`; zero keeps its sign. -/
inductive Binary64 where
  | nan
  | infinite (negative : Bool)
  | finite (negative : Bool) (mantissa : Nat) (exponent : Int)
  deriving DecidableEq

namespace Binary64

/-! ### Rounding -/

/-- The least exponent of the format. -/
def minExponent : Int := -1074

/-- The greatest exponent of the format. -/
def maxExponent : Int := 971

/-- The bound of mantissas: 53 binary digits. -/
def mantissaBound : Nat := 9007199254740992

/-- Zero with a sign. -/
def zero (negative : Bool) : Binary64 :=
  finite negative 0 minExponent

/-- The number with the opposite sign. -/
def negate : Binary64 → Binary64
  | nan => nan
  | infinite s => infinite !s
  | finite s m e => finite (!s) m e

/-- The fraction `n * base ^ e`, as numerator and denominator. -/
def fraction (n base : Nat) (e : Int) : Nat × Nat :=
  if 0 ≤ e then (n * Nat.pow base e.toNat, 1) else (n, Nat.pow base (-e).toNat)

/-- A quotient rounded to the nearest integer, a half to the even neighbour. -/
def roundEven (num den : Nat) : Nat :=
  let q := num / den
  let r := num % den
  if den < 2 * r ∨ (den = 2 * r ∧ q % 2 = 1) then q + 1 else q

/-- The number of the format nearest to `num / den`, of two equally near ones the one with the
even mantissa; a fraction beyond the greatest number is infinite. -/
def ofRatio (negative : Bool) (num den : Nat) : Binary64 :=
  if num = 0 then zero negative else
  let scale : Int := Nat.log2 num - Nat.log2 den
  let low := max (scale - 53) minExponent
  let (ln, ld) := fraction num 2 (-low)
  let e := if ln / (ld * den) < mantissaBound then low else low + 1
  let (n, d) := fraction num 2 (-e)
  let m := roundEven n (d * den)
  let (m, e) := if m = mantissaBound then (mantissaBound / 2, e + 1) else (m, e)
  if maxExponent < e then infinite negative else finite negative m e

/-- The number nearest to a natural number. -/
def ofNat (n : Nat) : Binary64 :=
  ofRatio false n 1

/-- The number nearest to the decimal `± d * 10 ^ e`.  Decimals far outside the format's range
are settled by their magnitude alone. -/
def ofDecimal (negative : Bool) (d : Nat) (e : Int) : Binary64 :=
  let magnitude : Int := (Numeral.digits d).length + e
  if d = 0 then zero negative
  else if 400 < magnitude then infinite negative
  else if magnitude < -400 then zero negative
  else
    let (num, den) := fraction d 10 e
    ofRatio negative num den

/-- A number times `10 ^ e`: multiplied by the number nearest to the power, or divided by the one
nearest to the inverse power, then rounded again. -/
def scaleTen (x : Binary64) (e : Int) : Binary64 :=
  match x, ofNat (Nat.pow 10 e.natAbs) with
  | finite s m q, finite _ m' q' =>
    if 0 ≤ e then
      let (num, den) := fraction (m * m') 2 (q + q')
      ofRatio s num den
    else
      let (num, den) := fraction m 2 (q - q')
      ofRatio s num (den * m')
  | x, _ => x

/-! ### Integers -/

/-- Whether a number is zero, of either sign. -/
def isZero : Binary64 → Bool
  | finite _ m _ => m == 0
  | _ => false

/-- The fraction that a finite number is, with the sign in the numerator. -/
def toFraction? : Binary64 → Option (Int × Nat)
  | finite s m e =>
    let (num, den) := fraction m 2 e
    some (if s then -(num : Int) else num, den)
  | _ => none

/-- The integer that a number is, if it is one. -/
def integer? (x : Binary64) : Option Int :=
  match x.toFraction? with
  | some (num, den) => if num % den = 0 then some (num / den) else none
  | none => none

/-- Whether a number is greater than an integer. -/
def isAbove (x : Binary64) (n : Int) : Bool :=
  match x.toFraction? with
  | some (num, den) => decide (n * den < num)
  | none => x = infinite false

/-- Whether a number is less than an integer. -/
def isBelow (x : Binary64) (n : Int) : Bool :=
  match x.toFraction? with
  | some (num, den) => decide (num < n * den)
  | none => x = infinite true

/-- The integer nearest to a number, halves away from zero, kept between `lo` and `hi`; a number
that is not a number counts as zero. -/
def roundAway (lo hi : Int) : Binary64 → Int
  | nan => 0
  | infinite true => lo
  | infinite false => hi
  | finite s m e =>
    let (num, den) := fraction m 2 e
    let n := (2 * num + den) / (2 * den)
    max lo (min hi (if s then -(n : Int) else n))

/-! ### Writing in decimal -/

/-- The exponent of the first decimal digit of `num / den`. -/
def leadingExponent (num den : Nat) : Int :=
  if den ≤ num then ((Numeral.digits (num / den)).length : Int) - 1
  else -((Numeral.digits ((den + num - 1) / num - 1)).length : Int)

/-- The fewest decimal digits `d` and their exponent `k` for which `d * 10 ^ k` reads back as
`m * 2 ^ e`; of equally few digits the nearest, of equally near ones the even. -/
def shortest (m : Nat) (e : Int) : Nat × Int :=
  let (un, ud) := fraction 1 2 (e - 2)
  let below := 4 * m - (if m = mantissaBound / 2 ∧ minExponent < e then 1 else 2)
  let above := 4 * m + 2
  let first := leadingExponent (4 * m * un) ud
  let grid (count : Nat) : Option (Nat × Int) :=
    let k := first - count
    let (gn, gd) := fraction 1 10 k
    let scaled := 4 * m * un * gd
    let step := ud * gn
    let inside (d : Nat) : Bool :=
      if m % 2 = 0 then below * un * gd ≤ d * step ∧ d * step ≤ above * un * gd
      else below * un * gd < d * step ∧ d * step < above * un * gd
    let d := scaled / step
    let nearest := roundEven scaled step
    if inside nearest then some (nearest, k)
    else if inside d then some (d, k)
    else if inside (d + 1) then some (d + 1, k)
    else none
  ((List.range 17).findSome? grid).getD (m, 0)

/-- The digits of the shortest decimal of `m * 2 ^ e`, the last of which is not zero, and the
exponent of the last. -/
def shortestDigits (m : Nat) (e : Int) : List Char × Int :=
  let (d, k) := shortest m e
  let all := Numeral.digits d
  let kept := (all.reverse.dropWhile (· == '0')).reverse
  (kept, k + ((all.length : Int) - kept.length))

/-- A decimal of the digits `ds` with the exponent `k` of their last one, in positional notation. -/
def positional (ds : List Char) (k : Int) : List Char :=
  let point : Int := ds.length + k
  if 0 ≤ k then ds ++ List.replicate k.toNat '0'
  else if 0 < point then ds.take point.toNat ++ '.' :: ds.drop point.toNat
  else '0' :: '.' :: List.replicate (-point).toNat '0' ++ ds

/-- A number in decimal: the fewest digits that read back, in positional notation however large
or small the number is. -/
def write : Binary64 → String
  | nan => "NaN"
  | infinite false => "inf"
  | infinite true => "-inf"
  | finite s m e =>
    let unsigned := if m = 0 then ['0'] else
      let (ds, k) := shortestDigits m e
      positional ds k
    String.ofList (if s then '-' :: unsigned else unsigned)

/-! ### Reading decimal text -/

/-- The exponent of a decimal text: nothing, or `e`, an optional sign and digits. -/
def readExponent? : List Char → Option Int
  | [] => some 0
  | c :: cs =>
    if c = 'e' ∨ c = 'E' then
      match cs with
      | '-' :: ds => (Numeral.readDigits? ds).map fun n => -(n : Int)
      | '+' :: ds => (Numeral.readDigits? ds).map fun n => (n : Int)
      | ds => (Numeral.readDigits? ds).map fun n => (n : Int)
    else none

/-- A decimal without its sign: digits with at most one point among them, and an exponent. -/
def readUnsigned? (negative : Bool) (cs : List Char) : Option Binary64 :=
  let (whole, rest) := Numeral.spanDigits cs
  let (part, rest) := match rest with
    | '.' :: ds => Numeral.spanDigits ds
    | _ => ([], rest)
  if whole = [] ∧ part = [] then none
  else (readExponent? rest).map fun e =>
    ofDecimal negative (Numeral.value (whole ++ part)) (e - part.length)

/-- The number that a text denotes: a decimal, or a word for infinity or for no number, each with
an optional sign and in any case. -/
def read? (s : String) : Option Binary64 :=
  let (negative, cs) := match s.toList with
    | '-' :: cs => (true, cs)
    | '+' :: cs => (false, cs)
    | cs => (false, cs)
  let word := String.ofList (cs.map Char.toLower)
  if word = "inf" ∨ word = "infinity" then some (infinite negative)
  else if word = "nan" then some nan
  else readUnsigned? negative cs

end Binary64

end FeatureLock
