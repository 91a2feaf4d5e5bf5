/-
  Finite floating-point numbers of 64 bits, in exact arithmetic.

  A number is `mantissa · 2 ^ exponent` with a sign, where the mantissa has at most 53 bits and the
  exponent is at least -1074.  Everything is computed on natural numbers, so that texts of numbers
  are read and written without a machine float.

  1. **Rounding** - `roundRatio` takes a quotient to the nearest such number, a tie to the even one.
  2. **Arithmetic** - `mul` and `div` round the exact result once.
  3. **Order** - `compareInt` and `compare` compare the exact values.
-/

namespace Healing

/-- A finite binary floating-point number: `mantissa · 2 ^ exponent`, below zero if `negative`. -/
structure Binary64 where
  /-- The sign, which zero has too. -/
  negative : Bool
  /-- The significant bits, at most 53 of them. -/
  mantissa : Nat
  /-- The power of two of the last bit, at least -1074. -/
  exponent : Int
deriving DecidableEq, Repr, Inhabited

namespace Binary64

/-! ## Rounding -/

/-- `num / den` with the power `2 ^ e` taken out, again as a quotient of natural numbers. -/
def scaleRatio (num den : Nat) (e : Int) : Nat × Nat :=
  if e ≥ 0 then (num, den * Nat.pow 2 e.toNat)
  else (num * Nat.pow 2 (-e).toNat, den)

/-- The natural number nearest to `num / den`; a tie goes to the even one. -/
def roundHalfEven (num den : Nat) : Nat :=
  let q := num / den
  let r := num % den
  if 2 * r > den ∨ (2 * r = den ∧ q % 2 = 1) then q + 1 else q

/-- The natural number nearest to `num / den`; a tie goes up. -/
def roundHalfUp (num den : Nat) : Nat := (2 * num + den) / (2 * den)

/-- The mantissa and exponent nearest to `num / den`; `none` beyond the largest finite number. -/
def roundRatio (num den : Nat) : Option (Nat × Int) :=
  if num = 0 then some (0, -1074)
  else
    let guess : Int := (Nat.log2 num : Int) - (Nat.log2 den : Int) - 53
    let first := scaleRatio num den guess
    let fitted := if first.1 / first.2 ≥ 9_007_199_254_740_992 then guess + 1 else guess
    let e := max fitted (-1074)
    let scaled := scaleRatio num den e
    let m := roundHalfEven scaled.1 scaled.2
    let (m, e) := if m = 9_007_199_254_740_992 then (4_503_599_627_370_496, e + 1) else (m, e)
    if e > 971 then none else some (m, e)

/-- The number nearest to `num / den`, with the given sign. -/
def ofRatio (negative : Bool) (num den : Nat) : Option Binary64 :=
  (roundRatio num den).map fun p => ⟨negative, p.1, p.2⟩

/-- Zero, with a sign. -/
def zero (negative : Bool) : Binary64 := ⟨negative, 0, -1074⟩

/-- The number nearest to a natural number below 2 ^ 1023. -/
def ofNat (n : Nat) : Binary64 := (ofRatio false n 1).getD (zero false)

/-- The number nearest to an integer between -2 ^ 1023 and 2 ^ 1023. -/
def ofInt (i : Int) : Binary64 := { ofNat i.natAbs with negative := i < 0 }

/-- The number nearest to `digits · 10 ^ exponent`; `none` beyond the largest finite number. -/
def ofDecimal (negative : Bool) (digits : Nat) (exponent : Int) : Option Binary64 :=
  if digits = 0 then some (zero negative)
  else
    let magnitude : Int := (Nat.log2 digits : Int) * 301 / 1000 + exponent
    if magnitude > 320 then none
    else if magnitude < -340 then some (zero negative)
    else if exponent ≥ 0 then ofRatio negative (digits * Nat.pow 10 exponent.toNat) 1
    else ofRatio negative digits (Nat.pow 10 (-exponent).toNat)

/-! ## Arithmetic -/

/-- Whether the number is zero, of either sign. -/
def isZero (x : Binary64) : Bool := x.mantissa == 0

/-- The size of the number as a quotient of natural numbers. -/
def ratio (x : Binary64) : Nat × Nat :=
  if x.exponent ≥ 0 then (x.mantissa * Nat.pow 2 x.exponent.toNat, 1)
  else (x.mantissa, Nat.pow 2 (-x.exponent).toNat)

/-- The number nearest to the product. -/
def mul (x y : Binary64) : Option Binary64 :=
  let (a, b) := x.ratio
  let (c, d) := y.ratio
  ofRatio (x.negative != y.negative) (a * c) (b * d)

/-- The number nearest to the quotient; `none` for a zero divisor. -/
def div (x y : Binary64) : Option Binary64 :=
  let (a, b) := x.ratio
  let (c, d) := y.ratio
  if c = 0 then none else ofRatio (x.negative != y.negative) (a * d) (b * c)

/-- Whether the number has all 53 bits, so is neither zero nor close to it. -/
def isNormal (x : Binary64) : Bool := x.mantissa ≥ 4_503_599_627_370_496

/-! ## Order -/

/-- The exact value as a quotient of an integer and a natural number. -/
def signedRatio (x : Binary64) : Int × Nat :=
  let (a, b) := x.ratio
  (if x.negative then -(a : Int) else a, b)

/-- Compare the exact values; the two zeros are equal. -/
protected def compare (x y : Binary64) : Ordering :=
  let (a, b) := x.signedRatio
  let (c, d) := y.signedRatio
  Ord.compare (a * d) (c * b)

/-- Compare an integer with a floating-point number, exactly. -/
def compareInt (i : Int) (y : Binary64) : Ordering :=
  let (c, d) := y.signedRatio
  Ord.compare (i * d) c

/-- Whether the two numbers have the same value; the two zeros do. -/
def sameValue (x y : Binary64) : Bool := x == y || (x.isZero && y.isZero)

end Binary64

end Healing
