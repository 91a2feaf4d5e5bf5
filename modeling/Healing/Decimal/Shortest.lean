/-
  The shortest decimal text of a floating-point number.

  A number is written with the fewest digits that read back as the same number, and among those
  with the digits nearest to it.

  1. **Interval** - a decimal reads back as `x` when it lies between the midpoints to the neighbours
     of `x`, the midpoints themselves counting for an even mantissa (`readsBack`).
  2. **Search** - `shortest` tries the grids of 1, 2, … 17 digits and takes the first with a point
     in the interval.
  3. **Layout** - `FloatFormat` says from which exponents on a text is positional.
-/
import Healing.Decimal.Binary64

namespace Healing

namespace Binary64

/-! ## Interval -/

/-- Whether `num / den` rounds to the positive number `x`: it lies between the midpoints to the
    neighbours of `x`.  Below a power of two the lower neighbour is at half the distance. -/
def readsBack (x : Binary64) (num den : Nat) : Bool :=
  -- everything in units of a quarter of the last bit of `x`
  let (n, d) := scaleRatio num den (x.exponent - 2)
  let centre := 4 * x.mantissa
  let below := if x.mantissa = 4_503_599_627_370_496 ∧ x.exponent > -1074 then 1 else 2
  let low := (centre - below) * d
  let high := (centre + 2) * d
  if x.mantissa % 2 = 0 then low ≤ n && n ≤ high else low < n && n < high

/-! ## Search -/

/-- `digits · 10 ^ exponent` as a quotient of natural numbers. -/
def decimalRatio (digits : Nat) (exponent : Int) : Nat × Nat :=
  if exponent ≥ 0 then (digits * Nat.pow 10 exponent.toNat, 1)
  else (digits, Nat.pow 10 (-exponent).toNat)

/-- The point of the grid `10 ^ exponent` that reads back as `x` and is nearest to it. -/
def gridPoint? (x : Binary64) (exponent : Int) : Option Nat :=
  let (a, b) := x.ratio
  let (n, d) := if exponent ≥ 0 then (a, b * Nat.pow 10 exponent.toNat)
    else (a * Nat.pow 10 (-exponent).toNat, b)
  let low := n / d
  let near := roundHalfEven n d
  let far := if near = low then low + 1 else low
  let fits := fun k => k > 0 && x.readsBack (decimalRatio k exponent).1 (decimalRatio k exponent).2
  if fits near then some near else if fits far then some far else none

/-- The power of ten of the first digit of a positive number. -/
def leadingExponent (x : Binary64) : Int :=
  let (a, b) := x.ratio
  let guess : Int := ((Nat.log2 a : Int) - (Nat.log2 b : Int)) * 301 / 1000 - 1
  let atLeast := fun (e : Int) =>
    if e ≥ 0 then b * Nat.pow 10 e.toNat ≤ a else b ≤ a * Nat.pow 10 (-e).toNat
  if atLeast (guess + 3) then guess + 3
  else if atLeast (guess + 2) then guess + 2
  else if atLeast (guess + 1) then guess + 1
  else guess

/-- Divide out the factors of ten, at most `fuel` of them. -/
def stripZeros : Nat → Nat → Int → Nat × Int
  | 0, digits, e => (digits, e)
  | fuel + 1, digits, e =>
    if digits % 10 = 0 ∧ digits ≠ 0 then stripZeros fuel (digits / 10) (e + 1) else (digits, e)

/-- The digits and the power of ten of the last digit of the shortest decimal that reads back as
    the positive number `x`. -/
def shortest (x : Binary64) : Nat × Int :=
  let top := x.leadingExponent
  let found := (List.range 18).findSome? fun (n : Nat) =>
    (x.gridPoint? (top - n)).map fun k => (k, top - n)
  match found with
  | some (k, e) => stripZeros 20 k e
  | none => (x.mantissa, x.exponent)

end Binary64

/-! ## Layout -/

/-- How the digits of a number are laid out. -/
structure FloatFormat where
  /-- The least power of ten of a first digit that is written positionally. -/
  positionalFrom : Int
  /-- The first power of ten that is written with an exponent again. -/
  positionalBelow : Int
  /-- What precedes a positive exponent. -/
  plusSign : String

/-- Write a number in the given layout; a positional whole number ends in `.0`. -/
def FloatFormat.write (f : FloatFormat) (x : Binary64) : String :=
  let sign := if x.negative then "-" else ""
  if x.isZero then sign ++ "0.0"
  else
    let (k, e) := x.shortest
    let digits := (toString k).toList
    let count := digits.length
    let lead : Int := e + count - 1
    let body :=
      if f.positionalFrom ≤ lead ∧ lead < f.positionalBelow then
        if e ≥ 0 then digits ++ List.replicate e.toNat '0' ++ ['.', '0']
        else if lead ≥ 0 then
          digits.take (lead.toNat + 1) ++ ['.'] ++ digits.drop (lead.toNat + 1)
        else ['0', '.'] ++ List.replicate ((-lead).toNat - 1) '0' ++ digits
      else
        let fraction := if count = 1 then [] else '.' :: digits.drop 1
        let mark := if lead ≥ 0 then 'e' :: f.plusSign.toList else ['e', '-']
        digits.take 1 ++ fraction ++ mark ++ (toString lead.natAbs).toList
    sign ++ String.ofList body

end Healing
