/-
  Numerals: the digits of a number in a given base, and decimal texts of floating-point numbers.

  1. **Digits** - `digit?` gives the value of a digit, `ofDigits?` the value of a text of digits.
  2. **Whole numbers** - `signed?` and `unsigned?` read a whole number within bounds.
  3. **Decimals** - `float?` reads a decimal number with an optional fraction and exponent.
-/
import Healing.Decimal.Binary64

namespace Healing.Numeral

/-! ## Digits -/

/-- The value of a digit or letter, as a digit of a base up to 36. -/
def digit? (base : Nat) (c : Char) : Option Nat :=
  let value :=
    if '0' ≤ c ∧ c ≤ '9' then some (c.toNat - 48)
    else if 'a' ≤ c ∧ c ≤ 'z' then some (c.toNat - 87)
    else if 'A' ≤ c ∧ c ≤ 'Z' then some (c.toNat - 55)
    else none
  value.bind fun v => if v < base then some v else none

/-- The value of a text that has digits only, and at least one. -/
def ofDigits? (base : Nat) (cs : List Char) : Option Nat :=
  if cs.isEmpty then none
  else cs.foldlM (fun n c => (digit? base c).map fun d => n * base + d) 0

/-- The value of the decimal digits in a text. -/
def ofDecimal (cs : List Char) : Nat := cs.foldl (fun n c => n * 10 + (c.toNat - 48)) 0

/-! ## Whole numbers -/

/-- A text of digits with an optional sign, as a whole number between the bounds. -/
def signed? (base : Nat) (low high : Int) (cs : List Char) : Option Int :=
  let value :=
    match cs with
    | '-' :: r => (ofDigits? base r).map fun n => -(n : Int)
    | '+' :: r => (ofDigits? base r).map fun n => (n : Int)
    | r => (ofDigits? base r).map fun n => (n : Int)
  value.bind fun i => if low ≤ i ∧ i ≤ high then some i else none

/-- A text of digits with an optional plus sign, as a whole number up to a bound. -/
def unsigned? (base : Nat) (high : Nat) (cs : List Char) : Option Nat :=
  let value :=
    match cs with
    | '+' :: r => ofDigits? base r
    | r => ofDigits? base r
  value.bind fun n => if n ≤ high then some n else none

/-! ## Decimals -/

/-- A floating-point number, or one of the values that no decimal text spells out. -/
inductive Reading where
  | finite (value : Binary64)
  | infinite (negative : Bool)
  | notANumber
deriving DecidableEq, Repr

/-- Digits, an optional fraction and an optional exponent, without a sign; digits may be missing on
    one side of the point. -/
def magnitude? (negative : Bool) (cs : List Char) : Option Reading :=
  let whole := cs.takeWhile Char.isDigit
  let r := cs.dropWhile Char.isDigit
  let (fraction, r) :=
    match r with
    | '.' :: r => (r.takeWhile Char.isDigit, r.dropWhile Char.isDigit)
    | r => ([], r)
  if whole.isEmpty && fraction.isEmpty then none
  else
    let exponent : Option Int :=
      match r with
      | [] => some 0
      | e :: r =>
        if e = 'e' ∨ e = 'E' then
          match r with
          | '-' :: d => (ofDigits? 10 d).map fun n => -(n : Int)
          | '+' :: d => (ofDigits? 10 d).map fun n => (n : Int)
          | d => (ofDigits? 10 d).map fun n => (n : Int)
        else none
    exponent.map fun e =>
      match Binary64.ofDecimal negative (ofDecimal (whole ++ fraction)) (e - fraction.length) with
      | some x => .finite x
      | none => .infinite negative

/-- A decimal number in the usual notation, a word for infinity, or `nan`; with an optional sign. -/
def float? (cs : List Char) : Option Reading :=
  let (negative, r) :=
    match cs with
    | '-' :: r => (true, r)
    | '+' :: r => (false, r)
    | r => (false, r)
  let word := r.map Char.toLower
  if word = "inf".toList ∨ word = "infinity".toList then some (.infinite negative)
  else if word = "nan".toList then some .notANumber
  else magnitude? negative r

end Healing.Numeral
