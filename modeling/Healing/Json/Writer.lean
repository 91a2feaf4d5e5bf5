/-
  The compact text of a JSON value.

  1. **Strings** - a quote, a backslash and the control characters are escaped, all else stands as
     it is.
  2. **Numbers** - a whole number as its digits, a floating-point number in its shortest form,
     positional for first digits from 10^-5 up to 10^15.
  3. **Values** - fields and items without blanks, in order.
-/
import Healing.Json.Basic
import Healing.Decimal.Shortest

namespace Healing.Json

/-! ## Strings -/

/-- The digit of a number below sixteen. -/
def hexDigit (n : Nat) : Char := if n < 10 then Char.ofNat (48 + n) else Char.ofNat (87 + n)

/-- How a character stands in a string. -/
def escapeChar (c : Char) : List Char :=
  if c = '"' then ['\\', '"']
  else if c = '\\' then ['\\', '\\']
  else if c = '\n' then ['\\', 'n']
  else if c = '\r' then ['\\', 'r']
  else if c = '\t' then ['\\', 't']
  else if c.toNat = 8 then ['\\', 'b']
  else if c.toNat = 12 then ['\\', 'f']
  else if c.toNat < 32 then
    ['\\', 'u', '0', '0', hexDigit (c.toNat / 16), hexDigit (c.toNat % 16)]
  else [c]

/-- A text between quotes. -/
def quote (s : String) : List Char := '"' :: (s.toList.flatMap escapeChar ++ ['"'])

/-! ## Numbers -/

/-- Numbers are positional from `0.00001` to `9999999999999999.0`, and a positive exponent has a
    sign. -/
def floatFormat : FloatFormat := ⟨-5, 16, "+"⟩

/-! ## Values -/

mutual

/-- The characters of the compact text. -/
def chars : Json → List Char
  | .null => ['n', 'u', 'l', 'l']
  | .bool true => ['t', 'r', 'u', 'e']
  | .bool false => ['f', 'a', 'l', 's', 'e']
  | .int n => (toString n).toList
  | .float x => (floatFormat.write x).toList
  | .str s => quote s
  | .arr items => '[' :: (itemChars items ++ [']'])
  | .obj fields => '{' :: (fieldChars fields ++ ['}'])

/-- The items of an array, with commas between them. -/
def itemChars : List Json → List Char
  | [] => []
  | [j] => chars j
  | j :: r => chars j ++ ',' :: itemChars r

/-- The fields of an object, with commas between them. -/
def fieldChars : List (String × Json) → List Char
  | [] => []
  | [(k, j)] => quote k ++ ':' :: chars j
  | (k, j) :: r => quote k ++ ':' :: (chars j ++ ',' :: fieldChars r)

end

/-- The compact text of a value. -/
def compress (j : Json) : String := String.ofList j.chars

end Healing.Json
