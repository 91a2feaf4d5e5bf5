/-
  Forms: names and values as text.

  1. **Bytes** - `escapeByte`; letters, digits and a few marks stand for themselves.
  2. **Texts** - `escape`, by the bytes of the text.
  3. **Forms** - `encodeForm`.
-/
namespace Healing.Web

/-! ## Bytes -/

/-- The hexadecimal digit of a number below 16. -/
def hexDigit (n : Nat) : Char := "0123456789ABCDEF".toList.getD n '0'

/-- Whether a byte stands for itself in a form. -/
def isPlainByte (b : UInt8) : Bool :=
  let c := Char.ofNat b.toNat
  c.isAlphanum || c = '*' || c = '-' || c = '.' || c = '_'

/-- How a byte stands in a form. -/
def escapeByte (b : UInt8) : List Char :=
  if isPlainByte b then [Char.ofNat b.toNat]
  else if b = 0x20 then ['+']
  else ['%', hexDigit (b.toNat / 16), hexDigit (b.toNat % 16)]

/-! ## Texts -/

/-- How a text stands in a form. -/
def escape (s : String) : String := String.ofList (s.toUTF8.toList.flatMap escapeByte)

/-! ## Forms -/

/-- Names with their values, as one text. -/
def encodeForm (fields : List (String × String)) : String :=
  String.intercalate "&" (fields.map fun f => escape f.1 ++ "=" ++ escape f.2)

end Healing.Web
