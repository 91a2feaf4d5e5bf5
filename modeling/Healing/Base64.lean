/-
  Bytes as text, in base 64.

  Three bytes stand in four digits; what is missing in the last group is padded.

  1. **Digits** - `digit?` and `digit`.
  2. **Texts** - `decode?` and `encode`.
-/
namespace Healing.Base64

/-! ## Digits -/

/-- The digits. -/
def alphabet : List Char :=
  "ABCDEFGHIJKLMNOPQRSTUVWXYZabcdefghijklmnopqrstuvwxyz0123456789+/".toList

/-- The value of a digit. -/
def digit? (c : Char) : Option Nat := alphabet.findIdx? (· == c)

/-- The digit of a value below 64. -/
def digit (n : Nat) : Char := alphabet.getD n 'A'

/-! ## Texts -/

/-- The bytes that a text stands for: groups of four digits, the last one padded, with no bits left
    over. -/
def decode? : List Char → Option (List UInt8)
  | [] => some []
  | [a, b, '=', '='] => do
    let n := (← digit? a) * 64 + (← digit? b)
    if n % 16 = 0 then some [UInt8.ofNat (n / 16)] else none
  | [a, b, c, '='] => do
    let n := ((← digit? a) * 64 + (← digit? b)) * 64 + (← digit? c)
    if n % 4 = 0 then some [UInt8.ofNat (n / 1024), UInt8.ofNat (n / 4)] else none
  | a :: b :: c :: d :: r => do
    let n := (((← digit? a) * 64 + (← digit? b)) * 64 + (← digit? c)) * 64 + (← digit? d)
    let rest ← decode? r
    some (UInt8.ofNat (n / 65536) :: UInt8.ofNat (n / 256) :: UInt8.ofNat n :: rest)
  | _ => none

/-- The text of bytes. -/
def encode : List UInt8 → List Char
  | [] => []
  | [a] =>
    let n := a.toNat * 16
    [digit (n / 64), digit (n % 64), '=', '=']
  | [a, b] =>
    let n := (a.toNat * 256 + b.toNat) * 4
    [digit (n / 4096), digit (n / 64 % 64), digit (n % 64), '=']
  | a :: b :: c :: r =>
    let n := (a.toNat * 256 + b.toNat) * 256 + c.toNat
    digit (n / 262144) :: digit (n / 4096 % 64) :: digit (n / 64 % 64) :: digit (n % 64) :: encode r

end Healing.Base64
