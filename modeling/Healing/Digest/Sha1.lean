/-
  The SHA-1 digest of a text of bytes.

  1. **Padding** - `pad` fills a message up to whole blocks of 64 bytes.
  2. **Rounds** - `schedule` spreads a block over 80 words, `compress` mixes a block in.
  3. **Digest** - `Sha1.digest`, and `Sha1.hex` in hexadecimal digits.
-/
import Healing.Json.Writer

namespace Healing.Sha1

/-! ## Padding -/

/-- A number in big-endian bytes. -/
def bigEndian : Nat → Nat → List UInt8
  | 0, _ => []
  | count + 1, n => UInt8.ofNat (n / Nat.pow 256 count) :: bigEndian count n

/-- A message with a one bit, zeros and its length in bits behind it. -/
def pad (message : List UInt8) : List UInt8 :=
  let zeros := (119 - message.length % 64) % 64
  message ++ 0x80 :: List.replicate zeros 0 ++ bigEndian 8 (8 * message.length)

/-! ## Rounds -/

/-- Turn the bits of a word to the left. -/
def rotateLeft (x : UInt32) (n : UInt32) : UInt32 := (x <<< n) ||| (x >>> (32 - n))

/-- The words of some bytes, four bytes each. -/
def words : List UInt8 → List UInt32
  | a :: b :: c :: d :: r =>
    ((a.toUInt32 <<< 24) ||| (b.toUInt32 <<< 16) ||| (c.toUInt32 <<< 8) ||| d.toUInt32) :: words r
  | _ => []

/-- Extend the words of a block by so many more. -/
def extend : Nat → Array UInt32 → Array UInt32
  | 0, w => w
  | more + 1, w =>
    let n := w.size
    let x := w.getD (n - 3) 0 ^^^ w.getD (n - 8) 0 ^^^ w.getD (n - 14) 0 ^^^ w.getD (n - 16) 0
    extend more (w.push (rotateLeft x 1))

/-- The 80 words that a block is spread over. -/
def schedule (block : List UInt8) : Array UInt32 := extend 64 (words block).toArray

/-- The five words that are mixed. -/
structure State where
  a : UInt32
  b : UInt32
  c : UInt32
  d : UInt32
  e : UInt32
deriving DecidableEq, Repr

/-- The function and the constant of a round. -/
def round (i : Nat) (b c d : UInt32) : UInt32 × UInt32 :=
  if i < 20 then ((b &&& c) ||| (~~~b &&& d), 0x5A827999)
  else if i < 40 then (b ^^^ c ^^^ d, 0x6ED9EBA1)
  else if i < 60 then ((b &&& c) ||| (b &&& d) ||| (c &&& d), 0x8F1BBCDC)
  else (b ^^^ c ^^^ d, 0xCA62C1D6)

/-- One round with its word. -/
def mix (s : State) (w : UInt32 × Nat) : State :=
  let (f, k) := round w.2 s.b s.c s.d
  ⟨rotateLeft s.a 5 + f + s.e + k + w.1, s.a, rotateLeft s.b 30, s.c, s.d⟩

/-- Mix a block in. -/
def compress (s : State) (block : List UInt8) : State :=
  let t := (schedule block).toList.zipIdx.foldl mix s
  ⟨s.a + t.a, s.b + t.b, s.c + t.c, s.d + t.d, s.e + t.e⟩

/-! ## Digest -/

/-- The state before the first block. -/
def start : State := ⟨0x67452301, 0xEFCDAB89, 0x98BADCFE, 0x10325476, 0xC3D2E1F0⟩

/-- Mix so many blocks in. -/
def compressAll : Nat → State → List UInt8 → State
  | 0, s, _ => s
  | blocks + 1, s, bytes => compressAll blocks (compress s (bytes.take 64)) (bytes.drop 64)

/-- The digest of a message, 20 bytes. -/
def digest (message : List UInt8) : List UInt8 :=
  let padded := pad message
  let s := compressAll (padded.length / 64) start padded
  [s.a, s.b, s.c, s.d, s.e].flatMap fun w => bigEndian 4 w.toNat

/-- The digest of a text in hexadecimal digits. -/
def hex (text : String) : String :=
  String.ofList <| (digest text.toUTF8.toList).flatMap fun b =>
    [Json.hexDigit (b.toNat / 16), Json.hexDigit (b.toNat % 16)]

end Healing.Sha1
