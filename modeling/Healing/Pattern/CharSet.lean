/-
  Sets of characters.

  A set is kept as the ranges of its code points, in ascending order and neither overlapping nor
  touching.

  1. **Sets** - `CharSet`, `ofRanges` for ranges in any order, `contains`.
  2. **Operations** - `union`, `complement`, `inter`, `diff`, `symmDiff`.
  3. **Texts** - `readRanges` reads ranges as they are written in tables.
-/

namespace Healing.Pattern

/-! ## Sets -/

/-- The largest code point. -/
def lastCode : Nat := 0x10FFFF

/-- A set of characters, as ascending ranges of code points. -/
structure CharSet where
  ranges : List (Nat × Nat)
deriving DecidableEq, Repr, Inhabited

namespace CharSet

/-- No character. -/
def empty : CharSet := ⟨[]⟩

/-- All characters. -/
def all : CharSet := ⟨[(0, lastCode)]⟩

/-- The characters from one code point to another. -/
def range (low high : Nat) : CharSet := ⟨[(low, high)]⟩

/-- One character. -/
def single (c : Char) : CharSet := range c.toNat c.toNat

/-- The characters of ASCII. -/
def ascii : CharSet := range 0 0x7F

/-- Whether a code point is in one of the ranges. -/
def contains (s : CharSet) (code : Nat) : Bool := s.ranges.any fun r => r.1 ≤ code && code ≤ r.2

/-- Whether there is no character in the set. -/
def isEmpty (s : CharSet) : Bool := s.ranges.isEmpty

/-- Whether all characters of the set are in ASCII. -/
def isAscii (s : CharSet) : Bool := s.ranges.all fun r => r.2 ≤ 0x7F

/-- The only character of a set. -/
def only? (s : CharSet) : Option Nat :=
  match s.ranges with
  | [(low, high)] => if low = high then some low else none
  | _ => none

/-- Put a range behind ascending ones that start no later: ranges that touch become one. -/
def addLast (ranges : List (Nat × Nat)) (r : Nat × Nat) : List (Nat × Nat) :=
  match ranges with
  | (low, high) :: rest => if r.1 ≤ high + 1 then (low, max high r.2) :: rest else r :: ranges
  | [] => [r]

/-- The set of the characters in some ranges. -/
def ofRanges (ranges : List (Nat × Nat)) : CharSet :=
  ⟨((ranges.mergeSort fun a b => a.1 ≤ b.1).foldl addLast []).reverse⟩

/-! ## Operations -/

/-- The characters of either set. -/
def union (a b : CharSet) : CharSet := ofRanges (a.ranges ++ b.ranges)

/-- The gaps between ascending ranges, from a code point on. -/
def gaps : Nat → List (Nat × Nat) → List (Nat × Nat)
  | start, [] => if start ≤ lastCode then [(start, lastCode)] else []
  | start, (low, high) :: r =>
    if start < low then (start, low - 1) :: gaps (high + 1) r else gaps (high + 1) r

/-- The characters that are not in a set. -/
def complement (s : CharSet) : CharSet := ⟨gaps 0 s.ranges⟩

/-- The characters of both sets. -/
def inter (a b : CharSet) : CharSet := (a.complement.union b.complement).complement

/-- The characters of one set that are not in the other. -/
def diff (a b : CharSet) : CharSet := a.inter b.complement

/-- The characters of one of two sets. -/
def symmDiff (a b : CharSet) : CharSet := (a.diff b).union (b.diff a)

/-! ## Texts -/

/-- The value of a hexadecimal digit; digits above nine are upper case. -/
def hexDigit (c : Char) : Nat :=
  if c.isDigit then c.toNat - '0'.toNat else c.toNat - 'A'.toNat + 10

/-- The number that hexadecimal digits spell out. -/
def hexNumber (digits : List Char) : Nat := digits.foldl (fun n c => 16 * n + hexDigit c) 0

/-- Split a text at each mark. -/
def splitAtMark (mark : Char) : List Char → List Char → List (List Char)
  | word, [] => [word.reverse]
  | word, c :: r =>
    if c = mark then word.reverse :: splitAtMark mark [] r else splitAtMark mark (c :: word) r

/-- A range written as its two ends, or as the only code point of it. -/
def readRange (text : List Char) : Nat × Nat :=
  match splitAtMark '-' [] text with
  | [low, high] => (hexNumber low, hexNumber high)
  | _ => (hexNumber text, hexNumber text)

/-- The ranges of a text, with blanks between them. -/
def readRanges (text : String) : List (Nat × Nat) :=
  (splitAtMark ' ' [] text.toList).map readRange

end CharSet

end Healing.Pattern
