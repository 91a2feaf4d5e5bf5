/-
  Blank characters.

  The blanks are the characters with the White_Space property: the ASCII blanks, the no-break and
  typographic spaces, and the line and paragraph separators.  Texts are trimmed of them.
-/

namespace Healing.Text

/-- Whether a character has the White_Space property. -/
def isBlank (c : Char) : Bool :=
  let n := c.toNat
  (9 ≤ n && n ≤ 13) || n == 0x20 || n == 0x85 || n == 0xA0 || n == 0x1680
    || (0x2000 ≤ n && n ≤ 0x200A) || n == 0x2028 || n == 0x2029 || n == 0x202F || n == 0x205F
    || n == 0x3000

/-- Drop the blanks at the start. -/
def trimStart (cs : List Char) : List Char := cs.dropWhile isBlank

/-- Drop the characters at the end that satisfy `p`. -/
def dropEndWhile (p : Char → Bool) (cs : List Char) : List Char :=
  (cs.reverse.dropWhile p).reverse

/-- Drop the blanks at the end. -/
def trimEnd (cs : List Char) : List Char := dropEndWhile isBlank cs

/-- Drop the blanks on both sides. -/
def trim (cs : List Char) : List Char := trimEnd (trimStart cs)

end Healing.Text
