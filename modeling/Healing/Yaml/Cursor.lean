/-
  Reading places in a YAML text.

  1. **Characters** - which characters a text may hold, blanks, and line breaks.
  2. **Cursors** - `Cursor`: what is still to be read, and the line and column reached.
  3. **Moving** - `advance` within a line, `takeBreak?` over a line break, `skipLine` over the rest
     of a line that holds nothing but a comment.
-/
import Healing.Text.Search

namespace Healing.Yaml

/-! ## Characters -/

/-- Whether a text may hold a character: no control characters but tabs and line breaks. -/
def isPrintable (c : Char) : Bool :=
  let n := c.toNat
  n = 0x09 || n = 0x0A || n = 0x0D || (0x20 ≤ n && n ≤ 0x7E) || n = 0x85 || (0xA0 ≤ n && n ≤ 0xFFFD)
    || 0x10000 ≤ n

/-- A space or a tab. -/
def isBlank (c : Char) : Bool := c = ' ' || c = '\t'

/-- A character that ends a line. -/
def isBreak (c : Char) : Bool :=
  c = '\n' || c = '\r' || c.toNat = 0x85 || c.toNat = 0x2028 || c.toNat = 0x2029

/-- A blank or a line break. -/
def isSpace (c : Char) : Bool := isBlank c || isBreak c

/-- A character of a name: a letter, a digit, a line or an underscore. -/
def isNameChar (c : Char) : Bool := c.isAlphanum || c = '_' || c = '-'

/-- Whether nothing follows but a blank, a line break or the end. -/
def endsWord : List Char → Bool
  | [] => true
  | c :: _ => isSpace c

/-- Whether a line or the text ends here. -/
def endsLine : List Char → Bool
  | [] => true
  | c :: _ => isBreak c

/-! ## Cursors -/

/-- A place in a text. -/
structure Cursor where
  /-- The characters that are still to be read. -/
  rest : List Char
  /-- How many characters have been read. -/
  index : Nat := 0
  /-- How many lines have been read. -/
  line : Nat := 0
  /-- How many characters of the line have been read. -/
  column : Nat := 0
deriving Repr, Inhabited

namespace Cursor

/-- The next character. -/
def next? (c : Cursor) : Option Char := c.rest.head?

/-- Whether the next character is the given one. -/
def sees (c : Cursor) (x : Char) : Bool := c.rest.head? == some x

/-- Whether a line starts here with the mark between documents, `---` or `...`. -/
def atMark (c : Cursor) : Bool :=
  c.column = 0 && match c.rest with
    | '-' :: '-' :: '-' :: r => endsWord r
    | '.' :: '.' :: '.' :: r => endsWord r
    | _ => false

/-! ## Moving -/

/-- Move over characters of a line. -/
def advance (c : Cursor) (count : Nat) : Cursor :=
  { c with rest := c.rest.drop count, index := c.index + count, column := c.column + count }

/-- Split off the longest run of characters of a line that are as wanted. -/
def takeRun (c : Cursor) (wanted : Char → Bool) : List Char × Cursor :=
  let run := c.rest.takeWhile wanted
  (run, c.advance run.length)

/-- Move over the longest run of characters of a line that are as wanted. -/
def skipRun (c : Cursor) (wanted : Char → Bool) : Cursor := (c.takeRun wanted).2

/-- The start of the next line after a break of so many characters. -/
def newLine (c : Cursor) (count : Nat) : Cursor :=
  { rest := c.rest.drop count, index := c.index + count, line := c.line + 1, column := 0 }

/-- Read a line break, if there is one.  All breaks count as a line feed but the line separator and
    the paragraph separator, which stand for themselves. -/
def takeBreak? (c : Cursor) : Option (Char × Cursor) :=
  match c.rest with
  | '\r' :: '\n' :: _ => some ('\n', c.newLine 2)
  | x :: _ =>
    if isBreak x then
      some (if x.toNat = 0x2028 || x.toNat = 0x2029 then x else '\n', c.newLine 1)
    else none
  | [] => none

/-- Move over a line break, if there is one. -/
def skipBreak (c : Cursor) : Cursor := (c.takeBreak?.map (·.2)).getD c

/-- Move over a comment, if there is one. -/
def skipComment (c : Cursor) : Cursor := if c.sees '#' then c.skipRun (!isBreak ·) else c

/-- Move over the rest of a line that holds nothing but blanks and a comment. -/
def skipLine (c : Cursor) : Option Cursor :=
  let c := (c.skipRun isBlank).skipComment
  if endsLine c.rest then some c.skipBreak else none

end Cursor

end Healing.Yaml
