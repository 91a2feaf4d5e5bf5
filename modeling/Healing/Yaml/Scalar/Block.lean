/-
  Block scalars: indented lines behind `|`, which keeps the line breaks, or `>`, which folds them.

  1. **Headers** - `Header`: what is said behind the mark on indentation and on the last line
     breaks.
  2. **Indentation** - `takeBreaks` reads empty lines and finds the indentation of the first full
     one.
  3. **Scalars** - `takeBlock` joins the lines.
-/
import Healing.Yaml.Scalar.Gap

namespace Healing.Yaml

/-! ## Headers -/

/-- What becomes of the line breaks at the end. -/
inductive Chomping where
  /-- None is kept. -/
  | strip
  /-- The first one is kept. -/
  | clip
  /-- All are kept. -/
  | keep
deriving DecidableEq, Repr

/-- What is said behind the mark of a block scalar. -/
structure Header where
  chomping : Chomping := .clip
  /-- The indentation, relative to what surrounds the scalar. -/
  indentation : Option Nat := none

/-- Read how to treat the last line breaks, if it is said. -/
def Cursor.takeChomping (c : Cursor) : Option (Chomping × Cursor) :=
  if c.sees '+' then some (.keep, c.advance 1)
  else if c.sees '-' then some (.strip, c.advance 1)
  else none

/-- Read the indentation, if it is said; it cannot be zero. -/
def Cursor.takeIndentation (c : Cursor) : Option (Option Nat × Cursor) :=
  match c.next? with
  | some x =>
    if x = '0' then none
    else if x.isDigit then some (some (x.toNat - '0'.toNat), c.advance 1)
    else some (none, c)
  | none => some (none, c)

/-- Read a header; its two parts come in any order. -/
def Cursor.takeHeader (c : Cursor) : Option (Header × Cursor) :=
  match c.takeChomping with
  | some (chomping, c) => do
    let (indentation, c) ← c.takeIndentation
    some ({ chomping, indentation }, c)
  | none => do
    let (indentation, c) ← c.takeIndentation
    match indentation, c.takeChomping with
    | some _, some (chomping, c) => some ({ chomping, indentation }, c)
    | _, _ => some ({ indentation }, c)

/-! ## Indentation -/

/-- Read empty lines and the indentation of the next one, up to the column `indent` if it is known.
    Gives the line breaks and the largest column seen. -/
def Cursor.takeBreaks (indent : Option Nat) :
    Nat → String → Nat → Cursor → Option (String × Nat × Cursor)
  | 0, breaks, widest, c => some (breaks, widest, c)
  | fuel + 1, breaks, widest, c =>
    let spaces := (c.rest.takeWhile (· = ' ')).length
    let c := c.advance <| match indent with
      | some n => min spaces (n - c.column)
      | none => spaces
    let widest := max widest c.column
    let short := match indent with
      | some n => c.column < n
      | none => true
    if short && c.sees '\t' then none
    else
      match c.takeBreak? with
      | some (x, c) => takeBreaks indent fuel (breaks.push x) widest c
      | none => some (breaks, widest, c)

/-! ## Scalars -/

/-- The lines of a block scalar as far as they have been read. -/
structure BlockLines where
  text : String := ""
  /-- The break at the end of the last full line. -/
  lineBreak : Option Char := none
  /-- The breaks of the empty lines behind it. -/
  breaks : String := ""
  /-- Whether the last full line starts with a blank. -/
  startsBlank : Bool := false

/-- The break at the end of the last full line, as a text. -/
def BlockLines.lineEnd (b : BlockLines) : String :=
  match b.lineBreak with
  | some x => String.singleton x
  | none => ""

/-- What stands between the lines so far and the next full one.  Where lines are folded, a break
    between two lines that do not start with a blank is a space, or nothing ahead of empty lines. -/
def BlockLines.joint (b : BlockLines) (folded nextBlank : Bool) : String :=
  if folded && b.lineBreak == some '\n' && !b.startsBlank && !nextBlank then
    if b.breaks.isEmpty then " " else b.breaks
  else b.lineEnd ++ b.breaks

/-- Read the lines that start at the column `indent`. -/
def Cursor.takeLines (folded : Bool) (indent : Nat) :
    Nat → BlockLines → Cursor → Option (BlockLines × Cursor)
  | 0, b, c => some (b, c)
  | fuel + 1, b, c =>
    if c.column = indent && !c.rest.isEmpty then
      let startsBlank := c.next?.any isBlank
      let (line, c) := c.takeRun (!isBreak ·)
      let text := b.text ++ b.joint folded startsBlank ++ String.ofList line
      let (lineBreak, c) := match c.takeBreak? with
        | some (x, c) => (some x, c)
        | none => (none, c)
      match c.takeBreaks (some indent) fuel "" 0 with
      | none => none
      | some (breaks, _, c) =>
        takeLines folded indent fuel { text, lineBreak, breaks, startsBlank } c
    else some (b, c)

/-- Read a block scalar behind its mark, within text of the given indentation. -/
def Cursor.takeBlock (folded : Bool) (outer : Int) (fuel : Nat) (c : Cursor) :
    Option (String × Cursor) := do
  let (header, c) ← c.takeHeader
  let c ← c.skipLine
  let stated := header.indentation.map fun n => (if outer ≥ 0 then outer + n else n).toNat
  let (breaks, widest, c) ← c.takeBreaks stated fuel "" 0
  let indent := stated.getD (max (max widest (outer + 1).toNat) 1)
  let (b, c) ← c.takeLines folded indent fuel { breaks }
  let text := match header.chomping with
    | .strip => b.text
    | .clip => b.text ++ b.lineEnd
    | .keep => b.text ++ b.lineEnd ++ b.breaks
  some (text, c)

end Healing.Yaml
