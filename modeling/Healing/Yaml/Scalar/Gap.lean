/-
  Gaps between the words of a scalar that runs over several lines.

  Blanks within a line stand for themselves.  A single line break becomes a space, and of several
  the first one is dropped; blanks around line breaks do not count.

  1. **Gaps** - `Gap`, and `Gap.text`, what a gap stands for.
  2. **Reading** - `Cursor.takeGap`.
-/
import Healing.Yaml.Cursor

namespace Healing.Yaml

/-! ## Gaps -/

/-- Blanks and line breaks between two words. -/
structure Gap where
  /-- The blanks ahead of the first line break. -/
  blanks : String := ""
  /-- Whether there is a line break. -/
  broken : Bool := false
  /-- The first line break, unless it does not count. -/
  first : Option Char := none
  /-- The further line breaks. -/
  more : String := ""
deriving Repr, Inhabited

namespace Gap

/-- What a gap stands for. -/
def text (g : Gap) : String :=
  if g.broken then
    match g.first with
    | some '\n' => if g.more.isEmpty then " " else g.more
    | some x => String.singleton x ++ g.more
    | none => g.more
  else g.blanks

/-- A gap with one more blank. -/
def addBlank (g : Gap) (c : Char) : Gap :=
  if g.broken then g else { g with blanks := g.blanks.push c }

/-- A gap with one more line break. -/
def addBreak (g : Gap) (c : Char) : Gap :=
  if g.broken then { g with more := g.more.push c } else { g with broken := true, first := some c }

end Gap

/-! ## Reading -/

/-- Read on in a gap.  Behind a line break no tab may stand left of the column `indent`. -/
def Cursor.takeGap (indent : Int) : Nat → Gap → Cursor → Option (Gap × Cursor)
  | 0, g, c => some (g, c)
  | fuel + 1, g, c =>
    match c.takeBreak? with
    | some (x, c) => takeGap indent fuel (g.addBreak x) c
    | none =>
      match c.rest with
      | x :: _ =>
        if x = '\t' && g.broken && (c.column : Int) < indent then none
        else if isBlank x then takeGap indent fuel (g.addBlank x) (c.advance 1)
        else some (g, c)
      | [] => some (g, c)

end Healing.Yaml
