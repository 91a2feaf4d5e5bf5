/-
  Patterns as expressions.

  1. **Places** - `Place`: the conditions on the characters around a place, and `Place.holds`.
  2. **Expressions** - `Regex`.
  3. **Lengths** - `Regex.matchesOnlyEmpty`, `Regex.times`, `Regex.mayBeEmpty`.
-/
import Healing.Pattern.CharSet

namespace Healing.Pattern

/-! ## Places -/

/-- A condition on a place between two characters.  Words are made of the characters `word`. -/
inductive Place where
  | textStart
  | textEnd
  | lineStart
  | lineEnd
  /-- As `lineStart`, where a carriage return may end a line, alone or before a line feed. -/
  | anyLineStart
  /-- As `lineEnd`, where a carriage return may end a line, alone or before a line feed. -/
  | anyLineEnd
  | wordBoundary (word : CharSet)
  | noWordBoundary (word : CharSet)
  | wordStart (word : CharSet)
  | wordEnd (word : CharSet)
  | noWordBefore (word : CharSet)
  | noWordAfter (word : CharSet)
deriving Repr, Inhabited

/-- Whether a character is there and in a set. -/
def isIn (s : CharSet) (c : Option Char) : Bool := c.any fun c => s.contains c.toNat

/-- Whether a condition holds between two characters; at the ends of the text there is none. -/
def Place.holds (before after : Option Char) : Place → Bool
  | .textStart => before.isNone
  | .textEnd => after.isNone
  | .lineStart => before.isNone || before == some '\n'
  | .lineEnd => after.isNone || after == some '\n'
  | .anyLineStart =>
    before.isNone || before == some '\n' || (before == some '\r' && after != some '\n')
  | .anyLineEnd =>
    after.isNone || after == some '\r' || (after == some '\n' && before != some '\r')
  | .wordBoundary w => isIn w before != isIn w after
  | .noWordBoundary w => isIn w before == isIn w after
  | .wordStart w => !isIn w before && isIn w after
  | .wordEnd w => isIn w before && !isIn w after
  | .noWordBefore w => !isIn w before
  | .noWordAfter w => !isIn w after

/-! ## Expressions -/

/-- An expression for texts. -/
inductive Regex where
  | empty
  /-- One character of a set. -/
  | one (set : CharSet)
  /-- Nothing, where a condition holds. -/
  | place (condition : Place)
  | cat (first second : Regex)
  | alt (first second : Regex)
  /-- So many times, or more. -/
  | repeated (least : Nat) (most : Option Nat) (r : Regex)
  /-- A part that is remembered; it matters only for the size. -/
  | group (r : Regex)
deriving Repr, Inhabited

namespace Regex

/-- Whether an expression is the empty one. -/
def isEmpty : Regex → Bool
  | .empty => true
  | _ => false

/-- One expression after the other; an empty one adds nothing. -/
def append (a b : Regex) : Regex := if a.isEmpty then b else if b.isEmpty then a else .cat a b

/-- Expressions one after the other. -/
def sequence (rs : List Regex) : Regex := rs.foldr append .empty

/-- One of several expressions. -/
def choice : List Regex → Regex
  | [] => .empty
  | [r] => r
  | r :: rs => .alt r (choice rs)

/-! ## Lengths -/

/-- Whether an expression can only match the empty text. -/
def matchesOnlyEmpty : Regex → Bool
  | .empty => true
  | .one _ => false
  | .place _ => true
  | .cat a b => a.matchesOnlyEmpty && b.matchesOnlyEmpty
  | .alt a b => a.matchesOnlyEmpty && b.matchesOnlyEmpty
  | .repeated _ most r => most == some 0 || r.matchesOnlyEmpty
  | .group r => r.matchesOnlyEmpty

/-- An expression so many times, or more.  Nothing is gained by repeating the empty text. -/
def times (least : Nat) (most : Option Nat) (r : Regex) : Regex :=
  let (least, most) :=
    if r.matchesOnlyEmpty then (min least 1, some (min (most.getD 1) 1)) else (least, most)
  if most = some 0 then .empty
  else if least = 1 ∧ most = some 1 then r
  else .repeated least most r

/-- Whether an expression can match the empty text. -/
def mayBeEmpty : Regex → Bool
  | .empty => true
  | .one _ => false
  | .place _ => true
  | .cat a b => a.mayBeEmpty && b.mayBeEmpty
  | .alt a b => a.mayBeEmpty || b.mayBeEmpty
  | .repeated least _ r => least == 0 || r.mayBeEmpty
  | .group r => r.mayBeEmpty

end Regex

end Healing.Pattern
