/-
  Classes of characters in brackets.

  Between brackets stand characters, ranges, and further classes.  Intersection `&&`, difference
  `--` and symmetric difference `~~` bind weaker than listing, and group to the left.

  1. **Named classes** - `namedClass?`, as in `[:alpha:]`.
  2. **Items** - `Items`: what is listed, and `takeItem` for a character or a range.
  3. **Operations** - `Operator`, `Operand.combine`.
  4. **Brackets** - `takeBracket`.
-/
import Healing.Pattern.Escape

namespace Healing.Pattern

/-! ## Named classes -/

/-- The ranges of the classes with a name. -/
def namedClasses : List (String × List (Nat × Nat)) := [
  ("alnum", [(0x30, 0x39), (0x41, 0x5A), (0x61, 0x7A)]),
  ("alpha", [(0x41, 0x5A), (0x61, 0x7A)]),
  ("ascii", [(0x00, 0x7F)]),
  ("blank", [(0x09, 0x09), (0x20, 0x20)]),
  ("cntrl", [(0x00, 0x1F), (0x7F, 0x7F)]),
  ("digit", [(0x30, 0x39)]),
  ("graph", [(0x21, 0x7E)]),
  ("lower", [(0x61, 0x7A)]),
  ("print", [(0x20, 0x7E)]),
  ("punct", [(0x21, 0x2F), (0x3A, 0x40), (0x5B, 0x60), (0x7B, 0x7E)]),
  ("space", [(0x09, 0x0D), (0x20, 0x20)]),
  ("upper", [(0x41, 0x5A)]),
  ("word", [(0x30, 0x39), (0x41, 0x5A), (0x5F, 0x5F), (0x61, 0x7A)]),
  ("xdigit", [(0x30, 0x39), (0x41, 0x46), (0x61, 0x66)])]

/-- Read a named class, `[:name:]` or `[:^name:]`, and whether it is negated. -/
def takeNamedClass? (cs : List Char) : Option (CharSet × Bool × List Char) :=
  match cs with
  | '[' :: ':' :: r =>
    let (negated, r) := match r with
      | '^' :: r => (true, r)
      | r => (false, r)
    let name := r.takeWhile (· ≠ ':')
    match r.drop name.length with
    | ':' :: ']' :: rest =>
      (namedClasses.lookup (String.ofList name)).map fun ranges => (.ofRanges ranges, negated, rest)
    | _ => none
  | _ => none

/-! ## Items -/

/-- What has been listed between brackets. -/
structure Items where
  ranges : List (Nat × Nat) := []
  count : Nat := 0
  /-- How deep brackets are nested in the items. -/
  depth : Nat := 0
deriving Repr, Inhabited

/-- One more item. -/
def Items.add (l : Items) (s : CharSet) (depth : Nat) : Items :=
  { ranges := s.ranges ++ l.ranges, count := l.count + 1, depth := max l.depth depth }

/-- One more character. -/
def Items.addChar (l : Items) (c : Char) : Items := l.add (.single c) 0

/-- The depth of a list of items; a list of several is a level of its own. -/
def Items.level (l : Items) : Nat := if l.count > 1 then l.depth + 1 else l.depth

/-- Read a character or an escape between brackets. -/
def Input.takeBracketAtom (i : Input) : Option (Atom × Input) :=
  match i.rest with
  | '\\' :: _ => (i.bump 1).takeEscape
  | c :: _ => some (.char c false, i.bump 1)
  | [] => none

/-- The character behind the next one; of a comment between them only the mark is passed over. -/
def Input.peekSpace (i : Input) : Option Char :=
  let r := i.rest.drop 1
  if i.flags.verbose then
    match r.dropWhile Text.isBlank with
    | '#' :: r => (r.dropWhile Text.isBlank).head?
    | r => r.head?
  else r.head?

/-- The code of a character that is the end of a range. -/
def Input.endOfRange? (i : Input) : Atom → Option Nat
  | .char c octet => if !i.flags.unicode && octet && c.toNat > 0x7F then none else i.code? c
  | _ => none

/-- Read a character, a range or an escaped class between brackets. -/
def Input.takeItem (i : Input) : Option (CharSet × Input) := do
  let (first, i) ← i.takeBracketAtom
  let i := i.skipSpace
  if i.rest.isEmpty then none
  else if i.sees '-' && i.peekSpace != some ']' && i.peekSpace != some '-' then
    let i ← i.bumpSpace?
    let (last, i) ← i.takeBracketAtom
    let low ← i.endOfRange? first
    let high ← i.endOfRange? last
    if low ≤ high then some (.range low high, i) else none
  else
    match first with
    | .char _ _ => (i.endOfRange? first).map fun code => (.range code code, i)
    | .set s => some (s, i)
    | .place _ => none

/-! ## Operations -/

/-- An operation on two classes. -/
inductive Operator where
  | intersection
  | difference
  | symmetricDifference
deriving DecidableEq, Repr

/-- What an operation makes of two sets. -/
def Operator.apply : Operator → CharSet → CharSet → CharSet
  | .intersection => CharSet.inter
  | .difference => CharSet.diff
  | .symmetricDifference => CharSet.symmDiff

/-- The operation that starts here. -/
def operator? : List Char → Option Operator
  | '&' :: '&' :: _ => some .intersection
  | '-' :: '-' :: _ => some .difference
  | '~' :: '~' :: _ => some .symmetricDifference
  | _ => none

/-- A set and how deep brackets are nested in it. -/
structure Operand where
  set : CharSet
  depth : Nat
deriving Repr, Inhabited

/-- The operand to the left, if there is one, combined with what is listed after it. -/
def Operand.combine (i : Input) (left : Option (Operator × Operand)) (l : Items) : Operand :=
  let right := CharSet.ofRanges l.ranges
  match left with
  | none => ⟨right, l.level⟩
  | some (op, o) => ⟨op.apply (i.withCase o.set) (i.withCase right), 1 + max o.depth l.level⟩

/-! ## Brackets -/

/-- Read the leading dashes, which stand for themselves. -/
def Input.takeDashes : Nat → Items → Input → Option (Items × Input)
  | 0, l, i => some (l, i)
  | fuel + 1, l, i =>
    if i.sees '-' then i.bumpSpace?.bind (takeDashes fuel (l.addChar '-')) else some (l, i)

/-- Read what opens a bracket: a negation, dashes, and a closing bracket that stands for itself. -/
def Input.takeOpening (i : Input) : Option (Bool × Items × Input) := do
  let i ← i.bumpSpace?
  let negated := i.sees '^'
  let i ← if negated then i.bumpSpace? else some i
  let (l, i) ← i.takeDashes i.rest.length {}
  if l.count = 0 && i.sees ']' then
    let i ← i.bumpSpace?
    some (negated, l.addChar ']', i)
  else some (negated, l, i)

/-- The set of a whole bracket. -/
def Operand.close (i : Input) (negated : Bool) (o : Operand) : Option Operand :=
  (i.negate? negated (i.withCase o.set)).map fun s => ⟨s, o.depth + 1⟩

/-- Read on between brackets, up to the closing one: the operand to the left, and what has been
    listed since. -/
def Input.takeBracketRest : Nat → Bool → Option (Operator × Operand) → Items → Input →
    Option (Operand × Input)
  | 0, _, _, _, _ => none
  | fuel + 1, negated, left, l, i =>
    let i := i.skipSpace
    match i.rest with
    | [] => none
    | ']' :: _ => do
      let o ← (Operand.combine i left l).close i negated
      some (o, i.bump 1)
    | '[' :: _ =>
      match takeNamedClass? i.rest with
      | some (s, without, rest) => do
        let s ← i.negate? without (i.withCase s)
        takeBracketRest fuel negated left (l.add s 0) { i with rest }
      | none => do
        let (inner, items, j) ← i.takeOpening
        let (o, j) ← takeBracketRest fuel inner none items j
        takeBracketRest fuel negated left (l.add o.set o.depth) j
    | cs =>
      match operator? cs with
      | some op => takeBracketRest fuel negated (some (op, Operand.combine i left l)) {} (i.bump 2)
      | none => do
        let (s, j) ← i.takeItem
        takeBracketRest fuel negated left (l.add s 0) j

/-- Read a class in brackets. -/
def Input.takeBracket (i : Input) : Option (Operand × Input) := do
  let (negated, l, j) ← i.takeOpening
  takeBracketRest (i.rest.length + 1) negated none l j

end Healing.Pattern
