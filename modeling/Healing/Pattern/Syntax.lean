/-
  The syntax of patterns.

  1. **Pieces** - `Piece`: an expression with the depth of its nesting.
  2. **Repetitions** - `takeCounts`, and `Piece.times`.
  3. **Groups** - `takeFlags`, `takeName`, `takeGroupStart`.
  4. **Atoms** - `takeAtom`.
  5. **Expressions** - `takeChoice` for alternatives, `takeSequence` for pieces in a row.
  6. **Whole patterns** - `Regex.ofText?`.
-/
import Healing.Pattern.Bracket

namespace Healing.Pattern

/-! ## Pieces -/

/-- A part of an expression. -/
structure Piece where
  regex : Regex
  /-- How deep the part is nested. -/
  depth : Nat := 0
  /-- Whether the part may be repeated; a change of flags may not. -/
  repeatable : Bool := true
deriving Inhabited

/-- Pieces in a row. -/
def Piece.sequence : List Piece → Piece
  | [] => { regex := .empty }
  | [p] => { p with repeatable := true }
  | ps => { regex := .sequence (ps.map (·.regex)), depth := 1 + (ps.map (·.depth)).foldl max 0 }

/-- Alternatives. -/
def Piece.choice : List Piece → Piece
  | [p] => p
  | ps => { regex := .choice (ps.map (·.regex)), depth := 1 + (ps.map (·.depth)).foldl max 0 }

/-- The piece so many times. -/
def Piece.times (least : Nat) (most : Option Nat) (p : Piece) : Piece :=
  { regex := p.regex.times least most, depth := p.depth + 1 }

/-! ## Repetitions -/

/-- The largest number of repetitions that can be written. -/
def mostTimes : Nat := 4_294_967_295

/-- Read a number of repetitions, which may have blanks around it. -/
def Input.takeNumber (i : Input) : Option (Nat × Input) :=
  let i := { i with rest := i.rest.dropWhile Text.isBlank }
  let (digits, i) := i.takeRun Char.isDigit (i.rest.length + 1) []
  let (_, i) := i.takeRun Text.isBlank (i.rest.length + 1) []
  let n := digits.foldl (fun n c => 10 * n + (c.toNat - '0'.toNat)) 0
  if digits.isEmpty || n > mostTimes then none else some (n, i)

/-- Read numbers of repetitions in braces: one, at least one, or two. -/
def Input.takeCounts (i : Input) : Option (Nat × Option Nat × Input) := do
  let i ← i.bumpSpace?
  let (least, i) ← i.takeNumber
  let (most, i) ←
    if i.sees ',' then
      let i ← i.bumpSpace?
      if i.sees '\x7d' then some (none, i)
      else
        let (n, i) ← i.takeNumber
        some (some n, i)
    else some (some least, i)
  if i.sees '\x7d' && most.all (least ≤ ·) then some (least, most, i.bumpSpace) else none

/-- Move over a question mark, which only changes the order in which repetitions are tried. -/
def Input.skipLazy (i : Input) : Input := if i.sees '?' then i.bump 1 else i

/-! ## Groups -/

/-- Read flags up to a colon or a closing parenthesis: letters that set flags, and behind a dash
    letters that clear them.  No letter may be given twice. -/
def takeFlags (seen : List Char) (on : Bool) (f : Flags) : List Char → Option (Flags × List Char)
  | [] => none
  | c :: r =>
    if c = ':' || c = ')' then if seen.head? == some '-' then none else some (f, c :: r)
    else if seen.contains c then none
    else if c = '-' then takeFlags (c :: seen) false f r
    else (f.set c on).bind fun f => takeFlags (c :: seen) on f r

/-- Whether a character may stand in the name of a group. -/
def isGroupChar (first : Bool) (c : Char) : Bool :=
  let isIn := fun (s : Option CharSet) => s.any fun s => s.contains c.toNat
  c = '_' || isIn (Unicode.property? "alphabetic")
    || (!first && (['.', '[', ']'].contains c || isIn (Unicode.category? "n")))

/-- Read the name of a group behind its mark, up to the closing angle.  A name is given once. -/
def Input.takeName (i : Input) : Option Input :=
  let name := i.rest.takeWhile (· ≠ '>')
  match i.rest.drop name.length with
  | '>' :: rest =>
    let text := String.ofList name
    let fine := name.head?.any (isGroupChar true) && name.tail.all (isGroupChar false)
    if fine && !i.names.contains text then some { i with rest, names := text :: i.names } else none
  | _ => none

/-- What opens with a parenthesis. -/
inductive GroupStart where
  /-- Flags for the rest of the group around. -/
  | flags (f : Flags)
  /-- A group that is remembered. -/
  | remembered
  /-- A group with flags of its own. -/
  | plain (f : Flags)

/-- Read what opens with a parenthesis.  Conditions on what stands around are refused. -/
def Input.takeGroupStart (i : Input) : Option (GroupStart × Input) :=
  let i := i.bumpSpace
  match i.rest with
  | '?' :: '=' :: _ => none
  | '?' :: '!' :: _ => none
  | '?' :: '<' :: '=' :: _ => none
  | '?' :: '<' :: '!' :: _ => none
  | '?' :: 'P' :: '<' :: _ => (i.bump 3).takeName.map fun i => (.remembered, i)
  | '?' :: '<' :: _ => (i.bump 2).takeName.map fun i => (.remembered, i)
  | '?' :: r =>
    match takeFlags [] true i.flags r with
    | some (f, ':' :: rest) => some (.plain f, { i with rest })
    | some (f, ')' :: rest) =>
      if r.head? == some ')' then none else some (.flags f, { i with rest })
    | _ => none
  | _ => some (.remembered, i)

/-! ## Atoms -/

/-- The condition for the start of a line, or of the text. -/
def Flags.lineStart (f : Flags) : Place :=
  if f.multiLine then if f.anyLineEnd then .anyLineStart else .lineStart else .textStart

/-- The condition for the end of a line, or of the text. -/
def Flags.lineEnd (f : Flags) : Place :=
  if f.multiLine then if f.anyLineEnd then .anyLineEnd else .lineEnd else .textEnd

/-- What the dot stands for.  Without classes beyond ASCII it would be no set of characters. -/
def Flags.dot? (f : Flags) : Option CharSet :=
  if !f.unicode then none
  else if f.dotAll then some .all
  else if f.anyLineEnd then some (CharSet.ofRanges [(0x0A, 0x0A), (0x0D, 0x0D)]).complement
  else some (CharSet.single '\n').complement

/-- Read a single character, an escape, or a mark that stands for characters or a place. -/
def Input.takeAtom (i : Input) : Option (Regex × Input) :=
  match i.rest with
  | [] => none
  | '\\' :: _ => do
    let (a, i) ← (i.bump 1).takeEscape
    match a with
    | .char c octet =>
      let s ← i.one? c octet
      some (.one s, i)
    | .set s => some (.one s, i)
    | .place p => some (.place p, i)
  | '.' :: _ => i.flags.dot?.map fun s => (.one s, i.bump 1)
  | '^' :: _ => some (.place i.flags.lineStart, i.bump 1)
  | '$' :: _ => some (.place i.flags.lineEnd, i.bump 1)
  | c :: _ => (i.one? c false).map fun s => (.one s, i.bump 1)

/-! ## Expressions -/

/-- How deep expressions may be nested. -/
def deepest : Nat := 250

mutual

/-- Read alternatives, within so many groups at most. -/
def takeChoice (fuel groups : Nat) (done : List Piece) (i : Input) : Option (Piece × Input) :=
  match fuel with
  | 0 => none
  | fuel + 1 => do
    let (p, i) ← takeSequence fuel groups [] i
    if i.sees '|' then takeChoice fuel groups (p :: done) (i.bump 1)
    else some (Piece.choice (p :: done).reverse, i)

/-- Read pieces in a row; those so far come last first. -/
def takeSequence (fuel groups : Nat) (done : List Piece) (i : Input) : Option (Piece × Input) :=
  match fuel with
  | 0 => none
  | fuel + 1 =>
    let i := i.skipSpace
    let repeated := fun (least : Nat) (most : Option Nat) (i : Input) =>
      match done with
      | p :: r =>
        if p.repeatable then takeSequence fuel groups (p.times least most :: r) i.skipLazy else none
      | [] => none
    let ended := some (Piece.sequence done.reverse, i)
    match i.rest with
    | [] => ended
    | '|' :: _ => ended
    | ')' :: _ => ended
    | '?' :: _ => repeated 0 (some 1) (i.bump 1)
    | '*' :: _ => repeated 0 none (i.bump 1)
    | '+' :: _ => repeated 1 none (i.bump 1)
    | '\x7b' :: _ =>
      match i.takeCounts with
      | some (least, most, i) => repeated least most i
      | none => none
    | '[' :: _ => do
      let (o, i) ← i.takeBracket
      takeSequence fuel groups ({ regex := .one o.set, depth := o.depth } :: done) i
    | '(' :: _ => do
      let (start, j) ← i.takeGroupStart
      match start with
      | .flags flags =>
        let p : Piece := { regex := .empty, repeatable := false }
        takeSequence fuel groups (p :: done) { j with flags }
      | .remembered => takeGroup fuel groups done true i.flags j
      | .plain flags => takeGroup fuel groups done false i.flags { j with flags }
    | _ => do
      let (r, i) ← i.takeAtom
      takeSequence fuel groups ({ regex := r } :: done) i

/-- Read on in a group, over its end, and on behind it with the flags that hold there. -/
def takeGroup (fuel groups : Nat) (done : List Piece) (remembered : Bool) (outer : Flags)
    (i : Input) : Option (Piece × Input) :=
  match fuel, groups with
  | fuel + 1, groups + 1 => do
    let (p, i) ← takeChoice fuel groups [] i
    if i.sees ')' then
      let group : Piece :=
        { regex := if remembered then .group p.regex else p.regex, depth := p.depth + 1 }
      takeSequence fuel (groups + 1) (group :: done) { i.bump 1 with flags := outer }
    else none
  | _, _ => none

end

/-! ## Whole patterns -/

/-- The expression that a text spells out, unless it is malformed or nested too deep. -/
def Regex.ofText? (text : String) : Option Regex :=
  let cs := text.toList
  match takeChoice (3 * cs.length + 3) deepest [] { rest := cs } with
  | some (p, i) => if i.rest.isEmpty && p.depth ≤ deepest then some p.regex else none
  | none => none

end Healing.Pattern
