/-
  Finding expressions in texts.

  An expression becomes a program for a machine that is at many places of the program at once, and
  goes on from all of them with each character of the text.

  1. **Programs** - `Instruction`, and `Regex.emit`, which appends the program of an expression.
  2. **Spreading** - `spread` moves on, from places of the program, as far as possible without
     reading.
  3. **Searching** - `search` reads on in a text, and `finds` reads all of it.
-/
import Healing.Pattern.Regex

namespace Healing.Pattern

/-! ## Programs -/

/-- A step of a program.  But for jumps, the program goes on at the next instruction. -/
inductive Instruction where
  /-- Read a character of a set. -/
  | one (set : CharSet)
  /-- Go on only where a condition holds. -/
  | place (condition : Place)
  /-- Go on at two places. -/
  | fork (first second : Nat)
  | jump (target : Nat)
  /-- The expression has been found. -/
  | found
deriving Repr, Inhabited

/-- A list of instructions. -/
abbrev Program := Array Instruction

/-- Append a program that may be passed over. -/
def emitOptional (body : Program → Program) (p : Program) : Program :=
  let q := body (p.push .found)
  q.setIfInBounds p.size (.fork (p.size + 1) q.size)

/-- Append a program that may be run any number of times. -/
def emitLoop (body : Program → Program) (p : Program) : Program :=
  let q := (body (p.push .found)).push (.jump p.size)
  q.setIfInBounds p.size (.fork (p.size + 1) q.size)

/-- Append one of two programs. -/
def emitEither (first second : Program → Program) (p : Program) : Program :=
  let q := first (p.push .found)
  let r := second (q.push .found)
  (r.setIfInBounds p.size (.fork (p.size + 1) (q.size + 1))).setIfInBounds q.size (.jump r.size)

namespace Regex

/-- Append the program of an expression. -/
def emit : Regex → Program → Program
  | .empty, p => p
  | .one s, p => p.push (.one s)
  | .place c, p => p.push (.place c)
  | .cat a b, p => b.emit (a.emit p)
  | .alt a b, p => emitEither a.emit b.emit p
  | .group r, p => r.emit p
  | .repeated least most r, p =>
    let p := Nat.repeat r.emit least p
    match most with
    | none => emitLoop r.emit p
    | some most => Nat.repeat (emitOptional r.emit) (most - least) p

/-- The program of an expression. -/
def program (r : Regex) : Program := (r.emit #[]).push .found

end Regex

/-! ## Spreading -/

/-- What has been reached between two characters. -/
structure Reached where
  /-- For each place, the number of the last step in which it was reached. -/
  marks : Array Nat
  /-- The places that read a character. -/
  readers : List Nat
  /-- Whether the end has been reached. -/
  found : Bool

/-- Go on from the given places as far as possible without reading, in step `step` of the search. -/
def spread (p : Program) (before after : Option Char) (step : Nat) :
    Nat → List Nat → Array Nat → List Nat → Reached
  | 0, _, marks, readers => ⟨marks, readers, false⟩
  | _ + 1, [], marks, readers => ⟨marks, readers, false⟩
  | fuel + 1, here :: places, marks, readers =>
    if marks.getD here step = step then spread p before after step fuel places marks readers
    else
      let marks := marks.setIfInBounds here step
      match p[here]? with
      | none => spread p before after step fuel places marks readers
      | some (.one _) => spread p before after step fuel places marks (here :: readers)
      | some (.place c) =>
        let places := if c.holds before after then (here + 1) :: places else places
        spread p before after step fuel places marks readers
      | some (.fork a b) => spread p before after step fuel (a :: b :: places) marks readers
      | some (.jump a) => spread p before after step fuel (a :: places) marks readers
      | some .found => ⟨marks, readers, true⟩

/-! ## Searching -/

/-- Whether a place of a program reads a character. -/
def readsAt (p : Program) (c : Char) (place : Nat) : Bool :=
  match p[place]? with
  | some (.one s) => s.contains c.toNat
  | _ => false

/-- Search the rest of a text, being at the given places of a program; a new attempt starts before
    every character. -/
def search (p : Program) : List Char → Option Char → Nat → List Nat → Array Nat → Bool
  | [], before, step, places, marks =>
    (spread p before none step (2 * p.size + places.length + 2) (0 :: places) marks []).found
  | c :: rest, before, step, places, marks =>
    match spread p before (some c) step (2 * p.size + places.length + 2) (0 :: places) marks [] with
    | ⟨_, _, true⟩ => true
    | ⟨marks, readers, false⟩ =>
      search p rest (some c) (step + 1) ((readers.filter (readsAt p c)).map (· + 1)) marks

/-- Whether what a program looks for is found anywhere in a text. -/
def finds (p : Program) (text : String) : Bool :=
  search p text.toList none 1 [] (.replicate p.size 0)

end Healing.Pattern
