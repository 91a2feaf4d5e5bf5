/-
  What the paths of a template lead to.

  Inside a block paths start at the value that the block is about, and a block may give names of its
  own to values.  A value found in the data keeps the way that leads to it, so that a block about it
  can look around it.

  1. **Operands** - `Operand`: a value with or without a way to it, or nothing.
  2. **Blocks** - `Block`: where paths start, and the names and variables of a block.
  3. **Steps** - `follow` goes from a value along names.
  4. **Paths** - `Scope.resolve` finds what a path leads to.
-/
import Healing.Template.Value
import Healing.Template.Basic

namespace Healing.Template

/-! ## Operands -/

/-- What an expression stands for. -/
inductive Operand where
  /-- A value in the data, and the names that lead to it. -/
  | located (value : Json) (path : List String)
  /-- A value that is not part of the data. -/
  | computed (value : Json)
  | missing
deriving Repr, Inhabited

/-- The value; null where there is none. -/
def Operand.value : Operand → Json
  | .located j _ => j
  | .computed j => j
  | .missing => .null

/-- The way to the value in the data. -/
def Operand.path? : Operand → Option (List String)
  | .located _ p => some p
  | _ => none

/-- Whether there is a value. -/
def Operand.exists : Operand → Bool
  | .missing => false
  | _ => true

/-! ## Blocks -/

/-- What the name that a block gives stands for. -/
inductive Named where
  | value (value : Json)
  /-- The value that the block is about. -/
  | subject
deriving Repr, Inhabited

/-- A block around the place that is rendered. -/
structure Block where
  /-- The way to the value that the block is about. -/
  path : List String := []
  /-- That value, when it is not part of the data. -/
  value : Option Json := none
  /-- The names that the block gives. -/
  names : List (String × Named) := []
  /-- The variables of the block, such as `@index`. -/
  marks : List (String × Json) := []
deriving Repr, Inhabited

/-- The block about a value. -/
def Block.about (o : Operand) : Block :=
  match o with
  | .located _ path => { path }
  | o => { value := some o.value }

/-- What surrounds the place that is rendered. -/
structure Scope where
  /-- The whole data. -/
  data : Json
  /-- The blocks, the innermost first. -/
  blocks : List Block := [{}]
  /-- The bodies of the inclusions around, the innermost first. -/
  bodies : List Template := []
  /-- How many of them are passed over. -/
  passed : Nat := 0
  /-- The blanks at the start of every line. -/
  indent : Option String := none
deriving Repr, Inhabited

/-- Go into a block. -/
def Scope.enter (s : Scope) (b : Block) : Scope := { s with blocks := b :: s.blocks }

/-- Why a template cannot be rendered. -/
inductive RenderError where
  /-- The template is malformed. -/
  | malformed
  /-- A path leads to nothing. -/
  | missingValue
  | unknownHelper (name : String)
  /-- A helper or decorator lacks a parameter. -/
  | missingParam
  /-- A parameter has a type that the decorator does not take. -/
  | wrongParam
  | unknownDecorator (name : String)
  /-- A decorator lacks a body. -/
  | missingBody
  | unknownFragment (name : String)
  /-- There is no body to include. -/
  | noBody
  | unknownLevel (name : String)
  /-- A list has no item of that name. -/
  | invalidIndex (name : String)
  /-- Fragments include one another without end. -/
  | endless
deriving DecidableEq, Repr, Inhabited

/-! ## Steps -/

/-- Go from a value to the field or item of that name. -/
def step (j : Option Json) (name : String) : Except RenderError (Option Json) :=
  match j with
  | some (.arr items) =>
    match Numeral.unsigned? 10 18_446_744_073_709_551_615 name.toList with
    | some i => .ok items[i]?
    | none => .error (.invalidIndex name)
  | some (.obj fields) => .ok (findValue? name fields)
  | _ => .ok none

/-- Go from a value along names. -/
def follow (j : Json) (names : List String) : Except RenderError (Option Json) :=
  names.foldlM step (some j)

/-- What the names lead to from the whole data. -/
def Scope.locate (s : Scope) (path : List String) : Except RenderError Operand :=
  (follow s.data path).map fun
    | some j => .located j path
    | none => .missing

/-- What the names lead to from a value that is not part of the data. -/
def compute (j : Json) (names : List String) : Except RenderError Operand :=
  (follow j names).map fun
    | some j => .computed j
    | none => .missing

/-- What the names lead to from the value that a block is about. -/
def Scope.within (s : Scope) (b : Block) (names : List String) : Except RenderError Operand :=
  match b.value with
  | some j => compute j names
  | none => s.locate (b.path ++ names)

/-! ## Paths -/

/-- The names among the steps of a path. -/
def namesOf : List PathStep → List String
  | [] => []
  | .name n :: r => n :: namesOf r
  | _ :: r => namesOf r

/-- A variable: how many blocks up, and its name. -/
def variableOf? : List PathStep → Option (Nat × String)
  | .variable :: r =>
    match r.dropWhile (· == .up) with
    | .name n :: _ => some ((r.takeWhile (· == .up)).length, n)
    | _ => none
  | _ => none

/-- The innermost block that gives this name, and what the name stands for. -/
def namedBy? (name : String) : List Block → Option (Block × Named)
  | [] => none
  | b :: r =>
    match b.names.lookup name with
    | some n => some (b, n)
    | none => namedBy? name r

/-- Find what a path leads to.  A name that a block gives comes first, then steps up lead out of
    blocks, and else the path starts at the value of the innermost block. -/
def Scope.resolve (s : Scope) (p : Path) : Except RenderError Operand :=
  match variableOf? p.steps with
  | some (level, name) =>
    .ok <|
      match (s.blocks[level]?).bind fun b => b.marks.lookup name with
      | some j => .computed j
      | none => .missing
  | none =>
    let names := namesOf p.steps
    let ups := (p.steps.takeWhile (· == .up)).length
    let given := match p.steps.dropWhile (· == .up) with
      | .name n :: _ => namedBy? n s.blocks
      | _ => none
    let innermost := s.blocks.headD {}
    match given with
    | some (_, .value j) => compute j names.tail
    | some (b, .subject) => s.locate (b.path ++ names.tail)
    | none =>
      if ups > 0 then s.within ((s.blocks[ups]?).getD innermost) names
      else if p.steps.head? == some .root then s.locate names
      else s.within innermost names

end Healing.Template
