/-
  Templates as trees.

  A template is text with tags in double braces.  A tag shows a value, opens or closes a block,
  defines a fragment, or includes one.

  1. **Paths** - `Path`: the way from the current value, or a variable such as `@index`.
  2. **Expressions** - `Param`: a path, a literal, or a call of a helper in parentheses.
  3. **Elements** - `Element`; a template is a list of elements.
-/
import Healing.Json.Basic

namespace Healing.Template

/-! ## Paths -/

/-- One step of a path. -/
inductive PathStep where
  /-- To the whole data. -/
  | root
  /-- The mark of a variable of the surrounding block. -/
  | variable
  /-- To the value around the current one. -/
  | up
  /-- To a field or an item. -/
  | name (text : String)
deriving DecidableEq, Repr

/-- A path as it is written, and its steps. -/
structure Path where
  written : String
  steps : List PathStep
deriving DecidableEq, Repr

/-! ## Expressions -/

/-- What a tag names or passes to a helper. -/
inductive Param where
  /-- A bare word, which names something and has no value. -/
  | word (text : String)
  | path (path : Path)
  | literal (value : Json)
  /-- A call of a helper, with arguments by position and by name. -/
  | call (name : Param) (args : List Param) (named : List (String × Param))
deriving Repr, Inhabited

/-- The contents of a tag. -/
structure Expression where
  name : Param
  args : List Param := []
  named : List (String × Param) := []
  /-- The names that a block gives to its value and key. -/
  blockParams : List String := []
deriving Repr, Inhabited

/-- The word or path that a tag is written with; none for a call. -/
def Param.written? : Param → Option String
  | .word s => some s
  | .path p => some p.written
  | _ => none

/-! ## Elements -/

/-- A part of a template. -/
inductive Element where
  | text (text : String)
  | comment
  /-- A value, or the output of a helper. -/
  | output (expr : Expression)
  /-- A helper with a body and an alternative; `standalone` when its tag has its line to itself. -/
  | block (expr : Expression) (body : List Element) (alternative : Option (List Element))
    (standalone : Bool)
  /-- A decorator, which changes how the template goes on. -/
  | decorator (expr : Expression) (body : Option (List Element))
  /-- The inclusion of a fragment, with a body to fall back on and the blanks before the tag. -/
  | include (expr : Expression) (body : Option (List Element)) (indent : Option String)
    (standalone : Bool)
deriving Repr, Inhabited

end Healing.Template

namespace Healing

/-- A template. -/
abbrev Template := List Template.Element

end Healing
