/-
  Expanding templates about an alert.

  An expander knows the marks of expressions and the variables that are bound on top of the data.
  Bound to some data it rewrites texts; one without an opening mark stays as it is.

  1. **Errors** - `ExpansionError` and its message.
  2. **Expanders** - `Expander`, `Expander.forAlerts`.
  3. **Binding** - `Expander.bind` computes what the paths of templates start from.
  4. **Texts** - `Binding.render`.
-/
import Healing.Expansion.Delimiters
import Healing.Expansion.Leaves
import Healing.Template.Rendering

namespace Healing

/-! ## Errors -/

/-- Why a value cannot be expanded. -/
inductive ExpansionError where
  /-- A text is no template, or its template cannot be rendered. -/
  | rendering (text : String) (cause : Template.RenderError)
  /-- A value has lost its type. -/
  | conversion
  /-- The data lacks what a variable stands for. -/
  | unknownVariable (name path : String)
deriving DecidableEq, Repr, Inhabited

/-- The message of an error. -/
def ExpansionError.message : ExpansionError → String
  | .rendering text _ => "failed to render template '" ++ text ++ "'"
  | .conversion => "JSON conversion failed"
  | .unknownVariable name path =>
    "variable '" ++ name ++ "' refers to missing path '" ++ path ++ "'"

/-! ## Expanders -/

/-- How texts are to be expanded. -/
structure Expander where
  delimiters : Delimiters := {}
  /-- The names that are bound to parts of the data, and the pointers to those parts. -/
  bound : List (String × String) := []
deriving DecidableEq, Repr, Inhabited

/-- The expander for the actions of a rule: the alert, its labels and its annotations have names. -/
def Expander.forAlerts (delimiters : Option Delimiters) : Expander where
  delimiters := delimiters.getD {}
  bound := [("alert", ""), ("labels", "/labels"), ("annotations", "/annotations")]

/-! ## Binding -/

/-- An expander bound to some data. -/
structure Binding where
  delimiters : Delimiters
  /-- What the paths of templates start from. -/
  context : Json
deriving Repr, Inhabited

/-- Bind one variable on top of the context. -/
def bindVariable (data : Json) (context : Json) (v : String × String) :
    Except ExpansionError Json :=
  match data.pointer? v.2 with
  | some j => .ok (context.insertField v.1 j)
  | none => .error (.unknownVariable v.1 v.2)

/-- Bind an expander to some data: the context holds the fields of the data and the variables. -/
def Expander.bind (x : Expander) (data : Json) : Except ExpansionError Binding := do
  let start := match data with
    | .obj _ => data
    | _ => .obj []
  let context ← x.bound.foldlM (bindVariable data) start
  .ok ⟨x.delimiters, context⟩

/-! ## Texts -/

/-- Render a text; one without an opening mark stays as it is. -/
def Binding.render (b : Binding) (text : String) : Except ExpansionError String :=
  match Text.cutAt? b.delimiters.left.toList text.toList with
  | none => .ok text
  | some _ =>
    match b.delimiters.rewrite? text with
    | none => .error (.rendering text .endless)
    | some source => (Template.renderText b.context source).mapError (.rendering text)

end Healing
