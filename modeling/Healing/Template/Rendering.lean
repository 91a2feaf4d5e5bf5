/-
  Rendering templates.

  1. **State** - `Progress`: the page and the fragments that have been defined.
  2. **Helpers** - `renderHelper` renders a body as its helper says.
  3. **Fragments** - `defineFragment`, `renderInclusion`.
  4. **Elements** - `Element.render`, given how to render what is inside.
  5. **Templates** - `render` ties the knot; `renderText` renders a text about some data.
-/
import Healing.Template.Helper
import Healing.Template.Nesting
import Healing.Template.Page

namespace Healing.Template

/-! ## State -/

/-- How far rendering has come. -/
structure Progress where
  page : Page := {}
  /-- The fragments, the one defined last first. -/
  fragments : List (String × Template) := []
deriving Repr, Inhabited

/-- How a template is rendered within a scope. -/
abbrev Renderer := Scope → Template → Progress → Except RenderError Progress

/-- Write a text. -/
def Progress.write (p : Progress) (s : Scope) (text : String) : Progress :=
  { p with page := p.page.write s.indent text }

/-- Render a part whose indentation is decided on its own. -/
def Progress.around (p : Progress) (indentDue : Bool)
    (part : Progress → Except RenderError Progress) : Except RenderError Progress := do
  let q ← part { p with page := { p.page with indentDue, written := false } }
  if q.page.written then .ok { q with page := { q.page with indentDue := q.page.lineStart } }
  else
    .ok { q with page := { q.page with indentDue := p.page.indentDue, written := p.page.written } }

/-! ## Helpers -/

/-- The body and the alternative that a helper governs. -/
structure Branches where
  body : Option Template := none
  alternative : Option Template := none
  /-- The names that the block gives. -/
  names : List String := []
deriving Repr, Inhabited

/-- Render a body, if there is one. -/
def renderBranch (inner : Renderer) (s : Scope) (t : Option Template) (p : Progress) :
    Except RenderError Progress :=
  match t with
  | some t => inner s t p
  | none => .ok p

/-- Render the alternative, which has to be there. -/
def renderElse (inner : Renderer) (s : Scope) (b : Branches) (p : Progress) :
    Except RenderError Progress :=
  match b.alternative with
  | some t => inner s t p
  | none => .error .missingValue

/-- What the names of a block about an item stand for: the item, then its place. -/
def itemNames (names : List String) (path? : Option (List String)) (item place : Json) :
    List (String × Named) :=
  let item? := match path? with
    | some _ => Named.subject
    | none => .value item
  match names with
  | [a] => [(a, item?)]
  | [a, b] => if a = b then [(b, .value place)] else [(a, item?), (b, .value place)]
  | _ => []

/-- The block about an item of a list or object. -/
def itemBlock (names : List String) (path? : Option (List String)) (name : String)
    (item place : Json) (index count : Nat) (more : List (String × Json)) : Block where
  path := match path? with
    | some path => path ++ [name]
    | none => []
  value := match path? with
    | some _ => none
    | none => some item
  names := itemNames names path? item place
  marks := [
    ("first", .bool (index == 0)), ("last", .bool (index + 1 == count)),
    ("index", .int index)] ++ more

/-- The blocks about the items of a list or the fields of an object. -/
def itemBlocks (names : List String) (o : Operand) : List Block :=
  match o.value with
  | .arr items =>
    items.zipIdx.map fun (item, i) =>
      itemBlock names o.path? (toString i) item (.int i) i items.length []
  | .obj fields =>
    fields.zipIdx.map fun ((k, item), i) =>
      itemBlock names o.path? k item (.str k) i fields.length [("key", .str k)]
  | _ => []

/-- Whether a body can be rendered for the items of a value. -/
def hasItems (alternative : Bool) : Json → Bool
  | .arr items => !items.isEmpty || !alternative
  | .obj fields => !fields.isEmpty || !alternative
  | _ => false

/-- The block about a parameter, with a name for it. -/
def subjectBlock (names : List String) (o : Operand) : Block :=
  let b := Block.about o
  match names with
  | [a] =>
    { b with names := [(a, match o.path? with
        | some _ => .subject
        | none => .value o.value)] }
  | _ => b

/-- Render what a helper governs. -/
def renderHelper (inner : Renderer) (s : Scope) (h : Helper) (a : Arguments) (b : Branches)
    (p : Progress) : Except RenderError Progress :=
  match h with
  | .value f => do
    let j ← f.apply a
    match b.body with
    | none => .ok (p.write s (shown j))
    | some t => if isTruthy false j then inner s t p else renderBranch inner s b.alternative p
  | .conditional wanted => do
    let o ← a.get 0
    let includeZero := match a.valueNamed? "includeZero" with
      | some (.bool z) => z
      | _ => false
    let holds := isTruthy includeZero o.value == wanted
    renderBranch inner s (if holds then b.body else b.alternative) p
  | .each => do
    let o ← a.get 0
    match b.body with
    | none => .ok p
    | some t =>
      if hasItems b.alternative.isSome o.value then
        (itemBlocks b.names o).foldlM (fun p block => inner (s.enter block) t p) p
      else renderElse inner s b p
  | .with => do
    let o ← a.get 0
    if isTruthy false o.value then
      renderBranch inner (s.enter (subjectBlock b.names o)) b.body p
    else renderElse inner s b p
  | .raw => renderBranch inner s b.body p
  | .log => do
    checkLevel a
    .ok p

/-- Render an expression that calls a helper. -/
def renderCall (inner : Renderer) (s : Scope) (e : Expression) (b : Branches) (standalone : Bool)
    (p : Progress) : Except RenderError Progress := do
  let name ← nameOf s e.name
  let a ← e.arguments s
  let due := p.page.indentDue || (standalone && p.page.lineStart)
  p.around due fun p =>
    match Helper.named? name with
    | some h => renderHelper inner s h a b p
    | none => .error (.unknownHelper name)

/-- Show a value or the output of a helper. -/
def renderOutput (inner : Renderer) (s : Scope) (e : Expression) (p : Progress) :
    Except RenderError Progress :=
  if e.args.isEmpty && e.named.isEmpty then do
    let name ← nameOf s e.name
    match Helper.named? name with
    | some _ => renderCall inner s e {} false p
    | none =>
      let o ← evaluate s e.name
      if o.exists then .ok (p.write s (shown o.value)) else .error .missingValue
  else renderCall inner s e {} false p

/-! ## Fragments -/

/-- Carry a decorator out; the only one defines a fragment. -/
def defineFragment (s : Scope) (e : Expression) (body : Option Template) (p : Progress) :
    Except RenderError Progress := do
  let name ← nameOf s e.name
  let a ← e.arguments s
  if name ≠ "inline" then .error (.unknownDecorator name)
  else
    match (← a.get 0).value, body with
    | .str fragment, some t => .ok { p with fragments := (fragment, t) :: p.fragments }
    | .str _, none => .error .missingBody
    | _, _ => .error .wrongParam

/-- Define the fragments that a body defines by itself. -/
def defineFragments (s : Scope) (body : Template) (p : Progress) : Except RenderError Progress :=
  body.foldlM (fun p e =>
    match e with
    | .decorator e t => defineFragment s e t p
    | _ => .ok p) p

/-- The name that stands for the body of the inclusion around. -/
def bodyName : String := "@partial-block"

/-- The fragment of a name, or else the body of the inclusion itself. -/
def findFragment (s : Scope) (name : String) (body : Option Template) (p : Progress) :
    Except RenderError Template :=
  let found := if name = bodyName then s.bodies[s.passed]? else p.fragments.lookup name
  match found, body with
  | some t, _ => .ok t
  | none, some t => .ok t
  | none, none => .error (if name = bodyName then .noBody else .unknownFragment name)

/-- Set fields of an object; any other value counts as an empty object. -/
def withFields (j : Json) (fields : List (String × Operand)) : Json :=
  let start := match j with
    | .obj _ => j
    | _ => .obj []
  fields.foldl (fun j f => j.insertField f.1 f.2.value) start

/-- The blocks inside an inclusion: a parameter gives the value it is about, parameters by name add
    fields to that. -/
def inclusionBlocks (s : Scope) (a : Arguments) : Except RenderError (List Block) := do
  let param := a.list.head?
  let about := (param.bind Operand.path?).map fun path => ({ path } : Block)
  if a.named.isEmpty then
    .ok (match about with
      | some b => [b]
      | none => s.blocks)
  else
    let base := match param with
      | some o => .ok o.value
      | none => (s.within (s.blocks.headD {}) []).map Operand.value
    let value := withFields (← base) a.named
    .ok [{ about.getD (s.blocks.headD {}) with value := some value }]

/-- One indentation inside another. -/
def nestIndent : Option String → Option String → Option String
  | some a, some b => some (a ++ b)
  | some a, none => some a
  | none, b => b

/-- Include a fragment. -/
def renderInclusion (inner : Renderer) (s : Scope) (e : Expression) (body : Option Template)
    (indent : Option String) (standalone : Bool) (p : Progress) : Except RenderError Progress := do
  let name ← nameOf s e.name
  let a ← e.arguments s
  let due := standalone && (p.page.lineStart || indent.isSome)
  p.around due fun p => do
    let p ← match body with
      | some t => defineFragments s t p
      | none => .ok p
    let t ← findFragment s name body p
    let blocks ← inclusionBlocks s a
    let inside := { s with
      blocks
      passed := if name = bodyName then s.passed + 1 else s.passed - 1
      bodies := match body with
        | some t => t :: s.bodies
        | none => s.bodies
      indent := nestIndent s.indent indent }
    let q ← inner inside t p
    .ok { q with fragments := p.fragments }

/-! ## Elements -/

/-- Render an element, given how to render what is inside. -/
def Element.render (inner : Renderer) (s : Scope) (p : Progress) :
    Element → Except RenderError Progress
  | .text t => .ok (p.write s t)
  | .comment => .ok p
  | .output e => renderOutput inner s e p
  | .block e body alternative standalone =>
    renderCall inner s e ⟨some body, alternative, e.blockParams⟩ standalone p
  | .decorator e body => defineFragment s e body p
  | .include e body indent standalone => renderInclusion inner s e body indent standalone p

/-! ## Templates -/

/-- Render a template, up to a depth of blocks and inclusions. -/
def render : Nat → Renderer
  | 0, _, _, _ => .error .endless
  | depth + 1, s, t, p => t.foldlM (fun p e => e.render (render depth) s p) p

/-- A depth that is enough for a text of this length about this data, unless its fragments include
    one another without end. -/
def depthFor (length : Nat) (data : Json) : Nat := (length + 1) * (length + data.depth + 2)

/-- Render a text about some data. -/
def renderText (data : Json) (text : String) : Except RenderError String :=
  match ofText? text with
  | none => .error .malformed
  | some t => (render (depthFor text.length data) { data } t {}).map (·.page.text)

end Healing.Template
