/-
  The helpers of the template language.

  A helper that gives a value can stand anywhere; one that governs a body decides how the body is
  rendered, and gives the empty text where there is no body.

  1. **Helpers** - `Helper.named?` finds a helper by its name.
  2. **Arguments** - `Arguments`, by position and by name.
  3. **Values** - `ValueHelper.apply`.
  4. **Operands** - `evaluate` computes what a parameter stands for.
-/
import Healing.Template.Scope

namespace Healing.Template

/-! ## Helpers -/

/-- The helpers that give a value. -/
inductive ValueHelper where
  | lookup
  | equal (wanted : Bool)
  /-- A comparison, true for some orders. -/
  | ordered (holds : List Ordering)
  | all
  | any
  | not
  | length
deriving Repr

/-- The helpers. -/
inductive Helper where
  | value (f : ValueHelper)
  /-- Render the body if the parameter is as wanted. -/
  | conditional (wanted : Bool)
  /-- Render the body for every item or field. -/
  | each
  /-- Render the body about the parameter. -/
  | with
  /-- Render the body as it is. -/
  | raw
  /-- Write to the log. -/
  | log
deriving Repr

/-- The helper of a name. -/
def Helper.named? : String → Option Helper
  | "if" => some (.conditional true)
  | "unless" => some (.conditional false)
  | "each" => some .each
  | "with" => some .with
  | "raw" => some .raw
  | "log" => some .log
  | "lookup" => some (.value .lookup)
  | "eq" => some (.value (.equal true))
  | "ne" => some (.value (.equal false))
  | "gt" => some (.value (.ordered [.gt]))
  | "gte" => some (.value (.ordered [.gt, .eq]))
  | "lt" => some (.value (.ordered [.lt]))
  | "lte" => some (.value (.ordered [.lt, .eq]))
  | "and" => some (.value .all)
  | "or" => some (.value .any)
  | "not" => some (.value .not)
  | "len" => some (.value .length)
  | _ => none

/-! ## Arguments -/

/-- What a helper is given. -/
structure Arguments where
  /-- The parameters by position. -/
  list : List Operand := []
  /-- The parameters by name. -/
  named : List (String × Operand) := []
deriving Repr, Inhabited

/-- The parameter at a position, which has to be there. -/
def Arguments.get (a : Arguments) (i : Nat) : Except RenderError Operand :=
  match a.list[i]? with
  | some o => .ok o
  | none => .error .missingParam

/-- The value of the parameter at a position; there has to be a value. -/
def Arguments.valueAt (a : Arguments) (i : Nat) : Except RenderError Json := do
  let o ← a.get i
  if o.exists then .ok o.value else .error .missingParam

/-- The value of the parameter of a name; of two with one name the later counts. -/
def Arguments.valueNamed? (a : Arguments) (name : String) : Option Json :=
  (a.named.reverse.lookup name).map Operand.value

/-! ## Values -/

/-- The item or field of a value that another value names. -/
def lookUp : Json → Json → Option Json
  | .arr items, .int i => if i < 0 then none else items[i.toNat]?
  | .obj fields, .str name => findValue? name fields
  | _, _ => none

/-- The value that a helper gives. -/
def ValueHelper.apply (f : ValueHelper) (a : Arguments) : Except RenderError Json :=
  match f with
  | .lookup => do
    let whole ← a.get 0
    let name ← a.get 1
    match lookUp whole.value name.value with
    | some j => .ok j
    | none => .error .missingValue
  | .equal wanted => do .ok (.bool (((← a.valueAt 0).same (← a.valueAt 1)) == wanted))
  | .ordered holds => do
    let x ← a.valueAt 0
    let y ← a.valueAt 1
    .ok (.bool (holds.any fun o => order? x y == some o))
  | .all => .ok (.bool (a.list.all fun o => isTruthy false o.value))
  | .any => .ok (.bool (a.list.any fun o => isTruthy false o.value))
  | .not => do .ok (.bool (!isTruthy false (← a.valueAt 0)))
  | .length => do .ok (.int (Template.length (← a.valueAt 0)))

/-- The levels of the log. -/
def levels : List String := ["error", "warn", "info", "debug", "trace"]

/-- Check the level that a log entry is given; it is `info` by default. -/
def checkLevel (a : Arguments) : Except RenderError Unit :=
  let level := match a.valueNamed? "level" with
    | some (.str s) => s
    | _ => "info"
  if levels.contains (level.map Char.toLower) then .ok () else .error (.unknownLevel level)

/-- What a helper without a body stands for. -/
def Helper.apply (h : Helper) (a : Arguments) : Except RenderError Json :=
  match h with
  | .value f => f.apply a
  | .conditional _ | .each => do
    let _ ← a.get 0
    .ok (.str "")
  | .with => do
    let o ← a.get 0
    if isTruthy false o.value then .ok (.str "") else .error .missingValue
  | .raw => .ok (.str "")
  | .log => do
    checkLevel a
    .ok (.str "")

/-! ## Operands -/

mutual

/-- What a parameter stands for. -/
def evaluate (s : Scope) : Param → Except RenderError Operand
  | .word _ => .ok .missing
  | .path p => s.resolve p
  | .literal j => .ok (.computed j)
  | .call name args named => do
    let name ← nameOf s name
    let a : Arguments := ⟨← evaluateAll s args, ← evaluateNamed s named⟩
    match Helper.named? name with
    | some h => (h.apply a).map .computed
    | none => .error (.unknownHelper name)

/-- The name that a parameter spells out: a word or path is written as it is, a call is computed. -/
def nameOf (s : Scope) : Param → Except RenderError String
  | .word t => .ok t
  | .path p => .ok p.written
  | .literal j => .ok (shown j)
  | .call name args named => do
    let name ← nameOf s name
    let a : Arguments := ⟨← evaluateAll s args, ← evaluateNamed s named⟩
    match Helper.named? name with
    | some h => (h.apply a).map shown
    | none => .error (.unknownHelper name)

/-- What the parameters stand for, from left to right. -/
def evaluateAll (s : Scope) : List Param → Except RenderError (List Operand)
  | [] => .ok []
  | p :: r => do
    let o ← evaluate s p
    let os ← evaluateAll s r
    .ok (o :: os)

/-- What the parameters by name stand for, from left to right. -/
def evaluateNamed (s : Scope) : List (String × Param) → Except RenderError (List (String × Operand))
  | [] => .ok []
  | (k, p) :: r => do
    let o ← evaluate s p
    let os ← evaluateNamed s r
    .ok ((k, o) :: os)

end

/-- The arguments of an expression. -/
def Expression.arguments (e : Expression) (s : Scope) : Except RenderError Arguments := do
  .ok ⟨← evaluateAll s e.args, ← evaluateNamed s e.named⟩

end Healing.Template
