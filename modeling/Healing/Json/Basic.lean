/-
  JSON values.

  A value keeps whole numbers apart from floating-point numbers, and the fields of an object sorted
  by name.

  1. **Values** - `Json`; two values are the `same` when they differ at most in the sign of a zero.
  2. **Objects** - `insertField`, `field?`, `ofFields`.
  3. **Pointers** - `pointer?` follows a path like `/labels/a~1b`.
-/
import Healing.KeyMap
import Healing.Decimal.Binary64

namespace Healing

/-- A JSON value. -/
inductive Json where
  | null
  | bool (value : Bool)
  | int (value : Int)
  | float (value : Binary64)
  | str (value : String)
  | arr (items : List Json)
  | obj (fields : List (String × Json))
deriving Repr, Inhabited

namespace Json

/-! ## Equality -/

mutual

/-- Whether two values are equal; the two floating-point zeros count as equal. -/
def same : Json → Json → Bool
  | .null, .null => true
  | .bool a, .bool b => a == b
  | .int a, .int b => a == b
  | .float a, .float b => a.sameValue b
  | .str a, .str b => a == b
  | .arr a, .arr b => sameItems a b
  | .obj a, .obj b => sameFields a b
  | _, _ => false

/-- `same` item by item. -/
def sameItems : List Json → List Json → Bool
  | [], [] => true
  | a :: as, b :: bs => same a b && sameItems as bs
  | _, _ => false

/-- `same` field by field, with equal names. -/
def sameFields : List (String × Json) → List (String × Json) → Bool
  | [], [] => true
  | (k, a) :: as, (l, b) :: bs => k == l && same a b && sameFields as bs
  | _, _ => false

end

instance : BEq Json := ⟨same⟩

/-! ## Depth -/

mutual

/-- How many containers lie inside one another. -/
def depth : Json → Nat
  | .arr items => depthItems items + 1
  | .obj fields => depthFields fields + 1
  | _ => 0

/-- The greatest depth of the items. -/
def depthItems : List Json → Nat
  | [] => 0
  | j :: r => max (depth j) (depthItems r)

/-- The greatest depth of the fields. -/
def depthFields : List (String × Json) → Nat
  | [] => 0
  | (_, j) :: r => max (depth j) (depthFields r)

end

/-! ## Objects -/

/-- Set a field of an object, in the order of names; another value becomes an object first. -/
def insertField (j : Json) (name : String) (value : Json) : Json :=
  match j with
  | .obj fields => .obj (insertEntry name value fields)
  | _ => .obj [(name, value)]

/-- The object of a list of fields, sorted by name; of two fields with one name the later counts. -/
def ofFields (fields : List (String × Json)) : Json :=
  .obj (fields.foldl (fun l f => insertEntry f.1 f.2 l) [])

/-- The field of an object with the given name. -/
def field? : Json → String → Option Json
  | .obj fields, name => findValue? name fields
  | _, _ => none

/-- The text of a string value. -/
def text? : Json → Option String
  | .str s => some s
  | _ => none

/-- A map of texts as an object. -/
def ofTexts (m : KeyMap String String) : Json := .obj (m.entries.map fun e => (e.1, .str e.2))

/-! ## Pointers -/

/-- Decode `~` with a digit, wherever it stands in a text. -/
def unescape (digit : Char) (decoded : Char) : List Char → List Char
  | '~' :: c :: r =>
    if c = digit then decoded :: unescape digit decoded r else '~' :: unescape digit decoded (c :: r)
  | c :: r => c :: unescape digit decoded r
  | [] => []

/-- Decode `~1` and `~0` in a token of a pointer: first the slashes, then the tildes. -/
def unescapeToken (token : List Char) : List Char := unescape '0' '~' (unescape '1' '/' token)

/-- The position that a token of digits without a superfluous zero names. -/
def itemIndex? (token : List Char) : Option Nat :=
  if token.isEmpty || !token.all Char.isDigit || (token.head? == some '0' && token.length ≠ 1) then
    none
  else some (token.foldl (fun n c => n * 10 + (c.toNat - 48)) 0)

/-- The part of a value that one token of a pointer leads to. -/
def child? (j : Json) (token : List Char) : Option Json :=
  match j with
  | .obj fields => findValue? (String.ofList token) fields
  | .arr items => (itemIndex? token).bind fun i => items[i]?
  | _ => none

/-- The part of a value that a pointer leads to: `""` is the value itself, `/a/b` the field `b` of
    its field `a`. -/
def pointer? (j : Json) (path : String) : Option Json :=
  match path.toList with
  | [] => some j
  | '/' :: r => (r.splitOn '/').foldlM (fun j token => j.child? (unescapeToken token)) j
  | _ => none

end Json

end Healing
