/-
  The shapes of Kubernetes objects.

  An object is described by a shape, and one reader reads the objects of every shape.  It gives the
  object in its JSON form: unknown fields are dropped, a field that is null is absent, and a
  required field that is absent has the default of its shape.

  1. **Shapes** - `Shape`; `Shape.default` is what stands for an absent required field.
  2. **Leaves** - `readTime`, `readPortion`, `readBytes`.
  3. **Reading** - `Shape.read`.
-/
import Healing.Base64
import Healing.Document
import Healing.Timestamp

namespace Healing.Kubernetes

/-! ## Shapes -/

/-- What a value has to look like. -/
inductive Shape where
  | text
  | flag
  /-- A whole number between two bounds. -/
  | whole (low high : Int)
  /-- A point in time, to the second. -/
  | time
  /-- A whole number of 32 bits, or a text. -/
  | portion
  /-- Bytes, in base 64. -/
  | bytes
  | anything
  | list (item : Shape)
  | map (value : Shape)
  /-- Fields with their names; a required field is never absent. -/
  | record (fields : List (String × Bool × Shape))
deriving Inhabited

namespace Shape

/-- A whole number of 32 bits. -/
def int32 : Shape := .whole (-2_147_483_648) 2_147_483_647

/-- A whole number of 64 bits. -/
def int64 : Shape := .whole (-9_223_372_036_854_775_808) 9_223_372_036_854_775_807

/-- A list of texts. -/
def texts : Shape := .list .text

/-- A map of texts. -/
def textMap : Shape := .map .text

/-- A field that may be absent. -/
def may (name : String) (shape : Shape) : String × Bool × Shape := (name, false, shape)

/-- A required field. -/
def must (name : String) (shape : Shape) : String × Bool × Shape := (name, true, shape)

mutual

/-- What stands for an absent required value. -/
def default : Shape → Json
  | .text => .str ""
  | .flag => .bool false
  | .whole _ _ => .int 0
  | .time => .str "1970-01-01T00:00:00Z"
  | .portion => .int 0
  | .bytes => .str ""
  | .anything => .null
  | .list _ => .arr []
  | .map _ => .obj []
  | .record fields => .ofFields (defaults fields)

/-- What stands for the required fields among some fields. -/
def defaults : List (String × Bool × Shape) → List (String × Json)
  | [] => []
  | (name, required, s) :: r =>
    if required then (name, default s) :: defaults r else defaults r

end

end Shape

/-! ## Leaves -/

/-- Read a point in time. -/
def readTime (d : Document) : Except ReadError Json := do
  match Timestamp.read? (← d.text) with
  | some t => .ok (.str t.writeWhole)
  | none => .error .mismatch

/-- Read a whole number of 32 bits or a text. -/
def readPortion (d : Document) : Except ReadError Json :=
  match d with
  | .number (some (.int n)) =>
    if -2_147_483_648 ≤ n ∧ n ≤ 2_147_483_647 then .ok (.int n) else .error .mismatch
  | .string (some s) => .ok (.str s)
  | .scalar s =>
    match s.resolve with
    | some (.int n) => if -2_147_483_648 ≤ n ∧ n ≤ 2_147_483_647 then .ok (.int n) else .error .mismatch
    | some (.str t) => .ok (.str t)
    | _ => .error .mismatch
  | .deep _ => .error .malformed
  | d => .error d.unexpected

/-- Read bytes. -/
def readBytes (d : Document) : Except ReadError Json := do
  match Base64.decode? (← d.text).toList with
  | some bytes => .ok (.str (String.ofList (Base64.encode bytes)))
  | none => .error .mismatch

/-! ## Reading -/

/-- A reader for a value in its JSON form. -/
abbrev Reader := Document → Except ReadError Json

/-- Read the entries of a record into its fields; the last entry of a name counts. -/
def readFields (readers : List (String × Reader)) :
    List (Document × Document) → List (String × Json) → Except ReadError (List (String × Json))
  | [], fields => .ok fields
  | (k, d) :: r, fields => do
    let name ← k.text
    match readers.lookup name with
    | none =>
      d.ignore
      readFields readers r fields
    | some read =>
      match ← d.optional read with
      | some j => readFields readers r (insertEntry name j fields)
      | none => readFields readers r (eraseEntry name fields)

/-- Add the defaults of fields that are absent. -/
def addDefaults (defaults fields : List (String × Json)) : List (String × Json) :=
  defaults.foldl (fun l f => if (findValue? f.1 l).isSome then l else insertEntry f.1 f.2 l) fields

/-- Read a record with the given readers and defaults. -/
def readRecord (readers : List (String × Reader)) (defaults : List (String × Json)) : Reader :=
  fun d => do
    let (entries, fault) ← d.entries
    let fields ← readFields readers entries []
    Document.checkFault fault
    .ok (.obj (addDefaults defaults fields))

mutual

/-- The reader for the values of a shape. -/
def Shape.read : Shape → Reader
  | .text => fun d => Json.str <$> d.text
  | .flag => fun d => Json.bool <$> d.flag
  | .whole low high => fun d => Json.int <$> d.whole low high
  | .time => readTime
  | .portion => readPortion
  | .bytes => readBytes
  | .anything => Document.value
  | .list item => fun d => Json.arr <$> d.listOf (Shape.read item)
  | .map value => fun d => (fun m => Json.obj m.entries) <$> d.mapOf (Shape.read value)
  | .record fields => readRecord (Shape.readers fields) (Shape.defaults fields)

/-- The readers for the values of fields. -/
def Shape.readers : List (String × Bool × Shape) → List (String × Reader)
  | [] => []
  | (name, _, s) :: r => (name, Shape.read s) :: Shape.readers r

end

end Healing.Kubernetes
