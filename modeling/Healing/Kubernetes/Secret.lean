/-
  Secrets of Kubernetes.

  A secret is kept in its JSON form, field by field, with its bytes in base 64.

  1. **Secrets** - `Secret`.
  2. **JSON form** - `Secret.toJson`, and `Secret.read` after the schema.
  3. **Values** - `Secret.values`, the bytes by their keys.
-/
import Healing.Kubernetes.Job

namespace Healing.Kubernetes

/-! ## Secrets -/

/-- A secret. -/
structure Secret where
  /-- All fields but the version and the kind; the metadata are always there. -/
  fields : KeyMap String Json
deriving BEq, Inhabited

namespace Secret

/-! ## JSON form -/

/-- The version of the interface that secrets belong to. -/
def apiVersion : String := "v1"

/-- The kind of object that a secret is. -/
def kind : String := "Secret"

/-- The fields of a secret. -/
def shapes : List (String × Bool × Shape) := [
  ("data", false, .map .bytes), ("immutable", false, .flag), ("metadata", true, Schema.objectMeta),
  ("stringData", false, .textMap), ("type", false, .text)]

/-- The secret as a value. -/
def toJson (s : Secret) : Json :=
  .obj ([("apiVersion", .str apiVersion), ("kind", .str kind)] ++ s.fields.entries)

/-- Read a secret. -/
def read (d : Document) : Except ReadError Secret := do
  let (entries, fault) ← d.entries
  let fields ← Job.readTyped apiVersion kind (Shape.readers shapes) entries []
  Document.checkFault fault
  .ok { fields := .ofList (addDefaults (Shape.defaults shapes) fields) }

/-! ## Values -/

/-- The bytes of a secret by their keys. -/
def values (s : Secret) : KeyMap String ByteArray :=
  match s.fields.get? "data" with
  | some (.obj data) =>
    .ofList (data.filterMap fun (key, value) => do
      let bytes ← Base64.decode? (← value.text?).toList
      some (key, ⟨bytes.toArray⟩))
  | _ => ∅

end Secret

end Healing.Kubernetes
