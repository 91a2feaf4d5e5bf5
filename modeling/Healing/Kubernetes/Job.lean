/-
  Batch jobs of Kubernetes.

  A job is kept in its JSON form, field by field, so that everything the schema knows is carried
  along.  Only its name and its namespace matter here.

  1. **Jobs** - `Job`, its name and namespace.
  2. **JSON form** - `Job.toJson`, and `Job.read` after the schema.
  3. **Expansion** - `Job.expand` expands the JSON form and reads it back, or changes nothing.
-/
import Healing.Expansion
import Healing.Kubernetes.Schema.Job

namespace Healing.Kubernetes

/-! ## Jobs -/

/-- A batch job. -/
structure Job where
  metadata : KeyMap String Json := ∅
  spec : Option Json := none
  status : Option Json := none
deriving BEq, Inhabited

namespace Job

/-- A text among the metadata; absence counts as the empty text. -/
def metadataText (j : Job) (field : String) : String :=
  ((j.metadata.get? field).bind Json.text?).getD ""

/-- The name, empty if there is none. -/
def name (j : Job) : String := j.metadataText "name"

/-- The namespace, empty if there is none. -/
def namespaceName (j : Job) : String := j.metadataText "namespace"

/-- Put the job into a namespace. -/
def withNamespace (j : Job) (ns : String) : Job :=
  { j with metadata := j.metadata.insert "namespace" (.str ns) }

/-! ## JSON form -/

/-- The version of the interface that jobs belong to. -/
def apiVersion : String := "batch/v1"

/-- The kind of object that a job is. -/
def kind : String := "Job"

/-- A field that may be absent. -/
def optionalField (name : String) : Option Json → List (String × Json)
  | some j => [(name, j)]
  | none => []

/-- The job as a value. -/
def toJson (j : Job) : Json :=
  .obj ([("apiVersion", .str apiVersion), ("kind", .str kind),
      ("metadata", .obj j.metadata.entries)]
    ++ optionalField "spec" j.spec ++ optionalField "status" j.status)

/-- Read a text that has to be the given one. -/
def readExactly (wanted : String) : Reader := fun d => do
  let s ← d.text
  if s = wanted then .ok (.str s) else .error .mismatch

/-- The readers for the fields of a job; only a job may be called one. -/
def readers : List (String × Reader) :=
  Shape.readers [
    ("metadata", true, Schema.objectMeta), ("spec", false, Schema.jobSpec),
    ("status", false, Schema.jobStatus)]

/-- Read the entries of an object of the given version and kind into its fields. -/
def readTyped (apiVersion kind : String) (readers : List (String × Reader)) :
    List (Document × Document) → List (String × Json) → Except ReadError (List (String × Json))
  | [], fields => .ok fields
  | (k, d) :: r, fields => do
    let name ← k.text
    if name = "apiVersion" then
      let _ ← readExactly apiVersion d
      readTyped apiVersion kind readers r fields
    else if name = "kind" then
      let _ ← readExactly kind d
      readTyped apiVersion kind readers r fields
    else
      let fields ← readFields readers [(k, d)] fields
      readTyped apiVersion kind readers r fields

/-- The fields of an object. -/
def fieldMap : Option Json → KeyMap String Json
  | some (.obj fields) => .ofList fields
  | _ => ∅

/-- Read a job. -/
def read (d : Document) : Except ReadError Job := do
  let (entries, fault) ← d.entries
  let fields ← readTyped apiVersion kind readers entries []
  Document.checkFault fault
  .ok {
    metadata := fieldMap (findValue? "metadata" fields)
    spec := findValue? "spec" fields
    status := findValue? "status" fields }

/-! ## Expansion -/

/-- Expand the texts of a job in its JSON form; a job that fails to expand, or is no job any more,
    stays as it was. -/
def expand (render : String → Except ExpansionError String) (j : Job) : Walk ExpansionError Job :=
  let w := j.toJson.expand render
  match w.stopped with
  | some e => ⟨j, some e⟩
  | none =>
    match read (.ofJson w.value) with
    | .ok j' => ⟨j', none⟩
    | .error _ => ⟨j, some .conversion⟩

end Job

end Healing.Kubernetes
