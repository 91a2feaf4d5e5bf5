/-
  Healing rules.

  A rule pairs patterns for the labels and annotations of alerts with one action.

  1. **Rules** - `Rule`, with its name and its namespace.
  2. **Writing** - `Rule.toJson` with the fields in a fixed order, and `Rule.text`.
  3. **Versions** - `Rule.version` is the version that came with the rule or a digest of its text.
  4. **Reading** - `Rule.read` wants exactly one action.
-/
import Healing.Action
import Healing.Digest.Sha1

namespace Healing

/-! ## Rules -/

/-- A healing rule. -/
structure Rule where
  name : String
  /-- The namespace that the rule belongs to. -/
  space : Option String := none
  /-- The version that came with the rule. -/
  resourceVersion : Option String := none
  /-- The patterns that labels have to match, by the names of the labels. -/
  labels : KeyMap String String := ∅
  /-- The patterns that annotations have to match, by the names of the annotations. -/
  annotations : KeyMap String String := ∅
  /-- The marks of templates in the action. -/
  delimiters : Option Delimiters := none
  action : Action
deriving BEq, Inhabited

namespace Rule

/-- The namespace of batch jobs for which none is named. -/
def defaultSpace : String := "default"

/-- The namespace of the rule, or the default one. -/
def spaceName (r : Rule) : String :=
  match r.space with
  | some ns => if ns.isEmpty then defaultSpace else ns
  | none => defaultSpace

/-- Add a pattern for a label. -/
def withLabel (r : Rule) (key pattern : String) : Rule :=
  { r with labels := r.labels.insert key pattern }

/-- Add a pattern for an annotation. -/
def withAnnotation (r : Rule) (key pattern : String) : Rule :=
  { r with annotations := r.annotations.insert key pattern }

/-! ## Writing -/

/-- A field for a text that may be absent. -/
def textField (name : String) : Option String → List (String × Json)
  | some s => [(name, .str s)]
  | none => []

/-- A field for a map, left out when it is empty. -/
def mapField (name : String) (m : KeyMap String String) : List (String × Json) :=
  if m.isEmpty then [] else [(name, .ofTexts m)]

/-- The rule as a value, its fields in the order in which they are written. -/
def toJson (r : Rule) : Json :=
  .obj ([("metadata", .obj ([("name", .str r.name)] ++ textField "namespace" r.space
      ++ textField "resourceVersion" r.resourceVersion))]
    ++ mapField "labels" r.labels ++ mapField "annotations" r.annotations
    ++ (match r.delimiters with
      | some d => [("delimiters", d.toJson)]
      | none => [])
    ++ [r.action.field])

/-- The compact text of the rule. -/
def text (r : Rule) : String := r.toJson.compress

/-! ## Versions -/

/-- The version of the rule: the one that came with it, or else the digest of its text. -/
def version (r : Rule) : String :=
  match r.resourceVersion with
  | some v => v
  | none => Sha1.hex r.text

/-! ## Reading -/

/-- The fields of a rule as they have been read so far. -/
structure Draft where
  metadata : Option (String × Option String × Option String) := none
  labels : KeyMap String String := ∅
  annotations : KeyMap String String := ∅
  delimiters : Option Delimiters := none
  awxJob : Option AwxJob := none
  batchJob : Option Kubernetes.Job := none

/-- Read the name, the namespace and the version of a rule. -/
def readMetadata (d : Document) : Except ReadError (String × Option String × Option String) := do
  let ((name, space, version), _) ← d.record ["name", "namespace", "resourceVersion"]
    ((none, none, none) : Option String × Option String × Option String)
    fun (n, s, v) field d =>
      match field with
      | "name" => do .ok (some (← d.text), s, v)
      | "namespace" => do .ok (n, ← d.optional Document.text, v)
      | _ => do .ok (n, s, ← d.optional Document.text)
  .ok (← Document.required name, space, version)

/-- Read one field of a rule. -/
def readField (r : Draft) (name : String) (d : Document) : Except ReadError Draft :=
  match name with
  | "metadata" => do .ok { r with metadata := some (← readMetadata d) }
  | "labels" => do .ok { r with labels := ← d.mapOf Document.text }
  | "annotations" => do .ok { r with annotations := ← d.mapOf Document.text }
  | "delimiters" => do .ok { r with delimiters := ← d.optional Delimiters.read }
  | "awxJob" => do .ok { r with awxJob := ← d.optional AwxJob.read }
  | _ => do .ok { r with batchJob := ← d.optional Kubernetes.Job.read }

/-- What is said about a rule with two actions. -/
def bothActions (name : String) : String :=
  "rule '" ++ name ++ "' has both an AWX job and a batch job action, only one is allowed"

/-- What is said about a rule without an action. -/
def noAction (name : String) : String :=
  "rule '" ++ name ++ "' has no action, it needs an AWX job or a batch job"

/-- The one action of a rule. -/
def Draft.action (r : Draft) (name : String) : Except ReadError Action :=
  match r.awxJob, r.batchJob with
  | some job, none => .ok (.awx job)
  | none, some job => .ok (.batch job)
  | some _, some _ => .error (.wrongData (some (bothActions name)))
  | none, none => .error (.wrongData (some (noAction name)))

/-- Read a rule. -/
def read (d : Document) : Except ReadError Rule := do
  let (r, _) ← d.record
    ["metadata", "labels", "annotations", "delimiters", "awxJob", "batchJob"] ({} : Draft) readField
  let (name, space, resourceVersion) ← Document.required r.metadata
  let action ← r.action name
  .ok {
    name, space, resourceVersion, labels := r.labels, annotations := r.annotations,
    delimiters := r.delimiters, action }

end Rule

end Healing
