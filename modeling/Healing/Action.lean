/-
  What a rule does when it is activated.

  1. **Actions** - `AwxJob` launches a job template of AWX, `Kubernetes.Job` creates a batch job.
  2. **Names** - `Action.kind` and `Action.target`, under which actions are counted.
  3. **JSON form** - `toJson` and `read`.
  4. **Expansion** - `Action.expand` expands the texts of an action in order.
-/
import Healing.Kubernetes.Job

namespace Healing

/-! ## Actions -/

/-- How to launch a job template of AWX. -/
structure AwxJob where
  /-- The name of the job template. -/
  template : String
  /-- The variables that are passed to the job. -/
  extraVars : Json := .null
  /-- The pattern of the hosts that the job is limited to. -/
  limit : Option String := none
deriving BEq, Repr, Inhabited

/-- What a rule does. -/
inductive Action where
  | awx (job : AwxJob)
  | batch (job : Kubernetes.Job)
deriving BEq, Inhabited

/-! ## Names -/

/-- The kinds of actions. -/
inductive ActionKind where
  | awx
  | batch
deriving DecidableEq, Repr, Inhabited

/-- The word for a kind. -/
def ActionKind.word : ActionKind → String
  | .awx => "AWXJob"
  | .batch => "BatchJob"

namespace Action

/-- The kind of an action. -/
def kind : Action → ActionKind
  | .awx _ => .awx
  | .batch _ => .batch

/-- The name of the job template or of the batch job. -/
def target : Action → String
  | .awx job => job.template
  | .batch job => job.name

end Action

/-! ## JSON form -/

/-- The fields of an AWX job in the order in which they are written; variables that are null and an
    absent limit are left out. -/
def AwxJob.toJson (j : AwxJob) : Json :=
  .obj ([("template", .str j.template)]
    ++ (match j.extraVars with
      | .null => []
      | vars => [("extraVars", vars)])
    ++ (match j.limit with
      | some limit => [("limit", .str limit)]
      | none => []))

/-- Read an AWX job. -/
def AwxJob.read (d : Document) : Except ReadError AwxJob := do
  let ((template, job), _) ← d.record ["template", "extraVars", "limit"]
    ((none, { template := "" }) : Option String × AwxJob) fun (template, job) name d =>
      match name with
      | "template" => do .ok (some (← d.text), job)
      | "extraVars" => do .ok (template, { job with extraVars := ← d.value })
      | _ => do .ok (template, { job with limit := ← d.optional Document.text })
  .ok { job with template := ← Document.required template }

/-- The field of a rule that holds an action. -/
def Action.field : Action → String × Json
  | .awx job => ("awxJob", job.toJson)
  | .batch job => ("batchJob", job.toJson)

/-- Read an action given alone, as the only field of a map. -/
def Action.read (d : Document) : Except ReadError Action :=
  match d with
  | .map [(k, v)] none => do
    let name ← k.text
    if name = "awxJob" then .awx <$> AwxJob.read v
    else if name = "batchJob" then .batch <$> Kubernetes.Job.read v
    else .error .mismatch
  | d => .error d.unexpected

/-! ## Expansion -/

/-- Expand the template, the variables and the limit of an AWX job, in this order. -/
def AwxJob.expand (render : String → Except ExpansionError String) (j : AwxJob) :
    Walk ExpansionError AwxJob :=
  match Walk.ofText render j.template with
  | ⟨template, some e⟩ => ⟨{ j with template }, some e⟩
  | ⟨template, none⟩ =>
    match j.extraVars.expand render with
    | ⟨extraVars, some e⟩ => ⟨{ j with template, extraVars }, some e⟩
    | ⟨extraVars, none⟩ =>
      (expandOption (Walk.ofText render) j.limit).map fun limit => ⟨template, extraVars, limit⟩

/-- Expand the texts of an action. -/
def Action.expand (render : String → Except ExpansionError String) :
    Action → Walk ExpansionError Action
  | .awx job => (job.expand render).map .awx
  | .batch job => (job.expand render).map .batch

end Healing
