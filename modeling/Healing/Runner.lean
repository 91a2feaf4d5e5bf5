/-
  What runs actions.

  AWX launches job templates and tells how its jobs are doing; Kubernetes creates batch jobs.  Both
  are known here by their answers only.

  1. **Failures** - `RunnerError` and its message.
  2. **Jobs of AWX** - `JobId` and `JobStatus`.
  3. **Batch jobs** - `BatchOutcome`; `Rule.prepare` makes a job ready to be created.
-/
import Healing.Rule

namespace Healing

/-! ## Failures -/

/-- Why an action cannot be run or a job cannot be looked up. -/
inductive RunnerError where
  /-- What runs such actions has not been set up. -/
  | notConfigured (runner : String)
  /-- The project has no such job template. -/
  | templateNotFound (template project : String)
  /-- The batch job of a rule has no name. -/
  | missingJobName (rule : String)
  /-- A request could not be made, or its answer could not be read. -/
  | transport
  /-- A request was refused. -/
  | refused (status : Nat) (body : String)
  /-- A value could not be read or written. -/
  | conversion
  /-- Kubernetes could not be reached or has refused. -/
  | cluster
deriving DecidableEq, Repr, Inhabited

/-- The message of a failure. -/
def RunnerError.message : RunnerError → String
  | .notConfigured runner => runner ++ " is not configured"
  | .templateNotFound template project =>
    "template '" ++ template ++ "' not found in project '" ++ project ++ "'"
  | .missingJobName rule =>
    "can't create job for rule '" ++ rule ++ "', the name hasn't been specified"
  | .transport => "HTTP request failed"
  | .refused status body => "AWX API returned " ++ toString status ++ ": " ++ body
  | .conversion => "JSON conversion failed"
  | .cluster => "Kubernetes API request failed"

/-! ## Jobs of AWX -/

/-- The number of a job of AWX. -/
abbrev JobId := Int

/-- How a job of AWX is doing. -/
inductive JobStatus where
  | new
  | pending
  | waiting
  | running
  | successful
  | failed
  | error
  | canceled
  /-- Anything else that AWX reports. -/
  | unknown
deriving DecidableEq, Repr, Inhabited

namespace JobStatus

/-- The word for a status. -/
def word : JobStatus → String
  | .new => "new"
  | .pending => "pending"
  | .waiting => "waiting"
  | .running => "running"
  | .successful => "successful"
  | .failed => "failed"
  | .error => "error"
  | .canceled => "canceled"
  | .unknown => "unknown"

/-- The status that a word stands for; one of them has two spellings. -/
def ofWord : String → JobStatus
  | "new" => .new
  | "pending" => .pending
  | "waiting" => .waiting
  | "running" => .running
  | "successful" => .successful
  | "failed" => .failed
  | "error" => .error
  | "canceled" => .canceled
  | "cancelled" => .canceled
  | _ => .unknown

/-- Whether the job has come to its end. -/
def isFinished : JobStatus → Bool
  | .successful | .failed | .error | .canceled => true
  | _ => false

/-- Read a status. -/
def read (d : Document) : Except ReadError JobStatus := ofWord <$> d.variant

end JobStatus

/-! ## Batch jobs -/

/-- What comes of creating a batch job. -/
inductive BatchOutcome where
  | created
  /-- There is a job of that name. -/
  | alreadyExists
deriving DecidableEq, Repr, Inhabited

/-- Make the job of a rule ready to be created: it has to have a name, and it gets the namespace of
    the rule if it has none of its own. -/
def Rule.prepare (r : Rule) (job : Kubernetes.Job) : Except RunnerError Kubernetes.Job :=
  if job.name.isEmpty then .error (.missingJobName r.name)
  else if job.namespaceName.isEmpty then .ok (job.withNamespace r.spaceName)
  else .ok job

end Healing
