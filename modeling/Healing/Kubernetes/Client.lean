/-
  A client of Kubernetes.

  Kubernetes is asked to create jobs and to look up secrets.

  1. **Requests** - `Request`; `createRequest?` and `secretRequest?`.
  2. **Refusals** - `Refusal`: a refused request comes back with a code and a reason.
  3. **Answers** - `readObject` reads an object or a refusal.
  4. **Jobs** - `createOutcome`; a job that exists already is no failure.
  5. **Secrets** - `secretOutcome`; a secret that does not exist is no failure.
  6. **Sessions** - `Transport`, `createJob` and `findSecret`.
-/
import Healing.Kubernetes.Secret
import Healing.Json.Reader
import Healing.Runner
import Healing.Web.Exchange

namespace Healing.Kubernetes

/-! ## Requests -/

/-- A request: one that carries an object creates it, any other looks. -/
structure Request where
  path : String
  body : Option Json := none
deriving Inhabited

/-- The word for what a request does. -/
def Request.method (r : Request) : String := if r.body.isSome then "POST" else "GET"

/-- Whether a character can stand in a path. -/
def isPathChar (c : Char) : Bool := c > ' ' && !"<>`".contains c

/-- A request, if its path can be requested. -/
def request? (path : String) (body : Option Json) : Option Request :=
  if path.toList.all isPathChar then some { path := Web.pathOf path, body } else none

/-- The path of the objects of a kind in a namespace. -/
def collectionPath (interface ns plural : String) : String :=
  interface ++ "/namespaces/" ++ ns ++ "/" ++ plural

/-- The request to create a job. -/
def createRequest? (job : Job) : Option Request :=
  let ns := ((job.metadata.get? "namespace").bind Json.text?).getD Rule.defaultSpace
  request? (collectionPath "/apis/batch/v1" ns "jobs") (some job.toJson)

/-- The request for a secret, which has to have a name. -/
def secretRequest? (ns name : String) : Option Request :=
  if name.isEmpty then none
  else request? (collectionPath "/api/v1" ns "secrets" ++ "/" ++ name) none

/-! ## Refusals -/

/-- Why Kubernetes refuses a request. -/
structure Refusal where
  code : Nat
  reason : String := ""
deriving DecidableEq, Repr, Inhabited

/-- Read a refusal, which has to have a status and a code. -/
def Refusal.read (d : Document) : Except ReadError Refusal := do
  let ((status, code, reason), _) ← d.record ["status", "message", "reason", "code"]
    ((none, none, "") : Option String × Option Int × String) fun (status, code, reason) field d =>
      match field with
      | "status" => do .ok (some (← d.text), code, reason)
      | "code" => do .ok (status, some (← d.whole 0 65_535), reason)
      | "reason" => do .ok (status, code, ← d.text)
      | _ => do
        let _ ← d.text
        .ok (status, code, reason)
  let _ ← Document.required status
  .ok { code := (← Document.required code).toNat, reason }

/-- The refusal in a response; where it is not told, it has the code of the response. -/
def refusalOf (r : Web.Response) : Refusal :=
  (Json.decode Refusal.read r.body).toOption.getD { code := r.status }

/-! ## Answers -/

/-- Why there is no object in a response. -/
inductive AnswerFault where
  | refused (refusal : Refusal)
  /-- It is not the object that is wanted. -/
  | unreadable
deriving DecidableEq, Repr, Inhabited

/-- The object in a response. -/
def readObject {α : Type} (read : Document → Except ReadError α) (r : Web.Response) :
    Except AnswerFault α :=
  if r.isRefusal then .error (.refused (refusalOf r))
  else (Json.decode read r.body).mapError fun _ => .unreadable

/-! ## Jobs -/

/-- The code of a refusal to create what exists already. -/
def conflictCode : Nat := 409

/-- What has come of creating a job. -/
def createOutcome (r : Web.Response) : Except RunnerError BatchOutcome :=
  match readObject Job.read r with
  | .ok _ => .ok .created
  | .error (.refused refusal) =>
    if refusal.code = conflictCode then .ok .alreadyExists else .error .cluster
  | .error .unreadable => .error .cluster

/-! ## Secrets -/

/-- The reason for a refusal to show what does not exist. -/
def missingReason : String := "NotFound"

/-- The secret in a response, if it exists. -/
def secretOutcome (r : Web.Response) : Except RunnerError (Option Secret) :=
  match readObject Secret.read r with
  | .ok secret => .ok (some secret)
  | .error (.refused refusal) =>
    if refusal.reason = missingReason then .ok none else .error .cluster
  | .error .unreadable => .error .cluster

/-! ## Sessions -/

/-- How requests are delivered: there may be no response. -/
abbrev Transport := Request → Option Web.Response

/-- Make a request, if it can be made, and take what has come of it. -/
def perform {α : Type} (t : Transport) (request : Option Request)
    (outcome : Web.Response → Except RunnerError α) : Except RunnerError α :=
  match request.bind t with
  | some response => outcome response
  | none => .error .cluster

/-- Create a job. -/
def createJob (t : Transport) (job : Job) : Except RunnerError BatchOutcome :=
  perform t (createRequest? job) createOutcome

/-- Look up a secret. -/
def findSecret (t : Transport) (ns name : String) : Except RunnerError (Option Secret) :=
  perform t (secretRequest? ns name) secretOutcome

end Healing.Kubernetes
