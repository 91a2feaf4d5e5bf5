/-
  A client of AWX.

  AWX is asked for three things: to look up a job template by its project and its name, to launch a
  job from a template, and to tell the status of a job.

  1. **Calls** - `Call`, what AWX is asked for.
  2. **Requests** - `Client.request` puts a call into a request.
  3. **Sessions** - `Transport` and `Session`; `Client.send` sends a request and reads the answer.
  4. **Answers** - the records that AWX answers with.
  5. **Launching** - `launchBody` and `Client.launch`.
  6. **Statuses** - `Client.status`.
  7. **Setting up** - `Client.ofSettings`.
-/
import Healing.Alert
import Healing.Base64
import Healing.Json.Reader
import Healing.Runner
import Healing.Settings
import Healing.Web.Certificate
import Healing.Web.Exchange
import Healing.Web.Form
import Healing.Web.Url

namespace Healing.Awx

/-! ## Calls -/

/-- What AWX can be asked for. -/
inductive Call where
  /-- The job templates of a project that have a name. -/
  | lookUp (project template : String)
  /-- A job of the template with a number. -/
  | launch (template : Int) (body : Json)
  | status (job : JobId)

/-! ## Requests -/

/-- The kinds of requests. -/
inductive Method where
  | get
  | post
deriving DecidableEq, Repr, Inhabited

/-- A request. -/
structure Request where
  method : Method
  url : String
  authorization : Option String
  /-- What the request carries. -/
  body : Option Json := none
deriving Inhabited

/-- Who asks, and where. -/
structure Client where
  /-- The address that all paths start with. -/
  root : String
  username : String
  password : String
  project : String
deriving DecidableEq, Repr, Inhabited

/-- The root of the interface at an address. -/
def rootOf (address : String) : String :=
  let base := String.ofList (address.toList.reverse.dropWhile (· = '/')).reverse
  if base.endsWith "/api" then base else base ++ "/api"

namespace Client

/-- The header that says who asks; nobody has to say so without a user name. -/
def authorization (c : Client) : Option String :=
  if c.username.isEmpty then none
  else
    let credentials := c.username ++ ":" ++ c.password
    some ("Basic " ++ String.ofList (Base64.encode credentials.toUTF8.toList))

/-- The request for a call. -/
def request (c : Client) : Call → Request
  | .lookUp project template => {
      method := .get
      url := c.root ++ "/v2/job_templates/?"
        ++ Web.encodeForm [("project__name", project), ("name", template)]
      authorization := c.authorization }
  | .launch template body => {
      method := .post
      url := c.root ++ "/v2/job_templates/" ++ toString template ++ "/launch/"
      authorization := c.authorization
      body := some body }
  | .status job => {
      method := .get
      url := c.root ++ "/v2/jobs/" ++ toString job ++ "/"
      authorization := c.authorization }

end Client

/-! ## Sessions -/

/-- What becomes of a request. -/
inductive Delivered where
  | response (r : Web.Response)
  /-- The request has gone out, but there is no response. -/
  | lost
  /-- The request could not be sent. -/
  | unsent
deriving Inhabited

/-- How requests are delivered.  What becomes of one may depend on those before it, the latest of
    which is the first in the list. -/
abbrev Transport := List Request → Request → Delivered

/-- A step that may fail and may send requests; those that have gone out are kept, the latest
    first. -/
abbrev Session (α : Type) := ExceptT RunnerError (StateM (List Request)) α

/-- What a response says, if it says what is wanted. -/
def readResponse {α : Type} (read : Document → Except ReadError α) (r : Web.Response) :
    Except RunnerError α :=
  if r.succeeded then (Json.decode read r.body).mapError fun _ => .transport
  else .error (.refused r.status r.body)

/-- Ask for something. -/
def Client.send {α : Type} (c : Client) (t : Transport) (call : Call)
    (read : Document → Except ReadError α) : Session α := do
  let before ← get
  let request := c.request call
  match t before request with
  | .response r =>
    set (request :: before)
    readResponse read r
  | .lost =>
    set (request :: before)
    throw .transport
  | .unsent => throw .transport

/-! ## Answers -/

/-- The numbers that AWX gives to things. -/
def readId (d : Document) : Except ReadError Int :=
  d.whole (-9_223_372_036_854_775_808) 9_223_372_036_854_775_807

/-- A job template that has been found. -/
structure Template where
  id : Int
  name : String := ""
deriving DecidableEq, Repr, Inhabited

/-- Read a job template. -/
def Template.read (d : Document) : Except ReadError Template := do
  let ((id, name), _) ← d.record ["id", "name"] ((none, "") : Option Int × String)
    fun (id, name) field d =>
      match field with
      | "id" => do .ok (some (← readId d), name)
      | _ => do .ok (id, ← d.text)
  .ok { id := ← Document.required id, name }

/-- Read the templates that have been found.  How many there are is also told, but does not
    matter. -/
def readTemplates (d : Document) : Except ReadError (List Template) := do
  let (found, _) ← d.record ["count", "results"] ([] : List Template) fun found field d =>
    match field with
    | "count" => do
      let _ ← d.whole 0 18_446_744_073_709_551_615
      .ok found
    | _ => d.listOf Template.read
  .ok found

/-- Read the number of a job that has been launched. -/
def readLaunched (d : Document) : Except ReadError JobId := do
  let (id, given) ← d.record ["job"] (none : Option Int) fun _ _ d => some <$> readId d
  given.covers 1
  Document.required id

/-- Read the status of a job, which comes with its number. -/
def readStatus (d : Document) : Except ReadError JobStatus := do
  let ((id, status), _) ← d.record ["id", "status"] ((none, none) : Option Int × Option JobStatus)
    fun (id, status) field d =>
      match field with
      | "id" => do .ok (some (← readId d), status)
      | _ => do .ok (id, some (← JobStatus.read d))
  let _ ← Document.required id
  Document.required status

/-! ## Launching -/

/-- The variables of a job: those of the action, if they are an object, and the alert. -/
def launchVariables (job : AwxJob) (alert : Alert) : Json :=
  match job.extraVars with
  | .obj fields => .obj (insertEntry "alert" alert.toJson fields)
  | _ => .obj [("alert", alert.toJson)]

/-- The body of the request to launch a job. -/
def launchBody (job : AwxJob) (alert : Alert) : Json :=
  .obj ([("extra_vars", launchVariables job alert)] ++ match job.limit with
    | some limit => if limit.isEmpty then [] else [("limit", .str limit)]
    | none => [])

namespace Client

/-- Find the job template of the project that has a name; of several the first. -/
def findTemplate (c : Client) (t : Transport) (name : String) : Session Template := do
  match ← c.send t (.lookUp c.project name) readTemplates with
  | template :: _ => pure template
  | [] => throw (.templateNotFound name c.project)

/-- Launch a job for an alert. -/
def launch (c : Client) (t : Transport) (job : AwxJob) (alert : Alert) : Session JobId := do
  let template ← c.findTemplate t job.template
  c.send t (.launch template.id (launchBody job alert)) readLaunched

/-! ## Statuses -/

/-- The status of a job. -/
def status (c : Client) (t : Transport) (job : JobId) : Session JobStatus :=
  c.send t (.status job) readStatus

/-! ## Setting up -/

/-- The client for some settings; a proxy and certificates that are given have to be valid. -/
def ofSettings (s : AwxSettings) : Except RunnerError Client :=
  let isValidProxy := s.proxy.all fun p => p.isEmpty || (Web.Url.ofProxy? p).isSome
  if isValidProxy && s.caCerts.all Web.isCertificateBundle then
    .ok ⟨rootOf s.address, s.username, s.password, s.project⟩
  else .error .transport

end Client

end Healing.Awx
