/-
  The service: a server that queues alerts, and two workers.

  One worker takes changes of rules from their queue and applies them, the other takes alerts and
  heals them.  When the service is shut down, the workers finish what is in their queues.

  1. **State** - `Service`, and `Service.start` with the rules of the settings; `ServiceError`.
  2. **Work** - `Service.takeChange`, `Service.takeAlert`, and `Service.work` until both queues are
     empty; `Service.reload` queues what has changed in the files.
  3. **Requests** - `Service.answer`, by path and method.
  4. **Running** - `Service.run` from the start to the shutdown.
-/
import Healing.Engine
import Healing.Reload
import Healing.Service.Delivery

namespace Healing

/-! ## State -/

/-- The state of the service. -/
structure Service where
  alerts : WorkQueue Alert := {}
  changes : WorkQueue RuleChange := {}
  engine : Engine

/-- Why the service cannot run. -/
inductive ServiceError where
  /-- Something else listens on the address. -/
  | occupied (address : String)
deriving DecidableEq, Repr, Inhabited

/-- The message of an error. -/
def ServiceError.message : ServiceError → String
  | .occupied address => "Failed to bind to " ++ address

namespace Service

/-- A service whose rules are on their way to the engine. -/
def start (throttle : Nat) (rules : List Rule) : Service where
  changes := (rules.map fun r => (⟨.added, r⟩ : RuleChange)).foldl WorkQueue.add {}
  engine := .start throttle

/-- Take no more alerts and changes. -/
def shutDown (s : Service) : Service :=
  { s with alerts := s.alerts.shutDown, changes := s.changes.shutDown }

/-! ## Work -/

/-- Apply the next change, if there is one. -/
def takeChange (s : Service) : Service :=
  match s.changes.get with
  | (.item change, changes) =>
    { s with changes, engine := { s.engine with rules := s.engine.rules.apply change.item } }
  | _ => s

/-- Process the next alert, if there is one. -/
def takeAlert (around : Surroundings) (now : Nat) (s : Service) : Service :=
  match s.alerts.get with
  | (.item alert, alerts) =>
    { s with alerts, engine := (s.engine.process around now alert.item).2 }
  | _ => s

/-- Apply all changes in the queue. -/
def takeChanges (s : Service) : Service := s.changes.size.repeat takeChange s

/-- Work until both queues are empty, the changes first. -/
def work (around : Surroundings) (now : Nat) (s : Service) : Service :=
  let s := s.takeChanges
  s.alerts.size.repeat (takeAlert around now) s

/-- Let a watcher take over the outcome of reading the files; the queue of its changes is the one of
    the service. -/
def reload (s : Service) (w : Watcher) (loaded : Except SettingsError Settings) :
    Watcher × Service :=
  let (_, w) := { w with changes := s.changes }.reload loaded
  (w, { s with changes := w.changes })

/-! ## Requests -/

/-- The version of the service. -/
def version : String := "0.3.0"

/-- What the service says about itself. -/
def health : Json := .obj [("status", .str "healthy"), ("version", .str version)]

/-- The response to a request that only looks. -/
def look (method : String) (page : Web.Response) : Web.Response :=
  if method = "GET" then page else if method = "HEAD" then page.head else .bare 405

/-- Take a delivery of alerts. -/
def deliver (s : Service) (r : Web.Request) : Web.Response × Service :=
  match Delivery.ofRequest r with
  | .error status => (.bare status, s)
  | .ok d =>
    let (d, alerts) := d.run s.alerts
    (d.response, { s with alerts })

/-- Answer a request. -/
def answer (s : Service) (r : Web.Request) : Web.Response × Service :=
  match Web.pathOf r.target with
  | "/alerts" => if r.method = "POST" then s.deliver r else (.bare 405, s)
  | "/health" => (look r.method (.json 200 health), s)
  | "/metrics" =>
    (look r.method
      ⟨200, some "text/plain; version=0.0.4", s.engine.metrics.render⟩, s)
  | _ => (.bare 404, s)

/-! ## Running -/

/-- Answer requests one after the other; the workers keep up with them. -/
def serve (around : Surroundings) (now : Nat) :
    Service → List Web.Request → List Web.Response × Service
  | s, [] => ([], s)
  | s, r :: rs =>
    let (response, s) := s.answer r
    let (responses, s) := serve around now (s.work around now) rs
    (response :: responses, s)

/-- Run a service with some settings on an address: answer requests for as long as there are any,
    and shut down.  If the address is not free, no request is answered, but the shutdown is the
    same. -/
def run (settings : Settings) (address : String) (isFree : Bool) (around : Surroundings) (now : Nat)
    (requests : List Web.Request) : Except ServiceError (List Web.Response) × Service :=
  let s := (start settings.throttling settings.rules).work around now
  let (outcome, s) :=
    if isFree then
      let (responses, s) := s.serve around now requests
      (.ok responses, s)
    else (.error (.occupied address), s)
  (outcome, s.shutDown.work around now)

end Service

end Healing
