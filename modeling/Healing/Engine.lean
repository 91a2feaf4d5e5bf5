/-
  Healing alerts.

  For a firing alert every rule that it activates is run: the action of the rule is expanded about
  the alert, counted as requested, and dispatched unless an equal action was dispatched a short time
  ago.  What goes wrong with one rule is no concern of the others.

  1. **Surroundings** - `Surroundings`: patterns and runners; a runner may answer differently each
     time it is called, and may take its time.
  2. **State** - `Engine`, with the time that it has reached.
  3. **Outcomes** - `RuleOutcome`, `AlertReport`.
  4. **Dispatch** - `Engine.dispatch` hands an action to its runner.
  5. **Rules** - `Engine.attempt` dispatches an action and remembers it, `Engine.runAction` does so
     unless it is remembered already, and `Engine.runRule` expands it before.
  6. **Alerts** - `Engine.process`.
-/
import Healing.ActiveJobs
import Healing.Matching
import Healing.Memory
import Healing.RuleStore

namespace Healing

/-! ## Surroundings -/

/-- A call of a runner, with its answer. -/
inductive RunnerCall where
  | launched (job : AwxJob) (alert : Alert) (answer : Except RunnerError JobId)
  | created (job : Kubernetes.Job) (answer : Except RunnerError BatchOutcome)

/-- What the engine calls on.  The answer of a runner may depend on all calls before it, the latest
    of which is the first in the list. -/
structure Surroundings where
  language : PatternLanguage
  launch : List RunnerCall → AwxJob → Alert → Except RunnerError JobId
  create : List RunnerCall → Kubernetes.Job → Except RunnerError BatchOutcome
  /-- How many nanoseconds pass until the latest of some calls is answered. -/
  delay : List RunnerCall → Nat := fun _ => 0

/-! ## State -/

/-- The state of healing. -/
structure Engine where
  rules : RuleStore := ∅
  /-- The actions that have been dispatched a short time ago. -/
  memory : Memory Action
  /-- The jobs that are running. -/
  active : ActiveJobs := ∅
  metrics : Metrics := {}
  /-- The calls of runners, the latest first. -/
  calls : List RunnerCall := []
  /-- The time that it has become, in nanoseconds. -/
  clock : Nat := 0

/-- An engine that lets equal actions pass only once in some nanoseconds. -/
def Engine.start (throttle : Nat) : Engine := { memory := { duration := throttle } }

/-- Let time pass up to some point, unless that has passed already. -/
def Engine.reach (e : Engine) (now : Nat) : Engine := { e with clock := max e.clock now }

/-! ## Outcomes -/

/-- What has become of an activated rule. -/
inductive RuleOutcome where
  | dispatched
  /-- An equal action was dispatched a short time ago. -/
  | throttled
  | expansionFailed (cause : ExpansionError)
  | dispatchFailed (cause : RunnerError)
deriving DecidableEq, Repr, Inhabited

/-- The text of an outcome. -/
def RuleOutcome.text : RuleOutcome → String
  | .dispatched => "dispatched"
  | .throttled => "throttled"
  | .expansionFailed cause => "expansion failed: " ++ cause.message
  | .dispatchFailed cause => "dispatch failed: " ++ cause.message

/-- An activated rule and what has become of it. -/
structure RuleReport where
  rule : String
  outcome : RuleOutcome
deriving DecidableEq, Repr, Inhabited

/-- What has become of an alert. -/
structure AlertReport where
  alert : String
  status : AlertStatus
  /-- The activated rules in the order in which they were run. -/
  rules : List RuleReport := []
deriving DecidableEq, Repr, Inhabited

/-- The number of actions that were dispatched. -/
def AlertReport.dispatched (r : AlertReport) : Nat :=
  r.rules.countP fun rule => rule.outcome == .dispatched

namespace Engine

/-! ## Dispatch -/

/-- Take note of a call that has been answered. -/
def answered (e : Engine) (s : Surroundings) (call : RunnerCall) : Engine :=
  { e with calls := call :: e.calls, clock := e.clock + s.delay (call :: e.calls) }

/-- Launch a job of AWX; a job that runs is counted and tracked. -/
def launchJob (e : Engine) (s : Surroundings) (rule : Rule) (job : AwxJob) (alert : Alert) :
    Except RunnerError Unit × Engine :=
  let answer := s.launch e.calls job alert
  let e := e.answered s (.launched job alert answer)
  match answer with
  | .ok id =>
    (.ok (), { e with
      metrics := e.metrics.started ActionKind.awx.word job.template rule.name
      active := e.active.insert id ⟨rule.name, job.template⟩ })
  | .error cause => (.error cause, e)

/-- Create a batch job; a job that exists already is as good, but is not counted. -/
def createJob (e : Engine) (s : Surroundings) (rule : Rule) (job : Kubernetes.Job) :
    Except RunnerError Unit × Engine :=
  match rule.prepare job with
  | .error cause => (.error cause, e)
  | .ok ready =>
    let answer := s.create e.calls ready
    let e := e.answered s (.created ready answer)
    match answer with
    | .ok .created =>
      (.ok (), { e with metrics := e.metrics.started ActionKind.batch.word job.name rule.name })
    | .ok .alreadyExists => (.ok (), e)
    | .error cause => (.error cause, e)

/-- Hand an action to its runner. -/
def dispatch (e : Engine) (s : Surroundings) (rule : Rule) (action : Action) (alert : Alert) :
    Except RunnerError Unit × Engine :=
  match action with
  | .awx job => e.launchJob s rule job alert
  | .batch job => e.createJob s rule job

/-! ## Rules -/

/-- The action of a rule, expanded about an alert. -/
def expandAction (rule : Rule) (alert : Alert) : Except ExpansionError Action := do
  let binding ← (Expander.forAlerts rule.delimiters).bind alert.toJson
  let w := rule.action.expand binding.render
  match w.stopped with
  | some cause => .error cause
  | none => .ok w.value

/-- Dispatch an action and remember it.  It is remembered even if it cannot be dispatched, so that a
    broken action is not tried over and over. -/
def attempt (e : Engine) (s : Surroundings) (rule : Rule) (action : Action) (alert : Alert) :
    RuleOutcome × Engine :=
  let (result, e) := e.dispatch s rule action alert
  let e := { e with memory := e.memory.add e.clock action }
  match result with
  | .ok () => (.dispatched, e)
  | .error cause =>
    (.dispatchFailed cause,
      { e with metrics := e.metrics.failed action.kind.word action.target rule.name })

/-- Take note that a rule asks for an action for an alert. -/
def request (e : Engine) (rule : Rule) (action : Action) (alert : Alert) : Engine :=
  { e with
    metrics := e.metrics.requested action.kind.word rule.name alert.name
    memory := e.memory.asked e.clock }

/-- Run the action of a rule for an alert, unless an equal one is remembered. -/
def runAction (e : Engine) (s : Surroundings) (rule : Rule) (action : Action) (alert : Alert) :
    RuleOutcome × Engine :=
  let e := e.request rule action alert
  if e.memory.has e.clock action then (.throttled, e) else e.attempt s rule action alert

/-- Run a rule for an alert. -/
def runRule (e : Engine) (s : Surroundings) (alert : Alert) (rule : Rule) : RuleOutcome × Engine :=
  match expandAction rule alert with
  | .error cause => (.expansionFailed cause, e)
  | .ok action => e.runAction s rule action alert

/-- Run rules one after the other. -/
def runRules (s : Surroundings) (alert : Alert) : Engine → List Rule → List RuleReport × Engine
  | e, [] => ([], e)
  | e, rule :: r =>
    let (outcome, e) := e.runRule s alert rule
    let (reports, e) := runRules s alert e r
    (⟨rule.name, outcome⟩ :: reports, e)

/-! ## Alerts -/

/-- Whether an alert activates a rule; a rule with a pattern that is not valid is never
    activated. -/
def activates (language : PatternLanguage) (alert : Alert) (rule : Rule) : Bool :=
  match rule.matches language alert with
  | .ok b => b
  | .error _ => false

/-- Process an alert with the given rules; an alert that is not firing is left alone. -/
def processWith (e : Engine) (s : Surroundings) (alert : Alert) (rules : List Rule) :
    AlertReport × Engine :=
  let report : AlertReport := { alert := alert.name, status := alert.status }
  match alert.status with
  | .firing =>
    let (reports, e) := runRules s alert e (rules.filter (activates s.language alert))
    ({ report with rules := reports }, e)
  | _ => (report, e)

/-- Process an alert with the rules in force. -/
def process (e : Engine) (s : Surroundings) (now : Nat) (alert : Alert) : AlertReport × Engine :=
  (e.reach now).processWith s alert e.rules.snapshot

/-- Ask for the running jobs, and retire those that have ended. -/
def pollJobs (e : Engine) (source : StatusSource) : Poll × Engine :=
  let done := poll source e.active e.metrics
  (done, { e with active := done.active, metrics := done.metrics })

end Engine

end Healing
