/-
  The jobs of AWX that are running.

  Every job that is launched is tracked until AWX reports that it has come to its end.

  1. **Tracking** - `ActiveJobs`, by the numbers of the jobs.
  2. **Polling** - `poll` asks for every job and retires those that have ended.
  3. **Polling in intervals** - `Poller`.
-/
import Healing.Metrics
import Healing.Runner

namespace Healing

/-! ## Tracking -/

/-- The rule that launched a job, and the job template. -/
structure ActiveJob where
  rule : String
  template : String
deriving DecidableEq, Repr, Inhabited

/-- The jobs that are running. -/
abbrev ActiveJobs := KeyMap JobId ActiveJob

/-! ## Polling -/

/-- How the status of a job is found out. -/
abbrev StatusSource := JobId → Except RunnerError JobStatus

/-- Whether AWX reports that a job has come to its end. -/
def StatusSource.reportsEnd (source : StatusSource) (id : JobId) : Bool :=
  match source id with
  | .ok status => status.isFinished
  | .error _ => false

/-- Stop tracking a job that has ended, and count it. -/
def retire (state : ActiveJobs × Metrics) (id : JobId) : ActiveJobs × Metrics :=
  match state.1.get? id with
  | some job =>
    (state.1.erase id, state.2.completed ActionKind.awx.word job.template job.rule)
  | none => state

/-- What a poll has done: the jobs it asked for, and those that have ended, both in order. -/
structure Poll where
  queried : List JobId
  retired : List JobId
  active : ActiveJobs
  metrics : Metrics
deriving Inhabited

/-- Ask for every job once, then retire those that have ended. -/
def poll (source : StatusSource) (active : ActiveJobs) (metrics : Metrics) : Poll :=
  let queried := active.keys
  let retired := queried.filter source.reportsEnd
  let after := retired.foldl retire (active, metrics)
  ⟨queried, retired, after.1, after.2⟩

/-! ## Polling in intervals -/

/-- The shortest interval between two polls, in nanoseconds. -/
def minPollInterval : Nat := 1_000_000_000

/-- A poller that polls at once and then in intervals, until it is stopped. -/
structure Poller where
  /-- The interval, in nanoseconds. -/
  interval : Nat
  /-- When it polls next. -/
  next : Nat := 0
  stopped : Bool := false
  active : ActiveJobs := ∅
  metrics : Metrics := {}
deriving Inhabited

namespace Poller

/-- A poller with the given interval, or the shortest one. -/
def start (interval : Nat) (active : ActiveJobs) : Poller :=
  { interval := max interval minPollInterval, active }

/-- Poll so many times, and give the jobs that were asked for. -/
def pollTimes (source : StatusSource) : Nat → Poller → List JobId → Poller × List JobId
  | 0, p, queried => (p, queried)
  | times + 1, p, queried =>
    let done := poll source p.active p.metrics
    pollTimes source times
      { p with next := p.next + p.interval, active := done.active, metrics := done.metrics }
      (queried ++ done.queried)

/-- The number of polls that are due up to some time. -/
def dueBy (p : Poller) (time : Nat) : Nat :=
  if p.stopped || time < p.next then 0 else (time - p.next) / p.interval + 1

/-- Let time pass up to some point, and give the jobs that were asked for. -/
def runUntil (p : Poller) (source : StatusSource) (time : Nat) : Poller × List JobId :=
  pollTimes source (p.dueBy time) p []

/-- Stop polling. -/
def stop (p : Poller) : Poller := { p with stopped := true }

end Poller

end Healing
