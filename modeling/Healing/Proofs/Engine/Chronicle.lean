/-
  Histories of an engine.

  A history tells what has happened to an engine: which rules were visited, with which engine, and
  when the running jobs were polled.  All that an engine has reported to the metrics can be read off
  its history, and so can the jobs that it tracks.

  1. **Attempts** - `Engine.attempt_books`: what an attempt calls, tracks and reports.
  2. **Visits** - `Visit.calls`, the calls of runners made by a visit, and `Visit.entries`, what it
     reports to the metrics; `Visit.books` says that this is all it does to them.
  3. **Histories** - `History`, and `Chronicle`, the runs of an engine with their polls.
  4. **Books** - the metrics are a summary of what a history reports (`Chronicle.metrics_eq`), and
     what was launched is tracked or retired (`Chronicle.tracked_add_retired`).
-/
import Healing.Proofs.ActiveJobs
import Healing.Proofs.Engine.Run

namespace Healing

open Metrics (Entry)

/-- Whether an action could not be dispatched. -/
def RuleOutcome.isDispatchFailure : RuleOutcome → Bool
  | .dispatchFailed _ => true
  | _ => false

/-- The report of a failure, if an outcome is one. -/
def RuleOutcome.failed? (outcome : RuleOutcome) (action : Action) (rule : String) : Option Entry :=
  if outcome.isDispatchFailure then some (.failed action.kind.word action.target rule) else none

/-! ## Attempts -/

/-- The report that a call of a runner gives rise to, if it has started something. -/
def RunnerCall.started? (rule : String) : RunnerCall → Option Entry
  | .launched job _ (.ok _) => some (.started ActionKind.awx.word job.template rule)
  | .created job (.ok .created) => some (.started ActionKind.batch.word job.name rule)
  | _ => none

/-- The job that is tracked after a call of a runner, if there is one. -/
def RunnerCall.tracked? (rule : String) : RunnerCall → Option (JobId × ActiveJob)
  | .launched job _ (.ok id) => some (id, ⟨rule, job.template⟩)
  | _ => none

/-- A job that has been made ready has kept its name. -/
theorem Rule.name_of_prepare {rule : Rule} {job ready : Kubernetes.Job}
    (h : rule.prepare job = .ok ready) : ready.name = job.name := by
  unfold Rule.prepare at h
  split at h
  · cases h
  · split at h
    · have hready := Except.ok.inj h
      subst hready
      unfold Kubernetes.Job.name Kubernetes.Job.metadataText Kubernetes.Job.withNamespace
      rw [KeyMap.get?_insert, if_neg (by decide)]
    · have hready := Except.ok.inj h
      rw [hready]

namespace Engine

section Attempts

variable (e : Engine) (s : Surroundings) (rule : Rule) (action : Action) (alert : Alert)

/-- **What an attempt does.**  It calls a runner once or not at all; the job that this has started
    is tracked and reported, and so is a failure. -/
theorem attempt_books :
    ∃ made : List RunnerCall, made.length ≤ 1 ∧
      (e.attempt s rule action alert).2.calls = made ++ e.calls ∧
      (e.attempt s rule action alert).2.active
        = (made.filterMap (RunnerCall.tracked? rule.name)).foldl
            (fun (m : ActiveJobs) entry => m.insert entry.1 entry.2) e.active ∧
      (e.attempt s rule action alert).2.metrics
        = (made.filterMap (RunnerCall.started? rule.name)
            ++ ((e.attempt s rule action alert).1.failed? action rule.name).toList).foldl
            Metrics.record e.metrics := by
  unfold attempt
  rcases dispatch_cases e s rule action alert with ⟨job, id, rfl, -, h⟩ | ⟨job, cause, rfl, -, h⟩ |
    ⟨job, cause, rfl, -, h⟩ | ⟨job, ready, rfl, hready, -, h⟩ | ⟨job, ready, rfl, -, -, h⟩ |
    ⟨job, ready, cause, rfl, -, -, h⟩
  · rw [h]
    exact ⟨[.launched job alert (.ok id)], Nat.le_refl 1, rfl, rfl, rfl⟩
  · rw [h]
    exact ⟨[.launched job alert (.error cause)], Nat.le_refl 1, rfl, rfl, rfl⟩
  · rw [h]
    exact ⟨[], Nat.zero_le 1, rfl, rfl, rfl⟩
  · rw [h]
    refine ⟨[.created ready (.ok .created)], Nat.le_refl 1, rfl, rfl, ?_⟩
    show e.metrics.started ActionKind.batch.word job.name rule.name
      = e.metrics.started ActionKind.batch.word ready.name rule.name
    rw [Rule.name_of_prepare hready]
  · rw [h]
    exact ⟨[.created ready (.ok .alreadyExists)], Nat.le_refl 1, rfl, rfl, rfl⟩
  · rw [h]
    exact ⟨[.created ready (.error cause)], Nat.le_refl 1, rfl, rfl, rfl⟩

end Attempts

end Engine

/-! ## Visits -/

namespace Visit

variable (s : Surroundings) (v : Visit)

/-- The calls of runners that a visit makes. -/
def calls : List RunnerCall :=
  (v.after s).calls.take ((v.after s).calls.length - v.engine.calls.length)

/-- What a visit reports to the metrics: the request, what has been started, and a failure. -/
def entries : List Entry :=
  (v.action?.map fun a => Entry.requested a.kind.word v.rule.name v.alert.name).toList
    ++ (v.calls s).filterMap (RunnerCall.started? v.rule.name)
    ++ (v.action?.bind fun a => (v.outcome s).failed? a v.rule.name).toList

variable {s v}

/-- The calls that a visit makes are those that are new afterwards. -/
theorem calls_eq {made : List RunnerCall} (h : (v.after s).calls = made ++ v.engine.calls) :
    v.calls s = made := by
  unfold calls
  rw [h, List.length_append, Nat.add_sub_cancel]
  exact List.take_left

/-- The action of a rule that has been expanded. -/
theorem action?_of_ok {action : Action} (h : Engine.expandAction v.rule v.alert = .ok action) :
    v.action? = some action := by
  unfold action?
  rw [h]
  rfl

variable (s v)

/-- **What a visit does to the books**: it makes its entries, and the job that it has launched, if
    there is one, is tracked. -/
theorem books :
    (v.calls s).length ≤ 1 ∧
    (v.after s).metrics = (v.entries s).foldl Metrics.record v.engine.metrics ∧
    (v.after s).active = ((v.calls s).filterMap (RunnerCall.tracked? v.rule.name)).foldl
      (fun (m : ActiveJobs) entry => m.insert entry.1 entry.2) v.engine.active := by
  rcases v.cases s with ⟨cause, hexpand, -, -, h⟩ | ⟨action, hexpand, -, houtcome, -, h⟩ |
    ⟨action, hexpand, hhas, -, -, h⟩
  · have haction : v.action? = none := by
      unfold action?
      rw [hexpand]
      rfl
    have hcalls : v.calls s = [] := calls_eq (by rw [h]; rfl)
    unfold entries
    rw [haction, hcalls, h]
    exact ⟨Nat.zero_le 1, rfl, rfl⟩
  · have hcalls : v.calls s = [] := calls_eq (by rw [h]; rfl)
    unfold entries
    rw [action?_of_ok hexpand, hcalls, houtcome, h]
    exact ⟨Nat.zero_le 1, rfl, rfl⟩
  · obtain ⟨made, hone, hmade, hactive, hmetrics⟩ :=
      Engine.attempt_books (v.engine.request v.rule action v.alert) s v.rule action v.alert
    have hcalls : v.calls s = made := calls_eq (by rw [h]; exact hmade)
    have houtcome : v.outcome s
        = ((v.engine.request v.rule action v.alert).attempt s v.rule action v.alert).1 := by
      unfold outcome
      rw [Engine.runRule_of_ok v.engine s hexpand, Engine.runAction_of_not_has v.engine s hhas]
    unfold entries
    rw [action?_of_ok hexpand, hcalls, houtcome, h]
    exact ⟨hone, hmetrics, hactive⟩

/-- The jobs that a visit has launched. -/
def launched : List ActiveJob :=
  ((v.calls s).filterMap (RunnerCall.tracked? v.rule.name)).map Prod.snd

/-- Whether a job that a visit has launched has a number that no tracked job has. -/
def LaunchesFresh : Prop :=
  ∀ job alert id, RunnerCall.launched job alert (.ok id) ∈ v.calls s →
    v.engine.active.get? id = none

variable {s v}

/-- A visit adds the job that it launches to those that are tracked. -/
theorem count_active (fresh : v.LaunchesFresh s) (job : ActiveJob) :
    (v.after s).active.values.count job
      = v.engine.active.values.count job + (v.launched s).count job := by
  obtain ⟨hone, -, hactive⟩ := v.books s
  unfold launched
  rw [hactive]
  unfold LaunchesFresh at fresh
  generalize v.calls s = made at hone fresh
  rcases made with _ | ⟨call, _ | ⟨other, more⟩⟩
  · rfl
  · cases call with
    | created _ _ => rfl
    | launched awx alert answer =>
      cases answer with
      | error _ => rfl
      | ok id =>
        exact KeyMap.count_values_insert (fresh awx alert id (List.mem_singleton_self _)) _ job
  · simp only [List.length_cons] at hone
    omega

end Visit

/-! ## Histories -/

/-- Something that has happened to an engine. -/
inductive Event where
  | visited (v : Visit)
  /-- The running jobs have been polled. -/
  | polled (engine : Engine) (source : StatusSource)

/-- The visit, unless it is a poll. -/
def Event.visit? : Event → Option Visit
  | .visited v => some v
  | .polled _ _ => none

/-- The jobs that have been retired. -/
def Event.records : Event → List ActiveJob
  | .visited _ => []
  | .polled e source => Poll.records source e.active e.metrics

/-- What is reported to the metrics. -/
def Event.entries (s : Surroundings) : Event → List Entry
  | .visited v => v.entries s
  | .polled e source => (Poll.records source e.active e.metrics).map ActiveJob.ended

/-- What has happened to an engine, in order. -/
abbrev History := List Event

namespace History

/-- The visits in a history. -/
def visited (events : History) : List Visit := events.filterMap Event.visit?

/-- The jobs that have been retired in the course of a history. -/
def retired (events : History) : List ActiveJob := events.flatMap Event.records

/-- All that has been reported to the metrics in the course of a history. -/
def book (s : Surroundings) (events : History) : List Entry := events.flatMap (Event.entries s)

/-- The visits of a longer history. -/
theorem visited_append (events more : History) :
    visited (events ++ more) = visited events ++ visited more :=
  List.filterMap_append ..

/-- A history of visits. -/
theorem visited_map (visits : List Visit) : visited (visits.map .visited) = visits := by
  induction visits with
  | nil => rfl
  | cons v r ih => exact congrArg (v :: ·) ih

/-- The jobs retired in the course of a longer history. -/
theorem retired_append (events more : History) :
    retired (events ++ more) = retired events ++ retired more :=
  List.flatMap_append

/-- Nothing is retired by visits. -/
theorem retired_map (visits : List Visit) : retired (visits.map .visited) = [] := by
  induction visits with
  | nil => rfl
  | cons v r ih => exact ih

/-- The book of a longer history. -/
theorem book_append (s : Surroundings) (events more : History) :
    book s (events ++ more) = book s events ++ book s more :=
  List.flatMap_append

/-- The book of several visits. -/
theorem book_map (s : Surroundings) (visits : List Visit) :
    book s (visits.map .visited) = visits.flatMap (Visit.entries s) := by
  unfold book
  rw [List.flatMap_map]
  rfl

end History

open History (visited retired book)

/-- The runs of an engine from some start, with all that has happened to it: rules are visited and
    jobs are polled.  In between time passes and rules are edited. -/
inductive Chronicle (s : Surroundings) (start : Engine) : Engine → History → Prop
  | start : Chronicle s start start []
  | wait {e : Engine} {events : History} (c : Chronicle s start e events) (now : Nat) :
    Chronicle s start (e.reach now) events
  | edit {e : Engine} {events : History} (c : Chronicle s start e events) (rules : RuleStore) :
    Chronicle s start { e with rules } events
  | poll {e : Engine} {events : History} (c : Chronicle s start e events)
      (source : StatusSource) :
    Chronicle s start (e.pollJobs source).2 (events ++ [.polled e source])
  | alert {e : Engine} {events : History} (c : Chronicle s start e events) (alert : Alert)
      (rules : List Rule) (order : rules.Perm e.rules.snapshot) :
    Chronicle s start (e.processWith s alert rules).2
      (events ++ (e.visits s alert rules).map .visited)

/-! ## Books -/

section Books

variable {s : Surroundings} {start e : Engine} {events : History}

/-- A history with its polls left out is that of a run. -/
theorem Chronicle.run (c : Chronicle s start e events) : Run s start e (visited events) := by
  induction c with
  | start => exact .start
  | wait _ now ih => exact ih.wait now
  | edit _ rules ih => exact ih.edit rules
  | poll _ source ih =>
    rw [History.visited_append]
    have hrun := ih.poll source
    rwa [← List.append_nil (visited _)] at hrun
  | alert _ alert rules order ih =>
    rw [History.visited_append, History.visited_map]
    exact ih.alert alert rules order

/-- Every alert whose rules were visited was firing. -/
theorem Chronicle.firing (c : Chronicle s start e events) {v : Visit} (hv : v ∈ visited events) :
    v.alert.status = .firing := by
  obtain ⟨past, later, hsplit⟩ := List.append_of_mem hv
  exact (c.run.steps.upTo hsplit).2.1

namespace Engine

/-- What visits to some rules do to the metrics. -/
theorem runRules_metrics (s : Surroundings) (alert : Alert) :
    ∀ (rules : List Rule) (e : Engine), (runRules s alert e rules).2.metrics
      = ((visitRules s alert e rules).flatMap (Visit.entries s)).foldl Metrics.record e.metrics
  | [], _ => rfl
  | rule :: r, e => by
    have hhead := (Visit.books s ⟨e, alert, rule⟩).2.1
    have htail := runRules_metrics s alert r (Visit.after s ⟨e, alert, rule⟩)
    rw [hhead, ← List.foldl_append] at htail
    exact htail

/-- What visits to some rules do to the tracked jobs. -/
theorem runRules_active (s : Surroundings) (alert : Alert) (job : ActiveJob) :
    ∀ (rules : List Rule) (e : Engine),
      (∀ v ∈ visitRules s alert e rules, v.LaunchesFresh s) →
      (runRules s alert e rules).2.active.values.count job = e.active.values.count job
        + ((visitRules s alert e rules).flatMap (Visit.launched s)).count job
  | [], _, _ => rfl
  | rule :: r, e, fresh => by
    have hhead := Visit.count_active (fresh ⟨e, alert, rule⟩ (List.mem_cons_self ..)) job
    have htail := runRules_active s alert job r (Visit.after s ⟨e, alert, rule⟩)
      fun v hv => fresh v (List.mem_cons_of_mem _ hv)
    have hsplit : ((visitRules s alert e (rule :: r)).flatMap (Visit.launched s)).count job
        = (Visit.launched s ⟨e, alert, rule⟩).count job
          + ((visitRules s alert (Visit.after s ⟨e, alert, rule⟩) r).flatMap
              (Visit.launched s)).count job := by
      rw [← List.count_append]
      rfl
    have hrun : (runRules s alert e (rule :: r)).2
        = (runRules s alert (Visit.after s ⟨e, alert, rule⟩) r).2 := rfl
    have hengine : (⟨e, alert, rule⟩ : Visit).engine = e := rfl
    rw [hengine] at hhead
    rw [hrun, hsplit]
    omega

end Engine

/-- **The metrics are a summary of the book.** -/
theorem Chronicle.metrics_eq (c : Chronicle s start e events) :
    e.metrics = (book s events).foldl Metrics.record start.metrics := by
  induction c with
  | start => rfl
  | wait _ _ ih => exact ih
  | edit _ _ ih => exact ih
  | @poll e events _ source ih =>
    have hpoll := (poll_spec source e.active e.metrics).1
    have hentries : book s [.polled e source]
        = (Poll.records source e.active e.metrics).map ActiveJob.ended := List.append_nil _
    rw [History.book_append, List.foldl_append, ← ih, hentries]
    exact hpoll
  | @alert e events _ alert rules _ ih =>
    have hrules := Engine.runRules_metrics s alert (Engine.activated s alert rules) e
    rw [History.book_append, History.book_map, List.foldl_append, ← ih,
      (e.processWith_spec s alert rules).2]
    exact hrules

/-- **What is tracked and what has been retired** is what was launched, as long as no job gets the
    number of one that is tracked. -/
theorem Chronicle.tracked_add_retired (c : Chronicle s start e events)
    (nothing : start.active.values = []) (fresh : ∀ v ∈ visited events, v.LaunchesFresh s)
    (job : ActiveJob) :
    e.active.values.count job + (retired events).count job
      = ((visited events).flatMap (Visit.launched s)).count job := by
  induction c with
  | start =>
    rw [nothing]
    rfl
  | wait _ _ ih => exact ih fresh
  | edit _ _ ih => exact ih fresh
  | @poll e events _ source ih =>
    rw [History.visited_append] at fresh ⊢
    have hbefore := ih fun v hv => fresh v (List.mem_append_left _ hv)
    have hpoll : _ = (e.pollJobs source).2.active.values.count job + _ :=
      (poll_spec source e.active e.metrics).2 job
    have hrecords : retired [.polled e source] = Poll.records source e.active e.metrics :=
      List.append_nil _
    have hvisited : visited [.polled e source] = [] := rfl
    rw [History.retired_append, hrecords, hvisited, List.append_nil, List.count_append]
    omega
  | @alert e events _ alert rules _ ih =>
    rw [History.visited_append, History.visited_map] at fresh ⊢
    have hbefore := ih fun v hv => fresh v (List.mem_append_left _ hv)
    have hrules := Engine.runRules_active s alert job (Engine.activated s alert rules) e
      fun v hv => fresh v (List.mem_append_right _ hv)
    rw [History.retired_append, History.retired_map, List.append_nil,
      (e.processWith_spec s alert rules).2, List.flatMap_append, List.count_append]
    unfold Engine.visits
    omega

end Books

end Healing
