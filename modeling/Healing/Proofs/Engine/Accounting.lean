/-
  The metrics balance.

  The gauges are moved from several places: when an action is launched, when that fails, and when a
  poll finds that a job has come to its end.  The history of the engine tells what they have to
  show, whatever has become of the rules in the meantime.

  1. **Numbers** - `History.launches` and the like: what can be counted in a history.
  2. **Calls** - which calls of runners are reported in which series.
  3. **Visits** - what a visit reports, series by series.
  4. **Books** - the entries in the book of a history amount to those numbers.
  5. **Accounting** - `Chronicle.metrics_balance`; `Forgotten` shows it for a job whose rule is
     deleted while it is running.
-/
import Healing.Proofs.Engine.Chronicle
import Mathlib.Algebra.GroupWithZero.Nat
import Mathlib.Data.List.Count

namespace Healing

open History (visited retired book)
open Metrics (Entry)

/-! ## Numbers -/

/-- Whether a call has launched a job from a template. -/
def RunnerCall.launches (template : String) : RunnerCall → Bool
  | .launched job _ (.ok _) => job.template = template
  | _ => false

/-- Whether a call has created a batch job of some name. -/
def RunnerCall.creates (name : String) : RunnerCall → Bool
  | .created job (.ok .created) => job.name = name
  | _ => false

namespace History

/-- The calls of runners that were made for rules of some name. -/
def callsFor (s : Surroundings) (rule : String) (events : History) : List RunnerCall :=
  (visited events).flatMap fun v => if v.rule.name = rule then v.calls s else []

/-- How often a job was launched from a template for rules of some name. -/
def launches (s : Surroundings) (template rule : String) (events : History) : Nat :=
  (callsFor s rule events).countP (RunnerCall.launches template)

/-- How often a batch job of some name was created for rules of some name. -/
def creations (s : Surroundings) (name rule : String) (events : History) : Nat :=
  (callsFor s rule events).countP (RunnerCall.creates name)

/-- How often an action could not be dispatched, by its kind and target and the name of the rule. -/
def failures (s : Surroundings) (kind : ActionKind) (target rule : String) (events : History) :
    Nat :=
  (visited events).countP fun v => v.action?.any (fun a => a.kind = kind && a.target = target)
    && v.rule.name = rule && (v.outcome s).isDispatchFailure

/-- How often rules of some name with some kind of action were run for firing alerts of some name,
    other than in vain because the action could not be expanded. -/
def requests (s : Surroundings) (kind : ActionKind) (rule alert : String) (events : History) :
    Nat :=
  (visited events).countP fun v => v.alert.status = .firing && v.alert.name = alert
    && v.rule.name = rule && v.rule.action.kind = kind && !(v.outcome s).isExpansionFailure

end History

/-! ## Calls -/

/-- The words for the kinds are different. -/
theorem ActionKind.word_inj {a b : ActionKind} : a.word = b.word ↔ a = b := by
  cases a <;> cases b <;> decide

/-- How often an item comes out of a list of calls, if it comes out of some calls under a condition
    that has nothing to do with them. -/
theorem count_filterMap_of_iff {α : Type} [DecidableEq α] {f : RunnerCall → Option α}
    {p : RunnerCall → Bool} {c : Prop} [Decidable c] {a : α}
    (h : ∀ call, f call = some a ↔ c ∧ p call = true) (calls : List RunnerCall) :
    (calls.filterMap f).count a = (if c then calls else []).countP p := by
  have hcall : ∀ call, ((f call).map (· == a)).getD false = (decide c && p call) := by
    intro call
    rw [Bool.eq_iff_iff, Bool.and_eq_true, decide_eq_true_iff, ← h call]
    cases f call with
    | none => simp
    | some b => simp
  unfold List.count
  rw [List.countP_filterMap]
  simp only [hcall]
  by_cases hc : c <;> simp [hc]

namespace RunnerCall

variable {call : RunnerCall} {rule rule' : String}

/-- Which calls are reported in a series of launched jobs. -/
theorem started?_eq_launched_iff {template : String} :
    call.started? rule = some (.started ActionKind.awx.word template rule') ↔
      rule = rule' ∧ call.launches template = true := by
  rcases call with ⟨job, alert, cause | id⟩ | ⟨job, cause | outcome⟩
  · simp [started?, launches]
  · simp [started?, launches, and_comm]
  · simp [started?, launches]
  · cases outcome <;> simp [started?, launches, ActionKind.word]

/-- Which calls are reported in a series of created batch jobs. -/
theorem started?_eq_created_iff {name : String} :
    call.started? rule = some (.started ActionKind.batch.word name rule') ↔
      rule = rule' ∧ call.creates name = true := by
  rcases call with ⟨job, alert, cause | id⟩ | ⟨job, cause | outcome⟩
  · simp [started?, creates]
  · simp [started?, creates, ActionKind.word]
  · simp [started?, creates]
  · cases outcome <;> simp [started?, creates, and_comm]

/-- Which calls lead to a tracked job. -/
theorem tracked?_eq_iff {template : String} :
    (call.tracked? rule).map Prod.snd = some ⟨rule', template⟩ ↔
      rule = rule' ∧ call.launches template = true := by
  rcases call with ⟨job, alert, cause | id⟩ | ⟨job, cause | outcome⟩
  · simp [tracked?, launches]
  · simp [tracked?, launches]
  · simp [tracked?, launches]
  · cases outcome <;> simp [tracked?, launches]

end RunnerCall

/-! ## Visits -/

/-- Expansion does not change the kind of an action. -/
theorem Action.kind_expand (render : String → Except ExpansionError String) (action : Action) :
    (action.expand render).value.kind = action.kind := by
  cases action with
  | awx _ => rfl
  | batch _ => rfl

/-- The expanded action of a rule is of the kind of its action. -/
theorem Engine.kind_of_expandAction {rule : Rule} {alert : Alert} {action : Action}
    (h : expandAction rule alert = .ok action) : action.kind = rule.action.kind := by
  unfold expandAction at h
  cases hbind : (Expander.forAlerts rule.delimiters).bind alert.toJson with
  | error cause =>
    rw [hbind] at h
    cases h
  | ok binding =>
    simp only [hbind, bind, Except.bind] at h
    split at h
    · cases h
    · rw [← Except.ok.inj h]
      exact rule.action.kind_expand binding.render

namespace Visit

variable (s : Surroundings) (v : Visit)

/-- The calls of a visit are reported as started or not at all. -/
theorem count_calls_eq_zero (entry : Entry)
    (h : ∀ kind target rule, entry ≠ .started kind target rule) :
    ((v.calls s).filterMap (RunnerCall.started? v.rule.name)).count entry = 0 := by
  rw [List.count_eq_zero, List.mem_filterMap]
  rintro ⟨call, -, hcall⟩
  unfold RunnerCall.started? at hcall
  split at hcall
  · exact h _ _ _ (Option.some.inj hcall).symm
  · exact h _ _ _ (Option.some.inj hcall).symm
  · cases hcall

/-- What a visit reports as started. -/
theorem count_started (kind target rule : String) :
    (v.entries s).count (.started kind target rule)
      = ((v.calls s).filterMap (RunnerCall.started? v.rule.name)).count
          (.started kind target rule) := by
  unfold entries RuleOutcome.failed?
  rw [List.count_append, List.count_append]
  cases v.action? with
  | none => simp
  | some action => split <;> simp

/-- A visit reports nothing as completed. -/
theorem count_completed (kind target rule : String) :
    (v.entries s).count (.completed kind target rule) = 0 := by
  have hcalls := v.count_calls_eq_zero s (.completed kind target rule) (by simp)
  unfold entries RuleOutcome.failed?
  rw [List.count_append, List.count_append, hcalls]
  cases v.action? with
  | none => simp
  | some action => split <;> simp

/-- What a visit reports as failed. -/
theorem count_failed (kind : ActionKind) (target rule : String) :
    (v.entries s).count (.failed kind.word target rule)
      = if v.action?.any (fun a => a.kind = kind && a.target = target) && v.rule.name = rule
          && (v.outcome s).isDispatchFailure
        then 1 else 0 := by
  have hcalls := v.count_calls_eq_zero s (.failed kind.word target rule) (by simp)
  unfold entries RuleOutcome.failed?
  rw [List.count_append, List.count_append, hcalls]
  cases v.action? with
  | none => simp
  | some action =>
    cases (v.outcome s).isDispatchFailure with
    | false => simp
    | true => simp [List.count_singleton, ActionKind.word_inj, and_assoc]

/-- An action that has been expanded is of the kind of its rule; without one the expansion has
    failed. -/
theorem action?_cases :
    (v.action? = none ∧ (v.outcome s).isExpansionFailure = true) ∨
    ∃ action, v.action? = some action ∧ action.kind = v.rule.action.kind ∧
      (v.outcome s).isExpansionFailure = false := by
  rcases v.cases s with ⟨cause, hexpand, houtcome, -, -⟩ | ⟨action, hexpand, -, houtcome, -, -⟩ |
    ⟨action, hexpand, -, hattempt, -, -⟩
  · refine Or.inl ⟨?_, by rw [houtcome]; rfl⟩
    unfold action?
    rw [hexpand]
    rfl
  · exact Or.inr ⟨action, action?_of_ok hexpand, Engine.kind_of_expandAction hexpand,
      by rw [houtcome]; rfl⟩
  · refine Or.inr ⟨action, action?_of_ok hexpand, Engine.kind_of_expandAction hexpand, ?_⟩
    cases houtcome : v.outcome s with
    | expansionFailed _ =>
      rw [houtcome] at hattempt
      cases hattempt
    | dispatched => rfl
    | throttled => rfl
    | dispatchFailed _ => rfl

/-- What a visit to a rule reports as requested. -/
theorem count_requested (firing : v.alert.status = .firing) (kind : ActionKind)
    (rule alert : String) :
    (v.entries s).count (.requested kind.word rule alert)
      = if v.alert.status = .firing && v.alert.name = alert && v.rule.name = rule
          && v.rule.action.kind = kind && !(v.outcome s).isExpansionFailure
        then 1 else 0 := by
  have hcalls := v.count_calls_eq_zero s (.requested kind.word rule alert) (by simp)
  unfold entries RuleOutcome.failed?
  rw [List.count_append, List.count_append, hcalls, firing]
  rcases v.action?_cases s with ⟨hnone, hfailure⟩ | ⟨action, hsome, hkind, hfailure⟩
  · rw [hnone, hfailure]
    simp
  · rw [hsome, hfailure, ← hkind]
    cases (v.outcome s).isDispatchFailure with
    | false => simp [List.count_singleton, ActionKind.word_inj, and_left_comm, and_comm]
    | true => simp [List.count_singleton, ActionKind.word_inj, and_left_comm, and_comm]

/-- The jobs that a visit has launched are those that it has reported. -/
theorem count_launched (template rule : String) :
    (v.launched s).count ⟨rule, template⟩
      = (if v.rule.name = rule then v.calls s else []).countP (RunnerCall.launches template) := by
  unfold launched
  rw [List.map_filterMap]
  exact count_filterMap_of_iff (fun _ => RunnerCall.tracked?_eq_iff) (v.calls s)

end Visit

/-! ## Books -/

namespace History

/-- A number that every visit adds to. -/
theorem sum_eq_countP {f : Visit → Nat} {p : Visit → Bool} :
    ∀ {visits : List Visit}, (∀ v ∈ visits, f v = if p v then 1 else 0) →
      (visits.map f).sum = visits.countP p
  | [], _ => rfl
  | v :: r, h => by
    have hhead := h v (List.mem_cons_self ..)
    have htail := sum_eq_countP fun u hu => h u (List.mem_cons_of_mem v hu)
    rw [List.map_cons, List.sum_cons, htail, hhead, List.countP_cons, Nat.add_comm]

variable {s : Surroundings}

/-- Entries that no poll makes are made by the visits. -/
theorem count_book {entry : Entry} (h : ∀ job : ActiveJob, job.ended ≠ entry) :
    ∀ events : History, (book s events).count entry
      = ((visited events).map fun v => (v.entries s).count entry).sum
  | [] => rfl
  | .visited v :: r => by
    have htail := count_book h r
    have hbook : book s (.visited v :: r) = v.entries s ++ book s r := rfl
    have hvisited : visited (.visited v :: r) = v :: visited r := rfl
    rw [hbook, hvisited, List.count_append, htail, List.map_cons, List.sum_cons]
  | .polled e source :: r => by
    have htail := count_book h r
    have hbook : book s (.polled e source :: r)
        = (Poll.records source e.active e.metrics).map ActiveJob.ended ++ book s r := rfl
    have hvisited : visited (.polled e source :: r) = visited r := rfl
    have hnone : ((Poll.records source e.active e.metrics).map ActiveJob.ended).count entry
        = 0 := by
      rw [List.count_eq_zero, List.mem_map]
      rintro ⟨job, -, hjob⟩
      exact h job hjob
    rw [hbook, hvisited, List.count_append, htail, hnone, Nat.zero_add]

/-- Entries of ended jobs are made for the retired jobs. -/
theorem count_completed (template rule : String) :
    ∀ events : History, (book s events).count (.completed ActionKind.awx.word template rule)
      = (retired events).count ⟨rule, template⟩
  | [] => rfl
  | .visited v :: r => by
    have htail := count_completed template rule r
    have hbook : book s (.visited v :: r) = v.entries s ++ book s r := rfl
    have hretired : retired (.visited v :: r) = retired r := rfl
    rw [hbook, hretired, List.count_append, v.count_completed, htail, Nat.zero_add]
  | .polled e source :: r => by
    have htail := count_completed template rule r
    have hbook : book s (.polled e source :: r)
        = (Poll.records source e.active e.metrics).map ActiveJob.ended ++ book s r := rfl
    have hretired : retired (.polled e source :: r)
        = Poll.records source e.active e.metrics ++ retired r := rfl
    have hinjective : Function.Injective ActiveJob.ended := by
      intro job job' h
      obtain ⟨-, htemplate, hrule⟩ := Entry.completed.inj h
      cases job
      cases job'
      cases htemplate
      cases hrule
      rfl
    have hended := List.count_map_of_injective (Poll.records source e.active e.metrics)
      ActiveJob.ended hinjective ⟨rule, template⟩
    rw [hbook, hretired, List.count_append, List.count_append, htail]
    exact congrArg (· + _) hended

/-- Entries of started actions are made for calls. -/
theorem count_started_of_iff {kind target rule : String} {p : RunnerCall → Bool}
    (h : ∀ (name : String) (call : RunnerCall),
      call.started? name = some (.started kind target rule) ↔ name = rule ∧ p call = true)
    (events : History) :
    (book s events).count (.started kind target rule) = (callsFor s rule events).countP p := by
  rw [count_book (by simp [ActiveJob.ended])]
  unfold callsFor
  rw [List.countP_flatMap]
  refine congrArg List.sum (List.map_congr_left fun v _ => ?_)
  rw [v.count_started]
  exact count_filterMap_of_iff (h v.rule.name) (v.calls s)

/-- Entries of launched jobs are made for successful launches. -/
theorem count_launches (template rule : String) (events : History) :
    (book s events).count (.started ActionKind.awx.word template rule)
      = launches s template rule events :=
  count_started_of_iff (fun _ _ => RunnerCall.started?_eq_launched_iff) events

/-- Entries of created batch jobs are made for successful creations. -/
theorem count_creations (name rule : String) (events : History) :
    (book s events).count (.started ActionKind.batch.word name rule)
      = creations s name rule events :=
  count_started_of_iff (fun _ _ => RunnerCall.started?_eq_created_iff) events

/-- Entries of failed actions are made for failures. -/
theorem count_failures (kind : ActionKind) (target rule : String) (events : History) :
    (book s events).count (.failed kind.word target rule)
      = failures s kind target rule events := by
  rw [count_book (by simp [ActiveJob.ended])]
  exact sum_eq_countP fun v _ => v.count_failed s kind target rule

/-- Entries of requested actions are made for requests, as long as only firing alerts are
    processed. -/
theorem count_requests (kind : ActionKind) (rule alert : String) {events : History}
    (firing : ∀ v ∈ visited events, v.alert.status = .firing) :
    (book s events).count (.requested kind.word rule alert)
      = requests s kind rule alert events := by
  rw [count_book (by simp [ActiveJob.ended])]
  exact sum_eq_countP fun v hv => v.count_requested s (firing v hv) kind rule alert

end History

/-! ## Accounting -/

/-- **The metrics balance.**  Take any run from an empty engine in which no job is launched under
    the number of a job that is still tracked.  Whatever has become of the rules,

    - the gauge of running jobs is the number of tracked jobs with that rule and template;
    - the gauge of completed jobs is the number of retired ones;
    - both together are the number of successful launches;
    - the gauge of failed actions is the number of failed dispatches of that action;
    - the gauge of running batch jobs is the number of batch jobs that were created;
    - the counter of requests is the number of rules that were run for firing alerts and whose
      action could be expanded, throttled or not. -/
theorem Chronicle.metrics_balance {s : Surroundings} {throttle : Nat} {e : Engine}
    {events : History} (c : Chronicle s (.start throttle) e events)
    (fresh : ∀ v ∈ visited events, v.LaunchesFresh s) :
    (∀ template rule, e.metrics.launchedCount "AWXJob" template rule "running"
      = e.active.values.count ⟨rule, template⟩) ∧
    (∀ template rule, e.metrics.launchedCount "AWXJob" template rule "completed"
      = (retired events).count ⟨rule, template⟩) ∧
    (∀ template rule, (History.launches s template rule events : Int)
      = e.metrics.launchedCount "AWXJob" template rule "running"
        + e.metrics.launchedCount "AWXJob" template rule "completed") ∧
    (∀ kind target rule, e.metrics.launchedCount (ActionKind.word kind) target rule "failed"
      = History.failures s kind target rule events) ∧
    (∀ name rule, e.metrics.launchedCount "BatchJob" name rule "running"
      = History.creations s name rule events) ∧
    (∀ kind rule alert, e.metrics.requestedCount (ActionKind.word kind) rule alert
      = History.requests s kind rule alert events) := by
  have hgauge : ∀ kind target rule (state : LaunchState),
      e.metrics.launchedCount kind target rule state.word
        = Entry.balance (book s events) kind target rule state := by
    intro kind target rule state
    rw [c.metrics_eq, Metrics.launchedCount_foldl]
    exact Int.zero_add _
  have hcounter : ∀ kind rule alert, e.metrics.requestedCount kind rule alert
      = (book s events).count (.requested kind rule alert) := by
    intro kind rule alert
    rw [c.metrics_eq, Metrics.requestedCount_foldl]
    exact Nat.zero_add _
  -- what was launched is tracked or retired
  have hjobs : ∀ template rule, e.active.values.count ⟨rule, template⟩
      + (retired events).count ⟨rule, template⟩ = History.launches s template rule events := by
    intro template rule
    rw [c.tracked_add_retired rfl fresh]
    unfold History.launches History.callsFor
    rw [List.count_flatMap, List.countP_flatMap]
    exact congrArg List.sum (List.map_congr_left fun v _ => v.count_launched s template rule)
  have hcompleted : ∀ template rule, e.metrics.launchedCount "AWXJob" template rule "completed"
      = (retired events).count ⟨rule, template⟩ := by
    intro template rule
    have h := hgauge "AWXJob" template rule .completed
    rw [← History.count_completed]
    exact h
  have hrunning : ∀ template rule, e.metrics.launchedCount "AWXJob" template rule "running"
      = e.active.values.count ⟨rule, template⟩ := by
    intro template rule
    have h : e.metrics.launchedCount "AWXJob" template rule "running"
        = ((book s events).count (.started ActionKind.awx.word template rule) : Int)
          - (book s events).count (.completed ActionKind.awx.word template rule) :=
      hgauge "AWXJob" template rule .running
    rw [History.count_launches, History.count_completed] at h
    have hsum := hjobs template rule
    omega
  refine ⟨hrunning, hcompleted, fun template rule => ?_, fun kind target rule => ?_,
    fun name rule => ?_, fun kind rule alert => ?_⟩
  · rw [hrunning, hcompleted, ← hjobs]
    exact Int.natCast_add ..
  · rw [← History.count_failures]
    exact hgauge kind.word target rule .failed
  · have h : e.metrics.launchedCount "BatchJob" name rule "running"
        = ((book s events).count (.started ActionKind.batch.word name rule) : Int)
          - (book s events).count (.completed ActionKind.batch.word name rule) :=
      hgauge "BatchJob" name rule .running
    -- batch jobs are not polled, and so none of them is ever reported as completed
    have hnone : (book s events).count (.completed ActionKind.batch.word name rule) = 0 := by
      rw [History.count_book (by simp [ActiveJob.ended, ActionKind.word])]
      simp [Visit.count_completed]
    rw [hnone, History.count_creations] at h
    omega
  · rw [hcounter]
    exact History.count_requests kind rule alert fun v hv => c.firing hv

namespace Forgotten

/-- Surroundings in which every job gets a number of its own. -/
def around : Surroundings where
  language := fun _ => none
  launch := fun calls _ _ => .ok calls.length
  create := fun _ _ => .ok .created

/-- A rule for all alerts that launches a job of AWX. -/
def restart : Rule := { name := "restart", action := .awx { template := "Restart" } }

/-- A rule for all alerts whose batch job lacks a name. -/
def drain : Rule := { name := "drain", action := .batch {} }

/-- An engine with both rules. -/
def ready : Engine :=
  { Engine.start 10 with rules := ((∅ : RuleStore).insert "drain" drain).insert "restart" restart }

/-- The engine after an alert, when the rules are deleted while the job is running. -/
def bare : Engine := { (ready.processWith around {} ready.rules.snapshot).2 with rules := ∅ }

/-- What is heard of all jobs. -/
def source : StatusSource := fun _ => .ok .successful

/-- What has happened until the job is found to have come to its end. -/
def events : History :=
  (ready.visits around {} ready.rules.snapshot).map .visited ++ [.polled bare source]

/-- A job is counted as completed although its rule has been deleted, and a job without a name is
    counted as failed. -/
theorem metrics_balance_of_deleted :
    Chronicle around (.start 10) (bare.pollJobs source).2 events ∧
      (∀ v ∈ visited events, v.LaunchesFresh around) ∧
      (bare.pollJobs source).2.metrics.launchedCount "AWXJob" "Restart" "restart" "running" = 0 ∧
      (bare.pollJobs source).2.metrics.launchedCount "AWXJob" "Restart" "restart" "completed" = 1 ∧
      (bare.pollJobs source).2.metrics.launchedCount "BatchJob" "" "drain" "failed" = 1 := by
  have chronicle : Chronicle around (.start 10) (bare.pollJobs source).2 events :=
    (((Chronicle.start.edit _).alert {} ready.rules.snapshot (List.Perm.refl _)).edit ∅).poll source
  have fresh : ∀ v ∈ visited events, v.LaunchesFresh around := by
    intro v hv job alert id _
    have hvisits : visited events = [⟨ready, {}, drain⟩,
        ⟨Visit.after around ⟨ready, {}, drain⟩, {}, restart⟩] := rfl
    rw [hvisits] at hv
    -- nothing is tracked before the one launch
    rcases List.mem_cons.mp hv with rfl | hv
    · rfl
    · rw [List.mem_singleton.mp hv]
      rfl
  obtain ⟨hrunning, hcompleted, -, hfailed, -, -⟩ := Chronicle.metrics_balance chronicle fresh
  exact ⟨chronicle, fresh, hrunning "Restart" "restart", hcompleted "Restart" "restart",
    hfailed .batch "" "drain"⟩

end Forgotten

end Healing
