/-
  Runs of the engine.

  An engine is asked to process alerts one after the other; in between rules are edited, jobs are
  polled and time passes.  The history of such a run lists every rule that was run, with the engine
  as it was just before.

  1. **Dispatching** - `dispatch_cases` lists all that can come of a dispatch; from it follow what
     it leaves alone and that it takes its time.
  2. **Running a rule** - `runRule_cases` lists all that can come of running a rule.
  3. **Visits** - `Visit`, a rule that is run, and `Visit.attempt?`, the action that is dispatched
     then, be it in vain; `Visit.cases` lists all that can come of one, and `Visit.memory_after` what
     it does to the memory.
  4. **Alerts** - `Engine.visits`: the visits that an alert causes; what becomes of them is the
     report of the alert (`processWith_spec`).
  5. **Runs** - `Run`, alert by alert, and `Steps`, rule by rule; a run is made of such steps
     (`Run.steps`), and every visit in its history ends a shorter one (`Steps.upTo`).
-/
import Healing.Engine
import Healing.Proofs.Memory

namespace Healing

/-- Whether an action was dispatched, be it in vain. -/
def RuleOutcome.isAttempt : RuleOutcome → Bool
  | .dispatched | .dispatchFailed _ => true
  | _ => false

/-- Whether an action could not be expanded. -/
def RuleOutcome.isExpansionFailure : RuleOutcome → Bool
  | .expansionFailed _ => true
  | _ => false

namespace Engine

/-! ## Dispatching -/

section Dispatching

variable (e : Engine) (s : Surroundings) (rule : Rule) (action : Action) (alert : Alert)

/-- **What can come of a dispatch.**  A job is launched or not; or a batch job cannot be made ready,
    and nobody is called, or it is created, there already, or refused. -/
theorem dispatch_cases :
    (∃ job id, action = .awx job ∧ s.launch e.calls job alert = .ok id ∧
      e.dispatch s rule action alert = (.ok (), { e.answered s (.launched job alert (.ok id)) with
        metrics := e.metrics.started ActionKind.awx.word job.template rule.name
        active := e.active.insert id ⟨rule.name, job.template⟩ })) ∨
    (∃ job cause, action = .awx job ∧ s.launch e.calls job alert = .error cause ∧
      e.dispatch s rule action alert
        = (.error cause, e.answered s (.launched job alert (.error cause)))) ∨
    (∃ job cause, action = .batch job ∧ rule.prepare job = .error cause ∧
      e.dispatch s rule action alert = (.error cause, e)) ∨
    (∃ job ready, action = .batch job ∧ rule.prepare job = .ok ready ∧
      s.create e.calls ready = .ok .created ∧
      e.dispatch s rule action alert = (.ok (), { e.answered s (.created ready (.ok .created)) with
        metrics := e.metrics.started ActionKind.batch.word job.name rule.name })) ∨
    (∃ job ready, action = .batch job ∧ rule.prepare job = .ok ready ∧
      s.create e.calls ready = .ok .alreadyExists ∧
      e.dispatch s rule action alert
        = (.ok (), e.answered s (.created ready (.ok .alreadyExists)))) ∨
    (∃ job ready cause, action = .batch job ∧ rule.prepare job = .ok ready ∧
      s.create e.calls ready = .error cause ∧
      e.dispatch s rule action alert
        = (.error cause, e.answered s (.created ready (.error cause)))) := by
  cases action with
  | awx job =>
    cases h : s.launch e.calls job alert with
    | ok id =>
      refine Or.inl ⟨job, id, rfl, h, ?_⟩
      simp only [dispatch, launchJob, h]
      rfl
    | error cause =>
      refine Or.inr (Or.inl ⟨job, cause, rfl, h, ?_⟩)
      simp only [dispatch, launchJob, h]
  | batch job =>
    refine Or.inr (Or.inr ?_)
    cases hready : rule.prepare job with
    | error cause =>
      refine Or.inl ⟨job, cause, rfl, hready, ?_⟩
      simp only [dispatch, createJob, hready]
    | ok ready =>
      refine Or.inr ?_
      cases h : s.create e.calls ready with
      | error cause =>
        refine Or.inr (Or.inr ⟨job, ready, cause, rfl, hready, h, ?_⟩)
        simp only [dispatch, createJob, hready, h]
      | ok outcome =>
        cases outcome with
        | created =>
          refine Or.inl ⟨job, ready, rfl, hready, h, ?_⟩
          simp only [dispatch, createJob, hready, h]
          rfl
        | alreadyExists =>
          refine Or.inr (Or.inl ⟨job, ready, rfl, hready, h, ?_⟩)
          simp only [dispatch, createJob, hready, h]

/-- A dispatch leaves the memory, the rules and the table of requests alone, and if it takes any
    time, then that of a runner. -/
theorem dispatch_frame :
    (e.dispatch s rule action alert).2.memory = e.memory ∧
    (e.dispatch s rule action alert).2.rules = e.rules ∧
    (e.dispatch s rule action alert).2.metrics.requestedTable = e.metrics.requestedTable ∧
    ((e.dispatch s rule action alert).2.clock = e.clock ∨
      ∃ call, (e.dispatch s rule action alert).2.clock = e.clock + s.delay (call :: e.calls)) := by
  rcases dispatch_cases e s rule action alert with ⟨job, id, -, -, h⟩ | ⟨job, cause, -, -, h⟩ |
    ⟨job, cause, -, -, h⟩ | ⟨job, ready, -, -, -, h⟩ | ⟨job, ready, -, -, -, h⟩ |
    ⟨job, ready, cause, -, -, -, h⟩
  all_goals rw [h]
  case inr.inr.inl => exact ⟨rfl, rfl, rfl, Or.inl rfl⟩
  all_goals exact ⟨rfl, rfl, rfl, Or.inr ⟨_, rfl⟩⟩

end Dispatching

/-! ## Running a rule -/

section Running

variable (e : Engine) (s : Surroundings) (rule : Rule) (action : Action) (alert : Alert)

/-- What an attempt leaves behind: the action is remembered as of the time when the dispatch was
    over, and the rules and the table of requests are as they were. -/
theorem attempt_spec :
    (e.attempt s rule action alert).1.isAttempt = true ∧
    (e.attempt s rule action alert).2.memory
      = e.memory.add (e.attempt s rule action alert).2.clock action ∧
    (e.attempt s rule action alert).2.rules = e.rules ∧
    (e.attempt s rule action alert).2.metrics.requestedTable = e.metrics.requestedTable ∧
    ((e.attempt s rule action alert).2.clock = e.clock ∨
      ∃ call, (e.attempt s rule action alert).2.clock = e.clock + s.delay (call :: e.calls)) := by
  obtain ⟨hmemory, hrules, htable, hclock⟩ := dispatch_frame e s rule action alert
  unfold attempt
  generalize e.dispatch s rule action alert = done at hmemory hrules htable hclock
  obtain ⟨result, e'⟩ := done
  cases result with
  | ok _ =>
    refine ⟨rfl, ?_, hrules, htable, hclock⟩
    show e'.memory.add e'.clock action = e.memory.add e'.clock action
    rw [hmemory]
  | error cause =>
    refine ⟨rfl, ?_, hrules, htable, hclock⟩
    show e'.memory.add e'.clock action = e.memory.add e'.clock action
    rw [hmemory]

/-- An attempt takes its time. -/
theorem clock_le_attempt : e.clock ≤ (e.attempt s rule action alert).2.clock := by
  obtain ⟨-, -, -, -, h | ⟨call, h⟩⟩ := attempt_spec e s rule action alert
  · exact Nat.le_of_eq h.symm
  · rw [h]
    exact Nat.le_add_right ..

variable {rule action alert}

/-- Nothing comes of a rule whose action cannot be expanded. -/
theorem runRule_of_error {cause : ExpansionError} (h : expandAction rule alert = .error cause) :
    e.runRule s alert rule = (.expansionFailed cause, e) := by
  unfold runRule
  rw [h]

/-- A rule runs its expanded action. -/
theorem runRule_of_ok (h : expandAction rule alert = .ok action) :
    e.runRule s alert rule = e.runAction s rule action alert := by
  unfold runRule
  rw [h]

/-- An action is only requested if an equal one is remembered. -/
theorem runAction_of_has (h : e.memory.has e.clock action = true) :
    e.runAction s rule action alert = (.throttled, e.request rule action alert) := by
  have hasked : (e.request rule action alert).memory.has (e.request rule action alert).clock action
      = true := (e.memory.has_asked e.clock action).trans h
  unfold runAction
  exact if_pos hasked

/-- An action is attempted if no equal one is remembered. -/
theorem runAction_of_not_has (h : e.memory.has e.clock action = false) :
    e.runAction s rule action alert
      = (e.request rule action alert).attempt s rule action alert := by
  have hasked : (e.request rule action alert).memory.has (e.request rule action alert).clock action
      = false := (e.memory.has_asked e.clock action).trans h
  unfold runAction
  exact if_neg (Bool.eq_false_iff.mp hasked)

/-- **What can come of running a rule.**  Its action cannot be expanded, and nothing happens; or an
    equal action is remembered, and this one is only requested; or it is attempted. -/
theorem runRule_cases (rule : Rule) (alert : Alert) :
    (∃ cause, expandAction rule alert = .error cause ∧
      e.runRule s alert rule = (.expansionFailed cause, e)) ∨
    (∃ action, expandAction rule alert = .ok action ∧ e.memory.has e.clock action = true ∧
      e.runRule s alert rule = (.throttled, e.request rule action alert)) ∨
    (∃ action, expandAction rule alert = .ok action ∧ e.memory.has e.clock action = false ∧
      e.runRule s alert rule = (e.request rule action alert).attempt s rule action alert) := by
  rcases hexpand : expandAction rule alert with cause | action
  · exact Or.inl ⟨cause, rfl, runRule_of_error e s hexpand⟩
  · have hrun := runRule_of_ok e s hexpand
    rcases Bool.eq_false_or_eq_true (e.memory.has e.clock action) with hhas | hhas
    · exact Or.inr (Or.inl ⟨action, rfl, hhas, hrun.trans (runAction_of_has e s hhas)⟩)
    · exact Or.inr (Or.inr ⟨action, rfl, hhas, hrun.trans (runAction_of_not_has e s hhas)⟩)

end Running

end Engine

/-! ## Visits -/

/-- A rule that is run for an alert, and the engine that runs it. -/
structure Visit where
  engine : Engine
  alert : Alert
  rule : Rule

namespace Visit

variable (s : Surroundings) (v : Visit)

/-- What becomes of the rule. -/
def outcome : RuleOutcome := (v.engine.runRule s v.alert v.rule).1

/-- The engine afterwards. -/
def after : Engine := (v.engine.runRule s v.alert v.rule).2

/-- The entry in the report of the alert. -/
def report : RuleReport := ⟨v.rule.name, v.outcome s⟩

/-- The action of the rule, if it can be expanded. -/
def action? : Option Action := (Engine.expandAction v.rule v.alert).toOption

/-- The action that is dispatched, be it in vain. -/
def attempt? : Option Action := if (v.outcome s).isAttempt then v.action? else none

/-- **What can come of a visit.**  The action cannot be expanded, and nothing happens; or an equal
    one is remembered, and it is only requested; or it is attempted. -/
theorem cases :
    (∃ cause, Engine.expandAction v.rule v.alert = .error cause ∧
      v.outcome s = .expansionFailed cause ∧ v.attempt? s = none ∧ v.after s = v.engine) ∨
    (∃ action, Engine.expandAction v.rule v.alert = .ok action ∧
      v.engine.memory.has v.engine.clock action = true ∧ v.outcome s = .throttled ∧
      v.attempt? s = none ∧ v.after s = v.engine.request v.rule action v.alert) ∨
    (∃ action, Engine.expandAction v.rule v.alert = .ok action ∧
      v.engine.memory.has v.engine.clock action = false ∧ (v.outcome s).isAttempt = true ∧
      v.attempt? s = some action ∧
      v.after s
        = ((v.engine.request v.rule action v.alert).attempt s v.rule action v.alert).2) := by
  unfold attempt? outcome after
  rcases Engine.runRule_cases v.engine s v.rule v.alert with ⟨cause, hexpand, hrun⟩ |
    ⟨action, hexpand, hhas, hrun⟩ | ⟨action, hexpand, hhas, hrun⟩
  · rw [hrun]
    exact Or.inl ⟨cause, hexpand, rfl, rfl, rfl⟩
  · rw [hrun]
    exact Or.inr (Or.inl ⟨action, hexpand, hhas, rfl, rfl, rfl⟩)
  · have hspec := Engine.attempt_spec (v.engine.request v.rule action v.alert) s v.rule action
      v.alert
    have haction : v.action? = some action := by
      unfold action?
      rw [hexpand]
      rfl
    rw [hrun, hspec.1, if_pos rfl]
    exact Or.inr (Or.inr ⟨action, hexpand, hhas, rfl, haction, rfl⟩)

/-- **An action is attempted iff no equal one is remembered.** -/
theorem attempt?_eq_some_iff {v : Visit} {action : Action}
    (expands : Engine.expandAction v.rule v.alert = .ok action) :
    v.attempt? s = some action ↔ v.engine.memory.has v.engine.clock action = false := by
  rcases v.cases s with ⟨cause, hexpand, -, -, -⟩ | ⟨other, hexpand, hhas, -, hnone, -⟩ |
    ⟨other, hexpand, hhas, -, hsome, -⟩
  · rw [expands] at hexpand
    cases hexpand
  · rw [expands] at hexpand
    cases hexpand
    rw [hnone, hhas]
    simp
  · rw [expands] at hexpand
    cases hexpand
    rw [hsome, hhas]
    simp

/-- **What a visit does to the memory.**  If nothing is attempted, the memory may have been asked;
    what is attempted is added as of the time when the attempt is over. -/
theorem memory_after :
    (v.attempt? s = none ∧ (v.after s).clock = v.engine.clock ∧
      ((v.after s).memory = v.engine.memory ∨
        (v.after s).memory = v.engine.memory.asked v.engine.clock)) ∨
    ∃ action, v.attempt? s = some action ∧
      v.engine.memory.has v.engine.clock action = false ∧
      v.engine.clock ≤ (v.after s).clock ∧
      (v.after s).memory = (v.engine.memory.asked v.engine.clock).add (v.after s).clock action := by
  rcases v.cases s with ⟨cause, -, -, hnone, h⟩ | ⟨action, -, -, -, hnone, h⟩ |
    ⟨action, -, hhas, -, hsome, h⟩
  · rw [h]
    exact Or.inl ⟨hnone, rfl, Or.inl rfl⟩
  · rw [h]
    exact Or.inl ⟨hnone, rfl, Or.inr rfl⟩
  · obtain ⟨-, hmemory, -, -, -⟩ :=
      Engine.attempt_spec (v.engine.request v.rule action v.alert) s v.rule action v.alert
    have hle := Engine.clock_le_attempt (v.engine.request v.rule action v.alert) s v.rule action
      v.alert
    rw [h]
    exact Or.inr ⟨action, hsome, hhas, hle, hmemory⟩

end Visit

/-! ## Alerts -/

namespace Engine

/-- The visits to some rules, one after the other. -/
def visitRules (s : Surroundings) (alert : Alert) : Engine → List Rule → List Visit
  | _, [] => []
  | e, rule :: r => ⟨e, alert, rule⟩ :: visitRules s alert (e.runRule s alert rule).2 r

/-- The rules that an alert activates; none unless it is firing. -/
def activated (s : Surroundings) (alert : Alert) (rules : List Rule) : List Rule :=
  match alert.status with
  | .firing => rules.filter (activates s.language alert)
  | _ => []

/-- The visits that an alert causes when the rules stand in the given order. -/
def visits (e : Engine) (s : Surroundings) (alert : Alert) (rules : List Rule) : List Visit :=
  visitRules s alert e (activated s alert rules)

/-- What it takes for a rule to be activated. -/
theorem mem_activated_iff {s : Surroundings} {alert : Alert} {rules : List Rule} {rule : Rule} :
    rule ∈ activated s alert rules ↔
      alert.status = .firing ∧ rule ∈ rules ∧ activates s.language alert rule = true := by
  unfold activated
  cases alert.status with
  | firing => simp [List.mem_filter]
  | resolved => simp
  | unknown => simp

/-- Every activated rule is visited, in their order. -/
theorem visitRules_map_rule (s : Surroundings) (alert : Alert) :
    ∀ (rules : List Rule) (e : Engine), (visitRules s alert e rules).map Visit.rule = rules
  | [], _ => rfl
  | rule :: r, _ => congrArg (rule :: ·) (visitRules_map_rule s alert r _)

/-- The reports on some rules are those on the visits to them. -/
theorem runRules_reports (s : Surroundings) (alert : Alert) :
    ∀ (rules : List Rule) (e : Engine),
      (runRules s alert e rules).1 = (visitRules s alert e rules).map (Visit.report s)
  | [], _ => rfl
  | rule :: r, e => by
    have htail := runRules_reports s alert r (e.runRule s alert rule).2
    show (_ :: (runRules s alert (e.runRule s alert rule).2 r).1) = _
    rw [htail]
    rfl

/-- **Processing an alert** is visiting the rules that it activates; what becomes of them is
    reported. -/
theorem processWith_spec (e : Engine) (s : Surroundings) (alert : Alert) (rules : List Rule) :
    (e.processWith s alert rules).1.rules = (e.visits s alert rules).map (Visit.report s) ∧
    (e.processWith s alert rules).2 = (runRules s alert e (activated s alert rules)).2 := by
  unfold visits
  rw [← runRules_reports]
  unfold processWith activated
  cases alert.status with
  | firing => exact ⟨rfl, rfl⟩
  | resolved => exact ⟨rfl, rfl⟩
  | unknown => exact ⟨rfl, rfl⟩

end Engine

/-! ## Runs -/

/-- The runs of an engine from some start, with all visits in their order.  The rules in force may
    be visited in any order. -/
inductive Run (s : Surroundings) (start : Engine) : Engine → List Visit → Prop
  | start : Run s start start []
  /-- Time passes. -/
  | wait {e : Engine} {history : List Visit} (run : Run s start e history) (now : Nat) :
    Run s start (e.reach now) history
  /-- The rules are edited. -/
  | edit {e : Engine} {history : List Visit} (run : Run s start e history) (rules : RuleStore) :
    Run s start { e with rules } history
  /-- The running jobs are polled. -/
  | poll {e : Engine} {history : List Visit} (run : Run s start e history)
      (source : StatusSource) :
    Run s start (e.pollJobs source).2 history
  /-- An alert is processed. -/
  | alert {e : Engine} {history : List Visit} (run : Run s start e history) (alert : Alert)
      (rules : List Rule) (order : rules.Perm e.rules.snapshot) :
    Run s start (e.processWith s alert rules).2 (history ++ e.visits s alert rules)

/-- Runs rule by rule: a rule that is activated by a firing alert may be visited at any time. -/
inductive Steps (s : Surroundings) (start : Engine) : Engine → List Visit → Prop
  | start : Steps s start start []
  | wait {e : Engine} {history : List Visit} (steps : Steps s start e history) (now : Nat) :
    Steps s start (e.reach now) history
  | edit {e : Engine} {history : List Visit} (steps : Steps s start e history)
      (rules : RuleStore) :
    Steps s start { e with rules } history
  | poll {e : Engine} {history : List Visit} (steps : Steps s start e history)
      (source : StatusSource) :
    Steps s start (e.pollJobs source).2 history
  | visit {e : Engine} {history : List Visit} (steps : Steps s start e history) (alert : Alert)
      (rule : Rule) (firing : alert.status = .firing)
      (active : Engine.activates s.language alert rule = true) :
    Steps s start (Visit.after s ⟨e, alert, rule⟩) (history ++ [⟨e, alert, rule⟩])

section Runs

variable {s : Surroundings} {start e : Engine} {history : List Visit}

/-- What is done with an alert that comes at some time is a part of a run. -/
theorem Run.process (run : Run s start e history) (now : Nat) (alert : Alert) :
    Run s start (e.process s now alert).2
      (history ++ (e.reach now).visits s alert e.rules.snapshot) :=
  (run.wait now).alert alert e.rules.snapshot (List.Perm.refl _)

/-- The only rule is visited if the alert activates it. -/
theorem Run.visit (run : Run s start e history) {alert : Alert} {rule : Rule}
    (only : e.rules.snapshot = [rule]) (firing : alert.status = .firing)
    (active : Engine.activates s.language alert rule = true) :
    Run s start (Visit.after s ⟨e, alert, rule⟩) (history ++ [⟨e, alert, rule⟩]) := by
  have hrun := run.alert alert [rule] (List.Perm.of_eq only.symm)
  have hactivated : Engine.activated s alert [rule] = [rule] := by
    unfold Engine.activated
    rw [firing]
    exact List.filter_cons_of_pos active
  rw [(e.processWith_spec s alert [rule]).2, Engine.visits, hactivated] at hrun
  exact hrun

/-- Visits to several activated rules are several steps. -/
theorem Steps.visitRules {alert : Alert} :
    ∀ {rules : List Rule} {e : Engine} {history : List Visit}, Steps s start e history →
      (∀ rule ∈ rules, alert.status = .firing ∧
        Engine.activates s.language alert rule = true) →
      Steps s start (Engine.runRules s alert e rules).2
        (history ++ Engine.visitRules s alert e rules)
  | [], _, _, h, _ => by rwa [Engine.visitRules, List.append_nil]
  | rule :: r, e, history, h, hall => by
    obtain ⟨firing, active⟩ := hall rule (List.mem_cons_self ..)
    have htail := (h.visit alert rule firing active).visitRules fun x hx =>
      hall x (List.mem_cons_of_mem rule hx)
    rw [List.append_assoc] at htail
    exact htail

/-- **A run is made of steps.** -/
theorem Run.steps (run : Run s start e history) : Steps s start e history := by
  induction run with
  | start => exact .start
  | wait _ now ih => exact ih.wait now
  | edit _ rules ih => exact ih.edit rules
  | poll _ source ih => exact ih.poll source
  | @alert e _ _ alert rules _ ih =>
    rw [(e.processWith_spec s alert rules).2]
    exact ih.visitRules fun rule hrule =>
      ⟨(Engine.mem_activated_iff.mp hrule).1, (Engine.mem_activated_iff.mp hrule).2.2⟩

/-- **Every visit ends a shorter run**: what it starts from has been reached by the visits before
    it, and its rule is activated by its alert, which is firing. -/
theorem Steps.upTo (steps : Steps s start e history) :
    ∀ {past later : List Visit} {v : Visit}, history = past ++ v :: later →
      Steps s start v.engine past ∧ v.alert.status = .firing ∧
        Engine.activates s.language v.alert v.rule = true := by
  induction steps with
  | start => intro past later v h; simp at h
  | wait _ _ ih => exact ih
  | edit _ _ ih => exact ih
  | poll _ _ ih => exact ih
  | @visit e history steps alert rule firing active ih =>
    intro past later v h
    rcases List.eq_nil_or_concat later with rfl | ⟨later, last, rfl⟩
    · -- the visit is the last one
      obtain ⟨hpast, hv⟩ := List.append_inj' h rfl
      cases hv
      cases hpast
      exact ⟨steps, firing, active⟩
    · rw [List.concat_eq_append, ← List.cons_append, ← List.append_assoc] at h
      exact ih (List.append_inj' h rfl).1

end Runs

end Healing
