/-
  A rule is no concern of the others.

  The rules that an alert activates are run one after the other, and each finds what those before it
  have left behind.  But all that a rule looks at is whether its action is remembered.  So two
  engines that remember the same, but for actions that equal one, treat all other actions alike; and
  what becomes of a rule changes nothing for those that ask for something else.

  1. **Alike** - `Visit.Alike`: two visits with the same outcome, the same calls of runners and the
     same entries for the metrics.  Where runners are `Steady`, all attempts go alike.
  2. **Agreement** - `Agrees`: two engines remember the same of some actions.  One visit does not
     end that if it asks for none of these (`Agrees.of_visit`), nor do visits of both to the same
     rule (`Agrees.visit`), which are alike if they ask for one of these (`Agrees.alike`).
  3. **Rules** - `Agrees.visitRules`: the same, for visits to several rules.
  4. **Alerts** - which rules are activated.
  5. **Isolation** - `Engine.isolated`: an alert is processed with a rule and without it; `Broken`
     shows it for a rule whose job cannot be launched.
-/
import Healing.Proofs.Engine.Calls
import Healing.Proofs.Engine.Order
import Mathlib.Data.List.Forall2

namespace Healing

/-- Whether every runner answers at once, and always gives the same answer to the same call. -/
structure Surroundings.Steady (s : Surroundings) : Prop where
  delay : ∀ calls, s.delay calls = 0
  launch : ∀ calls calls', s.launch calls = s.launch calls'
  create : ∀ calls calls', s.create calls = s.create calls'

/-! ## Alike -/

/-- Whether two visits have the same outcome, call runners alike and report the same. -/
structure Visit.Alike (s : Surroundings) (v v' : Visit) : Prop where
  outcome : v.outcome s = v'.outcome s
  calls : v.calls s = v'.calls s
  entries : v.entries s = v'.entries s

/-- Visits to the same rule report the same if they have the same outcome and call runners alike. -/
theorem Visit.Alike.of_outcome {s : Surroundings} {e e' : Engine} {alert : Alert} {rule : Rule}
    (outcome : Visit.outcome s ⟨e, alert, rule⟩ = Visit.outcome s ⟨e', alert, rule⟩)
    (calls : Visit.calls s ⟨e, alert, rule⟩ = Visit.calls s ⟨e', alert, rule⟩) :
    Visit.Alike s ⟨e, alert, rule⟩ ⟨e', alert, rule⟩ := by
  refine ⟨outcome, calls, ?_⟩
  unfold Visit.entries
  rw [outcome, calls]
  rfl

/-- Visits without an attempt are alike if they have the same outcome. -/
theorem Visit.Alike.of_no_attempt {s : Surroundings} {e e' : Engine} {alert : Alert} {rule : Rule}
    {outcome : RuleOutcome}
    (h : Visit.attempt? s ⟨e, alert, rule⟩ = none ∧ Visit.outcome s ⟨e, alert, rule⟩ = outcome)
    (h' : Visit.attempt? s ⟨e', alert, rule⟩ = none ∧ Visit.outcome s ⟨e', alert, rule⟩ = outcome) :
    Visit.Alike s ⟨e, alert, rule⟩ ⟨e', alert, rule⟩ := by
  refine .of_outcome (h.2.trans h'.2.symm) ?_
  rw [Visit.calls_of_no_attempt h.1, Visit.calls_of_no_attempt h'.1]

/-- Where answers are steady, every attempt goes as any other. -/
theorem Engine.plan_of_steady {s : Surroundings} (steady : s.Steady)
    (calls calls' : List RunnerCall) (rule : Rule) (alert : Alert) (action : Action) :
    plan s calls rule alert action = plan s calls' rule alert action := by
  cases action with
  | awx job =>
    unfold plan
    rw [steady.launch calls calls']
  | batch job =>
    unfold plan
    rw [steady.create calls calls']

/-! ## Agreement -/

/-- After a visit the memory has what it had before and, if it lasts, what has been attempted. -/
theorem Visit.has_next {s : Surroundings} (steady : s.Steady) {v : Visit} (a : Action) :
    (v.after s).memory.has (v.after s).clock a = (v.engine.memory.has v.engine.clock a ||
      (decide (0 < v.engine.memory.duration) && (v.attempt? s).any (· == a))) := by
  rw [v.clock_after steady.delay]
  rcases Nat.eq_zero_or_pos v.engine.memory.duration with hzero | hpos
  · rw [Memory.has_of_zero ((v.duration_after).trans hzero), Memory.has_of_zero hzero, hzero]
    rfl
  · rw [Visit.has_after steady.delay hpos, decide_eq_true hpos, Bool.true_and]

/-- Whether a rule asks for no action that equals the given one. -/
def Rule.Avoids (r : Rule) (alert : Alert) (action : Action) : Prop :=
  ∀ own, Engine.expandAction r alert = .ok own → (own == action) = false

/-- Whether the actions of two rules, if both can be expanded, are not equal. -/
def Rule.Apart (r other : Rule) (alert : Alert) : Prop :=
  ∀ action, Engine.expandAction other alert = .ok action → r.Avoids alert action

/-- Whether two engines remember the same, but for actions that equal that of a rule. -/
structure Agrees (r : Rule) (alert : Alert) (e e' : Engine) : Prop where
  clock : e.clock = e'.clock
  duration : e.memory.duration = e'.memory.duration
  has : ∀ a, r.Avoids alert a → e.memory.has e.clock a = e'.memory.has e'.clock a

namespace Agrees

variable {s : Surroundings} {alert : Alert} {e e' : Engine} {r : Rule}

/-- An engine agrees with itself. -/
theorem refl (r : Rule) (alert : Alert) (e : Engine) : Agrees r alert e e :=
  ⟨rfl, rfl, fun _ _ => rfl⟩

/-- **A visit to a rule leaves all other actions alone.** -/
theorem of_visit (steady : s.Steady) (e : Engine) :
    Agrees r alert (Visit.after s ⟨e, alert, r⟩) e := by
  refine ⟨Visit.clock_after _ steady.delay, Visit.duration_after _, fun a ha => ?_⟩
  have hany : (Visit.attempt? s ⟨e, alert, r⟩).any (· == a) = false := by
    rcases hattempt : Visit.attempt? s ⟨e, alert, r⟩ with _ | own
    · rfl
    · exact ha own (Visit.of_attempt hattempt).1
  rw [Visit.has_next steady, hany, Bool.and_false, Bool.or_false]

/-- Visits to the same rule attempt the same of what the engines agree on. -/
theorem any_attempt? (h : Agrees r alert e e') (rule : Rule) {a : Action}
    (ha : r.Avoids alert a) : (Visit.attempt? s ⟨e, alert, rule⟩).any (· == a)
      = (Visit.attempt? s ⟨e', alert, rule⟩).any (· == a) := by
  rcases hexpand : Engine.expandAction rule alert with cause | action
  · rw [(Visit.of_error (v := ⟨e, alert, rule⟩) hexpand).1,
      (Visit.of_error (v := ⟨e', alert, rule⟩) hexpand).1]
  · rw [Visit.attempt?_of_ok (v := ⟨e, alert, rule⟩) hexpand,
      Visit.attempt?_of_ok (v := ⟨e', alert, rule⟩) hexpand]
    by_cases heq : (action == a) = true
    · -- the engines agree on what equals something that they agree on
      have hhas := h.has action fun own hown => (BEq.congr_right heq).trans (ha own hown)
      simp only [hhas]
    · -- whatever is attempted does not count
      rw [Bool.not_eq_true] at heq
      simp only [apply_ite, Option.any_none, Option.any_some, heq, ite_self]

/-- **Visits to the same rule do not end an agreement.** -/
theorem visit (steady : s.Steady) (h : Agrees r alert e e') (rule : Rule) :
    Agrees r alert (Visit.after s ⟨e, alert, rule⟩) (Visit.after s ⟨e', alert, rule⟩) := by
  refine ⟨?_, ?_, fun a ha => ?_⟩
  · rw [Visit.clock_after _ steady.delay, Visit.clock_after _ steady.delay]
    exact h.clock
  · rw [Visit.duration_after, Visit.duration_after]
    exact h.duration
  · have hhas : e.memory.has e.clock a = e'.memory.has e'.clock a := h.has a ha
    rw [Visit.has_next steady, Visit.has_next steady, h.any_attempt? rule ha]
    show (e.memory.has e.clock a || decide (0 < e.memory.duration) && _) = _
    rw [hhas, h.duration]

/-- **Visits to the same rule are alike** if it asks for what the engines agree on. -/
theorem alike (steady : s.Steady) (h : Agrees r alert e e') {rule : Rule}
    (apart : r.Apart rule alert) : Visit.Alike s ⟨e, alert, rule⟩ ⟨e', alert, rule⟩ := by
  rcases hexpand : Engine.expandAction rule alert with cause | action
  · exact .of_no_attempt (Visit.of_error hexpand) (Visit.of_error hexpand)
  · have hhas : e.memory.has e.clock action = e'.memory.has e'.clock action :=
      h.has action (apart action hexpand)
    rcases Bool.eq_false_or_eq_true (e.memory.has e.clock action) with hknown | hnew
    · exact .of_no_attempt (Visit.of_has hexpand hknown)
        (Visit.of_has hexpand (hhas.symm.trans hknown))
    · have hattempt := (Visit.attempt?_eq_some_iff s (v := ⟨e, alert, rule⟩) hexpand).mpr hnew
      have hattempt' := (Visit.attempt?_eq_some_iff s (v := ⟨e', alert, rule⟩) hexpand).mpr
        (hhas.symm.trans hnew)
      obtain ⟨-, houtcome, hcalls⟩ := Visit.of_attempt hattempt
      obtain ⟨-, houtcome', hcalls'⟩ := Visit.of_attempt hattempt'
      have hplan : Engine.plan s e.calls rule alert action
          = Engine.plan s e'.calls rule alert action := Engine.plan_of_steady steady ..
      refine .of_outcome ?_ ?_
      · rw [houtcome, houtcome', hplan]
      · rw [hcalls, hcalls', hplan]

/-! ## Rules -/

/-- **Visits to several rules**, one after the other, are alike wherever a rule asks for what the
    engines agreed on in the beginning. -/
theorem visitRules (steady : s.Steady) :
    ∀ {e e' : Engine} (rules : List Rule), Agrees r alert e e' →
      List.Forall₂ (fun v v' => v.rule = v'.rule ∧ (r.Apart v.rule alert → Visit.Alike s v v'))
        (Engine.visitRules s alert e rules) (Engine.visitRules s alert e' rules)
  | _, _, [], _ => .nil
  | _, _, rule :: rest, h =>
    .cons ⟨rfl, h.alike steady⟩ (visitRules steady rest (h.visit steady rule))

end Agrees

/-! ## Alerts -/

namespace Engine

section Alerts

variable (s : Surroundings) (alert : Alert)

/-- Visits to some rules, and then to others. -/
theorem visitRules_append (m : List Rule) : ∀ (l : List Rule) (e : Engine),
    visitRules s alert e (l ++ m)
      = visitRules s alert e l ++ visitRules s alert (runRules s alert e l).2 m
  | [], _ => rfl
  | rule :: r, e => by
    have htail := visitRules_append m r (Visit.after s ⟨e, alert, rule⟩)
    exact congrArg (⟨e, alert, rule⟩ :: ·) htail

/-- What is activated of some rules and others. -/
theorem activated_append (l m : List Rule) :
    activated s alert (l ++ m) = activated s alert l ++ activated s alert m := by
  unfold activated
  cases alert.status with
  | firing => exact List.filter_append ..
  | resolved => rfl
  | unknown => rfl

/-- A firing alert activates the rules that match it; a rule that cannot tell does not. -/
theorem activated_of_firing (firing : alert.status = .firing) (rules : List Rule) :
    activated s alert rules
      = rules.filter fun rule => (rule.matches s.language alert).toOption = some true := by
  unfold activated
  rw [firing]
  refine List.filter_congr fun rule _ => ?_
  unfold activates
  rcases rule.matches s.language alert with cause | b
  · rfl
  · cases b <;> rfl

variable {s alert}

/-- Of a single rule either nothing is activated or the rule. -/
theorem activated_singleton (r : Rule) :
    activated s alert [r] = [] ∨ activated s alert [r] = [r] := by
  unfold activated
  cases alert.status with
  | firing =>
    by_cases h : activates s.language alert r = true
    · exact Or.inr (List.filter_cons_of_pos h)
    · exact Or.inl (List.filter_cons_of_neg h)
  | resolved => exact Or.inl rfl
  | unknown => exact Or.inl rfl

/-- Whether a rule is activated or not, all other actions are left alone. -/
theorem agrees_runRules (steady : s.Steady) (r : Rule) (e : Engine) :
    Agrees r alert (runRules s alert e (activated s alert [r])).2 e := by
  rcases activated_singleton r with h | h
  · rw [h]
    exact Agrees.refl r alert e
  · rw [h]
    exact Agrees.of_visit steady e

/-- An alert that is not firing is left alone. -/
theorem processWith_of_not_firing (quiet : alert.status ≠ .firing) (e : Engine)
    (rules : List Rule) :
    (e.processWith s alert rules).1.rules = [] ∧ (e.processWith s alert rules).2 = e := by
  unfold processWith
  split
  · rename_i firing
    exact absurd firing quiet
  · exact ⟨rfl, rfl⟩

end Alerts

/-! ## Isolation -/

/-- **A rule is no concern of the others.**  Take an engine that finds its runners steady, and an
    alert.

    - If the alert is firing, then whatever the rules are, the report has an entry for each of them
      that matches, in their order, and no others.
    - What is reported, called and counted is what the visits report, call and count.
    - With a rule somewhere among others, and without it, the same visits come before; and behind it
      the same rules are visited, alike if their actions do not equal that of the rule.
    - If the alert is not firing, nothing is reported, and nothing changes. -/
theorem isolated {s : Surroundings} (steady : s.Steady) (e : Engine) (alert : Alert) :
    (alert.status = .firing → ∀ rules, (e.processWith s alert rules).1.rules.map (·.rule)
      = (rules.filter fun rule => (rule.matches s.language alert).toOption = some true).map
          (·.name)) ∧
    (∀ rules, (e.processWith s alert rules).1.rules
        = (e.visits s alert rules).map (Visit.report s) ∧
      (e.processWith s alert rules).2.calls
        = (e.visits s alert rules).reverse.flatMap (Visit.calls s) ++ e.calls ∧
      (e.processWith s alert rules).2.metrics
        = ((e.visits s alert rules).flatMap (Visit.entries s)).foldl Metrics.record e.metrics) ∧
    (∀ before r after, ∃ front own back back',
      e.visits s alert (before ++ r :: after) = front ++ own ++ back ∧
      e.visits s alert (before ++ after) = front ++ back' ∧
      front.map Visit.rule = activated s alert before ∧
      own.map Visit.rule = activated s alert [r] ∧
      back.map Visit.rule = activated s alert after ∧
      List.Forall₂ (fun v v' => v.rule = v'.rule ∧ (r.Apart v.rule alert → Visit.Alike s v v'))
        back back') ∧
    (alert.status ≠ .firing → ∀ rules,
      (e.processWith s alert rules).1.rules = [] ∧ (e.processWith s alert rules).2 = e) := by
  refine ⟨fun firing rules => ?_, fun rules => ?_, fun before r after => ?_,
    fun quiet rules => processWith_of_not_firing quiet e rules⟩
  · have hrules := visitRules_map_rule s alert (activated s alert rules) e
    rw [activated_of_firing s alert firing] at hrules
    rw [(e.processWith_spec s alert rules).1, ← hrules, List.map_map, List.map_map]
    rw [visits, activated_of_firing s alert firing]
    rfl
  · obtain ⟨hreport, hafter⟩ := e.processWith_spec s alert rules
    rw [hafter]
    exact ⟨hreport, runRules_calls s alert _ e, runRules_metrics s alert _ e⟩
  · -- the engine when it is the turn of the rule
    let reached := (runRules s alert e (activated s alert before)).2
    have hagrees : Agrees r alert (runRules s alert reached (activated s alert [r])).2 reached :=
      agrees_runRules steady r reached
    have hrule : r :: after = [r] ++ after := rfl
    refine ⟨visitRules s alert e (activated s alert before),
      visitRules s alert reached (activated s alert [r]), _, _, ?_, ?_, visitRules_map_rule ..,
      visitRules_map_rule .., visitRules_map_rule s alert (activated s alert after) _,
      hagrees.visitRules steady (activated s alert after)⟩
    · unfold visits
      rw [hrule, activated_append, activated_append, visitRules_append, visitRules_append,
        List.append_assoc]
    · unfold visits
      rw [activated_append, visitRules_append]

end Engine

namespace Broken

/-- Surroundings in which no job of AWX can be launched, but every batch job is created. -/
def around : Surroundings where
  language := fun _ => none
  launch := fun _ _ _ => .error (.notConfigured "AWX")
  create := fun _ _ => .ok .created

/-- Nothing depends on when it is asked. -/
theorem steady : around.Steady := ⟨fun _ => rfl, fun _ _ => rfl, fun _ _ => rfl⟩

/-- A rule for all alerts that launches a job of AWX. -/
def restart : Rule := { name := "restart", action := .awx { template := "Restart" } }

/-- A rule with a pattern that is not valid. -/
def unclear : Rule :=
  { name := "unclear", labels := (∅ : KeyMap String String).insert "alertname" "["
    action := .awx { template := "Restart" } }

/-- A rule for all alerts that creates a batch job. -/
def clean : Rule :=
  { name := "clean"
    action := .batch { metadata := (∅ : KeyMap String Json).insert "name" (.str "cleanup") } }

/-- An alert. -/
def alert : Alert := { labels := (∅ : KeyMap String String).insert "alertname" "NodeDown" }

/-- The visit to the rule whose job cannot be launched. -/
def failing : Visit := ⟨.start 10, alert, restart⟩

/-- The visit to the rule that creates a batch job, after that. -/
def behind : Visit := ⟨failing.after around, alert, clean⟩

/-- The visit to the rule that creates a batch job when the other one is not there. -/
def alone : Visit := ⟨.start 10, alert, clean⟩

/-- The job that cannot be launched does not keep the batch job from being created, nor does the
    pattern that is not valid. -/
theorem isolated_of_broken :
    ((Engine.start 10).processWith around alert [restart, unclear, clean]).1.rules.map (·.rule)
        = ["restart", "clean"] ∧
      failing.outcome around = .dispatchFailed (.notConfigured "AWX") ∧
      alone.outcome around = .dispatched ∧ behind.Alike around alone := by
  obtain ⟨hreport, -, htwo, -⟩ := Engine.isolated steady (.start 10) alert
  refine ⟨(hreport rfl [restart, unclear, clean]).trans rfl, rfl, rfl, ?_⟩
  obtain ⟨front, own, back, back', hwith, hwithout, hfront, hown, -, halike⟩ :=
    htwo [] restart [unclear, clean]
  have hvisits : [failing, behind] = front ++ own ++ back := hwith
  have hvisits' : [alone] = front ++ back' := hwithout
  obtain rfl : front = [] := List.map_eq_nil_iff.mp hfront
  obtain ⟨w, rfl, -⟩ := List.map_eq_singleton_iff.mp hown
  obtain ⟨-, rfl⟩ := List.cons.inj hvisits
  obtain rfl : [alone] = back' := hvisits'
  -- the two rules ask for actions of different kinds
  have hrestart : Engine.expandAction restart alert = .ok restart.action := rfl
  have hclean : Engine.expandAction clean alert = .ok clean.action := rfl
  refine (List.forall₂_cons.mp halike).1.2 fun action haction ran hran => ?_
  have heq : action = clean.action := Except.ok.inj (haction.symm.trans hclean)
  have heq' : ran = restart.action := Except.ok.inj (hran.symm.trans hrestart)
  rw [heq, heq']
  rfl

end Broken

end Healing
