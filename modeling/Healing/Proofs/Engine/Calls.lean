/-
  What an attempt calls.

  An attempt calls one runner at most, and only a runner decides what comes of it.  So all that is
  to be known of an attempt can be told before it is made: from the rule, the action and the alert,
  and from what was called before.

  1. **Attempts** - `Engine.plan`: the call that an attempt makes and what comes of it
     (`attempt_plan`).
  2. **Visits** - a visit goes like its attempt (`Visit.of_attempt`), and makes no call without one
     (`Visit.calls_of_no_attempt`): when its action cannot be expanded (`Visit.of_error`) or is
     remembered (`Visit.of_has`, `Visit.has_of_throttled`).
  3. **Alerts** - the calls for an alert are those of its visits (`Engine.runRules_calls`).
-/
import Healing.Proofs.Engine.Chronicle

namespace Healing

/-! ## Attempts -/

/-- The outcome of an attempt that ends in some way. -/
def RuleOutcome.ofResult : Except RunnerError Unit → RuleOutcome
  | .ok () => .dispatched
  | .error cause => .dispatchFailed cause

namespace Engine

/-- The call that a dispatch makes after some calls, and what comes of it.  No call is made for a
    batch job that cannot be made ready. -/
def plan (s : Surroundings) (calls : List RunnerCall) (rule : Rule) (alert : Alert) :
    Action → Option RunnerCall × Except RunnerError Unit
  | .awx job =>
    let answer := s.launch calls job alert
    (some (.launched job alert answer), answer.map fun _ => ())
  | .batch job =>
    match rule.prepare job with
    | .error cause => (none, .error cause)
    | .ok ready =>
      let answer := s.create calls ready
      (some (.created ready answer), answer.map fun _ => ())

section Attempts

variable (e : Engine) (s : Surroundings) (rule : Rule) (action : Action) (alert : Alert)

/-- A dispatch goes as planned. -/
theorem dispatch_plan :
    (e.dispatch s rule action alert).1 = (plan s e.calls rule alert action).2 ∧
    (e.dispatch s rule action alert).2.calls
      = (plan s e.calls rule alert action).1.toList ++ e.calls := by
  rcases dispatch_cases e s rule action alert with ⟨job, id, rfl, hanswer, h⟩ |
    ⟨job, cause, rfl, hanswer, h⟩ | ⟨job, cause, rfl, hready, h⟩ |
    ⟨job, ready, rfl, hready, hanswer, h⟩ | ⟨job, ready, rfl, hready, hanswer, h⟩ |
    ⟨job, ready, cause, rfl, hready, hanswer, h⟩
  · simp [h, plan, hanswer, Except.map, answered]
  · simp [h, plan, hanswer, Except.map, answered]
  · simp [h, plan, hready]
  all_goals simp [h, plan, hready, hanswer, Except.map, answered]

/-- **An attempt goes as planned.** -/
theorem attempt_plan :
    (e.attempt s rule action alert).1 = .ofResult (plan s e.calls rule alert action).2 ∧
    (e.attempt s rule action alert).2.calls
      = (plan s e.calls rule alert action).1.toList ++ e.calls := by
  obtain ⟨hresult, hcalls⟩ := dispatch_plan e s rule action alert
  unfold attempt
  rw [← hresult, ← hcalls]
  generalize e.dispatch s rule action alert = done
  obtain ⟨result, e'⟩ := done
  cases result with
  | ok _ => exact ⟨rfl, rfl⟩
  | error cause => exact ⟨rfl, rfl⟩

end Attempts

end Engine

/-! ## Visits -/

namespace Visit

variable {s : Surroundings} {v : Visit}

/-- A visit without an attempt calls nobody. -/
theorem calls_of_no_attempt (h : v.attempt? s = none) : v.calls s = [] := by
  rcases v.cases s with ⟨cause, -, -, -, hafter⟩ | ⟨action, -, -, -, -, hafter⟩ |
    ⟨action, -, -, -, hsome, -⟩
  · exact calls_eq (by rw [hafter]; rfl)
  · exact calls_eq (by rw [hafter]; rfl)
  · rw [h] at hsome
    cases hsome

/-- **A visit goes like its attempt.** -/
theorem of_attempt {action : Action} (h : v.attempt? s = some action) :
    Engine.expandAction v.rule v.alert = .ok action ∧
      v.outcome s = .ofResult (Engine.plan s v.engine.calls v.rule v.alert action).2 ∧
      v.calls s = (Engine.plan s v.engine.calls v.rule v.alert action).1.toList := by
  rcases v.cases s with ⟨cause, -, -, hnone, -⟩ | ⟨other, -, -, -, hnone, -⟩ |
    ⟨other, hexpand, hhas, -, hsome, hafter⟩
  · rw [h] at hnone
    cases hnone
  · rw [h] at hnone
    cases hnone
  · rw [h] at hsome
    cases hsome
    obtain ⟨houtcome, hcalls⟩ := Engine.attempt_plan (v.engine.request v.rule action v.alert) s
      v.rule action v.alert
    refine ⟨hexpand, ?_, calls_eq ?_⟩
    · unfold outcome
      rw [Engine.runRule_of_ok v.engine s hexpand, Engine.runAction_of_not_has v.engine s hhas]
      exact houtcome
    · rw [hafter]
      exact hcalls

/-- A visit to a rule whose action cannot be expanded. -/
theorem of_error {cause : ExpansionError}
    (h : Engine.expandAction v.rule v.alert = .error cause) :
    v.attempt? s = none ∧ v.outcome s = .expansionFailed cause := by
  rcases v.cases s with ⟨cause', hexpand, houtcome, hnone, -⟩ | ⟨action, hexpand, -, -, -, -⟩ |
    ⟨action, hexpand, -, -, -, -⟩
  · rw [h] at hexpand
    cases hexpand
    exact ⟨hnone, houtcome⟩
  · rw [h] at hexpand
    cases hexpand
  · rw [h] at hexpand
    cases hexpand

/-- An action is throttled if an equal one is remembered. -/
theorem of_has {action : Action} (h : Engine.expandAction v.rule v.alert = .ok action)
    (hhas : v.engine.memory.has v.engine.clock action = true) :
    v.attempt? s = none ∧ v.outcome s = .throttled := by
  have hrun := (Engine.runRule_of_ok v.engine s h).trans (Engine.runAction_of_has v.engine s hhas)
  have houtcome : v.outcome s = .throttled := congrArg Prod.fst hrun
  unfold attempt?
  rw [houtcome]
  exact ⟨rfl, rfl⟩

/-- An equal action is remembered if one is throttled. -/
theorem has_of_throttled {action : Action} (h : Engine.expandAction v.rule v.alert = .ok action)
    (throttled : v.outcome s = .throttled) :
    v.engine.memory.has v.engine.clock action = true := by
  rcases v.cases s with ⟨cause, hexpand, -, -, -⟩ | ⟨other, hexpand, hhas, -, -, -⟩ |
    ⟨other, -, -, hattempt, -, -⟩
  · rw [h] at hexpand
    cases hexpand
  · rw [h] at hexpand
    cases hexpand
    exact hhas
  · rw [throttled] at hattempt
    cases hattempt

/-- An action that can be expanded is attempted unless an equal one is remembered. -/
theorem attempt?_of_ok {action : Action} (h : Engine.expandAction v.rule v.alert = .ok action) :
    v.attempt? s
      = if v.engine.memory.has v.engine.clock action then none else some action := by
  split
  · rename_i hhas
    exact (of_has h hhas).1
  · rename_i hhas
    exact (attempt?_eq_some_iff s h).mpr ((Bool.not_eq_true _).mp hhas)

variable (s v)

/-- The calls that a visit makes come after those before it. -/
theorem calls_after : (v.after s).calls = v.calls s ++ v.engine.calls := by
  have hcalls : ∃ made, (v.after s).calls = made ++ v.engine.calls := by
    rcases v.cases s with ⟨cause, -, -, -, h⟩ | ⟨action, -, -, -, -, h⟩ | ⟨action, -, -, -, -, h⟩
    · exact ⟨[], by rw [h]; rfl⟩
    · exact ⟨[], by rw [h]; rfl⟩
    · rw [h]
      exact ⟨_, (Engine.attempt_plan (v.engine.request v.rule action v.alert) s v.rule action
        v.alert).2⟩
  obtain ⟨made, hmade⟩ := hcalls
  rw [calls_eq hmade, hmade]

end Visit

/-! ## Alerts -/

/-- What visits to some rules call. -/
theorem Engine.runRules_calls (s : Surroundings) (alert : Alert) :
    ∀ (rules : List Rule) (e : Engine), (runRules s alert e rules).2.calls
      = (visitRules s alert e rules).reverse.flatMap (Visit.calls s) ++ e.calls
  | [], _ => rfl
  | rule :: r, e => by
    have htail := runRules_calls s alert r (Visit.after s ⟨e, alert, rule⟩)
    have hhead : (Visit.after s ⟨e, alert, rule⟩).calls = _ ++ e.calls := Visit.calls_after s _
    rw [hhead, ← List.append_assoc] at htail
    refine htail.trans (congrArg (· ++ e.calls) ?_)
    rw [visitRules, List.reverse_cons, List.flatMap_append, List.flatMap_singleton]
    rfl

end Healing
