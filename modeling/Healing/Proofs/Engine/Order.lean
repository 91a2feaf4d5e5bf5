/-
  The order of the rules does not matter.

  Nobody promises in which order the rules of a store are visited.  Rules that ask for equal actions
  take each other's place: which of them is dispatched and which is throttled depends on the order.
  While the clock stands still that is all that depends on it.

  1. **Firsts** - `firsts`: of some actions, those that are let through when equal ones are let
     through once.  How many there are is a matter of membership (`countP_firsts`).
  2. **Visits** - what a visit does to the memory and to the table of requests when no time passes.
  3. **Alerts** - the attempts of an alert are the firsts of the actions that are asked for
     (`attempted_eq_firsts`), and they are what the memory gains (`runRules_live`).
  4. **Requests and failures** - both are a matter of the rules and the alert alone.
  5. **Orders** - `Engine.processWith_order`: two orders of the same rules have the same effect;
     `Shared` shows it for two rules that share an action.
-/
import Healing.Proofs.Engine.Calls
import Healing.Proofs.Equality
import Healing.Proofs.KeyMap

namespace Healing

open Memory (Cell)

universe u

/-! ## Firsts -/

section Firsts

variable {α : Type u} [BEq α]

/-- The items that are let through: none that is known, and of equal ones the first. -/
def firsts (known : α → Bool) : List α → List α
  | [] => []
  | a :: r => if known a then firsts known r else a :: firsts (fun b => known b || a == b) r

/-- **An item is let through once** if it is there and not known, and else never. -/
theorem countP_firsts [EquivBEq α] (a : α) :
    ∀ {known : α → Bool} (l : List α), (∀ b c, (b == c) = true → known b = known c) →
      (firsts known l).countP (· == a) = if !known a && l.any (· == a) then 1 else 0
  | known, [], _ => by simp [firsts]
  | known, b :: r, hknown => by
    unfold firsts
    by_cases hb : known b = true
    · -- it is not let through, and neither is the item in question if the two are equal
      rw [if_pos hb, countP_firsts a r hknown, List.any_cons]
      by_cases hba : (b == a) = true
      · rw [← hknown b a hba, hb]
        rfl
      · rw [Bool.not_eq_true] at hba
        rw [hba, Bool.false_or]
    · -- it is let through, and is known to the rest
      have hnext : ∀ c d, (c == d) = true → (known c || b == c) = (known d || b == d) := by
        intro c d hcd
        rw [hknown c d hcd, BEq.congr_right hcd]
      rw [if_neg hb, List.countP_cons, countP_firsts a r hnext, List.any_cons]
      by_cases hba : (b == a) = true
      · rw [Bool.not_eq_true] at hb
        rw [← hknown b a hba, hb, hba]
        rfl
      · rw [Bool.not_eq_true] at hba
        rw [hba, Bool.or_false, Bool.false_or]
        rfl

end Firsts

/-! ## Visits -/

namespace Visit

variable {s : Surroundings} (v : Visit)

/-- No time passes where all answers come at once. -/
theorem clock_after (frozen : ∀ calls, s.delay calls = 0) :
    (v.after s).clock = v.engine.clock := by
  rcases v.cases s with ⟨cause, -, -, -, h⟩ | ⟨action, -, -, -, -, h⟩ | ⟨action, -, -, -, -, h⟩
  · rw [h]
  · rw [h]
    rfl
  · rw [h]
    obtain ⟨-, -, -, -, hclock | ⟨call, hclock⟩⟩ :=
      Engine.attempt_spec (v.engine.request v.rule action v.alert) s v.rule action v.alert
    · exact hclock
    · exact hclock.trans (congrArg (v.engine.clock + ·) (frozen _))

/-- The duration of the memory stays as it is. -/
theorem duration_after : (v.after s).memory.duration = v.engine.memory.duration := by
  rcases v.memory_after s with ⟨-, -, h | h⟩ | ⟨action, -, -, -, h⟩
  · rw [h]
  · rw [h, Memory.duration_asked]
  · rw [h, Memory.duration_add, Memory.duration_asked]

variable {v}

/-- After a visit the memory has what it had before, and what has been attempted. -/
theorem has_after (frozen : ∀ calls, s.delay calls = 0) (hpos : 0 < v.engine.memory.duration)
    (b : Action) : (v.after s).memory.has v.engine.clock b
      = (v.engine.memory.has v.engine.clock b || (v.attempt? s).any (· == b)) := by
  have hasked := v.engine.memory.has_asked v.engine.clock
  rcases v.memory_after s with ⟨hnone, -, h | h⟩ | ⟨action, hsome, hhas, -, h⟩
  · rw [h, hnone, Option.any_none, Bool.or_false]
  · rw [h, hnone, Option.any_none, Bool.or_false, hasked]
  · have hpos' : 0 < (v.engine.memory.asked v.engine.clock).duration := by
      rwa [Memory.duration_asked]
    rw [h, v.clock_after frozen, hsome, Option.any_some,
      Memory.has_add hpos' ((hasked action).trans hhas), hasked]

/-- After a visit what was alive before is alive, and what has been attempted. -/
theorem live_after (frozen : ∀ calls, s.delay calls = 0) (hpos : 0 < v.engine.memory.duration) :
    (v.after s).memory.live v.engine.clock = v.engine.memory.live v.engine.clock
      ++ (v.attempt? s).toList.map (⟨·, v.engine.clock⟩) := by
  have hasked := v.engine.memory.live_asked v.engine.clock
  rcases v.memory_after s with ⟨hnone, -, h | h⟩ | ⟨action, hsome, hhas, -, h⟩
  · rw [h, hnone]
    exact (List.append_nil _).symm
  · rw [h, hnone, hasked]
    exact (List.append_nil _).symm
  · have hpos' : 0 < (v.engine.memory.asked v.engine.clock).duration := by
      rwa [Memory.duration_asked]
    have hhas' := (v.engine.memory.has_asked v.engine.clock action).trans hhas
    rw [h, v.clock_after frozen, hsome, Memory.live_add hpos' hhas' (Nat.le_refl _), hasked]
    rfl

end Visit

/-! ## Alerts -/

namespace Engine

/-- The actions that some rules ask for, as far as they can be expanded. -/
def wanted (alert : Alert) (rules : List Rule) : List Action :=
  rules.filterMap fun rule => (expandAction rule alert).toOption

/-- The actions that are attempted by visits to some rules. -/
def attempted (e : Engine) (s : Surroundings) (alert : Alert) (rules : List Rule) : List Action :=
  (visitRules s alert e rules).filterMap (Visit.attempt? s)

section Attempts

variable {s : Surroundings} {alert : Alert} {e : Engine} {rule : Rule} (r : List Rule)

/-- A rule whose action cannot be expanded asks for nothing. -/
theorem wanted_of_error {cause : ExpansionError} (h : expandAction rule alert = .error cause) :
    wanted alert (rule :: r) = wanted alert r :=
  List.filterMap_cons_none (congrArg Except.toOption h)

/-- A rule asks for its expanded action. -/
theorem wanted_of_ok {action : Action} (h : expandAction rule alert = .ok action) :
    wanted alert (rule :: r) = action :: wanted alert r :=
  List.filterMap_cons_some (congrArg Except.toOption h)

/-- A visit without an attempt is skipped. -/
theorem attempted_of_none (h : Visit.attempt? s ⟨e, alert, rule⟩ = none) :
    e.attempted s alert (rule :: r) = (Visit.after s ⟨e, alert, rule⟩).attempted s alert r :=
  List.filterMap_cons_none h

/-- The attempt of a visit comes before those of the visits behind it. -/
theorem attempted_of_some {action : Action} (h : Visit.attempt? s ⟨e, alert, rule⟩ = some action) :
    e.attempted s alert (rule :: r)
      = action :: (Visit.after s ⟨e, alert, rule⟩).attempted s alert r :=
  List.filterMap_cons_some h

/-- Without a duration everything that is asked for is attempted. -/
theorem attempted_eq_wanted :
    ∀ {e : Engine} (rules : List Rule), e.memory.duration = 0 →
      e.attempted s alert rules = wanted alert rules
  | _, [], _ => rfl
  | e, rule :: r, hzero => by
    have htail := attempted_eq_wanted (e := Visit.after s ⟨e, alert, rule⟩) r
      ((Visit.duration_after _).trans hzero)
    rcases Visit.cases s ⟨e, alert, rule⟩ with ⟨cause, hexpand, -, hnone, -⟩ |
      ⟨action, -, hhas, -, -, -⟩ | ⟨action, hexpand, -, -, hsome, -⟩
    · rw [attempted_of_none r hnone, wanted_of_error r hexpand, htail]
    · -- nothing is remembered
      have := Memory.has_of_zero hzero e.clock action
      rw [hhas] at this
      cases this
    · rw [attempted_of_some r hsome, wanted_of_ok r hexpand, htail]

/-- **The attempts are the firsts** of what is asked for. -/
theorem attempted_eq_firsts (frozen : ∀ calls, s.delay calls = 0) :
    ∀ {e : Engine} (rules : List Rule), 0 < e.memory.duration →
      e.attempted s alert rules = firsts (e.memory.has e.clock) (wanted alert rules)
  | _, [], _ => rfl
  | e, rule :: r, hpos => by
    have htail := attempted_eq_firsts (e := Visit.after s ⟨e, alert, rule⟩) frozen r
      (Nat.lt_of_lt_of_eq hpos (Visit.duration_after ⟨e, alert, rule⟩).symm)
    -- what is attempted is what becomes known
    have hnext : (Visit.after s ⟨e, alert, rule⟩).memory.has (Visit.after s ⟨e, alert, rule⟩).clock
        = fun b => e.memory.has e.clock b || (Visit.attempt? s ⟨e, alert, rule⟩).any (· == b) := by
      rw [Visit.clock_after _ frozen]
      exact funext (Visit.has_after (v := ⟨e, alert, rule⟩) frozen hpos)
    rw [hnext] at htail
    rcases Visit.cases s ⟨e, alert, rule⟩ with ⟨cause, hexpand, -, hnone, -⟩ |
      ⟨action, hexpand, hhas, -, hnone, -⟩ | ⟨action, hexpand, hhas, -, hsome, -⟩
    · rw [attempted_of_none r hnone, wanted_of_error r hexpand, htail, hnone]
      simp only [Option.any_none, Bool.or_false]
    · rw [attempted_of_none r hnone, wanted_of_ok r hexpand, htail, hnone, firsts, if_pos hhas]
      simp only [Option.any_none, Bool.or_false]
    · rw [attempted_of_some r hsome, wanted_of_ok r hexpand, htail, hsome, firsts,
        if_neg (Bool.eq_false_iff.mp hhas)]
      rfl

/-- What is alive after some visits is what was alive before, and what has been attempted. -/
theorem runRules_live (frozen : ∀ calls, s.delay calls = 0) :
    ∀ {e : Engine} (rules : List Rule), 0 < e.memory.duration →
      (runRules s alert e rules).2.memory.live e.clock
        = e.memory.live e.clock ++ (e.attempted s alert rules).map (⟨·, e.clock⟩)
  | _, [], _ => (List.append_nil _).symm
  | e, rule :: r, hpos => by
    have htail := runRules_live (e := Visit.after s ⟨e, alert, rule⟩) frozen r
      (Nat.lt_of_lt_of_eq hpos (Visit.duration_after ⟨e, alert, rule⟩).symm)
    rw [Visit.clock_after _ frozen, Visit.live_after frozen hpos, List.append_assoc] at htail
    refine htail.trans (congrArg (e.memory.live e.clock ++ ·) ?_)
    rcases hattempt : Visit.attempt? s ⟨e, alert, rule⟩ with _ | action
    · rw [attempted_of_none r hattempt]
      rfl
    · rw [attempted_of_some r hattempt]
      rfl

/-- Visits leave the duration of the memory alone. -/
theorem runRules_duration :
    ∀ {e : Engine} (rules : List Rule),
      (runRules s alert e rules).2.memory.duration = e.memory.duration
  | _, [] => rfl
  | e, rule :: r => by
    have htail := runRules_duration (e := Visit.after s ⟨e, alert, rule⟩) r
    exact htail.trans (Visit.duration_after _)

/-- **How often an action is attempted** depends on what is asked for, but not on the order. -/
theorem countP_attempted (frozen : ∀ calls, s.delay calls = 0) (e : Engine) (rules : List Rule)
    (action : Action) :
    (e.attempted s alert rules).countP (· == action)
      = if e.memory.duration = 0 then (wanted alert rules).countP (· == action)
        else if !e.memory.has e.clock action && (wanted alert rules).any (· == action) then 1
        else 0 := by
  split
  · rename_i hzero
    rw [attempted_eq_wanted rules hzero]
  · rename_i hne
    have hknown : ∀ b c : Action, (b == c) = true →
        e.memory.has e.clock b = e.memory.has e.clock c :=
      fun b c hbc => e.memory.has_congr e.clock hbc
    rw [attempted_eq_firsts frozen rules (Nat.pos_of_ne_zero hne), countP_firsts action _ hknown]

end Attempts

/-! ## Requests and failures -/

/-- Count one more in a series. -/
def tally (table : KeyMap SeriesKey Nat) (key : SeriesKey) : KeyMap SeriesKey Nat :=
  table.insert key ((table.get? key).getD 0 + 1)

/-- It does not matter what is counted first. -/
theorem tally_comm (table : KeyMap SeriesKey Nat) (key key' : SeriesKey) :
    tally (tally table key) key' = tally (tally table key') key := by
  by_cases h : key = key'
  · rw [h]
  · unfold tally
    rw [KeyMap.get?_insert, if_neg (Ne.symm h), KeyMap.get?_insert, if_neg h,
      KeyMap.insert_comm table h]

/-- The series in which the request of a rule is counted. -/
def series? (alert : Alert) (rule : Rule) : Option SeriesKey :=
  match expandAction rule alert with
  | .error _ => none
  | .ok action => some [action.kind.word, rule.name, alert.name]

/-- The table of requests after a visit: a rule whose action can be expanded is counted, whatever
    else comes of it. -/
theorem requestedTable_after (s : Surroundings) (v : Visit) :
    (v.after s).metrics.requestedTable
      = (series? v.alert v.rule).toList.foldl tally v.engine.metrics.requestedTable := by
  unfold series?
  rcases v.cases s with ⟨cause, hexpand, -, -, hafter⟩ | ⟨action, hexpand, -, -, -, hafter⟩ |
    ⟨action, hexpand, -, -, -, hafter⟩
  · rw [hexpand, hafter]
    rfl
  · rw [hexpand, hafter]
    rfl
  · obtain ⟨-, -, -, htable, -⟩ :=
      attempt_spec (v.engine.request v.rule action v.alert) s v.rule action v.alert
    rw [hexpand, hafter, htable]
    rfl

/-- The table of requests after several visits. -/
theorem runRules_requestedTable (s : Surroundings) (alert : Alert) :
    ∀ (rules : List Rule) (e : Engine), (runRules s alert e rules).2.metrics.requestedTable
      = (rules.filterMap (series? alert)).foldl tally e.metrics.requestedTable
  | [], _ => rfl
  | rule :: r, e => by
    have htail := runRules_requestedTable s alert r (Visit.after s ⟨e, alert, rule⟩)
    rw [requestedTable_after] at htail
    refine htail.trans ?_
    rw [List.filterMap_cons]
    cases series? alert rule with
    | none => rfl
    | some key => rfl

/-- The report on a rule whose action cannot be expanded. -/
def failure? (alert : Alert) (rule : Rule) : Option RuleReport :=
  match expandAction rule alert with
  | .error cause => some ⟨rule.name, .expansionFailed cause⟩
  | .ok _ => none

/-- The report of a visit tells of a failed expansion iff there is one. -/
theorem guard_isExpansionFailure (s : Surroundings) (v : Visit) :
    Option.guard (·.outcome.isExpansionFailure) (v.report s) = failure? v.alert v.rule := by
  unfold failure? Visit.report Option.guard
  rcases v.cases s with ⟨cause, hexpand, houtcome, -, -⟩ | ⟨action, hexpand, -, houtcome, -, -⟩ |
    ⟨action, hexpand, -, houtcome, -, -⟩
  · rw [hexpand, houtcome]
    rfl
  · rw [hexpand, houtcome]
    rfl
  · rw [hexpand]
    cases hattempt : v.outcome s with
    | dispatched => rfl
    | dispatchFailed cause => rfl
    | throttled => rw [hattempt] at houtcome; cases houtcome
    | expansionFailed cause => rw [hattempt] at houtcome; cases houtcome

/-- The reports on failed expansions depend on nothing but the rules and the alert. -/
theorem filter_isExpansionFailure (s : Surroundings) (alert : Alert) :
    ∀ (rules : List Rule) (e : Engine),
      ((visitRules s alert e rules).map (Visit.report s)).filter (·.outcome.isExpansionFailure)
        = rules.filterMap (failure? alert)
  | [], _ => rfl
  | rule :: r, e => by
    have htail := filter_isExpansionFailure s alert r (Visit.after s ⟨e, alert, rule⟩)
    have hhead : Option.guard (·.outcome.isExpansionFailure) (Visit.report s ⟨e, alert, rule⟩)
        = failure? alert rule := guard_isExpansionFailure s ⟨e, alert, rule⟩
    rw [← List.filterMap_eq_filter] at htail ⊢
    rw [visitRules, List.map_cons, List.filterMap_cons, List.filterMap_cons, hhead]
    cases failure? alert rule with
    | none => exact htail
    | some report => exact congrArg (report :: ·) htail

/-! ## Orders -/

section Orders

variable {s : Surroundings} {alert : Alert} {rules rules' : List Rule}

/-- The same rules are activated in another order. -/
theorem activated_perm (s : Surroundings) (alert : Alert) (h : rules.Perm rules') :
    (activated s alert rules).Perm (activated s alert rules') := by
  unfold activated
  cases alert.status with
  | firing => exact h.filter _
  | resolved => exact List.Perm.refl _
  | unknown => exact List.Perm.refl _

/-- In another order every action is attempted equally often. -/
theorem countP_attempted_perm (frozen : ∀ calls, s.delay calls = 0) (e : Engine)
    (h : rules.Perm rules') (action : Action) :
    (e.attempted s alert rules).countP (· == action)
      = (e.attempted s alert rules').countP (· == action) := by
  have hwanted : (wanted alert rules).Perm (wanted alert rules') := h.filterMap _
  have hany : (wanted alert rules).any (· == action) = (wanted alert rules').any (· == action) := by
    rw [Bool.eq_iff_iff, List.any_eq_true, List.any_eq_true]
    simp only [hwanted.mem_iff]
  rw [countP_attempted frozen, countP_attempted frozen, hwanted.countP_eq, hany]

/-- Whether every cell has a counterpart with an equal item and the same stamp. -/
def Within (l m : List (Cell Action)) : Prop :=
  ∀ c ∈ l, ∃ d ∈ m, (c.item == d.item) = true ∧ c.stamp = d.stamp

/-- In another order equal actions are remembered with the same stamps. -/
theorem live_within_perm (frozen : ∀ calls, s.delay calls = 0) (e : Engine)
    (h : rules.Perm rules') :
    Within ((runRules s alert e rules).2.memory.live e.clock)
      ((runRules s alert e rules').2.memory.live e.clock) := by
  rcases Nat.eq_zero_or_pos e.memory.duration with hzero | hpos
  · rw [Memory.live_eq_nil_of_zero ((runRules_duration rules).trans hzero)]
    intro c hc
    cases hc
  · rw [runRules_live frozen rules hpos, runRules_live frozen rules' hpos]
    intro c hc
    rcases List.mem_append.mp hc with hc | hc
    · exact ⟨c, List.mem_append_left _ hc, BEq.rfl, rfl⟩
    · -- an action that is attempted has an equal one that is attempted in the other order
      obtain ⟨action, haction, rfl⟩ := List.mem_map.mp hc
      have hcount : 0 < (e.attempted s alert rules).countP (· == action) :=
        List.countP_pos_iff.mpr ⟨action, haction, BEq.rfl⟩
      rw [countP_attempted_perm frozen e h] at hcount
      obtain ⟨other, hother, heq⟩ := List.countP_pos_iff.mp hcount
      exact ⟨⟨other, e.clock⟩, List.mem_append_right _ (List.mem_map_of_mem hother),
        BEq.symm heq, rfl⟩

/-- **The order of the rules does not matter** while the clock stands still.  In two orders of the
    rules in force

    - the same rules are reported, and the same expansions fail;
    - the same actions are attempted, equally often;
    - the same requests are counted;
    - the same actions are remembered with the same stamps;
    - with a throttle an action that some activated rule asks for is attempted once, unless it is
      remembered before, and then never; and what is remembered is what is alive, if the memory is
      in order.

    In any order what is called is what the visits call, and these call nobody without an attempt,
    and with one the runner of the action, as planned. -/
theorem processWith_order (frozen : ∀ calls, s.delay calls = 0) (e : Engine)
    (order : rules.Perm e.rules.snapshot) (order' : rules'.Perm e.rules.snapshot) :
    ((e.processWith s alert rules).1.rules.map (·.rule)).Perm
      ((e.processWith s alert rules').1.rules.map (·.rule)) ∧
    ((e.processWith s alert rules).1.rules.filter (·.outcome.isExpansionFailure)).Perm
      ((e.processWith s alert rules').1.rules.filter (·.outcome.isExpansionFailure)) ∧
    (∀ action, ((e.visits s alert rules).filterMap (Visit.attempt? s)).countP (· == action)
      = ((e.visits s alert rules').filterMap (Visit.attempt? s)).countP (· == action)) ∧
    (e.processWith s alert rules).2.metrics.requestedTable
      = (e.processWith s alert rules').2.metrics.requestedTable ∧
    (Within ((e.processWith s alert rules).2.memory.live e.clock)
        ((e.processWith s alert rules').2.memory.live e.clock) ∧
      Within ((e.processWith s alert rules').2.memory.live e.clock)
        ((e.processWith s alert rules).2.memory.live e.clock)) ∧
    (0 < e.memory.duration → alert.status = .firing → ∀ rule ∈ e.rules.snapshot,
      activates s.language alert rule = true → ∀ action, expandAction rule alert = .ok action →
        ((e.visits s alert rules).filterMap (Visit.attempt? s)).countP (· == action)
          = if e.memory.has e.clock action then 0 else 1) ∧
    (e.memory.Ordered e.clock → ∀ action, e.memory.has e.clock action = true ↔
      ∃ c ∈ e.memory.live e.clock, (c.item == action) = true) ∧
    (∀ l, (e.processWith s alert l).2.calls
        = (e.visits s alert l).reverse.flatMap (Visit.calls s) ++ e.calls ∧
      ∀ v ∈ e.visits s alert l, (v.attempt? s = none → v.calls s = []) ∧
        ∀ action, v.attempt? s = some action → expandAction v.rule v.alert = .ok action ∧
          v.outcome s = .ofResult (plan s v.engine.calls v.rule v.alert action).2 ∧
          v.calls s = (plan s v.engine.calls v.rule v.alert action).1.toList) := by
  obtain ⟨hreports, hafter⟩ := e.processWith_spec s alert rules
  obtain ⟨hreports', hafter'⟩ := e.processWith_spec s alert rules'
  have hperm : (activated s alert rules).Perm (activated s alert rules') :=
    activated_perm s alert (order.trans order'.symm)
  have hnames : ∀ l : List Rule, ((e.visits s alert l).map (Visit.report s)).map (·.rule)
      = (activated s alert l).map Rule.name := by
    intro l
    have hrules := congrArg (List.map Rule.name)
      (visitRules_map_rule s alert (activated s alert l) e)
    rw [List.map_map] at hrules ⊢
    exact hrules
  rw [hreports, hreports', hafter, hafter']
  refine ⟨?_, ?_, countP_attempted_perm frozen e hperm, ?_,
    ⟨live_within_perm frozen e hperm, live_within_perm frozen e hperm.symm⟩, ?_,
    fun h => Memory.has_iff_live h, fun l => ⟨?_, fun v _ =>
      ⟨Visit.calls_of_no_attempt, fun action => Visit.of_attempt⟩⟩⟩
  · rw [hnames, hnames]
    exact hperm.map _
  · unfold visits
    rw [filter_isExpansionFailure, filter_isExpansionFailure]
    exact hperm.filterMap _
  · rw [runRules_requestedTable, runRules_requestedTable]
    exact (hperm.filterMap _).foldl_eq' (fun key _ key' _ table => tally_comm table key key') _
  · intro hpos firing rule hrule active action expands
    have hmem : rule ∈ activated s alert rules :=
      mem_activated_iff.mpr ⟨firing, order.mem_iff.mpr hrule, active⟩
    have hwanted : (wanted alert (activated s alert rules)).any (· == action) = true := by
      refine List.any_eq_true.mpr ⟨action, List.mem_filterMap.mpr ⟨rule, hmem, ?_⟩, BEq.rfl⟩
      rw [expands]
      rfl
    have hcount : (e.attempted s alert (activated s alert rules)).countP (· == action) = _ :=
      countP_attempted frozen e (activated s alert rules) action
    rw [if_neg (Nat.ne_of_gt hpos), hwanted, Bool.and_true] at hcount
    refine hcount.trans ?_
    cases e.memory.has e.clock action with
    | true => rfl
    | false => rfl
  · rw [(e.processWith_spec s alert l).2]
    exact runRules_calls s alert (activated s alert l) e

end Orders

end Engine

namespace Shared

/-- Surroundings in which every job is launched at once. -/
def around : Surroundings where
  language := fun _ => none
  launch := fun _ _ _ => .ok 1
  create := fun _ _ => .ok .created

/-- A rule with some name that launches a job for every alert. -/
def rule (name : String) : Rule := { name, action := .awx { template := "Restart" } }

/-- An engine with two rules for the same action. -/
def engine : Engine :=
  { Engine.start 10 with rules := ((∅ : RuleStore).insert "a" (rule "a")).insert "b" (rule "b") }

/-- Whichever of two rules comes first, the action that they share is attempted once. -/
theorem processWith_order_of_shared :
    ((engine.visits around {} [rule "a", rule "b"]).filterMap (Visit.attempt? around)).countP
        (· == .awx { template := "Restart" }) = 1 ∧
      ((engine.visits around {} [rule "b", rule "a"]).filterMap (Visit.attempt? around)).countP
        (· == .awx { template := "Restart" }) = 1 := by
  have order : [rule "a", rule "b"].Perm engine.rules.snapshot := List.Perm.of_eq rfl
  have order' : [rule "b", rule "a"].Perm engine.rules.snapshot :=
    (List.Perm.swap _ _ _).trans order
  obtain ⟨-, -, hcount, -, -, honce, -⟩ :=
    @Engine.processWith_order around {} _ _ (fun _ => rfl) engine order order'
  have hfirst := honce (by decide) rfl (rule "a") (order.subset (List.mem_cons_self ..)) rfl
    (.awx { template := "Restart" }) rfl
  exact ⟨hfirst, (hcount _).symm.trans hfirst⟩

end Shared

end Healing
