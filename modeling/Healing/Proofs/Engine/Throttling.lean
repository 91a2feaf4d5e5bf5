/-
  Throttling is exact.

  The engine knows only its memory, which is purged now and then and only at its front.  A run knows
  all attempts that have been made.  The two agree on what counts: the live cells of the memory are
  the attempts that have not expired.

  1. **Attempts** - `attempts`: what has been attempted in the course of a history, and when.
  2. **Invariant** - `Tracked`: the memory holds the attempts that have not expired.
  3. **Steps** - every step of a run keeps the invariant (`Steps.tracked`); the one that counts is a
     visit (`Tracked.visit`), after which the memory may have been asked or added to.
  4. **Exactness** - `Run.throttling_exact`: an action is attempted iff no equal one was attempted a
     short time ago; `Failing` shows it for a launch that fails.
-/
import Healing.Proofs.Engine.Calls
import Healing.Proofs.Equality

namespace Healing

open Memory (Cell)

/-! ## Attempts -/

/-- The actions that have been attempted, with the times when the attempts were over. -/
def attempts (s : Surroundings) (history : List Visit) : List (Cell Action) :=
  history.filterMap fun v => (v.attempt? s).map fun action => ⟨action, (v.after s).clock⟩

/-- Some visits attempted what is attempted by one of them. -/
theorem mem_attempts {s : Surroundings} {history : List Visit} {c : Cell Action} :
    c ∈ attempts s history ↔
      ∃ v ∈ history, v.attempt? s = some c.item ∧ (v.after s).clock = c.stamp := by
  unfold attempts
  rw [List.mem_filterMap]
  constructor
  · rintro ⟨v, hv, h⟩
    obtain ⟨action, haction, rfl⟩ := Option.map_eq_some_iff.mp h
    exact ⟨v, hv, haction, rfl⟩
  · rintro ⟨v, hv, haction, hclock⟩
    refine ⟨v, hv, ?_⟩
    rw [haction, hclock]
    rfl

/-- Whether an equal action was attempted less than some time before now. -/
def AttemptedLately (s : Surroundings) (throttle now : Nat) (history : List Visit)
    (action : Action) : Prop :=
  ∃ v ∈ history, ∃ other, v.attempt? s = some other ∧ (other == action) = true ∧
    now < (v.after s).clock + throttle

/-! ## Invariant -/

/-- **The invariant**: the memory forgets after the throttle, its cells stand in order, and those
    that are alive are the attempts that have not expired. -/
structure Tracked (throttle : Nat) (e : Engine) (made : List (Cell Action)) : Prop where
  duration : e.memory.duration = throttle
  ordered : e.memory.Ordered e.clock
  past : ∀ c ∈ made, c.stamp ≤ e.clock
  live : e.memory.live e.clock = made.filter (·.live throttle e.clock)

namespace Tracked

variable {throttle : Nat} {e : Engine} {made : List (Cell Action)}

/-- Nothing has been attempted at the start. -/
theorem start (throttle : Nat) : Tracked throttle (.start throttle) [] :=
  ⟨rfl, ⟨List.Pairwise.nil, by simp [Engine.start]⟩, by simp, rfl⟩

/-- Only the memory and the clock matter. -/
theorem congr (h : Tracked throttle e made) {e' : Engine} (hmemory : e'.memory = e.memory)
    (hclock : e'.clock = e.clock) : Tracked throttle e' made := by
  refine ⟨?_, ?_, ?_, ?_⟩
  · rw [hmemory]
    exact h.duration
  · rw [hmemory, hclock]
    exact h.ordered
  · rw [hclock]
    exact h.past
  · rw [hmemory, hclock]
    exact h.live

/-- What is alive later is alive now. -/
theorem live_later (h : Tracked throttle e made) {later : Nat} (hle : e.clock ≤ later) :
    e.memory.live later = made.filter (·.live throttle later) := by
  -- what is alive later can be sought among what is alive now
  have hfilter : ∀ l : List (Cell Action),
      (l.filter (·.live throttle e.clock)).filter (·.live throttle later)
        = l.filter (·.live throttle later) := by
    intro l
    rw [List.filter_filter]
    refine List.filter_congr fun c _ => ?_
    by_cases hlater : c.live throttle later = true
    · rw [hlater, Cell.live_of_live_later hle hlater]
      rfl
    · rw [Bool.not_eq_true] at hlater
      rw [hlater]
      rfl
  have hlive := h.live
  unfold Memory.live at hlive ⊢
  rw [h.duration] at hlive ⊢
  rw [← hfilter e.memory.cells, hlive, hfilter]

/-- The invariant lasts while time passes. -/
theorem reach (h : Tracked throttle e made) (now : Nat) : Tracked throttle (e.reach now) made := by
  have hle : e.clock ≤ (e.reach now).clock := Nat.le_max_left ..
  exact ⟨h.duration, h.ordered.later hle, fun c hc => Nat.le_trans (h.past c hc) hle,
    h.live_later hle⟩

/-- It does not count that the memory is asked. -/
theorem asked (h : Tracked throttle e made) :
    Tracked throttle { e with memory := e.memory.asked e.clock } made :=
  ⟨(e.memory.duration_asked e.clock).trans h.duration, h.ordered.asked e.clock, h.past,
    (e.memory.live_asked e.clock).trans h.live⟩

/-- An attempt counts from when it is over. -/
theorem add (h : Tracked throttle e made) {e' : Engine} {action : Action}
    (hhas : e.memory.has e.clock action = false) (hle : e.clock ≤ e'.clock)
    (hmemory : e'.memory = e.memory.add e'.clock action) :
    Tracked throttle e' (made ++ [⟨action, e'.clock⟩]) := by
  have hduration : e'.memory.duration = throttle := by
    rw [hmemory]
    exact (Memory.duration_add ..).trans h.duration
  refine ⟨hduration, ?_, ?_, ?_⟩
  · rw [hmemory]
    exact h.ordered.add hhas hle
  · intro c hc
    rcases List.mem_append.mp hc with hc | hc
    · exact Nat.le_trans (h.past c hc) hle
    · exact Nat.le_of_eq (congrArg Cell.stamp (List.mem_singleton.mp hc))
  · rcases Nat.eq_zero_or_pos throttle with hzero | hpos
    · -- nothing is ever alive
      rw [Memory.live_eq_nil_of_zero (hduration.trans hzero), eq_comm, List.filter_eq_nil_iff]
      intro c _
      rw [Cell.live_iff]
      omega
    · have hnew := Cell.live_new hpos action e'.clock
      rw [hmemory, Memory.live_add (h.duration.symm ▸ hpos) hhas hle, h.live_later hle,
        List.filter_append, List.filter_cons_of_pos hnew]
      rfl

/-- **The memory has what was attempted lately.** -/
theorem has_iff (h : Tracked throttle e made) (action : Action) :
    e.memory.has e.clock action = true ↔
      ∃ c ∈ made, c.live throttle e.clock = true ∧ (c.item == action) = true := by
  rw [Memory.has_iff_live h.ordered, h.live]
  simp only [List.mem_filter, and_assoc]

/-- **A visit keeps the invariant.** -/
theorem visit (h : Tracked throttle e made) (s : Surroundings) (alert : Alert) (rule : Rule) :
    Tracked throttle (Visit.after s ⟨e, alert, rule⟩) (made ++ attempts s [⟨e, alert, rule⟩]) := by
  rcases Visit.memory_after s ⟨e, alert, rule⟩ with ⟨hnone, hclock, hmemory⟩ |
    ⟨action, hsome, hhas, hle, hmemory⟩
  · have hattempts : attempts s [⟨e, alert, rule⟩] = [] := by
      simp [attempts, hnone]
    rw [hattempts, List.append_nil]
    rcases hmemory with hmemory | hmemory
    · exact h.congr hmemory hclock
    · exact h.asked.congr hmemory hclock
  · have hattempts : attempts s [⟨e, alert, rule⟩]
        = [⟨action, (Visit.after s ⟨e, alert, rule⟩).clock⟩] := by
      simp [attempts, hsome]
    rw [hattempts]
    exact h.asked.add ((Memory.has_asked ..).trans hhas) hle hmemory

end Tracked

/-! ## Steps -/

/-- **Every run keeps track of what it attempts.** -/
theorem Steps.tracked {s : Surroundings} {throttle : Nat} {e : Engine} {history : List Visit}
    (steps : Steps s (.start throttle) e history) : Tracked throttle e (attempts s history) := by
  induction steps with
  | start => exact Tracked.start throttle
  | wait _ now ih => exact ih.reach now
  | edit _ _ ih => exact ih.congr rfl rfl
  | poll _ _ ih => exact ih.congr rfl rfl
  | @visit e history _ alert rule _ _ ih =>
    have hsplit : attempts s (history ++ [⟨e, alert, rule⟩])
        = attempts s history ++ attempts s [⟨e, alert, rule⟩] := List.filterMap_append ..
    rw [hsplit]
    exact ih.visit s alert rule

/-! ## Exactness -/

section Exactness

variable {s : Surroundings} {throttle : Nat} {e : Engine} {past later : List Visit} {v : Visit}
  {action : Action}

/-- What the memory has at a visit is what was attempted lately by the visits before it. -/
theorem Run.has_iff_attemptedLately (run : Run s (.start throttle) e (past ++ v :: later)) :
    v.engine.memory.has v.engine.clock action = true ↔
      0 < throttle ∧ AttemptedLately s throttle v.engine.clock past action := by
  obtain ⟨hsteps, -, -⟩ := run.steps.upTo rfl
  rw [hsteps.tracked.has_iff]
  constructor
  · rintro ⟨c, hc, hlive, heq⟩
    obtain ⟨u, hu, hattempt, hclock⟩ := mem_attempts.mp hc
    obtain ⟨hpos, hlt⟩ := (Cell.live_iff ..).mp hlive
    exact ⟨hpos, u, hu, c.item, hattempt, heq, hclock.symm ▸ hlt⟩
  · rintro ⟨hpos, u, hu, other, hattempt, heq, hlt⟩
    exact ⟨⟨other, (u.after s).clock⟩, mem_attempts.mpr ⟨u, hu, hattempt, rfl⟩,
      (Cell.live_iff ..).mpr ⟨hpos, hlt⟩, heq⟩

/-- **Throttling is exact.**  Take any visit in a run, to a rule whose action can be expanded.

    - The action is attempted iff there is no throttle or no equal action was attempted lately, for
      whatever rule and alert, and whatever came of it.  An attempt is as old as the time that has
      passed since it was over.
    - If it is attempted, its runner is called as planned, once or not at all, and what comes of it
      is what the runner answers.
    - If it is not, it is throttled, and no runner is called.
    - Between attempts of equal actions there is at least the throttle. -/
theorem Run.throttling_exact (run : Run s (.start throttle) e (past ++ v :: later))
    (expands : Engine.expandAction v.rule v.alert = .ok action) :
    (v.attempt? s = some action ↔
      throttle = 0 ∨ ¬ AttemptedLately s throttle v.engine.clock past action) ∧
    (v.attempt? s = some action →
      v.engine.runRule s v.alert v.rule
        = (v.engine.request v.rule action v.alert).attempt s v.rule action v.alert ∧
      v.outcome s = .ofResult (Engine.plan s v.engine.calls v.rule v.alert action).2 ∧
      (v.after s).calls
        = (Engine.plan s v.engine.calls v.rule v.alert action).1.toList ++ v.engine.calls) ∧
    (v.attempt? s ≠ some action →
      v.outcome s = .throttled ∧ (v.after s).calls = v.engine.calls) ∧
    (v.attempt? s = some action → ∀ u ∈ past, ∀ other, u.attempt? s = some other →
      (other == action) = true → (u.after s).clock + throttle ≤ v.engine.clock) := by
  have hattempt := Visit.attempt?_eq_some_iff s expands
  have hhas : v.engine.memory.has v.engine.clock action = true ↔ _ := run.has_iff_attemptedLately
  have hrun := Engine.runRule_of_ok v.engine s expands
  have hiff : v.attempt? s = some action ↔
      throttle = 0 ∨ ¬ AttemptedLately s throttle v.engine.clock past action := by
    rw [hattempt, ← Bool.not_eq_true, hhas, Decidable.not_and_iff_not_or_not, Nat.not_lt,
      Nat.le_zero]
  refine ⟨hiff, fun h => ?_, fun h => ?_, fun h u hu other hother heq => ?_⟩
  · obtain ⟨-, houtcome, hcalls⟩ := Visit.of_attempt h
    refine ⟨hrun.trans (Engine.runAction_of_not_has v.engine s (hattempt.mp h)), houtcome, ?_⟩
    rw [Visit.calls_after, hcalls]
  · have hthrottled : v.engine.memory.has v.engine.clock action = true := by
      rw [Ne, hattempt, Bool.not_eq_false] at h
      exact h
    have hrequest := hrun.trans (Engine.runAction_of_has v.engine s hthrottled)
    unfold Visit.outcome Visit.after
    rw [hrequest]
    exact ⟨rfl, rfl⟩
  · have hpast : (u.after s).clock ≤ v.engine.clock := by
      obtain ⟨hsteps, -, -⟩ := run.steps.upTo rfl
      exact hsteps.tracked.past ⟨other, (u.after s).clock⟩
        (mem_attempts.mpr ⟨u, hu, hother, rfl⟩)
    rcases hiff.mp h with hzero | hlately
    · rwa [hzero, Nat.add_zero]
    · exact Nat.not_lt.mp fun hlt => hlately ⟨u, hu, other, hother, heq, hlt⟩

end Exactness

namespace Failing

/-- Surroundings in which nothing runs, and in which it takes some time to find that out. -/
def around : Surroundings where
  language := fun _ => none
  launch := fun _ _ _ => .error (.notConfigured "AWX")
  create := fun _ _ => .error (.notConfigured "Kubernetes")
  delay := fun _ => 3

/-- A rule for all alerts that launches a job of AWX. -/
def rule : Rule := { name := "restart", action := .awx { template := "Restart" } }

/-- The first visit to the rule. -/
def first : Visit :=
  ⟨{ Engine.start 10 with rules := (∅ : RuleStore).insert "restart" rule }, {}, rule⟩

/-- The second visit, shortly before the first attempt is forgotten. -/
def second : Visit := ⟨(first.after around).reach 12, {}, rule⟩

/-- The third visit, when the first attempt is forgotten. -/
def third : Visit := ⟨(second.after around).reach 13, {}, rule⟩

/-- With a throttle of ten, a launch that has failed at time 3 is not repeated at time 12, but it is
    at time 13. -/
theorem throttling_exact_of_failing :
    Run around (.start 10) (third.after around) [first, second, third] ∧
      (second.engine.clock = 12 ∧ second.outcome around = .throttled) ∧
      (third.engine.clock = 13 ∧
        third.attempt? around = some (.awx { template := "Restart" })) := by
  have run₁ : Run around (.start 10) (first.after around) [first] :=
    (Run.start.edit _).visit rfl rfl rfl
  have run₂ : Run around (.start 10) (second.after around) [first, second] :=
    (run₁.wait 12).visit rfl rfl rfl
  have run₃ : Run around (.start 10) (third.after around) [first, second, third] :=
    (run₂.wait 13).visit rfl rfl rfl
  have hthrottled : second.outcome around = .throttled := by
    obtain ⟨hiff, -, h, -⟩ :=
      Run.throttling_exact (show Run _ _ _ ([first] ++ second :: [third]) from run₃) rfl
    refine (h fun hattempt => ?_).1
    rcases hiff.mp hattempt with hzero | hlately
    · exact absurd hzero (by decide)
    · exact hlately ⟨first, List.mem_singleton_self _, _, rfl, rfl, by decide⟩
  refine ⟨run₃, ⟨rfl, hthrottled⟩, rfl, ?_⟩
  obtain ⟨hiff, -, -, -⟩ :=
    Run.throttling_exact (show Run _ _ _ ([first, second] ++ third :: []) from run₃) rfl
  refine hiff.mpr (Or.inr ?_)
  rintro ⟨v, hv, other, hattempt, -, hlt⟩
  rcases List.mem_cons.mp hv with rfl | hv
  · exact absurd hlt (by decide)
  · rw [List.mem_singleton.mp hv, Visit.attempt?, hthrottled] at hattempt
    cases hattempt

end Failing

end Healing
