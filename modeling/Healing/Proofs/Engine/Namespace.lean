/-
  Throttled batch jobs and their namespaces.

  The engine compares actions as they have been expanded.  A batch job is given a namespace later,
  when it is made ready for its rule.  So a job that names no namespace is held back if an equal one
  was created a short time ago for a rule in another namespace.

  1. **Attempts** - an attempt of a batch job with a name calls on Kubernetes to create it where its
     rule wants it (`Visit.created_of_attempt`).
  2. **Throttled jobs** - `Run.throttled_elsewhere`: behind every job that is held back there is one
     that differs in its namespace at most, and when it does.
  3. **Borrowed places** - in `Borrowed` a job for one namespace is held back by a job for another;
     so what is held back need not have been created (`Borrowed.not_created_in_place`).
-/
import Healing.Proofs.Engine.Calls
import Healing.Proofs.Engine.Throttling
import Healing.Proofs.Kubernetes.Preparation

namespace Healing

/-! ## Attempts -/

/-- An attempt of a batch job that can be made ready is a call to create it. -/
theorem Visit.created_of_attempt {s : Surroundings} {v : Visit} {job ready : Kubernetes.Job}
    (hattempt : v.attempt? s = some (.batch job)) (hready : v.rule.prepare job = .ok ready) :
    v.calls s = [.created ready (s.create v.engine.calls ready)] := by
  obtain ⟨-, -, hcalls⟩ := Visit.of_attempt hattempt
  rw [hcalls]
  simp only [Engine.plan, hready]
  rfl

/-! ## Throttled jobs -/

section Throttled

variable {s : Surroundings} {throttle : Nat} {e : Engine} {past later : List Visit} {v : Visit}
  {job : Kubernetes.Job}

/-- **What holds a batch job back.**  Take a visit in a run, to a rule that asks for a batch job
    with a name, and is throttled.  The job could have been made ready.  Less than the throttle ago
    another one was made ready and called for, perhaps for another rule,

    - which has the same name, and which would be equal in the same namespace;
    - which was to be created in the namespace that the job names, or else in that of its own rule;
    - which is equal to the job that is held back iff the job names a namespace or the two rules
      have the same. -/
theorem Run.throttled_elsewhere (run : Run s (.start throttle) e (past ++ v :: later))
    (expands : Engine.expandAction v.rule v.alert = .ok (.batch job)) (named : job.name ≠ "")
    (throttled : v.outcome s = .throttled) :
    ∃ ready, v.rule.prepare job = .ok ready ∧
      ∃ u ∈ past, v.engine.clock < (u.after s).clock + throttle ∧
        ∃ made answer, u.calls s = [.created made answer] ∧
          made.name = ready.name ∧
          (made.withNamespace ready.namespaceName == ready) = true ∧
          made.namespaceName = u.rule.target job ∧ ready.namespaceName = v.rule.target job ∧
          ((made == ready) = true ↔
            job.namespaceName ≠ "" ∨ u.rule.spaceName = v.rule.spaceName) := by
  have hhas := Visit.has_of_throttled expands throttled
  obtain ⟨-, u, hu, other, hattempt, heq, hlately⟩ := run.has_iff_attemptedLately.mp hhas
  cases other with
  | awx _ => cases heq
  | batch job' =>
    have hjobs : (job' == job) = true := heq
    obtain ⟨made, ready, hmade, hready, hname, hequal, htarget, htarget', hiff⟩ :=
      Rule.prepare_beq v.rule u.rule hjobs named
    refine ⟨ready, hready, u, hu, hlately, made, _, Visit.created_of_attempt hattempt hmade, hname,
      hequal, htarget, htarget', ?_⟩
    rw [hiff, htarget, htarget', Rule.target_eq_iff]

end Throttled

/-! ## Borrowed places -/

namespace Borrowed

/-- Surroundings in which every batch job is created. -/
def around : Surroundings where
  language := fun _ => none
  launch := fun _ _ _ => .error (.notConfigured "AWX")
  create := fun _ _ => .ok .created

/-- A batch job with a name but without a namespace. -/
def job : Kubernetes.Job := { metadata := (∅ : KeyMap String Json).insert "name" (.str "cleanup") }

/-- A rule for all alerts that creates the job in one namespace. -/
def ops : Rule := { name := "ops", space := some "ops", action := .batch job }

/-- A rule for all alerts that creates the job in another namespace. -/
def dev : Rule := { name := "dev", space := some "dev", action := .batch job }

/-- The rules in force. -/
def rules : RuleStore := ((∅ : RuleStore).insert "ops" ops).insert "dev" dev

/-- The visit to one rule. -/
def first : Visit := ⟨{ Engine.start 10 with rules }, {}, ops⟩

/-- The visit to the other rule, for the same alert. -/
def second : Visit := ⟨first.after around, {}, dev⟩

/-- One alert is processed. -/
theorem run : Run around (.start 10) (second.after around) [first, second] :=
  (Run.start.edit rules).alert {} [ops, dev] (List.Perm.swap ..)

/-- The job is called for in one namespace and held back in the other. -/
theorem throttled_elsewhere_of_two :
    second.outcome around = .throttled ∧ dev.prepare job = .ok (job.withNamespace "dev") ∧
      ∃ made answer, first.calls around = [.created made answer] ∧ made.name = "cleanup" ∧
        made.namespaceName = "ops" ∧ (made == job.withNamespace "dev") = false := by
  have throttled : second.outcome around = .throttled := rfl
  obtain ⟨ready, hready, u, hu, -, made, answer, hcalls, hname, -, htarget, -, hiff⟩ :=
    Run.throttled_elsewhere (show Run _ _ _ ([first] ++ second :: []) from run) rfl (by decide)
      throttled
  have hprepared : dev.prepare job = .ok (job.withNamespace "dev") := rfl
  rw [List.mem_singleton.mp hu] at hcalls htarget hiff
  have hready' : ready = job.withNamespace "dev" := Except.ok.inj (hready.symm.trans hprepared)
  subst hready'
  refine ⟨throttled, hprepared, made, answer, hcalls, hname, htarget, ?_⟩
  -- the job names no namespace, and the two rules have different ones
  rw [← Bool.not_eq_true, hiff]
  decide

/-- **A job that is held back need not have been created**: it is not true that an equal one was,
    after both had been made ready. -/
theorem not_created_in_place :
    ¬ ∀ (s : Surroundings) (throttle : Nat) (e : Engine) (past later : List Visit) (v : Visit)
        (job : Kubernetes.Job), 0 < throttle →
        Run s (.start throttle) e (past ++ v :: later) →
        Engine.expandAction v.rule v.alert = .ok (.batch job) → job.name ≠ "" →
        v.outcome s = .throttled →
        ∃ ready, v.rule.prepare job = .ok ready ∧
          ∃ u ∈ past, v.engine.clock < (u.after s).clock + throttle ∧
            ∃ made answer, RunnerCall.created made answer ∈ u.calls s ∧ (made == ready) = true := by
  intro claim
  obtain ⟨ready, hready, u, hu, -, made, answer, hcall, heq⟩ :=
    claim around 10 _ [first] [] second job (by decide) run rfl (by decide) rfl
  have hcalls : first.calls around = [.created (job.withNamespace "ops") (.ok .created)] := rfl
  rw [List.mem_singleton.mp hu, hcalls] at hcall
  cases List.mem_singleton.mp hcall
  have hready' : ready = job.withNamespace "dev" := (Except.ok.inj hready).symm
  subst hready'
  exact absurd heq (by decide)

end Borrowed

end Healing
