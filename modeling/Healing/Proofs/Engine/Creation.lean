/-
  The batch jobs that are created.

  The name and the namespace of a batch job are texts to be expanded like all others, so whether
  they are empty turns out only when a rule is run.  Kubernetes is never called without either.

  1. **Ready jobs** - `Rule.Readied`, what a job of a rule has to be like to be created;
     `Rule.readied_of_prepare`.
  2. **Calls** - every call was made by a visit (`Steps.mem_calls`), for a rule in force
     (`Run.rule_mem`), and a call to create a job was made for the job of its rule
     (`Visit.readied_of_created`).
  3. **Attempts** - what is attempted is remembered for the throttle, whatever comes of it
     (`Run.remembered_iff`).
  4. **Jobs without a name** - `Visit.of_nameless`: nobody is called, and the attempt has failed.
  5. **Runs** - `Run.created_ready` puts all this together; `Unnamed` shows it for a job whose name
     is expanded to the empty text.
-/
import Healing.Proofs.Engine.Accounting
import Healing.Proofs.Engine.Namespace
import Healing.Proofs.Expansion.AlertData
import Healing.Proofs.Kubernetes.Job
import Mathlib.Data.List.Find

namespace Healing

/-! ## Ready jobs -/

namespace Rule

variable (r : Rule) {job ready : Kubernetes.Job}

/-- A job that is ready to be created for a rule. -/
structure Readied (job ready : Kubernetes.Job) : Prop where
  /-- It has a name, which is that of the job of the rule. -/
  named : ready.name ≠ "" ∧ ready.name = job.name
  placed : ready.namespaceName ≠ ""
  /-- It is created in the namespace of the job, or else in that of the rule, or else in the default
      one; an empty text is no namespace. -/
  place : [job.namespaceName, r.space.getD "", "default"].find? (· ≠ "")
    = some ready.namespaceName
  /-- Nothing else is different. -/
  metadata : ∀ field, field ≠ "namespace" → ready.metadata.get? field = job.metadata.get? field
  spec : ready.spec = job.spec
  status : ready.status = job.status

/-- The namespace of a rule is its own unless that is empty. -/
theorem spaceName_eq :
    r.spaceName = if r.space.getD "" = "" then "default" else r.space.getD "" := by
  unfold spaceName
  cases r.space with
  | none => rfl
  | some ns =>
    by_cases h : ns = ""
    · subst h
      rfl
    · have hempty : ¬ ns.isEmpty = true := by
        rwa [String.isEmpty_iff]
      simp [h, hempty]

/-- The namespace that a job is created in is the first of three that is not empty. -/
theorem find?_target (job : Kubernetes.Job) :
    [job.namespaceName, r.space.getD "", "default"].find? (· ≠ "") = some (r.target job) := by
  unfold target
  rw [spaceName_eq]
  by_cases hjob : job.namespaceName = ""
  · by_cases hrule : r.space.getD "" = ""
    · simp [hjob, hrule]
    · simp [hjob, hrule]
  · simp [hjob]

/-- **A job that has been made ready is ready.** -/
theorem readied_of_prepare (h : r.prepare job = .ok ready) : r.Readied job ready := by
  have hnamed : job.name ≠ "" := by
    intro hname
    unfold prepare at h
    rw [hname] at h
    cases h
  rw [r.prepare_eq hnamed] at h
  obtain rfl := Except.ok.inj h
  have hplace := r.find?_target job
  rw [← Kubernetes.Job.namespaceName_withNamespace job (r.target job)] at hplace
  refine
    { named := ?_, placed := ?_, place := hplace, metadata := ?_, spec := rfl, status := rfl }
  · rw [Kubernetes.Job.name_withNamespace]
    exact ⟨hnamed, rfl⟩
  · have hnonempty := List.find?_some hplace
    rwa [decide_eq_true_iff] at hnonempty
  · intro field hfield
    unfold Kubernetes.Job.withNamespace
    rw [KeyMap.get?_insert, if_neg hfield]

/-- A job without a name is not made ready. -/
theorem prepare_of_nameless (nameless : job.name = "") :
    r.prepare job = .error (.missingJobName r.name) := by
  unfold prepare
  rw [nameless]
  rfl

end Rule

/-! ## Calls -/

/-- **Every call was made by a visit**, unless it was made before. -/
theorem Steps.mem_calls {s : Surroundings} {start e : Engine} {history : List Visit}
    (steps : Steps s start e history) {call : RunnerCall} (h : call ∈ e.calls) :
    call ∈ start.calls ∨ ∃ v ∈ history, call ∈ v.calls s := by
  induction steps with
  | start => exact Or.inl h
  | wait _ _ ih => exact ih h
  | edit _ _ ih => exact ih h
  | poll _ _ ih => exact ih h
  | @visit e history _ alert rule _ _ ih =>
    rw [Visit.calls_after, List.mem_append] at h
    rcases h with h | h
    · exact Or.inr ⟨_, List.mem_append_right _ (List.mem_singleton_self _), h⟩
    · rcases ih h with hstart | ⟨v, hv, hcall⟩
      · exact Or.inl hstart
      · exact Or.inr ⟨v, List.mem_append_left _ hv, hcall⟩

/-- No rule is edited by a visit. -/
theorem Visit.rules_after (s : Surroundings) (v : Visit) : (v.after s).rules = v.engine.rules := by
  unfold Visit.after
  rcases v.engine.runRule_cases s v.rule v.alert with ⟨cause, -, hrun⟩ | ⟨action, -, -, hrun⟩ |
    ⟨action, -, -, hrun⟩
  · rw [hrun]
  · rw [hrun]
    rfl
  · rw [hrun]
    obtain ⟨-, -, hrules, -⟩ :=
      Engine.attempt_spec (v.engine.request v.rule action v.alert) s v.rule action v.alert
    exact hrules

namespace Engine

/-- Visits are for the alert and the rules that they are to be about, and no rule is edited
    meanwhile. -/
theorem mem_visitRules {s : Surroundings} {alert : Alert} {v : Visit} :
    ∀ {rules : List Rule} {e : Engine}, v ∈ visitRules s alert e rules →
      v.alert = alert ∧ v.rule ∈ rules ∧ v.engine.rules = e.rules
  | [], _, h => by cases h
  | rule :: r, e, h => by
    rcases List.mem_cons.mp h with rfl | h
    · exact ⟨rfl, List.mem_cons_self .., rfl⟩
    · obtain ⟨halert, hrule, hrules⟩ := mem_visitRules h
      exact ⟨halert, List.mem_cons_of_mem rule hrule,
        hrules.trans (Visit.rules_after s ⟨e, alert, rule⟩)⟩

end Engine

/-- **Only rules in force are visited.** -/
theorem Run.rule_mem {s : Surroundings} {start e : Engine} {history : List Visit}
    (run : Run s start e history) {v : Visit} (h : v ∈ history) :
    v.rule ∈ v.engine.rules.snapshot := by
  induction run with
  | start => cases h
  | wait _ _ ih => exact ih h
  | edit _ _ ih => exact ih h
  | poll _ _ ih => exact ih h
  | alert _ alert rules order ih =>
    rcases List.mem_append.mp h with h | h
    · exact ih h
    · obtain ⟨-, hrule, hrules⟩ := Engine.mem_visitRules h
      obtain ⟨-, hmem, -⟩ := Engine.mem_activated_iff.mp hrule
      rw [hrules]
      exact order.subset hmem

/-- **A call to create a job** is made for the job of the rule, when it has been made ready. -/
theorem Visit.readied_of_created {s : Surroundings} {v : Visit} {ready : Kubernetes.Job}
    {answer : Except RunnerError BatchOutcome} (h : .created ready answer ∈ v.calls s) :
    ∃ job, Engine.expandAction v.rule v.alert = .ok (.batch job) ∧ v.rule.Readied job ready := by
  cases hattempt : v.attempt? s with
  | none =>
    rw [Visit.calls_of_no_attempt hattempt] at h
    cases h
  | some action =>
    obtain ⟨hexpand, -, hcalls⟩ := Visit.of_attempt hattempt
    rw [hcalls] at h
    cases action with
    | awx job => simp [Engine.plan] at h
    | batch job =>
      refine ⟨job, hexpand, ?_⟩
      cases hready : v.rule.prepare job with
      | error cause => simp [Engine.plan, hready] at h
      | ok prepared =>
        have hsame : ready = prepared := by
          simp only [Engine.plan, hready, Option.toList_some, List.mem_singleton] at h
          exact (RunnerCall.created.inj h).1
        rw [hsame]
        exact v.rule.readied_of_prepare hready

/-! ## Attempts -/

/-- **What is attempted is remembered** for the throttle, whatever comes of it, and then no more. -/
theorem Run.remembered_iff {s : Surroundings} {throttle : Nat} {e : Engine}
    {past later : List Visit} {v : Visit} {action : Action}
    (run : Run s (.start throttle) e (past ++ v :: later))
    (hattempt : v.attempt? s = some action) {now : Nat} (hle : (v.after s).clock ≤ now) :
    (v.after s).memory.has now action = true ↔ now < (v.after s).clock + throttle := by
  obtain ⟨hsteps, firing, active⟩ := run.steps.upTo rfl
  have hafter := (hsteps.visit v.alert v.rule firing active).wait now
  have hclock : ((v.after s).reach now).clock = now := Nat.max_eq_right hle
  have hhas := hafter.tracked.has_iff action
  rw [hclock] at hhas
  refine hhas.trans ⟨?_, ?_⟩
  · rintro ⟨c, hc, hlive, heq⟩
    obtain ⟨hpos, hlt⟩ := (Memory.Cell.live_iff ..).mp hlive
    obtain ⟨u, hu, hother, hstamp⟩ := mem_attempts.mp hc
    rcases List.mem_append.mp hu with hu | hu
    · -- what was attempted before has been forgotten when this is attempted
      exfalso
      obtain ⟨hexpand, -, -⟩ := Visit.of_attempt hattempt
      have hfresh := (Visit.attempt?_eq_some_iff s hexpand).mp hattempt
      have hbefore : v.engine.clock ≤ (v.after s).clock := by
        rcases v.memory_after s with ⟨hnone, -, -⟩ | ⟨_, -, -, h, -⟩
        · rw [hattempt] at hnone
          cases hnone
        · exact h
      have hhad : v.engine.memory.has v.engine.clock action = true := by
        refine (hsteps.tracked.has_iff action).mpr ⟨c, ?_, ?_, heq⟩
        · exact mem_attempts.mpr ⟨u, hu, hother, hstamp⟩
        · rw [Memory.Cell.live_iff]
          omega
      rw [hfresh] at hhad
      cases hhad
    · rw [List.mem_singleton] at hu
      subst hu
      have hstamp : (v.after s).clock = c.stamp := hstamp
      omega
  · intro hlt
    refine ⟨⟨action, (v.after s).clock⟩, ?_, ?_, BEq.rfl⟩
    · exact mem_attempts.mpr ⟨_, List.mem_append_right _ (List.mem_singleton_self _), hattempt, rfl⟩
    · rw [Memory.Cell.live_iff]
      show 0 < throttle ∧ now < (v.after s).clock + throttle
      omega

/-! ## Jobs without a name -/

section Nameless

variable {s : Surroundings} {v : Visit} {job : Kubernetes.Job}

/-- An attempt of a job without a name has failed, nobody is called, and the failure is counted. -/
theorem Visit.of_nameless (hattempt : v.attempt? s = some (.batch job)) (nameless : job.name = "") :
    v.outcome s = .dispatchFailed (.missingJobName v.rule.name) ∧ v.calls s = [] ∧
      (v.after s).metrics.launchedCount "BatchJob" "" v.rule.name "failed"
        = v.engine.metrics.launchedCount "BatchJob" "" v.rule.name "failed" + 1 := by
  obtain ⟨hexpand, houtcome, hcalls⟩ := Visit.of_attempt hattempt
  have hplan : Engine.plan s v.engine.calls v.rule v.alert (.batch job)
      = (none, .error (.missingJobName v.rule.name)) := by
    simp only [Engine.plan, v.rule.prepare_of_nameless nameless]
  rw [hplan] at houtcome hcalls
  refine ⟨houtcome, hcalls, ?_⟩
  have hcount := v.count_failed s .batch "" v.rule.name
  have htarget : Action.target (.batch job) = "" := nameless
  have hkind : Action.kind (.batch job) = .batch := rfl
  have hfailure : (v.outcome s).isDispatchFailure = true := by
    rw [houtcome]
    rfl
  rw [Visit.action?_of_ok hexpand, Option.any_some, htarget, hkind, hfailure] at hcount
  simp only [decide_true, Bool.and_self, if_true] at hcount
  have hgauge := Metrics.launchedCount_foldl ActionKind.batch.word "" v.rule.name .failed
    (v.entries s) v.engine.metrics
  rw [← (v.books s).2.1] at hgauge
  have hbalance : Metrics.Entry.balance (v.entries s) ActionKind.batch.word "" v.rule.name .failed
      = 1 := by
    show ((v.entries s).count (.failed ActionKind.batch.word "" v.rule.name) : Int) = 1
    rw [hcount]
    rfl
  rw [hbalance] at hgauge
  exact hgauge

end Nameless

/-! ## Runs -/

section Runs

variable {s : Surroundings} {throttle : Nat} {e : Engine} {history : List Visit}

/-- **What Kubernetes is called for.**  Take any run.

    - Every job that Kubernetes is called for is called for by a visit to a rule in force, which is
      activated by its alert, and it is the expanded job of the rule, made ready.
    - If the expanded job of a rule has no name, nobody is called.  The dispatch fails, is counted
      as failed, and is remembered for the throttle like any other; so it is only tried if no equal
      action was attempted lately, and is throttled otherwise. -/
theorem Run.created_ready (run : Run s (.start throttle) e history) :
    (∀ ready answer, .created ready answer ∈ e.calls →
      ∃ v ∈ history, .created ready answer ∈ v.calls s ∧
        v.alert.status = .firing ∧ v.rule ∈ v.engine.rules.snapshot ∧
        Engine.activates s.language v.alert v.rule = true ∧
        ∃ job, Engine.expandAction v.rule v.alert = .ok (.batch job) ∧
          v.rule.Readied job ready) ∧
    ∀ past v later job, history = past ++ v :: later →
      Engine.expandAction v.rule v.alert = .ok (.batch job) → job.name = "" →
      v.calls s = [] ∧
        ((0 < throttle ∧ AttemptedLately s throttle v.engine.clock past (.batch job) ∧
            v.outcome s = .throttled) ∨
          (¬ (0 < throttle ∧ AttemptedLately s throttle v.engine.clock past (.batch job)) ∧
            v.outcome s = .dispatchFailed (.missingJobName v.rule.name) ∧
            (v.after s).metrics.launchedCount "BatchJob" "" v.rule.name "failed"
              = v.engine.metrics.launchedCount "BatchJob" "" v.rule.name "failed" + 1 ∧
            ∀ now, (v.after s).clock ≤ now →
              ((v.after s).memory.has now (.batch job) = true ↔
                now < (v.after s).clock + throttle))) := by
  refine ⟨?_, ?_⟩
  · intro ready answer hcall
    rcases run.steps.mem_calls hcall with hstart | ⟨v, hv, hmade⟩
    · cases hstart
    · obtain ⟨past, later, rfl⟩ := List.append_of_mem hv
      obtain ⟨-, firing, active⟩ := run.steps.upTo rfl
      exact ⟨v, hv, hmade, firing, run.rule_mem hv, active, Visit.readied_of_created hmade⟩
  · rintro past v later job rfl expands nameless
    have hhas : v.engine.memory.has v.engine.clock (.batch job) = true ↔ _ :=
      run.has_iff_attemptedLately
    rcases Bool.eq_false_or_eq_true (v.engine.memory.has v.engine.clock (.batch job)) with
      remembered | fresh
    · obtain ⟨hnone, houtcome⟩ := Visit.of_has (s := s) expands remembered
      obtain ⟨hpos, hlately⟩ := hhas.mp remembered
      exact ⟨Visit.calls_of_no_attempt hnone, Or.inl ⟨hpos, hlately, houtcome⟩⟩
    · have hattempt := (Visit.attempt?_eq_some_iff s expands).mpr fresh
      obtain ⟨houtcome, hcalls, hfailed⟩ := Visit.of_nameless hattempt nameless
      refine ⟨hcalls, Or.inr ⟨?_, houtcome, hfailed, ?_⟩⟩
      · intro hlately
        rw [hhas.mpr hlately] at fresh
        cases fresh
      · intro now hle
        exact run.remembered_iff hattempt hle

end Runs

namespace Unnamed

/-- Surroundings in which every batch job is created. -/
def around : Surroundings where
  language := fun _ => none
  launch := fun _ _ _ => .error (.notConfigured "AWX")
  create := fun _ _ => .ok .created

/-- A batch job with the given name, and with the empty text for its namespace. -/
def job (name : String) : Kubernetes.Job :=
  { metadata := ((∅ : KeyMap String Json).insert "name" (.str name)).insert "namespace" (.str "") }

/-- A rule for all alerts whose job is named after a pod; it has the empty text for its namespace,
    too. -/
def restart : Rule :=
  { name := "restart", space := some "", action := .batch (job "\x7b\x7blabels.pod\x7d\x7d") }

/-- An alert for a pod. -/
def alert (pod : String) : Alert := { labels := (∅ : KeyMap String String).insert "pod" pod }

/-- The visit for an alert whose pod has no name. -/
def first : Visit :=
  ⟨{ Engine.start 10 with rules := (∅ : RuleStore).insert "restart" restart }, alert "", restart⟩

/-- The visit for an alert whose pod has one. -/
def second : Visit := ⟨first.after around, alert "web", restart⟩

/-- What the templates of the rule are bound to. -/
def binding (pod : String) : Binding := ⟨{}, alertContext (alert pod)⟩

theorem fits_job (name : String) : (job name).Fits := by
  have hentries : (job name).metadata.entries = [("name", .str name), ("namespace", .str "")] := rfl
  refine .ofMetadata (hentries ▸ List.forall_mem_cons.mpr ⟨?_, List.forall_mem_singleton.mpr ?_⟩)
  · exact ⟨_, rfl, .text name⟩
  · exact ⟨_, rfl, .text ""⟩

/-- The name of the job is filled in. -/
theorem expand_job {pod : String}
    (hname : (binding pod).render "\x7b\x7blabels.pod\x7d\x7d" = .ok pod)
    (hothers : ∀ s ∈ ["batch/v1", "Job", ""], (binding pod).render s = .ok s)
    (hread : (Kubernetes.Job.read (.ofJson (job pod).toJson)).isOk = true) :
    Engine.expandAction restart (alert pod) = .ok (.batch (job pod)) := by
  simp only [List.forall_mem_cons] at hothers
  obtain ⟨hversion, hkind, hspace, -⟩ := hothers
  have hform : (job "\x7b\x7blabels.pod\x7d\x7d").toJson.expand (binding pod).render
      = ⟨(job pod).toJson, none⟩ := by
    change (Json.obj [("apiVersion", .str "batch/v1"), ("kind", .str "Job"),
      ("metadata", .obj [("name", .str "\x7b\x7blabels.pod\x7d\x7d"), ("namespace", .str "")])]).expand
        _ = _
    simp only [Json.expand, Json.expandFields, Walk.ofText, Walk.map, Walk.cons, hname, hspace,
      hversion, hkind]
    rfl
  have hagain : Kubernetes.Job.read (.ofJson (job pod).toJson) = .ok (job pod) :=
    Kubernetes.Job.read_toJson (fits_job pod) hread rfl
  have haction : restart.action.expand (binding pod).render = ⟨.batch (job pod), none⟩ :=
    congrArg (Walk.map Action.batch) (Kubernetes.Job.expand_eq hform hagain)
  refine Except.bind_eq_ok_iff.mpr ⟨binding pod, bind_forAlerts (alert pod) none, ?_⟩
  rw [haction]

theorem expands_first : Engine.expandAction restart (alert "") = .ok (.batch (job "")) :=
  expand_job (by decide +kernel) (by decide +kernel) (by decide +kernel)

theorem expands_second : Engine.expandAction restart (alert "web") = .ok (.batch (job "web")) :=
  expand_job (by decide +kernel) (by decide +kernel) (by decide +kernel)

/-- Kubernetes is not called for the pod without a name; it is called for the other one, and then in
    the default namespace. -/
theorem created_ready_of_unnamed :
    Run around (.start 10) (second.after around) [first, second] ∧
      (first.calls around = [] ∧
        first.outcome around = .dispatchFailed (.missingJobName "restart")) ∧
      (∃ ready answer, .created ready answer ∈ (second.after around).calls) ∧
      ∀ ready answer, .created ready answer ∈ (second.after around).calls →
        ready.name = "web" ∧ ready.namespaceName = "default" := by
  have run₁ : Run around (.start 10) (first.after around) [first] :=
    (Run.start.edit _).visit rfl rfl rfl
  have run₂ : Run around (.start 10) (second.after around) ([first] ++ second :: []) :=
    run₁.visit (congrArg RuleStore.snapshot (first.rules_after around)) rfl rfl
  obtain ⟨hcreated, hnameless⟩ := Run.created_ready run₂
  refine ⟨run₂, ?_, ⟨(job "web").withNamespace "default",
    around.create second.engine.calls ((job "web").withNamespace "default"), ?_⟩, ?_⟩
  · obtain ⟨hcalls, ⟨-, hlately, -⟩ | ⟨-, houtcome, -⟩⟩ :=
      hnameless [] first [second] (job "") rfl expands_first rfl
    · obtain ⟨v, hv, -⟩ := hlately
      cases hv
    · exact ⟨hcalls, houtcome⟩
  · -- the first attempt was one of another job
    have fresh : second.engine.memory.has second.engine.clock (.batch (job "web")) = false := by
      rw [← Bool.not_eq_true, run₂.has_iff_attemptedLately]
      rintro ⟨-, v, hv, other, hattempt, heq, -⟩
      rw [List.mem_singleton.mp hv] at hattempt
      obtain ⟨hexpand, -, -⟩ := Visit.of_attempt hattempt
      have hother : other = .batch (job "") := Except.ok.inj (hexpand.symm.trans expands_first)
      rw [hother] at heq
      exact absurd heq (by decide)
    have hattempt : second.attempt? around = some (.batch (job "web")) :=
      (Visit.attempt?_eq_some_iff (v := second) around expands_second).mpr fresh
    have hmade := Visit.created_of_attempt (v := second) hattempt
      (show restart.prepare (job "web") = .ok ((job "web").withNamespace "default") from rfl)
    rw [second.calls_after, hmade]
    exact List.mem_append_left _ (List.mem_singleton_self _)
  · intro ready answer hcall
    obtain ⟨v, hv, -, -, -, -, made, hexpand, hready⟩ := hcreated ready answer hcall
    rcases List.mem_cons.mp hv with hv | hv
    · rw [hv] at hexpand
      have hmade : Action.batch made = .batch (job "") :=
        Except.ok.inj (hexpand.symm.trans expands_first)
      obtain rfl := Action.batch.inj hmade
      exact absurd hready.named.2 hready.named.1
    · rw [List.mem_singleton.mp hv] at hexpand hready
      have hmade : Action.batch made = .batch (job "web") :=
        Except.ok.inj (hexpand.symm.trans expands_second)
      obtain rfl := Action.batch.inj hmade
      exact ⟨hready.named.2, (Option.some.inj hready.place).symm⟩

end Unnamed

end Healing
