/-
  What a poll does.

  A poll asks for all jobs first and retires those that have ended afterwards.  The two loops meet
  in the numbers of the jobs: what is asked for, what is retired and what is left are all told by
  what is tracked and by what AWX answers.

  1. **Numbers** - the numbers of tracked jobs, growing (`pairwise_keys`, `mem_keys_iff`).
  2. **Tracked jobs** - `get?_foldl_retire`: retiring takes out the given jobs and no other.
  3. **Series** - `Metrics.Touches`, the series that a completion moves; all others stay as they are
     (`launchedTable_foldl_ended`); `Completions`, what counting completed jobs makes of metrics.
  4. **Polls** - what is left after a poll (`keys_poll`), and what a second one finds (`poll_poll`);
     `poll_exact`.
-/
import Healing.Proofs.ActiveJobs
import Mathlib.Data.List.Count
import Mathlib.Data.List.Sort

namespace Healing

/-! ## Numbers -/

namespace ActiveJobs

variable (active : ActiveJobs)

/-- The numbers of tracked jobs grow. -/
theorem pairwise_keys : active.keys.Pairwise (· < ·) := by
  unfold KeyMap.keys
  rw [List.pairwise_map]
  exact active.sorted.imp fun h => compare_lt_iff_lt.mp h

/-- The numbers are those under which a job is tracked. -/
theorem mem_keys_iff {id : JobId} : id ∈ active.keys ↔ ∃ job, active.get? id = some job := by
  unfold KeyMap.keys
  rw [List.mem_map]
  constructor
  · rintro ⟨⟨other, job⟩, hmem, rfl⟩
    exact ⟨job, KeyMap.get?_eq_some_iff.mpr hmem⟩
  · rintro ⟨job, hjob⟩
    exact ⟨(id, job), KeyMap.get?_eq_some_iff.mp hjob, rfl⟩

/-- Numbers of tracked jobs stand for one job each. -/
theorem map_get?_of_tracked :
    ∀ {ids : List JobId}, (∀ id ∈ ids, ∃ job, active.get? id = some job) →
      ids.map active.get? = (ids.filterMap active.get?).map some
  | [], _ => rfl
  | id :: r, h => by
    obtain ⟨⟨job, hjob⟩, hr⟩ := List.forall_mem_cons.mp h
    rw [List.map_cons, List.filterMap_cons, hjob, map_get?_of_tracked hr]
    rfl

end ActiveJobs

/-- AWX reports the end of a job iff it answers with one of four statuses. -/
theorem StatusSource.reportsEnd_iff {source : StatusSource} {id : JobId} :
    source.reportsEnd id = true ↔ ∃ status, source id = .ok status ∧
      status ∈ [JobStatus.successful, .failed, .error, .canceled] := by
  unfold reportsEnd
  cases source id with
  | error cause => simp
  | ok status => cases status <;> simp [JobStatus.isFinished]

/-! ## Tracked jobs -/

/-- Retiring one job takes it out, and no other. -/
theorem get?_retire (active : ActiveJobs) (m : Metrics) (id other : JobId) :
    (retire (active, m) id).1.get? other = if other = id then none else active.get? other := by
  unfold retire
  cases hjob : active.get? id with
  | some job => exact active.get?_erase id other
  | none =>
    -- a job that is not tracked is out already
    show active.get? other = _
    split
    · rename_i hother
      rw [hother, hjob]
    · rfl

/-- **Retiring takes out the given jobs, and no other.** -/
theorem get?_foldl_retire (other : JobId) :
    ∀ (ids : List JobId) (active : ActiveJobs) (m : Metrics),
      (ids.foldl retire (active, m)).1.get? other
        = if other ∈ ids then none else active.get? other
  | [], _, _ => rfl
  | id :: r, active, m => by
    have htail := get?_foldl_retire other r (retire (active, m) id).1 (retire (active, m) id).2
    rw [get?_retire] at htail
    show (r.foldl retire (retire (active, m) id)).1.get? other = _
    rw [htail]
    by_cases hhead : other = id
    · simp [hhead]
    · simp [hhead]

/-! ## Series -/

namespace Metrics

/-- Whether the series of launched actions is one of those that a completion moves. -/
def Touches (kind target rule : String) (key : SeriesKey) : Prop :=
  key = [kind, target, rule, LaunchState.running.word] ∨
    key = [kind, target, rule, LaunchState.completed.word]

/-- A completion leaves all other series as they are. -/
theorem completed_frame (m : Metrics) {kind target rule : String} {key : SeriesKey}
    (h : ¬ Touches kind target rule key) :
    (m.completed kind target rule).launchedTable.get? key = m.launchedTable.get? key ∧
      (m.completed kind target rule).requestedTable = m.requestedTable := by
  obtain ⟨hrunning, hcompleted⟩ := not_or.mp h
  refine ⟨?_, rfl⟩
  unfold completed addLaunched
  rw [KeyMap.get?_insert, if_neg hcompleted, KeyMap.get?_insert, if_neg hrunning]

end Metrics

/-- The reports of two jobs are the same iff the jobs are. -/
theorem ActiveJob.ended_injective : Function.Injective ActiveJob.ended := by
  intro a b h
  obtain ⟨-, htemplate, hrule⟩ := Metrics.Entry.completed.inj h
  cases a
  cases b
  cases htemplate
  cases hrule
  rfl

/-- **Series of other jobs stay as they are** when some jobs are counted as completed. -/
theorem launchedTable_foldl_ended {key : SeriesKey} :
    ∀ {jobs : List ActiveJob} (m : Metrics),
      (∀ job ∈ jobs, ¬ Metrics.Touches ActionKind.awx.word job.template job.rule key) →
      ((jobs.map ActiveJob.ended).foldl Metrics.record m).launchedTable.get? key
        = m.launchedTable.get? key
  | [], _, _ => rfl
  | job :: r, m, h => by
    obtain ⟨hjob, hr⟩ := List.forall_mem_cons.mp h
    have htail := launchedTable_foldl_ended (m.record job.ended) hr
    rw [List.map_cons, List.foldl_cons, htail]
    exact (m.completed_frame hjob).1

/-- Completions are no requests. -/
theorem requestedTable_foldl_ended : ∀ (jobs : List ActiveJob) (m : Metrics),
    ((jobs.map ActiveJob.ended).foldl Metrics.record m).requestedTable = m.requestedTable
  | [], _ => rfl
  | job :: r, m => requestedTable_foldl_ended r (m.record job.ended)

/-- What completions say about the gauges of a job. -/
theorem balance_map_ended (jobs : List ActiveJob) (job : ActiveJob) :
    Metrics.Entry.balance (jobs.map ActiveJob.ended) ActionKind.awx.word job.template job.rule
        .running = - (jobs.count job : Int) ∧
      Metrics.Entry.balance (jobs.map ActiveJob.ended) ActionKind.awx.word job.template job.rule
        .completed = jobs.count job := by
  have hended : (jobs.map ActiveJob.ended).count job.ended = jobs.count job :=
    List.count_map_of_injective jobs ActiveJob.ended ActiveJob.ended_injective job
  have hstarted : (jobs.map ActiveJob.ended).count
      (.started ActionKind.awx.word job.template job.rule) = 0 := by
    rw [List.count_eq_zero, List.mem_map]
    rintro ⟨other, -, h⟩
    cases h
  unfold Metrics.Entry.balance
  change (List.count (Metrics.Entry.completed _ _ _) _) = _ at hended
  constructor
  · show ((List.count _ _ : Nat) : Int) - (List.count _ _ : Nat) = _
    rw [hstarted, hended]
    exact Int.zero_sub _
  · show ((List.count _ _ : Nat) : Int) = _
    rw [hended]

/-- What has become of metrics when some jobs have been counted as completed, and nothing else. -/
structure Completions (m after : Metrics) (jobs : List ActiveJob) : Prop where
  /-- One completion for each job. -/
  told : after = jobs.foldl
    (fun m job => m.completed ActionKind.awx.word job.template job.rule) m
  /-- The gauges of a template and a rule move by the number of their jobs. -/
  running : ∀ job : ActiveJob,
    after.launchedCount ActionKind.awx.word job.template job.rule LaunchState.running.word
      = m.launchedCount ActionKind.awx.word job.template job.rule LaunchState.running.word
        - jobs.count job
  completed : ∀ job : ActiveJob,
    after.launchedCount ActionKind.awx.word job.template job.rule LaunchState.completed.word
      = m.launchedCount ActionKind.awx.word job.template job.rule LaunchState.completed.word
        + jobs.count job
  /-- All other series stay as they are. -/
  others : ∀ key : SeriesKey,
    (∀ job ∈ jobs, ¬ Metrics.Touches ActionKind.awx.word job.template job.rule key) →
    after.launchedTable.get? key = m.launchedTable.get? key
  requested : after.requestedTable = m.requestedTable

/-- **Reports of ended jobs are completions**, and nothing else. -/
theorem completions_ended (m : Metrics) (jobs : List ActiveJob) :
    Completions m ((jobs.map ActiveJob.ended).foldl Metrics.record m) jobs where
  told := by
    rw [List.foldl_map]
    rfl
  running job := by
    rw [Metrics.launchedCount_foldl, (balance_map_ended jobs job).1]
    rfl
  completed job := by rw [Metrics.launchedCount_foldl, (balance_map_ended jobs job).2]
  others _ := launchedTable_foldl_ended m
  requested := requestedTable_foldl_ended jobs m

/-! ## Polls -/

section Polls

variable (source : StatusSource) (active : ActiveJobs) (m : Metrics)

/-- What is left after a poll. -/
theorem get?_poll (id : JobId) : (poll source active m).active.get? id
    = if id ∈ (poll source active m).retired then none else active.get? id :=
  get?_foldl_retire id (poll source active m).retired active m

/-- What is retired has been tracked, and AWX has reported its end. -/
theorem mem_retired_iff {id : JobId} : id ∈ (poll source active m).retired ↔
    (∃ job, active.get? id = some job) ∧ source.reportsEnd id = true := by
  show id ∈ active.keys.filter source.reportsEnd ↔ _
  rw [List.mem_filter, active.mem_keys_iff]

/-- Every number that is retired stands for a job. -/
theorem map_get?_retired : (poll source active m).retired.map active.get?
    = (Poll.records source active m).map some := by
  refine active.map_get?_of_tracked fun id hid => ?_
  exact ((mem_retired_iff source active m).mp hid).1

/-- What is tracked after a poll is what was asked for and not retired. -/
theorem keys_poll : (poll source active m).active.keys
    = active.keys.filter fun id => id ∉ (poll source active m).retired := by
  have hgrow := active.pairwise_keys.filter fun id => decide (id ∉ (poll source active m).retired)
  refine (poll source active m).active.pairwise_keys.eq_of_mem_iff hgrow fun id => ?_
  rw [ActiveJobs.mem_keys_iff, List.mem_filter, ActiveJobs.mem_keys_iff, get?_poll]
  split <;> simp [*]

/-- A second poll finds nothing to retire. -/
theorem poll_poll : poll source (poll source active m).active (poll source active m).metrics
    = { queried := (poll source active m).active.keys
        retired := []
        active := (poll source active m).active
        metrics := (poll source active m).metrics } := by
  have hnone : (poll source active m).active.keys.filter source.reportsEnd = [] := by
    rw [List.filter_eq_nil_iff]
    intro id hid hends
    rw [keys_poll, List.mem_filter, ActiveJobs.mem_keys_iff] at hid
    -- whoever has ended has been retired by the first poll
    exact of_decide_eq_true hid.2 ((mem_retired_iff source active m).mpr ⟨hid.1, hends⟩)
  rw [poll, hnone]
  rfl

/-- What a poll has to do. -/
structure Poll.Exact (done : Poll) : Prop where
  /-- The jobs that are asked for, each once and by growing number. -/
  queried_growing : done.queried.Pairwise (· < ·)
  /-- They are the tracked jobs. -/
  mem_queried_iff : ∀ id, id ∈ done.queried ↔ ∃ job, active.get? id = some job
  /-- The jobs that are retired, by growing number. -/
  retired_growing : done.retired.Pairwise (· < ·)
  /-- They are those whose answer is one of the four statuses of a job that has come to its end. -/
  mem_retired_iff : ∀ id, id ∈ done.retired ↔ (∃ job, active.get? id = some job) ∧
    ∃ status, source id = .ok status ∧
      status ∈ [JobStatus.successful, .failed, .error, .canceled]
  /-- The others are tracked as before. -/
  left : ∀ id, done.active.get? id = if id ∈ done.retired then none else active.get? id
  /-- Each retired job is counted as completed, with its own template and rule. -/
  completions : ∃ jobs : List ActiveJob, done.retired.map active.get? = jobs.map some ∧
    Completions m done.metrics jobs
  /-- A second poll with the same answers asks for what is left, retires nothing and leaves
      everything as it is. -/
  again : poll source done.active done.metrics =
    { queried := done.queried.filter fun id => id ∉ done.retired
      retired := []
      active := done.active
      metrics := done.metrics }

/-- **A poll is exact**, whatever is tracked and whatever AWX answers. -/
theorem poll_exact : Poll.Exact source active m (poll source active m) where
  queried_growing := active.pairwise_keys
  mem_queried_iff id := active.mem_keys_iff
  retired_growing := active.pairwise_keys.filter _
  mem_retired_iff id := by rw [Healing.mem_retired_iff, StatusSource.reportsEnd_iff]
  left := get?_poll source active m
  completions := by
    refine ⟨Poll.records source active m, map_get?_retired source active m, ?_⟩
    rw [(poll_spec source active m).1]
    exact completions_ended m (Poll.records source active m)
  again := by
    rw [poll_poll, keys_poll]
    rfl

end Polls

/-- Two of three jobs of one rule have ended; for the third there is no answer. -/
example :
    let job : ActiveJob := ⟨"start-node", "Start node"⟩
    let active : ActiveJobs := (((∅ : ActiveJobs).insert 3 job).insert 1 job).insert 2 job
    let done := poll (fun id => if id = 2 then .error .transport else .ok .failed) active {}
    done.queried = [1, 2, 3] ∧ done.retired = [1, 3] ∧ done.active.keys = [2] ∧
      done.metrics.launchedCount "AWXJob" "Start node" "start-node" "completed" = 2 := by
  decide

end Healing
