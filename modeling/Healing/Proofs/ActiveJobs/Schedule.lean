/-
  Schedules of polls and launches.

  A poll is not done at once.  It notes which jobs are tracked, asks for them one after the other,
  and then retires those that have ended.  In between jobs are launched, and other polls may be
  under way.  A schedule is a list of moves: every order in which all this can go on is one.

  1. **Rounds** - `Round`, a poll on its way.
  2. **Moves** - `Tracking`, the tracked jobs with what is under way; `Tracking.step` makes a move
     and tells what is seen of it.
  3. **Schedules** - `Tracking.run`.
  4. **One at a time** - a launch that nothing interrupts is that of the engine
     (`Tracking.run_launchJob`), and a poll that nothing interrupts is `poll` (`Tracking.run_poll`).
-/
import Healing.Engine

namespace Healing

/-! ## Rounds -/

/-- A poll on its way. -/
inductive Round where
  /-- It asks for one job after the other, and notes those that have ended. -/
  | asking (waiting ended : List JobId)
  /-- It retires those that have ended, one after the other. -/
  | retiring (ended : List JobId)
  /-- It is about to count a job that has just been taken out. -/
  | counting (id : JobId) (job : ActiveJob) (ended : List JobId)

namespace Round

/-- A poll that has just begun. -/
def start (active : ActiveJobs) : Round := .asking active.keys []

/-- The jobs that are known to have ended and are still to be retired. -/
def ended : Round → List JobId
  | .asking _ ended | .retiring ended | .counting _ _ ended => ended

/-- The jobs that are known to have ended after one more has been asked for. -/
def noted (source : StatusSource) (ended : List JobId) (id : JobId) : List JobId :=
  if source.reportsEnd id then ended ++ [id] else ended

/-- The job that is out but not counted yet. -/
def leaving? : Round → Option (JobId × ActiveJob)
  | .counting id job _ => some (id, job)
  | _ => none

end Round

/-! ## Moves -/

/-- The tracked jobs, and the launches and polls that are under way. -/
structure Tracking where
  active : ActiveJobs := ∅
  metrics : Metrics := {}
  /-- The jobs that have been launched and counted, but are not tracked yet. -/
  launches : List (JobId × ActiveJob) := []
  rounds : List Round := []

namespace Tracking

/-- What may happen next. -/
inductive Move where
  /-- AWX has launched a job, and it is counted. -/
  | launch (id : JobId) (job : ActiveJob)
  /-- One of the jobs that have been launched is tracked from now on. -/
  | track (launch : Nat)
  /-- A poll begins. -/
  | begin
  /-- A poll does its next step; should it ask for a job, this is how AWX answers. -/
  | poll (round : Nat) (source : StatusSource)

/-- What is seen of a move. -/
inductive Event where
  | launched (id : JobId) (job : ActiveJob)
  | tracked (id : JobId) (job : ActiveJob)
  /-- AWX has answered a poll. -/
  | answered (round : Nat) (id : JobId) (answer : Except RunnerError JobStatus)
  /-- A poll has taken a job out. -/
  | removed (round : Nat) (id : JobId) (job : ActiveJob)
  /-- A poll has counted a job as completed. -/
  | counted (round : Nat) (id : JobId) (job : ActiveJob)

/-- Let a poll take out a job, if it is still there. -/
def remove (s : Tracking) (i : Nat) (id : JobId) (ended : List JobId) : Tracking × Option Event :=
  match s.active.get? id with
  | some job =>
    ({ s with active := s.active.erase id, rounds := s.rounds.set i (.counting id job ended) },
      some (.removed i id job))
  | none => ({ s with rounds := s.rounds.set i (.retiring ended) }, none)

/-- Let a poll do its next step. -/
def pollStep (s : Tracking) (i : Nat) (source : StatusSource) : Tracking × Option Event :=
  match s.rounds[i]? with
  | some (.asking (id :: waiting) ended) =>
    ({ s with rounds := s.rounds.set i (.asking waiting (Round.noted source ended id)) },
      some (.answered i id (source id)))
  | some (.asking [] ended) => ({ s with rounds := s.rounds.set i (.retiring ended) }, none)
  | some (.retiring (id :: ended)) => s.remove i id ended
  | some (.counting id job ended) =>
    ({ s with
        metrics := s.metrics.completed ActionKind.awx.word job.template job.rule
        rounds := s.rounds.set i (.retiring ended) },
      some (.counted i id job))
  | some (.retiring []) | none => (s, none)

/-- Make a move. -/
def step (s : Tracking) : Move → Tracking × Option Event
  | .launch id job =>
    ({ s with
        metrics := s.metrics.started ActionKind.awx.word job.template job.rule
        launches := s.launches ++ [(id, job)] },
      some (.launched id job))
  | .track i =>
    match s.launches[i]? with
    | some (id, job) =>
      ({ s with active := s.active.insert id job, launches := s.launches.eraseIdx i },
        some (.tracked id job))
    | none => (s, none)
  | .begin => ({ s with rounds := s.rounds ++ [.start s.active] }, none)
  | .poll i source => s.pollStep i source

/-! ## Schedules -/

/-- Make moves one after the other. -/
def run : Tracking → List Move → Tracking × List Event
  | s, [] => (s, [])
  | s, move :: r =>
    let (s, seen) := s.step move
    let (s, more) := s.run r
    (s, seen.toList ++ more)

/-- The state after one move and some more. -/
theorem run_cons (s : Tracking) (move : Move) (r : List Move) :
    s.run (move :: r)
      = (((s.step move).1.run r).1, (s.step move).2.toList ++ ((s.step move).1.run r).2) := rfl

/-! ## One at a time -/

section Alone

/-- A job is launched and tracked while nothing else happens. -/
theorem run_launch (s : Tracking) (id : JobId) (job : ActiveJob) :
    (s.run [.launch id job, .track s.launches.length]).1 = { s with
      active := s.active.insert id job
      metrics := s.metrics.started ActionKind.awx.word job.template job.rule } := by
  have hlast : (s.launches ++ [(id, job)])[s.launches.length]? = some (id, job) :=
    List.getElem?_concat_length
  have herase : (s.launches ++ [(id, job)]).eraseIdx s.launches.length = s.launches := by
    rw [List.eraseIdx_append_of_length_le (Nat.le_refl _), Nat.sub_self]
    exact List.append_nil _
  simp only [run, step, hlast, herase]

/-- **A launch on its own** leaves the tracked jobs and the metrics as the engine does. -/
theorem run_launchJob (s : Tracking) (e : Engine) (around : Surroundings) (rule : Rule)
    (job : AwxJob) (alert : Alert) {id : JobId}
    (launched : around.launch e.calls job alert = .ok id)
    (active : s.active = e.active) (metrics : s.metrics = e.metrics) :
    let after := (s.run [.launch id ⟨rule.name, job.template⟩, .track s.launches.length]).1
    after.active = (e.launchJob around rule job alert).2.active ∧
      after.metrics = (e.launchJob around rule job alert).2.metrics := by
  intro after
  have hafter : after = _ := s.run_launch id ⟨rule.name, job.template⟩
  have hengine : (e.launchJob around rule job alert).2 = { e.answered around
      (.launched job alert (.ok id)) with
        metrics := e.metrics.started ActionKind.awx.word job.template rule.name
        active := e.active.insert id ⟨rule.name, job.template⟩ } := by
    simp only [Engine.launchJob, launched]
    rfl
  rw [hafter, hengine, active, metrics]
  exact ⟨rfl, rfl⟩

variable (source : StatusSource) (i : Nat)

/-- A poll retires its jobs as long as nothing else happens. -/
theorem run_retiring :
    ∀ (ended : List JobId) (s : Tracking), s.rounds[i]? = some (.retiring ended) →
      ∃ n, (s.run (List.replicate n (.poll i source))).1 = { s with
        active := (ended.foldl retire (s.active, s.metrics)).1
        metrics := (ended.foldl retire (s.active, s.metrics)).2
        rounds := s.rounds.set i (.retiring []) }
  | [], s, h => by
    refine ⟨0, ?_⟩
    obtain ⟨hlt, hround⟩ := List.getElem?_eq_some_iff.mp h
    have hsame : s.rounds.set i (.retiring []) = s.rounds := by
      rw [← hround, List.set_getElem_self]
    show s = _
    rw [hsame]
    rfl
  | id :: ended, s, h => by
    have hlt : i < s.rounds.length := (List.getElem?_eq_some_iff.mp h).1
    have hstep : s.step (.poll i source) = s.remove i id ended := by
      show s.pollStep i source = _
      unfold pollStep
      rw [h]
    cases hjob : s.active.get? id with
    | none =>
      have hretire : retire (s.active, s.metrics) id = (s.active, s.metrics) := by
        simp only [retire, hjob]
      obtain ⟨n, hn⟩ := run_retiring ended { s with rounds := s.rounds.set i (.retiring ended) }
        (List.getElem?_set_self hlt)
      refine ⟨n + 1, ?_⟩
      rw [List.replicate_succ, run_cons, hstep, List.foldl_cons, hretire]
      simp only [remove, hjob]
      rw [hn, List.set_set]
    | some job =>
      have hretire : retire (s.active, s.metrics) id = (s.active.erase id,
          s.metrics.completed ActionKind.awx.word job.template job.rule) := by
        simp only [retire, hjob]
      obtain ⟨n, hn⟩ := run_retiring ended
        { s with
          active := s.active.erase id
          metrics := s.metrics.completed ActionKind.awx.word job.template job.rule
          rounds := s.rounds.set i (.retiring ended) }
        (List.getElem?_set_self hlt)
      refine ⟨n + 2, ?_⟩
      rw [List.replicate_succ, run_cons, hstep, List.foldl_cons, hretire, List.replicate_succ,
        run_cons]
      simp only [remove, hjob, step, pollStep, List.getElem?_set_self hlt, List.set_set]
      rw [hn, List.set_set]

/-- A poll asks for its jobs and retires them as long as nothing else happens. -/
theorem run_asking :
    ∀ (waiting ended : List JobId) (s : Tracking), s.rounds[i]? = some (.asking waiting ended) →
      ∃ n, (s.run (List.replicate n (.poll i source))).1 = { s with
        active := ((ended ++ waiting.filter source.reportsEnd).foldl retire
          (s.active, s.metrics)).1
        metrics := ((ended ++ waiting.filter source.reportsEnd).foldl retire
          (s.active, s.metrics)).2
        rounds := s.rounds.set i (.retiring []) }
  | [], ended, s, h => by
    have hlt : i < s.rounds.length := (List.getElem?_eq_some_iff.mp h).1
    have hstep : s.step (.poll i source)
        = ({ s with rounds := s.rounds.set i (.retiring ended) }, none) := by
      show s.pollStep i source = _
      unfold pollStep
      rw [h]
    obtain ⟨n, hn⟩ := run_retiring source i ended
      { s with rounds := s.rounds.set i (.retiring ended) } (List.getElem?_set_self hlt)
    refine ⟨n + 1, ?_⟩
    rw [List.replicate_succ, run_cons, hstep, hn, List.set_set, List.filter_nil, List.append_nil]
  | id :: waiting, ended, s, h => by
    have hlt : i < s.rounds.length := (List.getElem?_eq_some_iff.mp h).1
    have hstep : s.step (.poll i source)
        = ({ s with rounds := s.rounds.set i (.asking waiting (Round.noted source ended id)) },
            some (.answered i id (source id))) := by
      show s.pollStep i source = _
      unfold pollStep
      rw [h]
    have hended : Round.noted source ended id ++ waiting.filter source.reportsEnd
        = ended ++ (id :: waiting).filter source.reportsEnd := by
      unfold Round.noted
      rw [List.filter_cons]
      split
      · exact List.append_assoc ..
      · rfl
    obtain ⟨n, hn⟩ := run_asking waiting (Round.noted source ended id)
      { s with rounds := s.rounds.set i (.asking waiting (Round.noted source ended id)) }
      (List.getElem?_set_self hlt)
    refine ⟨n + 1, ?_⟩
    rw [List.replicate_succ, run_cons, hstep, hn, hended, List.set_set]

/-- **A poll on its own**, once it is over, leaves the tracked jobs and the metrics as `poll`
    does. -/
theorem run_poll (s : Tracking) :
    ∃ n, (s.run (.begin :: List.replicate n (.poll s.rounds.length source))).1 = { s with
      active := (Healing.poll source s.active s.metrics).active
      metrics := (Healing.poll source s.active s.metrics).metrics
      rounds := s.rounds ++ [.retiring []] } := by
  obtain ⟨n, hn⟩ := run_asking source s.rounds.length s.active.keys []
    { s with rounds := s.rounds ++ [.start s.active] } List.getElem?_concat_length
  refine ⟨n, ?_⟩
  have hrounds : (s.rounds ++ [Round.start s.active]).set s.rounds.length (.retiring [])
      = s.rounds ++ [.retiring []] := by
    rw [List.set_append_right _ _ (Nat.le_refl _), Nat.sub_self]
    rfl
  rw [run_cons]
  show (run { s with rounds := s.rounds ++ [.start s.active] } _).1 = _
  rw [hn, hrounds]
  rfl

end Alone

end Tracking

end Healing
