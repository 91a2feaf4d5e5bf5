/-
  Jobs are retired once.

  Several polls may have found out that a job has ended, and jobs are launched while polls are under
  way.  Whatever the schedule, a job is taken out by one poll only, and the poll that takes it out
  counts it.

  1. **Events** - what has become of the jobs, read off what is seen; `Told`, that a poll has been
     told of the end of a job.
  2. **Rounds** - what it means that one of the polls goes on.
  3. **Steps** - `Tracking.Sound` relates a state to what has been seen so far; an event has to
     balance what becomes of the state (`Tracking.Sound.snoc`), and every move sees to that
     (`Tracking.Sound.step`).
  4. **Schedules** - `Tracking.Sound.run`; `Tracking.retired_once` says what this means for the
     jobs, and `Raced` shows it for two polls that race.
-/
import Healing.Proofs.ActiveJobs
import Healing.Proofs.ActiveJobs.Schedule
import Mathlib.Data.List.Perm.Basic

namespace Healing

namespace Tracking

/-! ## Events -/

/-- The job that is to be launched by a move. -/
def Move.launched? : Move → Option (JobId × ActiveJob)
  | .launch id job => some (id, job)
  | _ => none

namespace Event

/-- The job that has been launched. -/
def launched? : Event → Option (JobId × ActiveJob)
  | .launched id job => some (id, job)
  | _ => none

/-- The job that is tracked from then on. -/
def tracked? : Event → Option (JobId × ActiveJob)
  | .tracked id job => some (id, job)
  | _ => none

/-- The job that is tracked no longer. -/
def removed? : Event → Option (JobId × ActiveJob)
  | .removed _ id job => some (id, job)
  | _ => none

/-- The job that has been counted as completed. -/
def counted? : Event → Option (JobId × ActiveJob)
  | .counted _ id job => some (id, job)
  | _ => none

/-- What is reported to the metrics. -/
def entry? : Event → Option Metrics.Entry
  | .launched _ job => some (.started ActionKind.awx.word job.template job.rule)
  | .counted _ _ job => some job.ended
  | _ => none

end Event

/-- Whether a poll has been told that a job has come to its end. -/
def Told (seen : List Event) (round : Nat) (id : JobId) : Prop :=
  ∃ status, .answered round id (.ok status) ∈ seen ∧ JobStatus.isFinished status = true

/-- What has been told has been told for good. -/
theorem Told.mono {seen : List Event} {i : Nat} {id : JobId} (h : Told seen i id)
    (more : List Event) : Told (seen ++ more) i id := by
  obtain ⟨status, hmem, hfinished⟩ := h
  exact ⟨status, List.mem_append_left more hmem, hfinished⟩

/-- A poll has been told what it has just been told. -/
theorem told_of_reportsEnd (seen : List Event) (i : Nat) {source : StatusSource} {id : JobId}
    (h : source.reportsEnd id = true) : Told (seen ++ [.answered i id (source id)]) i id := by
  unfold StatusSource.reportsEnd at h
  cases hanswer : source id with
  | error cause =>
    rw [hanswer] at h
    cases h
  | ok status =>
    rw [hanswer] at h
    exact ⟨status, List.mem_append_right _ (List.mem_singleton_self _), h⟩

/-- Whether a job is only taken out by a poll that has been told of its end. -/
def Justified (seen : List Event) : Prop :=
  ∀ before i id job after, seen = before ++ .removed i id job :: after → Told before i id

/-- One more event. -/
theorem Justified.snoc {seen : List Event} (h : Justified seen) {event : Event}
    (told : ∀ i id job, event = .removed i id job → Told seen i id) :
    Justified (seen ++ [event]) := by
  intro before i id job after hsplit
  rcases List.eq_nil_or_concat after with rfl | ⟨shorter, last, rfl⟩
  · obtain ⟨rfl, hevent⟩ := List.append_inj' hsplit rfl
    exact told i id job (List.singleton_inj.mp hevent)
  · rw [List.concat_eq_append, ← List.cons_append, ← List.append_assoc] at hsplit
    obtain ⟨rfl, -⟩ := List.append_inj' hsplit rfl
    exact h before i id job shorter rfl

/-- How often a job is counted when one more event has been seen. -/
theorem count_snoc (f : Event → Option (JobId × ActiveJob)) (seen : List Event) (event : Event)
    (p : JobId × ActiveJob) :
    ((seen ++ [event]).filterMap f).count p
      = (seen.filterMap f).count p + (f event).toList.count p := by
  simp only [List.filterMap_eq_flatMap_toList, List.flatMap_append, List.flatMap_cons,
    List.flatMap_nil, List.append_nil, List.count_append]

/-! ## Rounds -/

section Rounds

variable {rounds : List Round} {i : Nat} {r : Round}

/-- How the jobs that are out but not counted yet change when one poll goes on. -/
theorem count_leaving_set (h : rounds[i]? = some r) (next : Round) (p : JobId × ActiveJob) :
    (rounds.filterMap Round.leaving?).count p + next.leaving?.toList.count p
      = ((rounds.set i next).filterMap Round.leaving?).count p + r.leaving?.toList.count p := by
  obtain ⟨hlt, rfl⟩ := List.getElem?_eq_some_iff.mp h
  have hbefore := ((List.getElem_cons_eraseIdx_perm hlt).filterMap Round.leaving?).count_eq p
  have hafter := ((List.set_perm_cons_eraseIdx hlt next).filterMap Round.leaving?).count_eq p
  rw [← hbefore, hafter]
  simp only [List.filterMap_eq_flatMap_toList, List.flatMap_cons, List.count_append]
  omega

/-- What the polls have been told is enough when one of them goes on. -/
theorem told_set {seen : List Event} (more : List Event) {next : Round}
    (told : ∀ j r, rounds[j]? = some r → ∀ id ∈ r.ended, Told seen j id)
    (hnext : ∀ id ∈ next.ended, Told (seen ++ more) i id) :
    ∀ j r, (rounds.set i next)[j]? = some r → ∀ id ∈ r.ended, Told (seen ++ more) j id := by
  intro j r hj id hid
  rcases Nat.decEq i j with hne | rfl
  · rw [List.getElem?_set_ne hne] at hj
    exact (told j r hj id hid).mono more
  · have hlt : i < (rounds.set i next).length := (List.getElem?_eq_some_iff.mp hj).1
    rw [List.length_set] at hlt
    rw [List.getElem?_set_self hlt] at hj
    obtain rfl := Option.some.inj hj
    exact hnext id hid

end Rounds

/-! ## Steps -/

/-- What has been seen so far tells how a state has come about. -/
structure Sound (s : Tracking) (seen : List Event) : Prop where
  /-- What has been launched is tracked by now, unless it is about to be. -/
  launched : ∀ p, (seen.filterMap Event.launched?).count p
    = s.launches.count p + (seen.filterMap Event.tracked?).count p
  /-- What has been tracked still is, unless it has been taken out. -/
  tracked : ∀ p, (seen.filterMap Event.tracked?).count p
    = s.active.entries.count p + (seen.filterMap Event.removed?).count p
  /-- What has been taken out is counted by now, unless it is about to be. -/
  removed : ∀ p, (seen.filterMap Event.removed?).count p
    = (seen.filterMap Event.counted?).count p + (s.rounds.filterMap Round.leaving?).count p
  /-- The metrics know what has been counted, and nothing else. -/
  metrics : s.metrics = (seen.filterMap Event.entry?).foldl Metrics.record {}
  /-- The polls have been told of what they note. -/
  told : ∀ i r, s.rounds[i]? = some r → ∀ id ∈ r.ended, Told seen i id
  justified : Justified seen

namespace Sound

variable {s : Tracking} {seen : List Event}

/-- Nothing has happened yet. -/
theorem start : Sound {} [] where
  launched := fun _ => rfl
  tracked := fun _ => rfl
  removed := fun _ => rfl
  metrics := rfl
  told := fun _ _ h => by cases h
  justified := fun before _ _ _ _ h => by cases before <;> cases h

/-- What has been launched is about to be tracked, is tracked, or has been taken out. -/
theorem launched_perm (h : Sound s seen) : (seen.filterMap Event.launched?).Perm
    (s.launches ++ (s.active.entries ++ seen.filterMap Event.removed?)) := by
  rw [List.perm_iff_count]
  intro p
  rw [List.count_append, List.count_append, h.launched, h.tracked]

/-- What is about to be tracked is not tracked yet. -/
theorem not_tracked (h : Sound s seen)
    (fresh : ((seen.filterMap Event.launched?).map Prod.fst).Nodup) {i : Nat} {id : JobId}
    {job : ActiveJob} (hlaunch : s.launches[i]? = some (id, job)) : s.active.get? id = none := by
  have hlaunches : id ∈ s.launches.map Prod.fst :=
    List.mem_map_of_mem (List.mem_of_getElem? hlaunch)
  -- no number occurs twice among the jobs that are about to be tracked, tracked, or out
  have hperm := h.launched_perm.map Prod.fst
  rw [List.map_append, List.map_append] at hperm
  obtain ⟨-, -, hdisjoint⟩ := List.nodup_append.mp (hperm.nodup_iff.mp fresh)
  rw [Option.eq_none_iff_forall_ne_some]
  intro other hother
  have hactive : id ∈ s.active.entries.map Prod.fst :=
    List.mem_map_of_mem (KeyMap.get?_eq_some_iff.mp hother)
  exact hdisjoint id hlaunches id (List.mem_append_left _ hactive) rfl

/-- **One more event**: what it says has to balance what becomes of the state. -/
theorem snoc (h : Sound s seen) {after : Tracking} {event : Event}
    (launched : ∀ p, event.launched?.toList.count p + s.launches.count p
      = event.tracked?.toList.count p + after.launches.count p)
    (tracked : ∀ p, event.tracked?.toList.count p + s.active.entries.count p
      = event.removed?.toList.count p + after.active.entries.count p)
    (removed : ∀ p, event.removed?.toList.count p + (s.rounds.filterMap Round.leaving?).count p
      = event.counted?.toList.count p + (after.rounds.filterMap Round.leaving?).count p)
    (metrics : after.metrics = event.entry?.toList.foldl Metrics.record s.metrics)
    (told : ∀ i r, after.rounds[i]? = some r → ∀ id ∈ r.ended, Told (seen ++ [event]) i id)
    (justified : ∀ i id job, event = .removed i id job → Told seen i id) :
    Sound after (seen ++ [event]) where
  launched := by
    intro p
    have hp := h.launched p
    have hevent := launched p
    rw [count_snoc, count_snoc]
    omega
  tracked := by
    intro p
    have hp := h.tracked p
    have hevent := tracked p
    rw [count_snoc, count_snoc]
    omega
  removed := by
    intro p
    have hp := h.removed p
    have hevent := removed p
    rw [count_snoc, count_snoc]
    omega
  metrics := by
    rw [metrics, h.metrics, ← List.foldl_append]
    simp only [List.filterMap_eq_flatMap_toList, List.flatMap_append, List.flatMap_cons,
      List.flatMap_nil, List.append_nil]
  told := told
  justified := h.justified.snoc justified

/-- A job is launched. -/
theorem launch (h : Sound s seen) (id : JobId) (job : ActiveJob) :
    Sound { s with
      metrics := s.metrics.started ActionKind.awx.word job.template job.rule
      launches := s.launches ++ [(id, job)] } (seen ++ [.launched id job]) := by
  refine h.snoc ?_ (fun _ => rfl) (fun _ => rfl) rfl ?_ nofun
  · intro p
    show [(id, job)].count p + s.launches.count p = 0 + (s.launches ++ [(id, job)]).count p
    rw [List.count_append]
    omega
  · exact fun i r hr other hother => (h.told i r hr other hother).mono _

/-- A job that has been launched is tracked. -/
theorem track (h : Sound s seen) {i : Nat} {id : JobId} {job : ActiveJob}
    (hlaunch : s.launches[i]? = some (id, job)) (fresh : s.active.get? id = none) :
    Sound { s with active := s.active.insert id job, launches := s.launches.eraseIdx i }
      (seen ++ [.tracked id job]) := by
  refine h.snoc ?_ ?_ (fun _ => rfl) rfl ?_ nofun
  · intro p
    obtain ⟨hlt, hget⟩ := List.getElem?_eq_some_iff.mp hlaunch
    have hlaunches := (List.getElem_cons_eraseIdx_perm hlt).count_eq p
    rw [hget, ← List.singleton_append, List.count_append] at hlaunches
    exact (Nat.zero_add _).trans hlaunches.symm
  · intro p
    have hactive : (s.active.insert id job).entries.count p = _ :=
      (insertEntry_perm job fresh).count_eq p
    rw [← List.singleton_append, List.count_append] at hactive
    exact hactive.symm.trans (Nat.zero_add _).symm
  · exact fun i r hr other hother => (h.told i r hr other hother).mono _

/-- A poll begins. -/
theorem begin (h : Sound s seen) :
    Sound { s with rounds := s.rounds ++ [.start s.active] } seen where
  launched := h.launched
  tracked := h.tracked
  removed := by
    intro p
    rw [List.filterMap_append, List.count_append]
    exact h.removed p
  metrics := h.metrics
  told := by
    intro i r hr id hid
    rw [List.getElem?_append] at hr
    split at hr
    · exact h.told i r hr id hid
    · -- a poll that has just begun has been told nothing
      have hnew := List.mem_singleton.mp (List.mem_of_getElem? hr)
      rw [hnew] at hid
      cases hid
  justified := h.justified

section Going

variable {i : Nat} {id : JobId} {job : ActiveJob} {ended : List JobId}

/-- A poll goes on without anything to be seen. -/
theorem go (h : Sound s seen) {r next : Round} (hround : s.rounds[i]? = some r)
    (leaving : next.leaving? = r.leaving?) (fewer : next.ended ⊆ r.ended) :
    Sound { s with rounds := s.rounds.set i next } seen where
  launched := h.launched
  tracked := h.tracked
  removed := by
    intro p
    have hset := count_leaving_set hround next p
    rw [leaving] at hset
    rw [h.removed, Nat.add_right_cancel hset]
  metrics := h.metrics
  told := by
    have hnext : ∀ id ∈ next.ended, Told (seen ++ []) i id := fun id hid =>
      (h.told i r hround id (fewer hid)).mono []
    have hset := told_set [] h.told hnext
    rwa [List.append_nil] at hset
  justified := h.justified

/-- A poll asks for a job. -/
theorem ask (h : Sound s seen) (source : StatusSource) {waiting : List JobId}
    (hround : s.rounds[i]? = some (.asking (id :: waiting) ended)) :
    Sound { s with rounds := s.rounds.set i (.asking waiting (Round.noted source ended id)) }
      (seen ++ [.answered i id (source id)]) := by
  refine h.snoc (fun _ => rfl) (fun _ => rfl) ?_ rfl (told_set _ h.told ?_) nofun
  · intro p
    have hset := count_leaving_set hround (.asking waiting (Round.noted source ended id)) p
    exact congrArg (0 + ·) (Nat.add_right_cancel hset)
  · intro other hother
    have hold : other ∈ ended → Told (seen ++ [.answered i id (source id)]) i other := fun hmem =>
      (h.told i _ hround other hmem).mono _
    have hnoted : other ∈ Round.noted source ended id := hother
    unfold Round.noted at hnoted
    split at hnoted
    case isFalse => exact hold hnoted
    case isTrue hreports =>
      rcases List.mem_append.mp hnoted with hmem | hnew
      · exact hold hmem
      · rw [List.mem_singleton.mp hnew]
        exact told_of_reportsEnd seen i hreports

/-- A poll takes out a job. -/
theorem remove (h : Sound s seen) (hround : s.rounds[i]? = some (.retiring (id :: ended)))
    (hjob : s.active.get? id = some job) :
    Sound { s with
        active := s.active.erase id
        rounds := s.rounds.set i (.counting id job ended) } (seen ++ [.removed i id job]) := by
  refine h.snoc (fun _ => rfl) ?_ ?_ rfl (told_set _ h.told ?_) ?_
  · intro p
    have hfound : findValue? id s.active.entries = some job := hjob
    have hactive := (perm_eraseEntry id s.active.sorted).count_eq p
    rw [hfound, List.count_append] at hactive
    exact (Nat.zero_add _).trans hactive.symm
  · intro p
    have hset := count_leaving_set hround (.counting id job ended) p
    exact (Nat.add_comm _ _).trans (hset.trans (Nat.add_comm _ _))
  · exact fun other hother => (h.told i _ hround other (List.mem_cons_of_mem id hother)).mono _
  · intro j id' job' hevent
    obtain ⟨rfl, rfl, rfl⟩ := Event.removed.inj hevent
    exact h.told i _ hround id (List.mem_cons_self ..)

/-- A poll counts the job that it has taken out. -/
theorem count (h : Sound s seen) (hround : s.rounds[i]? = some (.counting id job ended)) :
    Sound { s with
        metrics := s.metrics.completed ActionKind.awx.word job.template job.rule
        rounds := s.rounds.set i (.retiring ended) } (seen ++ [.counted i id job]) := by
  refine h.snoc (fun _ => rfl) (fun _ => rfl) ?_ rfl (told_set _ h.told ?_) nofun
  · intro p
    have hset := count_leaving_set hround (.retiring ended) p
    exact (Nat.add_comm _ _).trans (hset.trans (Nat.add_comm _ _))
  · exact fun other hother => (h.told i _ hround other hother).mono _

end Going

/-- **A poll keeps the books.** -/
theorem pollStep (h : Sound s seen) (i : Nat) (source : StatusSource) :
    Sound (s.pollStep i source).1 (seen ++ (s.pollStep i source).2.toList) := by
  unfold Tracking.pollStep
  cases hround : s.rounds[i]? with
  | none =>
    rw [Option.toList_none, List.append_nil]
    exact h
  | some r =>
    cases r with
    | asking waiting ended =>
      cases waiting with
      | nil =>
        rw [Option.toList_none, List.append_nil]
        exact h.go hround rfl (List.Subset.refl _)
      | cons id waiting => exact h.ask source hround
    | retiring ended =>
      cases ended with
      | nil =>
        rw [Option.toList_none, List.append_nil]
        exact h
      | cons id ended =>
        cases hjob : s.active.get? id with
        | none =>
          simp only [Tracking.remove, hjob]
          rw [Option.toList_none, List.append_nil]
          exact h.go hround rfl (List.subset_cons_self id ended)
        | some job =>
          simp only [Tracking.remove, hjob]
          exact h.remove hround hjob
    | counting id job ended => exact h.count hround

/-- **Every move keeps the books.** -/
theorem step (h : Sound s seen) (fresh : ((seen.filterMap Event.launched?).map Prod.fst).Nodup)
    (move : Move) : Sound (s.step move).1 (seen ++ (s.step move).2.toList) := by
  cases move with
  | launch id job => exact h.launch id job
  | track i =>
    cases hlaunch : s.launches[i]? with
    | none =>
      simp only [Tracking.step, hlaunch]
      rw [Option.toList_none, List.append_nil]
      exact h
    | some p =>
      simp only [Tracking.step, hlaunch]
      exact h.track hlaunch (h.not_tracked fresh hlaunch)
  | begin =>
    show Sound _ (seen ++ [])
    rw [List.append_nil]
    exact h.begin
  | poll i source => exact h.pollStep i source

end Sound

/-! ## Schedules -/

/-- No poll launches anything. -/
theorem launched?_of_pollStep (s : Tracking) (i : Nat) (source : StatusSource) :
    (s.pollStep i source).2.toList.filterMap Event.launched? = [] := by
  unfold pollStep
  split
  · rfl
  · rfl
  · unfold remove
    split <;> rfl
  · rfl
  · rfl
  · rfl

/-- What is seen to be launched is what was to be launched. -/
theorem launched?_of_step (s : Tracking) (move : Move) :
    (s.step move).2.toList.filterMap Event.launched? = move.launched?.toList := by
  cases move with
  | launch id job => rfl
  | track i =>
    unfold step
    dsimp only
    split <;> rfl
  | begin => rfl
  | poll i source => exact s.launched?_of_pollStep i source

/-- **Every schedule keeps the books**, if no number is used twice. -/
theorem Sound.run : ∀ {moves : List Move} {s : Tracking} {seen : List Event}, Sound s seen →
    ((seen.filterMap Event.launched? ++ moves.filterMap Move.launched?).map Prod.fst).Nodup →
    Sound (s.run moves).1 (seen ++ (s.run moves).2)
  | [], _, _, h, _ => by
    rw [Tracking.run, List.append_nil]
    exact h
  | move :: r, s, seen, h, fresh => by
    have hlaunched : (move :: r).filterMap Move.launched?
        = move.launched?.toList ++ r.filterMap Move.launched? := by
      simp only [List.filterMap_eq_flatMap_toList, List.flatMap_cons]
    rw [run_cons, ← List.append_assoc]
    refine (h.step ?_ move).run ?_
    · rw [List.map_append] at fresh
      exact (List.nodup_append.mp fresh).1
    · rwa [List.filterMap_append, launched?_of_step, List.append_assoc, ← hlaunched]

/-- What is seen to be launched by a schedule. -/
theorem launched?_of_run : ∀ (moves : List Move) (s : Tracking),
    (s.run moves).2.filterMap Event.launched? = moves.filterMap Move.launched?
  | [], _ => rfl
  | move :: r, s => by
    rw [run_cons, List.filterMap_append, launched?_of_step, launched?_of_run r]
    simp only [List.filterMap_eq_flatMap_toList, List.flatMap_cons]

/-- **Jobs are retired once.**  Take any schedule of launches and polls, whatever AWX answers, in
    which no number is used twice.

    - The jobs that have been tracked are those that still are and those that have been taken out,
      and none is both.
    - A job is taken out by a poll that has been told of its end before.
    - A job is still tracked, with the rule and the template it was tracked with, if all answers
      about it were failures or told that it goes on.
    - What has been taken out is counted, once and with its own rule and template, unless the poll
      that has taken it out is about to count it; and nothing else is counted.
    - The metrics know of launches and of what has been counted, and of nothing else. -/
theorem retired_once {moves : List Move} {s : Tracking} {seen : List Event}
    (fresh : ((moves.filterMap Move.launched?).map Prod.fst).Nodup)
    (run : Tracking.run {} moves = (s, seen)) :
    (((seen.filterMap Event.tracked?).map Prod.fst).Nodup ∧
      (seen.filterMap Event.tracked?).Perm
        (s.active.entries ++ seen.filterMap Event.removed?)) ∧
    (∀ before i id job after, seen = before ++ .removed i id job :: after →
      ∃ status, .answered i id (.ok status) ∈ before ∧ status.isFinished = true) ∧
    (∀ id job, (id, job) ∈ seen.filterMap Event.tracked? →
      (∀ i status, .answered i id (.ok status) ∈ seen → status.isFinished = false) →
      s.active.get? id = some job) ∧
    ((seen.filterMap Event.counted?).Nodup ∧
      (seen.filterMap Event.removed?).Perm
        (seen.filterMap Event.counted? ++ s.rounds.filterMap Round.leaving?) ∧
      ((∀ r ∈ s.rounds, r.leaving? = none) →
        (seen.filterMap Event.removed?).Perm (seen.filterMap Event.counted?))) ∧
    s.metrics = (seen.filterMap Event.entry?).foldl Metrics.record {} := by
  have hsound : Sound s seen := by
    have hrun := Sound.start.run fresh
    rwa [run] at hrun
  have htracked : (seen.filterMap Event.tracked?).Perm
      (s.active.entries ++ seen.filterMap Event.removed?) := by
    rw [List.perm_iff_count]
    intro p
    rw [hsound.tracked, List.count_append]
  have hremoved : (seen.filterMap Event.removed?).Perm
      (seen.filterMap Event.counted? ++ s.rounds.filterMap Round.leaving?) := by
    rw [List.perm_iff_count]
    intro p
    rw [hsound.removed, List.count_append]
  have hnodup : ((seen.filterMap Event.tracked?).map Prod.fst).Nodup := by
    have hlaunched := launched?_of_run moves {}
    have hperm := hsound.launched_perm.map Prod.fst
    rw [run] at hlaunched
    rw [← hlaunched, hperm.nodup_iff, List.map_append] at fresh
    exact (htracked.map Prod.fst).nodup_iff.mpr (List.nodup_append.mp fresh).2.1
  refine ⟨⟨hnodup, htracked⟩, hsound.justified, ?_, ⟨?_, hremoved, ?_⟩, hsound.metrics⟩
  · intro id job hmem unfinished
    rcases List.mem_append.mp (htracked.subset hmem) with hactive | hout
    · exact KeyMap.get?_eq_some_iff.mpr hactive
    · obtain ⟨event, hevent, hjob⟩ := List.mem_filterMap.mp hout
      cases event with
      | removed i out left =>
        obtain ⟨rfl, rfl⟩ := Prod.mk.inj (Option.some.inj hjob)
        obtain ⟨before, after, hsplit⟩ := List.append_of_mem hevent
        obtain ⟨status, htold, hfinished⟩ := hsound.justified _ _ _ _ _ hsplit
        have hmem : .answered i out (.ok status) ∈ seen := by
          rw [hsplit]
          exact List.mem_append_left _ htold
        rw [unfinished i status hmem] at hfinished
        cases hfinished
      | _ => cases hjob
  · have htracks : (seen.filterMap Event.tracked?).Nodup :=
      List.Pairwise.of_map Prod.fst (fun _ _ hne heq => hne (congrArg Prod.fst heq)) hnodup
    have hout := (List.nodup_append.mp (htracked.nodup_iff.mp htracks)).2.1
    exact (List.nodup_append.mp (hremoved.nodup_iff.mp hout)).1
  · intro quiet
    have hnone : s.rounds.filterMap Round.leaving? = [] := List.filterMap_eq_nil_iff.mpr quiet
    rwa [hnone, List.append_nil] at hremoved

end Tracking

namespace Raced

/-- The job that two polls ask for. -/
def first : ActiveJob := ⟨"restart", "Restart"⟩

/-- A job that is launched in the meantime. -/
def second : ActiveJob := ⟨"clean", "Clean"⟩

/-- All jobs have ended. -/
def source : StatusSource := fun _ => .ok .successful

/-- Both polls find out that the first job has ended before either of them retires it. -/
def moves : List Tracking.Move :=
  [.launch 1 first, .track 0, .begin, .begin, .poll 0 source, .poll 1 source, .launch 2 second,
    .track 0, .poll 0 source, .poll 1 source, .poll 1 source, .poll 0 source, .poll 1 source]

/-- What is seen then. -/
def seen : List Tracking.Event :=
  [.launched 1 first, .tracked 1 first, .answered 0 1 (.ok .successful),
    .answered 1 1 (.ok .successful), .launched 2 second, .tracked 2 second, .removed 1 1 first,
    .counted 1 1 first]

/-- The first job is retired by one of the polls, and the second one is tracked. -/
theorem retired_once_of_raced :
    (Tracking.run {} moves).2 = seen ∧
      (seen.filterMap Tracking.Event.removed?).Perm (seen.filterMap Tracking.Event.counted?) ∧
      (Tracking.run {} moves).1.active.get? 2 = some second := by
  have hrun : Tracking.run {} moves = ((Tracking.run {} moves).1, seen) := rfl
  obtain ⟨-, -, hkept, ⟨-, -, hcounted⟩, -⟩ := Tracking.retired_once (by decide) hrun
  refine ⟨rfl, hcounted ?_, hkept 2 second ?_ ?_⟩
  · intro r hr
    have hrounds : (Tracking.run {} moves).1.rounds = [.retiring [], .retiring []] := rfl
    rw [hrounds] at hr
    rcases List.mem_cons.mp hr with rfl | hr
    · rfl
    · rw [List.mem_singleton.mp hr]
      rfl
  · decide
  · intro i status hmem
    simp [seen] at hmem

end Raced

end Healing
