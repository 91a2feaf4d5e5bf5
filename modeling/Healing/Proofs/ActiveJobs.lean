/-
  Jobs that are retired.

  A poll retires jobs one by one.  No job is asked for twice, so that each of them is still tracked
  when its turn comes, and what is retired and what is left make up what was tracked before.

  1. **Several jobs** - what retiring jobs one after the other reports to the metrics
     (`metrics_foldl_retire`), and that no job is lost or counted twice (`count_foldl_retire`).
  2. **Polls** - `Poll.records`: the jobs that a poll has retired.
-/
import Healing.ActiveJobs
import Healing.Proofs.KeyMap
import Healing.Proofs.Metrics
import Mathlib.Data.List.Basic

namespace Healing

open Metrics (Entry)

/-! ## Several jobs -/

/-- The report that a job has come to its end. -/
def ActiveJob.ended (job : ActiveJob) : Entry :=
  .completed ActionKind.awx.word job.template job.rule

/-- What retiring one job leaves tracked. -/
theorem retire_fst (active : ActiveJobs) (m : Metrics) (id : JobId) :
    (∀ other, other ≠ id → (retire (active, m) id).1.get? other = active.get? other) ∧
    ∀ job, active.values.count job
      = (retire (active, m) id).1.values.count job + (active.get? id).toList.count job := by
  unfold retire
  cases hjob : active.get? id with
  | none => exact ⟨fun _ _ => rfl, fun _ => rfl⟩
  | some job =>
    refine ⟨fun other hne => ?_, fun job' => ?_⟩
    · show (active.erase id).get? other = _
      rw [KeyMap.get?_erase, if_neg hne]
    · show _ = (active.erase id).values.count job' + _
      rw [active.count_values_erase id, hjob]

/-- What retiring one job reports. -/
theorem retire_snd (active : ActiveJobs) (m : Metrics) (id : JobId) :
    (retire (active, m) id).2
      = ((active.get? id).toList.map ActiveJob.ended).foldl Metrics.record m := by
  unfold retire
  cases active.get? id with
  | none => rfl
  | some job => rfl

/-- The others are still tracked when one job has been retired. -/
theorem filterMap_get?_retire {ids : List JobId} {id : JobId} (hid : id ∉ ids)
    (active : ActiveJobs) (m : Metrics) :
    ids.filterMap (retire (active, m) id).1.get? = ids.filterMap active.get? := by
  refine List.filterMap_congr fun other hother => (retire_fst active m id).1 other ?_
  rintro rfl
  exact hid hother

/-- The jobs behind some numbers, with the first number set apart. -/
theorem filterMap_get?_cons (active : ActiveJobs) (id : JobId) (ids : List JobId) :
    (id :: ids).filterMap active.get?
      = (active.get? id).toList ++ ids.filterMap active.get? := by
  rw [List.filterMap_eq_flatMap_toList, List.filterMap_eq_flatMap_toList, List.flatMap_cons]

/-- Retiring different jobs reports each of them. -/
theorem metrics_foldl_retire :
    ∀ {ids : List JobId} (active : ActiveJobs) (m : Metrics), ids.Nodup →
      (ids.foldl retire (active, m)).2
        = ((ids.filterMap active.get?).map ActiveJob.ended).foldl Metrics.record m
  | [], _, _, _ => rfl
  | id :: r, active, m, h => by
    obtain ⟨hid, hr⟩ := List.nodup_cons.mp h
    have htail := metrics_foldl_retire (retire (active, m) id).1 (retire (active, m) id).2 hr
    have hhead := retire_snd active m id
    rw [filterMap_get?_retire hid] at htail
    rw [filterMap_get?_cons, List.map_append, List.foldl_append, ← hhead]
    exact htail

/-- **What is retired and what is left** make up what was tracked. -/
theorem count_foldl_retire (job : ActiveJob) :
    ∀ {ids : List JobId} (active : ActiveJobs) (m : Metrics), ids.Nodup →
      active.values.count job = (ids.foldl retire (active, m)).1.values.count job
        + (ids.filterMap active.get?).count job
  | [], _, _, _ => rfl
  | id :: r, active, m, h => by
    obtain ⟨hid, hr⟩ := List.nodup_cons.mp h
    have hhead := (retire_fst active m id).2 job
    have htail := count_foldl_retire job (retire (active, m) id).1 (retire (active, m) id).2 hr
    rw [filterMap_get?_retire hid] at htail
    have hfold : (id :: r).foldl retire (active, m)
        = r.foldl retire ((retire (active, m) id).1, (retire (active, m) id).2) := rfl
    rw [hfold, filterMap_get?_cons, List.count_append]
    omega

/-! ## Polls -/

section Polls

variable (source : StatusSource) (active : ActiveJobs) (m : Metrics)

/-- The jobs that a poll retires, as they were tracked before. -/
def Poll.records : List ActiveJob := (poll source active m).retired.filterMap active.get?

/-- No job is retired twice by one poll. -/
theorem nodup_retired : (poll source active m).retired.Nodup :=
  active.nodup_keys.filter _

/-- **A poll reports the jobs that it retires**, and goes on tracking the others. -/
theorem poll_spec :
    (poll source active m).metrics
      = ((Poll.records source active m).map ActiveJob.ended).foldl Metrics.record m ∧
    ∀ job, active.values.count job
      = (poll source active m).active.values.count job + (Poll.records source active m).count job :=
  ⟨metrics_foldl_retire active m (nodup_retired source active m),
    fun job => count_foldl_retire job active m (nodup_retired source active m)⟩

end Polls

end Healing
