/-
  Items on their way back.

  An item that is put back arrives after its delay.  The items that are on their way are kept in the
  order of their arrival, so those that have arrived by some time are in front.

  1. **Delays** - no delay is zero.
  2. **Order** - `WorkQueue.Timely`: the entries stand in order, and none of them is due yet;
     putting an item back keeps this.
  3. **Arrivals** - `WorkQueue.due`: what arrives by some time; `advance_eq`: it is put behind the
     others, unless the queue is shut down, and what is not due stays on its way.
  4. **Waiting** - `wait_eq`: to wait for an item is to let time pass and to ask then.
-/
import Healing.WorkQueue

namespace Healing.WorkQueue

universe u

variable {α : Type u}

/-! ## Delays -/

/-- Nothing comes back at once. -/
theorem backoff_pos (attempts : Nat) : 0 < backoff attempts := by
  have hfactor : 0 < backoffFactor attempts := by
    unfold backoffFactor
    split
    · exact Nat.pow_pos (by decide)
    · decide
  have hbase : 0 < baseDelay * backoffFactor attempts := Nat.mul_pos (by decide) hfactor
  have hmax : 0 < maxDelay := by decide
  unfold backoff
  omega

/-- An item that is put back once more. -/
def again (x : Queued α) : Queued α := { x with attempts := min (x.attempts + 1) maxAttempts }

/-! ## Order -/

/-- The entries stand in the order of their arrival, and all of them are still to come. -/
structure Timely (q : WorkQueue α) (now : Nat) : Prop where
  sorted : q.delayed.Pairwise fun d e => d.1 ≤ e.1
  ahead : ∀ e ∈ q.delayed, now < e.1

/-- A new entry stands somewhere among the others. -/
theorem insertDelayed_perm (due : Nat) (x : Queued α) :
    ∀ l : List (Nat × Queued α), (insertDelayed due x l).Perm ((due, x) :: l)
  | [] => List.Perm.refl _
  | e :: r => by
    unfold insertDelayed
    split
    · exact ((insertDelayed_perm due x r).cons e).trans (List.Perm.swap _ _ _)
    · exact List.Perm.refl _

/-- A new entry does not disturb the order. -/
theorem pairwise_insertDelayed (due : Nat) (x : Queued α) :
    ∀ {l : List (Nat × Queued α)}, l.Pairwise (fun d e => d.1 ≤ e.1) →
      (insertDelayed due x l).Pairwise fun d e => d.1 ≤ e.1
  | [], _ => List.pairwise_singleton _ _
  | e :: r, h => by
    obtain ⟨hhead, htail⟩ := List.pairwise_cons.mp h
    unfold insertDelayed
    split
    · rename_i hle
      refine List.pairwise_cons.mpr ⟨fun d hd => ?_, pairwise_insertDelayed due x htail⟩
      rcases List.mem_cons.mp ((insertDelayed_perm due x r).mem_iff.mp hd) with rfl | hd
      · exact hle
      · exact hhead d hd
    · rename_i hgt
      refine List.pairwise_cons.mpr ⟨fun d hd => ?_, h⟩
      show due ≤ d.1
      rcases List.mem_cons.mp hd with rfl | hd
      · omega
      · have := hhead d hd
        omega

/-- **Putting an item back** sends it on its way, unless the queue is shut down. -/
theorem requeue_spec (q : WorkQueue α) (now : Nat) (x : Queued α) :
    (q.requeue now x).items = q.items ∧ (q.requeue now x).isShutDown = q.isShutDown ∧
      (q.requeue now x).delayed.Perm
        (if q.isShutDown then q.delayed else (now + backoff x.attempts, again x) :: q.delayed) := by
  unfold requeue
  split
  · exact ⟨rfl, rfl, List.Perm.refl _⟩
  · exact ⟨rfl, rfl, insertDelayed_perm _ _ _⟩

/-- What is put back is still to come, and stands in its place. -/
theorem Timely.requeue {q : WorkQueue α} {now : Nat} (h : q.Timely now) (x : Queued α) :
    (q.requeue now x).Timely now := by
  have hperm := (q.requeue_spec now x).2.2
  refine ⟨?_, fun e he => ?_⟩
  · unfold WorkQueue.requeue
    split
    · exact h.sorted
    · exact pairwise_insertDelayed _ _ h.sorted
  · have hmem := hperm.mem_iff.mp he
    split at hmem
    · exact h.ahead e hmem
    · rcases List.mem_cons.mp hmem with rfl | hmem
      · exact Nat.lt_add_of_pos_right (backoff_pos _)
      · exact h.ahead e hmem

/-! ## Arrivals -/

/-- The entries that arrive by some time. -/
def due (q : WorkQueue α) (now : Nat) : List (Nat × Queued α) :=
  q.delayed.takeWhile fun e => e.1 ≤ now

/-- The entries that are still on their way at some time. -/
def later (q : WorkQueue α) (now : Nat) : List (Nat × Queued α) :=
  q.delayed.dropWhile fun e => e.1 ≤ now

/-- Every entry has arrived or is still on its way. -/
theorem due_append_later (q : WorkQueue α) (now : Nat) : q.due now ++ q.later now = q.delayed :=
  List.takeWhile_append_dropWhile

/-- Entries that arrive are put behind the others, unless the queue is shut down. -/
theorem foldl_push :
    ∀ (l : List (Nat × Queued α)) (q : WorkQueue α),
      l.foldl (fun q e => q.push e.2) q
        = { q with items := q.items ++ if q.isShutDown then [] else l.map Prod.snd }
  | [], q => by simp
  | e :: r, ⟨items, delayed, closed⟩ => by
    rw [List.foldl_cons, foldl_push r]
    cases closed with
    | true => rfl
    | false => simp [push]

/-- **When time passes** the entries that arrive are put behind the others, unless the queue is shut
    down, and what is not due stays on its way. -/
theorem advance_eq (q : WorkQueue α) (now : Nat) :
    q.advance now =
      { items := q.items ++ if q.isShutDown then [] else (q.due now).map Prod.snd
        delayed := q.later now
        isShutDown := q.isShutDown } :=
  foldl_push _ _

/-- What arrives by some time has come by then. -/
theorem le_of_mem_due {q : WorkQueue α} {now : Nat} {e : Nat × Queued α} (h : e ∈ q.due now) :
    e.1 ≤ now := by
  have := List.all_eq_true.mp List.all_takeWhile e h
  simpa using this

/-- What is later than what comes first is still to come. -/
theorem lt_of_mem_later {q : WorkQueue α} (sorted : q.delayed.Pairwise fun d e => d.1 ≤ e.1)
    {now : Nat} {e : Nat × Queued α} (h : e ∈ q.later now) : now < e.1 := by
  have hlater : (q.later now).Pairwise fun d e => d.1 ≤ e.1 :=
    sorted.sublist (List.dropWhile_sublist _)
  have hhead := List.head?_dropWhile_not (fun e : Nat × Queued α => decide (e.1 ≤ now)) q.delayed
  unfold later at h hlater
  cases hdrop : q.delayed.dropWhile fun e => decide (e.1 ≤ now) with
  | nil => rw [hdrop] at h; cases h
  | cons d r =>
    rw [hdrop] at h hlater hhead
    have hd : now < d.1 := by simpa using hhead
    rcases List.mem_cons.mp h with rfl | hr
    · exact hd
    · exact Nat.lt_of_lt_of_le hd ((List.pairwise_cons.mp hlater).1 e hr)

/-- Time keeps the order. -/
theorem Timely.advance {q : WorkQueue α} {now : Nat} (h : q.Timely now) (time : Nat) :
    (q.advance time).Timely time := by
  rw [advance_eq]
  exact ⟨h.sorted.sublist (List.dropWhile_sublist _), fun e he => lt_of_mem_later h.sorted he⟩

/-- Nothing happens while nothing is due. -/
theorem advance_of_ahead {q : WorkQueue α} {now : Nat} (h : ∀ e ∈ q.delayed, now < e.1) :
    q.due now = [] ∧ q.advance now = q := by
  have hdue : q.due now = [] := by
    unfold due
    cases hdelayed : q.delayed with
    | nil => rfl
    | cons e r =>
      have := h e (hdelayed ▸ List.mem_cons_self ..)
      exact List.takeWhile_cons_of_neg (by simpa using this)
  have hlater : q.later now = q.delayed := by
    have := q.due_append_later now
    rwa [hdue] at this
  refine ⟨hdue, ?_⟩
  rw [advance_eq, hdue, hlater]
  simp

/-! ## Waiting -/

/-- A queue that has no item for now is open and empty. -/
theorem get_eq_nothing_iff (q : WorkQueue α) :
    q.get.1 = .nothing ↔ q.items = [] ∧ q.isShutDown = false := by
  obtain ⟨items, delayed, closed⟩ := q
  cases items with
  | nil => cases closed <;> simp [WorkQueue.get]
  | cons x r => simp [WorkQueue.get]

/-- **To wait for an item** is to let time pass for as long as one is willing to, or for less if an
    item comes before, and to ask then. -/
theorem wait_eq {q : WorkQueue α} {now : Nat} (h : q.Timely now) (patience : Nat) :
    ∃ nanos ≤ patience, q.wait now (now + patience)
      = ((q.advance (now + nanos)).get.1, now + nanos, (q.advance (now + nanos)).get.2) := by
  have hget : q.get = (q.get.1, q.get.2) := rfl
  cases hanswer : q.get.1 with
  | item x =>
    refine ⟨0, Nat.zero_le _, ?_⟩
    rw [Nat.add_zero, (advance_of_ahead h.ahead).2, hanswer]
    unfold wait
    rw [hget, hanswer]
  | closed =>
    refine ⟨0, Nat.zero_le _, ?_⟩
    rw [Nat.add_zero, (advance_of_ahead h.ahead).2, hanswer]
    unfold wait
    rw [hget, hanswer]
  | nothing =>
    obtain ⟨hitems, hopen⟩ := q.get_eq_nothing_iff.mp hanswer
    have hsame : q.get.2 = q := by
      unfold WorkQueue.get
      rw [hitems]
    -- without an arrival there is still nothing in the end
    have hidle : (∀ e ∈ q.delayed, now + patience < e.1) →
        (.nothing, now + patience, q) = ((q.advance (now + patience)).get.1, now + patience,
          (q.advance (now + patience)).get.2) := by
      intro hahead
      rw [(advance_of_ahead hahead).2, hanswer, hsame]
    unfold wait
    rw [hget, hanswer]
    dsimp only
    cases hdelayed : q.delayed with
    | nil =>
      refine ⟨patience, Nat.le_refl _, hidle fun e he => ?_⟩
      rw [hdelayed] at he
      cases he
    | cons first r =>
      have hfirst : now < first.1 := h.ahead first (hdelayed ▸ List.mem_cons_self ..)
      dsimp only
      split
      · refine ⟨first.1 - now, by omega, ?_⟩
        have htime : now + (first.1 - now) = first.1 := by omega
        rw [htime, Nat.max_eq_right (Nat.le_of_lt hfirst)]
      · have hahead : ∀ e ∈ q.delayed, now + patience < e.1 := by
          intro e he
          have hsorted := h.sorted
          rw [hdelayed] at he hsorted
          rcases List.mem_cons.mp he with rfl | he
          · omega
          · have := (List.pairwise_cons.mp hsorted).1 e he
            omega
        rw [(advance_of_ahead hahead).2]
        exact ⟨patience, Nat.le_refl _, hidle hahead⟩

end Healing.WorkQueue
