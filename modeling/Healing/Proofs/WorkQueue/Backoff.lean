/-
  Delays of items that are put back again and again.

  The delay of an item doubles with every attempt until it has come to its limit, and stays there.
  The attempts are counted in a word of 32 bits, and the count stops at the largest word; by then
  the delay has been at its limit for long, so that no delay shows that the count has stopped.

  1. **Delays** - `backoff_eq`: the delay is `doubledDelay`, which has no bounds but the limit.
  2. **Words** - `delayWord`, the delay as words of 32 and 64 bits give it; nothing is cut off
     (`toNat_delayWord`).
  3. **Growth** - delays do not shrink, double up to the limit and stay at it.
  4. **Attempts** - an item that has been put back so many times (`attempts_iterate`), and its delay
     (`backoff_iterate`).
  5. **Sessions** - `Session.Chain`, an item that is put back again and again while anything else is
     done with the queue.
  6. **Rounds** - `Session.retries`, a queue on which nothing else is done, round by round
     (`Session.run_retries`).
  7. **Waits** - `Session.waits_double_to_limit`.
-/
import Healing.Proofs.WorkQueue.Conservation
import Mathlib.Algebra.Group.Nat.Defs
import Mathlib.Data.List.TakeWhile
import Mathlib.Logic.Function.Iterate

namespace Healing.WorkQueue

universe u

variable {α : Type u}

/-! ## Delays -/

/-- Five milliseconds doubled so many times, but a thousand seconds at most. -/
def doubledDelay (attempts : Nat) : Nat := min (5_000_000 * 2 ^ attempts) 1_000_000_000_000

/-- From the eighteenth attempt on the delay would be longer than it may be. -/
theorem maxDelay_le_of_le {n : Nat} (h : 18 ≤ n) : maxDelay ≤ baseDelay * 2 ^ n := by
  have hpow : 2 ^ 18 ≤ 2 ^ n := Nat.pow_le_pow_right (by decide) h
  unfold maxDelay baseDelay
  omega

/-- **The delay is the doubled one**, whatever factor there is beyond 31 doublings. -/
theorem backoff_eq (n : Nat) : backoff n = doubledDelay n := by
  unfold backoff backoffFactor
  split
  · rfl
  · have hexact : maxDelay ≤ baseDelay * 2 ^ n := maxDelay_le_of_le (by omega)
    have hfixed : maxDelay ≤ baseDelay * 4_294_967_295 := by decide
    exact (Nat.min_eq_right hfixed).trans (Nat.min_eq_right hexact).symm

/-! ## Words -/

/-- The factor as a word: a bit that is shifted, or all bits if it would be shifted out. -/
def factorWord (attempts : UInt32) : UInt32 :=
  if attempts < 32 then 1 <<< attempts else 4_294_967_295

/-- The delay as a word of 64 bits. -/
def delayWord (attempts : UInt32) : UInt64 :=
  min (5_000_000 * (factorWord attempts).toUInt64) 1_000_000_000_000

/-- The bit is not shifted out. -/
theorem toNat_factorWord (n : UInt32) : (factorWord n).toNat = backoffFactor n.toNat := by
  unfold factorWord backoffFactor
  by_cases h : n < 32
  · have hlt : n.toNat < 32 := UInt32.lt_iff_toNat_lt.mp h
    have hpow : 2 ^ n.toNat < 2 ^ 32 := Nat.pow_lt_pow_right (by decide) hlt
    rw [if_pos h, if_pos hlt, UInt32.toNat_shiftLeft, Nat.mod_eq_of_lt hlt]
    show 1 <<< n.toNat % 2 ^ 32 = 2 ^ n.toNat
    rw [Nat.one_shiftLeft, Nat.mod_eq_of_lt hpow]
  · have hle : ¬ n.toNat < 32 := fun hlt => h (UInt32.lt_iff_toNat_lt.mpr hlt)
    rw [if_neg h, if_neg hle]
    rfl

/-- The lesser word is the lesser number. -/
theorem toNat_min (v w : UInt64) : (min v w).toNat = min v.toNat w.toNat := by
  show (if v ≤ w then v else w).toNat = if v.toNat ≤ w.toNat then v.toNat else w.toNat
  by_cases h : v ≤ w
  · rw [if_pos h, if_pos (UInt64.le_iff_toNat_le.mp h)]
  · rw [if_neg h, if_neg (mt UInt64.le_iff_toNat_le.mpr h)]

/-- **Words are wide enough** for the delay. -/
theorem toNat_delayWord (n : UInt32) : (delayWord n).toNat = backoff n.toNat := by
  have hfactor : (factorWord n).toNat < 2 ^ 32 := (factorWord n).toNat_lt
  have hwide : baseDelay * (factorWord n).toNat < 2 ^ 64 := by
    unfold baseDelay
    omega
  have hproduct : (5_000_000 * (factorWord n).toUInt64).toNat
      = baseDelay * backoffFactor n.toNat := by
    rw [UInt64.toNat_mul, UInt32.toNat_toUInt64, ← toNat_factorWord]
    exact Nat.mod_eq_of_lt hwide
  unfold delayWord backoff
  rw [toNat_min, hproduct]
  rfl

/-! ## Growth -/

/-- Delays do not shrink. -/
theorem backoff_mono {m n : Nat} (h : m ≤ n) : backoff m ≤ backoff n := by
  have hpow : 2 ^ m ≤ 2 ^ n := Nat.pow_le_pow_right (by decide) h
  rw [backoff_eq, backoff_eq]
  unfold doubledDelay
  omega

/-- No delay is longer than the limit. -/
theorem backoff_le (n : Nat) : backoff n ≤ maxDelay := Nat.min_le_right _ _

/-- **Each delay is twice the one before**, up to the limit. -/
theorem backoff_succ (n : Nat) : backoff (n + 1) = min (2 * backoff n) maxDelay := by
  have hpow : 2 ^ (n + 1) = 2 ^ n * 2 := Nat.pow_succ ..
  rw [backoff_eq, backoff_eq]
  unfold doubledDelay maxDelay
  omega

/-- **A delay that has come to the limit** stays there. -/
theorem backoff_of_limit {n : Nat} (h : maxDelay ≤ 2 * backoff n) {m : Nat} (hm : n < m) :
    backoff m = maxDelay := by
  have hnext : backoff (n + 1) = maxDelay := (backoff_succ n).trans (Nat.min_eq_right h)
  have hmono : backoff (n + 1) ≤ backoff m := backoff_mono hm
  have hle := backoff_le m
  omega

/-! ## Attempts -/

/-- **The count of attempts** of an item that has been put back so many times. -/
theorem attempts_iterate (x : Queued α) (h : x.attempts ≤ maxAttempts) (k : Nat) :
    again^[k] x = { x with attempts := min (x.attempts + k) maxAttempts } := by
  induction k with
  | zero =>
    obtain ⟨item, attempts⟩ := x
    exact congrArg (Queued.mk item) (Nat.min_eq_left h).symm
  | succ k ih =>
    rw [Function.iterate_succ_apply', ih]
    refine congrArg (Queued.mk x.item) ?_
    show min (min (x.attempts + k) maxAttempts + 1) maxAttempts = _
    omega

/-- The delay does not tell whether the count of attempts has stopped. -/
theorem backoff_min (n : Nat) : backoff (min n maxAttempts) = doubledDelay n := by
  rw [← backoff_eq]
  rcases Nat.le_total n maxAttempts with h | h
  · rw [Nat.min_eq_left h]
  · -- both counts are beyond the limit of the delay
    have hlimit : maxDelay ≤ 2 * backoff 18 := by decide
    have hstopped : 18 < maxAttempts := by decide
    rw [Nat.min_eq_right h, backoff_of_limit hlimit hstopped,
      backoff_of_limit hlimit (Nat.lt_of_lt_of_le hstopped h)]

/-- **The delay of an item** that has been put back so many times. -/
theorem backoff_iterate (x : Queued α) (h : x.attempts ≤ maxAttempts) (k : Nat) :
    backoff (again^[k] x).attempts = doubledDelay (x.attempts + k) := by
  rw [attempts_iterate x h, backoff_min]

namespace Session

/-! ## Sessions -/

/-- Moves are made one after the other. -/
theorem run_cons (s : Session α) (move : Move α) (r : List (Move α)) :
    s.run (move :: r)
      = (((s.step move).1.run r).1, (s.step move).2 ++ ((s.step move).1.run r).2) :=
  rfl

/-- To make some moves and then others is to make them all. -/
theorem run_append (moves more : List (Move α)) : ∀ s : Session α,
    s.run (moves ++ more)
      = (((s.run moves).1.run more).1, (s.run moves).2 ++ ((s.run moves).1.run more).2) := by
  induction moves with
  | nil => exact fun _ => rfl
  | cons move r ih =>
    intro s
    rw [List.cons_append, run_cons, run_cons, ih, List.append_assoc]

/-- What is put back has been obtained. -/
theorem mem_got_of_step {s : Session α} {move : Move α} {time : Nat} {x : Queued α}
    (h : Event.putBack time x ∈ (s.step move).2) : x ∈ s.got := by
  have hquiet (q : WorkQueue α) (now : Nat) : Event.putBack time x ∉ returning q now := by
    unfold returning
    simp
  cases move with
  | add a => simp [step] at h
  | get => simp [step, ask] at h
  | wait patience =>
    rcases List.mem_append.mp h with h | h
    · exact absurd h (hquiet _ _)
    · simp at h
  | requeue index =>
    simp only [step, requeue] at h
    cases hgot : s.got[index]? with
    | none => simp [hgot] at h
    | some y =>
      simp only [hgot, List.mem_singleton, Event.putBack.injEq] at h
      obtain ⟨-, rfl⟩ := h
      exact List.mem_of_getElem? hgot
  | pass nanos => exact absurd h (hquiet _ _)
  | shutDown => simp [step] at h

/-- What has been put back in the course of a session has been handed out. -/
theorem mem_handed_of_putBack {time : Nat} {x : Queued α} (moves : List (Move α)) :
    ∀ {s : Session α} {seen : List (Event α)}, Sound s seen →
      Event.putBack time x ∈ (s.run moves).2 → x ∈ handed (seen ++ (s.run moves).2) := by
  induction moves with
  | nil => exact fun _ h => nomatch h
  | cons move r ih =>
    intro s seen sound h
    rw [run_cons] at h ⊢
    rcases List.mem_append.mp h with h | h
    · have hgot := mem_got_of_step h
      rw [sound.obtained] at hgot
      rw [handed_append]
      exact List.mem_append_left _ hgot
    · rw [← List.append_assoc]
      exact ih (sound.step move) h

namespace Sound

variable {s : Session α} {seen : List (Event α)}

/-- What comes back has been put back before. -/
theorem exists_of_returned (h : Sound s seen) {time : Nat} {x : Queued α}
    (hmem : (time, x) ∈ returns seen) : ∃ y, x = again y := by
  have hpromised := h.promises.mem_iff.mpr (List.mem_append_left _ hmem)
  obtain ⟨e, -, he⟩ := List.mem_filterMap.mp hpromised
  cases e with
  | putBack t y => exact ⟨y, congrArg Prod.snd (Option.some.inj he).symm⟩
  | _ => cases he

/-- **The attempts of every item** are counted in 32 bits. -/
theorem attempts_le (h : Sound s seen) {x : Queued α} (hmem : x ∈ handed seen) :
    x.attempts ≤ maxAttempts := by
  have haccepted : x ∈ accepted seen := by
    rw [h.order]
    exact List.mem_append_left _ hmem
  obtain ⟨e, he, hx⟩ := List.mem_filterMap.mp haccepted
  -- an item is new, or it has come back and has been counted then
  cases e with
  | added time a taken =>
    cases taken with
    | true =>
      obtain rfl := Option.some.inj hx
      exact Nat.zero_le _
    | false => cases hx
  | returned time y taken =>
    have hreturned : (time, y) ∈ returns seen := List.mem_filterMap.mpr ⟨_, he, rfl⟩
    obtain ⟨z, rfl⟩ := h.exists_of_returned hreturned
    cases taken with
    | true =>
      obtain rfl := Option.some.inj hx
      exact Nat.min_le_right _ _
    | false => cases hx
  | _ => cases hx

/-- What is put back while the queue is open comes back after its delay. -/
theorem mem_returns (h : Sound s seen) (isOpen : s.queue.isShutDown = false) {time : Nat}
    {x : Queued α} (hput : Event.putBack time x ∈ seen)
    (arrived : time + backoff x.attempts ≤ s.clock) :
    (time + backoff x.attempts, again x) ∈ returns seen := by
  have hall : seen.takeWhile (fun e => !e.isShutDown) = seen := by
    have hany := h.shut.symm.trans isOpen
    refine List.takeWhile_eq_self_iff.mpr fun e he => ?_
    simpa using List.any_eq_false.mp hany e he
  refine h.returns_perm.mem_iff.mpr (List.mem_filter.mpr ⟨?_, decide_eq_true arrived⟩)
  unfold promised
  rw [hall]
  exact List.mem_filterMap.mpr ⟨_, hput, rfl⟩

end Sound

/-- An item is put back so many times at some times, every time as it has come back the time
    before. -/
structure Chain (seen : List (Event α)) (rounds : Nat) (times : Nat → Nat)
    (copies : Nat → Queued α) : Prop where
  seen : ∀ i < rounds, Event.putBack (times i) (copies i) ∈ seen
  linked : ∀ i, i + 1 < rounds → copies (i + 1) = again (copies i)

namespace Chain

variable {seen : List (Event α)} {rounds : Nat} {times : Nat → Nat} {copies : Nat → Queued α}

/-- Every copy of the item comes from the first one. -/
theorem copies_eq (h : Chain seen rounds times copies) :
    ∀ {i : Nat}, i < rounds → copies i = again^[i] (copies 0)
  | 0, _ => rfl
  | i + 1, hi => by
    rw [h.linked i hi, h.copies_eq (Nat.lt_of_succ_lt hi), Function.iterate_succ_apply']

/-- **Every wait of an item** is twice as long as the one before, up to the limit. -/
theorem backoff_copies (h : Chain seen rounds times copies)
    (first : (copies 0).attempts ≤ maxAttempts) {i : Nat} (hi : i < rounds) :
    backoff (copies i).attempts = doubledDelay ((copies 0).attempts + i) := by
  rw [h.copies_eq hi, backoff_iterate _ first]

end Chain

/-! ## Rounds -/

section Rounds

variable (a : α) (work : Nat → Nat)

/-- A new item is added and put back so many times: in each round it is waited for, worked on for
    some time, and put back. -/
def retries (rounds : Nat) : List (Move α) :=
  .add a :: (List.range rounds).flatMap fun i => [.wait maxDelay, .pass (work i), .requeue i]

/-- The item when it has been put back so many times. -/
def copy (i : Nat) : Queued α := ⟨a, min i maxAttempts⟩

/-- When the item is obtained in a round: at once, or when its delay of the round before is over. -/
def obtained : Nat → Nat
  | 0 => 0
  | i + 1 => obtained i + work i + doubledDelay i

/-- What is seen of the item before it is obtained: from the second round on it has come back. -/
def comingBack : Nat → List (Event α)
  | 0 => []
  | i + 1 => [.returned (obtained work (i + 1)) (copy a (i + 1)) true]

/-- What is seen of a round. -/
def seenOf (i : Nat) : List (Event α) :=
  comingBack a work i ++ [.answered (obtained work i) (.item (copy a i)),
    .putBack (obtained work i + work i) (copy a i)]

/-- The queue after some rounds: the item is on its way back, unless it has not been handed out
    yet. -/
def retried : Nat → Session α
  | 0 => { queue := { items := [copy a 0] } }
  | i + 1 =>
    { queue := { delayed := [(obtained work (i + 1), copy a (i + 1))] }
      clock := obtained work i + work i
      got := (List.range (i + 1)).map (copy a) }

/-- In each round a copy of the item has been obtained. -/
theorem got_retried (i : Nat) : (retried a work i).got = (List.range i).map (copy a) := by
  cases i <;> rfl

/-- Putting a copy back makes the next one. -/
theorem again_copy (i : Nat) : again (copy a i) = copy a (i + 1) := by
  refine congrArg (Queued.mk a) ?_
  show min (min i maxAttempts + 1) maxAttempts = _
  omega

/-- To wait for the only item of a queue is to wait until it comes back. -/
theorem wait_of_delayed {back now deadline : Nat} (x : Queued α) (h : back ≤ deadline) :
    ({ delayed := [(back, x)] } : WorkQueue α).wait now deadline = (.item x, max now back, {}) := by
  have hadvance : ({ delayed := [(back, x)] } : WorkQueue α).advance back = { items := [x] } := by
    rw [advance_eq]
    simp [due, later]
  show (if back ≤ deadline then _ else _) = _
  rw [if_pos h, hadvance]

/-- **The item comes back in time** to be obtained in the next round. -/
theorem wait_retried (i : Nat) :
    (retried a work i).wait maxDelay
      = ({ clock := obtained work i, got := (retried a work i).got ++ [copy a i] },
        comingBack a work i ++ [.answered (obtained work i) (.item (copy a i))]) := by
  cases i with
  | zero => rfl
  | succ i =>
    have hback : obtained work (i + 1) = obtained work i + work i + doubledDelay i := rfl
    have hdue : obtained work (i + 1) ≤ obtained work i + work i + maxDelay := by
      rw [hback]
      exact Nat.add_le_add_left (Nat.min_le_right ..) _
    have hlater : max (obtained work i + work i) (obtained work (i + 1))
        = obtained work (i + 1) := by
      rw [hback]
      exact Nat.max_eq_right (Nat.le_add_right ..)
    have hreturning : returning (retried a work (i + 1)).queue (obtained work (i + 1))
        = comingBack a work (i + 1) := by
      simp [returning, retried, due, comingBack, accepts]
    have hwait : (retried a work (i + 1)).queue.wait (obtained work i + work i) _ = _ :=
      wait_of_delayed (copy a (i + 1)) hdue
    have hclock : (retried a work (i + 1)).clock = obtained work i + work i := rfl
    unfold Session.wait
    rw [hclock, hwait, hlater]
    dsimp only
    rw [hreturning]
    rfl

/-- What is obtained in a round is put back at its end. -/
theorem requeue_obtained (i : Nat) :
    Session.requeue { clock := obtained work i + work i
                      got := (retried a work i).got ++ [copy a i] } i
      = (retried a work (i + 1), [.putBack (obtained work i + work i) (copy a i)]) := by
  have hall : (retried a work i).got ++ [copy a i] = (List.range (i + 1)).map (copy a) := by
    rw [got_retried, List.range_succ, List.map_append]
    rfl
  have hgot : ((List.range (i + 1)).map (copy a))[i]? = some (copy a i) := by simp
  have hdelay : backoff (copy a i).attempts = doubledDelay i := backoff_min i
  have hqueue : ({} : WorkQueue α).requeue (obtained work i + work i) (copy a i)
      = { delayed := [(obtained work (i + 1), copy a (i + 1))] } := by
    show ({ delayed := [(_ + backoff _, again (copy a i))] } : WorkQueue α) = _
    rw [hdelay, again_copy]
    rfl
  unfold Session.requeue
  rw [hall, hgot]
  dsimp only
  rw [hqueue]
  rfl

/-- **One round more**: the item is obtained and put back. -/
theorem run_round (i : Nat) :
    (retried a work i).run [.wait maxDelay, .pass (work i), .requeue i]
      = (retried a work (i + 1), seenOf a work i) := by
  have hwait : (retried a work i).step (.wait maxDelay) = _ := wait_retried a work i
  -- nothing comes back while the item is worked on
  have hpass : (Session.step { clock := obtained work i
                               got := (retried a work i).got ++ [copy a i] } (.pass (work i)))
      = ({ clock := obtained work i + work i, got := (retried a work i).got ++ [copy a i] }, []) :=
    rfl
  have hput : Session.step _ (.requeue i) = _ := requeue_obtained a work i
  rw [run_cons, hwait, run_cons, hpass, run_cons, hput]
  unfold seenOf
  rw [List.append_assoc]
  rfl

/-- **So many rounds** with one item. -/
theorem run_retries (rounds : Nat) :
    run {} (retries a work rounds)
      = (retried a work rounds,
        .added 0 a true :: (List.range rounds).flatMap (seenOf a work)) := by
  induction rounds with
  | zero => rfl
  | succ i ih =>
    have hmoves : retries a work (i + 1)
        = retries a work i ++ [.wait maxDelay, .pass (work i), .requeue i] := by
      simp [retries, List.range_succ]
    rw [hmoves, run_append, ih, run_round]
    simp [List.range_succ]

/-- The rounds put one item back again and again. -/
theorem chain_retries (rounds : Nat) :
    Chain (run {} (retries a work rounds)).2 rounds (fun i => obtained work i + work i)
      (copy a) where
  seen := by
    intro i hi
    rw [run_retries]
    refine List.mem_cons_of_mem _ (List.mem_flatMap.mpr ⟨i, List.mem_range.mpr hi, ?_⟩)
    exact List.mem_append_right _ (List.mem_cons_of_mem _ (List.mem_singleton_self _))
  linked := fun i _ => (again_copy a i).symm

end Rounds

/-! ## Waits -/

/-- **The waits of an item that is put back again and again** double up to a limit.

    - A delay is five milliseconds doubled for each attempt, but a thousand seconds at most; words
      of 32 and 64 bits are wide enough for it.  So it does not shrink, is twice the one before for
      as long as that is within the limit, and stays at the limit after that.
    - Whatever is done with a queue, of an item that is put back again and again each wait is the
      delay for the attempts so far, however many there are, and no wait is shorter than an earlier
      one.  For as long as the queue is open, the item comes back when its wait is over.
    - If nothing else is done with the queue, this goes on for any number of rounds, whatever time
      the work takes. -/
theorem waits_double_to_limit :
    ((∀ n, backoff n = doubledDelay n) ∧ ∀ n : UInt32, (delayWord n).toNat = backoff n.toNat) ∧
    ((∀ m n, m ≤ n → backoff m ≤ backoff n) ∧
      (∀ n, 2 * backoff n ≤ maxDelay → backoff (n + 1) = 2 * backoff n) ∧
      ∀ n, maxDelay ≤ 2 * backoff n → ∀ m, n < m → backoff m = maxDelay) ∧
    (∀ (moves : List (Move α)) rounds times copies,
      let s := (({} : Session α).run moves).1
      let seen := (({} : Session α).run moves).2
      Chain seen rounds times copies → ∀ i < rounds,
        backoff (copies i).attempts = doubledDelay ((copies 0).attempts + i) ∧
        (∀ j ≤ i, backoff (copies j).attempts ≤ backoff (copies i).attempts) ∧
        (s.queue.isShutDown = false → times i + backoff (copies i).attempts ≤ s.clock →
          (times i + backoff (copies i).attempts, again (copies i)) ∈ returns seen)) ∧
    ∀ (a : α) work rounds,
      let seen := (({} : Session α).run (retries a work rounds)).2
      seen = .added 0 a true :: (List.range rounds).flatMap (seenOf a work) ∧
        Chain seen rounds (fun i => obtained work i + work i) (copy a) := by
  refine ⟨⟨backoff_eq, toNat_delayWord⟩, ⟨fun _ _ => backoff_mono, ?_, ?_⟩, ?_, ?_⟩
  · intro n h
    exact (backoff_succ n).trans (Nat.min_eq_left h)
  · exact fun n h m => backoff_of_limit h
  · intro moves rounds times copies s seen chain i hi
    have sound : Sound s seen := Sound.start.run moves
    have hfirst : (copies 0).attempts ≤ maxAttempts :=
      sound.attempts_le (mem_handed_of_putBack moves Sound.start (chain.seen 0 (by omega)))
    refine ⟨chain.backoff_copies hfirst hi, ?_, ?_⟩
    · intro j hj
      rw [chain.backoff_copies hfirst hi, chain.backoff_copies hfirst (Nat.lt_of_le_of_lt hj hi),
        ← backoff_eq, ← backoff_eq]
      exact backoff_mono (Nat.add_le_add_left hj _)
    · exact fun isOpen arrived => sound.mem_returns isOpen (chain.seen i hi) arrived
  · intro a work rounds
    exact ⟨congrArg Prod.snd (run_retries a work rounds), chain_retries a work rounds⟩

end Session

end Healing.WorkQueue
