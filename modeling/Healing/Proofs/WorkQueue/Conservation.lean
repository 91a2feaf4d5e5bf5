/-
  What becomes of the items of a queue.

  While a queue is in use items are added, asked for and put back, time passes, and at some moment
  the queue is shut down.  Whatever the order in which all this happens, no item is lost, repeated
  or overtaken.

  1. **Sessions** - `Session`, a queue in use.  `Session.step` makes a move and tells what is seen
     of it, and `Session.run` makes several moves.
  2. **Events** - `accepted`, `handed`, `promised` and `returns`: what the queue has taken, what it
     has handed out, what is to come back and what has come back, read off what has been seen.
  3. **Steps** - `Session.Sound` relates a session to what has been seen so far; each move keeps it
     (`Session.Sound.step`).  Waiting is passing time and asking (`wait_eq_pass_ask`).
  4. **Shutdown** - `answers_of_shutDown`: from then on the queue hands out what it has, and is
     closed after that.
  5. **Conservation** - `Session.conservation` puts all this together for any number of moves;
     `Session.Busy` shows it for a queue that is shut down while an item is on its way.
-/
import Healing.Proofs.WorkQueue.Arrival

namespace Healing.WorkQueue

universe u

variable {α : Type u}

/-- The item of an answer. -/
def Got.item? : Got α → Option (Queued α)
  | .item x => some x
  | .nothing | .closed => none

/-! ## Sessions -/

/-- A queue in use. -/
structure Session (α : Type u) where
  queue : WorkQueue α := {}
  /-- The time that it has become, in nanoseconds. -/
  clock : Nat := 0
  /-- The items that have been obtained, the first one first. -/
  got : List (Queued α) := []

namespace Session

/-- What may be done with a queue. -/
inductive Move (α : Type u) where
  | add (a : α)
  /-- Ask for the next item. -/
  | get
  /-- Wait for the next item, for so many nanoseconds at most. -/
  | wait (patience : Nat)
  /-- Put back an item that has been obtained, be it for the second time. -/
  | requeue (index : Nat)
  /-- Let some nanoseconds pass. -/
  | pass (nanos : Nat)
  | shutDown

/-- Whether an item is asked for. -/
def Move.isAsking : Move α → Bool
  | .get | .wait _ => true
  | _ => false

/-- What is seen of a move, and when. -/
inductive Event (α : Type u) where
  /-- A new item has been offered to the queue, which has taken it or not. -/
  | added (time : Nat) (a : α) (taken : Bool)
  /-- An item has come back, and the queue has taken it or not. -/
  | returned (time : Nat) (x : Queued α) (taken : Bool)
  | answered (time : Nat) (answer : Got α)
  /-- An item has been put back. -/
  | putBack (time : Nat) (x : Queued α)
  | shutDown (time : Nat)

/-- When something was seen. -/
def Event.time : Event α → Nat
  | .added time .. | .returned time .. | .answered time _ | .putBack time _ | .shutDown time => time

/-- Whether the queue was shut down. -/
def Event.isShutDown : Event α → Bool
  | .shutDown _ => true
  | _ => false

/-- What is seen when items come back by some time. -/
def returning (q : WorkQueue α) (now : Nat) : List (Event α) :=
  (q.due now).map fun e => .returned e.1 e.2 q.accepts

/-- Let some time pass. -/
def pass (s : Session α) (nanos : Nat) : Session α × List (Event α) :=
  let now := s.clock + nanos
  ({ s with queue := s.queue.advance now, clock := now }, returning s.queue now)

/-- Ask for the next item. -/
def ask (s : Session α) : Session α × List (Event α) :=
  let (answer, queue) := s.queue.get
  ({ s with queue, got := s.got ++ answer.item?.toList }, [.answered s.clock answer])

/-- Wait for the next item. -/
def wait (s : Session α) (patience : Nat) : Session α × List (Event α) :=
  let (answer, clock, queue) := s.queue.wait s.clock (s.clock + patience)
  ({ queue, clock, got := s.got ++ answer.item?.toList },
    returning s.queue clock ++ [.answered clock answer])

/-- Put back one of the items that have been obtained. -/
def requeue (s : Session α) (index : Nat) : Session α × List (Event α) :=
  match s.got[index]? with
  | some x => ({ s with queue := s.queue.requeue s.clock x }, [.putBack s.clock x])
  | none => (s, [])

/-- Make a move. -/
def step (s : Session α) : Move α → Session α × List (Event α)
  | .add a => ({ s with queue := s.queue.add a }, [.added s.clock a s.queue.accepts])
  | .get => s.ask
  | .wait patience => s.wait patience
  | .requeue index => s.requeue index
  | .pass nanos => s.pass nanos
  | .shutDown => ({ s with queue := s.queue.shutDown }, [.shutDown s.clock])

/-- Make moves one after the other. -/
def run : Session α → List (Move α) → Session α × List (Event α)
  | s, [] => (s, [])
  | s, move :: r =>
    let (s, seen) := s.step move
    let (s, more) := run s r
    (s, seen ++ more)

/-! ## Events -/

/-- What the queue has taken. -/
def accepted (seen : List (Event α)) : List (Queued α) :=
  seen.filterMap fun
    | .added _ a true => some { item := a }
    | .returned _ x true => some x
    | _ => none

/-- What the queue has answered. -/
def answers (seen : List (Event α)) : List (Got α) :=
  seen.filterMap fun
    | .answered _ answer => some answer
    | _ => none

/-- What the queue has handed out. -/
def handed (seen : List (Event α)) : List (Queued α) := (answers seen).filterMap Got.item?

/-- What has come back, and when, whether or not the queue has taken it. -/
def returns (seen : List (Event α)) : List (Nat × Queued α) :=
  seen.filterMap fun
    | .returned time x _ => some (time, x)
    | _ => none

/-- When an item comes back that has been put back while the queue is open, and how. -/
def Event.promise? : Event α → Option (Nat × Queued α)
  | .putBack time x => some (time + backoff x.attempts, again x)
  | _ => none

/-- What is to come back, and when: all that was put back before the queue was shut down. -/
def promised (seen : List (Event α)) : List (Nat × Queued α) :=
  (seen.takeWhile fun e => !e.isShutDown).filterMap Event.promise?

section Events

variable (seen more : List (Event α)) (q : WorkQueue α) (now : Nat)

theorem accepted_append : accepted (seen ++ more) = accepted seen ++ accepted more :=
  List.filterMap_append ..

theorem answers_append : answers (seen ++ more) = answers seen ++ answers more :=
  List.filterMap_append ..

theorem handed_append : handed (seen ++ more) = handed seen ++ handed more := by
  unfold handed
  rw [answers_append, List.filterMap_append]

theorem returns_append : returns (seen ++ more) = returns seen ++ returns more :=
  List.filterMap_append ..

/-- Nothing is promised any more after the queue has been shut down. -/
theorem promised_append :
    promised (seen ++ more)
      = promised seen ++ if seen.any Event.isShutDown then [] else promised more := by
  unfold promised
  induction seen with
  | nil => rfl
  | cons e r ih =>
    cases hshut : e.isShutDown with
    | true => simp [hshut]
    | false =>
      rw [List.cons_append, List.takeWhile_cons_of_pos (by simp [hshut]),
        List.takeWhile_cons_of_pos (by simp [hshut]), List.any_cons, hshut, Bool.false_or]
      cases hpromise : e.promise? with
      | none => rw [List.filterMap_cons_none hpromise, List.filterMap_cons_none hpromise, ih]
      | some p =>
        rw [List.filterMap_cons_some hpromise, List.filterMap_cons_some hpromise, ih]
        rfl

/-- What is promised by a single event. -/
theorem promised_singleton (e : Event α) : promised [e] = e.promise?.toList := by
  cases e <;> rfl

theorem accepted_returning :
    accepted (returning q now) = if q.isShutDown then [] else (q.due now).map Prod.snd := by
  unfold accepted returning accepts
  rw [List.filterMap_map]
  cases q.isShutDown with
  | true => exact List.filterMap_eq_nil_iff.mpr fun _ _ => rfl
  | false => exact List.filterMap_eq_map ▸ rfl

theorem answers_returning : answers (returning q now) = [] := by
  unfold answers returning
  rw [List.filterMap_map]
  exact List.filterMap_eq_nil_iff.mpr fun _ _ => rfl

theorem handed_returning : handed (returning q now) = [] := by
  unfold handed
  rw [answers_returning, List.filterMap_nil]

theorem returns_returning : returns (returning q now) = q.due now := by
  unfold returns returning
  rw [List.filterMap_map]
  exact List.filterMap_some

theorem promised_returning : promised (returning q now) = [] := by
  unfold promised
  rw [List.filterMap_eq_nil_iff]
  intro e he
  obtain ⟨d, -, rfl⟩ := List.mem_map.mp ((List.takeWhile_sublist _).subset he)
  rfl

theorem any_isShutDown_returning : (returning q now).any Event.isShutDown = false := by
  unfold returning
  rw [List.any_map]
  exact List.any_eq_false.mpr fun _ _ => Bool.false_ne_true

end Events

/-- What is seen of an event after what has been seen before: an item is taken iff the queue has not
    been shut down, and the queue is not closed unless it has been. -/
def Event.Faithful (past : List (Event α)) : Event α → Prop
  | .added _ _ taken | .returned _ _ taken => taken = !past.any Event.isShutDown
  | .answered _ .closed => past.any Event.isShutDown = true
  | _ => True

/-- Whether every event is faithful to what was seen before it. -/
def Faithful (seen : List (Event α)) : Prop :=
  ∀ past e later, seen = past ++ e :: later → e.Faithful past

/-- One event more. -/
theorem Faithful.snoc {seen : List (Event α)} {e : Event α} (h : Faithful seen)
    (he : e.Faithful seen) : Faithful (seen ++ [e]) := by
  intro past d later hsplit
  rcases List.eq_nil_or_concat later with rfl | ⟨later, last, rfl⟩
  · obtain ⟨rfl, hd⟩ := List.append_inj' hsplit rfl
    obtain rfl := List.singleton_inj.mp hd
    exact he
  · rw [List.concat_eq_append, ← List.cons_append, ← List.append_assoc] at hsplit
    exact h past d later (List.append_inj' hsplit rfl).1

/-- What comes back does so faithfully, one item after the other. -/
theorem Faithful.returning {seen : List (Event α)} (h : Faithful seen) {q : WorkQueue α}
    (shut : q.isShutDown = seen.any Event.isShutDown) (now : Nat) :
    Faithful (seen ++ returning q now) := by
  unfold Session.returning
  generalize q.due now = l
  induction l generalizing seen with
  | nil => rwa [List.map_nil, List.append_nil]
  | cons e r ih =>
    have htaken : (Event.returned e.1 e.2 q.accepts).Faithful seen := congrArg _ shut
    have hquiet : (seen ++ [Event.returned e.1 e.2 q.accepts]).any Event.isShutDown
        = seen.any Event.isShutDown := by
      rw [List.any_append]
      exact Bool.or_false _
    rw [List.map_cons, List.append_cons]
    exact ih (h.snoc htaken) (shut.trans hquiet.symm)

/-! ## Steps -/

/-- What has been seen so far tells how a session has come about. -/
structure Sound (s : Session α) (seen : List (Event α)) : Prop where
  /-- What has been taken is handed out in order; the rest is in the queue. -/
  order : accepted seen = handed seen ++ s.queue.items
  obtained : s.got = handed seen
  shut : s.queue.isShutDown = seen.any Event.isShutDown
  faithful : Faithful seen
  timely : s.queue.Timely s.clock
  /-- What is to come back has come back or is on its way. -/
  promises : (promised seen).Perm (returns seen ++ s.queue.delayed)
  /-- What is seen is seen in the course of time. -/
  times : (seen.map Event.time).Pairwise (· ≤ ·)
  past : ∀ e ∈ seen, e.time ≤ s.clock

namespace Sound

variable {s : Session α} {seen : List (Event α)}

/-- A queue that has not been used yet. -/
theorem start : Sound ({} : Session α) [] where
  order := rfl
  obtained := rfl
  shut := rfl
  faithful := fun past e later h => by simp at h
  timely := ⟨List.Pairwise.nil, fun e he => by cases he⟩
  promises := List.Perm.refl _
  times := List.Pairwise.nil
  past := fun e he => by cases he

/-- What is seen later is seen behind the rest. -/
theorem times_append (h : Sound s seen) {more : List (Event α)}
    (sorted : (more.map Event.time).Pairwise (· ≤ ·)) (since : ∀ e ∈ more, s.clock ≤ e.time) :
    ((seen ++ more).map Event.time).Pairwise (· ≤ ·) := by
  rw [List.map_append]
  refine List.pairwise_append.mpr ⟨h.times, sorted, ?_⟩
  intro _ hearlier _ hlater
  obtain ⟨d, hd, rfl⟩ := List.mem_map.mp hearlier
  obtain ⟨e, he, rfl⟩ := List.mem_map.mp hlater
  exact Nat.le_trans (h.past d hd) (since e he)

/-- **One event more**, which is seen at once.  What is taken then goes behind the items in the
    queue, and what is handed out comes from the front; what is promised then joins what is on its
    way. -/
theorem snoc (h : Sound s seen) {e : Event α} {queue : WorkQueue α} {got : List (Queued α)}
    (now : e.time = s.clock) (faithful : e.Faithful seen)
    (order : s.queue.items ++ accepted [e] = handed [e] ++ queue.items)
    (obtained : got = s.got ++ handed [e])
    (shut : queue.isShutDown = (s.queue.isShutDown || e.isShutDown))
    (timely : queue.Timely s.clock)
    (promises : ((if s.queue.isShutDown then [] else e.promise?.toList) ++ s.queue.delayed).Perm
      (returns [e] ++ queue.delayed)) :
    Sound { queue, clock := s.clock, got } (seen ++ [e]) where
  order := by
    rw [accepted_append, handed_append, h.order, List.append_assoc, order, List.append_assoc]
  obtained := by
    rw [handed_append, ← h.obtained]
    exact obtained
  shut := by
    rw [List.any_append, ← h.shut, List.any_cons, List.any_nil, Bool.or_false]
    exact shut
  faithful := h.faithful.snoc faithful
  timely := timely
  promises := by
    rw [promised_append, promised_singleton, ← h.shut, returns_append, List.append_assoc]
    refine List.Perm.trans ?_ (promises.append_left (returns seen))
    rw [← List.append_assoc]
    refine (h.promises.append_right _).trans ?_
    rw [List.append_assoc, List.append_assoc]
    exact List.perm_append_comm.append_left _
  times := by
    refine h.times_append (List.pairwise_singleton _ _) fun d hd => ?_
    rw [List.mem_singleton.mp hd]
    exact Nat.le_of_eq now.symm
  past := by
    intro d hd
    rcases List.mem_append.mp hd with hd | hd
    · exact h.past d hd
    · rw [List.mem_singleton.mp hd]
      exact Nat.le_of_eq now

/-- An item is added. -/
theorem add (h : Sound s seen) (a : α) :
    Sound (s.step (.add a)).1 (seen ++ (s.step (.add a)).2) := by
  have hfaithful : (Event.added s.clock a s.queue.accepts).Faithful seen := congrArg _ h.shut
  obtain ⟨⟨items, delayed, closed⟩, clock, got⟩ := s
  cases closed with
  | true =>
    exact h.snoc rfl hfaithful (List.append_nil _) (List.append_nil _).symm rfl
      ⟨h.timely.sorted, h.timely.ahead⟩ (List.Perm.refl _)
  | false =>
    exact h.snoc rfl hfaithful rfl (List.append_nil _).symm rfl
      ⟨h.timely.sorted, h.timely.ahead⟩ (List.Perm.refl _)

/-- The next item is asked for. -/
theorem ask (h : Sound s seen) : Sound s.ask.1 (seen ++ s.ask.2) := by
  have hshut := h.shut
  obtain ⟨⟨items, delayed, closed⟩, clock, got⟩ := s
  have htimely : ∀ rest, Timely (⟨rest, delayed, closed⟩ : WorkQueue α) clock :=
    fun _ => ⟨h.timely.sorted, h.timely.ahead⟩
  cases items with
  | cons x rest =>
    refine h.snoc (e := .answered clock (.item x)) rfl trivial (List.append_nil _) rfl
      (Bool.or_false _).symm (htimely rest) ?_
    cases closed <;> exact List.Perm.refl _
  | nil =>
    cases closed with
    | true =>
      exact h.snoc rfl hshut.symm rfl rfl rfl (htimely []) (List.Perm.refl _)
    | false => exact h.snoc rfl trivial rfl rfl rfl (htimely []) (List.Perm.refl _)

/-- An item is put back. -/
theorem requeue (h : Sound s seen) (index : Nat) :
    Sound (s.requeue index).1 (seen ++ (s.requeue index).2) := by
  unfold Session.requeue
  cases s.got[index]? with
  | none =>
    rw [List.append_nil]
    exact h
  | some x =>
    obtain ⟨hitems, hshut, hdelayed⟩ := s.queue.requeue_spec s.clock x
    refine h.snoc rfl trivial ?_ (List.append_nil _).symm (hshut.trans (Bool.or_false _).symm)
      (h.timely.requeue x) (List.Perm.trans ?_ hdelayed.symm)
    · rw [hitems]
      exact List.append_nil _
    · cases s.queue.isShutDown <;> exact List.Perm.refl _

/-- The queue is shut down. -/
theorem shutDown (h : Sound s seen) :
    Sound (s.step .shutDown).1 (seen ++ (s.step .shutDown).2) := by
  refine h.snoc rfl trivial (List.append_nil _) (List.append_nil _).symm (Bool.or_true _).symm
    ⟨h.timely.sorted, h.timely.ahead⟩ ?_
  cases s.queue.isShutDown <;> exact List.Perm.refl _

/-- Time passes. -/
theorem pass (h : Sound s seen) (nanos : Nat) :
    Sound (s.pass nanos).1 (seen ++ (s.pass nanos).2) := by
  have hadvance := s.queue.advance_eq (s.clock + nanos)
  have hdue : ∀ e ∈ s.queue.due (s.clock + nanos), s.clock ≤ e.1 := fun e he =>
    Nat.le_of_lt (h.timely.ahead e (List.takeWhile_sublist _ |>.subset he))
  have hreturning : ∀ e ∈ returning s.queue (s.clock + nanos),
      s.clock ≤ e.time ∧ e.time ≤ s.clock + nanos := by
    intro e he
    obtain ⟨d, hd, rfl⟩ := List.mem_map.mp he
    exact ⟨hdue d hd, le_of_mem_due hd⟩
  show Sound ⟨s.queue.advance (s.clock + nanos), s.clock + nanos, s.got⟩
    (seen ++ returning s.queue (s.clock + nanos))
  refine
    { order := ?_
      obtained := ?_
      shut := ?_
      faithful := h.faithful.returning h.shut _
      timely := h.timely.advance _
      promises := ?_
      times := h.times_append ?_ fun e he => (hreturning e he).1
      past := ?_ }
  · rw [hadvance, accepted_append, handed_append, accepted_returning, handed_returning,
      h.order, List.append_assoc]
    exact congrArg (· ++ _) (List.append_nil _).symm
  · rw [handed_append, handed_returning]
    exact h.obtained.trans (List.append_nil _).symm
  · rw [hadvance, List.any_append, any_isShutDown_returning, Bool.or_false]
    exact h.shut
  · rw [hadvance, promised_append, promised_returning, ite_self, List.append_nil, returns_append,
      returns_returning, List.append_assoc, due_append_later]
    exact h.promises
  · have hsorted : (s.queue.due (s.clock + nanos)).Pairwise fun d e => d.1 ≤ e.1 :=
      h.timely.sorted.sublist (List.takeWhile_sublist _)
    unfold returning
    rw [List.map_map]
    exact List.pairwise_map.mpr hsorted
  · intro e he
    rcases List.mem_append.mp he with he | he
    · exact Nat.le_trans (h.past e he) (Nat.le_add_right _ _)
    · exact (hreturning e he).2

/-- To wait is to let time pass and to ask then. -/
theorem wait_eq_pass_ask (h : Sound s seen) (patience : Nat) :
    ∃ nanos, s.wait patience
      = ((s.pass nanos).1.ask.1, (s.pass nanos).2 ++ (s.pass nanos).1.ask.2) := by
  obtain ⟨nanos, -, hwait⟩ := wait_eq h.timely patience
  refine ⟨nanos, ?_⟩
  unfold Session.wait
  rw [hwait]
  rfl

/-- **What one move preserves.** -/
theorem step (h : Sound s seen) (move : Move α) :
    Sound (s.step move).1 (seen ++ (s.step move).2) := by
  cases move with
  | add a => exact h.add a
  | get => exact h.ask
  | wait patience =>
    obtain ⟨nanos, hwait⟩ := h.wait_eq_pass_ask patience
    show Sound (s.wait patience).1 (seen ++ (s.wait patience).2)
    rw [hwait, ← List.append_assoc]
    exact (h.pass nanos).ask
  | requeue index => exact h.requeue index
  | pass nanos => exact h.pass nanos
  | shutDown => exact h.shutDown

/-- What a session preserves. -/
theorem run (h : Sound s seen) (moves : List (Move α)) :
    Sound (s.run moves).1 (seen ++ (s.run moves).2) := by
  induction moves generalizing s seen with
  | nil =>
    show Sound s (seen ++ [])
    rw [List.append_nil]
    exact h
  | cons move r ih =>
    show Sound ((s.step move).1.run r).1 (seen ++ ((s.step move).2 ++ ((s.step move).1.run r).2))
    rw [← List.append_assoc]
    exact ih (h.step move)

/-- **What has come back by now** is what was to come back by now. -/
theorem returns_perm (h : Sound s seen) :
    (returns seen).Perm ((promised seen).filter fun e => e.1 ≤ s.clock) := by
  have hreturns : (returns seen).filter (fun e => decide (e.1 ≤ s.clock)) = returns seen := by
    rw [List.filter_eq_self]
    intro e he
    obtain ⟨d, hd, hde⟩ := List.mem_filterMap.mp he
    have hpast := h.past d hd
    cases d with
    | returned time x taken =>
      obtain rfl := Option.some.inj hde
      exact decide_eq_true hpast
    | _ => cases hde
  have hdelayed : s.queue.delayed.filter (fun e => decide (e.1 ≤ s.clock)) = [] := by
    rw [List.filter_eq_nil_iff]
    intro e he
    have := h.timely.ahead e he
    simpa using this
  have hfilter := (h.promises.filter fun e => decide (e.1 ≤ s.clock)).symm
  rwa [List.filter_append, hreturns, hdelayed, List.append_nil] at hfilter

end Sound

/-! ## Shutdown -/

/-- How often an item is asked for. -/
def asked (moves : List (Move α)) : Nat := moves.countP Move.isAsking

/-- A queue that is shut down stays so, and takes nothing.  If it is asked, it hands out the first
    of the items that it has, or else it is closed. -/
theorem step_of_shutDown {s : Session α} (shut : s.queue.isShutDown = true) (move : Move α) :
    (s.step move).1.queue.isShutDown = true ∧
      (s.step move).1.queue.items
        = (if move.isAsking then s.queue.items.tail else s.queue.items) ∧
      answers (s.step move).2
        = if move.isAsking then [(s.queue.items.head?.map Got.item).getD .closed] else [] := by
  obtain ⟨⟨items, delayed, closed⟩, clock, got⟩ := s
  obtain rfl : closed = true := shut
  cases move with
  | add a => exact ⟨rfl, rfl, rfl⟩
  | get => cases items <;> exact ⟨rfl, rfl, rfl⟩
  | wait patience =>
    have hquiet (now : Nat) (answer : Got α) : answers (returning ⟨items, delayed, true⟩ now
        ++ [.answered now answer]) = [answer] := by
      rw [answers_append, answers_returning]
      rfl
    cases items <;> exact ⟨rfl, rfl, hquiet _ _⟩
  | requeue index =>
    show (requeue _ index).1.queue.isShutDown = true ∧ (requeue _ index).1.queue.items = items ∧
      answers (requeue _ index).2 = []
    unfold requeue
    cases got[index]? <;> exact ⟨rfl, rfl, rfl⟩
  | pass nanos =>
    have hadvance := advance_eq ⟨items, delayed, true⟩ (clock + nanos)
    refine ⟨congrArg isShutDown hadvance, ?_, answers_returning _ _⟩
    exact (congrArg WorkQueue.items hadvance).trans (List.append_nil _)
  | shutDown => exact ⟨rfl, rfl, rfl⟩

/-- **After the shutdown** the queue hands out the items that it has, and is closed after that,
    whatever else is done. -/
theorem answers_of_shutDown :
    ∀ (moves : List (Move α)) (s : Session α), s.queue.isShutDown = true →
      answers (s.run moves).2 = (s.queue.items.map Got.item).take (asked moves)
        ++ List.replicate (asked moves - s.queue.items.length) .closed
  | [], s, _ => by simp [run, answers, asked]
  | move :: r, s, shut => by
    obtain ⟨hshut, hitems, hanswers⟩ := step_of_shutDown shut move
    have htail := answers_of_shutDown r (s.step move).1 hshut
    show answers ((s.step move).2 ++ ((s.step move).1.run r).2) = _
    rw [answers_append, htail, hitems, hanswers]
    unfold asked
    rw [List.countP_cons]
    cases move.isAsking with
    | false => rfl
    | true =>
      cases s.queue.items with
      | nil => simp [List.replicate_succ]
      | cons x rest => simp

/-! ## Conservation -/

/-- **No item of a queue is lost, repeated or overtaken**, whatever is done with the queue.

    - What the queue has taken is what it has handed out, followed by what it still has, in order;
      what has been handed out can be put back.
    - An item is taken iff the queue has not been shut down before, be it new or one that comes
      back, and the queue is not closed unless it has been shut down before.
    - What is put back while the queue is open comes back once, after its delay, with one attempt
      more.  Nothing else comes back.
    - From the shutdown on the queue hands out what it has, and is closed after that. -/
theorem conservation (moves : List (Move α)) :
    let s := (({} : Session α).run moves).1
    let seen := (({} : Session α).run moves).2
    (accepted seen = handed seen ++ s.queue.items ∧ s.got = handed seen) ∧
      (Faithful seen ∧ s.queue.isShutDown = seen.any Event.isShutDown) ∧
      (returns seen).Perm ((promised seen).filter fun e => e.1 ≤ s.clock) ∧
      ((seen.map Event.time).Pairwise (· ≤ ·) ∧ ∀ e ∈ seen, e.time ≤ s.clock) ∧
      (s.queue.isShutDown = true → ∀ more : List (Move α),
        answers (s.run more).2 = (s.queue.items.map Got.item).take (asked more)
          ++ List.replicate (asked more - s.queue.items.length) .closed) := by
  intro s seen
  have h : Sound s seen := Sound.start.run moves
  exact ⟨⟨h.order, h.obtained⟩, ⟨h.faithful, h.shut⟩, h.returns_perm, ⟨h.times, h.past⟩,
    fun hshut more => answers_of_shutDown more s hshut⟩

namespace Busy

/-- Two items are added and taken.  The first one is put back twice, comes back twice, and is taken
    and put back once more.  Then the queue is shut down; nothing is taken any more. -/
def moves : List (Move String) :=
  [.add "a", .add "b", .get, .requeue 0, .wait 1_000, .requeue 0, .pass 5_000_000, .get,
    .requeue 2, .shutDown, .add "c", .pass 10_000_000, .requeue 2]

/-- The queue in the end, and what has been seen. -/
def outcome : Session String × List (Event String) := run {} moves

/-- What the queue has taken is handed out in order, also after the shutdown. -/
theorem conservation_of_busy :
    accepted outcome.2 = [⟨"a", 0⟩, ⟨"b", 0⟩, ⟨"a", 1⟩, ⟨"a", 1⟩] ∧
      outcome.1.got = [⟨"a", 0⟩, ⟨"b", 0⟩, ⟨"a", 1⟩] ∧
      returns outcome.2 = [(5_000_000, ⟨"a", 1⟩), (5_000_000, ⟨"a", 1⟩), (15_000_000, ⟨"a", 2⟩)] ∧
      answers (outcome.1.run [.get, .requeue 0, .pass 5_000_000, .get, .wait 1_000]).2
        = [.item ⟨"a", 1⟩, .closed, .closed] := by
  obtain ⟨⟨horder, hgot⟩, -, -, -, hanswers⟩ := conservation moves
  have hitems : outcome.1.queue.items = [⟨"a", 1⟩] := rfl
  have hhanded : handed outcome.2 = [⟨"a", 0⟩, ⟨"b", 0⟩, ⟨"a", 1⟩] := rfl
  refine ⟨?_, hgot.trans hhanded, rfl, (hanswers rfl _).trans ?_⟩
  · refine horder.trans ?_
    show handed outcome.2 ++ outcome.1.queue.items = _
    rw [hhanded, hitems]
    rfl
  · show (outcome.1.queue.items.map Got.item).take _ ++ List.replicate (_ - _) _ = _
    rw [hitems]
    rfl

end Busy

end Session

end Healing.WorkQueue
