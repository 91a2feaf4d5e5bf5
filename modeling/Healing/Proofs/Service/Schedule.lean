/-
  Schedules of the service.

  Several requests with alerts may be handled at the same time, each of them alert by alert, while
  the worker takes alerts from the same queue and the service may be shut down.  A schedule is a list
  of moves: every order in which all this can go on is one.

  1. **Calls** - `Call`, a request on its way through the handler; `Call.offer` is its next step.
  2. **Moves** - `Intake`, the service with its calls and its worker; `Intake.step` makes a move and
     tells what is seen of it.
  3. **Schedules** - `Intake.run`.
  4. **The service alone** - a call that nothing interrupts is `Service.deliver`
     (`Intake.run_deliver`), and two steps of the worker are `Service.takeAlert`
     (`Intake.run_takeAlert`).
-/
import Healing.Service

namespace Healing

/-- The alerts that have not been offered yet after so many steps. -/
theorem Delivery.steps_pending :
    ∀ (n : Nat) (d : Delivery) (q : WorkQueue Alert),
      (Delivery.steps n d q).1.pending = d.pending.drop n
  | 0, _, _ => rfl
  | n + 1, d, q => by
    have htail : (d.step q).1.pending = d.pending.drop 1 := by
      unfold Delivery.step
      cases hpending : d.pending with
      | nil => exact hpending
      | cons a r =>
        dsimp only
        split <;> rfl
    have hsteps : Delivery.steps (n + 1) d q = Delivery.steps n (d.step q).1 (d.step q).2 := rfl
    rw [hsteps, steps_pending n, htail, List.drop_drop, Nat.add_comm]

/-! ## Calls -/

/-- A call of the handler of alerts. -/
structure Call where
  request : Web.Request
  /-- The delivery under way, or the status that the request is refused with. -/
  progress : Except Nat Delivery

namespace Call

/-- A call that has just come in. -/
def start (r : Web.Request) : Call := ⟨r, Delivery.ofRequest r⟩

/-- The alert that a call is about to offer. -/
def next? (c : Call) : Option Alert :=
  match c.progress with
  | .ok d => d.pending.head?
  | .error _ => none

/-- Offer the next alert to the queue. -/
def offer (c : Call) (q : WorkQueue Alert) : Call × WorkQueue Alert :=
  match c.progress with
  | .ok d =>
    let (d, q) := d.step q
    ({ c with progress := .ok d }, q)
  | .error _ => (c, q)

/-- What a queue takes of the next offer. -/
def taken (c : Call) (q : WorkQueue Alert) : List Alert :=
  if q.accepts then c.next?.toList else []

/-- The response, as soon as there is one. -/
def response? (c : Call) : Option Web.Response :=
  match c.progress with
  | .ok d => if d.pending.isEmpty then some d.response else none
  | .error status => some (.bare status)

/-- What an offer does to the queue. -/
theorem offer_queue (c : Call) (q : WorkQueue Alert) :
    (c.offer q).2 = { q with items := q.items ++ (c.taken q).map ({ item := · }) } := by
  obtain ⟨r, progress⟩ := c
  unfold taken next? offer
  rcases progress with status | ⟨_ | ⟨a, rest⟩, had, dropped⟩
  · simp
  · simp [Delivery.step]
  · obtain ⟨items, delayed, closed⟩ := q
    cases closed with
    | true => simp [Delivery.step, WorkQueue.accepts]
    | false => simp [Delivery.step, WorkQueue.accepts, WorkQueue.add, WorkQueue.push]

end Call

/-! ## Moves -/

/-- What the worker that heals alerts is about. -/
inductive Worker where
  /-- It is about to ask for the next alert. -/
  | waiting
  /-- It is about an alert. -/
  | healing (alert : Alert)
  /-- There are no more alerts to come. -/
  | returned

/-- The alert that a worker is about. -/
def Worker.current? : Worker → Option Alert
  | .healing alert => some alert
  | _ => none

/-- The service with the calls that it has received and its worker. -/
structure Intake where
  service : Service
  calls : List Call := []
  worker : Worker := .waiting

namespace Intake

/-- What may happen next. -/
inductive Move where
  /-- A request comes in. -/
  | receive (request : Web.Request)
  /-- A call offers its next alert to the queue. -/
  | offer (call : Nat)
  /-- The worker does its next step, at some time. -/
  | work (now : Nat)
  | shutDown
  /-- The other worker applies a change of a rule. -/
  | change
  /-- The files have been read again. -/
  | reload (watcher : Watcher) (loaded : Except SettingsError Settings)
  /-- The running jobs are polled. -/
  | poll (source : StatusSource)

/-- What is seen of a move. -/
inductive Event where
  /-- The queue has taken an alert from a call. -/
  | added (call : Nat) (alert : Alert)
  /-- The worker has handed an alert to the engine. -/
  | handed (alert : Alert)
  /-- The engine is done with an alert. -/
  | healed (now : Nat) (alert : Alert)
  | changed (change : RuleChange)
  | polled (source : StatusSource)

/-- What an event does to the engine. -/
def Event.apply (around : Surroundings) (e : Engine) : Event → Engine
  | .healed now alert => (e.process around now alert).2
  | .changed change => { e with rules := e.rules.apply change }
  | .polled source => (e.pollJobs source).2
  | .added .. | .handed _ => e

/-- The service at its start. -/
def start (throttle : Nat) (rules : List Rule) : Intake := { service := .start throttle rules }

/-- Let a call offer its next alert. -/
def offer (s : Intake) (i : Nat) : Intake × List Event :=
  match s.calls[i]? with
  | some c =>
    let (after, alerts) := c.offer s.service.alerts
    ({ s with calls := s.calls.set i after, service := { s.service with alerts } },
      (c.taken s.service.alerts).map (.added i))
  | none => (s, [])

/-- What an offer does to the state, and what is seen of it. -/
theorem offer_of_some {s : Intake} {i : Nat} {c : Call} (h : s.calls[i]? = some c) :
    s.offer i = ({ s with
        calls := s.calls.set i (c.offer s.service.alerts).1
        service := { s.service with alerts := (c.offer s.service.alerts).2 } },
      (c.taken s.service.alerts).map (.added i)) := by
  unfold offer
  rw [h]

/-- Let the worker do its next step. -/
def work (around : Surroundings) (now : Nat) (s : Intake) : Intake × List Event :=
  match s.worker with
  | .waiting =>
    match s.service.alerts.get with
    | (.item x, alerts) =>
      ({ s with service := { s.service with alerts }, worker := .healing x.item },
        [.handed x.item])
    | (.nothing, _) => (s, [])
    | (.closed, _) => ({ s with worker := .returned }, [])
  | .healing alert =>
    let engine := (s.service.engine.process around now alert).2
    ({ s with service := { s.service with engine }, worker := .waiting }, [.healed now alert])
  | .returned => (s, [])

/-- The change that is applied next. -/
def next? (s : Intake) : Option RuleChange := s.service.changes.items.head?.map Queued.item

/-- Make a move. -/
def step (around : Surroundings) (s : Intake) : Move → Intake × List Event
  | .receive request => ({ s with calls := s.calls ++ [.start request] }, [])
  | .offer i => s.offer i
  | .work now => s.work around now
  | .shutDown => ({ s with service := s.service.shutDown }, [])
  | .change => ({ s with service := s.service.takeChange }, (s.next?.map .changed).toList)
  | .reload watcher loaded => ({ s with service := (s.service.reload watcher loaded).2 }, [])
  | .poll source =>
    let engine := (s.service.engine.pollJobs source).2
    ({ s with service := { s.service with engine } }, [.polled source])

/-! ## Schedules -/

/-- Make moves one after the other. -/
def run (around : Surroundings) : Intake → List Move → Intake × List Event
  | s, [] => (s, [])
  | s, move :: r =>
    let (s, seen) := s.step around move
    let (s, more) := run around s r
    (s, seen ++ more)

/-- The state after one move and some more. -/
theorem run_cons (around : Surroundings) (s : Intake) (move : Move) (r : List Move) :
    s.run around (move :: r)
      = (((s.step around move).1.run around r).1,
          (s.step around move).2 ++ ((s.step around move).1.run around r).2) := rfl

/-! ## The service alone -/

section Alone

variable (around : Surroundings) (s : Intake)

/-- Two steps of a worker that waits take the next alert. -/
theorem run_takeAlert (since now : Nat) (waiting : s.worker = .waiting) :
    (s.run around [.work since, .work now]).1.service = s.service.takeAlert around now := by
  obtain ⟨⟨⟨items, delayed, closed⟩, changes, engine⟩, calls, worker⟩ := s
  have hworker : worker = .waiting := waiting
  subst hworker
  cases items with
  | cons x rest => rfl
  | nil => cases closed <;> rfl

/-- A call offers its alerts while nothing else happens. -/
theorem run_offers (around : Surroundings) (r : Web.Request) :
    ∀ (n : Nat) (s : Intake) (i : Nat) (d : Delivery),
      s.calls[i]? = some ⟨r, .ok d⟩ →
      (s.run around (List.replicate n (.offer i))).1.calls[i]?
          = some ⟨r, .ok (Delivery.steps n d s.service.alerts).1⟩ ∧
        (s.run around (List.replicate n (.offer i))).1.service
          = { s.service with alerts := (Delivery.steps n d s.service.alerts).2 }
  | 0, _, _, _, h => ⟨h, rfl⟩
  | n + 1, s, i, d, h => by
    have hstep : s.step around (.offer i) = s.offer i := rfl
    have hoffer : (s.offer i).1 = { s with
        calls := s.calls.set i ⟨r, .ok (d.step s.service.alerts).1⟩
        service := { s.service with alerts := (d.step s.service.alerts).2 } } := by
      rw [offer_of_some h]
      rfl
    have hlength : i < s.calls.length := (List.getElem?_eq_some_iff.mp h).1
    have hcall : (s.offer i).1.calls[i]? = some ⟨r, .ok (d.step s.service.alerts).1⟩ := by
      rw [hoffer]
      exact List.getElem?_set_self hlength
    obtain ⟨ihcall, ihservice⟩ := run_offers around r n (s.offer i).1 i _ hcall
    rw [List.replicate_succ, run_cons, hstep]
    refine ⟨?_, ?_⟩
    · rw [ihcall, hoffer]
      rfl
    · rw [ihservice, hoffer]
      rfl

/-- **A delivery on its own**: a call that nothing interrupts leaves the service as
    `Service.deliver` does, and has the same response. -/
theorem run_deliver (r : Web.Request) {d : Delivery} (granted : Delivery.ofRequest r = .ok d) :
    let after := (s.run around
      (.receive r :: List.replicate d.pending.length (.offer s.calls.length))).1
    after.service = (s.service.deliver r).2 ∧
      after.calls[s.calls.length]?.bind Call.response? = some (s.service.deliver r).1 := by
  intro after
  have hcall : (s.calls ++ [Call.start r])[s.calls.length]? = some ⟨r, .ok d⟩ := by
    rw [List.getElem?_concat_length]
    unfold Call.start
    rw [granted]
  have hdeliver : s.service.deliver r
      = ((d.run s.service.alerts).1.response,
          { s.service with alerts := (d.run s.service.alerts).2 }) := by
    unfold Service.deliver
    rw [granted]
  obtain ⟨hcalls, hservice⟩ := run_offers around r d.pending.length
    { s with calls := s.calls ++ [Call.start r] } s.calls.length d hcall
  have hafter : after.calls[s.calls.length]?
      = some ⟨r, .ok (d.run s.service.alerts).1⟩ := hcalls
  have hdone : (d.run s.service.alerts).1.pending = [] := by
    unfold Delivery.run
    rw [Delivery.steps_pending, List.drop_length]
  rw [hdeliver, hafter]
  refine ⟨hservice, ?_⟩
  show (if (d.run s.service.alerts).1.pending.isEmpty then _ else _) = _
  rw [hdone]
  rfl

end Alone

end Intake

end Healing
