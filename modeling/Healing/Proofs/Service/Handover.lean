/-
  From the requests to the engine.

  Whatever the schedule, what the worker hands to the engine is what the queue has taken, in the same
  order, and the response to a request tells how many of its alerts that are.  The queue may be shut
  down at any moment: what it has taken before is still handed over, and what is offered after it is
  reported as not taken.

  1. **Events** - the additions, what is handed over and what is done with, read off what is seen.
  2. **Calls** - `Call.Honest`: a call knows what the queue has taken from it, and its response
     (`Call.Honest.response`) tells it.
  3. **Steps** - `Intake.Sound` relates a state to what has been seen so far; `Intake.Sound.step`.
  4. **Schedules** - `Intake.Sound.run`; `Intake.taken_handed` says what this means for requests
     and for the worker, and `Intake.returns` that the worker does come to its end.
-/
import Healing.Proofs.Document
import Healing.Proofs.Service.Schedule
import Mathlib.Data.List.Basic

namespace Healing

/-! ## Events -/

namespace Intake

/-- The additions to the queue, each with the call that has made it. -/
def additions (seen : List Event) : List (Nat × Alert) :=
  seen.filterMap fun
    | .added call alert => some (call, alert)
    | _ => none

/-- The alerts that the queue has taken. -/
def added (seen : List Event) : List Alert := (additions seen).map Prod.snd

/-- The alerts that the queue has taken from one of the calls. -/
def addedBy (call : Nat) (seen : List Event) : List Alert :=
  ((additions seen).filter fun addition => addition.1 = call).map Prod.snd

/-- The alerts that the worker has handed to the engine. -/
def handed (seen : List Event) : List Alert :=
  seen.filterMap fun
    | .handed alert => some alert
    | _ => none

/-- The alerts that the engine is done with. -/
def healed (seen : List Event) : List Alert :=
  seen.filterMap fun
    | .healed _ alert => some alert
    | _ => none

section Events

variable (i : Nat) (seen more : List Event) (alerts : List Alert)

@[simp]
theorem additions_append : additions (seen ++ more) = additions seen ++ additions more :=
  List.filterMap_append ..

@[simp]
theorem added_append : added (seen ++ more) = added seen ++ added more := by
  unfold added
  rw [additions_append, List.map_append]

@[simp]
theorem addedBy_append : addedBy i (seen ++ more) = addedBy i seen ++ addedBy i more := by
  unfold addedBy
  rw [additions_append, List.filter_append, List.map_append]

@[simp]
theorem handed_append : handed (seen ++ more) = handed seen ++ handed more :=
  List.filterMap_append ..

@[simp]
theorem healed_append : healed (seen ++ more) = healed seen ++ healed more :=
  List.filterMap_append ..

/-- Nothing has been added lately. -/
theorem added_append_of_quiet (quiet : additions more = []) : added (seen ++ more) = added seen := by
  unfold added
  rw [additions_append, quiet, List.append_nil]

theorem addedBy_append_of_quiet (quiet : additions more = []) :
    addedBy i (seen ++ more) = addedBy i seen := by
  unfold addedBy
  rw [additions_append, quiet, List.append_nil]

/-- The additions that one call makes. -/
theorem additions_map : additions (alerts.map (.added i)) = alerts.map (i, ·) := by
  unfold additions
  rw [List.filterMap_map, ← List.filterMap_eq_map]
  rfl

theorem added_map : added (alerts.map (.added i)) = alerts := by
  unfold added
  rw [additions_map, List.map_map]
  exact List.map_id _

theorem addedBy_map (j : Nat) :
    addedBy j (alerts.map (.added i)) = if i = j then alerts else [] := by
  unfold addedBy
  rw [additions_map, List.filter_map]
  split
  · simp [*, Function.comp_def]
  · simp [*, Function.comp_def]

theorem handed_map : handed (alerts.map (.added i)) = [] := by
  unfold handed
  rw [List.filterMap_map]
  exact List.filterMap_eq_nil_iff.mpr fun _ _ => rfl

theorem healed_map : healed (alerts.map (.added i)) = [] := by
  unfold healed
  rw [List.filterMap_map]
  exact List.filterMap_eq_nil_iff.mpr fun _ _ => rfl

end Events

end Intake

/-! ## Calls -/

/-- A body that is taken is a notification, and all its alerts are to be offered. -/
theorem Delivery.ofRequest_eq_ok_iff {r : Web.Request} {d : Delivery} :
    Delivery.ofRequest r = .ok d ↔
      Delivery.declaresJson r = true ∧ r.body.utf8ByteSize ≤ Delivery.maxBodySize ∧
        ∃ n, Json.decode Notification.read r.body = .ok n ∧ d = { pending := n.alerts } := by
  unfold Delivery.ofRequest
  cases Delivery.declaresJson r with
  | false => simp
  | true =>
    rcases Nat.lt_or_ge Delivery.maxBodySize r.body.utf8ByteSize with hlong | hshort
    · simp [hlong, Nat.not_le.mpr hlong]
    · have hfits : ¬ r.body.utf8ByteSize > Delivery.maxBodySize := Nat.not_lt.mpr hshort
      cases Json.decode Notification.read r.body with
      | error e => simp [hfits]
      | ok n => simp [hfits, hshort, eq_comm]

namespace Call

/-- A call is honest about a queue if it knows what the queue has taken from it: the alerts at the
    front of its notification, followed by those that the queue has not taken because it is shut
    down. -/
inductive Honest (q : WorkQueue Alert) : Call → List Alert → Prop
  | refused {r : Web.Request} {status : Nat} (refusal : Delivery.ofRequest r = .error status) :
    Honest q ⟨r, .error status⟩ []
  | granted {r : Web.Request} {d₀ d : Delivery} (missed : List Alert)
    (grant : Delivery.ofRequest r = .ok d₀)
    (payload : d₀.pending = d.taken ++ missed ++ d.pending)
    (dropped : d.dropped = missed.length)
    (closed : missed ≠ [] → q.isShutDown = true) :
    Honest q ⟨r, .ok d⟩ d.taken

namespace Honest

variable {q : WorkQueue Alert} {c : Call} {taken : List Alert}

/-- A call that has just come in. -/
theorem start (q : WorkQueue Alert) (r : Web.Request) : Honest q (.start r) [] := by
  unfold Call.start
  cases h : Delivery.ofRequest r with
  | error status => exact .refused h
  | ok d =>
    obtain ⟨-, -, n, -, rfl⟩ := Delivery.ofRequest_eq_ok_iff.mp h
    exact .granted [] h rfl rfl fun hne => absurd rfl hne

/-- What is shut down stays so, and a call depends on nothing else. -/
theorem mono {q' : WorkQueue Alert} (h : Honest q c taken)
    (closed : q.isShutDown = true → q'.isShutDown = true) : Honest q' c taken := by
  cases h with
  | refused refusal => exact .refused refusal
  | granted missed grant payload dropped hclosed =>
    exact .granted missed grant payload dropped fun hne => closed (hclosed hne)

/-- The next offer. -/
theorem offer (h : Honest q c taken) :
    Honest (c.offer q).2 (c.offer q).1 (taken ++ c.taken q) := by
  cases h with
  | @refused r status refusal =>
    have hnone : Call.taken ⟨r, .error status⟩ q = [] := by
      unfold Call.taken next?
      split <;> rfl
    rw [hnone]
    exact .refused refusal
  | @granted r d₀ d missed grant payload dropped closed =>
    obtain ⟨pending, had, count⟩ := d
    cases pending with
    | nil =>
      have hnone : Call.taken ⟨r, .ok ⟨[], had, count⟩⟩ q = [] := by
        unfold Call.taken next?
        split <;> rfl
      rw [hnone, List.append_nil]
      exact .granted missed grant payload dropped closed
    | cons a rest =>
      cases hopen : q.isShutDown with
      | false =>
        -- an open queue has taken all that was offered so far
        have hmissed : missed = [] := by
          cases missed with
          | nil => rfl
          | cons b more =>
            rw [closed (List.cons_ne_nil b more)] at hopen
            cases hopen
        subst hmissed
        have hoffer : offer ⟨r, .ok ⟨a :: rest, had, count⟩⟩ q
            = (⟨r, .ok ⟨rest, had ++ [a], count⟩⟩, q.add a) := by
          simp [Call.offer, Delivery.step, WorkQueue.accepts, hopen]
        have htaken : Call.taken ⟨r, .ok ⟨a :: rest, had, count⟩⟩ q = [a] := by
          simp [Call.taken, next?, WorkQueue.accepts, hopen]
        rw [hoffer, htaken]
        refine .granted [] grant ?_ dropped fun hne => absurd rfl hne
        rw [payload]
        simp
      | true =>
        have hoffer : offer ⟨r, .ok ⟨a :: rest, had, count⟩⟩ q
            = (⟨r, .ok ⟨rest, had, count + 1⟩⟩, q) := by
          simp [Call.offer, Delivery.step, WorkQueue.accepts, hopen]
        have htaken : Call.taken ⟨r, .ok ⟨a :: rest, had, count⟩⟩ q = [] := by
          simp [Call.taken, WorkQueue.accepts, hopen]
        rw [hoffer, htaken, List.append_nil]
        refine .granted (missed ++ [a]) grant ?_ ?_ fun _ => hopen
        · rw [payload]
          simp
        · rw [List.length_append]
          exact congrArg (· + 1) dropped

/-- A request that is refused has had this response from the beginning. -/
theorem response_of_error {status : Nat} (h : Honest q c taken)
    (refusal : Delivery.ofRequest c.request = .error status) :
    c.response? = some (.bare status) ∧ taken = [] := by
  cases h with
  | refused hrefusal =>
    rw [refusal] at hrefusal
    obtain rfl := Except.error.inj hrefusal
    exact ⟨rfl, rfl⟩
  | granted _ grant =>
    rw [refusal] at grant
    cases grant

/-- **The response** to a notification tells whether all its alerts have been taken, and how many
    have been otherwise. -/
theorem response_of_ok {d₀ : Delivery} (h : Honest q c taken)
    (grant : Delivery.ofRequest c.request = .ok d₀) :
    taken <+: d₀.pending ∧ ∀ response, c.response? = some response →
      (taken = d₀.pending ∧
          response = .json 200 (Delivery.summary "ok" d₀.pending.length)) ∨
        (taken ≠ d₀.pending ∧
          response = .json 503 (Delivery.summary "unavailable" taken.length)) := by
  cases h with
  | refused refusal =>
    rw [refusal] at grant
    cases grant
  | @granted r d₁ d missed hgrant payload dropped closed =>
    rw [hgrant] at grant
    obtain rfl := Except.ok.inj grant
    refine ⟨⟨missed ++ d.pending, by rw [payload, List.append_assoc]⟩, ?_⟩
    intro response hresponse
    unfold response? at hresponse
    dsimp only at hresponse
    split at hresponse
    case isFalse => cases hresponse
    case isTrue hdone =>
      -- nothing is pending any more, so what has been missed is all that makes a difference
      have hresponse := (Option.some.inj hresponse).symm
      rw [List.isEmpty_iff.mp hdone, List.append_nil] at payload
      unfold Delivery.response at hresponse
      rcases missed with _ | ⟨a, rest⟩
      · rw [List.append_nil] at payload
        have hdropped : d.dropped = 0 := dropped
        rw [if_pos hdropped] at hresponse
        exact .inl ⟨payload.symm, by rw [hresponse, payload]⟩
      · have hdropped : d.dropped ≠ 0 := by
          rw [dropped]
          exact Nat.succ_ne_zero _
        rw [if_neg hdropped] at hresponse
        refine .inr ⟨?_, hresponse⟩
        intro hall
        rw [payload] at hall
        have hlength := congrArg List.length hall
        simp only [List.length_append, List.length_cons] at hlength
        omega

end Honest

end Call

/-! ## Steps -/

namespace Intake

/-- What has been seen so far tells how a state has come about. -/
structure Sound (around : Surroundings) (engine : Engine) (s : Intake) (seen : List Event) :
    Prop where
  /-- Every call knows what the queue has taken from it. -/
  calls : ∀ i (c : Call), s.calls[i]? = some c → c.Honest s.service.alerts (addedBy i seen)
  /-- There are no other calls. -/
  unknown : ∀ i, s.calls.length ≤ i → addedBy i seen = []
  /-- What has been taken is handed over in order; the rest is in the queue. -/
  order : added seen = handed seen ++ s.service.alerts.items.map Queued.item
  /-- What has been handed over is done, except for what the worker is about. -/
  current : handed seen = healed seen ++ s.worker.current?.toList
  /-- The worker does not come to its end as long as anything may be in the queue. -/
  ended : s.worker = .returned →
    s.service.alerts.isShutDown = true ∧ s.service.alerts.items = []
  /-- Nothing is put back. -/
  undelayed : s.service.alerts.delayed = []
  /-- The engine has done what has been seen, and nothing else. -/
  applied : s.service.engine = seen.foldl (Event.apply around) engine

namespace Sound

variable {around : Surroundings} {engine : Engine} {s : Intake} {seen : List Event}

/-- A service at its start. -/
theorem start (around : Surroundings) (throttle : Nat) (rules : List Rule) :
    Sound around (.start throttle) (.start throttle rules) [] where
  calls := fun i c h => by cases h
  unknown := fun _ _ => rfl
  order := rfl
  current := rfl
  ended := fun h => by cases h
  undelayed := rfl
  applied := rfl

/-- A request comes in. -/
theorem receive (h : Sound around engine s seen) (r : Web.Request) :
    Sound around engine { s with calls := s.calls ++ [.start r] } seen where
  calls := by
    intro i c hc
    rcases Nat.lt_trichotomy i s.calls.length with hlt | rfl | hgt
    · rw [List.getElem?_append_left hlt] at hc
      exact h.calls i c hc
    · rw [List.getElem?_concat_length] at hc
      obtain rfl := Option.some.inj hc
      rw [h.unknown _ (Nat.le_refl _)]
      exact .start _ r
    · have hlength : (s.calls ++ [Call.start r]).length ≤ i := by
        rw [List.length_append]
        exact hgt
      rw [List.getElem?_eq_none hlength] at hc
      cases hc
  unknown := by
    intro i hi
    rw [List.length_append] at hi
    exact h.unknown i (Nat.le_trans (Nat.le_add_right _ _) hi)
  order := h.order
  current := h.current
  ended := h.ended
  undelayed := h.undelayed
  applied := h.applied

/-- A call makes its next offer. -/
theorem offer (h : Sound around engine s seen) (i : Nat) :
    Sound around engine (s.offer i).1 (seen ++ (s.offer i).2) := by
  cases hc : s.calls[i]? with
  | none =>
    unfold Intake.offer
    rw [hc, List.append_nil]
    exact h
  | some c =>
    rw [offer_of_some hc]
    have hlength : i < s.calls.length := (List.getElem?_eq_some_iff.mp hc).1
    have hqueue := c.offer_queue s.service.alerts
    have hclosed : (c.offer s.service.alerts).2.isShutDown = s.service.alerts.isShutDown := by
      rw [hqueue]
    refine
      { calls := ?_, unknown := ?_, order := ?_, current := ?_, ended := ?_, undelayed := ?_,
        applied := ?_ }
    · -- only the call that makes the offer has something new taken from it
      intro j c' hc'
      rw [addedBy_append, addedBy_map]
      rcases Nat.decEq i j with hne | rfl
      · rw [if_neg hne, List.append_nil]
        rw [List.getElem?_set_ne hne] at hc'
        exact (h.calls j c' hc').mono fun hshut => hclosed.trans hshut
      · rw [if_pos rfl]
        rw [List.getElem?_set_self hlength] at hc'
        obtain rfl := Option.some.inj hc'
        exact (h.calls i c hc).offer
    · intro j hj
      rw [List.length_set] at hj
      rw [addedBy_append, addedBy_map, if_neg (by omega), h.unknown j hj]
      rfl
    · rw [added_append, added_map, handed_append, handed_map, h.order, List.append_nil, hqueue,
        List.map_append, List.map_map, List.append_assoc]
      exact congrArg _ (congrArg _ (List.map_id _).symm)
    · rw [handed_append, handed_map, healed_append, healed_map, List.append_nil, List.append_nil]
      exact h.current
    · -- where the worker has come to its end the queue is shut down, and takes nothing more
      intro hreturned
      obtain ⟨hshut, hitems⟩ := h.ended hreturned
      have hnone : c.taken s.service.alerts = [] := by
        unfold Call.taken WorkQueue.accepts
        rw [hshut]
        rfl
      refine ⟨hclosed.trans hshut, ?_⟩
      rw [hqueue, hnone, hitems]
      rfl
    · rw [hqueue]
      exact h.undelayed
    · have hidle : ∀ (alerts : List Alert) (e : Engine),
          (alerts.map (Event.added i)).foldl (Event.apply around) e = e := by
        intro alerts
        induction alerts with
        | nil => exact fun _ => rfl
        | cons a r ih => exact ih
      rw [List.foldl_append, hidle]
      exact h.applied

/-- The calls do not care for what is seen of others, or whether the queue is shut down now. -/
theorem calls_of_quiet (h : Sound around engine s seen) (q : WorkQueue Alert)
    (closed : s.service.alerts.isShutDown = true → q.isShutDown = true) {more : List Event}
    (quiet : additions more = []) (i : Nat) (c : Call) (hc : s.calls[i]? = some c) :
    c.Honest q (addedBy i (seen ++ more)) := by
  rw [addedBy_append_of_quiet i seen more quiet]
  exact (h.calls i c hc).mono closed

/-- What is done with the alerts does not concern the calls. -/
theorem unknown_of_quiet (h : Sound around engine s seen) {more : List Event}
    (quiet : additions more = []) (i : Nat) (hi : s.calls.length ≤ i) :
    addedBy i (seen ++ more) = [] := by
  rw [addedBy_append_of_quiet i seen more quiet]
  exact h.unknown i hi

/-- The worker does its next step. -/
theorem work (h : Sound around engine s seen) (now : Nat) :
    Sound around engine (s.work around now).1 (seen ++ (s.work around now).2) := by
  obtain ⟨⟨⟨items, delayed, closed⟩, changes, e⟩, calls, worker⟩ := s
  cases worker with
  | returned =>
    show Sound around engine _ (seen ++ [])
    rw [List.append_nil]
    exact h
  | healing alert =>
    have horder := h.order
    have hcurrent := h.current
    show Sound around engine ⟨⟨⟨items, delayed, closed⟩, changes, (e.process around now alert).2⟩,
      calls, .waiting⟩ (seen ++ [.healed now alert])
    refine
      { calls := h.calls_of_quiet _ id rfl
        unknown := h.unknown_of_quiet rfl
        order := ?_
        current := ?_
        ended := fun hreturned => by cases hreturned
        undelayed := h.undelayed
        applied := ?_ }
    · rw [added_append_of_quiet _ _ rfl, handed_append, horder]
      exact congrArg (· ++ _) (List.append_nil _).symm
    · rw [handed_append, healed_append, hcurrent]
      exact (List.append_nil _).trans (List.append_nil _).symm
    · rw [List.foldl_append, ← h.applied]
      rfl
  | waiting =>
    cases items with
    | cons x rest =>
      have horder := h.order
      have hcurrent := h.current
      show Sound around engine ⟨⟨⟨rest, delayed, closed⟩, changes, e⟩, calls, .healing x.item⟩
        (seen ++ [.handed x.item])
      refine
        { calls := h.calls_of_quiet ⟨rest, delayed, closed⟩ id rfl
          unknown := h.unknown_of_quiet rfl
          order := ?_
          current := ?_
          ended := fun hreturned => by cases hreturned
          undelayed := h.undelayed
          applied := ?_ }
      · rw [added_append_of_quiet _ _ rfl, handed_append, horder, List.append_assoc]
        rfl
      · rw [handed_append, healed_append, hcurrent]
        rfl
      · rw [List.foldl_append, ← h.applied]
        rfl
    | nil =>
      cases closed with
      | true =>
        show Sound around engine ⟨⟨⟨[], delayed, true⟩, changes, e⟩, calls, .returned⟩ (seen ++ [])
        rw [List.append_nil]
        exact { h with current := h.current, ended := fun _ => ⟨rfl, rfl⟩ }
      | false =>
        show Sound around engine _ (seen ++ [])
        rw [List.append_nil]
        exact h

/-- What else the service does concerns neither the calls nor the alerts. -/
theorem aside (h : Sound around engine s seen) (service : Service) (more : List Event)
    (alerts : service.alerts = s.service.alerts) (quiet : additions more = [])
    (unhanded : handed more = []) (unhealed : healed more = [])
    (applied : service.engine = more.foldl (Event.apply around) s.service.engine) :
    Sound around engine { s with service } (seen ++ more) where
  calls := h.calls_of_quiet _ (fun hshut => (congrArg _ alerts).trans hshut) quiet
  unknown := h.unknown_of_quiet quiet
  order := by
    rw [added_append_of_quiet _ _ quiet, handed_append, unhanded, List.append_nil, alerts]
    exact h.order
  current := by
    rw [handed_append, healed_append, unhanded, unhealed, List.append_nil, List.append_nil]
    exact h.current
  ended := by
    rw [alerts]
    exact h.ended
  undelayed := (congrArg _ alerts).trans h.undelayed
  applied := by
    rw [List.foldl_append, ← h.applied]
    exact applied

/-- The service is shut down. -/
theorem shutDown (h : Sound around engine s seen) :
    Sound around engine { s with service := s.service.shutDown } seen :=
  { h with
    calls := fun i c hc => (h.calls i c hc).mono fun _ => rfl
    ended := fun hreturned => ⟨rfl, (h.ended hreturned).2⟩ }

/-- **What one move preserves.** -/
theorem step (h : Sound around engine s seen) (move : Move) :
    Sound around engine (s.step around move).1 (seen ++ (s.step around move).2) := by
  cases move with
  | receive request =>
    show Sound around engine _ (seen ++ [])
    rw [List.append_nil]
    exact h.receive request
  | offer i => exact h.offer i
  | work now => exact h.work now
  | shutDown =>
    show Sound around engine _ (seen ++ [])
    rw [List.append_nil]
    exact h.shutDown
  | change =>
    -- the changes of rules have a queue of their own
    obtain ⟨⟨alerts, ⟨items, delayed, closed⟩, e⟩, calls, worker⟩ := s
    cases items with
    | nil => cases closed <;> exact h.aside _ [] rfl rfl rfl rfl rfl
    | cons x rest => exact h.aside _ [.changed x.item] rfl rfl rfl rfl rfl
  | reload watcher loaded => exact h.aside (s.service.reload watcher loaded).2 [] rfl rfl rfl rfl rfl
  | poll source => exact h.aside _ [.polled source] rfl rfl rfl rfl rfl

/-- What a schedule preserves. -/
theorem run {s : Intake} {seen : List Event} (h : Sound around engine s seen) (moves : List Move) :
    Sound around engine (s.run around moves).1 (seen ++ (s.run around moves).2) := by
  induction moves generalizing s seen with
  | nil =>
    show Sound around engine s (seen ++ [])
    rw [List.append_nil]
    exact h
  | cons move r ih =>
    rw [run_cons, ← List.append_assoc]
    exact ih (h.step move)

end Sound

/-! ## Schedules -/

/-- A worker whose service is shut down comes to its end when there is nothing left. -/
theorem returns (around : Surroundings) (now : Nat) (s : Intake)
    (closed : s.service.alerts.isShutDown = true) :
    ∃ steps, (s.run around (List.replicate steps (.work now))).1.worker = .returned := by
  obtain ⟨⟨⟨items, delayed, shut⟩, changes, e⟩, calls, worker⟩ := s
  have hshut : shut = true := closed
  subst hshut
  -- first with a worker that waits, an alert after the other
  have hwaiting : ∀ e : Engine, ∃ steps, (run around
      ⟨⟨⟨items, delayed, true⟩, changes, e⟩, calls, .waiting⟩
        (List.replicate steps (.work now))).1.worker = .returned := by
    clear closed
    induction items with
    | nil => exact fun _ => ⟨1, rfl⟩
    | cons x rest ih =>
      intro e
      obtain ⟨steps, hsteps⟩ := ih (e.process around now x.item).2
      exact ⟨steps + 2, hsteps⟩
  cases worker with
  | returned => exact ⟨0, rfl⟩
  | waiting => exact hwaiting e
  | healing alert =>
    obtain ⟨steps, hsteps⟩ := hwaiting (e.process around now alert).2
    exact ⟨steps + 1, hsteps⟩

/-- **From the requests to the engine**, whatever the schedule.  A request that is refused has
    nothing queued.  Of a notification the queue takes the alerts at the front, all of them if and
    only if the response says so.  The worker hands over what the queue has taken, in the order in
    which it has been taken, and when it has come to its end that is all of it: the engine is done
    with it, nothing is left and nothing is put back. -/
theorem taken_handed (around : Surroundings) (throttle : Nat) (rules : List Rule)
    (moves : List Move) :
    let s := ((start throttle rules).run around moves).1
    let seen := ((start throttle rules).run around moves).2
    (∀ i call, s.calls[i]? = some call →
      match Delivery.ofRequest call.request with
      | .error status => call.response? = some (.bare status) ∧ addedBy i seen = []
      | .ok _ => ∃ n, Json.decode Notification.read call.request.body = .ok n ∧
          addedBy i seen <+: n.alerts ∧ ∀ response, call.response? = some response →
            (addedBy i seen = n.alerts ∧ response
                = .json 200 (.obj [("status", .str "ok"), ("alerts", .int n.alerts.length)])) ∨
              (addedBy i seen ≠ n.alerts ∧ response
                = .json 503 (.obj [("status", .str "unavailable"),
                    ("alerts", .int (addedBy i seen).length)]))) ∧
      added seen = handed seen ++ s.service.alerts.items.map Queued.item ∧
      s.service.engine = seen.foldl (Event.apply around) (.start throttle) ∧
      (s.worker = .returned →
        handed seen = added seen ∧ healed seen = added seen ∧
          s.service.alerts = { isShutDown := true }) := by
  intro s seen
  have h : Sound around (.start throttle) s seen := (Sound.start around throttle rules).run moves
  refine ⟨?_, h.order, h.applied, ?_⟩
  · intro i call hcall
    have hhonest := h.calls i call hcall
    cases hrequest : Delivery.ofRequest call.request with
    | error status => exact hhonest.response_of_error hrequest
    | ok d =>
      obtain ⟨-, -, n, hdecode, rfl⟩ := Delivery.ofRequest_eq_ok_iff.mp hrequest
      exact ⟨n, hdecode, hhonest.response_of_ok hrequest⟩
  · intro hreturned
    obtain ⟨hshut, hitems⟩ := h.ended hreturned
    have hhanded : added seen = handed seen := by
      rw [h.order, hitems]
      exact List.append_nil _
    have hhealed : handed seen = healed seen := by
      rw [h.current, hreturned]
      exact List.append_nil _
    refine ⟨hhanded.symm, (hhanded.trans hhealed).symm, ?_⟩
    rw [← h.undelayed, ← hitems, ← hshut]

namespace Interrupted

/-- Surroundings without any patterns. -/
def around : Surroundings where
  language := fun _ => none
  launch := fun calls _ _ => .ok calls.length
  create := fun _ _ => .ok .created

/-- A request with some body. -/
def request (body : String) : Web.Request :=
  { method := "POST", target := "/alerts", contentType := some "application/json", body }

/-- A notification of one alert. -/
def single : Web.Request := request "\x7b\"alerts\":[\x7b\"fingerprint\":\"a\"\x7d]\x7d"

/-- A notification of two alerts. -/
def double : Web.Request :=
  request
    "\x7b\"alerts\":[\x7b\"fingerprint\":\"b\"\x7d,\x7b\"fingerprint\":\"c\"\x7d]\x7d"

/-- A body that breaks off. -/
def broken : Web.Request := request "\x7b\"alerts\":["

/-- Two notifications come in, and a body that is broken.  The service is shut down when the queue
    has taken the first alert of the second notification and the one of the first. -/
def moves : List Move :=
  [.receive single, .receive double, .receive broken, .offer 1, .work 0, .offer 0, .shutDown,
    .offer 1, .work 0, .work 0, .work 0, .work 0]

/-- The state in the end, and what has been seen. -/
def outcome : Intake × List Event := (start 0 []).run around moves

theorem declaresJson_request (body : String) : Delivery.declaresJson (request body) = true := by
  -- whether a text contains a character is found in the list of its characters
  have htoken : isTokenChar = fun c => c.isAlphanum || decide (c ∈ "!#$%&'*+-.^_`|~".toList) := by
    funext c
    rw [isTokenChar, String.contains_char_eq]
  change (MediaType.ofText? "application/json").any MediaType.isJson = true
  unfold MediaType.ofText?
  rw [htoken]
  decide +kernel

/-- The alerts of a notification are to be offered. -/
theorem ofRequest_request {body : String} {alerts : List Alert}
    (hsize : body.utf8ByteSize ≤ Delivery.maxBodySize)
    (halerts : Notification.alerts <$> Json.decode Notification.read body = .ok alerts) :
    Delivery.ofRequest (request body) = .ok { pending := alerts } := by
  obtain ⟨n, hdecode, rfl⟩ := Except.map_eq_ok_iff.mp halerts
  exact Delivery.ofRequest_eq_ok_iff.mpr ⟨declaresJson_request body, hsize, n, hdecode, rfl⟩

theorem ofRequest_single :
    Delivery.ofRequest single = .ok { pending := [{ fingerprint := "a" }] } :=
  ofRequest_request (by decide +kernel) (by decide +kernel)

theorem ofRequest_double :
    Delivery.ofRequest double
      = .ok { pending := [{ fingerprint := "b" }, { fingerprint := "c" }] } :=
  ofRequest_request (by decide +kernel) (by decide +kernel)

theorem ofRequest_broken : Delivery.ofRequest broken = .error 400 := by
  have hfault : Notification.alerts <$> Json.decode Notification.read broken.body
      = .error .endOfText := by decide +kernel
  have hsize : ¬ broken.body.utf8ByteSize > Delivery.maxBodySize := by decide +kernel
  have hdeclared : Delivery.declaresJson broken = true := declaresJson_request _
  unfold Delivery.ofRequest
  rw [hdeclared, if_neg (by decide), if_neg hsize]
  cases hdecode : Json.decode Notification.read broken.body with
  | ok n =>
    rw [hdecode] at hfault
    cases hfault
  | error e =>
    rw [hdecode] at hfault
    cases hfault
    rfl

/-- The calls and the worker in the end, and what the queue has taken. -/
theorem outcome_eq :
    outcome.1.calls =
        [⟨single, .ok ⟨[], [{ fingerprint := "a" }], 0⟩⟩,
          ⟨double, .ok ⟨[], [{ fingerprint := "b" }], 1⟩⟩, ⟨broken, .error 400⟩] ∧
      outcome.1.worker = .returned ∧
      additions outcome.2 = [(1, { fingerprint := "b" }), (0, { fingerprint := "a" })] := by
  unfold outcome moves
  simp only [run_cons, step, Call.start, ofRequest_single, ofRequest_double, ofRequest_broken]
  exact ⟨rfl, rfl, rfl⟩

/-- What has been taken before the shutdown is handed over, and the responses tell so. -/
theorem taken_handed_of_interrupted :
    handed outcome.2 = [{ fingerprint := "b" }, { fingerprint := "a" }] ∧
      healed outcome.2 = [{ fingerprint := "b" }, { fingerprint := "a" }] ∧
      outcome.1.calls.map Call.response? =
        [some (.json 200 (.obj [("status", .str "ok"), ("alerts", .int 1)])),
          some (.json 503 (.obj [("status", .str "unavailable"), ("alerts", .int 1)])),
          some (.bare 400)] := by
  obtain ⟨hcalls, hworker, hadditions⟩ := outcome_eq
  obtain ⟨-, -, -, returned⟩ := taken_handed around 0 [] moves
  have hadded : added outcome.2 = [{ fingerprint := "b" }, { fingerprint := "a" }] := by
    unfold added
    rw [hadditions]
    rfl
  obtain ⟨hhanded, hhealed, -⟩ := returned hworker
  refine ⟨hhanded.trans hadded, hhealed.trans hadded, ?_⟩
  rw [hcalls]
  rfl

end Interrupted

end Intake

end Healing
