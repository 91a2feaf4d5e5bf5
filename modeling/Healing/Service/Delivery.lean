/-
  Deliveries of alerts.

  A notification is delivered in the body of a request.  Its alerts are queued one by one; the queue
  may be shut down while this goes on, and takes no more of them then.

  1. **Bodies** - `Delivery.refusal?` and `Delivery.ofRequest`: what is refused before anything is
     queued.
  2. **Queuing** - `Delivery.step` queues the next alert, `Delivery.run` all of them.
  3. **Responses** - `Delivery.response` tells how many were queued.
-/
import Healing.Alert.Notification
import Healing.Json.Reader
import Healing.Web.Exchange
import Healing.Web.MediaType
import Healing.WorkQueue

namespace Healing

/-- A delivery under way. -/
structure Delivery where
  /-- The alerts that have not been offered to the queue yet. -/
  pending : List Alert
  /-- The alerts that the queue has taken, in order. -/
  taken : List Alert := []
  /-- How many alerts the queue has not taken. -/
  dropped : Nat := 0
deriving Inhabited

namespace Delivery

/-! ## Bodies -/

/-- The size of the longest body that is read, in bytes. -/
def maxBodySize : Nat := 2_097_152

/-- Whether a request declares its body to be JSON. -/
def declaresJson (r : Web.Request) : Bool :=
  (r.contentType.bind MediaType.ofText?).any MediaType.isJson

/-- The status that a body is refused with which is not a notification: one for a text that is not
    JSON, another for JSON of the wrong form. -/
def refusalOf : ReadError → Nat
  | .malformed | .endOfText => 400
  | .wrongData _ => 422

/-- The delivery that a request asks for, or the status that it is refused with. -/
def ofRequest (r : Web.Request) : Except Nat Delivery :=
  if !declaresJson r then .error 415
  else if r.body.utf8ByteSize > maxBodySize then .error 413
  else
    match Json.decode Notification.read r.body with
    | .ok n => .ok { pending := n.alerts }
    | .error e => .error (refusalOf e)

/-! ## Queuing -/

/-- Offer the next alert to the queue. -/
def step (d : Delivery) (q : WorkQueue Alert) : Delivery × WorkQueue Alert :=
  match d.pending with
  | [] => (d, q)
  | a :: r =>
    if q.accepts then ({ d with pending := r, taken := d.taken ++ [a] }, q.add a)
    else ({ d with pending := r, dropped := d.dropped + 1 }, q)

/-- Offer alerts to the queue so many times. -/
def steps : Nat → Delivery → WorkQueue Alert → Delivery × WorkQueue Alert
  | 0, d, q => (d, q)
  | n + 1, d, q =>
    let (d, q) := d.step q
    steps n d q

/-- Offer all alerts to the queue, with nothing going on in between. -/
def run (d : Delivery) (q : WorkQueue Alert) : Delivery × WorkQueue Alert :=
  steps d.pending.length d q

/-! ## Responses -/

/-- The body of the response to a delivery. -/
def summary (status : String) (alerts : Nat) : Json :=
  .obj [("status", .str status), ("alerts", .int alerts)]

/-- The response to a delivery that has come to its end. -/
def response (d : Delivery) : Web.Response :=
  if d.dropped = 0 then .json 200 (summary "ok" d.taken.length)
  else .json 503 (summary "unavailable" d.taken.length)

end Delivery

end Healing
