/-
  Queues of work.

  Items are handed out in the order in which they came.  An item whose work failed is put back after
  a delay that doubles with every attempt.  A queue that is shut down takes no more items, hands out
  those it has, and is closed after that.

  1. **Delays** - `backoff`.
  2. **Queues** - `WorkQueue`, with the items that are on their way back.
  3. **Operations** - `add`, `get`, `shutDown`, `requeue`.
  4. **Time** - `advance` lets time pass, `wait` lets it pass until there is an item.
-/
namespace Healing

universe u

/-! ## Delays -/

/-- The first delay, in nanoseconds. -/
def baseDelay : Nat := 5_000_000

/-- The longest delay, in nanoseconds. -/
def maxDelay : Nat := 1_000_000_000_000

/-- How often an attempt doubles the first delay; beyond 31 doublings there is a fixed factor. -/
def backoffFactor (attempts : Nat) : Nat :=
  if attempts < 32 then Nat.pow 2 attempts else 4_294_967_295

/-- The delay before an item comes back that has been put back so many times before. -/
def backoff (attempts : Nat) : Nat := min (baseDelay * backoffFactor attempts) maxDelay

/-- The most attempts that are counted. -/
def maxAttempts : Nat := 4_294_967_295

/-! ## Queues -/

/-- An item and how often it has been put back. -/
structure Queued (α : Type u) where
  item : α
  attempts : Nat := 0
deriving DecidableEq, Repr

/-- A queue of work. -/
structure WorkQueue (α : Type u) where
  /-- The items to hand out, the next one first. -/
  items : List (Queued α) := []
  /-- The items on their way back and when they arrive, the earliest first. -/
  delayed : List (Nat × Queued α) := []
  isShutDown : Bool := false
deriving Repr

/-- What a queue answers when it is asked for an item. -/
inductive WorkQueue.Got (α : Type u) where
  | item (queued : Queued α)
  /-- There is no item yet. -/
  | nothing
  /-- There will be no item any more. -/
  | closed
deriving Repr

namespace WorkQueue

variable {α : Type u}

/-! ## Operations -/

/-- Put an item behind the others, unless the queue is shut down. -/
def push (q : WorkQueue α) (x : Queued α) : WorkQueue α :=
  if q.isShutDown then q else { q with items := q.items ++ [x] }

/-- Add a new item. -/
def add (q : WorkQueue α) (a : α) : WorkQueue α := q.push { item := a }

/-- Whether the queue takes items. -/
def accepts (q : WorkQueue α) : Bool := !q.isShutDown

/-- Ask for the next item. -/
def get (q : WorkQueue α) : Got α × WorkQueue α :=
  match q.items with
  | x :: r => (.item x, { q with items := r })
  | [] => (if q.isShutDown then .closed else .nothing, q)

/-- Take no more items. -/
def shutDown (q : WorkQueue α) : WorkQueue α := { q with isShutDown := true }

/-- Put an entry behind those that are not later. -/
def insertDelayed (due : Nat) (x : Queued α) : List (Nat × Queued α) → List (Nat × Queued α)
  | [] => [(due, x)]
  | e :: r => if e.1 ≤ due then e :: insertDelayed due x r else (due, x) :: e :: r

/-- Put an item back after its delay; a queue that is shut down drops it. -/
def requeue (q : WorkQueue α) (now : Nat) (x : Queued α) : WorkQueue α :=
  if q.isShutDown then q
  else
    let again := { x with attempts := min (x.attempts + 1) maxAttempts }
    { q with delayed := insertDelayed (now + backoff x.attempts) again q.delayed }

/-- The number of items to hand out. -/
def size (q : WorkQueue α) : Nat := q.items.length

/-! ## Time -/

/-- Let time pass up to some point: the items that have arrived by then are put back in the order of
    their arrival. -/
def advance (q : WorkQueue α) (now : Nat) : WorkQueue α :=
  let due := q.delayed.takeWhile fun e => e.1 ≤ now
  let later := q.delayed.dropWhile fun e => e.1 ≤ now
  due.foldl (fun q e => q.push e.2) { q with delayed := later }

/-- Ask for the next item and let time pass until there is one, at most up to `deadline`.  Gives the
    answer, the time and the queue. -/
def wait (q : WorkQueue α) (now deadline : Nat) : Got α × Nat × WorkQueue α :=
  match q.get with
  | (.nothing, _) =>
    match q.delayed with
    | (due, _) :: _ =>
      if due ≤ deadline then
        let (got, q) := (q.advance due).get
        (got, max now due, q)
      else (.nothing, deadline, q.advance deadline)
    | [] => (.nothing, deadline, q)
  | (got, q) => (got, now, q)

end WorkQueue

end Healing
