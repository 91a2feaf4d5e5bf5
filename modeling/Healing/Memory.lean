/-
  A memory that forgets.

  An item is remembered for some time after it was last added.  The cells stand in the order of
  their stamps, so the expired ones are in front.

  1. **Cells** - `Memory`, a list of items with the times at which they were last added.
  2. **Forgetting** - `Memory.purge` drops the expired cells in front.
  3. **Operations** - `add`, `has`, `size`; a memory of no duration has nothing.
-/
namespace Healing

universe u

/-! ## Cells -/

/-- An item and the time at which it was last added, in nanoseconds. -/
structure Memory.Cell (α : Type u) where
  item : α
  stamp : Nat
deriving DecidableEq, Repr

/-- Items that are remembered for some nanoseconds. -/
structure Memory (α : Type u) where
  duration : Nat
  /-- The cells, the oldest first. -/
  cells : List (Memory.Cell α) := []
deriving Repr

namespace Memory

variable {α : Type u}

/-! ## Forgetting -/

/-- Whether a cell is still to be remembered at some time. -/
def Cell.live (duration now : Nat) (c : Cell α) : Bool := now - c.stamp < duration

/-- Drop the expired cells in front. -/
def purge (m : Memory α) (now : Nat) : Memory α :=
  { m with cells := m.cells.dropWhile fun c => !c.live m.duration now }

/-! ## Operations -/

/-- Take the first cell with an equal item out of a list. -/
def takeCell? [BEq α] (a : α) : List (Cell α) → Option (Cell α × List (Cell α))
  | [] => none
  | c :: r =>
    if c.item == a then some (c, r)
    else (takeCell? a r).map fun (found, rest) => (found, c :: rest)

/-- Remember an item; one that is remembered already starts anew. -/
def add [BEq α] (m : Memory α) (now : Nat) (a : α) : Memory α :=
  let p := m.purge now
  match takeCell? a p.cells with
  | some (c, rest) => { p with cells := rest ++ [{ c with stamp := now }] }
  | none => { p with cells := p.cells ++ [⟨a, now⟩] }

/-- Whether an equal item is remembered. -/
def has [BEq α] (m : Memory α) (now : Nat) (a : α) : Bool :=
  m.duration ≠ 0 && (m.purge now).cells.any fun c => c.item == a

/-- The memory after it has been asked: the expired cells in front are gone, unless the memory
    has no duration. -/
def asked (m : Memory α) (now : Nat) : Memory α := if m.duration = 0 then m else m.purge now

/-- The number of items that are remembered. -/
def size (m : Memory α) (now : Nat) : Nat := (m.purge now).cells.length

end Memory

end Healing
