/-
  Rewriting the texts inside a value.

  The texts are visited in order: the items of a list from the first on, the values of a map by
  growing key.  The first text that cannot be rewritten stops the walk; the texts before it keep
  what they have become, and the others stay as they are.

  1. **Walks** - `Walk`: a value on the way, with what stopped the walk.
  2. **Containers** - `expandOption`, `expandList`, `expandEntries`.
  3. **JSON** - `Json.expand` visits the strings of a value; the names of fields are none of them.
-/
import Healing.Json.Basic

namespace Healing

universe u

/-! ## Walks -/

/-- A value after a walk over it, and what stopped the walk. -/
structure Walk (ε : Type) (α : Type u) where
  value : α
  stopped : Option ε := none
deriving Repr

namespace Walk

variable {ε : Type} {α β : Type u}

/-- The walk over a part, seen as one over the whole. -/
def map (f : α → β) (w : Walk ε α) : Walk ε β := ⟨f w.value, w.stopped⟩

/-- The walk over a list from the walks over its first item and over the others, which stay as they
    are if the first walk has been stopped. -/
def cons (w : Walk ε α) (others : List α) (rest : Walk ε (List α)) : Walk ε (List α) :=
  match w.stopped with
  | some e => ⟨w.value :: others, some e⟩
  | none => rest.map (w.value :: ·)

/-- The walk over a text. -/
def ofText {ε : Type} (render : String → Except ε String) (s : String) : Walk ε String :=
  match render s with
  | .ok t => ⟨t, none⟩
  | .error e => ⟨s, some e⟩

end Walk

/-! ## Containers -/

/-- The walk over what may be there. -/
def expandOption {ε : Type} {α : Type u} (expand : α → Walk ε α) : Option α → Walk ε (Option α)
  | none => ⟨none, none⟩
  | some a => (expand a).map some

/-- The walk over a list. -/
def expandList {ε : Type} {α : Type u} (expand : α → Walk ε α) : List α → Walk ε (List α)
  | [] => ⟨[], none⟩
  | a :: r => (expand a).cons r (expandList expand r)

/-- The walk over the values of a list of pairs. -/
def expandEntries {ε : Type} {κ α : Type u} (expand : α → Walk ε α) :
    List (κ × α) → Walk ε (List (κ × α)) :=
  expandList fun e => (expand e.2).map fun a => (e.1, a)

/-! ## JSON -/

namespace Json

variable {ε : Type} (render : String → Except ε String)

mutual

/-- The walk over the strings of a value. -/
def expand : Json → Walk ε Json
  | .str s => (Walk.ofText render s).map .str
  | .arr items => (expandItems items).map .arr
  | .obj fields => (expandFields fields).map .obj
  | j => ⟨j, none⟩

/-- The walk over the strings of the items. -/
def expandItems : List Json → Walk ε (List Json)
  | [] => ⟨[], none⟩
  | j :: r => (expand j).cons r (expandItems r)

/-- The walk over the strings of the values of the fields. -/
def expandFields : List (String × Json) → Walk ε (List (String × Json))
  | [] => ⟨[], none⟩
  | (k, j) :: r => ((expand j).map fun a => (k, a)).cons r (expandFields r)

end

end Json

end Healing
