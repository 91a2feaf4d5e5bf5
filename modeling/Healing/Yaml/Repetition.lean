/-
  Repeated nodes of YAML texts.

  A node with an anchor may be repeated further on, even within itself.  The document of a text has
  the repeated nodes in full.  It stays finite, as containers count only down to a fixed depth, and
  the number of repetitions is limited by the length of the text.

  1. **Anchors** - `Node.anchors`: the nodes with an anchor in the order of the text.
  2. **Size** - `Node.size`, from which the limit of repetitions follows.
  3. **Documents** - `Expansion.document`, `Document.ofYaml`.
  4. **Whole texts** - `Yaml.decode`.
-/
import Healing.Document
import Healing.Yaml.Node

namespace Healing.Yaml

namespace Node

/-! ## Anchors -/

/-- A node's own anchor. -/
def ownAnchor (n : Node) : List (Nat × Node) :=
  match n with
  | .scalar _ (some a) => [(a, n)]
  | .list _ _ (some a) _ => [(a, n)]
  | .map _ _ (some a) _ => [(a, n)]
  | _ => []

mutual

/-- The nodes with an anchor in the order of the text. -/
def anchors : Node → List (Nat × Node)
  | .list items tag a closed => ownAnchor (.list items tag a closed) ++ itemAnchors items
  | .map entries tag a closed => ownAnchor (.map entries tag a closed) ++ entryAnchors entries
  | n => ownAnchor n

/-- `anchors` of the items of a list. -/
def itemAnchors : List Node → List (Nat × Node)
  | [] => []
  | n :: r => anchors n ++ itemAnchors r

/-- `anchors` of the entries of a map. -/
def entryAnchors : List (Node × Node) → List (Nat × Node)
  | [] => []
  | (k, v) :: r => anchors k ++ anchors v ++ entryAnchors r

end

/-! ## Size -/

/-- What the two ends of a container count, as far as they have been reached. -/
def endCount (closed : Bool) : Nat := if closed then 2 else 1

mutual

/-- The number of scalars and repetitions and of the ends of containers. -/
def size : Node → Nat
  | .scalar _ _ => 1
  | .repeated _ => 1
  | .cut => 0
  | .list items _ _ closed => endCount closed + itemSize items
  | .map entries _ _ closed => endCount closed + entrySize entries

/-- `size` of the items of a list. -/
def itemSize : List Node → Nat
  | [] => 0
  | n :: r => size n + itemSize r

/-- `size` of the entries of a map. -/
def entrySize : List (Node × Node) → Nat
  | [] => 0
  | (k, v) :: r => size k + size v + entrySize r

end

/-- Whether the text could not be read on within the node. -/
def isCut : Node → Bool
  | .cut => true
  | .list _ _ _ closed => !closed
  | .map _ _ _ closed => !closed
  | _ => false

end Node

/-! ## Documents -/

/-- How many repetitions are allowed for each part of a text. -/
def repetitionsPerPart : Nat := 100

/-- How deep containers may be nested. -/
def deepest : Nat := 128

/-- The fault of a container that has not been closed. -/
def closingFault (closed : Bool) : Option ReadError := if closed then none else some .malformed

/-- A container with its tag; only a tag of its own matters. -/
def withTag (tag : Option String) (d : Document) : Document :=
  if tag.any fun t => t.startsWith "!" then .tagged d else d

/-- Apply a step with a running count to the items of a list. -/
def thread {α β : Type} (f : α → Nat → β × Nat) : List α → Nat → List β × Nat
  | [], n => ([], n)
  | a :: r, n =>
    let (b, n) := f a n
    let (bs, n) := thread f r n
    (b :: bs, n)

/-- The document of a node with `depth` more levels, and how many more repetitions are allowed.
    `repeated` is whether the node stands here as a repetition, whose faults only show when its
    value is wanted. -/
def expand (table : List (Nat × Node)) : Nat → Bool → Node → Nat → Document × Nat
  | depth, repeated, node, left =>
    let (repeated, node, left) := match node with
      | .repeated a =>
        match left, table.lookup a with
        | left + 1, some n => (true, some n, left)
        | _, _ => (true, none, 0)
      | n => (repeated, some n, left)
    match depth, node with
    | _, none => (.endless, left)
    | _, some (.scalar s _) => (.scalar s, left)
    | _, some .cut => (.broken .malformed, left)
    | _, some (.repeated _) => (.endless, left)
    | 0, some n =>
      (if repeated then .endless else .deep (if n.isCut then .broken .malformed else .null), left)
    | depth + 1, some (.list items tag _ closed) =>
      let (ds, left) := thread (expand table depth repeated) items left
      (withTag tag (.series ds (closingFault closed)), left)
    | depth + 1, some (.map entries tag _ closed) =>
      let pair := fun (e : Node × Node) left =>
        let (k, left) := expand table depth repeated e.1 left
        let (v, left) := expand table depth repeated e.2 left
        ((k, v), left)
      let (ds, left) := thread pair entries left
      (withTag tag (.map ds (closingFault closed)), left)

/-- The document of a tree. -/
def Tree.document (t : Tree) : Document :=
  (expand t.root.anchors.reverse deepest false t.root (repetitionsPerPart * t.root.size)).1

/-! ## Whole texts -/

/-- Read a text as a YAML document of the type that `read` wants.  There must not be a second
    document. -/
def decode {α : Type} (read : Document → Except ReadError α) (text : String) :
    Except ReadError α := do
  let t := Tree.ofTokens (tokens text)
  let a ← read t.document
  Document.checkFault (closingFault t.alone)
  .ok a

end Healing.Yaml
