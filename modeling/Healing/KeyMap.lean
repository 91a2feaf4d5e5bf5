/-
  Finite maps with a fixed order of keys.

  Labels, annotations, stored rules, tracked jobs and metric series are all maps whose answers
  list the keys in order.  A `KeyMap` keeps its entries sorted by key, so two maps with the same
  content are equal as values and every walk visits the keys in the same order.

  1. **Entries** - `insertEntry` and `eraseEntry` work on the sorted list of pairs and keep it
     sorted (`pairwise_insertEntry`, `pairwise_eraseEntry`).
  2. **Map** - `KeyMap` carries the proof of sortedness; `get?` looks a key up.
  3. **Laws** - `get?_insert`, `get?_erase`: an operation on one key says nothing about another.
-/
namespace Healing

universe u v

/-! ## Sorted lists of pairs -/

section Entries

variable {κ : Type u} {α : Type v} [Ord κ]

/-- The keys of the list grow strictly. -/
def SortedKeys (l : List (κ × α)) : Prop := l.Pairwise fun a b => compare a.1 b.1 = .lt

/-- Put a pair into a sorted list, in the place of the pair with the same key if there is one. -/
def insertEntry (k : κ) (v : α) : List (κ × α) → List (κ × α)
  | [] => [(k, v)]
  | (k', v') :: r =>
    match compare k k' with
    | .lt => (k, v) :: (k', v') :: r
    | .eq => (k, v) :: r
    | .gt => (k', v') :: insertEntry k v r

/-- Take the pair with the given key out of the list. -/
def eraseEntry (k : κ) (l : List (κ × α)) : List (κ × α) := l.filter fun e => compare k e.1 != .eq

/-- The value of the first pair with the given key. -/
def findValue? (k : κ) (l : List (κ × α)) : Option α :=
  (l.find? fun e => compare k e.1 == .eq).map (·.2)

theorem mem_insertEntry {k : κ} {v : α} {e : κ × α} :
    ∀ {l : List (κ × α)}, e ∈ insertEntry k v l → e = (k, v) ∨ e ∈ l
  | [], h => by simpa [insertEntry] using h
  | (k', v') :: r, h => by
    unfold insertEntry at h
    split at h
    · simpa using h
    · simp only [List.mem_cons] at h ⊢
      rcases h with h | h
      · exact Or.inl h
      · exact Or.inr (Or.inr h)
    · simp only [List.mem_cons] at h ⊢
      rcases h with h | h
      · exact Or.inr (Or.inl h)
      · rcases mem_insertEntry h with h | h
        · exact Or.inl h
        · exact Or.inr (Or.inr h)

theorem pairwise_insertEntry [Std.TransOrd κ] [Std.LawfulEqOrd κ] (k : κ) (v : α) :
    ∀ {l : List (κ × α)}, SortedKeys l → SortedKeys (insertEntry k v l)
  | [], _ => by simp [insertEntry, SortedKeys]
  | (k', v') :: r, h => by
    have hr : ∀ e ∈ r, compare k' e.1 = .lt := (List.pairwise_cons.1 h).1
    have ht : SortedKeys r := (List.pairwise_cons.1 h).2
    unfold insertEntry
    split
    · rename_i hlt
      refine List.pairwise_cons.2 ⟨?_, h⟩
      intro e he
      rcases List.mem_cons.1 he with rfl | he
      · exact hlt
      · exact Std.TransCmp.lt_trans hlt (hr e he)
    · rename_i heq
      have hk : k = k' := Std.LawfulEqCmp.eq_of_compare heq
      subst hk
      exact List.pairwise_cons.2 ⟨hr, ht⟩
    · rename_i hgt
      refine List.pairwise_cons.2 ⟨?_, pairwise_insertEntry k v ht⟩
      intro e he
      rcases mem_insertEntry he with rfl | he
      · exact Std.OrientedCmp.lt_of_gt hgt
      · exact hr e he

theorem pairwise_eraseEntry (k : κ) {l : List (κ × α)} (h : SortedKeys l) :
    SortedKeys (eraseEntry k l) :=
  List.Pairwise.filter _ h

theorem findValue?_cons (k : κ) (e : κ × α) (l : List (κ × α)) :
    findValue? k (e :: l) = if compare k e.1 = .eq then some e.2 else findValue? k l := by
  unfold findValue?
  by_cases h : compare k e.1 = .eq <;> simp [h]

theorem findValue?_insertEntry [DecidableEq κ] [Std.TransOrd κ] [Std.LawfulEqOrd κ] (k : κ) (v : α)
    (x : κ) :
    ∀ {l : List (κ × α)}, findValue? x (insertEntry k v l)
      = if x = k then some v else findValue? x l
  | [] => by
    rw [insertEntry, findValue?_cons]
    simp only [Std.LawfulEqCmp.compare_eq_iff_eq]
  | (k', v') :: r => by
    unfold insertEntry
    split
    · rw [findValue?_cons]; simp only [Std.LawfulEqCmp.compare_eq_iff_eq]
    · rename_i heq
      have hk : k = k' := Std.LawfulEqCmp.eq_of_compare heq
      subst hk
      simp only [findValue?_cons, Std.LawfulEqCmp.compare_eq_iff_eq]
      by_cases h : x = k <;> simp [h]
    · rename_i hgt
      rw [findValue?_cons, findValue?_insertEntry k v x, findValue?_cons]
      simp only [Std.LawfulEqCmp.compare_eq_iff_eq]
      by_cases h : x = k
      · subst h
        have : x ≠ k' := by
          intro e; subst e
          have hself : compare x x = .eq := Std.ReflCmp.compare_self
          rw [hself] at hgt
          exact absurd hgt (by decide)
        simp [this]
      · simp [h]

theorem findValue?_eraseEntry [DecidableEq κ] [Std.LawfulEqOrd κ] (k x : κ) :
    ∀ {l : List (κ × α)}, findValue? x (eraseEntry k l)
      = if x = k then none else findValue? x l
  | [] => by simp [eraseEntry, findValue?]
  | e :: r => by
    have ih := findValue?_eraseEntry k x (l := r)
    unfold eraseEntry at ih ⊢
    by_cases h : compare k e.1 = .eq
    · have hk : k = e.1 := Std.LawfulEqCmp.eq_of_compare h
      simp only [List.filter_cons, h, bne_self_eq_false, Bool.false_eq_true, if_false]
      rw [ih, findValue?_cons]
      simp only [Std.LawfulEqCmp.compare_eq_iff_eq, ← hk]
      by_cases hx : x = k <;> simp [hx]
    · simp only [List.filter_cons, bne_iff_ne, ne_eq, h, not_false_eq_true, if_true]
      rw [findValue?_cons, ih, findValue?_cons]
      simp only [Std.LawfulEqCmp.compare_eq_iff_eq]
      by_cases hx : x = k
      · subst hx
        have : ¬ x = e.1 := fun e' => h (by rw [← e']; exact Std.ReflCmp.compare_self)
        simp [this]
      · simp [hx]

end Entries

/-! ## Maps -/

/-- A finite map, kept as the list of its pairs with strictly growing keys. -/
structure KeyMap (κ : Type u) (α : Type v) [Ord κ] where
  /-- The pairs of the map, by growing key. -/
  entries : List (κ × α) := []
  /-- No two pairs share a key, and the keys grow. -/
  sorted : SortedKeys entries := by exact List.Pairwise.nil

namespace KeyMap

variable {κ : Type u} {α : Type v} [Ord κ]

@[ext] theorem ext {m n : KeyMap κ α} (h : m.entries = n.entries) : m = n := by
  cases m; cases n; cases h; rfl

instance [DecidableEq κ] [DecidableEq α] : DecidableEq (KeyMap κ α) := fun m n =>
  decidable_of_iff (m.entries = n.entries) ⟨KeyMap.ext, fun h => h ▸ rfl⟩

/-- The map without entries. -/
def empty : KeyMap κ α := {}

instance : EmptyCollection (KeyMap κ α) := ⟨empty⟩
instance : Inhabited (KeyMap κ α) := ⟨empty⟩

instance [BEq κ] [BEq α] : BEq (KeyMap κ α) := ⟨fun m n => m.entries == n.entries⟩

/-- The value bound to a key. -/
def get? (m : KeyMap κ α) (k : κ) : Option α := findValue? k m.entries

/-- Whether a key is bound. -/
def contains (m : KeyMap κ α) (k : κ) : Bool := (m.get? k).isSome

/-- The bound keys, growing. -/
def keys (m : KeyMap κ α) : List κ := m.entries.map (·.1)

/-- The values, by growing key. -/
def values (m : KeyMap κ α) : List α := m.entries.map (·.2)

/-- The number of bound keys. -/
def size (m : KeyMap κ α) : Nat := m.entries.length

/-- Whether no key is bound. -/
def isEmpty (m : KeyMap κ α) : Bool := m.entries.isEmpty

/-- Bind a key, replacing what it was bound to. -/
def insert [Std.TransOrd κ] [Std.LawfulEqOrd κ] (m : KeyMap κ α) (k : κ) (v : α) : KeyMap κ α :=
  ⟨insertEntry k v m.entries, pairwise_insertEntry k v m.sorted⟩

/-- Unbind a key. -/
def erase (m : KeyMap κ α) (k : κ) : KeyMap κ α :=
  ⟨eraseEntry k m.entries, pairwise_eraseEntry k m.sorted⟩

/-- The map of a list of pairs; of two pairs with one key the later counts. -/
def ofList [Std.TransOrd κ] [Std.LawfulEqOrd κ] (l : List (κ × α)) : KeyMap κ α :=
  l.foldl (fun (m : KeyMap κ α) (e : κ × α) => m.insert e.1 e.2) ∅

theorem get?_empty (k : κ) : (∅ : KeyMap κ α).get? k = none := rfl

theorem get?_insert [DecidableEq κ] [Std.TransOrd κ] [Std.LawfulEqOrd κ] (m : KeyMap κ α) (k x : κ)
    (v : α) :
    (m.insert k v).get? x = if x = k then some v else m.get? x :=
  findValue?_insertEntry k v x

theorem get?_erase [DecidableEq κ] [Std.LawfulEqOrd κ] (m : KeyMap κ α) (k x : κ) :
    (m.erase k).get? x = if x = k then none else m.get? x :=
  findValue?_eraseEntry k x

end KeyMap

end Healing
