/-
  Maps are what they hold.

  1. **Lookup** - `get?_eq_some_iff`: what a key is bound to stands among the entries.
  2. **Values** - `mem_values_iff`: the values are what keys are bound to; `filter_values` picks one
     out.
  3. **Counting** - how often a value occurs after a new key has been bound
     (`count_values_insert`) or a key has been unbound (`count_values_erase`).
  4. **Order** - the greatest key comes last (`insertEntry_last`).
  5. **Extensionality** - `ext_get?`: maps that bind the same keys to the same values are equal; so
     a key may be bound again (`insert_of_get?`, `insert_insert`), and bindings of different keys
     may be swapped (`insert_comm`).
-/
import Healing.KeyMap

namespace Healing

universe u v

variable {κ : Type u} {α : Type v} [Ord κ]

/-! ## Lookup -/

/-- A key in front of all others is not bound. -/
theorem findValue?_eq_none_of_lt {k : κ} {l : List (κ × α)} (h : ∀ e ∈ l, compare k e.1 = .lt) :
    findValue? k l = none := by
  unfold findValue?
  rw [Option.map_eq_none_iff, List.find?_eq_none]
  intro e he
  rw [h e he]
  decide

/-- Something is found iff a pair has the key. -/
theorem isSome_findValue?_iff [Std.LawfulEqOrd κ] {k : κ} {l : List (κ × α)} :
    (findValue? k l).isSome ↔ ∃ v, (k, v) ∈ l := by
  unfold findValue?
  rw [Option.isSome_map, List.find?_isSome]
  constructor
  · rintro ⟨e, he, hkey⟩
    obtain rfl : k = e.1 := Std.LawfulEqCmp.eq_of_compare (beq_iff_eq.mp hkey)
    exact ⟨e.2, he⟩
  · rintro ⟨v, hv⟩
    exact ⟨(k, v), hv, beq_iff_eq.mpr Std.ReflCmp.compare_self⟩

/-- What is found stands in the list. -/
theorem mem_of_findValue? [Std.LawfulEqOrd κ] {k : κ} {v : α} {l : List (κ × α)}
    (h : findValue? k l = some v) : (k, v) ∈ l := by
  obtain ⟨e, he, rfl⟩ := Option.map_eq_some_iff.mp h
  have hkey := List.find?_some he
  obtain rfl : k = e.1 := Std.LawfulEqCmp.eq_of_compare (beq_iff_eq.mp hkey)
  exact List.mem_of_find?_eq_some he

/-- A function of the values is applied to what is found. -/
theorem findValue?_map {β : Type v} (f : α → β) (k : κ) (l : List (κ × α)) :
    findValue? k (l.map fun e => (e.1, f e.2)) = (findValue? k l).map f := by
  induction l with
  | nil => rfl
  | cons e r ih =>
    rw [List.map_cons, findValue?_cons, findValue?_cons, ih]
    split <;> rfl

section Lookup

variable [DecidableEq κ] [Std.LawfulEqOrd κ]

/-- Of the pairs in a sorted list at most one has a given key. -/
theorem filter_key_eq (k : κ) :
    ∀ {l : List (κ × α)}, SortedKeys l →
      l.filter (fun e => e.1 = k) = ((findValue? k l).map (k, ·)).toList
  | [], _ => rfl
  | (k', v) :: r, h => by
    obtain ⟨hhead, htail⟩ := List.pairwise_cons.mp h
    rw [findValue?_cons]
    by_cases heq : compare k k' = .eq
    · have hk : k = k' := Std.LawfulEqCmp.eq_of_compare heq
      subst hk
      have hnone : r.filter (fun e => e.1 = k) = [] := by
        rw [filter_key_eq k htail, findValue?_eq_none_of_lt hhead]
        rfl
      rw [if_pos heq, List.filter_cons_of_pos (by simp), hnone]
      rfl
    · have hne : ¬ k' = k := fun h => heq (h ▸ Std.ReflCmp.compare_self)
      rw [if_neg heq, List.filter_cons_of_neg (by simp [hne]), filter_key_eq k htail]

/-- In a sorted list of pairs every pair is found. -/
theorem findValue?_eq_some_iff {k : κ} {v : α} {l : List (κ × α)} (h : SortedKeys l) :
    findValue? k l = some v ↔ (k, v) ∈ l := by
  have hfilter : (k, v) ∈ l ↔ (k, v) ∈ l.filter (fun e => e.1 = k) := by
    rw [List.mem_filter, decide_eq_true rfl]
    simp
  rw [hfilter, filter_key_eq k h, Option.mem_toList, Option.map_eq_some_iff]
  constructor
  · intro hv
    exact ⟨v, hv, rfl⟩
  · rintro ⟨w, hw, heq⟩
    cases heq
    exact hw

namespace KeyMap

/-- What a key is bound to stands among the entries. -/
theorem get?_eq_some_iff {m : KeyMap κ α} {k : κ} {v : α} :
    m.get? k = some v ↔ (k, v) ∈ m.entries :=
  findValue?_eq_some_iff m.sorted

/-! ## Values -/

/-- The values are what keys are bound to. -/
theorem mem_values_iff {m : KeyMap κ α} {v : α} : v ∈ m.values ↔ ∃ k, m.get? k = some v := by
  unfold values
  rw [List.mem_map]
  constructor
  · rintro ⟨⟨k, w⟩, hmem, rfl⟩
    exact ⟨k, get?_eq_some_iff.mpr hmem⟩
  · rintro ⟨k, hk⟩
    exact ⟨(k, v), get?_eq_some_iff.mp hk, rfl⟩

/-- If every value tells its key, then of the values at most one has a given key. -/
theorem filter_values {m : KeyMap κ α} (key : α → κ)
    (hkey : ∀ k v, m.get? k = some v → key v = k) (k : κ) :
    m.values.filter (fun v => key v = k) = (m.get? k).toList := by
  have hsame : ∀ e ∈ m.entries,
      ((fun v => decide (key v = k)) ∘ Prod.snd) e = decide (e.1 = k) := by
    rintro ⟨k', v⟩ he
    have := hkey k' v (get?_eq_some_iff.mpr he)
    simp only [Function.comp_apply, this]
  unfold values
  rw [List.filter_map, List.filter_congr hsame, filter_key_eq k m.sorted]
  show _ = (findValue? k m.entries).toList
  cases findValue? k m.entries with
  | none => rfl
  | some v => rfl

end KeyMap

end Lookup

/-! ## Counting -/

/-- A pair with a new key is put somewhere among the others. -/
theorem insertEntry_perm {k : κ} (v : α) :
    ∀ {l : List (κ × α)}, findValue? k l = none → (insertEntry k v l).Perm ((k, v) :: l)
  | [], _ => List.Perm.refl _
  | (k', v') :: r, h => by
    rw [findValue?_cons] at h
    unfold insertEntry
    split
    · exact List.Perm.refl _
    · rename_i heq
      rw [if_pos heq] at h
      cases h
    · rename_i hgt
      have hne : ¬ compare k k' = .eq := by
        rw [hgt]
        decide
      rw [if_neg hne] at h
      exact ((insertEntry_perm v h).cons (k', v')).trans (List.Perm.swap ..)

/-- A list is what is found under a key, and what is left without that key. -/
theorem perm_eraseEntry [DecidableEq κ] [Std.LawfulEqOrd κ] (k : κ) {l : List (κ × α)}
    (h : SortedKeys l) : (((findValue? k l).map (k, ·)).toList ++ eraseEntry k l).Perm l := by
  have hkey : ∀ e : κ × α, (!decide (e.1 = k)) = (compare k e.1 != .eq) := by
    intro e
    have hiff : compare k e.1 = .eq ↔ e.1 = k := by
      rw [Std.LawfulEqCmp.compare_eq_iff_eq]
      exact eq_comm
    rw [Bool.eq_iff_iff, Bool.not_eq_true', decide_eq_false_iff_not, bne_iff_ne]
    exact not_congr hiff.symm
  have hparts := List.filter_append_perm (fun e : κ × α => decide (e.1 = k)) l
  rw [filter_key_eq k h, List.filter_congr fun e _ => hkey e] at hparts
  exact hparts

namespace KeyMap

/-- Binding a new key adds one value. -/
theorem count_values_insert [Std.TransOrd κ] [Std.LawfulEqOrd κ] [DecidableEq α] {m : KeyMap κ α}
    {k : κ} (fresh : m.get? k = none) (v w : α) :
    (m.insert k v).values.count w = m.values.count w + [v].count w := by
  have hperm : (m.insert k v).values.Perm (v :: m.values) :=
    (insertEntry_perm v fresh).map Prod.snd
  rw [hperm.count_eq, ← List.singleton_append, List.count_append, Nat.add_comm]

/-- Unbinding a key takes away what it was bound to. -/
theorem count_values_erase [DecidableEq κ] [Std.LawfulEqOrd κ] [DecidableEq α] (m : KeyMap κ α)
    (k : κ) (w : α) :
    m.values.count w = (m.erase k).values.count w + (m.get? k).toList.count w := by
  have hperm : ((m.get? k).toList ++ (m.erase k).values).Perm m.values := by
    have hvalues := (perm_eraseEntry k m.sorted).map Prod.snd
    rw [List.map_append, ← Option.toList_map, Option.map_map] at hvalues
    have hsnd : (Prod.snd ∘ fun v : α => (k, v)) = id := rfl
    rw [hsnd, Option.map_id] at hvalues
    exact hvalues
  rw [← hperm.count_eq, List.count_append, Nat.add_comm]

end KeyMap

/-! ## Order -/

/-- Whether pairs are sorted is a matter of their keys. -/
theorem SortedKeys.of_keys {β : Type v} {l : List (κ × α)} {m : List (κ × β)} (h : SortedKeys l)
    (hkeys : m.map (·.1) = l.map (·.1)) : SortedKeys m := by
  have hl : (l.map (·.1)).Pairwise fun a b => compare a b = .lt := List.pairwise_map.mpr h
  rw [← hkeys] at hl
  exact List.pairwise_map.mp hl

/-- A pair whose key is the greatest is put behind all others. -/
theorem insertEntry_last [Std.OrientedOrd κ] {e : κ × α} :
    ∀ {l : List (κ × α)}, SortedKeys (l ++ [e]) → insertEntry e.1 e.2 l = l ++ [e]
  | [], _ => rfl
  | d :: r, h => by
    obtain ⟨hd, hr⟩ := List.pairwise_cons.mp h
    have hgt : compare e.1 d.1 = .gt :=
      Std.OrientedCmp.gt_of_lt (hd e (List.mem_append_right _ (List.mem_singleton_self e)))
    rw [insertEntry, hgt, List.cons_append]
    exact congrArg (d :: ·) (insertEntry_last hr)

/-- Sorted pairs are put one behind the other. -/
theorem KeyMap.entries_foldl_insert [Std.TransOrd κ] [Std.LawfulEqOrd κ] (l : List (κ × α)) :
    ∀ {m : KeyMap κ α}, SortedKeys (m.entries ++ l) →
      (l.foldl (fun (m : KeyMap κ α) (e : κ × α) => m.insert e.1 e.2) m).entries
        = m.entries ++ l := by
  induction l with
  | nil => exact fun _ => (List.append_nil _).symm
  | cons e r ih =>
    intro m h
    rw [List.append_cons] at h ⊢
    have hlast : (m.insert e.1 e.2).entries = m.entries ++ [e] :=
      insertEntry_last (List.pairwise_append.mp h).1
    rw [← hlast] at h ⊢
    exact ih h

/-- A map is the map of its pairs. -/
theorem KeyMap.ofList_entries [Std.TransOrd κ] [Std.LawfulEqOrd κ] (m : KeyMap κ α) :
    ofList m.entries = m :=
  KeyMap.ext (entries_foldl_insert m.entries m.sorted)

/-- A key that is not bound need not be taken out. -/
theorem eraseEntry_of_first {k : κ} {v : α} [Std.OrientedOrd κ] {before r : List (κ × α)}
    (h : SortedKeys (before ++ (k, v) :: r)) : eraseEntry k before = before := by
  unfold eraseEntry
  rw [List.filter_eq_self]
  intro e he
  have hlt : compare e.1 k = .lt := (List.pairwise_append.mp h).2.2 e he (k, v) List.mem_cons_self
  rw [Std.OrientedCmp.gt_of_lt hlt]
  rfl

/-! ## Extensionality -/

/-- No pair is repeated in a sorted list. -/
theorem SortedKeys.nodup [Std.TransOrd κ] {l : List (κ × α)} (h : SortedKeys l) : l.Nodup := by
  refine h.imp fun {a b} hlt heq => ?_
  subst heq
  exact Std.OrientedCmp.not_lt_of_lt hlt hlt

/-- No key is listed twice. -/
theorem KeyMap.nodup_keys [Std.TransOrd κ] (m : KeyMap κ α) : m.keys.Nodup := by
  unfold keys List.Nodup
  rw [List.pairwise_map]
  refine m.sorted.imp fun {a b} hlt heq => ?_
  rw [heq] at hlt
  exact Std.OrientedCmp.not_lt_of_lt hlt hlt

variable [DecidableEq κ] [Std.TransOrd κ] [Std.LawfulEqOrd κ]

/-- Sorted lists of pairs in which the same is found are equal. -/
theorem eq_of_findValue?_eq {l m : List (κ × α)} (hl : SortedKeys l) (hm : SortedKeys m)
    (h : ∀ k, findValue? k l = findValue? k m) : l = m := by
  have hmem : ∀ e, e ∈ l ↔ e ∈ m := by
    rintro ⟨k, v⟩
    rw [← findValue?_eq_some_iff hl, h k, findValue?_eq_some_iff hm]
  have hperm : l.Perm m := (List.perm_ext_iff_of_nodup hl.nodup hm.nodup).mpr hmem
  -- no two keys are in front of each other
  refine hperm.eq_of_pairwise (fun a b _ _ hab hba => ?_) hl hm
  have hnot : compare b.1 a.1 ≠ .lt := Std.OrientedCmp.not_lt_of_lt hab
  exact absurd hba hnot

namespace KeyMap

/-- **A map is what it binds keys to.** -/
theorem ext_get? {m n : KeyMap κ α} (h : ∀ k, m.get? k = n.get? k) : m = n :=
  KeyMap.ext (eq_of_findValue?_eq m.sorted n.sorted h)

/-- Binding a key again to what it is bound to changes nothing. -/
theorem insert_of_get? {m : KeyMap κ α} {k : κ} {v : α} (h : m.get? k = some v) :
    m.insert k v = m := by
  refine ext_get? fun x => ?_
  rw [get?_insert]
  split
  · rename_i hx
    rw [hx, h]
  · rfl

/-- Only the last binding of a key counts. -/
theorem insert_insert (m : KeyMap κ α) (k : κ) (v w : α) :
    (m.insert k v).insert k w = m.insert k w := by
  refine ext_get? fun x => ?_
  simp only [get?_insert]
  split <;> rfl

/-- Different keys may be bound in any order. -/
theorem insert_comm (m : KeyMap κ α) {k k' : κ} (hne : k ≠ k') (v v' : α) :
    (m.insert k v).insert k' v' = (m.insert k' v').insert k v := by
  refine ext_get? fun x => ?_
  simp only [get?_insert]
  by_cases hx : x = k
  · subst hx
    rw [if_neg hne, if_pos rfl, if_pos rfl]
  · rw [if_neg hx, if_neg hx]

end KeyMap

end Healing
