/-
  What a memory remembers.

  Only the front of the cells is purged.  As long as the cells stand in the order of their stamps
  that is enough: what is left are exactly the live cells.

  1. **Life** - a cell that is alive at some time was alive before; `Memory.live` lists the live
     cells.
  2. **Order** - `Memory.Ordered`, which lasts while time passes.
  3. **Purging** - `live_purge`: nothing alive is lost; `cells_purge`: in an ordered memory nothing
     else stays.
  4. **Asking** - `has_iff_live`: an ordered memory has what a live cell holds.
  5. **Adding** - `cells_add`: an item that is not remembered gets a cell of its own, behind the
     others.
-/
import Healing.Memory

namespace Healing.Memory

universe u

variable {α : Type u}

/-! ## Life -/

/-- A cell is alive iff it was stamped less than the duration ago. -/
theorem Cell.live_iff (c : Cell α) (duration now : Nat) :
    c.live duration now = true ↔ 0 < duration ∧ now < c.stamp + duration := by
  unfold Cell.live
  rw [decide_eq_true_iff]
  omega

/-- A new cell is alive. -/
theorem Cell.live_new {duration : Nat} (hpos : 0 < duration) (a : α) (now : Nat) :
    (⟨a, now⟩ : Cell α).live duration now = true := by
  rw [Cell.live_iff]
  exact ⟨hpos, Nat.lt_add_of_pos_right hpos⟩

/-- A cell that is alive was alive before. -/
theorem Cell.live_of_live_later {c : Cell α} {duration now later : Nat} (hle : now ≤ later)
    (h : c.live duration later = true) : c.live duration now = true := by
  rw [Cell.live_iff] at h ⊢
  omega

/-- A cell that has expired stays so. -/
theorem Cell.expired_of_expired_before {c : Cell α} {duration now later : Nat} (hle : now ≤ later)
    (h : c.live duration now = false) : c.live duration later = false := by
  rw [← Bool.not_eq_true] at h ⊢
  exact fun hlater => h (Cell.live_of_live_later hle hlater)

/-- The cells that are alive. -/
def live (m : Memory α) (now : Nat) : List (Cell α) := m.cells.filter (·.live m.duration now)

/-- Nothing is alive in a memory without a duration. -/
theorem live_eq_nil_of_zero {m : Memory α} (hzero : m.duration = 0) (now : Nat) :
    m.live now = [] := by
  unfold live
  rw [List.filter_eq_nil_iff]
  intro c _
  rw [Cell.live_iff]
  omega

/-! ## Order -/

/-- The cells stand in the order of their stamps, and none is stamped with a time to come. -/
structure Ordered (m : Memory α) (now : Nat) : Prop where
  sorted : m.cells.Pairwise fun c d => c.stamp ≤ d.stamp
  past : ∀ c ∈ m.cells, c.stamp ≤ now

/-- Time does not disturb the order. -/
theorem Ordered.later {m : Memory α} {now later : Nat} (h : m.Ordered now) (hle : now ≤ later) :
    m.Ordered later :=
  ⟨h.sorted, fun c hc => Nat.le_trans (h.past c hc) hle⟩

/-- A purge does not disturb the order. -/
theorem Ordered.purge {m : Memory α} {now : Nat} (h : m.Ordered now) (time : Nat) :
    (m.purge time).Ordered now := by
  have hsub : (m.purge time).cells.Sublist m.cells := List.dropWhile_sublist _
  exact ⟨h.sorted.sublist hsub, fun c hc => h.past c (hsub.subset hc)⟩

/-- The memory is still ordered after it has been asked. -/
theorem Ordered.asked {m : Memory α} {now : Nat} (h : m.Ordered now) (time : Nat) :
    (m.asked time).Ordered now := by
  unfold Memory.asked
  split
  · exact h
  · exact h.purge time

/-! ## Purging -/

/-- What a purge takes away has expired. -/
theorem exists_cells_eq_append_purge (m : Memory α) (now : Nat) :
    ∃ gone, m.cells = gone ++ (m.purge now).cells ∧
      ∀ c ∈ gone, c.live m.duration now = false := by
  refine ⟨m.cells.takeWhile fun c => !c.live m.duration now, ?_, fun c hc => ?_⟩
  · exact List.takeWhile_append_dropWhile.symm
  · have := List.all_eq_true.mp List.all_takeWhile c hc
    simpa using this

/-- **Nothing alive is lost** when a memory is purged. -/
theorem live_purge (m : Memory α) (now : Nat) : (m.purge now).live now = m.live now := by
  obtain ⟨gone, hcells, hgone⟩ := exists_cells_eq_append_purge m now
  have hnone : gone.filter (·.live m.duration now) = [] := by
    rw [List.filter_eq_nil_iff]
    intro c hc
    rw [hgone c hc]
    exact Bool.false_ne_true
  show (m.purge now).cells.filter _ = m.cells.filter _
  rw [hcells, List.filter_append, hnone]
  rfl

/-- Asking leaves the duration alone. -/
theorem duration_asked (m : Memory α) (now : Nat) : (m.asked now).duration = m.duration := by
  unfold asked
  split <;> rfl

/-- Asking takes nothing alive away either. -/
theorem live_asked (m : Memory α) (now : Nat) : (m.asked now).live now = m.live now := by
  unfold asked
  split
  · rfl
  · exact live_purge m now

/-- In a list by growing stamps the expired cells are in front. -/
theorem dropWhile_expired {duration now : Nat} :
    ∀ {l : List (Cell α)}, l.Pairwise (fun c d => c.stamp ≤ d.stamp) →
      l.dropWhile (fun c => !c.live duration now) = l.filter (·.live duration now)
  | [], _ => rfl
  | c :: r, h => by
    obtain ⟨hhead, htail⟩ := List.pairwise_cons.mp h
    by_cases hc : c.live duration now = true
    · -- everything behind a live cell is alive too
      have hall : ∀ d ∈ c :: r, d.live duration now = true := by
        intro d hd
        rcases List.mem_cons.mp hd with rfl | hd
        · exact hc
        · have hstamp := hhead d hd
          rw [Cell.live_iff] at hc ⊢
          omega
      rw [List.dropWhile_cons_of_neg (by simp [hc]), List.filter_eq_self.mpr hall]
    · rw [List.dropWhile_cons_of_pos (by simp [hc]), List.filter_cons_of_neg hc]
      exact dropWhile_expired htail

/-- **Purging the front is enough**: in an ordered memory exactly the live cells stay. -/
theorem cells_purge {m : Memory α} {now : Nat} (h : m.Ordered now) :
    (m.purge now).cells = m.live now :=
  dropWhile_expired h.sorted

/-- A second purge at a later time makes the first one superfluous. -/
theorem purge_purge (m : Memory α) {now later : Nat} (hle : now ≤ later) :
    (m.purge now).purge later = m.purge later := by
  obtain ⟨gone, hcells, hgone⟩ := exists_cells_eq_append_purge m now
  have hall : ∀ c ∈ gone, (!c.live m.duration later) = true := by
    intro c hc
    rw [Cell.expired_of_expired_before hle (hgone c hc)]
    rfl
  have hdrop : (m.purge now).cells.dropWhile (fun c => !c.live m.duration later)
      = m.cells.dropWhile (fun c => !c.live m.duration later) := by
    rw [hcells, List.dropWhile_append_of_pos hall]
  show ({ m with cells := _ } : Memory α) = { m with cells := _ }
  rw [← hdrop]
  rfl

/-! ## Asking -/

section Asking

variable [BEq α]

/-- A memory has what one of the cells that are left after a purge holds. -/
theorem has_iff (m : Memory α) (now : Nat) (a : α) :
    m.has now a = true ↔ 0 < m.duration ∧ ∃ c ∈ (m.purge now).cells, (c.item == a) = true := by
  unfold has
  rw [Bool.and_eq_true_iff, decide_eq_true_iff, List.any_eq_true, Nat.pos_iff_ne_zero]

/-- **An ordered memory has what a live cell holds.** -/
theorem has_iff_live {m : Memory α} {now : Nat} (h : m.Ordered now) (a : α) :
    m.has now a = true ↔ ∃ c ∈ m.live now, (c.item == a) = true := by
  rw [has_iff, cells_purge h]
  refine ⟨fun hc => hc.2, fun ⟨c, hc, ha⟩ => ⟨?_, c, hc, ha⟩⟩
  exact ((Cell.live_iff c _ _).mp (List.mem_filter.mp hc).2).1

/-- A memory without a duration has nothing. -/
theorem has_of_zero {m : Memory α} (hzero : m.duration = 0) (now : Nat) (a : α) :
    m.has now a = false := by
  unfold has
  rw [hzero]
  rfl

/-- Asking once does not change the answer. -/
theorem has_asked (m : Memory α) (now : Nat) (a : α) :
    (m.asked now).has now a = m.has now a := by
  unfold asked
  split
  · rfl
  · rw [Bool.eq_iff_iff, has_iff, has_iff, purge_purge m (Nat.le_refl now)]
    rfl

/-- Equal items are remembered together. -/
theorem has_congr [EquivBEq α] (m : Memory α) (now : Nat) {a b : α} (h : (a == b) = true) :
    m.has now a = m.has now b := by
  rw [Bool.eq_iff_iff, has_iff, has_iff]
  refine ⟨fun ⟨hd, c, hc, ha⟩ => ⟨hd, c, hc, BEq.trans ha h⟩, fun ⟨hd, c, hc, hb⟩ => ?_⟩
  exact ⟨hd, c, hc, BEq.trans hb (BEq.symm h)⟩

end Asking

/-! ## Adding -/

section Adding

variable [BEq α]

/-- No cell is taken out where none holds an equal item. -/
theorem takeCell?_eq_none {a : α} :
    ∀ {l : List (Cell α)}, (∀ c ∈ l, (c.item == a) = false) → takeCell? a l = none
  | [], _ => rfl
  | c :: r, h => by
    have hc : (c.item == a) = false := h c (List.mem_cons_self ..)
    have hr := takeCell?_eq_none fun d hd => h d (List.mem_cons_of_mem c hd)
    simp [takeCell?, hc, hr]

/-- Adding leaves the duration alone. -/
theorem duration_add (m : Memory α) (now : Nat) (a : α) :
    (m.add now a).duration = m.duration := by
  unfold add
  dsimp only
  split <;> rfl

/-- An item that is not remembered gets a cell of its own behind the others, at once or later. -/
theorem cells_add {m : Memory α} {now later : Nat} {a : α} (hpos : 0 < m.duration)
    (h : m.has now a = false) (hle : now ≤ later) :
    m.add later a = { m with cells := (m.purge later).cells ++ [⟨a, later⟩] } := by
  have hother : ∀ c ∈ (m.purge later).cells, (c.item == a) = false := by
    intro c hc
    rw [← purge_purge m hle] at hc
    rw [← Bool.not_eq_true] at h ⊢
    intro ha
    exact h ((has_iff m now a).mpr ⟨hpos, c, List.dropWhile_subset _ hc, ha⟩)
  simp only [add, takeCell?_eq_none hother]
  rfl

/-- A memory without a duration keeps the last item only. -/
theorem cells_add_of_zero {m : Memory α} (hzero : m.duration = 0) (now : Nat) (a : α) :
    m.add now a = { m with cells := [⟨a, now⟩] } := by
  have hall : ∀ c ∈ m.cells, (!c.live m.duration now) = true := by
    intro c _
    have hc : c.live m.duration now = false := by
      rw [← Bool.not_eq_true, Cell.live_iff]
      omega
    rw [hc]
    rfl
  have hpurge : (m.purge now).cells = [] := by
    have hdrop : (m.cells ++ []).dropWhile (fun c : Cell α => !c.live m.duration now) = [] :=
      List.dropWhile_append_of_pos hall
    rwa [List.append_nil] at hdrop
  simp only [add, hpurge, takeCell?]
  rfl

/-- After an item has been added the memory has it, and what it had before. -/
theorem has_add {m : Memory α} {now : Nat} {a : α} (hpos : 0 < m.duration)
    (h : m.has now a = false) (b : α) : (m.add now a).has now b = (m.has now b || a == b) := by
  have hlive := Cell.live_new hpos a now
  -- the purge stops at the new cell at the latest
  have hpurge : ((m.add now a).purge now).cells = (m.purge now).cells ++ [⟨a, now⟩] := by
    rw [cells_add hpos h (Nat.le_refl now)]
    show ((m.purge now).cells ++ [(⟨a, now⟩ : Cell α)]).dropWhile
      (fun c => !c.live m.duration now) = _
    have hfix := congrArg Memory.cells (purge_purge m (Nat.le_refl now))
    rw [List.dropWhile_append]
    split
    · rename_i hempty
      have hnil : (m.purge now).cells = [] := by
        rw [← hfix]
        exact List.isEmpty_iff.mp hempty
      simp [hnil, hlive]
    · exact congrArg (· ++ [_]) hfix
  rw [Bool.eq_iff_iff, Bool.or_eq_true_iff, has_iff, has_iff, hpurge, duration_add]
  simp [hpos, or_and_right, exists_or]

/-- What is added is alive, and so is what else is alive by then. -/
theorem live_add {m : Memory α} {now later : Nat} {a : α} (hpos : 0 < m.duration)
    (h : m.has now a = false) (hle : now ≤ later) :
    (m.add later a).live later = m.live later ++ [⟨a, later⟩] := by
  have hlive := Cell.live_new hpos a later
  rw [cells_add hpos h hle]
  show ((m.purge later).cells ++ [(⟨a, later⟩ : Cell α)]).filter (·.live m.duration later) = _
  rw [List.filter_append, List.filter_cons_of_pos hlive]
  exact congrArg (· ++ _) (live_purge m later)

/-- Adding an item does not disturb the order. -/
theorem Ordered.add {m : Memory α} {now later : Nat} {a : α} (hm : m.Ordered now)
    (hhas : m.has now a = false) (hle : now ≤ later) : (m.add later a).Ordered later := by
  rcases Nat.eq_zero_or_pos m.duration with hzero | hpos
  · rw [cells_add_of_zero hzero]
    exact ⟨List.pairwise_singleton _ _, by simp⟩
  · have hlater := (hm.later hle).purge later
    rw [cells_add hpos hhas hle]
    refine ⟨List.pairwise_append.mpr ⟨hlater.sorted, List.pairwise_singleton _ _, ?_⟩, ?_⟩
    · intro c hc d hd
      rw [List.mem_singleton.mp hd]
      exact hlater.past c hc
    · intro c hc
      rcases List.mem_append.mp hc with hc | hc
      · exact hlater.past c hc
      · exact Nat.le_of_eq (congrArg Cell.stamp (List.mem_singleton.mp hc))

end Adding

end Healing.Memory
