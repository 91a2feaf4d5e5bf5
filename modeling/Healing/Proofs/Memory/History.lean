/-
  A memory knows its history.

  A memory forgets nothing but what has expired, purges its front only, and moves a cell to the back
  when an equal item is added again.  Whatever it is asked, it answers as if it had kept a record of
  all that was ever added.

  1. **Different items** - `classes` counts the items of a list, equal ones once; any choice of
     representatives has as many (`length_eq_classes`).
  2. **Adding** - `add_cases`: an item that is remembered goes to the back with a new stamp, any
     other gets a cell of its own.
  3. **Logs** - `Log`, a memory with the record of what was added; `Log.step` and `Log.run`.
  4. **Steps** - `Log.Sound`: the cells stand in order, hold different items, and hold what was
     added lately and nothing else.  Each step keeps it (`Log.Sound.step`).
  5. **Answers** - `Log.refinement`: what a memory answers can be read off the record alone;
     `Log.Zeros` shows it for two items that are equal but not the same.
-/
import Healing.Proofs.Equality
import Healing.Proofs.Memory

namespace Healing.Memory

universe u

variable {α : Type u} [BEq α]

/-! ## Different items -/

section Classes

/-- Whether no two items of a list are equal. -/
def Different (l : List α) : Prop := l.Pairwise fun a b => (a == b) = false

/-- How many different items there are in a list. -/
def classes (l : List α) : Nat := l.eraseDups.length

/-- What is left when equal items are dropped was there before. -/
theorem mem_of_mem_eraseDups {a : α} : ∀ {l : List α}, a ∈ l.eraseDups → a ∈ l
  | [], h => h
  | b :: r, h => by
    rw [List.eraseDups_cons] at h
    rcases List.mem_cons.mp h with rfl | h
    · exact List.mem_cons_self ..
    · have hfilter : a ∈ r.filter fun c => !c == b := mem_of_mem_eraseDups h
      exact List.mem_cons_of_mem b (List.mem_filter.mp hfilter).1
termination_by l => l.length
decreasing_by exact Nat.lt_succ_of_le (List.length_filter_le _ _)

variable [EquivBEq α]

/-- What is left when equal items are dropped are different items. -/
theorem different_eraseDups : ∀ l : List α, Different l.eraseDups
  | [] => List.Pairwise.nil
  | b :: r => by
    rw [List.eraseDups_cons]
    refine List.pairwise_cons.mpr ⟨fun a ha => ?_, different_eraseDups _⟩
    have hne := (List.mem_filter.mp (mem_of_mem_eraseDups ha)).2
    rw [BEq.comm]
    simpa using hne
termination_by l => l.length
decreasing_by exact Nat.lt_succ_of_le (List.length_filter_le _ _)

/-- Every item has an equal one that is left when equal items are dropped. -/
theorem exists_mem_eraseDups {a : α} : ∀ {l : List α}, a ∈ l → ∃ b ∈ l.eraseDups, (a == b) = true
  | b :: r, h => by
    rw [List.eraseDups_cons]
    by_cases hab : (a == b) = true
    · exact ⟨b, List.mem_cons_self .., hab⟩
    · rcases List.mem_cons.mp h with rfl | hr
      · exact absurd BEq.rfl hab
      · have hfilter : a ∈ r.filter fun c => !c == b := List.mem_filter.mpr ⟨hr, by simpa using hab⟩
        obtain ⟨c, hc, hac⟩ := exists_mem_eraseDups hfilter
        exact ⟨c, List.mem_cons_of_mem b hc, hac⟩
termination_by l => l.length
decreasing_by exact Nat.lt_succ_of_le (List.length_filter_le _ _)

/-- Of different items there are no more than of those that they are equal to. -/
theorem Different.length_le :
    ∀ {l k : List α}, Different l → (∀ a ∈ l, ∃ b ∈ k, (a == b) = true) → l.length ≤ k.length
  | [], _, _, _ => Nat.zero_le _
  | a :: r, k, hl, hk => by
    obtain ⟨hhead, htail⟩ := List.pairwise_cons.mp hl
    obtain ⟨b, hb, hab⟩ := hk a (List.mem_cons_self ..)
    obtain ⟨before, after, rfl⟩ := List.append_of_mem hb
    -- the counterpart of the head is none of the others
    have hrest : ∀ c ∈ r, ∃ d ∈ before ++ after, (c == d) = true := by
      intro c hc
      obtain ⟨d, hd, hcd⟩ := hk c (List.mem_cons_of_mem a hc)
      rcases List.mem_append.mp hd with hd | hd
      · exact ⟨d, List.mem_append_left _ hd, hcd⟩
      · rcases List.mem_cons.mp hd with rfl | hd
        · have hac : (a == c) = true := BEq.trans hab (BEq.symm hcd)
          rw [hhead c hc] at hac
          cases hac
        · exact ⟨d, List.mem_append_right _ hd, hcd⟩
    have hle := Different.length_le htail hrest
    rw [List.length_append] at hle
    rw [List.length_append, List.length_cons, List.length_cons]
    omega

/-- **Representatives.**  Different items, one for each item of a list and each equal to one of it,
    are as many as there are different items in the list. -/
theorem length_eq_classes {l k : List α} (hl : Different l)
    (known : ∀ a ∈ l, ∃ b ∈ k, (a == b) = true) (all : ∀ b ∈ k, ∃ a ∈ l, (b == a) = true) :
    l.length = classes k := by
  refine Nat.le_antisymm (hl.length_le fun a ha => ?_)
    ((different_eraseDups k).length_le fun b hb => all b (mem_of_mem_eraseDups hb))
  obtain ⟨b, hb, hab⟩ := known a ha
  obtain ⟨c, hc, hbc⟩ := exists_mem_eraseDups hb
  exact ⟨c, hc, BEq.trans hab hbc⟩

end Classes

/-! ## Adding -/

/-- The cell that is taken out of a list is the first one with an equal item, if there is one. -/
theorem takeCell?_cases (a : α) :
    ∀ l : List (Cell α),
      (∃ before c after, l = before ++ c :: after ∧ (c.item == a) = true ∧
        takeCell? a l = some (c, before ++ after)) ∨
      ((∀ c ∈ l, (c.item == a) = false) ∧ takeCell? a l = none)
  | [] => Or.inr ⟨fun c hc => (nomatch hc), rfl⟩
  | d :: r => by
    unfold takeCell?
    by_cases hd : (d.item == a) = true
    · rw [if_pos hd]
      exact Or.inl ⟨[], d, r, rfl, hd, rfl⟩
    · rw [if_neg hd]
      rw [Bool.not_eq_true] at hd
      rcases takeCell?_cases a r with ⟨before, c, after, rfl, hc, htake⟩ | ⟨hother, htake⟩
      · rw [htake]
        exact Or.inl ⟨d :: before, c, after, rfl, hc, rfl⟩
      · rw [htake]
        refine Or.inr ⟨fun c hc => ?_, rfl⟩
        rcases List.mem_cons.mp hc with rfl | hc
        · exact hd
        · exact hother c hc

/-- **What can come of adding an item.**  One that is remembered goes to the back and starts anew;
    any other gets a cell of its own there. -/
theorem add_cases (m : Memory α) (now : Nat) (a : α) :
    (∃ before c after, (m.purge now).cells = before ++ c :: after ∧ (c.item == a) = true ∧
      m.add now a = { m with cells := before ++ after ++ [{ c with stamp := now }] }) ∨
    ((∀ c ∈ (m.purge now).cells, (c.item == a) = false) ∧
      m.add now a = { m with cells := (m.purge now).cells ++ [⟨a, now⟩] }) := by
  unfold add
  dsimp only
  rcases takeCell?_cases a (m.purge now).cells with ⟨before, c, after, hcells, hc, htake⟩ |
    ⟨hother, htake⟩
  · rw [htake]
    exact Or.inl ⟨before, c, after, hcells, hc, rfl⟩
  · rw [htake]
    exact Or.inr ⟨hother, rfl⟩

/-- **An item that is remembered only starts anew** when it is added: its cell goes to the back, and
    the others stay as they are. -/
theorem add_of_has {m : Memory α} {now : Nat} {a : α} (h : m.has now a = true) :
    ∃ before c after, (m.purge now).cells = before ++ c :: after ∧ (c.item == a) = true ∧
      (m.add now a).cells = before ++ after ++ [{ c with stamp := now }] := by
  rcases add_cases m now a with ⟨before, c, after, hcells, hc, hadd⟩ | ⟨hother, -⟩
  · exact ⟨before, c, after, hcells, hc, congrArg cells hadd⟩
  · obtain ⟨-, c, hc, ha⟩ := (has_iff ..).mp h
    rw [hother c hc] at ha
    cases ha

section Adding

variable [EquivBEq α]

/-- **A memory of different items after one has been added** has a new cell with an equal item at
    its back; what else it has is what it had of other items. -/
theorem add_spec {m : Memory α} {now : Nat}
    (different : Different ((m.purge now).cells.map Cell.item)) (a : α) :
    ∃ rest b, m.add now a = { m with cells := rest ++ [⟨b, now⟩] } ∧ (b == a) = true ∧
      rest.Sublist (m.purge now).cells ∧ (∀ c ∈ rest, (c.item == a) = false) ∧
      ∀ c ∈ (m.purge now).cells, c ∈ rest ∨ (c.item == a) = true := by
  rcases add_cases m now a with ⟨before, c, after, hcells, hc, hadd⟩ | ⟨hother, hadd⟩
  · rw [hcells] at different ⊢
    refine ⟨before ++ after, c.item, hadd, hc,
      (List.sublist_cons_self c after).append_left before, fun d hd => ?_, fun d hd => ?_⟩
    · -- only the cell that has been moved holds an equal item
      rw [List.map_append, List.map_cons] at different
      obtain ⟨-, hafter, hbefore⟩ := List.pairwise_append.mp different
      rw [← BEq.congr_right hc]
      rcases List.mem_append.mp hd with hd | hd
      · exact hbefore _ (List.mem_map_of_mem hd) _ (List.mem_cons_self ..)
      · rw [BEq.comm]
        exact (List.pairwise_cons.mp hafter).1 _ (List.mem_map_of_mem hd)
    · rcases List.mem_append.mp hd with hd | hd
      · exact Or.inl (List.mem_append_left _ hd)
      · rcases List.mem_cons.mp hd with rfl | hd
        · exact Or.inr hc
        · exact Or.inl (List.mem_append_right _ hd)
  · exact ⟨_, a, hadd, BEq.rfl, List.Sublist.refl _, hother, fun c hc => Or.inl hc⟩

end Adding

/-! ## Logs -/

/-- What may be done with a memory in the course of time. -/
inductive Use (α : Type u) where
  /-- Let some nanoseconds pass. -/
  | wait (nanos : Nat)
  | add (a : α)
  /-- Ask for an item. -/
  | has (a : α)
  /-- Ask for the number of items. -/
  | size
  /-- Forget what has expired. -/
  | clean

/-- Whether something is more than a question. -/
def Use.counts : Use α → Bool
  | .wait _ | .add _ => true
  | .has _ | .size | .clean => false

/-- A memory with the record of what was ever added to it. -/
structure Log (α : Type u) where
  memory : Memory α
  /-- The time that it has become, in nanoseconds. -/
  clock : Nat := 0
  /-- What was added, and when. -/
  added : List (Cell α) := []

namespace Log

/-- A new memory. -/
def start (duration : Nat) : Log α := { memory := { duration } }

/-- Do something with a memory. -/
def step (s : Log α) : Use α → Log α
  | .wait nanos => { s with clock := s.clock + nanos }
  | .add a => { s with memory := s.memory.add s.clock a, added := s.added ++ [⟨a, s.clock⟩] }
  | .has _ => { s with memory := s.memory.asked s.clock }
  | .size | .clean => { s with memory := s.memory.purge s.clock }

/-- Do several things with a memory, one after the other. -/
def run (s : Log α) (uses : List (Use α)) : Log α := uses.foldl step s

/-- What was added less than some time ago. -/
def recent (s : Log α) (duration : Nat) : List α :=
  (s.added.filter fun c => s.clock - c.stamp < duration).map Cell.item

/-! ## Steps -/

/-- The cells stand in order, hold different items, and hold what was added lately, as of the last
    time that it was added, and nothing else. -/
structure Sound (duration : Nat) (s : Log α) : Prop where
  duration_eq : s.memory.duration = duration
  ordered : s.memory.Ordered s.clock
  different : Different (s.memory.cells.map Cell.item)
  past : ∀ a ∈ s.added, a.stamp ≤ s.clock
  known : ∀ c ∈ s.memory.cells, ∃ a ∈ s.added, a.stamp = c.stamp ∧ (a.item == c.item) = true
  remembered : ∀ a ∈ s.added, a.live duration s.clock = true →
    ∃ c ∈ s.memory.cells, (c.item == a.item) = true ∧ a.stamp ≤ c.stamp

namespace Sound

variable {duration : Nat} {s : Log α}

/-- A new memory has a clean record. -/
theorem start (duration : Nat) : Sound duration (start duration : Log α) where
  duration_eq := rfl
  ordered := ⟨List.Pairwise.nil, fun _ hc => (nomatch hc)⟩
  different := List.Pairwise.nil
  past := fun _ ha => (nomatch ha)
  known := fun _ hc => (nomatch hc)
  remembered := fun _ ha => (nomatch ha)

/-- Time passes. -/
theorem wait (h : Sound duration s) (nanos : Nat) : Sound duration (s.step (.wait nanos)) :=
  have hle : s.clock ≤ s.clock + nanos := Nat.le_add_right ..
  { h with
    ordered := h.ordered.later hle
    past := fun a ha => Nat.le_trans (h.past a ha) hle
    remembered := fun a ha hlive => h.remembered a ha (Cell.live_of_live_later hle hlive) }

/-- What is expired is forgotten. -/
theorem purge (h : Sound duration s) :
    Sound duration { s with memory := s.memory.purge s.clock } := by
  have hsub : (s.memory.purge s.clock).cells.Sublist s.memory.cells := List.dropWhile_sublist _
  refine
    { h with
      ordered := h.ordered.purge s.clock
      different := h.different.sublist (hsub.map _)
      known := fun c hc => h.known c (hsub.subset hc)
      remembered := fun a ha hlive => ?_ }
  -- the cell of what was added lately is not older than that, so it is alive as well
  obtain ⟨c, hc, heq, hle⟩ := h.remembered a ha hlive
  refine ⟨c, ?_, heq, hle⟩
  have hc' : c.live s.memory.duration s.clock = true := by
    have hnow : a.live duration s.clock = true := hlive
    rw [Cell.live_iff] at hnow ⊢
    rw [h.duration_eq]
    omega
  show c ∈ (s.memory.purge s.clock).cells
  rw [cells_purge h.ordered]
  exact List.mem_filter.mpr ⟨hc, hc'⟩

/-- The memory is asked for an item. -/
theorem asked (h : Sound duration s) :
    Sound duration { s with memory := s.memory.asked s.clock } := by
  unfold Memory.asked
  split
  · exact h
  · exact h.purge

variable [EquivBEq α]

/-- An item is added. -/
theorem add (h : Sound duration s) (a : α) : Sound duration (s.step (.add a)) := by
  have hp := h.purge
  obtain ⟨rest, b, hadd, hb, hsub, hother, hcells⟩ := add_spec hp.different a
  have hrest : ∀ c ∈ rest, c.stamp ≤ s.clock := fun c hc => hp.ordered.past c (hsub.subset hc)
  show Sound duration ⟨s.memory.add s.clock a, s.clock, s.added ++ [⟨a, s.clock⟩]⟩
  rw [hadd]
  refine
    { duration_eq := h.duration_eq
      ordered := ⟨List.pairwise_append.mpr ⟨hp.ordered.sorted.sublist hsub,
        List.pairwise_singleton _ _, ?_⟩, ?_⟩
      different := ?_
      past := ?_
      known := ?_
      remembered := ?_ }
  · intro c hc d hd
    rw [List.mem_singleton.mp hd]
    exact hrest c hc
  · intro c hc
    rcases List.mem_append.mp hc with hc | hc
    · exact hrest c hc
    · exact Nat.le_of_eq (congrArg Cell.stamp (List.mem_singleton.mp hc))
  · rw [List.map_append]
    refine List.pairwise_append.mpr ⟨hp.different.sublist (hsub.map _),
      List.pairwise_singleton _ _, fun x hx y hy => ?_⟩
    obtain ⟨c, hc, rfl⟩ := List.mem_map.mp hx
    rw [List.mem_singleton.mp hy, BEq.congr_right hb]
    exact hother c hc
  · intro d hd
    rcases List.mem_append.mp hd with hd | hd
    · exact h.past d hd
    · exact Nat.le_of_eq (congrArg Cell.stamp (List.mem_singleton.mp hd))
  · intro c hc
    rcases List.mem_append.mp hc with hc | hc
    · obtain ⟨d, hd, hstamp, heq⟩ := hp.known c (hsub.subset hc)
      exact ⟨d, List.mem_append_left _ hd, hstamp, heq⟩
    · rw [List.mem_singleton.mp hc]
      exact ⟨_, List.mem_append_right _ (List.mem_singleton_self _), rfl, BEq.symm hb⟩
  · intro d hd hlive
    rcases List.mem_append.mp hd with hd | hd
    · obtain ⟨c, hc, heq, hle⟩ := hp.remembered d hd hlive
      rcases hcells c hc with hc | hca
      · exact ⟨c, List.mem_append_left _ hc, heq, hle⟩
      · -- an equal item has been added once more
        refine ⟨_, List.mem_append_right _ (List.mem_singleton_self _), ?_, h.past d hd⟩
        exact BEq.trans hb (BEq.trans (BEq.symm hca) heq)
    · rw [List.mem_singleton.mp hd]
      exact ⟨_, List.mem_append_right _ (List.mem_singleton_self _), hb, Nat.le_refl _⟩

/-- **What one step preserves.** -/
theorem step (h : Sound duration s) (use : Use α) : Sound duration (s.step use) := by
  cases use with
  | wait nanos => exact h.wait nanos
  | add a => exact h.add a
  | has a => exact h.asked
  | size => exact h.purge
  | clean => exact h.purge

/-- What several steps preserve. -/
theorem run (h : Sound duration s) (uses : List (Use α)) : Sound duration (s.run uses) := by
  induction uses generalizing s with
  | nil => exact h
  | cons use r ih => exact ih (h.step use)

/-! ## Answers -/

/-- **A memory has what was added lately.** -/
theorem has_iff_recent (h : Sound duration s) (a : α) :
    s.memory.has s.clock a = true ↔
      0 < duration ∧ ∃ c ∈ s.added, (c.item == a) = true ∧ s.clock - c.stamp < duration := by
  rw [has_iff_live h.ordered]
  constructor
  · rintro ⟨c, hc, ha⟩
    obtain ⟨hmem, hlive⟩ := List.mem_filter.mp hc
    rw [h.duration_eq] at hlive
    obtain ⟨d, hd, hstamp, heq⟩ := h.known c hmem
    refine ⟨((Cell.live_iff ..).mp hlive).1, d, hd, BEq.trans heq ha, ?_⟩
    rw [hstamp]
    exact decide_eq_true_iff.mp hlive
  · rintro ⟨-, d, hd, ha, hrecent⟩
    have hlive : d.live duration s.clock = true := decide_eq_true hrecent
    obtain ⟨c, hc, heq, hle⟩ := h.remembered d hd hlive
    refine ⟨c, List.mem_filter.mpr ⟨hc, ?_⟩, BEq.trans heq ha⟩
    rw [Cell.live_iff] at hlive ⊢
    rw [h.duration_eq]
    omega

/-- **A memory has as many items as different ones were added lately.** -/
theorem size_eq_recent (h : Sound duration s) :
    s.memory.size s.clock = classes (s.recent duration) := by
  have hp := h.purge
  show (s.memory.purge s.clock).cells.length = _
  rw [← List.length_map Cell.item]
  refine length_eq_classes hp.different (fun a ha => ?_) fun b hb => ?_
  · obtain ⟨c, hc, rfl⟩ := List.mem_map.mp ha
    obtain ⟨d, hd, hstamp, heq⟩ := hp.known c hc
    rw [cells_purge h.ordered] at hc
    have hlive : c.live s.memory.duration s.clock = true := (List.mem_filter.mp hc).2
    refine ⟨d.item, List.mem_map_of_mem (List.mem_filter.mpr ⟨hd, ?_⟩), BEq.symm heq⟩
    rw [hstamp, ← h.duration_eq]
    exact hlive
  · obtain ⟨d, hd, rfl⟩ := List.mem_map.mp hb
    obtain ⟨hmem, hlive⟩ := List.mem_filter.mp hd
    obtain ⟨c, hc, heq, -⟩ := hp.remembered d hmem hlive
    exact ⟨c.item, List.mem_map_of_mem hc, BEq.symm heq⟩

end Sound

/-- What a log has recorded: the time and what was added. -/
def record (s : Log α) : Nat × List (Cell α) := (s.clock, s.added)

/-- What is recorded next depends on what has been recorded only. -/
theorem record_step {s t : Log α} (h : s.record = t.record) (use : Use α) :
    (s.step use).record = (t.step use).record := by
  obtain ⟨hclock, hadded⟩ := Prod.mk.inj h
  cases use with
  | wait nanos =>
    show (s.clock + nanos, s.added) = (t.clock + nanos, t.added)
    rw [hclock, hadded]
  | add a =>
    show (s.clock, s.added ++ [⟨a, s.clock⟩]) = (t.clock, t.added ++ [⟨a, t.clock⟩])
    rw [hclock, hadded]
  | has a => exact h
  | size => exact h
  | clean => exact h

/-- A question is not recorded. -/
theorem record_question {use : Use α} (h : use.counts = false) (s : Log α) :
    (s.step use).record = s.record := by
  cases use with
  | wait nanos => cases h
  | add a => cases h
  | has a => rfl
  | size => rfl
  | clean => rfl

/-- The record is the same without the questions. -/
theorem record_run_filter {s t : Log α} (h : s.record = t.record) (uses : List (Use α)) :
    (s.run (uses.filter Use.counts)).record = (t.run uses).record := by
  induction uses generalizing s t with
  | nil => exact h
  | cons use r ih =>
    by_cases hcounts : use.counts = true
    · rw [List.filter_cons_of_pos hcounts]
      exact ih (record_step h use)
    · rw [List.filter_cons_of_neg hcounts]
      exact ih (h.trans (record_question ((Bool.not_eq_true _).mp hcounts) t).symm)

variable [EquivBEq α]

/-- **Two memories with the same record give the same answers.** -/
theorem Sound.answers_congr {duration : Nat} {s t : Log α} (hs : Sound duration s)
    (ht : Sound duration t) (h : s.record = t.record) :
    (∀ a, s.memory.has s.clock a = t.memory.has t.clock a) ∧
      s.memory.size s.clock = t.memory.size t.clock := by
  obtain ⟨hclock, hadded⟩ := Prod.mk.inj h
  refine ⟨fun a => ?_, ?_⟩
  · rw [Bool.eq_iff_iff, hs.has_iff_recent, ht.has_iff_recent, hclock, hadded]
  · rw [hs.size_eq_recent, ht.size_eq_recent]
    unfold recent
    rw [hclock, hadded]

/-- **A memory answers as its history tells.**  After any number of additions, questions and waits:

    - the cells stand in the order of their stamps, none is stamped with a time to come, and their
      items are different;
    - it has an item iff it lasts and an equal item was added less than the duration ago;
    - it has as many items as different ones were added less than the duration ago;
    - a purge of the front leaves exactly the cells that have not expired;
    - an item that it has only starts anew when it is added again;
    - it answers as it would if it had not been asked before. -/
theorem refinement (duration : Nat) (uses : List (Use α)) :
    let s := (start duration).run uses
    (s.memory.Ordered s.clock ∧ Different (s.memory.cells.map Cell.item)) ∧
      (∀ a, s.memory.has s.clock a = true ↔
        0 < duration ∧ ∃ c ∈ s.added, (c.item == a) = true ∧ s.clock - c.stamp < duration) ∧
      s.memory.size s.clock = classes (s.recent duration) ∧
      (s.memory.purge s.clock).cells
        = s.memory.cells.filter (fun c => s.clock - c.stamp < duration) ∧
      (∀ a, s.memory.has s.clock a = true →
        ∃ before c after, (s.memory.purge s.clock).cells = before ++ c :: after ∧
          (c.item == a) = true ∧
          (s.memory.add s.clock a).cells = before ++ after ++ [{ c with stamp := s.clock }]) ∧
      ∀ others, others.filter Use.counts = uses.filter Use.counts →
        let t := (start duration).run others
        (∀ a, t.memory.has t.clock a = s.memory.has s.clock a) ∧
          t.memory.size t.clock = s.memory.size s.clock := by
  intro s
  have h : Sound duration s := (Sound.start duration).run uses
  refine ⟨⟨h.ordered, h.different⟩, h.has_iff_recent, h.size_eq_recent, ?_, fun a => add_of_has,
    fun others hothers => ?_⟩
  · rw [cells_purge h.ordered, ← h.duration_eq]
    rfl
  · refine Sound.answers_congr ((Sound.start duration).run others) h ?_
    rw [← record_run_filter rfl others, hothers, record_run_filter rfl uses]

namespace Zeros

/-- Zero is added, and after some time zero with a sign, which equals it.  Both are added before the
    first one would have expired, and the memory is asked in between. -/
def uses : List (Use Json) :=
  [.add (.float (.zero false)), .add (.str "0"), .wait 8, .size, .has (.float (.zero true)),
    .add (.float (.zero true)), .wait 8, .clean]

/-- The two zeros are one item, which has started anew; the text has expired.  Without the questions
    it would be the same. -/
theorem refinement_of_zeros :
    let s := (start 10).run uses
    s.memory.has s.clock (.float (.zero false)) = true ∧
      s.memory.has s.clock (.str "0") = false ∧
      s.memory.size s.clock = 1 ∧
      (∃ before c after, (s.memory.purge s.clock).cells = before ++ c :: after ∧
        (c.item == Json.float (.zero true)) = true ∧
        (s.memory.add s.clock (.float (.zero true))).cells
          = before ++ after ++ [{ c with stamp := 16 }]) ∧
      let t := (start 10).run (uses.filter Use.counts)
      t.memory.size t.clock = 1 := by
  intro s
  obtain ⟨-, hhas, hsize, -, hadd, hquiet⟩ := refinement 10 uses
  have hadded : s.added
      = [⟨.float (.zero false), 0⟩, ⟨.str "0", 0⟩, ⟨.float (.zero true), 8⟩] := rfl
  have hzero : ∀ a : Json, (Json.float (.zero true) == a) = true →
      s.memory.has s.clock a = true := by
    intro a ha
    refine (hhas a).mpr ⟨by decide, ⟨.float (.zero true), 8⟩, ?_, ha, by decide⟩
    rw [hadded]
    exact .tail _ (.tail _ (.head _))
  have hone : s.memory.size s.clock = 1 := hsize.trans (by decide)
  refine ⟨hzero _ rfl, ?_, hone, hadd _ (hzero _ rfl), (hquiet _ ?_).2.trans hone⟩
  · rw [← Bool.not_eq_true, hhas, hadded]
    decide
  · rw [List.filter_filter]
    rfl

end Zeros

end Log

end Healing.Memory
