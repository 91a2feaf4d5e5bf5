/-
  What a rule store holds.

  A rule is stored only if its version is not that of the rule that is stored already.  So what is
  stored by a name is not simply the last rule that came with it: of several rules in a row with one
  version it is the first.  Rules of other names have no part in it.

  1. **Operations** - `RuleStore.Op`, and `RuleStore.run` for many of them on an empty store.
  2. **Writes** - `RuleStore.writes`: what operations say about a name, a rule or its removal.
  3. **Standing rules** - `Standing` picks a rule out of the writes of a name, without a store; it
     picks one at most (`Standing.unique`), and its version is the last one (`Standing.last`).
  4. **Stores** - `get?_step`: an operation does to a name what it says about it; by induction a
     store holds the standing rules (`get?_run`), each by its own name (`name_of_get?_run`).
  5. **Histories** - `decided_by_history`: what a store holds and answers, whatever was done to it.
-/
import Healing.Proofs.Reload.Changes
import Mathlib.Data.List.Induction

namespace Healing.RuleStore

/-! ## Operations -/

/-- What can be done to a store. -/
inductive Op where
  | upsert (rule : Rule)
  | delete (name : String)
  | apply (change : RuleChange)

namespace Op

/-- The name that an operation is about. -/
def name : Op → String
  | .upsert r => r.name
  | .delete name => name
  | .apply c => c.rule.name

/-- What an operation says about its name: that a rule is to be stored, or that none is. -/
def rule? : Op → Option Rule
  | .upsert r => some r
  | .delete _ => none
  | .apply c =>
    match c.kind with
    | .added | .modified => some c.rule
    | .deleted => none

end Op

/-- Do something to a store. -/
def step (s : RuleStore) : Op → RuleStore
  | .upsert r => s.upsert r
  | .delete name => (s.delete name).2
  | .apply c => s.apply c

/-- The store after some operations. -/
def run (ops : List Op) : RuleStore := ops.foldl step ∅

/-- The store after one more operation. -/
theorem run_concat (ops : List Op) (op : Op) : run (ops ++ [op]) = (run ops).step op := by
  unfold run
  rw [List.foldl_append]
  rfl

/-! ## Writes -/

/-- What operations say about a name, one after the other. -/
def writes (name : String) (ops : List Op) : List (Option Rule) :=
  (ops.filter (·.name = name)).map Op.rule?

/-- One more operation says something about its own name only. -/
theorem writes_concat (name : String) (ops : List Op) (op : Op) :
    writes name (ops ++ [op]) = writes name ops ++ if op.name = name then [op.rule?] else [] := by
  unfold writes
  rw [List.filter_append, List.map_append]
  by_cases h : op.name = name
  · rw [if_pos h, List.filter_cons_of_pos (by simpa using h)]
    rfl
  · rw [if_neg h, List.filter_cons_of_neg (by simpa using h)]
    rfl

/-- A rule that is written under a name has this name. -/
theorem name_of_mem_writes {name : String} {ops : List Op} {r : Rule}
    (h : some r ∈ writes name ops) : r.name = name := by
  unfold writes at h
  obtain ⟨op, hop, hrule⟩ := List.mem_map.mp h
  have hname : op.name = name := of_decide_eq_true (List.mem_filter.mp hop).2
  cases op with
  | upsert x =>
    cases hrule
    exact hname
  | delete _ => cases hrule
  | apply c =>
    obtain ⟨kind, x⟩ := c
    cases kind with
    | added =>
      cases hrule
      exact hname
    | modified =>
      cases hrule
      exact hname
    | deleted => cases hrule

/-! ## Standing rules -/

/-- A rule stands after some writes if it is the first of the last rules in a row that have one
    version: what is written behind it are rules of its version, and what is written right before it
    is not. -/
def Standing (writes : List (Option Rule)) (r : Rule) : Prop :=
  ∃ (before : List (Option Rule)) (later : List Rule), writes = before ++ some r :: later.map some ∧
    (∀ x ∈ later, x.version = r.version) ∧
    ∀ x, before.getLast? = some (some x) → x.version ≠ r.version

namespace Standing

variable {writes : List (Option Rule)} {r r' x : Rule}

/-- The last write of a row of rules is one of them. -/
theorem getLast?_row (before : List (Option Rule)) (r : Rule) (later : List Rule) :
    ∃ y ∈ r :: later, (before ++ some r :: later.map some).getLast? = some (some y) := by
  have hrow : some r :: later.map some = (r :: later).map some := rfl
  refine ⟨(r :: later).getLast (List.cons_ne_nil r later), List.getLast_mem _, ?_⟩
  rw [hrow, List.getLast?_append, List.getLast?_map, List.getLast?_eq_some_getLast]
  rfl

/-- **The version of a standing rule** is that of the rule that was written last. -/
theorem last (h : Standing writes r) :
    ∃ y, writes.getLast? = some (some y) ∧ y.version = r.version := by
  obtain ⟨before, later, rfl, hlater, -⟩ := h
  obtain ⟨y, hy, hlast⟩ := getLast?_row before r later
  refine ⟨y, hlast, ?_⟩
  rcases List.mem_cons.mp hy with rfl | hy
  · rfl
  · exact hlater y hy

/-- A standing rule has been written. -/
theorem mem (h : Standing writes r) : some r ∈ writes := by
  obtain ⟨before, later, rfl, -, -⟩ := h
  exact List.mem_append_right _ (List.mem_cons_self ..)

/-- No rule stands within the row behind another one: what is written right before it has its
    version. -/
theorem not_within {before : List (Option Rule)} {row rest : List Rule}
    (hversion : ∀ y ∈ row ++ r' :: rest, y.version = r.version)
    (hfirst : ∀ y, (before ++ some r :: row.map some).getLast? = some (some y) →
      y.version ≠ r'.version) : False := by
  obtain ⟨y, hy, hlast⟩ := getLast?_row before r row
  have hsame : y.version = r.version := by
    rcases List.mem_cons.mp hy with rfl | hy
    · rfl
    · exact hversion y (List.mem_append_left _ hy)
  have hsame' : r'.version = r.version :=
    hversion r' (List.mem_append_right _ (List.mem_cons_self ..))
  exact hfirst y hlast (hsame.trans hsame'.symm)

/-- **One rule stands at most.** -/
theorem unique (h : Standing writes r) (h' : Standing writes r') : r = r' := by
  -- of two rules one would stand within the row behind the other
  have hbehind : ∀ {x x' : Rule} {before row : List (Option Rule)} {later later' : List Rule},
      some x :: later.map some = row ++ some x' :: later'.map some →
      (∀ y ∈ later, y.version = x.version) →
      (∀ y, (before ++ row).getLast? = some (some y) → y.version ≠ x'.version) → x = x' := by
    intro x x' before row later later' hrow hlater hfirst
    cases row with
    | nil => exact Option.some.inj (List.cons.inj hrow).1
    | cons y? row =>
      obtain ⟨rfl, hrest⟩ := List.cons.inj hrow
      obtain ⟨row, rest, rfl, rfl, hmap⟩ := List.map_eq_append_iff.mp hrest
      obtain ⟨x'', rest, rfl, hx, -⟩ := List.map_eq_cons_iff.mp hmap
      cases hx
      exact (not_within hlater hfirst).elim
  obtain ⟨before, later, hsplit, hlater, hfirst⟩ := h
  obtain ⟨before', later', hsplit', hlater', hfirst'⟩ := h'
  rw [hsplit] at hsplit'
  rcases List.append_eq_append_iff.mp hsplit' with ⟨row, rfl, hrow⟩ | ⟨row, rfl, hrow⟩
  · exact hbehind hrow hlater hfirst'
  · exact (hbehind hrow hlater' hfirst).symm

/-- A rule goes on standing when one of its version is written. -/
theorem keep (h : Standing writes r) (same : x.version = r.version) :
    Standing (writes ++ [some x]) r := by
  obtain ⟨before, later, rfl, hlater, hfirst⟩ := h
  refine ⟨before, later ++ [x], by simp, ?_, hfirst⟩
  intro y hy
  rcases List.mem_append.mp hy with hy | hy
  · exact hlater y hy
  · rw [List.mem_singleton.mp hy]
    exact same

/-- A rule stands from when it is written, unless the write before was one of its version. -/
theorem new (h : ∀ y, writes.getLast? = some (some y) → y.version ≠ x.version) :
    Standing (writes ++ [some x]) x :=
  ⟨writes, [], rfl, by simp, h⟩

end Standing

/-! ## Stores -/

/-- What an operation makes of what is stored by its name. -/
def written (stored : Option Rule) : Option Rule → Option Rule
  | none => none
  | some r =>
    match stored with
    | none => some r
    | some old => if old.version ≠ r.version then some r else some old

/-- **An operation does to its own name what it says about it**, and nothing to another one. -/
theorem get?_step (s : RuleStore) (op : Op) (name : String) :
    (s.step op).get? name
      = if op.name = name then written (s.get? name) op.rule? else s.get? name := by
  have happly : ∀ c : RuleChange, (s.apply c).get? name
      = if c.rule.name = name then written (s.get? name) (Op.rule? (.apply c))
        else s.get? name := by
    intro c
    rw [get?_apply]
    obtain ⟨kind, r⟩ := c
    by_cases h : name = r.name
    · rw [if_pos h, if_pos h.symm]
      cases kind <;> rfl
    · rw [if_neg h, if_neg (Ne.symm h)]
  cases op with
  | upsert r => exact happly ⟨.added, r⟩
  | delete gone =>
    show (s.erase gone).get? name = if gone = name then none else s.get? name
    rw [KeyMap.get?_erase]
    by_cases h : name = gone
    · rw [if_pos h, if_pos h.symm]
    · rw [if_neg h, if_neg (Ne.symm h)]
  | apply c => exact happly c

/-- What is stored after one more write stands, if it stood before. -/
theorem standing_written {writes : List (Option Rule)} {stored : Option Rule}
    (holds : ∀ r, stored = some r → Standing writes r)
    (empty : stored = none → ∀ y, writes.getLast? ≠ some (some y)) (write : Option Rule) :
    (∀ r, written stored write = some r → Standing (writes ++ [write]) r) ∧
    (written stored write = none → ∀ y, (writes ++ [write]).getLast? ≠ some (some y)) := by
  rcases write with _ | x
  · refine ⟨?_, ?_⟩
    · intro r h
      cases h
    · intro _ y
      simp
  · cases stored with
    | none =>
      refine ⟨?_, fun h => by cases h⟩
      intro r h
      cases h
      exact Standing.new fun y hy => absurd hy (empty rfl y)
    | some old =>
      have hold := holds old rfl
      by_cases hversion : old.version = x.version
      · have hwritten : written (some old) (some x) = some old := if_neg (not_not_intro hversion)
        rw [hwritten]
        refine ⟨?_, fun h => by cases h⟩
        intro r h
        cases h
        exact hold.keep hversion.symm
      · have hwritten : written (some old) (some x) = some x := if_pos hversion
        rw [hwritten]
        refine ⟨?_, fun h => by cases h⟩
        intro r h
        cases h
        apply Standing.new
        intro y hy hsame
        obtain ⟨z, hz, hstands⟩ := hold.last
        rw [hz] at hy
        cases hy
        exact hversion (hstands.symm.trans hsame)

/-- **A store holds the standing rules**, and by a name without one the last write was none. -/
theorem get?_run (name : String) (ops : List Op) :
    (∀ r, (run ops).get? name = some r → Standing (writes name ops) r) ∧
    ((run ops).get? name = none → ∀ y, (writes name ops).getLast? ≠ some (some y)) := by
  induction ops using List.reverseRecOn with
  | nil =>
    refine ⟨?_, ?_⟩
    · intro r h
      cases h
    · intro _ y h
      cases h
  | append_singleton ops op ih =>
    obtain ⟨holds, empty⟩ := ih
    rw [run_concat, get?_step, writes_concat]
    by_cases h : op.name = name
    · rw [if_pos h, if_pos h]
      exact standing_written holds empty op.rule?
    · rw [if_neg h, if_neg h, List.append_nil]
      exact ⟨holds, empty⟩

/-- A name is taken iff the last write of it was a rule. -/
theorem isSome_get?_run_iff (name : String) (ops : List Op) :
    ((run ops).get? name).isSome = true ↔ ∃ y, (writes name ops).getLast? = some (some y) := by
  obtain ⟨holds, empty⟩ := get?_run name ops
  cases hget : (run ops).get? name with
  | none =>
    have hnone := empty hget
    constructor
    · intro h
      cases h
    · rintro ⟨y, hy⟩
      exact absurd hy (hnone y)
  | some r =>
    obtain ⟨y, hy, -⟩ := (holds r hget).last
    exact ⟨fun _ => ⟨y, hy⟩, fun _ => rfl⟩

/-- Every rule is stored by its own name. -/
theorem name_of_get?_run {name : String} {ops : List Op} {r : Rule}
    (h : (run ops).get? name = some r) : r.name = name :=
  name_of_mem_writes ((get?_run name ops).1 r h).mem

/-- The names of the stored rules are those by which they are stored. -/
theorem snapshot_map_name (ops : List Op) : (run ops).snapshot.map Rule.name = (run ops).keys := by
  unfold snapshot KeyMap.values KeyMap.keys
  rw [List.map_map]
  apply List.map_congr_left
  rintro ⟨name, r⟩ hentry
  exact name_of_get?_run (KeyMap.get?_eq_some_iff.mpr hentry)

/-! ## Histories -/

/-- What becomes of a rule that is to be stored is told by what is stored. -/
theorem outcome_cases (s : RuleStore) (r : Rule) :
    (s.get? r.name = none ∧ outcome s r = .inserted) ∨
    (∃ old, s.get? r.name = some old ∧ old.version ≠ r.version ∧ outcome s r = .replaced) ∨
    ∃ old, s.get? r.name = some old ∧ old.version = r.version ∧ outcome s r = .unchanged ∧
      s.upsert r = s := by
  unfold upsert
  unfold outcome
  cases hget : s.get? r.name with
  | none => exact Or.inl ⟨rfl, rfl⟩
  | some old =>
    by_cases hversion : old.version = r.version
    · refine Or.inr (Or.inr ⟨old, rfl, hversion, ?_, ?_⟩)
      · exact if_neg (not_not_intro hversion)
      · simp only [hversion, ne_eq, not_true_eq_false, if_false]
    · exact Or.inr (Or.inl ⟨old, rfl, hversion, if_pos hversion⟩)

/-- **What a store holds and answers**, after any operations.

    - Every rule is stored by its own name, no name occurs twice in the snapshot, and their number
      is the size.
    - A name is taken iff the last operation about it was to store a rule, and so a deletion says.
    - What is stored by a name is the rule that stands after the operations about it, and its
      version is that of the last of them.
    - A rule is inserted iff its name is free; it is not stored iff the stored one has its version,
      and then nothing changes; else it replaces the stored one.
    - An operation does nothing to names that it is not about. -/
theorem decided_by_history (ops : List Op) :
    ((∀ name r, (run ops).get? name = some r → r.name = name) ∧
      ((run ops).snapshot.map Rule.name).Nodup ∧
      (run ops).size = ((run ops).snapshot.map Rule.name).length ∧
      ∀ r, r ∈ (run ops).snapshot ↔ (run ops).get? r.name = some r) ∧
    (∀ name, ((run ops).contains name = true ↔
        ∃ last, (writes name ops).getLast? = some (some last)) ∧
      (((run ops).delete name).1 = true ↔
        ∃ last, (writes name ops).getLast? = some (some last))) ∧
    (∀ name r, (run ops).get? name = some r ↔ Standing (writes name ops) r) ∧
    (∀ name r, (run ops).get? name = some r →
      ∃ last, (writes name ops).getLast? = some (some last) ∧ r.version = last.version) ∧
    (∀ r, (outcome (run ops) r = .inserted ↔ (run ops).contains r.name = false) ∧
      (outcome (run ops) r = .unchanged ↔
        ∃ old, (run ops).get? r.name = some old ∧ old.version = r.version) ∧
      (outcome (run ops) r = .replaced ↔
        ∃ old, (run ops).get? r.name = some old ∧ old.version ≠ r.version) ∧
      (outcome (run ops) r = .unchanged → (run ops).upsert r = run ops)) ∧
    ∀ op name, op.name ≠ name → (run (ops ++ [op])).get? name = (run ops).get? name := by
  have hnames := snapshot_map_name ops
  refine ⟨⟨fun name r => name_of_get?_run, ?_, ?_, ?_⟩, ?_, ?_, ?_, ?_, ?_⟩
  · rw [hnames]
    exact (run ops).nodup_keys
  · rw [hnames]
    exact (List.length_map ..).symm
  · intro r
    constructor
    · intro hr
      obtain ⟨name, hget⟩ := KeyMap.mem_values_iff.mp hr
      rwa [name_of_get?_run hget]
    · intro hget
      exact KeyMap.mem_values_iff.mpr ⟨r.name, hget⟩
  · intro name
    exact ⟨isSome_get?_run_iff name ops, isSome_get?_run_iff name ops⟩
  · intro name r
    refine ⟨(get?_run name ops).1 r, ?_⟩
    intro hstands
    obtain ⟨last, hlast, -⟩ := hstands.last
    obtain ⟨stored, hstored⟩ := Option.isSome_iff_exists.mp
      ((isSome_get?_run_iff name ops).mpr ⟨last, hlast⟩)
    rw [hstored, hstands.unique ((get?_run name ops).1 stored hstored)]
  · intro name r hget
    obtain ⟨last, hlast, hversion⟩ := ((get?_run name ops).1 r hget).last
    exact ⟨last, hlast, hversion.symm⟩
  · intro r
    unfold KeyMap.contains
    rcases outcome_cases (run ops) r with ⟨hget, h⟩ | ⟨old, hget, hversion, h⟩ |
      ⟨old, hget, hversion, h, hsame⟩
    · simp [h, hget]
    · simp [h, hget, hversion]
    · simp [h, hget, hversion, hsame]
  · intro op name hne
    rw [run_concat, get?_step, if_neg hne]

end Healing.RuleStore
