/-
  What it means that an alert matches a rule.

  Labels and annotations are gone over one after the other, and both stop early: at a key that is
  missing, at a pattern that is not valid, and at a value in which the pattern is not found.  Which
  of the three comes out is told by one list of constraints.

  1. **Constraints** - `Constraint.Satisfied` and `Constraint.Invalid`; `Constraint.verdict` is what
     comes of one constraint alone (`verdict_eq_true_iff`, `verdict_eq_error_iff`).
  2. **Order** - `Constraint.Before`: labels before annotations, and each in the order of keys.
  3. **First verdicts** - `firstVerdict_eq_iff`: in a list in order, the first constraint that is not
     satisfied decides.
  4. **Rules** - a rule is its list of constraints (`matches_eq`, `mem_constraints_iff`).
  5. **Labels for annotations** - both have the same rights (`Engine.activates_swapped`).
  6. **Matching** - `matching_exact`.
-/
import Healing.Engine
import Healing.Proofs.KeyMap
import Mathlib.Data.String.Basic

namespace Healing

/-- The patterns of a rule for one of the maps of an alert. -/
def Rule.patterns (r : Rule) : PatternField → KeyMap String String
  | .labels => r.labels
  | .annotations => r.annotations

/-- One of the maps of an alert. -/
def Alert.values (a : Alert) : PatternField → KeyMap String String
  | .labels => a.labels
  | .annotations => a.annotations

/-! ## Constraints -/

/-- A pattern that a rule has for a key of one of the maps. -/
structure Constraint where
  field : PatternField
  key : String
  pattern : String

namespace Constraint

variable (language : PatternLanguage) (a : Alert) (c : Constraint)

/-- The key is there, the pattern is valid, and it is found in the value. -/
def Satisfied : Prop :=
  ∃ value found, (a.values c.field).get? c.key = some value ∧
    language c.pattern = some found ∧ found value = true

/-- The key is there, but the pattern is not valid. -/
def Invalid : Prop :=
  (∃ value, (a.values c.field).get? c.key = some value) ∧ language c.pattern = none

/-- What comes of a constraint if there is no other. -/
def verdict : Except PatternError Bool :=
  match (a.values c.field).get? c.key with
  | none => .ok false
  | some value =>
    match language c.pattern with
    | none => .error ⟨c.field, c.key⟩
    | some found => .ok (found value)

variable {language a c}

theorem verdict_eq_true_iff : c.verdict language a = .ok true ↔ c.Satisfied language a := by
  unfold verdict Satisfied
  cases (a.values c.field).get? c.key with
  | none => simp
  | some value =>
    cases language c.pattern with
    | none => simp
    | some found => simp

theorem verdict_eq_error_iff {e : PatternError} :
    c.verdict language a = .error e ↔ c.Invalid language a ∧ e = ⟨c.field, c.key⟩ := by
  unfold verdict Invalid
  cases (a.values c.field).get? c.key with
  | none => simp
  | some value =>
    cases language c.pattern with
    | none => simp [eq_comm]
    | some found => simp

theorem verdict_eq_false_iff : c.verdict language a = .ok false ↔
    ¬ c.Satisfied language a ∧ ¬ c.Invalid language a := by
  rw [← verdict_eq_true_iff]
  unfold verdict Invalid
  cases (a.values c.field).get? c.key with
  | none => simp
  | some value =>
    cases language c.pattern with
    | none => simp
    | some found => simp

/-- A constraint looks up its own key and nothing else. -/
theorem verdict_congr {b : Alert}
    (h : (b.values c.field).get? c.key = (a.values c.field).get? c.key) :
    c.verdict language b = c.verdict language a := by
  unfold verdict
  rw [h]

/-! ## Order -/

/-- Labels come before annotations, and each in the order of their keys. -/
def Before (c d : Constraint) : Prop :=
  c.field = .labels ∧ d.field = .annotations ∨ c.field = d.field ∧ c.key < d.key

theorem Before.irrefl (c : Constraint) : ¬ c.Before c := by
  rintro (⟨hlabels, hannotations⟩ | ⟨-, hkey⟩)
  · rw [hlabels] at hannotations
    cases hannotations
  · exact String.lt_irrefl c.key hkey

theorem Before.asymm {d : Constraint} (h : c.Before d) : ¬ d.Before c := by
  rintro (⟨hlabels, hannotations⟩ | ⟨hfield, hkey⟩)
  · obtain ⟨hc, -⟩ | ⟨hc, -⟩ := h <;> simp [hlabels, hannotations] at hc
  · obtain ⟨hc, hd⟩ | ⟨-, hc⟩ := h
    · simp [hc, hd] at hfield
    · exact String.lt_asymm hc hkey

/-! ## First verdicts -/

/-- Go over constraints up to the first that is not satisfied. -/
def firstVerdict (language : PatternLanguage) (a : Alert) :
    List Constraint → Except PatternError Bool
  | [] => .ok true
  | c :: r =>
    match c.verdict language a with
    | .ok true => firstVerdict language a r
    | other => other

theorem firstVerdict_cons_of_satisfied {r : List Constraint} (h : c.Satisfied language a) :
    firstVerdict language a (c :: r) = firstVerdict language a r := by
  rw [firstVerdict, verdict_eq_true_iff.mpr h]

theorem firstVerdict_cons_of_not {r : List Constraint} (h : ¬ c.Satisfied language a) :
    firstVerdict language a (c :: r) = c.verdict language a := by
  rw [← verdict_eq_true_iff] at h
  rw [firstVerdict]
  split
  · contradiction
  · rfl

theorem firstVerdict_append (l m : List Constraint) : firstVerdict language a (l ++ m)
    = match firstVerdict language a l with
      | .ok true => firstVerdict language a m
      | other => other := by
  induction l with
  | nil => rfl
  | cons c r ih =>
    by_cases h : c.Satisfied language a
    · rw [List.cons_append, firstVerdict_cons_of_satisfied h, firstVerdict_cons_of_satisfied h, ih]
    · rw [List.cons_append, firstVerdict_cons_of_not h, firstVerdict_cons_of_not h]
      rw [← verdict_eq_true_iff] at h
      split
      · contradiction
      · rfl

/-- All is well iff every constraint is satisfied. -/
theorem firstVerdict_eq_true_iff {l : List Constraint} :
    firstVerdict language a l = .ok true ↔ ∀ c ∈ l, c.Satisfied language a := by
  induction l with
  | nil => simp [firstVerdict]
  | cons c r ih =>
    rw [List.forall_mem_cons]
    by_cases h : c.Satisfied language a
    · rw [firstVerdict_cons_of_satisfied h, ih]
      exact ⟨fun hr => ⟨h, hr⟩, And.right⟩
    · rw [firstVerdict_cons_of_not h, verdict_eq_true_iff]
      exact ⟨fun hc => absurd hc h, And.left⟩

/-- **The first constraint that is not satisfied decides.** -/
theorem firstVerdict_eq_iff {v : Except PatternError Bool} (hv : v ≠ .ok true) :
    ∀ {l : List Constraint}, l.Pairwise Before →
      (firstVerdict language a l = v ↔ ∃ c ∈ l, c.verdict language a = v ∧
        ∀ d ∈ l, d.Before c → d.Satisfied language a)
  | [], _ => by
    constructor
    · intro h
      exact absurd h.symm hv
    · rintro ⟨c, hmem, -⟩
      cases hmem
  | c :: r, h => by
    obtain ⟨hc, hr⟩ := List.pairwise_cons.mp h
    have htail := firstVerdict_eq_iff hv hr
    by_cases hsat : c.Satisfied language a
    · rw [firstVerdict_cons_of_satisfied hsat, htail]
      constructor
      · rintro ⟨c', hmem, hverdict, hfirst⟩
        exact ⟨c', List.mem_cons_of_mem c hmem, hverdict, List.forall_mem_cons.mpr
          ⟨fun _ => hsat, hfirst⟩⟩
      · rintro ⟨c', hmem, hverdict, hfirst⟩
        obtain rfl | hmem := List.mem_cons.mp hmem
        · -- `c` is satisfied, and the one that decides is not
          exact absurd (hverdict.symm.trans (verdict_eq_true_iff.mpr hsat)) hv
        · exact ⟨c', hmem, hverdict, (List.forall_mem_cons.mp hfirst).2⟩
    · rw [firstVerdict_cons_of_not hsat]
      constructor
      · intro hverdict
        refine ⟨c, List.mem_cons_self, hverdict, List.forall_mem_cons.mpr
          ⟨fun hbefore => absurd hbefore (Before.irrefl c), fun d hd hbefore => ?_⟩⟩
        exact absurd hbefore (hc d hd).asymm
      · rintro ⟨c', hmem, hverdict, hfirst⟩
        obtain rfl | hmem := List.mem_cons.mp hmem
        · exact hverdict
        · -- nothing after `c` is the first
          exact absurd (hfirst c List.mem_cons_self (hc c' hmem)) hsat

theorem firstVerdict_congr {b : Alert} {l : List Constraint}
    (h : ∀ c ∈ l, c.verdict language b = c.verdict language a) :
    firstVerdict language b l = firstVerdict language a l := by
  induction l with
  | nil => rfl
  | cons c r ih =>
    obtain ⟨hc, hr⟩ := List.forall_mem_cons.mp h
    rw [firstVerdict, firstVerdict, hc, ih hr]

end Constraint

/-! ## Rules -/

/-- A rule asks for what its patterns say. -/
def Rule.Asks (r : Rule) (c : Constraint) : Prop :=
  (r.patterns c.field).get? c.key = some c.pattern

namespace Rule

/-- The constraints of a rule for one of the maps. -/
def constraintsOn (r : Rule) (field : PatternField) : List Constraint :=
  (r.patterns field).entries.map fun (key, pattern) => ⟨field, key, pattern⟩

/-- The constraints of a rule. -/
def constraints (r : Rule) : List Constraint :=
  r.constraintsOn .labels ++ r.constraintsOn .annotations

variable {language : PatternLanguage} {r : Rule} {a : Alert}

theorem mem_constraintsOn_iff {field : PatternField} {c : Constraint} :
    c ∈ r.constraintsOn field ↔ c.field = field ∧ r.Asks c := by
  unfold constraintsOn Asks
  rw [List.mem_map]
  constructor
  · rintro ⟨⟨key, pattern⟩, hmem, rfl⟩
    exact ⟨rfl, KeyMap.get?_eq_some_iff.mpr hmem⟩
  · rintro ⟨rfl, hget⟩
    exact ⟨(c.key, c.pattern), KeyMap.get?_eq_some_iff.mp hget, rfl⟩

/-- The constraints of a rule are what it asks for. -/
theorem mem_constraints_iff {c : Constraint} : c ∈ r.constraints ↔ r.Asks c := by
  unfold constraints
  rw [List.mem_append, mem_constraintsOn_iff, mem_constraintsOn_iff]
  cases c.field <;> simp

theorem pairwise_constraintsOn (r : Rule) (field : PatternField) :
    (r.constraintsOn field).Pairwise Constraint.Before := by
  unfold constraintsOn
  rw [List.pairwise_map]
  exact (r.patterns field).sorted.imp fun h => .inr ⟨rfl, compare_lt_iff_lt.mp h⟩

/-- The constraints of a rule are in order. -/
theorem pairwise_constraints (r : Rule) : r.constraints.Pairwise Constraint.Before := by
  refine List.pairwise_append.mpr
    ⟨r.pairwise_constraintsOn .labels, r.pairwise_constraintsOn .annotations, fun c hc d hd => ?_⟩
  exact .inl ⟨(mem_constraintsOn_iff.mp hc).1, (mem_constraintsOn_iff.mp hd).1⟩

/-- Going over patterns is going over constraints. -/
theorem checkPatterns_eq (language : PatternLanguage) (a : Alert) (field : PatternField)
    (entries : List (String × String)) :
    checkPatterns language field (a.values field) entries
      = Constraint.firstVerdict language a
          (entries.map fun (key, pattern) => ⟨field, key, pattern⟩) := by
  induction entries with
  | nil => rfl
  | cons entry rest ih =>
    rw [checkPatterns, List.map_cons, Constraint.firstVerdict, Constraint.verdict, ih]
    cases (a.values field).get? entry.1 with
    | none => rfl
    | some value =>
      cases language entry.2 with
      | none => rfl
      | some found => cases h : found value <;> simp [h]

/-- A rule matches as its constraints do, labels first. -/
theorem matches_eq (language : PatternLanguage) (r : Rule) (a : Alert) :
    r.matches language a = Constraint.firstVerdict language a r.constraints := by
  have hlabels : checkPatterns language .labels a.labels r.labels.entries
      = Constraint.firstVerdict language a (r.constraintsOn .labels) :=
    checkPatterns_eq language a .labels r.labels.entries
  have hannotations : checkPatterns language .annotations a.annotations r.annotations.entries
      = Constraint.firstVerdict language a (r.constraintsOn .annotations) :=
    checkPatterns_eq language a .annotations r.annotations.entries
  unfold Rule.matches constraints
  rw [hlabels, hannotations]
  exact (Constraint.firstVerdict_append _ _).symm

/-- A constraint of a rule that is not satisfied, while all that come before it are. -/
structure FirstUnsatisfied (language : PatternLanguage) (r : Rule) (a : Alert) (c : Constraint) :
    Prop where
  asked : r.Asks c
  unsatisfied : ¬ c.Satisfied language a
  earlier : ∀ d, r.Asks d → d.Before c → d.Satisfied language a

theorem matches_eq_true_iff :
    r.matches language a = .ok true ↔ ∀ c, r.Asks c → c.Satisfied language a := by
  rw [matches_eq, Constraint.firstVerdict_eq_true_iff]
  exact forall_congr' fun c => by rw [mem_constraints_iff]

theorem matches_eq_iff {v : Except PatternError Bool} (hv : v ≠ .ok true) :
    r.matches language a = v ↔
      ∃ c, r.FirstUnsatisfied language a c ∧ c.verdict language a = v := by
  rw [matches_eq, Constraint.firstVerdict_eq_iff hv r.pairwise_constraints]
  refine exists_congr fun c => ?_
  constructor
  · rintro ⟨hmem, hverdict, hearlier⟩
    refine ⟨⟨mem_constraints_iff.mp hmem, fun hsat => ?_, fun d hd => ?_⟩, hverdict⟩
    · exact hv (hverdict.symm.trans (Constraint.verdict_eq_true_iff.mpr hsat))
    · exact hearlier d (mem_constraints_iff.mpr hd)
  · rintro ⟨⟨hasked, -, hearlier⟩, hverdict⟩
    exact ⟨mem_constraints_iff.mpr hasked, hverdict,
      fun d hd => hearlier d (mem_constraints_iff.mp hd)⟩

/-- A rule looks at the keys for which it has patterns. -/
theorem matches_congr {b : Alert}
    (h : ∀ c, r.Asks c → (b.values c.field).get? c.key = (a.values c.field).get? c.key) :
    r.matches language b = r.matches language a := by
  rw [matches_eq, matches_eq]
  refine Constraint.firstVerdict_congr fun c hc => Constraint.verdict_congr ?_
  exact h c (mem_constraints_iff.mp hc)

end Rule

theorem Engine.activates_iff {language : PatternLanguage} {a : Alert} {r : Rule} :
    Engine.activates language a r = true ↔ ∀ c, r.Asks c → c.Satisfied language a := by
  rw [← Rule.matches_eq_true_iff]
  unfold activates
  cases r.matches language a with
  | error cause => simp
  | ok b => simp

/-! ## Labels for annotations -/

/-- The other map of an alert. -/
def PatternField.other : PatternField → PatternField
  | .labels => .annotations
  | .annotations => .labels

/-- The rule with labels for annotations, and annotations for labels. -/
def Rule.swapped (r : Rule) : Rule := { r with labels := r.annotations, annotations := r.labels }

/-- The alert with labels for annotations, and annotations for labels. -/
def Alert.swapped (a : Alert) : Alert := { a with labels := a.annotations, annotations := a.labels }

/-- The constraint on the other map. -/
def Constraint.swapped (c : Constraint) : Constraint := { c with field := c.field.other }

theorem Rule.asks_swapped_iff {r : Rule} {c : Constraint} :
    r.swapped.Asks c ↔ r.Asks c.swapped := by
  obtain ⟨field, key, pattern⟩ := c
  cases field <;> exact Iff.rfl

theorem Constraint.satisfied_swapped_iff {language : PatternLanguage} {a : Alert} {c : Constraint} :
    c.Satisfied language a.swapped ↔ c.swapped.Satisfied language a := by
  obtain ⟨field, key, pattern⟩ := c
  cases field <;> exact Iff.rfl

theorem Constraint.swapped_swapped (c : Constraint) : c.swapped.swapped = c := by
  obtain ⟨field, key, pattern⟩ := c
  cases field <;> rfl

/-- Exchanging labels and annotations of both changes nothing. -/
theorem Engine.activates_swapped (language : PatternLanguage) (a : Alert) (r : Rule) :
    Engine.activates language a.swapped r.swapped = Engine.activates language a r := by
  rw [Bool.eq_iff_iff, activates_iff, activates_iff]
  constructor
  · intro h c hc
    rw [← c.swapped_swapped, ← Constraint.satisfied_swapped_iff]
    refine h c.swapped (Rule.asks_swapped_iff.mpr ?_)
    rwa [c.swapped_swapped]
  · intro h c hc
    exact Constraint.satisfied_swapped_iff.mpr (h c.swapped (Rule.asks_swapped_iff.mp hc))

/-! ## Matching -/

/-- **Matching is the conjunction of the constraints.**  Take any rule, any alert and any language of
    patterns.

    - The alert matches iff all constraints are satisfied.
    - There is an error about a key of a map iff the first constraint that is not satisfied is about
      that key; it is there, and the pattern is not valid.
    - Otherwise the alert does not match: the first constraint that is not satisfied misses its key,
      or has a valid pattern that is not found.

    So a rule with a pattern that is not valid is never activated; keys for which the rule has no
    pattern do not count; a value in the other map does not help, and labels and annotations have the
    same rights; and a rule that asks for less is activated whenever one that asks for more is. -/
theorem matching_exact (language : PatternLanguage) (r : Rule) (a : Alert) :
    (r.matches language a = .ok true ↔ ∀ c, r.Asks c → c.Satisfied language a) ∧
    (∀ field key, r.matches language a = .error ⟨field, key⟩ ↔
      ∃ pattern, r.FirstUnsatisfied language a ⟨field, key, pattern⟩ ∧
        (∃ value, (a.values field).get? key = some value) ∧ language pattern = none) ∧
    (r.matches language a = .ok false ↔
      ∃ c, r.FirstUnsatisfied language a c ∧
        ((a.values c.field).get? c.key = none ∨ ∃ found, language c.pattern = some found)) ∧
    ((∃ c, r.Asks c ∧ language c.pattern = none) → Engine.activates language a r = false) ∧
    (∀ b : Alert,
      (∀ c, r.Asks c → (b.values c.field).get? c.key = (a.values c.field).get? c.key) →
        r.matches language b = r.matches language a) ∧
    ((∃ c, r.Asks c ∧ (a.values c.field).get? c.key = none) →
      Engine.activates language a r = false) ∧
    Engine.activates language a.swapped r.swapped = Engine.activates language a r ∧
    (∀ fewer : Rule, (∀ c, fewer.Asks c → r.Asks c) →
      Engine.activates language a r = true → Engine.activates language a fewer = true) := by
  refine ⟨Rule.matches_eq_true_iff, fun field key => ?_, ?_, ?_, fun b => Rule.matches_congr, ?_,
    Engine.activates_swapped language a r, ?_⟩
  · rw [Rule.matches_eq_iff (by simp)]
    constructor
    · rintro ⟨c, hfirst, hverdict⟩
      obtain ⟨hinvalid, he⟩ := Constraint.verdict_eq_error_iff.mp hverdict
      cases he
      exact ⟨c.pattern, hfirst, hinvalid⟩
    · rintro ⟨pattern, hfirst, hinvalid⟩
      exact ⟨_, hfirst, Constraint.verdict_eq_error_iff.mpr ⟨hinvalid, rfl⟩⟩
  · rw [Rule.matches_eq_iff (by simp)]
    refine exists_congr fun c => and_congr_right fun hfirst => ?_
    rw [Constraint.verdict_eq_false_iff, and_iff_right hfirst.unsatisfied, Constraint.Invalid]
    cases (a.values c.field).get? c.key with
    | none => simp
    | some value => cases language c.pattern <;> simp
  · rintro ⟨c, hasked, hnone⟩
    rw [Bool.eq_false_iff, Ne, Engine.activates_iff]
    intro h
    obtain ⟨value, found, -, hsome, -⟩ := h c hasked
    simp [hnone] at hsome
  · rintro ⟨c, hasked, hnone⟩
    rw [Bool.eq_false_iff, Ne, Engine.activates_iff]
    intro h
    obtain ⟨value, found, hsome, -⟩ := h c hasked
    simp [hnone] at hsome
  · intro fewer hfewer h
    rw [Engine.activates_iff] at h ⊢
    exact fun c hc => h c (hfewer c hc)

/-- A pattern that is not valid shows when its turn comes, and not behind a key that is missing. -/
example :
    let language : PatternLanguage := fun p => if p = "(" then none else some (· == p)
    let r : Rule := { name := "restart", action := .awx { template := "Restart" } }
    let r := (r.withLabel "alertname" "NodeDown").withLabel "node" "("
    r.matches language (.named "NodeDown") = .ok false ∧
      r.matches language ((Alert.named "NodeDown").withLabel "node" "node0")
        = .error ⟨.labels, "node"⟩ := by
  decide

end Healing
