/-
  What changes of rules do to a store.

  A change says something about the rule with its name only, so the effect of many changes can be
  seen name by name.

  1. **Rules by name** - `get?_rulesByName`: of several rules with one name the last counts.
  2. **Stores** - `get?_applyAll`: what changes do to the rule with some name is done by those of
     them that are about it.
  3. **Differences** - `filter_ruleChanges` picks out what a comparison says about a name; from it
     follows what the comparison does to a store (`get?_applyAll_ruleChanges`).
-/
import Healing.Proofs.Equality
import Healing.Proofs.KeyMap
import Healing.Reload

namespace Healing

/-! ## Rules by name -/

/-- Later rules win when rules are put into a map by their names. -/
theorem get?_foldl_insert (name : String) :
    ∀ (rules : List Rule) (m : KeyMap String Rule),
      (rules.foldl (fun m r => m.insert r.name r) m).get? name
        = (rules.findRev? (·.name = name)).or (m.get? name)
  | [], _ => rfl
  | r :: rs, m => by
    rw [List.foldl_cons, get?_foldl_insert name rs, KeyMap.get?_insert, List.findRev?]
    cases rs.findRev? (·.name = name) with
    | some last => rfl
    | none =>
      by_cases h : r.name = name
      · simp [h]
      · simp [h, Ne.symm h]

/-- **The last rule of a name counts.** -/
theorem get?_rulesByName (rules : List Rule) (name : String) :
    (rulesByName rules).get? name = rules.findRev? (·.name = name) := by
  unfold rulesByName KeyMap.ofList
  rw [List.foldl_map, get?_foldl_insert, KeyMap.get?_empty, Option.or_none]

/-- What is known by a name is one of the rules, and has this name. -/
theorem of_get?_rulesByName {rules : List Rule} {name : String} {r : Rule}
    (h : (rulesByName rules).get? name = some r) : r ∈ rules ∧ r.name = name := by
  rw [get?_rulesByName, List.findRev?_eq_find?_reverse] at h
  refine ⟨List.mem_reverse.mp (List.mem_of_find?_eq_some h), ?_⟩
  simpa using List.find?_some h

/-- Every rule is known by its name, or another one of this name is. -/
theorem exists_get?_rulesByName {rules : List Rule} {r : Rule} (h : r ∈ rules) :
    ∃ last ∈ rules, last.name = r.name ∧ (rulesByName rules).get? r.name = some last := by
  cases hlast : (rulesByName rules).get? r.name with
  | some last =>
    obtain ⟨hmem, hname⟩ := of_get?_rulesByName hlast
    exact ⟨last, hmem, hname, rfl⟩
  | none =>
    rw [get?_rulesByName, List.findRev?_eq_find?_reverse, List.find?_eq_none] at hlast
    exact absurd (decide_eq_true rfl) (hlast r (List.mem_reverse.mpr h))

/-! ## Stores -/

namespace RuleStore

/-- What a change does to what is stored by the name of its rule. -/
def applyAt (stored : Option Rule) (c : RuleChange) : Option Rule :=
  match c.kind with
  | .deleted => none
  | _ =>
    match stored with
    | none => some c.rule
    | some old => if old.version ≠ c.rule.version then some c.rule else some old

/-- A change does nothing to other names. -/
theorem get?_apply (s : RuleStore) (c : RuleChange) (name : String) :
    (s.apply c).get? name
      = if name = c.rule.name then applyAt (s.get? name) c else s.get? name := by
  have hupsert : (s.upsert c.rule).get? name
      = if name = c.rule.name then applyAt (s.get? name) ⟨.added, c.rule⟩ else s.get? name := by
    unfold upsert outcome applyAt
    by_cases hname : name = c.rule.name
    · rw [hname, if_pos rfl]
      cases hstored : s.get? c.rule.name with
      | none => exact (KeyMap.get?_insert ..).trans (if_pos rfl)
      | some old =>
        by_cases hversion : old.version = c.rule.version
        · simp only [hversion, ne_eq, not_true_eq_false, if_false]
          exact hstored
        · simp only [hversion, ne_eq, not_false_eq_true, if_true]
          exact (KeyMap.get?_insert ..).trans (if_pos rfl)
    · rw [if_neg hname]
      split
      · rfl
      · rw [KeyMap.get?_insert, if_neg hname]
  unfold apply
  cases hkind : c.kind with
  | added =>
    refine hupsert.trans ?_
    simp only [applyAt, hkind]
  | modified =>
    refine hupsert.trans ?_
    simp only [applyAt, hkind]
  | deleted =>
    refine (KeyMap.get?_erase ..).trans ?_
    simp only [applyAt, hkind]

/-- Apply changes one after the other. -/
def applyAll (s : RuleStore) (changes : List RuleChange) : RuleStore := changes.foldl apply s

/-- **Name by name**: what changes do to what is stored by a name is done by those about it. -/
theorem get?_applyAll (name : String) :
    ∀ (changes : List RuleChange) (s : RuleStore), (s.applyAll changes).get? name
      = (changes.filter (·.rule.name = name)).foldl applyAt (s.get? name)
  | [], _ => rfl
  | c :: r, s => by
    have htail := get?_applyAll name r (s.apply c)
    rw [get?_apply] at htail
    refine htail.trans ?_
    by_cases h : c.rule.name = name
    · rw [if_pos h.symm, List.filter_cons_of_pos (by simp [h]), List.foldl_cons]
    · rw [if_neg (Ne.symm h), List.filter_cons_of_neg (by simp [h])]

end RuleStore

/-! ## Differences -/

/-- A change is about the rule that is compared. -/
theorem rule_of_ruleChange? {known : KeyMap String Rule} {r : Rule} {c : RuleChange}
    (h : ruleChange? known r = some c) : c.rule = r := by
  unfold ruleChange? at h
  split at h
  · cases h
    rfl
  · split at h
    · cases h
    · cases h
      rfl

/-- Changes about a name come from the rules with that name. -/
theorem filter_filterMap_ruleChange? (known : KeyMap String Rule) (name : String) :
    ∀ next : List Rule, (next.filterMap (ruleChange? known)).filter (·.rule.name = name)
      = (next.filter (·.name = name)).filterMap (ruleChange? known)
  | [] => rfl
  | r :: rs => by
    have htail := filter_filterMap_ruleChange? known name rs
    by_cases hname : r.name = name
    · rw [List.filter_cons_of_pos (by simp [hname])]
      cases hchange : ruleChange? known r with
      | none => rw [List.filterMap_cons_none hchange, List.filterMap_cons_none hchange, htail]
      | some c =>
        have hc : c.rule.name = name := (congrArg _ (rule_of_ruleChange? hchange)).trans hname
        rw [List.filterMap_cons_some hchange, List.filterMap_cons_some hchange,
          List.filter_cons_of_pos (by simp [hc]), htail]
    · rw [List.filter_cons_of_neg (by simp [hname])]
      cases hchange : ruleChange? known r with
      | none => rw [List.filterMap_cons_none hchange, htail]
      | some c =>
        have hc : c.rule.name ≠ name :=
          fun h => hname ((congrArg _ (rule_of_ruleChange? hchange)).symm.trans h)
        rw [List.filterMap_cons_some hchange, List.filter_cons_of_neg (by simp [hc]), htail]

/-- **What a comparison says about a name**: the changes of the rules with that name, or if there
    are none, that what is known by the name is gone. -/
theorem filter_ruleChanges {known : KeyMap String Rule}
    (hkey : ∀ name r, known.get? name = some r → r.name = name) (next : List Rule)
    (name : String) :
    (ruleChanges known next).filter (·.rule.name = name)
      = (next.filter (·.name = name)).filterMap (ruleChange? known)
        ++ if next.any (·.name = name) then []
          else (known.get? name).toList.map (⟨.deleted, ·⟩) := by
  have hgone : ((known.values.filter fun r => !next.any fun n => n.name = r.name).filter
      (·.name = name)) = if next.any (·.name = name) then [] else (known.get? name).toList := by
    -- only one rule is known by the name
    rw [← KeyMap.filter_values Rule.name hkey name, List.filter_filter]
    cases hany : next.any (·.name = name) with
    | true =>
      rw [if_pos rfl, List.filter_eq_nil_iff]
      intro r _ h
      simp only [Bool.and_eq_true_iff, decide_eq_true_iff, Bool.not_eq_true'] at h
      rw [h.1, hany] at h
      cases h.2
    | false =>
      rw [if_neg Bool.false_ne_true]
      refine List.filter_congr fun r _ => ?_
      by_cases hname : r.name = name
      · rw [hname, hany]
        exact Bool.and_true _
      · simp [hname]
  unfold ruleChanges
  rw [List.filter_append, filter_filterMap_ruleChange?, List.filter_map]
  refine congrArg (_ ++ ·) ?_
  show List.map _ ((known.values.filter _).filter (fun r => decide (r.name = name))) = _
  rw [hgone]
  cases next.any (·.name = name) with
  | true => rfl
  | false => rfl

/-- Of rules with different names at most one has some name. -/
theorem filter_name_of_nodup {rules : List Rule} (distinct : (rules.map Rule.name).Nodup)
    (name : String) : rules.filter (·.name = name) = ((rulesByName rules).get? name).toList := by
  have hnone : ∀ {l : List Rule}, name ∉ l.map Rule.name → l.filter (·.name = name) = [] := by
    intro l h
    rw [List.filter_eq_nil_iff]
    intro r hr hname
    exact h (List.mem_map.mpr ⟨r, hr, of_decide_eq_true hname⟩)
  rw [get?_rulesByName]
  induction rules with
  | nil => rfl
  | cons r rs ih =>
    obtain ⟨hhead, htail⟩ := List.nodup_cons.mp distinct
    rw [List.findRev?]
    by_cases hname : r.name = name
    · have hrest : rs.filter (·.name = name) = [] := hnone (hname ▸ hhead)
      rw [List.filter_cons_of_pos (by simp [hname]), hrest]
      have hfind : rs.findRev? (·.name = name) = none := by
        have := ih htail
        rw [hrest] at this
        exact Option.toList_eq_nil_iff.mp this.symm
      rw [hfind]
      simp [hname]
    · rw [List.filter_cons_of_neg (by simp [hname]), ih htail]
      cases rs.findRev? (·.name = name) with
      | none => simp [hname]
      | some last => rfl

/-- Among rules with different names each is known by its name. -/
theorem get?_rulesByName_of_nodup {rules : List Rule} (distinct : (rules.map Rule.name).Nodup)
    {r : Rule} (h : r ∈ rules) : (rulesByName rules).get? r.name = some r := by
  have hfilter : r ∈ rules.filter (·.name = r.name) :=
    List.mem_filter.mpr ⟨h, decide_eq_true rfl⟩
  rw [filter_name_of_nodup distinct] at hfilter
  exact Option.mem_toList.mp hfilter

section Applying

variable {known : KeyMap String Rule} {next : List Rule} {store : RuleStore}

/-- What is stored by the name of a rule, after the change of the rule if there is one, is as good
    as the rule. -/
theorem foldl_applyAt_ruleChange? {stored? : Option Rule} {r : Rule}
    (agrees : (stored? == known.get? r.name) = true)
    (versions : ∀ stored, stored? = some stored → stored.version = r.version →
      (stored == r) = true) :
    ((ruleChange? known r).toList.foldl RuleStore.applyAt stored? == some r) = true ∧
    ∀ r', (ruleChange? known r).toList.foldl RuleStore.applyAt stored? = some r' →
      r' = r ∨ stored? = some r' := by
  unfold ruleChange?
  cases hknown : known.get? r.name with
  | none =>
    rw [hknown] at agrees
    rw [eq_none_of_beq_none agrees]
    exact ⟨BEq.rfl, fun r' h => Or.inl (Option.some.inj h).symm⟩
  | some old =>
    rw [hknown] at agrees
    obtain ⟨stored, hstored, hold⟩ := exists_of_beq_some agrees
    rw [hstored]
    dsimp only
    by_cases hsame : (old == r) = true
    · -- nothing has changed, and the store agrees
      rw [if_pos hsame]
      exact ⟨show (stored == r) = true from BEq.trans hold hsame, fun r' h => Or.inr h⟩
    · rw [if_neg hsame]
      show ((if stored.version ≠ r.version then some r else some stored) == some r) = true ∧
        ∀ r', (if stored.version ≠ r.version then some r else some stored) = some r' → _
      by_cases hversion : stored.version = r.version
      · -- the store keeps its rule, but that is as good
        rw [if_neg (not_not_intro hversion)]
        exact ⟨versions stored hstored hversion, fun r' h => Or.inr h⟩
      · rw [if_pos hversion]
        exact ⟨BEq.rfl, fun r' h => Or.inl (Option.some.inj h).symm⟩

/-- **A comparison leads from what is known to what comes next**, also for a store that agrees with
    what is known up to equality only, unless it has a rule with the version of a different one. -/
theorem get?_applyAll_ruleChanges
    (hkey : ∀ name r, known.get? name = some r → r.name = name)
    (distinct : (next.map Rule.name).Nodup)
    (agrees : ∀ name, (store.get? name == known.get? name) = true)
    (versions : ∀ name stored, store.get? name = some stored → ∀ r ∈ next, r.name = name →
      stored.version = r.version → (stored == r) = true)
    (name : String) :
    ((store.applyAll (ruleChanges known next)).get? name == (rulesByName next).get? name) = true ∧
    ∀ r, (store.applyAll (ruleChanges known next)).get? name = some r →
      r ∈ next ∨ store.get? name = some r := by
  have hagree := agrees name
  have hfilter := filter_name_of_nodup distinct name
  have hany : next.any (·.name = name) = ((rulesByName next).get? name).isSome := by
    rw [← List.isSome_find?, ← List.head?_filter, hfilter]
    cases (rulesByName next).get? name <;> rfl
  rw [RuleStore.get?_applyAll, filter_ruleChanges hkey, hfilter, hany]
  cases hnext : (rulesByName next).get? name with
  | none =>
    -- what is known by the name is gone
    cases hknown : known.get? name with
    | none =>
      rw [hknown] at hagree
      rw [eq_none_of_beq_none hagree]
      exact ⟨rfl, fun r h => by cases h⟩
    | some old => exact ⟨rfl, fun r h => by cases h⟩
  | some r =>
    -- exactly one of the rules that come next has the name
    obtain ⟨hmem, hname⟩ := of_get?_rulesByName hnext
    have hchanges : (some r).toList.filterMap (ruleChange? known)
        = (ruleChange? known r).toList := by
      rw [Option.toList_some, List.filterMap_cons]
      cases ruleChange? known r <;> rfl
    rw [hchanges, Option.isSome_some, if_pos rfl, List.append_nil]
    rw [← hname] at hagree
    obtain ⟨heq, hfrom⟩ := foldl_applyAt_ruleChange? hagree fun stored hstored =>
      versions r.name stored hstored r hmem rfl
    rw [hname] at heq hfrom
    refine ⟨heq, fun r' h => ?_⟩
    rcases hfrom r' h with rfl | h
    · exact Or.inl hmem
    · exact Or.inr h

end Applying

end Healing
