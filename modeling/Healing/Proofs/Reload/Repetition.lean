/-
  Loading the same rules again.

  Rules are known by their names, so of several rules with one name the watcher knows the last.
  When the same rules are loaded again, every single one is compared with what is known.

  1. **Changes** - `ruleChanges_rulesByName`: whatever differs from the last rule of its name is
     taken for modified.
  2. **Repeated names** - `Consistent`: rules with one name are equal; this is what it takes for
     there to be no changes (`ruleChanges_rulesByName_eq_nil_iff`).
  3. **Loading** - `Watcher.Idle`: loading has no effect at all.  It has none iff the rules are
     consistent (`idle_iff_consistent`); `Repeated` shows what happens if they are not.
-/
import Healing.Proofs.Reload.Changes
import Healing.Service

namespace Healing

/-! ## Changes -/

/-- Rules all of whose names are known have not been added; those that differ from what is known
    have been modified. -/
theorem filterMap_ruleChange?_of_known {known : KeyMap String Rule} :
    ∀ {rules : List Rule}, (∀ r ∈ rules, ∃ old, known.get? r.name = some old) →
      rules.filterMap (ruleChange? known)
        = (rules.filter fun r => !(known.get? r.name == some r)).map (⟨.modified, ·⟩)
  | [], _ => rfl
  | r :: rs, h => by
    obtain ⟨old, hold⟩ := h r (List.mem_cons_self ..)
    have htail := filterMap_ruleChange?_of_known fun x hx => h x (List.mem_cons_of_mem r hx)
    have hbeq : (known.get? r.name == some r) = (old == r) := by
      rw [hold]
      rfl
    have hchange : ruleChange? known r = if old == r then none else some ⟨.modified, r⟩ := by
      unfold ruleChange?
      rw [hold]
    rw [List.filterMap_cons, hchange, List.filter_cons, hbeq, htail]
    cases old == r with
    | true => rfl
    | false => rfl

/-- **When the same rules are loaded again** nothing is new and nothing is gone; what differs from
    the last rule of its name is taken for modified. -/
theorem ruleChanges_rulesByName (rules : List Rule) :
    ruleChanges (rulesByName rules) rules
      = (rules.filter fun r => !((rulesByName rules).get? r.name == some r)).map
        (⟨.modified, ·⟩) := by
  have hgone : ((rulesByName rules).values.filter fun r => !rules.any fun n => n.name = r.name)
      = [] := by
    rw [List.filter_eq_nil_iff]
    intro r hr h
    obtain ⟨name, hget⟩ := KeyMap.mem_values_iff.mp hr
    obtain ⟨hmem, -⟩ := of_get?_rulesByName hget
    have hany : rules.any (fun n => n.name = r.name) = true :=
      List.any_eq_true.mpr ⟨r, hmem, decide_eq_true rfl⟩
    rw [hany] at h
    cases h
  have hknown : ∀ r ∈ rules, ∃ old, (rulesByName rules).get? r.name = some old := by
    intro r hr
    obtain ⟨last, -, -, hlast⟩ := exists_get?_rulesByName hr
    exact ⟨last, hlast⟩
  unfold ruleChanges
  rw [hgone, filterMap_ruleChange?_of_known hknown]
  exact List.append_nil _

/-! ## Repeated names -/

/-- Whether rules with one name are equal. -/
def Consistent (rules : List Rule) : Prop :=
  ∀ r ∈ rules, ∀ r' ∈ rules, r.name = r'.name → (r == r') = true

/-- **There are no changes iff rules with one name are equal.** -/
theorem ruleChanges_rulesByName_eq_nil_iff (rules : List Rule) :
    ruleChanges (rulesByName rules) rules = [] ↔ Consistent rules := by
  rw [ruleChanges_rulesByName, List.map_eq_nil_iff, List.filter_eq_nil_iff]
  constructor
  · intro h r hr r' hr' hname
    -- both are equal to the last rule of their name
    obtain ⟨last, -, -, hlast⟩ := exists_get?_rulesByName hr
    have hsame := h r hr
    have hsame' := h r' hr'
    rw [← hname] at hsame'
    rw [Bool.not_eq_true, Bool.not_eq_false', hlast] at hsame hsame'
    have hr : (last == r) = true := hsame
    have hr' : (last == r') = true := hsame'
    exact BEq.trans (BEq.symm hr) hr'
  · intro h r hr
    obtain ⟨last, hmem, hname, hlast⟩ := exists_get?_rulesByName hr
    rw [Bool.not_eq_true, Bool.not_eq_false', hlast]
    exact h last hmem r hr hname

/-! ## Loading -/

/-- Whether loading the files changes nothing: there are no changes, and the service is left as it
    is. -/
def Watcher.Idle (w : Watcher) (s : Service) (settings : Settings) : Prop :=
  ({ w with changes := s.changes }.reload (.ok settings)).1 = .ok [] ∧
    (s.reload w (.ok settings)).2 = s

/-- Loading what is known already changes nothing iff rules with one name are equal. -/
theorem Watcher.idle_iff_of_known {w : Watcher} {settings : Settings}
    (known : w.known = rulesByName settings.rules) (s : Service) :
    w.Idle s settings ↔ Consistent settings.rules := by
  have hnil := ruleChanges_rulesByName_eq_nil_iff settings.rules
  rw [← known] at hnil
  have hchanges : ({ w with changes := s.changes }.reload (.ok settings)).1
      = .ok (ruleChanges w.known settings.rules) := rfl
  have hservice : (s.reload w (.ok settings)).2
      = { s with changes := (ruleChanges w.known settings.rules).foldl WorkQueue.add s.changes } :=
    rfl
  unfold Idle
  rw [hchanges, hservice]
  constructor
  · rintro ⟨hnone, -⟩
    exact hnil.mp (Except.ok.inj hnone)
  · intro h
    rw [hnil.mpr h]
    exact ⟨rfl, rfl⟩

/-- What a watcher takes for modified when it loads what it knows already. -/
theorem Watcher.changes_of_known {w : Watcher} {settings : Settings}
    (known : w.known = rulesByName settings.rules) :
    (w.reload (.ok settings)).1 = .ok ((settings.rules.filter fun r =>
      !((rulesByName settings.rules).get? r.name == some r)).map (⟨.modified, ·⟩)) := by
  have hchanges : (w.reload (.ok settings)).1 = .ok (ruleChanges w.known settings.rules) := rfl
  rw [hchanges, known, ruleChanges_rulesByName]

/-- **Loading the same rules again changes nothing iff rules with one name are equal**, be it after
    the start or after these rules have been loaded, however many of the changes have been taken in
    the meantime.  Otherwise the rules that differ from the last one of their name are taken for
    modified. -/
theorem idle_iff_consistent (settings : Settings) :
    (∀ s : Service, (Watcher.start settings.rules).Idle s settings ↔ Consistent settings.rules) ∧
    (∀ (w : Watcher) (s s' : Service),
      (s.reload w (.ok settings)).1.Idle s' settings ↔ Consistent settings.rules) ∧
    ((Watcher.start settings.rules).reload (.ok settings)).1 = .ok ((settings.rules.filter fun r =>
      !((rulesByName settings.rules).get? r.name == some r)).map (⟨.modified, ·⟩)) ∧
    ∀ (w : Watcher) (s : Service), ((s.reload w (.ok settings)).1.reload (.ok settings)).1
      = .ok ((settings.rules.filter fun r =>
        !((rulesByName settings.rules).get? r.name == some r)).map (⟨.modified, ·⟩)) := by
  refine ⟨fun s => ?_, fun w s s' => ?_, ?_, fun w s => ?_⟩
  · exact Watcher.idle_iff_of_known rfl s
  · exact Watcher.idle_iff_of_known rfl s'
  · exact Watcher.changes_of_known rfl
  · exact Watcher.changes_of_known rfl

namespace Repeated

/-- A rule with a version that launches a job. -/
def rule (version template : String) : Rule :=
  { name := "a", resourceVersion := some version, action := .awx { template } }

/-- The settings with two different rules of one name. -/
def settings : Settings := { rules := [rule "1" "Restart", rule "2" "Clean"] }

/-- The service at the start, after all rules have arrived. -/
def started : Service := (Service.start 10 settings.rules).takeChanges

/-- Loading the same rules again brings back the first of two rules with one name. -/
theorem not_idle :
    ¬ (Watcher.start settings.rules).Idle started settings ∧
      (started.engine.rules.get? "a" == some (rule "2" "Clean")) = true ∧
      ((started.reload (.start settings.rules) (.ok settings)).2.takeChanges.engine.rules.get? "a"
        == some (rule "1" "Restart")) = true := by
  refine ⟨fun h => ?_, rfl, rfl⟩
  have hchanges : Except.ok [(⟨.modified, rule "1" "Restart"⟩ : RuleChange)] = Except.ok [] := h.1
  cases Except.ok.inj hchanges

end Repeated

end Healing
