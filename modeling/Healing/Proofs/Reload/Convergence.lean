/-
  The rules in force follow the files.

  The watcher keeps its own idea of the rules, compares contents, and queues what has changed; the
  store compares versions and learns of the changes later.  What the two have in common is the store
  as it will be once the queue is empty.

  1. **Queues** - what changes are on their way (`Service.pending`), and the store that they lead to
     (`Service.settled`).  Taking a change does not affect it (`settled_takeChange`).
  2. **Histories** - `Reloads`: reloads, some of which fail, while changes are taken at any pace.
  3. **Invariant** - `Coupled`: the settled store agrees with what the watcher knows.
  4. **Convergence** - `Reloads.converges`: once the queue is empty, the store has exactly the rules
     that were loaded last; `Edited` is a case in point.
-/
import Healing.Proofs.Reload.Changes
import Healing.Service

namespace Healing

universe u

/-! ## Queues -/

/-- A queue that is not shut down takes items in their order. -/
theorem WorkQueue.foldl_add {α : Type u} :
    ∀ (items : List α) {q : WorkQueue α}, q.isShutDown = false →
      items.foldl add q = { q with items := q.items ++ items.map ({ item := · }) }
  | [], q, _ => by
    rw [List.map_nil, List.append_nil]
    rfl
  | a :: r, q, h => by
    have hadd : q.add a = { q with items := q.items ++ [{ item := a }] } := by
      unfold add push
      rw [h]
      rfl
    have htail := foldl_add r (q := { q with items := q.items ++ [{ item := a }] }) h
    rw [List.foldl_cons, hadd, htail, List.append_assoc]
    rfl

namespace Service

/-- The changes that are on their way. -/
def pending (s : Service) : List RuleChange := s.changes.items.map (·.item)

/-- The rules that are in force once all changes have arrived. -/
def settled (s : Service) : RuleStore := s.engine.rules.applyAll s.pending

/-- A change that is taken is the first in the queue. -/
theorem items_takeChange (s : Service) : s.takeChange.changes.items = s.changes.items.tail := by
  unfold takeChange WorkQueue.get
  cases hitems : s.changes.items with
  | cons x r => rfl
  | nil =>
    cases s.changes.isShutDown with
    | true => exact hitems
    | false => exact hitems

/-- Taking a change does not shut the queue down. -/
theorem isShutDown_takeChange (s : Service) :
    s.takeChange.changes.isShutDown = s.changes.isShutDown := by
  unfold takeChange WorkQueue.get
  cases hitems : s.changes.items with
  | cons x r => rfl
  | nil =>
    cases hshut : s.changes.isShutDown with
    | true => exact hshut
    | false => exact hshut

/-- **What the changes lead to does not depend on how many have been taken.** -/
theorem settled_takeChange (s : Service) : s.takeChange.settled = s.settled := by
  unfold settled pending
  rw [items_takeChange]
  unfold takeChange WorkQueue.get
  cases hitems : s.changes.items with
  | cons x r => rfl
  | nil =>
    cases s.changes.isShutDown with
    | true => rfl
    | false => rfl

/-- After some changes have been taken the others are left, and lead to the same rules. -/
theorem repeat_takeChange (s : Service) (n : Nat) :
    (n.repeat takeChange s).changes.items = s.changes.items.drop n ∧
      (n.repeat takeChange s).settled = s.settled := by
  induction n with
  | zero => exact ⟨rfl, rfl⟩
  | succ n ih =>
    obtain ⟨hitems, hsettled⟩ := ih
    have hdrop : s.changes.items.drop (n + 1) = (s.changes.items.drop n).tail :=
      List.tail_drop.symm
    refine ⟨?_, (settled_takeChange _).trans hsettled⟩
    rw [hdrop, ← hitems]
    exact items_takeChange _

/-- **When all changes have been taken** the queue is empty and the settled rules are in force. -/
theorem takeChanges_spec (s : Service) :
    s.takeChanges.changes.items = [] ∧ s.takeChanges.engine.rules = s.settled := by
  obtain ⟨hitems, hsettled⟩ := repeat_takeChange s s.changes.size
  have hempty : s.takeChanges.changes.items = [] := hitems.trans (List.drop_length ..)
  refine ⟨hempty, ?_⟩
  have hpending : s.takeChanges.pending = [] := by
    unfold pending
    rw [hempty]
    rfl
  have hsettled' : s.takeChanges.engine.rules.applyAll s.takeChanges.pending = s.settled := hsettled
  rwa [hpending] at hsettled'

/-- A reload queues what leads from the known rules to the loaded ones. -/
theorem settled_reload {s : Service} (hopen : s.changes.isShutDown = false) (w : Watcher)
    (settings : Settings) : (s.reload w (.ok settings)).2.settled
      = s.settled.applyAll (ruleChanges w.known settings.rules) := by
  have hchanges : (s.reload w (.ok settings)).2.changes
      = (ruleChanges w.known settings.rules).foldl WorkQueue.add s.changes := rfl
  have hpending : (s.reload w (.ok settings)).2.pending
      = s.pending ++ ruleChanges w.known settings.rules := by
    unfold pending
    rw [hchanges, WorkQueue.foldl_add _ hopen, List.map_append, List.map_map]
    exact congrArg (_ ++ ·) (List.map_id _)
  unfold settled
  rw [hpending]
  exact List.foldl_append

end Service

/-! ## Histories -/

/-- How the watcher and the service can get on from the start: the files are loaded, cannot be
    loaded, or a change is taken.  The lists of rules that have been loaded are listed, the latest
    first. -/
inductive Reloads (throttle : Nat) (initial : List Rule) :
    Watcher → Service → List (List Rule) → Prop
  | start : Reloads throttle initial (.start initial) (.start throttle initial) [initial]
  | load {w : Watcher} {s : Service} {loads : List (List Rule)}
      (h : Reloads throttle initial w s loads) (settings : Settings) :
    Reloads throttle initial (s.reload w (.ok settings)).1 (s.reload w (.ok settings)).2
      (settings.rules :: loads)
  | fail {w : Watcher} {s : Service} {loads : List (List Rule)}
      (h : Reloads throttle initial w s loads) (cause : SettingsError) :
    Reloads throttle initial (s.reload w (.error cause)).1 (s.reload w (.error cause)).2 loads
  | take {w : Watcher} {s : Service} {loads : List (List Rule)}
      (h : Reloads throttle initial w s loads) : Reloads throttle initial w s.takeChange loads

/-- Lists of rules in which names are not repeated, and in which a version stands for one content of
    a rule. -/
structure Versioned (loads : List (List Rule)) : Prop where
  distinct : ∀ rules ∈ loads, (rules.map Rule.name).Nodup
  versions : ∀ rules ∈ loads, ∀ rules' ∈ loads, ∀ r ∈ rules, ∀ r' ∈ rules', r.name = r'.name →
    r.version = r'.version → (r == r') = true

/-- Fewer lists are versioned too. -/
theorem Versioned.tail {rules : List Rule} {loads : List (List Rule)}
    (h : Versioned (rules :: loads)) : Versioned loads :=
  ⟨fun l hl => h.distinct l (List.mem_cons_of_mem _ hl), fun l hl l' hl' =>
    h.versions l (List.mem_cons_of_mem _ hl) l' (List.mem_cons_of_mem _ hl')⟩

/-! ## Invariant -/

/-- **The invariant**: the watcher knows the rules that were loaded last, and the store will agree
    with it; every rule in it has been loaded at some time. -/
structure Coupled (loads : List (List Rule)) (w : Watcher) (s : Service) : Prop where
  accepts : s.changes.isShutDown = false
  known : ∃ last earlier, loads = last :: earlier ∧ w.known = rulesByName last
  agrees : ∀ name, (s.settled.get? name == w.known.get? name) = true
  loaded : ∀ name r, s.settled.get? name = some r → ∃ rules ∈ loads, r ∈ rules

/-- A store that agrees with what is known is coupled to what comes next by the changes between the
    two. -/
theorem coupled_of_settled {known : KeyMap String Rule} {store : RuleStore} {next : List Rule}
    {loads : List (List Rule)} {w : Watcher} {s : Service}
    (hkey : ∀ name r, known.get? name = some r → r.name = name)
    (agrees : ∀ name, (store.get? name == known.get? name) = true)
    (loaded : ∀ name r, store.get? name = some r → ∃ rules ∈ loads, r ∈ rules)
    (versioned : Versioned (next :: loads)) (accepts : s.changes.isShutDown = false)
    (hknown : w.known = rulesByName next)
    (hsettled : s.settled = store.applyAll (ruleChanges known next)) :
    Coupled (next :: loads) w s := by
  have hversions : ∀ name stored, store.get? name = some stored → ∀ r ∈ next, r.name = name →
      stored.version = r.version → (stored == r) = true := by
    intro name stored hstored r hr hname hversion
    obtain ⟨rules, hrules, hmem⟩ := loaded name stored hstored
    -- the stored rule has the name, for it equals the one that is known by it
    have hagree := agrees name
    rw [hstored] at hagree
    obtain ⟨old, hold, heq⟩ := exists_of_some_beq hagree
    have hnames : stored.name = r.name :=
      (Rule.name_eq_of_beq heq).trans ((hkey name old hold).trans hname.symm)
    exact versioned.versions rules (List.mem_cons_of_mem _ hrules) next (List.mem_cons_self ..)
      stored hmem r hr hnames hversion
  have hnext := get?_applyAll_ruleChanges hkey (versioned.distinct next (List.mem_cons_self ..))
    agrees hversions
  refine ⟨accepts, ⟨next, loads, rfl, hknown⟩, fun name => ?_, fun name r hr => ?_⟩
  · rw [hsettled, hknown]
    exact (hnext name).1
  · rw [hsettled] at hr
    rcases (hnext name).2 r hr with hr | hr
    · exact ⟨next, List.mem_cons_self .., hr⟩
    · obtain ⟨rules, hrules, hmem⟩ := loaded name r hr
      exact ⟨rules, List.mem_cons_of_mem _ hrules, hmem⟩

namespace Coupled

variable {loads : List (List Rule)} {w : Watcher} {s : Service}

/-- At the start all rules are on their way. -/
theorem start (throttle : Nat) {initial : List Rule} (versioned : Versioned [initial]) :
    Coupled [initial] (.start initial) (.start throttle initial) := by
  have hadded : ruleChanges ∅ initial = initial.map (⟨.added, ·⟩) :=
    (List.append_nil _).trans (congrFun List.filterMap_eq_map' initial)
  have hchanges : (Service.start throttle initial).changes
      = { items := (ruleChanges ∅ initial).map ({ item := · }) } := by
    rw [hadded]
    exact WorkQueue.foldl_add _ rfl
  have hkey : ∀ name r, (∅ : KeyMap String Rule).get? name = some r → r.name = name := by
    intro name r h
    cases h
  have hagrees : ∀ name, ((∅ : RuleStore).get? name == (∅ : KeyMap String Rule).get? name) = true :=
    fun _ => rfl
  have hloaded : ∀ name r, (∅ : RuleStore).get? name = some r →
      ∃ rules ∈ ([] : List (List Rule)), r ∈ rules := by
    intro name r h
    cases h
  refine coupled_of_settled hkey hagrees hloaded versioned ?_ rfl ?_
  · rw [hchanges]
  · unfold Service.settled Service.pending
    rw [hchanges, List.map_map]
    exact congrArg (RuleStore.applyAll ∅) (List.map_id _)

/-- Loading the files keeps the invariant. -/
theorem load (h : Coupled loads w s) (settings : Settings)
    (versioned : Versioned (settings.rules :: loads)) :
    Coupled (settings.rules :: loads) (s.reload w (.ok settings)).1
      (s.reload w (.ok settings)).2 := by
  obtain ⟨last, earlier, -, hknown⟩ := h.known
  have hkey : ∀ name r, w.known.get? name = some r → r.name = name := by
    intro name r hr
    rw [hknown] at hr
    exact (of_get?_rulesByName hr).2
  refine coupled_of_settled hkey h.agrees h.loaded versioned ?_ rfl
    (Service.settled_reload h.accepts w settings)
  show ((ruleChanges w.known settings.rules).foldl WorkQueue.add s.changes).isShutDown = false
  rw [WorkQueue.foldl_add _ h.accepts]
  exact h.accepts

/-- Taking a change keeps the invariant. -/
theorem take (h : Coupled loads w s) : Coupled loads w s.takeChange := by
  refine ⟨?_, h.known, ?_, ?_⟩
  · rw [Service.isShutDown_takeChange]
    exact h.accepts
  · rw [s.settled_takeChange]
    exact h.agrees
  · rw [s.settled_takeChange]
    exact h.loaded

end Coupled

/-- **The watcher and the service stay coupled.** -/
theorem Reloads.coupled {throttle : Nat} {initial : List Rule} {w : Watcher} {s : Service}
    {loads : List (List Rule)} (h : Reloads throttle initial w s loads)
    (versioned : Versioned loads) : Coupled loads w s := by
  induction h with
  | start => exact Coupled.start throttle versioned
  | load _ settings ih => exact (ih versioned.tail).load settings versioned
  | fail _ cause ih =>
    obtain ⟨accepts, known, agrees, loaded⟩ := ih versioned
    exact ⟨accepts, known, agrees, loaded⟩
  | take _ ih => exact (ih versioned).take

/-! ## Convergence -/

/-- **The rules in force converge to the files.**  However reloads, failed reloads and the taking of
    changes followed each other, if then all changes are taken, the queue is empty and the store has
    exactly the rules that were loaded last, up to equality.  What the watcher compares the next
    rules with are the rules that were loaded last; a failed reload affects neither these nor the
    service. -/
theorem Reloads.converges {throttle : Nat} {initial last : List Rule} {w : Watcher} {s : Service}
    {earlier : List (List Rule)} (h : Reloads throttle initial w s (last :: earlier))
    (versioned : Versioned (last :: earlier)) :
    s.takeChanges.changes.items = [] ∧
    (∀ r ∈ last, ∃ stored, s.takeChanges.engine.rules.get? r.name = some stored ∧
      (stored == r) = true) ∧
    (∀ name stored, s.takeChanges.engine.rules.get? name = some stored →
      ∃ r ∈ last, r.name = name ∧ (stored == r) = true) ∧
    w.known = rulesByName last ∧
    ∀ cause, (s.reload w (.error cause)).1.known = w.known ∧ (s.reload w (.error cause)).2 = s := by
  obtain ⟨hempty, hrules⟩ := s.takeChanges_spec
  have hcoupled := h.coupled versioned
  obtain ⟨last', earlier', hloads, hknown⟩ := hcoupled.known
  cases hloads
  refine ⟨hempty, fun r hr => ?_, fun name stored hstored => ?_, hknown, fun cause => ⟨rfl, rfl⟩⟩
  · have hagree := hcoupled.agrees r.name
    have hdistinct := versioned.distinct last (List.mem_cons_self ..)
    rw [hknown, get?_rulesByName_of_nodup hdistinct hr, ← hrules] at hagree
    exact exists_of_beq_some hagree
  · have hagree := hcoupled.agrees name
    rw [hrules] at hstored
    rw [hstored, hknown] at hagree
    obtain ⟨r, hlast, heq⟩ := exists_of_some_beq hagree
    obtain ⟨hmem, hname⟩ := of_get?_rulesByName hlast
    exact ⟨r, hmem, hname, heq⟩

namespace Edited

/-- A rule with a version that launches a job. -/
def rule (name version template : String) : Rule :=
  { name, resourceVersion := some version, action := .awx { template } }

/-- The rules at first. -/
def before : List Rule := [rule "a" "1" "Restart", rule "b" "1" "Clean"]

/-- The rules after one has been edited and one has been removed. -/
def after : List Rule := [rule "b" "2" "Clean up"]

/-- One change is taken, the files are edited, they cannot be read for a while, and are changed
    back: in the end the rules are in force that were there at first. -/
theorem converges_of_edited :
    ∃ w s, Reloads 10 before w s [before, after, before] ∧
      ∃ stored, s.takeChanges.engine.rules.get? "a" = some stored ∧
        (stored == rule "a" "1" "Restart") = true := by
  have begun : Reloads 10 before _ _ [before] := .start
  have run := ((begun.take.load { rules := after }).fail .noFiles).load { rules := before }
  have versioned : Versioned [before, after, before] := ⟨by decide, by decide⟩
  obtain ⟨-, hstored, -⟩ := run.converges versioned
  exact ⟨_, _, run, hstored (rule "a" "1" "Restart") (List.mem_cons_self ..)⟩

end Edited

end Healing
