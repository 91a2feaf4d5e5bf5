/-
  Reloading the rules.

  The files are read again from time to time, and the rules in them are compared with those that
  were there before.  The differences go into a queue of changes.

  1. **Differences** - `ruleChanges` from the rules known by name to a list of rules.
  2. **Watchers** - `Watcher`, and `Watcher.reload` with the outcome of reading the files.
  3. **Time** - `Watcher.runUntil` reloads in intervals.
-/
import Healing.RuleStore
import Healing.Settings
import Healing.WorkQueue

namespace Healing

/-! ## Differences -/

/-- Rules by their names; of several with one name the last. -/
def rulesByName (rules : List Rule) : KeyMap String Rule := .ofList (rules.map fun r => (r.name, r))

/-- What has happened to a rule that is there now, if anything. -/
def ruleChange? (known : KeyMap String Rule) (r : Rule) : Option RuleChange :=
  match known.get? r.name with
  | none => some ⟨.added, r⟩
  | some old => if old == r then none else some ⟨.modified, r⟩

/-- What leads from the known rules to the next ones: the rules that are new or modified, in the
    order of the next ones, and then those that are gone, by name. -/
def ruleChanges (known : KeyMap String Rule) (next : List Rule) : List RuleChange :=
  let gone := known.values.filter fun r => !next.any fun n => n.name = r.name
  next.filterMap (ruleChange? known) ++ gone.map fun r => ⟨.deleted, r⟩

/-! ## Watchers -/

/-- How often the files are read if nothing else is said. -/
def defaultReloadInterval : Duration := 30_000_000_000

/-- What a watcher of the files knows. -/
structure Watcher where
  /-- The rules that were there at the last reading, by name. -/
  known : KeyMap String Rule := ∅
  /-- The changes that have not been taken up yet. -/
  changes : WorkQueue RuleChange := {}

namespace Watcher

/-- A watcher that knows some rules. -/
def start (rules : List Rule) : Watcher := { known := rulesByName rules }

/-- Take over the outcome of reading the files: the changes to the known rules, which also go into
    the queue.  If the files could not be read, nothing changes. -/
def reload (w : Watcher) (loaded : Except SettingsError Settings) :
    Except SettingsError (List RuleChange) × Watcher :=
  match loaded with
  | .error e => (.error e, w)
  | .ok settings =>
    let changes := ruleChanges w.known settings.rules
    (.ok changes,
      { known := rulesByName settings.rules, changes := changes.foldl WorkQueue.add w.changes })

/-! ## Time -/

/-- Reload so many times. -/
def reloadTimes (loaded : Except SettingsError Settings) : Nat → Watcher → Watcher
  | 0, w => w
  | times + 1, w => reloadTimes loaded times (w.reload loaded).2

/-- How many reloads in an interval are due after one point in time and up to another, for a watcher
    that runs since `since`. -/
def dueBetween (interval since after upTo : Nat) : Nat :=
  (upTo - since) / interval - (after - since) / interval

/-- Let time pass for a watcher that runs since `since`, while the files stay as they are. -/
def runUntil (w : Watcher) (loaded : Except SettingsError Settings)
    (interval since after upTo : Nat) : Watcher :=
  reloadTimes loaded (dueBetween interval since after upTo) w

end Watcher

end Healing
