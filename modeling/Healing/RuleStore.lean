/-
  The rules in force.

  1. **Changes** - `RuleChange`: a rule has been added, modified or deleted.
  2. **Stores** - `RuleStore`, a map of rules by their names.
  3. **Operations** - `upsert` replaces a rule only by one of another version; `delete`; `apply`.
-/
import Healing.Rule

namespace Healing

/-! ## Changes -/

/-- What has happened to a rule. -/
inductive ChangeKind where
  | added
  | modified
  | deleted
deriving DecidableEq, Repr, Inhabited

/-- A change of one rule. -/
structure RuleChange where
  kind : ChangeKind
  rule : Rule
deriving BEq, Inhabited

/-! ## Stores -/

/-- The rules by their names. -/
abbrev RuleStore := KeyMap String Rule

/-- What has become of a rule that was to be stored. -/
inductive Upserted where
  | inserted
  | replaced
  /-- A rule of the same version is stored already. -/
  | unchanged
deriving DecidableEq, Repr, Inhabited

namespace RuleStore

/-! ## Operations -/

/-- What becomes of a rule that is to be stored. -/
def outcome (s : RuleStore) (r : Rule) : Upserted :=
  match s.get? r.name with
  | none => .inserted
  | some stored => if stored.version ≠ r.version then .replaced else .unchanged

/-- Store a rule, unless one of the same version is stored. -/
def upsert (s : RuleStore) (r : Rule) : RuleStore :=
  match outcome s r with
  | .unchanged => s
  | _ => s.insert r.name r

/-- Remove the rule with a name, and tell whether there was one. -/
def delete (s : RuleStore) (name : String) : Bool × RuleStore := (s.contains name, s.erase name)

/-- Apply a change. -/
def apply (s : RuleStore) (c : RuleChange) : RuleStore :=
  match c.kind with
  | .added | .modified => upsert s c.rule
  | .deleted => (delete s c.rule.name).2

/-- The rules of the store. -/
def snapshot (s : RuleStore) : List Rule := s.values

end RuleStore

end Healing
