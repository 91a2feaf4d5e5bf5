/-
  Which alerts activate a rule.

  A rule is activated by an alert that has every label and annotation the rule names, with a value
  in which the pattern of the rule is found.

  1. **Patterns** - `PatternLanguage`: what it means for a pattern to be found in a value.
  2. **Constraints** - `checkPatterns` goes over the patterns in order, up to the first that is not
     satisfied.
  3. **Rules** - `Rule.matches`: labels first, then annotations.
-/
import Healing.Alert
import Healing.Rule

namespace Healing

/-! ## Patterns -/

/-- A language of patterns: the test that a pattern stands for, if it is valid. -/
abbrev PatternLanguage := String → Option (String → Bool)

/-- The two maps of an alert that patterns are about. -/
inductive PatternField where
  | labels
  | annotations
deriving DecidableEq, Repr, Inhabited

/-- The word for a map. -/
def PatternField.word : PatternField → String
  | .labels => "label"
  | .annotations => "annotation"

/-- Why it cannot be told whether a rule matches: a pattern is not valid. -/
structure PatternError where
  field : PatternField
  key : String
deriving DecidableEq, Repr, Inhabited

/-- The message of an error. -/
def PatternError.message (e : PatternError) : String :=
  "invalid " ++ e.field.word ++ " pattern for key '" ++ e.key ++ "'"

/-! ## Constraints -/

/-- Go over patterns in order: the first that names no value, is not valid or is not found
    decides. -/
def checkPatterns (language : PatternLanguage) (field : PatternField)
    (values : KeyMap String String) : List (String × String) → Except PatternError Bool
  | [] => .ok true
  | (key, pattern) :: r =>
    match values.get? key with
    | none => .ok false
    | some value =>
      match language pattern with
      | none => .error ⟨field, key⟩
      | some found => if found value then checkPatterns language field values r else .ok false

/-! ## Rules -/

/-- Whether an alert activates a rule. -/
def Rule.matches (language : PatternLanguage) (r : Rule) (a : Alert) : Except PatternError Bool :=
  match checkPatterns language .labels a.labels r.labels.entries with
  | .ok true => checkPatterns language .annotations a.annotations r.annotations.entries
  | other => other

end Healing
