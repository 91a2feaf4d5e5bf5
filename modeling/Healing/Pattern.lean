/-
  The language of the patterns in rules.

  Patterns are regular expressions without references to groups and without conditions on what
  stands around.  A pattern is valid if it is well formed and not too large, and it is found in a
  value if it matches a part of it.

  1. **Languages** - `Pattern.language`.
-/
import Healing.Matching
import Healing.Pattern.Search
import Healing.Pattern.Syntax
import Healing.Pattern.Weight

namespace Healing.Pattern

/-! ## Languages -/

/-- The language of regular expressions. -/
def language : PatternLanguage := fun text =>
  match Regex.ofText? text with
  | none => none
  | some r =>
    if r.fits then some (finds r.program) else none

end Healing.Pattern
