/-
  Sets of characters by the names of their properties.

  1. **Names** - `normalName`: names are compared without regard to case, spaces, dashes and an "is"
     in front.
  2. **Families** - the categories, scripts, ages and other properties, each by name.
  3. **Queries** - `named?` for a name alone, `valued?` for a property with a value.
  4. **Case** - `foldCase` adds the characters that differ only in case.
  5. **Classes** - `digits`, `blanks`, `wordChars`.
-/
import Healing.Pattern.CharSet
import Healing.Pattern.Unicode.Age
import Healing.Pattern.Unicode.Category
import Healing.Pattern.Unicode.Folding
import Healing.Pattern.Unicode.Property
import Healing.Pattern.Unicode.Script
import Healing.Pattern.Unicode.ScriptExtension

namespace Healing.Pattern.Unicode

/-! ## Names -/

/-- A name as it is compared: in lower case, without blanks and dashes, characters beyond ASCII and
    an "is" in front.  What is left of "isc" is not cut down to the name of another property. -/
def normalName (name : String) : String :=
  let cs := name.toList
  let (marked, r) := match cs with
    | i :: s :: r => if i.toLower = 'i' && s.toLower = 's' then (true, r) else (false, cs)
    | _ => (false, cs)
  let kept := (r.filter fun c => c.toNat ≤ 0x7F && c ≠ ' ' && c ≠ '_' && c ≠ '-').map Char.toLower
  if marked && kept = ['c'] then "isc" else String.ofList kept

/-- The entry of a table under one of its names. -/
def lookup? {α : Type} (table : List (List String × α)) (name : String) : Option α :=
  (table.find? fun e => e.1.contains name).map (·.2)

/-! ## Families -/

/-- The ranges of some texts. -/
def readTexts (texts : List String) : List (Nat × Nat) := texts.flatMap CharSet.readRanges

/-- The set of the characters in the ranges of some texts. -/
def setOf (texts : List String) : CharSet := .ofRanges (readTexts texts)

/-- The characters that have a category of their own. -/
def assigned : CharSet :=
  .ofRanges (categories.flatMap fun e => readTexts e.2)

/-- The characters without a category; the halves of pairs of code units are no characters. -/
def unassigned : CharSet := (assigned.union (.range 0xD800 0xDFFF)).complement

/-- The characters of some categories. -/
def ofCategories (names : List String) : CharSet :=
  .ofRanges (names.flatMap fun n => (lookup? categories n).elim [] readTexts)

/-- The characters of a category or a group of categories. -/
def category? (name : String) : Option CharSet :=
  if name = "any" then some .all
  else if name = "assigned" then some unassigned.complement
  else if name = "ascii" then some .ascii
  else if ["cn", "unassigned"].contains name then some unassigned
  else if ["c", "other"].contains name then
    some (unassigned.union (ofCategories ["cc", "cf", "co"]))
  else
    ((lookup? categories name).map setOf).or
      ((lookup? categoryGroups name).map ofCategories)

/-- The characters of a script. -/
def script? (name : String) : Option CharSet := (lookup? scripts name).map setOf

/-- The characters that are used in a script. -/
def scriptExtension? (name : String) : Option CharSet :=
  ((lookup? unextendedScripts name).map setOf).or
    ((script? name).map fun own =>
      own.union (((lookup? scriptExtensions name).map setOf).getD .empty))

/-- The characters that were there at an age. -/
def age? (name : String) : Option CharSet :=
  match ages.findIdx? fun e => e.1.contains name with
  | some i => some (.ofRanges ((ages.take (i + 1)).flatMap fun e => readTexts e.2))
  | none => none

/-- The characters with a property that holds or does not hold. -/
def property? (name : String) : Option CharSet := (lookup? properties name).map setOf

/-! ## Queries -/

/-- The characters that a name alone stands for: those of a property, a category or a script. -/
def named? (name : String) : Option CharSet :=
  let n := normalName name
  (property? n).or ((category? n).or (script? n))

/-- The characters for which a property has a value. -/
def valued? (property value : String) : Option CharSet :=
  let v := normalName value
  match normalName property with
  | "gc" => category? v
  | "generalcategory" => category? v
  | "sc" => script? v
  | "script" => script? v
  | "scx" => scriptExtension? v
  | "scriptextensions" => scriptExtension? v
  | "age" => age? v
  | _ => none

/-! ## Case -/

/-- The pairs of characters and what they fold to, for one run of them. -/
def readFolding (text : List Char) : List (Nat × Nat) :=
  match CharSet.splitAtMark ':' [] text with
  | [source, target] =>
    let (range, step) := match CharSet.splitAtMark '/' [] source with
      | [range, step] => (CharSet.readRange range, CharSet.hexNumber step)
      | _ => (CharSet.readRange source, 1)
    (List.range ((range.2 - range.1) / step + 1)).map fun i =>
      (range.1 + i * step, CharSet.hexNumber target + i * step)
  | _ => []

/-- The characters that do not fold to themselves, and what they fold to. -/
def foldingPairs : List (Nat × Nat) :=
  foldings.flatMap fun t => (CharSet.splitAtMark ' ' [] t.toList).flatMap readFolding

/-- A set with all characters that differ only in case from one of its own, where `pairs` says what
    characters fold to. -/
def addCases (pairs : List (Nat × Nat)) (s : CharSet) : CharSet :=
  let targets := (pairs.filter fun p => s.contains p.1 || s.contains p.2).map (·.2)
  let sources := (pairs.filter fun p => targets.contains p.2).map (·.1)
  s.union (.ofRanges ((targets ++ sources).map fun c => (c, c)))

/-- A set with all characters that differ only in case from one of its own. -/
def foldCase (s : CharSet) : CharSet := addCases foldingPairs s

/-- `foldCase` for sets of ASCII characters. -/
def foldAsciiCase (s : CharSet) : CharSet :=
  addCases ((List.range 26).map fun i => (0x41 + i, 0x61 + i)) s

/-! ## Classes -/

/-- The decimal digits. -/
def digits : CharSet := ofCategories ["nd"]

/-- The blanks. -/
def blanks : CharSet := (property? "whitespace").getD .empty

/-- The characters that words are made of: letters and the like, marks, digits, connecting dashes
    and what joins characters. -/
def wordChars : CharSet :=
  ((property? "alphabetic").getD .empty).union <|
    (ofCategories ["mn", "mc", "me", "nd", "pc"]).union ((property? "joinc").getD .empty)

end Healing.Pattern.Unicode
