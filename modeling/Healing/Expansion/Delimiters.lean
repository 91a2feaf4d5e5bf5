/-
  Delimiters of templates.

  An action may carry text with templates of another program in it, so a rule can choose the marks
  that its own expressions stand between.  Such a text is rewritten with the usual marks: what
  stands between a pair of marks becomes an expression, and double braces in all else are escaped.

  1. **Delimiters** - `Delimiters`, by default double braces.
  2. **Pairs** - `Delimiters.nextPair?` finds the first pair of marks.
  3. **Rewriting** - `Delimiters.rewrite?`; with two empty marks there is no end to the pairs.
-/
import Healing.Document
import Healing.Text.Search

namespace Healing

/-! ## Delimiters -/

/-- The marks before and behind an expression. -/
structure Delimiters where
  left : String := "\x7b\x7b"
  right : String := "\x7d\x7d"
deriving DecidableEq, Repr, Inhabited

namespace Delimiters

/-- Read delimiters; both marks have to be given. -/
def read (d : Document) : Except ReadError Delimiters := do
  let (s, _) ← d.record ["left", "right"] ((none, none) : Option String × Option String)
    fun s name d =>
      match name with
      | "left" => do .ok (some (← d.text), s.2)
      | _ => do .ok (s.1, some (← d.text))
  .ok { left := ← Document.required s.1, right := ← Document.required s.2 }

/-- The delimiters as a value. -/
def toJson (d : Delimiters) : Json := .obj [("left", .str d.left), ("right", .str d.right)]

/-! ## Pairs -/

/-- The first pair of marks: the text before it, inside it and behind it. -/
def nextPair? (d : Delimiters) (cs : List Char) : Option (List Char × List Char × List Char) :=
  (Text.cutAt? d.left.toList cs).bind fun (before, r) =>
    (Text.cutAt? d.right.toList r).map fun (inside, behind) => (before, inside, behind)

/-! ## Rewriting -/

/-- Put a backslash before double braces. -/
def escapeBraces : List Char → List Char
  | '{' :: '{' :: r => '\\' :: '{' :: '{' :: escapeBraces r
  | c :: r => c :: escapeBraces r
  | [] => []

/-- Rewrite up to so many pairs; none if there are more. -/
def rewritePairs (d : Delimiters) : Nat → List Char → Option (List Char)
  | 0, _ => none
  | fuel + 1, cs =>
    match d.nextPair? cs with
    | none => some (escapeBraces cs)
    | some (before, inside, behind) =>
      (d.rewritePairs fuel behind).map fun r =>
        escapeBraces before ++ ('{' :: '{' :: inside) ++ ('}' :: '}' :: r)

/-- Rewrite a text with the usual marks; none if its pairs never end. -/
def rewrite? (d : Delimiters) (text : String) : Option String :=
  if d = {} then some text
  else (d.rewritePairs (text.length + 1) text.toList).map String.ofList

end Delimiters

end Healing
