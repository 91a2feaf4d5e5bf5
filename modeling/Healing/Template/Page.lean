/-
  The text that a template grows.

  A page remembers whether it stands at the start of a line, because the lines of an included
  fragment are indented like the tag that includes it.

  1. **Pages** - `Page` and `Page.write`.
  2. **Indentation** - `indented` puts blanks behind the line ends of a text.
-/
namespace Healing.Template

/-! ## Indentation -/

/-- Put blanks behind every line end but one at the very end. -/
def indented (indent : List Char) : List Char → List Char
  | [] => []
  | ['\n'] => ['\n']
  | '\n' :: r => '\n' :: (indent ++ indented indent r)
  | c :: r => c :: indented indent r

/-- Whether a character ends a line. -/
def endsLine (c : Char) : Bool := c = '\n' || c = '\r'

/-! ## Pages -/

/-- The text so far. -/
structure Page where
  text : String := ""
  /-- Whether the text ends with a line end, or there is none yet. -/
  lineStart : Bool := true
  /-- Whether anything has been written since this was last cleared. -/
  written : Bool := false
  /-- Whether blanks are due before the next text. -/
  indentDue : Bool := false
deriving Repr, Inhabited

/-- Write a text with the indentation that is in force. -/
def Page.write (p : Page) (indent : Option String) (s : String) : Page :=
  if s.isEmpty then p
  else
    let cs := s.toList
    let body := match indent with
      | none => s
      | some blanks =>
        let first := !(cs.head?.any endsLine) && p.indentDue
        (if first then blanks else "") ++ String.ofList (indented blanks.toList cs)
    let atEnd := cs.getLast?.any endsLine
    { text := p.text ++ body, lineStart := atEnd, written := true, indentDue := atEnd }

end Healing.Template
