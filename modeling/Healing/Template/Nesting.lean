/-
  From tokens to templates.

  Blocks open and close like brackets, so the tokens are taken one by one with the blocks that are
  still open at hand.  On the way blanks are dropped: those that a tag asks to drop, and the rest of
  the line of a tag that has its line to itself.

  1. **Open blocks** - `Opened`: what a block needs to be finished.
  2. **Blanks** - `Building.trimBefore`, `Building.trimText`, `Building.standAlone`.
  3. **Steps** - `Building.take` takes one token; `ofTokens?` takes all and wants every block
     closed.
  4. **Texts** - `ofText?` reads a whole text.
-/
import Healing.Template.Token

namespace Healing.Template

/-! ## Open blocks -/

/-- The head of a branch of a block: its helper, and whether its tag had its line to itself. -/
structure Head where
  expr : Expression
  standalone : Bool
deriving Repr, Inhabited

/-- A block that has not been closed. -/
structure Opened where
  kind : BlockKind
  /-- What the block was opened with. -/
  expr : Expression
  /-- The blanks before the tag that opened it. -/
  indent : Option String
  /-- Whether the tag that opened it had its line to itself. -/
  standalone : Bool
  /-- The head of the branch that is being built; none for the last alternative. -/
  head : Option Head
  /-- The branches before it, the last one first. -/
  branches : List (Head × List Element)
  /-- The elements before the block, in reverse. -/
  before : List Element
deriving Repr, Inhabited

/-- A template under construction. -/
structure Building where
  /-- The elements of the innermost open block, in reverse. -/
  current : List Element := []
  /-- The open blocks, the innermost first. -/
  opened : List Opened := []
  /-- Whether the next text loses the blanks at its start. -/
  dropBlanks : Bool := false
  /-- Whether the next text loses the rest of its first line. -/
  dropLine : Bool := false
deriving Repr, Inhabited

/-! ## Blanks -/

/-- Apply a function to the last element, in reverse the first, if it is text. -/
def mapLastText (f : List Char → List Char) : List Element → List Element
  | .text s :: r => .text (String.ofList (f s.toList)) :: r
  | l => l

/-- Drop one line end at the start. -/
def dropLineEnd : List Char → List Char
  | '\r' :: '\n' :: r => r
  | '\n' :: r => r
  | cs => cs

/-- Drop the blanks at the end of the text before a tag that asks for it; the text behind the tag is
    treated as this tag says. -/
def Building.trimAround (b : Building) (tag : TrimmedTag) : Building :=
  { b with
    current := if tag.trimBefore then mapLastText Text.trimEnd b.current else b.current
    dropBlanks := tag.trimAfter }

/-- What is left of a text once the tag before it has had its way. -/
def Building.trimText (b : Building) (cs : List Char) : List Char :=
  if b.dropBlanks then Text.trimStart cs
  else if b.dropLine then dropLineEnd (cs.dropWhile isInlineBlank)
  else cs

/-- A tag with nothing else on its line takes the whole line away. -/
def Building.standAlone (b : Building) (around : Surroundings) : Building :=
  if around.closesLine && around.opensLine then
    { b with
      current := mapLastText (Text.dropEndWhile isInlineBlank) b.current
      dropLine := true }
  else { b with dropLine := false }

/-! ## Steps -/

/-- Put an element behind the others. -/
def Building.push (b : Building) (e : Element) : Building := { b with current := e :: b.current }

/-- Put text behind the other elements; blanks that are to be dropped leave no element. -/
def Building.pushText (b : Building) (cs : List Char) : Building :=
  if b.dropBlanks && (skipBlanks cs).isEmpty then b
  else { b.push (.text (String.ofList (b.trimText cs))) with dropLine := false }

/-- The alternative that the branches of a block make up from the last one on. -/
def chain (last : Option (List Element)) : List (Head × List Element) → Option (List Element)
  | [] => last
  | (h, body) :: outer => chain (some [.block h.expr body last h.standalone]) outer

/-- The element that an open helper makes up when it is closed after the elements `body`. -/
def Opened.finish (o : Opened) (body : List Element) : Option Element :=
  let branches := match o.head with
    | some h => (h, body) :: o.branches
    | none => o.branches
  let last := match o.head with
    | some _ => none
    | none => some body
  match chain last branches with
  | some [e] => some e
  | _ => none

/-- The element of a closed block. -/
def Opened.element (o : Opened) (body : List Element) : Option Element :=
  match o.kind with
  | .helper | .raw => o.finish body
  | .decorator => some (.decorator o.expr (some body))
  | .fragment => some (.include o.expr (some body) o.indent o.standalone)

/-- Close the innermost block if it is the one that the end names. -/
def Building.close (b : Building) (fits : Opened → Bool) : Option Building :=
  match b.opened with
  | o :: outer =>
    if fits o then
      (o.element b.current.reverse).map fun e =>
        { b with current := e :: o.before, opened := outer }
    else none
  | [] => none

/-- Go on to the next branch of the innermost block, which has to be a helper without a last
    alternative. -/
def Building.alternate (b : Building) (expr : Option Expression) (standalone : Bool) :
    Option Building :=
  match b.opened with
  | o :: outer =>
    match o.kind, o.head with
    | .helper, some h =>
      let o := { o with
        head := expr.map fun e => ⟨e, standalone⟩
        branches := (h, b.current.reverse) :: o.branches }
      some { b with current := [], opened := o :: outer }
    | _, _ => none
  | [] => none

/-- The blanks before a tag, if there are any and the tag does not drop them. -/
def indentOf (tag : TrimmedTag) (around : Surroundings) : Option String :=
  if tag.trimBefore || around.indent.isEmpty then none else some (String.ofList around.indent)

/-- Whether a block's end names what the block was opened with. -/
def closes (word fragment : Option String) (o : Opened) : Bool :=
  match o.kind with
  | .raw => false
  | .fragment => fragment.isSome && o.expr.name.written? == fragment
  | _ => word.isSome && o.expr.name.written? == word

/-- Take a tag. -/
def Building.takeTag (b : Building) (tag : TrimmedTag) (around : Surroundings) :
    Option Building :=
  let trimmed := b.trimAround tag
  let alone := trimmed.standAlone around
  let standalone := alone.dropLine && !tag.trimBefore
  match tag.tag with
  | .output e => some (trimmed.push (.output e))
  | .comment => some ((b.standAlone around).push .comment)
  | .decorate e => some (alone.push (.decorator e none))
  | .include e => some (alone.push (.include e none (indentOf tag around) standalone))
  | .start kind e =>
    some { alone with
      current := []
      opened := {
        kind, expr := e, indent := none, standalone, head := some ⟨e, standalone⟩,
        branches := [], before := alone.current } :: alone.opened }
  | .alternative e => alone.alternate e standalone
  | .close word fragment => alone.close (closes word fragment)
  | .closeRaw word =>
    alone.close fun o => o.kind == .raw && o.expr.name.written? == some word

/-- Take a token. -/
def Building.take (b : Building) : Token → Option Building
  | .text cs => some (b.pushText cs)
  | .tag tag around => b.takeTag tag around

/-- The template that the tokens spell out; none unless every block is closed. -/
def ofTokens? (tokens : List Token) : Option Template :=
  (tokens.foldlM Building.take ({} : Building)).bind fun b =>
    if b.opened.isEmpty then some b.current.reverse else none

/-! ## Texts -/

/-- The template that a text spells out; none if it is malformed. -/
def ofText? (text : String) : Option Template := (Token.ofText? text.toList).bind ofTokens?

end Healing.Template
