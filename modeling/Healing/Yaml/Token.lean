/-
  Tokens of a YAML text.

  Indentation is made explicit: a token opens and another closes each indented list or map.  That
  something was the key of a map shows only at the colon behind it, so a place that may turn out to
  be a key is remembered, and the tokens that it then wants are put in at that place.

  1. **Tokens** - `Token`.
  2. **Lexers** - `Lexer`: the tokens so far, the indentation and the possible keys.
  3. **Keys and indentation** - `noteKey`, `dropKey`, `dropStale`, `indentTo`, `dedentTo`.
  4. **Single tokens** - one function for each kind of token.
  5. **Steps** - `Lexer.step` reads the next token.
  6. **Whole texts** - `tokens` gives the tokens up to the first fault; only a text without a fault
     ends in `Token.finish`.
-/
import Healing.Yaml.Scalar
import Healing.Yaml.Scalar.Block
import Healing.Yaml.Scalar.Plain
import Healing.Yaml.Tag

namespace Healing.Yaml

/-! ## Tokens -/

/-- The smallest parts of a text that have a meaning. -/
inductive Token where
  | directive (value : Directive)
  /-- The mark `---`. -/
  | documentStart
  /-- The mark `...`. -/
  | documentEnd
  | openIndentedList
  | openIndentedMap
  /-- The end of an indented list or map. -/
  | closeIndented
  | openList
  | closeList
  | openMap
  | closeMap
  /-- A line that starts an item of an indented list. -/
  | dash
  | comma
  | key
  | value
  | alias (name : String)
  | anchor (name : String)
  | tag (name : TagName)
  | scalar (text : String) (style : ScalarStyle)
  /-- The end of the text. -/
  | finish
deriving Repr, DecidableEq, Inhabited

/-! ## Lexers -/

/-- A place that may turn out to be a key. -/
structure PossibleKey where
  /-- How many tokens stand ahead of it. -/
  number : Nat
  index : Nat
  line : Nat
  column : Nat
  /-- Whether anything but a key is a fault here. -/
  required : Bool
deriving Repr, Inhabited

/-- What is known about a text up to a place. -/
structure Lexer where
  cursor : Cursor
  tokens : Array Token := #[]
  /-- The column of the innermost indented list or map, -1 outside of all. -/
  indent : Int := -1
  /-- The columns of the lists and maps around it. -/
  outer : List Int := []
  /-- Whether a key may start here. -/
  keyAllowed : Bool := true
  /-- The possible key of the innermost brackets, and of those around it, and outside of all. -/
  keys : List (Option PossibleKey) := [none]
  /-- No less than the length of the text. -/
  size : Nat
deriving Inhabited

namespace Lexer

/-- Whether the place is within brackets. -/
def inFlow (x : Lexer) : Bool := x.keys.length > 1

/-- Add a token behind all others. -/
def push (x : Lexer) (t : Token) : Lexer := { x with tokens := x.tokens.push t }

/-- Put in a token at a place. -/
def insertAt (x : Lexer) (number : Nat) (t : Token) : Lexer :=
  { x with tokens := x.tokens.insertIdxIfInBounds number t }

/-- Move over some characters and add a token for them. -/
def pushOver (x : Lexer) (count : Nat) (t : Token) : Lexer :=
  { x with tokens := x.tokens.push t, cursor := x.cursor.advance count }

/-! ## Keys and indentation -/

/-- Forget the possible key of the innermost brackets; it is a fault if a key is required there. -/
def dropKey (x : Lexer) : Option Lexer :=
  match x.keys with
  | some k :: r => if k.required then none else some { x with keys := none :: r }
  | _ => some x

/-- Remember this place as a possible key, if a key may start here.  Where a line of an indented map
    starts, a key is required. -/
def noteKey (x : Lexer) : Option Lexer :=
  if x.keyAllowed then do
    let x ← x.dropKey
    let c := x.cursor
    let required := !x.inFlow && x.indent = (c.column : Int)
    let k : PossibleKey :=
      { number := x.tokens.size, index := c.index, line := c.line, column := c.column, required }
    some { x with keys := some k :: x.keys.tail }
  else some x

/-- How many characters a key may have. -/
def longestKey : Nat := 1024

/-- Whether a possible key cannot be one any more: keys are short and end on their line. -/
def isStale (c : Cursor) (k : PossibleKey) : Bool :=
  k.line < c.line || k.index + longestKey < c.index

/-- Forget the possible keys that are stale. -/
def dropStale (x : Lexer) : Option Lexer :=
  let stale := fun (k : PossibleKey) => isStale x.cursor k
  if x.keys.any fun k => k.any fun k => k.required && stale k then none
  else some { x with keys := x.keys.map fun k => k.filter fun k => !stale k }

/-- Open an indented list or map at a column, unless one of this indentation is open.  The token is
    put in at `number`, or behind all others. -/
def indentTo (x : Lexer) (column : Nat) (number : Option Nat) (t : Token) : Lexer :=
  if !x.inFlow && x.indent < (column : Int) then
    let x := { x with indent := column, outer := x.indent :: x.outer }
    match number with
    | some n => x.insertAt n t
    | none => x.push t
  else x

/-- Close indented lists and maps until none stands right of the column. -/
def closeTo (column : Int) : List Int → Int → Array Token → Int × List Int × Array Token
  | [], indent, ts => (indent, [], ts)
  | o :: r, indent, ts =>
    if indent > column then closeTo column r o (ts.push .closeIndented) else (indent, o :: r, ts)

/-- Close the indented lists and maps that stand right of a column. -/
def dedentTo (x : Lexer) (column : Int) : Lexer :=
  if x.inFlow then x
  else
    let (indent, outer, tokens) := closeTo column x.outer x.indent x.tokens
    { x with indent, outer, tokens }

/-! ## Single tokens -/

/-- End all indentation, as at the start or the end of a document. -/
def endDocument (x : Lexer) : Option Lexer := do
  let x ← (x.dedentTo (-1)).dropKey
  some { x with keyAllowed := false }

/-- The end of the text. -/
def takeFinish (x : Lexer) : Option Lexer := do
  let x ← x.endDocument
  some (x.push .finish)

/-- A directive. -/
def takeDirective (x : Lexer) : Option Lexer := do
  let x ← x.endDocument
  let (d, cursor) ← x.cursor.takeDirective x.size
  some ({ x with cursor }.push (.directive d))

/-- A mark between documents. -/
def takeMark (x : Lexer) : Option Lexer := do
  let x ← x.endDocument
  some (x.pushOver 3 (if x.cursor.sees '-' then .documentStart else .documentEnd))

/-- An opening bracket. -/
def takeOpening (x : Lexer) (t : Token) : Option Lexer := do
  let x ← x.noteKey
  some ({ x with keys := none :: x.keys, keyAllowed := true }.pushOver 1 t)

/-- A closing bracket. -/
def takeClosing (x : Lexer) (t : Token) : Option Lexer := do
  let x ← x.dropKey
  let keys := if x.inFlow then x.keys.tail else x.keys
  some ({ x with keys, keyAllowed := false }.pushOver 1 t)

/-- A comma within brackets. -/
def takeComma (x : Lexer) : Option Lexer := do
  let x ← x.dropKey
  some ({ x with keyAllowed := true }.pushOver 1 .comma)

/-- The start of an item of an indented list. -/
def takeDash (x : Lexer) : Option Lexer := do
  if x.inFlow || x.keyAllowed then
    let x ← (x.indentTo x.cursor.column none .openIndentedList).dropKey
    some ({ x with keyAllowed := true }.pushOver 1 .dash)
  else none

/-- A question mark, which announces a key. -/
def takeKeyMark (x : Lexer) : Option Lexer := do
  if x.inFlow || x.keyAllowed then
    let x ← (x.indentTo x.cursor.column none .openIndentedMap).dropKey
    some ({ x with keyAllowed := !x.inFlow }.pushOver 1 .key)
  else none

/-- A colon: what stands at the possible key is one. -/
def takeColon (x : Lexer) : Option Lexer :=
  match x.keys with
  | some k :: r =>
    let x := { x.insertAt k.number .key with keys := none :: r, keyAllowed := false }
    let x := x.indentTo k.column (some k.number) .openIndentedMap
    some (x.pushOver 1 .value)
  | _ =>
    if x.inFlow || x.keyAllowed then
      let x := x.indentTo x.cursor.column none .openIndentedMap
      some ({ x with keyAllowed := !x.inFlow }.pushOver 1 .value)
    else none

/-- A token that may be, or may start, a key: its text is read by `take`. -/
def takeKeyed (x : Lexer) (take : Cursor → Option (Token × Cursor)) : Option Lexer := do
  let x ← x.noteKey
  let (t, cursor) ← take x.cursor
  some ({ x with cursor, keyAllowed := false }.push t)

/-- A tag; a comma may follow it within brackets. -/
def takeTag (x : Lexer) : Option Lexer := do
  let x ← x.takeKeyed fun c => (c.takeTag x.size).map fun (t, c) => (.tag t, c)
  if (x.inFlow && x.cursor.sees ',') || endsWord x.cursor.rest then some x else none

/-- A block scalar. -/
def takeBlock (x : Lexer) (style : ScalarStyle) : Option Lexer := do
  let x ← x.dropKey
  let (text, cursor) ← (x.cursor.advance 1).takeBlock (style = .folded) x.indent x.size
  some ({ x with cursor, keyAllowed := true }.push (.scalar text style))

/-- A scalar between quotes. -/
def takeQuoted (x : Lexer) (quote : Char) : Option Lexer :=
  x.takeKeyed fun c => do
    let (text, c) ← (c.advance 1).takeQuoted quote (x.size + 1) ""
    some (.scalar text .quoted, c)

/-- A plain scalar; a key may start behind it if a line ends there. -/
def takePlain (x : Lexer) : Option Lexer := do
  let x ← x.noteKey
  let (text, gap, cursor) ← x.cursor.takePlain x.inFlow (x.indent + 1) (x.size + 1) "" {}
  some ({ x with cursor, keyAllowed := gap.broken }.push (.scalar text .plain))

/-! ## Steps -/

/-- Move over blanks, comments and line breaks.  Outside of brackets, tabs may not stand where a key
    may start, and a key may start behind a line break. -/
def skipBlanks : Nat → Lexer → Lexer
  | 0, x => x
  | fuel + 1, x =>
    let tabs := x.inFlow || !x.keyAllowed
    let c := (x.cursor.skipRun fun c => c = ' ' || (tabs && c = '\t')).skipComment
    match c.takeBreak? with
    | some (_, c) => skipBlanks fuel { x with cursor := c, keyAllowed := !x.inFlow || x.keyAllowed }
    | none => { x with cursor := c }

/-- A byte order mark may start a text. -/
def skipByteOrderMark (x : Lexer) : Lexer :=
  if x.cursor.index = 0 && x.cursor.sees '\uFEFF' then { x with cursor := x.cursor.advance 1 }
  else x

/-- The characters that no plain scalar starts with. -/
def indicators : List Char :=
  ['-', '?', ':', ',', '[', ']', '{', '}', '#', '&', '*', '!', '|', '>', '\'', '"', '%', '@', '`']

/-- Whether a plain scalar starts with the character `c` ahead of `r`. -/
def startsPlain (inFlow : Bool) (c : Char) (r : List Char) : Bool :=
  !(isSpace c || indicators.contains c) || (c = '-' && !(r.head?.any isBlank))
    || (!inFlow && (c = '?' || c = ':') && !endsWord r)

/-- Read the token that starts at the cursor. -/
def takeToken (x : Lexer) : Option Lexer :=
  match x.cursor.rest with
  | [] => x.takeFinish
  | c :: r =>
    if x.cursor.column = 0 && c = '%' then x.takeDirective
    else if x.cursor.atMark then x.takeMark
    else
      let plain := if startsPlain x.inFlow c r then x.takePlain else none
      match c with
      | '[' => x.takeOpening .openList
      | '{' => x.takeOpening .openMap
      | ']' => x.takeClosing .closeList
      | '}' => x.takeClosing .closeMap
      | ',' => x.takeComma
      | '-' => if endsWord r then x.takeDash else plain
      | '?' => if x.inFlow || endsWord r then x.takeKeyMark else plain
      | ':' => if x.inFlow || endsWord r then x.takeColon else plain
      | '*' => x.takeKeyed fun c => c.takeName.map fun (n, c) => (.alias n, c)
      | '&' => x.takeKeyed fun c => c.takeName.map fun (n, c) => (.anchor n, c)
      | '!' => x.takeTag
      | '|' => if x.inFlow then none else x.takeBlock .literal
      | '>' => if x.inFlow then none else x.takeBlock .folded
      | '\'' => x.takeQuoted '\''
      | '"' => x.takeQuoted '"'
      | _ => plain

/-- Read the next token, and look at once whether a key that it should have been still can be
    one. -/
def step (x : Lexer) : Option Lexer := do
  let x ← (skipBlanks (x.size + 1) x.skipByteOrderMark).dropStale
  let x ← (x.dedentTo x.cursor.column).takeToken
  x.dropStale

/-! ## Whole texts -/

/-- How many tokens stand ahead of all possible keys. -/
def settled (x : Lexer) : Nat :=
  x.keys.foldl (fun n k => match k with
    | some k => min n k.number
    | none => n) x.tokens.size

/-- Read on to the end or to a fault.  Behind a fault, the tokens that stand ahead of all possible
    keys are sure. -/
def run : Nat → Lexer → List Token
  | 0, x => x.tokens.toList
  | fuel + 1, x =>
    match x.step with
    | none => (x.tokens.take x.settled).toList
    | some y => if y.tokens.back? == some .finish then y.tokens.toList else run fuel y

end Lexer

/-- The tokens of a text up to the first fault. -/
def tokens (text : String) : List Token :=
  let cs := text.toList
  if cs.all isPrintable then
    Lexer.run (2 * cs.length + 2) { cursor := { rest := cs }, size := cs.length }
  else []

end Healing.Yaml
