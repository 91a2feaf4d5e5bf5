/-
  The tokens of a template: text and tags.

  1. **Text** - `readText` takes the text up to the next tag; a backslash before double braces makes
     them text, and several backslashes lose one.
  2. **Tags** - `Tag` and `readTag`, which tries the kinds of tags in a fixed order.
  3. **Surroundings** - a token knows whether its tag has its line to itself.
  4. **Tokens** - `Token.ofText?` cuts a whole text.
-/
import Healing.Template.Expression
import Healing.Text.Blank

namespace Healing.Template

open Text (dropPrefix? cutAt?)

/-! ## Text -/

/-- Take text up to an unescaped mark `stop`, which starts with double braces.  Gives the text
    without the backslashes of escapes, the text as it is written in reverse, and the rest. -/
def readText (stop : List Char) : Nat → List Char → List Char → List Char →
    List Char × List Char × List Char
  | 0, cs, text, seen => (text.reverse, seen, cs)
  | _ + 1, [], text, seen => (text.reverse, seen, [])
  | fuel + 1, '\\' :: '{' :: '{' :: '{' :: '{' :: r, text, seen =>
    readText stop fuel r ('{' :: '{' :: '{' :: '{' :: text)
      ('{' :: '{' :: '{' :: '{' :: '\\' :: seen)
  | fuel + 1, '\\' :: '{' :: '{' :: r, text, seen =>
    readText stop fuel r ('{' :: '{' :: text) ('{' :: '{' :: '\\' :: seen)
  | fuel + 1, '\\' :: '\\' :: r, text, seen =>
    let slashes := '\\' :: '\\' :: r.takeWhile (· = '\\')
    match r.dropWhile (· = '\\') with
    | '{' :: '{' :: r' =>
      readText stop fuel ('{' :: '{' :: r') (slashes.tail ++ text) (slashes ++ seen)
    | r' => readText stop fuel r' (slashes ++ text) (slashes ++ seen)
  | fuel + 1, c :: r, text, seen =>
    if (dropPrefix? stop (c :: r)).isSome then (text.reverse, seen, c :: r)
    else readText stop fuel r (c :: text) (c :: seen)

/-! ## Tags -/

/-- The kinds of blocks. -/
inductive BlockKind where
  | helper
  | raw
  | decorator
  | fragment
deriving DecidableEq, Repr, Inhabited

/-- A tag. -/
inductive Tag where
  /-- Show a value or the output of a helper. -/
  | output (expr : Expression)
  | comment
  | decorate (expr : Expression)
  | include (expr : Expression)
  | start (kind : BlockKind) (expr : Expression)
  /-- The alternative of a block, with a helper of its own or without. -/
  | alternative (expr : Option Expression)
  /-- The end of a block, with its name as a word and as the name of a fragment. -/
  | close (word : Option String) (fragment : Option String)
  /-- The end of a raw block. -/
  | closeRaw (word : String)
deriving Repr, Inhabited

/-- A tag, and whether it takes the blanks before and behind it. -/
structure TrimmedTag where
  tag : Tag
  trimBefore : Bool := false
  trimAfter : Bool := false
deriving Repr, Inhabited

/-- An optional `~`. -/
def readTilde (cs : List Char) : Bool × List Char :=
  match skipBlanks cs with
  | '~' :: r => (true, skipBlanks r)
  | r => (false, r)

/-- The end of a tag: an optional `~` and the closing mark. -/
def readEnd (mark : List Char) (cs : List Char) : Except Stop (Bool × List Char) := do
  let (tilde, r) := readTilde cs
  let r ← expect mark r
  .ok (tilde, r)

/-- A tag between braces: the opening mark, `~`, a sign, the contents, `~`, the closing mark. -/
def readFramed {α : Type} (sign : List Char) (contents : List Char → Except Stop (α × List Char))
    (make : α → Tag) (cs : List Char) : Except Stop (TrimmedTag × List Char) := do
  let r ← expect ['{', '{'] cs
  let (before, r) := readTilde r
  let r ← expect sign r
  let (a, r) ← contents (skipBlanks r)
  let (after, r) ← readEnd ['}', '}'] r
  .ok (⟨make a, before, after⟩, r)

/-- A sign of two characters, which may have blanks between them. -/
def readFramedPair {α : Type} (first second : Char)
    (contents : List Char → Except Stop (α × List Char)) (make : α → Tag) (cs : List Char) :
    Except Stop (TrimmedTag × List Char) :=
  readFramed [first] (fun r => do contents (skipBlanks (← expect [second] r))) make cs

/-- The sign of an alternative. -/
def readElse (cs : List Char) : Except Stop (List Char) :=
  orTry (expect ['e', 'l', 's', 'e'] cs) fun _ => expect ['^'] cs

/-- An alternative, with or without a helper of its own. -/
def readAlternative (cs : List Char) : Except Stop (TrimmedTag × List Char) :=
  orTry
    (readFramed [] (fun r => do readLine (← readElse r)) (fun e => .alternative (some e)) cs)
    (fun _ => readFramed [] (fun r => do .ok ((), ← readElse r)) (fun _ => .alternative none) cs)

/-- A value in triple braces. -/
def readTriple (cs : List Char) : Except Stop (TrimmedTag × List Char) := do
  let r ← expect ['{', '{', '{'] cs
  let (before, r) := readTilde r
  let (e, r) ← readOutput r
  let (after, r) ← readEnd ['}', '}', '}'] r
  .ok (⟨.output e, before, after⟩, r)

/-- A value in single braces inside double ones. -/
def readNested (cs : List Char) : Except Stop (TrimmedTag × List Char) :=
  readFramed ['{']
    (fun r => do
      let (e, r) ← readOutput r
      .ok (e, ← expect ['}'] (skipBlanks r)))
    .output cs

/-- A name alone, as a whole expression. -/
def readNameOnly (cs : List Char) : Except Stop (Expression × List Char) :=
  (readName cs).map fun (p, r) => ({ name := p }, r)

/-- Skip to just behind the first occurrence of a mark. -/
def skipPast (mark : List Char) (cs : List Char) : Except Stop (List Char) :=
  match cutAt? mark cs with
  | some (_, r) => .ok r
  | none => .error .noMatch

/-- A comment; one with dashes may hold double braces. -/
def readComment (cs : List Char) : Except Stop (TrimmedTag × List Char) := do
  let r ← expect ['{', '{', '!'] cs
  let r ← orTry
    (do skipPast ['-', '-', '}', '}'] (← expect ['-', '-'] (skipBlanks r)))
    (fun _ => skipPast ['}', '}'] r)
  .ok (⟨.comment, false, false⟩, r)

/-- The start of a raw block. -/
def readRawStart (cs : List Char) : Except Stop (TrimmedTag × List Char) := do
  let r ← expect ['{', '{', '{', '{'] cs
  let (before, r) := readTilde r
  let (e, r) ← readLine r
  let (after, r) ← readEnd ['}', '}', '}', '}'] r
  .ok (⟨.start .raw e, before, after⟩, r)

/-- The end of a raw block. -/
def readRawEnd (cs : List Char) : Except Stop (TrimmedTag × List Char) := do
  let r ← expect ['{', '{', '{', '{'] cs
  let (before, r) := readTilde r
  let r ← expect ['/'] r
  let (word, r) ← readSymbol (skipBlanks r)
  let (after, r) ← readEnd ['}', '}', '}', '}'] r
  .ok (⟨.closeRaw word, before, after⟩, r)

/-- The end of a block: what stands behind the slash, read as a word and as a fragment's name. -/
def readClose (cs : List Char) : Except Stop (TrimmedTag × List Char) :=
  let asWord := readFramed ['/'] readSymbol (fun s => .close (some s) none) cs
  let asFragment := readFramed ['/'] readFragmentName (fun s => .close none (some s)) cs
  match asWord, asFragment with
  | .ok (⟨.close w _, b, a⟩, r), .ok (⟨.close _ f, _, _⟩, _) => .ok (⟨.close w f, b, a⟩, r)
  | .ok t, _ => .ok t
  | .error _, t => t

/-- A tag at double braces, other than a raw block.  An alternative is never a value. -/
def readTag (cs : List Char) : Except Stop (TrimmedTag × List Char) :=
  orTry (readAlternative cs) fun _ =>
  orTry (readFramed [] readOutput .output cs) fun _ =>
  orTry (readTriple cs) fun _ =>
  orTry (readNested cs) fun _ =>
  orTry (readFramed ['&'] readNameOnly .output cs) fun _ =>
  orTry (readFramed ['#'] readLine (.start .helper) cs) fun _ =>
  orTry (readRawStart cs) fun _ =>
  orTry (readComment cs) fun _ =>
  orTry (readFramed ['*'] readLine .decorate cs) fun _ =>
  orTry (readFramedPair '#' '*' readLine (.start .decorator) cs) fun _ =>
  orTry (readFramed ['>'] readInclusion .include cs) fun _ =>
  orTry (readFramedPair '#' '>' readInclusion (.start .fragment) cs) fun _ =>
  readClose cs

/-! ## Surroundings -/

/-- Whether a character is a blank within a line. -/
def isInlineBlank (c : Char) : Bool := c = ' ' || c = '\t'

/-- Whether a character ends a line. -/
def isLineEnd (c : Char) : Bool := c = '\n' || c = '\r'

/-- Whether a text starts with blanks and a line end. -/
def startsWithLineEnd (cs : List Char) : Bool :=
  match cs.dropWhile isInlineBlank with
  | c :: _ => isLineEnd c
  | [] => false

/-- Whether a text, given in reverse, holds only blanks since its last line end. -/
def endsWithLineEnd (reversed : List Char) : Bool :=
  match reversed.dropWhile isInlineBlank with
  | c :: _ => isLineEnd c
  | [] => true

/-- What stands around a tag. -/
structure Surroundings where
  /-- Only blanks stand before the tag on its line. -/
  opensLine : Bool
  /-- Only blanks stand behind the tag on its line. -/
  closesLine : Bool
  /-- The blanks right before the tag. -/
  indent : List Char
deriving Repr, Inhabited

/-- The surroundings of a tag, from the text before it in reverse and the text behind it. -/
def surroundings (before after : List Char) : Surroundings where
  opensLine := endsWithLineEnd before
  closesLine := startsWithLineEnd after || after.isEmpty
  indent := (before.takeWhile isInlineBlank).reverse

/-! ## Tokens -/

/-- A stretch of text or a tag. -/
inductive Token where
  | text (text : List Char)
  | tag (tag : TrimmedTag) (around : Surroundings)
deriving Repr, Inhabited

/-- The characters between two suffixes of a text, put in reverse before `seen`. -/
def seenUpTo (cs rest seen : List Char) : List Char :=
  (cs.take (cs.length - rest.length)).reverse ++ seen

/-- Cut a text into tokens; `seen` is what stands before it, in reverse. -/
def cut : Nat → List Char → List Char → Option (List Token)
  | 0, _, _ => none
  | _ + 1, _, [] => some []
  | fuel + 1, seen, cs =>
    let (text, seen, rest) := readText ['{', '{'] (cs.length + 1) cs [] seen
    let here := if text.isEmpty then [] else [Token.text text]
    if rest.isEmpty then some here
    else
      match readTag rest with
      | .error _ => none
      | .ok (⟨.start .raw e, b, a⟩, r) =>
        let seen' := seenUpTo rest r seen
        let (raw, seen'', rest') := readText ['{', '{', '{', '{'] (r.length + 1) r [] seen'
        match readRawEnd rest' with
        | .error _ => none
        | .ok (close, r') =>
          let tokens := [
            Token.tag ⟨.start .raw e, b, a⟩ (surroundings seen r), Token.text raw,
            Token.tag close (surroundings seen'' r')]
          (cut fuel (seenUpTo rest' r' seen'') r').map fun more => here ++ tokens ++ more
      | .ok (tag, r) =>
        (cut fuel (seenUpTo rest r seen) r).map fun more =>
          here ++ Token.tag tag (surroundings seen r) :: more

/-- The tokens of a text; none if a tag is malformed. -/
def Token.ofText? (cs : List Char) : Option (List Token) := cut (cs.length + 1) [] cs

end Healing.Template
