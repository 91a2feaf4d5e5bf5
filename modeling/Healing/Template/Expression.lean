/-
  The contents of tags.

  The grammar is one of ordered choices: the first alternative that fits is taken and the others are
  not tried again.  Blanks may stand between the parts of a tag, but not inside a path.

  1. **Results** - a reader gives what it read and the rest of the text, does not match, or meets
     something it must not skip.
  2. **Words and paths** - `readSymbol`, `readPath`.
  3. **Literals** - the span of a literal first, its value after that.
  4. **Calls** - parameters, named parameters, calls in parentheses.
  5. **Lines** - the contents of the different kinds of tags.
-/
import Healing.Template.Basic
import Healing.Json.Reader
import Healing.Text.Search

namespace Healing.Template

open Text (dropPrefix?)

/-! ## Results -/

/-- Why a reader does not succeed. -/
inductive Stop where
  /-- The text does not match; another alternative may. -/
  | noMatch
  /-- The text matches and means nothing; no other alternative is tried. -/
  | invalid
deriving DecidableEq, Repr

/-- Try the second reader where the first does not match. -/
def orTry {α : Type} (first : Except Stop α) (second : Unit → Except Stop α) : Except Stop α :=
  match first with
  | .error .noMatch => second ()
  | r => r

/-- Drop the blanks that may stand between the parts of a tag. -/
def skipBlanks (cs : List Char) : List Char :=
  cs.dropWhile fun c => c = ' ' ∨ c = '\t' ∨ c = '\n' ∨ c = '\r'

/-- Read the given characters. -/
def expect (mark : List Char) (cs : List Char) : Except Stop (List Char) :=
  match dropPrefix? mark cs with
  | some r => .ok r
  | none => .error .noMatch

/-! ## Words and paths -/

/-- The characters of words: letters, digits, `-`, `_`, `$` and everything beyond ASCII. -/
def isSymbolChar (c : Char) : Bool :=
  c.isAlphanum || c = '-' || c = '_' || c = '$' || c.toNat ≥ 0x80

/-- A word. -/
def readSymbol (cs : List Char) : Except Stop (String × List Char) :=
  let word := cs.takeWhile isSymbolChar
  if word.isEmpty then .error .noMatch
  else .ok (String.ofList word, cs.dropWhile isSymbolChar)

/-- Whether a character separates the steps of a path. -/
def isPathMark (c : Char) : Bool := c = '.' || c = '/'

/-- A step to a field: a word, or any text between brackets. -/
def readPathName (cs : List Char) : Except Stop (String × List Char) :=
  match cs with
  | '[' :: r =>
    let name := r.takeWhile (· ≠ ']')
    match r.dropWhile (· ≠ ']') with
    | _ :: r => .ok (String.ofList name, r)
    | [] => .error .noMatch
  | cs => readSymbol cs

/-- Steps up, each with a separator behind it. -/
def readUps : Nat → List Char → Nat × List Char
  | 0, cs => (0, cs)
  | fuel + 1, '.' :: '.' :: m :: r =>
    if isPathMark m then
      let (n, r) := readUps fuel r
      (n + 1, r)
    else (0, '.' :: '.' :: m :: r)
  | _, cs => (0, cs)

/-- Further steps, each with a separator before it. -/
def readPathNames : Nat → List Char → List String × List Char
  | 0, cs => ([], cs)
  | fuel + 1, m :: r =>
    if isPathMark m then
      match readPathName r with
      | .ok (name, r) =>
        let (names, r) := readPathNames fuel r
        (name :: names, r)
      | .error _ => ([], m :: r)
    else ([], m :: r)
  | _, [] => ([], [])

/-- The start of a path at the current value: `this` with a separator, or `./`. -/
def skipCurrent (cs : List Char) : List Char :=
  match cs with
  | 't' :: 'h' :: 'i' :: 's' :: m :: r => if isPathMark m then r else cs
  | '.' :: '/' :: r => r
  | cs => cs

/-- The start of a path at the whole data: `@root` with a separator. -/
def readRoot (cs : List Char) : List PathStep × List Char :=
  match cs with
  | '@' :: 'r' :: 'o' :: 'o' :: 't' :: m :: r => if isPathMark m then ([.root], r) else ([], cs)
  | cs => ([], cs)

/-- The mark of a variable. -/
def readVariableMark (cs : List Char) : List PathStep × List Char :=
  match cs with
  | '@' :: r => ([.variable], r)
  | cs => ([], cs)

/-- A path; a step named `this` stays where it is. -/
def readPath (cs : List Char) : Except Stop (Path × List Char) := do
  let (root, r) := readRoot (skipCurrent cs)
  let (mark, r) := readVariableMark r
  let (ups, r) := readUps r.length r
  let (first, r) ← readPathName r
  let (others, r) := readPathNames r.length r
  let names := ((first :: others).filter (· ≠ "this")).map PathStep.name
  let written := cs.take (cs.length - r.length)
  .ok (⟨String.ofList written, root ++ mark ++ List.replicate ups .up ++ names⟩, r)

/-! ## Literals -/

/-- Whether a word ends here. -/
def wordEnds (cs : List Char) : Bool :=
  match cs with
  | c :: _ => !isSymbolChar c
  | [] => true

/-- The rest behind a string up to and with its closing quote; escapes are those of JSON, with the
    quote of this string. -/
def skipString (quote : Char) : Nat → List Char → Except Stop (List Char)
  | 0, _ => .error .noMatch
  | _ + 1, [] => .error .noMatch
  | fuel + 1, '\\' :: 'u' :: a :: b :: c :: d :: r =>
    if [a, b, c, d].all fun h => (Numeral.digit? 16 h).isSome then skipString quote fuel r
    else .error .noMatch
  | fuel + 1, '\\' :: e :: r =>
    if e = quote ∨ ['\\', '/', 'b', 'f', 'n', 'r', 't'].contains e then skipString quote fuel r
    else .error .noMatch
  | fuel + 1, c :: r =>
    if c = quote then .ok r else if c = '\\' then .error .noMatch else skipString quote fuel r

/-- The rest behind a number: digits, a point with or without digits, an exponent marked `E`. -/
def skipNumber (cs : List Char) : Except Stop (List Char) :=
  let r := match cs with
    | '-' :: r => r
    | r => r
  if (r.takeWhile Char.isDigit).isEmpty then .error .noMatch
  else
    let r := r.dropWhile Char.isDigit
    let r := match r with
      | '.' :: r => r
      | r => r
    let r := r.dropWhile Char.isDigit
    let r := match r with
      | 'E' :: t =>
        let d := match t with
          | '-' :: d => d
          | d => d
        if (d.takeWhile Char.isDigit).isEmpty then r else d.dropWhile Char.isDigit
      | r => r
    if wordEnds r then .ok r else .error .noMatch

mutual

/-- The rest behind a literal. -/
def skipLiteral : Nat → List Char → Except Stop (List Char)
  | 0, _ => .error .noMatch
  | fuel + 1, cs =>
    match cs with
    | '"' :: r => skipString '"' (r.length + 1) r
    | '\'' :: r => skipString '\'' (r.length + 1) r
    | '[' :: r =>
      let r := skipBlanks r
      match skipLiteral fuel r with
      | .ok r => skipItems fuel r
      | .error _ => skipItems fuel r
    | '{' :: r =>
      let r := skipBlanks r
      match skipField fuel r with
      | .ok r => skipFields fuel r
      | .error _ => skipFields fuel r
    | 'n' :: 'u' :: 'l' :: 'l' :: r => if wordEnds r then .ok r else .error .noMatch
    | 't' :: 'r' :: 'u' :: 'e' :: r => if wordEnds r then .ok r else .error .noMatch
    | 'f' :: 'a' :: 'l' :: 's' :: 'e' :: r => if wordEnds r then .ok r else .error .noMatch
    | cs => skipNumber cs

/-- The rest behind the further items of a list and its closing bracket. -/
def skipItems : Nat → List Char → Except Stop (List Char)
  | 0, _ => .error .noMatch
  | fuel + 1, cs =>
    match skipBlanks cs with
    | ']' :: r => .ok r
    | ',' :: r => do skipItems fuel (← skipLiteral fuel (skipBlanks r))
    | _ => .error .noMatch

/-- The rest behind a field of an object. -/
def skipField : Nat → List Char → Except Stop (List Char)
  | 0, _ => .error .noMatch
  | fuel + 1, cs => do
    let r ← match cs with
      | '"' :: r => skipString '"' (r.length + 1) r
      | '\'' :: r => skipString '\'' (r.length + 1) r
      | _ => .error .noMatch
    let r ← expect [':'] (skipBlanks r)
    skipLiteral fuel (skipBlanks r)

/-- The rest behind the further fields of an object and its closing brace. -/
def skipFields : Nat → List Char → Except Stop (List Char)
  | 0, _ => .error .noMatch
  | fuel + 1, cs =>
    match skipBlanks cs with
    | '}' :: r => .ok r
    | ',' :: r => do skipFields fuel (← skipField fuel (skipBlanks r))
    | _ => .error .noMatch

end

/-- The characters between single quotes, as they stand between double quotes. -/
def requote : List Char → List Char
  | '\\' :: '\'' :: r => '\'' :: requote r
  | '"' :: r => '\\' :: '"' :: requote r
  | c :: r => c :: requote r
  | [] => []

/-- The text of a literal in the notation of JSON. -/
def literalText (cs : List Char) : List Char :=
  match cs with
  | '\'' :: r => '"' :: (requote r.dropLast ++ ['"'])
  | cs => cs

/-- A literal; one that the grammar admits and JSON does not is invalid. -/
def readLiteral (cs : List Char) : Except Stop (Param × List Char) := do
  let r ← skipLiteral (cs.length + 1) cs
  match Json.parse (String.ofList (literalText (cs.take (cs.length - r.length)))) with
  | .ok j => .ok (.literal j, r)
  | .error _ => .error .invalid

/-! ## Calls -/

/-- The words that introduce something else than a parameter. -/
def keywords : List (List Char) := [['a', 's'], ['e', 'l', 's', 'e']]

/-- Whether one of those words stands here, with no word behind it. -/
def atKeyword (cs : List Char) : Bool :=
  keywords.any fun word =>
    match dropPrefix? word cs with
    | some r => wordEnds (skipBlanks r)
    | none => false

mutual

/-- A parameter. -/
def readParam : Nat → List Char → Except Stop (Param × List Char)
  | 0, _ => .error .noMatch
  | fuel + 1, cs =>
    if atKeyword cs then .error .noMatch
    else
      orTry (readLiteral cs) fun _ =>
      orTry ((readPath cs).map fun (p, r) => (.path p, r)) fun _ =>
      readCall fuel cs

/-- A call in parentheses: a word with parameters, or a path alone. -/
def readCall : Nat → List Char → Except Stop (Param × List Char)
  | 0, _ => .error .noMatch
  | fuel + 1, cs => do
    let r := skipBlanks (← expect ['('] cs)
    let (call, r) ← orTry
      (do
        let (name, r) ← readSymbol r
        let ((args, named), r) ← readParams fuel r
        if args.isEmpty && named.isEmpty then .error .noMatch
        else .ok (.call (.word name) args named, r))
      (fun _ => (readPath r).map fun (p, r) => (.call (.path p) [] [], r))
    let r ← expect [')'] (skipBlanks r)
    .ok (call, r)

/-- Parameters by position and by name, as many as there are. -/
def readParams : Nat → List Char → Except Stop ((List Param × List (String × Param)) × List Char)
  | 0, cs => .ok (([], []), cs)
  | fuel + 1, cs =>
    let r := skipBlanks cs
    let byName : Except Stop (Sum Param (String × Param) × List Char) := do
      let (name, r) ← readSymbol r
      let r ← expect ['='] (skipBlanks r)
      let (p, r) ← readParam fuel (skipBlanks r)
      .ok (.inr (name, p), r)
    let byPlace : Unit → Except Stop (Sum Param (String × Param) × List Char) := fun _ =>
      (readParam fuel r).map fun (p, r) => (.inl p, r)
    match orTry byName byPlace with
    | .error .noMatch => .ok (([], []), cs)
    | .error .invalid => .error .invalid
    | .ok (one, r) => do
      let ((args, named), r) ← readParams fuel r
      match one with
      | .inl p => .ok ((p :: args, named), r)
      | .inr n => .ok ((args, n :: named), r)

end

/-! ## Lines -/

/-- The names that a block gives to its value and key: `as |value key|`. -/
def readBlockParams (cs : List Char) : Except Stop (List String × List Char) := do
  let r ← expect ['a', 's'] cs
  let r ← expect ['|'] (skipBlanks r)
  let (first, r) ← readSymbol (skipBlanks r)
  let (names, r) ← orTry
    ((readSymbol (skipBlanks r)).map fun (second, r) => ([first, second], r))
    (fun _ => .ok ([first], r))
  let r ← expect ['|'] (skipBlanks r)
  .ok (names, r)

/-- A word with any parameters, and names for the block. -/
def readLine (cs : List Char) : Except Stop (Expression × List Char) := do
  let (name, r) ← readSymbol (skipBlanks cs)
  let ((args, named), r) ← readParams (r.length + 1) r
  let (blockParams, r) ← orTry (readBlockParams (skipBlanks r)) fun _ => .ok ([], r)
  .ok ({ name := .word name, args, named, blockParams }, r)

/-- A call in parentheses, or a path. -/
def readName (cs : List Char) : Except Stop (Param × List Char) :=
  orTry (readCall (cs.length + 1) cs) fun _ =>
    (readPath cs).map fun (p, r) => (.path p, r)

/-- A word with parameters, or else a name alone. -/
def readOutput (cs : List Char) : Except Stop (Expression × List Char) :=
  let cs := skipBlanks cs
  orTry
    (do
      let (name, r) ← readSymbol cs
      let ((args, named), r) ← readParams (r.length + 1) r
      if args.isEmpty && named.isEmpty then .error .noMatch
      else .ok ({ name := .word name, args, named }, r))
    (fun _ => (readName cs).map fun (p, r) => ({ name := p }, r))

/-- The characters of unquoted names of fragments. -/
def isFragmentChar (c : Char) : Bool :=
  c.isAlphanum || c = '-' || c = '_' || c = '/' || c = '.' || c.toNat ≥ 0x80

/-- The rest of a quoted name of a fragment; a quote inside has a backslash before it. -/
def skipQuotedName : Bool → List Char → Option (List Char)
  | _, [] => none
  | first, '\'' :: r => if first then none else some r
  | _, '\\' :: '\'' :: r => skipQuotedName false r
  | _, _ :: r => skipQuotedName false r

/-- The name of a fragment, unquoted or between single quotes. -/
def readFragmentName (cs : List Char) : Except Stop (String × List Char) :=
  let word := cs.takeWhile isFragmentChar
  if !word.isEmpty then .ok (String.ofList word, cs.dropWhile isFragmentChar)
  else
    match cs with
    | '\'' :: r =>
      match skipQuotedName true r with
      | some rest => .ok (String.ofList (cs.take (cs.length - rest.length)), rest)
      | none => .error .noMatch
    | _ => .error .noMatch

/-- The name of a fragment with any parameters. -/
def readInclusion (cs : List Char) : Except Stop (Expression × List Char) := do
  let cs := skipBlanks cs
  let (name, r) ← orTry ((readFragmentName cs).map fun (s, r) => (Param.word s, r))
    (fun _ => readName cs)
  let ((args, named), r) ← readParams (r.length + 1) r
  .ok ({ name, args, named }, r)

end Healing.Template
