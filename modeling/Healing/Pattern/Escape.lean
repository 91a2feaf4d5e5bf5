/-
  Escapes in patterns: what a backslash and the characters behind it stand for.

  1. **Atoms** - `Atom`: a character, a set, or a condition on a place.
  2. **Codes** - `takeCode`: characters given by hexadecimal digits.
  3. **Classes** - `classOf?` for a letter, `takeProperty` for a named property.
  4. **Boundaries** - `takeBoundary`: the ends of words.
  5. **Escapes** - `takeEscape`.
-/
import Healing.Pattern.Input

namespace Healing.Pattern

/-! ## Atoms -/

/-- The smallest parts of a pattern. -/
inductive Atom where
  /-- A character, and whether it is given by the code of an octet. -/
  | char (c : Char) (octet : Bool)
  | set (s : CharSet)
  | place (p : Place)
deriving Repr, Inhabited

/-! ## Codes -/

/-- Whether a character is a hexadecimal digit. -/
def isHexDigit (c : Char) : Bool :=
  c.isDigit || ('a' ≤ c && c ≤ 'f') || ('A' ≤ c && c ≤ 'F')

/-- The character with the code that hexadecimal digits spell out. -/
def charOfDigits? (digits : List Char) : Option Char :=
  let code := CharSet.hexNumber (digits.map Char.toUpper)
  if digits.isEmpty || !digits.all isHexDigit || !code.isValidChar then none else some (.ofNat code)

/-- How many digits follow the letter of a code. -/
def codeLength : Char → Nat
  | 'x' => 2
  | 'u' => 4
  | _ => 8

/-- Read so many characters. -/
def Input.takeCount : Nat → List Char → Input → Option (List Char × Input)
  | 0, run, i => some (run.reverse, i)
  | count + 1, run, i =>
    match i.rest with
    | c :: _ => takeCount count (c :: run) i.bumpSpace
    | [] => none

/-- Read a code behind its letter: digits in braces, or a fixed number of digits. -/
def Input.takeCode (letter : Char) (i : Input) : Option (Atom × Input) := do
  let i ← i.bumpSpace?
  if i.sees '\x7b' then
    let (digits, i) := i.bumpSpace.takeRun (· ≠ '\x7d') (i.rest.length + 1) []
    if i.rest.isEmpty then none
    else
      let c ← charOfDigits? digits
      some (.char c false, i.bumpSpace)
  else
    let (digits, i) ← i.takeCount (codeLength letter) []
    let c ← charOfDigits? digits
    some (.char c (letter = 'x'), i)

/-! ## Classes -/

/-- The blanks of ASCII. -/
def asciiBlanks : CharSet := .ofRanges [(0x09, 0x0D), (0x20, 0x20)]

/-- The characters of words in ASCII. -/
def asciiWordChars : CharSet := .ofRanges [(0x30, 0x39), (0x41, 0x5A), (0x5F, 0x5F), (0x61, 0x7A)]

/-- The characters that words are made of. -/
def Input.wordChars (i : Input) : CharSet :=
  if i.flags.unicode then Unicode.wordChars else asciiWordChars

/-- The class that a letter stands for; an upper-case letter negates it. -/
def Input.classOf? (i : Input) (letter : Char) : Option CharSet :=
  i.negate? letter.isUpper <|
    match letter.toLower with
    | 'd' => if i.flags.unicode then Unicode.digits else .range 0x30 0x39
    | 's' => if i.flags.unicode then Unicode.blanks else asciiBlanks
    | _ => i.wordChars

/-- What stands behind a mark in a text, and what stands before it. -/
def cutAt? (mark : List Char) : List Char → List Char → Option (String × String)
  | _, [] => none
  | before, c :: r =>
    if mark.isPrefixOf (c :: r) then
      some (String.ofList before.reverse, String.ofList ((c :: r).drop mark.length))
    else cutAt? mark (c :: before) r

/-- The characters that a name in braces stands for, and whether they are negated. -/
def propertySet? (name : List Char) : Option CharSet × Bool :=
  match cutAt? ['!', '='] [] name with
  | some (p, v) => (Unicode.valued? p v, true)
  | none =>
    match (cutAt? [':'] [] name).or (cutAt? ['='] [] name) with
    | some (p, v) => (Unicode.valued? p v, false)
    | none => (Unicode.named? (String.ofList name), false)

/-- Read the name of a property behind its letter: a letter, or a name in braces. -/
def Input.takeProperty (letter : Char) (i : Input) : Option (Atom × Input) := do
  let i ← i.bumpSpace?
  let (name, i) ←
    if i.sees '\x7b' then
      let (name, i) := i.bumpSpace.takeRun (· ≠ '\x7d') (i.rest.length + 1) []
      if i.rest.isEmpty then none else some (name, i.bump 1)
    else if i.sees '\\' then none
    else some (i.rest.take 1, i.bumpSpace)
  let (found, differs) := propertySet? name
  let s ← if i.flags.unicode then found else none
  let s ← i.negate? ((letter = 'P') != differs) (i.withCase s)
  some (.set s, i)

/-! ## Boundaries -/

/-- Whether a character may stand in the name of a boundary. -/
def isBoundaryChar (c : Char) : Bool := c.isAlpha || c = '-'

/-- Read which boundary of a word is meant: the name in braces behind `\b` says so, if there is one.
    Braces that start in another way hold a number of repetitions. -/
def Input.takeBoundary (i : Input) : Option (Atom × Input) := do
  let word := i.wordChars
  if i.sees '\x7b' then
    let inner ← i.bumpSpace?
    if inner.rest.head?.any isBoundaryChar then
      let (name, i) := inner.takeRun isBoundaryChar (inner.rest.length + 1) []
      if i.sees '\x7d' then
        let p ← match String.ofList name with
          | "start" => some (Place.wordStart word)
          | "end" => some (.wordEnd word)
          | "start-half" => some (.noWordBefore word)
          | "end-half" => some (.noWordAfter word)
          | _ => none
        some (.place p, i.bump 1)
      else none
    else some (.place (.wordBoundary word), i)
  else some (.place (.wordBoundary word), i)

/-! ## Escapes -/

/-- The characters that have a meaning of their own somewhere in a pattern. -/
def isMeta (c : Char) : Bool := "\\.+*?()|[]\x7b\x7d^$#&-~".toList.contains c

/-- Whether a character stands for itself behind a backslash. -/
def isEscapable (c : Char) : Bool :=
  isMeta c || (c.toNat ≤ 0x7F && !c.isAlphanum && c ≠ '<' && c ≠ '>')

/-- Read an escape behind its backslash. -/
def Input.takeEscape (i : Input) : Option (Atom × Input) :=
  match i.rest with
  | [] => none
  | c :: _ =>
    if ['x', 'u', 'U'].contains c then i.takeCode c
    else if ['p', 'P'].contains c then i.takeProperty c
    else if ['d', 's', 'w', 'D', 'S', 'W'].contains c then
      (i.classOf? c).map fun s => (.set s, i.bump 1)
    else
      let j := i.bump 1
      if isEscapable c then some (.char c false, j)
      else
        match c with
        | 'a' => some (.char '\x07' false, j)
        | 'f' => some (.char '\x0c' false, j)
        | 't' => some (.char '\t' false, j)
        | 'n' => some (.char '\n' false, j)
        | 'r' => some (.char '\r' false, j)
        | 'v' => some (.char '\x0b' false, j)
        | 'A' => some (.place .textStart, j)
        | 'z' => some (.place .textEnd, j)
        | 'b' => j.takeBoundary
        | 'B' => some (.place (.noWordBoundary j.wordChars), j)
        | '<' => some (.place (.wordStart j.wordChars), j)
        | '>' => some (.place (.wordEnd j.wordChars), j)
        | _ => none

end Healing.Pattern
