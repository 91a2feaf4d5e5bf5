/-
  Names, tags and directives of YAML texts.

  A tag is written as a handle and a suffix; directives say what a handle stands for.

  1. **Escapes** - `takeOctets`: an escaped character of a tag.
  2. **Tags** - `TagName`, `takeHandle`, `takeSuffix`, `takeTag`.
  3. **Names** - `takeName`: the name of an anchor or an alias.
  4. **Directives** - `Directive`, `takeDirective`.
-/
import Healing.Yaml.Scalar.Quoted

namespace Healing.Yaml

/-! ## Escapes -/

/-- How many octets a character takes by its first octet. -/
def octetCount (first : Nat) : Option Nat :=
  if first < 0x80 then some 1
  else if first < 0xC0 then none
  else if first < 0xE0 then some 2
  else if first < 0xF0 then some 3
  else if first < 0xF8 then some 4
  else none

/-- The octet that a percent sign and two digits denote. -/
def octet? : List Char → Option Nat
  | '%' :: a :: b :: _ => hexNumber? [a, b]
  | _ => none

/-- Read the further octets of a character. -/
def Cursor.takeFurther : Nat → Nat → Cursor → Option (Nat × Cursor)
  | 0, code, c => some (code, c)
  | count + 1, code, c => do
    let n ← octet? c.rest
    if n / 64 = 2 then takeFurther count (code * 64 + n % 64) (c.advance 3) else none

/-- Read a character that is given by its escaped octets. -/
def Cursor.takeOctets (c : Cursor) : Option (Char × Cursor) := do
  let first ← octet? c.rest
  let count ← octetCount first
  let payload := if count = 1 then first else first % Nat.pow 2 (7 - count)
  let (code, c) ← (c.advance 3).takeFurther (count - 1) payload
  some (if code.isValidChar then .ofNat code else '\uFFFD', c)

/-! ## Tags -/

/-- A tag as it is written. -/
structure TagName where
  /-- The handle, empty if the suffix is all of the tag. -/
  handle : String
  suffix : String
deriving Repr, DecidableEq, Inhabited

/-- A character that may stand in a tag; brackets and commas only where the tag is given in full. -/
def isTagChar (inFull : Bool) (c : Char) : Bool :=
  isNameChar c || ";/?:@&=+$.%!~*'()".toList.contains c || (inFull && [',', '[', ']'].contains c)

/-- Read on in the text of a tag. -/
def Cursor.takeTagText (inFull : Bool) : Nat → String → Cursor → Option (String × Cursor)
  | 0, text, c => some (text, c)
  | fuel + 1, text, c =>
    match c.next? with
    | none => some (text, c)
    | some x =>
      if x = '%' then
        match c.takeOctets with
        | some (y, c) => takeTagText inFull fuel (text.push y) c
        | none => none
      else if isTagChar inFull x then takeTagText inFull fuel (text.push x) (c.advance 1)
      else some (text, c)

/-- Read the text of a tag, which must not be empty. -/
def Cursor.takeSuffix (inFull : Bool) (fuel : Nat) (c : Cursor) : Option (String × Cursor) := do
  let (text, c) ← c.takeTagText inFull fuel ""
  if text.isEmpty then none else some (text, c)

/-- Read a handle, `!name!`, or what may be the start of a suffix, `!name`. -/
def Cursor.takeHandle (c : Cursor) : Option (String × Cursor) :=
  if c.sees '!' then
    let (name, c) := (c.advance 1).takeRun isNameChar
    let text := "!" ++ String.ofList name
    some (if c.sees '!' then (text.push '!', c.advance 1) else (text, c))
  else none

/-- Whether a text is a handle with a mark at both ends. -/
def isHandle (text : String) : Bool := text.length > 1 && text.endsWith "!"

/-- Read a tag: in full between angles, with a handle, or with the handle `!` alone.  A lone `!` is
    a tag of its own. -/
def Cursor.takeTag (fuel : Nat) (c : Cursor) : Option (TagName × Cursor) :=
  match c.rest with
  | '!' :: '<' :: _ => do
    let (suffix, c) ← (c.advance 2).takeSuffix true fuel
    if c.sees '>' then some (⟨"", suffix⟩, c.advance 1) else none
  | _ => do
    let (handle, c) ← c.takeHandle
    if isHandle handle then
      let (suffix, c) ← c.takeSuffix false fuel
      some (⟨handle, suffix⟩, c)
    else
      let (suffix, c) ← c.takeTagText false fuel (handle.drop 1).toString
      some (if suffix.isEmpty then ⟨"", "!"⟩ else ⟨"!", suffix⟩, c)

/-! ## Names -/

/-- The characters that may follow the name of an anchor, blanks apart. -/
def nameEnds : List Char := ['?', ':', ',', ']', '}', '%', '@', '`']

/-- Read a name behind its mark. -/
def Cursor.takeName (c : Cursor) : Option (String × Cursor) :=
  let (name, c) := (c.advance 1).takeRun isNameChar
  if name.isEmpty || !(endsWord c.rest || c.next?.any nameEnds.contains) then none
  else some (String.ofList name, c)

/-! ## Directives -/

/-- What is said ahead of a document. -/
inductive Directive where
  /-- The version of the language. -/
  | version (major minor : Nat)
  /-- What a handle stands for. -/
  | handle (handle meaning : String)
deriving Repr, DecidableEq

/-- Read a number of at most nine digits. -/
def Cursor.takeNumber (c : Cursor) : Option (Nat × Cursor) :=
  let (digits, c) := c.takeRun Char.isDigit
  if digits.isEmpty || digits.length > 9 then none
  else some (digits.foldl (fun n d => 10 * n + (d.toNat - '0'.toNat)) 0, c)

/-- Read a version, such as `1.2`. -/
def Cursor.takeVersion (c : Cursor) : Option (Directive × Cursor) := do
  let (major, c) ← (c.skipRun isBlank).takeNumber
  if c.sees '.' then
    let (minor, c) ← (c.advance 1).takeNumber
    some (.version major minor, c)
  else none

/-- Read a handle and its meaning. -/
def Cursor.takeMeaning (fuel : Nat) (c : Cursor) : Option (Directive × Cursor) := do
  let (handle, c) ← (c.skipRun isBlank).takeHandle
  if (handle = "!" || isHandle handle) && c.next?.any isBlank then
    let (meaning, c) ← (c.skipRun isBlank).takeSuffix true fuel
    if endsWord c.rest then some (.handle handle meaning, c) else none
  else none

/-- Read a directive and the rest of its line. -/
def Cursor.takeDirective (fuel : Nat) (c : Cursor) : Option (Directive × Cursor) := do
  let (name, c) := (c.advance 1).takeRun isNameChar
  if !endsWord c.rest then none
  else
    let (directive, c) ← match String.ofList name with
      | "YAML" => c.takeVersion
      | "TAG" => c.takeMeaning fuel
      | _ => none
    let c ← c.skipLine
    some (directive, c)

end Healing.Yaml
