/-
  Scalars of YAML and what an unquoted scalar stands for.

  An unquoted scalar is a text where a text is wanted.  Elsewhere it may be null, a flag, a whole
  number in one of four notations, or a decimal number; anything else is again a text.

  1. **Scalars** - text, style and tag.
  2. **Resolution** - `isNull`, `flag?`, `signed?`, `unsigned?`, `float?`.
  3. **Untyped scalars** - `Scalar.resolve` gives the value of a scalar by its own looks.
-/
import Healing.Decimal.Numeral
import Healing.Json.Basic

namespace Healing.Yaml

/-! ## Scalars -/

/-- How a scalar is written. -/
inductive ScalarStyle where
  | plain
  | quoted
  | literal
  | folded
deriving DecidableEq, Repr, Inhabited

/-- A scalar with its tag, if it has one. -/
structure Scalar where
  text : String
  style : ScalarStyle := .plain
  tag : Option String := none
deriving DecidableEq, Repr, Inhabited

/-- What the built-in tags start with. -/
def builtinTag (name : String) : String := "tag:yaml.org,2002:" ++ name

/-! ## Resolution -/

/-- The spellings of null. -/
def isNull (text : String) : Bool := ["null", "Null", "NULL", "~"].contains text

/-- The spellings of a flag. -/
def flag? (text : String) : Option Bool :=
  if ["true", "True", "TRUE"].contains text then some true
  else if ["false", "False", "FALSE"].contains text then some false
  else none

/-- A text of several digits that starts with a zero is not a number. -/
def isPaddedDigits (cs : List Char) : Bool :=
  let r := match cs with
    | '-' :: r => r
    | '+' :: r => r
    | r => r
  r.length > 1 && r.head? == some '0' && r.all Char.isDigit

/-- Whether a text starts with a sign. -/
def isSigned : List Char → Bool
  | '+' :: _ => true
  | '-' :: _ => true
  | _ => false

/-- The notations with a mark in front: the letter and the base. -/
def notations : List (Char × Nat) := [('x', 16), ('o', 8), ('b', 2)]

/-- The digits behind a mark such as `0x`, read by `read` in the base of the mark. -/
def marked? {α : Type} (read : Nat → List Char → Option α) (cs : List Char) : Option α :=
  match cs with
  | '0' :: m :: r =>
    (notations.find? fun n => n.1 == m).bind fun n => if isSigned r then none else read n.2 r
  | _ => none

/-- A text with a mark and a sign behind it is no number in any notation. -/
def isMarkedSigned : List Char → Bool
  | '0' :: m :: r => (notations.any fun n => n.1 == m) && isSigned r
  | _ => false

/-- A whole number without a minus sign, up to the bound. -/
def unsigned? (high : Nat) (text : String) : Option Nat :=
  let cs := text.toList
  let r := match cs with
    | '+' :: r => r
    | r => r
  if isMarkedSigned r then none
  else (marked? (fun base d => Numeral.unsigned? base high d) r).or
    (if isSigned r || isPaddedDigits cs then none else Numeral.unsigned? 10 high r)

/-- A whole number with an optional sign, between the bounds. -/
def signed? (low high : Int) (text : String) : Option Int :=
  let cs := text.toList
  let doubleSign := match cs with
    | '+' :: r => isSigned r
    | _ => false
  let r := match cs with
    | '+' :: r => r
    | r => r
  let negated := match cs with
    | '-' :: r => marked? (fun base d => Numeral.signed? base low high ('-' :: d)) r
    | _ => none
  if doubleSign || isMarkedSigned r then none
  else (marked? (fun base d => Numeral.signed? base low high d) r).or <|
    negated.or (if isPaddedDigits cs then none else Numeral.signed? 10 low high r)

/-- A decimal number, infinity or not-a-number; a decimal beyond the range is none. -/
def float? (text : String) : Option Numeral.Reading :=
  let cs := text.toList
  let r := match cs with
    | '+' :: r => r
    | r => r
  let unsignedText := String.ofList r
  if cs.head? == some '+' && isSigned r then none
  else if [".inf", ".Inf", ".INF"].contains unsignedText then some (.infinite false)
  else if ["-.inf", "-.Inf", "-.INF"].contains text then some (.infinite true)
  else if [".nan", ".NaN", ".NAN"].contains text then some .notANumber
  else match Numeral.float? r with
    | some (.finite x) => some (.finite x)
    | _ => none

/-! ## Untyped scalars -/

/-- The largest whole number below zero or above it that a value can hold. -/
def wholeBounds : Int × Int := (-9_223_372_036_854_775_808, 18_446_744_073_709_551_615)

/-- The value of a decimal number; infinity and not-a-number have none. -/
def ofReading : Numeral.Reading → Json
  | .finite x => .float x
  | _ => .null

/-- The greatest number of 128 bits. -/
def mostUnsigned : Nat := 340_282_366_920_938_463_463_374_607_431_768_211_455

/-- The least number of 128 bits with a sign. -/
def leastSigned : Int := -170_141_183_460_469_231_731_687_303_715_884_105_728

/-- The greatest number of 128 bits with a sign. -/
def mostSigned : Int := 170_141_183_460_469_231_731_687_303_715_884_105_727

/-- The whole number that a text spells out, if any; `none` inside when it does not fit a value. -/
def whole? (text : String) : Option (Option Json) :=
  let fits := fun (i : Int) => wholeBounds.1 ≤ i && i ≤ wholeBounds.2
  let found := ((unsigned? mostUnsigned text).map fun n => (n : Int)).or
    (if text.startsWith "-" then signed? leastSigned mostSigned text else none)
  found.map fun i => if fits i then some (.int i) else none

/-- The value of an unquoted scalar by its looks; `none` for a whole number that does not fit. -/
def resolvePlain (text : String) : Option Json :=
  if text.isEmpty || isNull text then some .null
  else match flag? text with
    | some b => some (.bool b)
    | none => match whole? text with
      | some j => j
      | none =>
        if isPaddedDigits text.toList then some (.str text)
        else match float? text with
          | some x => some (ofReading x)
          | none => some (.str text)

/-- The value of a scalar by its looks and tag; `none` when the tag does not fit the text or is not
    built in. -/
def Scalar.resolve (s : Scalar) : Option Json :=
  match s.tag with
  | none => if s.style = .plain then resolvePlain s.text else some (.str s.text)
  | some tag =>
    if tag = builtinTag "bool" then (flag? s.text).map .bool
    else if tag = builtinTag "int" then (whole? s.text).bind id
    else if tag = builtinTag "float" then (float? s.text).map ofReading
    else if tag = builtinTag "null" then if isNull s.text then some .null else none
    else if tag.startsWith "!" then none
    else some (.str s.text)

/-- Whether the scalar may be read as the type with the given tag: it is unquoted, or written as a
    block with that very tag. -/
def Scalar.mayBe (s : Scalar) (name : String) : Bool :=
  s.style = .plain || (s.style = .literal && s.tag == some (builtinTag name))

/-- Whether the scalar stands for an absent value, where absence is possible; `none` when it is
    tagged as null and is not. -/
def Scalar.absent? (s : Scalar) : Option Bool :=
  if s.style ≠ .plain then some false
  else match s.tag with
    | some tag =>
      if tag = builtinTag "null" then if isNull s.text then some true else none else some false
    | none => some (s.text.isEmpty || isNull s.text)

/-- Whether the scalar is empty and unquoted, and so an empty list or map where one is wanted. -/
def Scalar.isVoid (s : Scalar) : Bool := s.style = .plain && s.text.isEmpty

end Healing.Yaml
