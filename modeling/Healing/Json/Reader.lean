/-
  Reading JSON texts.

  The reader turns a text into a document.  It follows the JSON grammar; a number is kept with its
  value, a string with its characters, and the first fault ends the document.

  1. **Numbers** - a whole number that fits is kept exact; any other is the significant digits
     that fit 64 bits, scaled by a power of ten in steps of at most 10^308.
  2. **Strings** - escapes, with pairs of surrogates for characters beyond the sixteen-bit range.
  3. **Documents** - `readValue` recurses with a fuel of the length of the text.
  4. **Whole texts** - `Document.ofText`; `Json.parse` for a text of a value.
-/
import Healing.Document
import Healing.Json.Writer

namespace Healing.Json

/-! ## Numbers -/

/-- Drop the blanks of the format. -/
def skipBlanks (cs : List Char) : List Char :=
  cs.dropWhile fun c => c = ' ' ∨ c = '\n' ∨ c = '\t' ∨ c = '\r'

/-- The power of ten as a floating-point number. -/
def powerOfTen (n : Nat) : Binary64 :=
  (Binary64.ofRatio false (Nat.pow 10 n) 1).getD (Binary64.zero false)

/-- Scale by a power of ten, at most 308 of them at a time; `none` beyond the range. -/
def scaleByTen : Nat → Binary64 → Int → Option Binary64
  | 0, x, _ => some x
  | fuel + 1, x, e =>
    if e.natAbs ≤ 308 then
      if e ≥ 0 then x.mul (powerOfTen e.toNat) else x.div (powerOfTen e.natAbs)
    else if x.isZero then some x
    else if e ≥ 0 then none
    else (x.div (powerOfTen 308)).bind fun y => scaleByTen fuel y (e + 308)

/-- The significant digits of a number: leading digits are taken while the value fits 64 bits.
    Gives the value of the digits taken and the number of digits left. -/
def takeSignificant : List Char → Nat → Nat × Nat
  | [], n => (n, 0)
  | c :: r, n =>
    let next := n * 10 + (c.toNat - 48)
    if next ≤ 18_446_744_073_709_551_615 then takeSignificant r next else (n, r.length + 1)

/-- The floating-point number of a significand and a power of ten; `none` beyond the range. -/
def floatOf (negative : Bool) (significand : Nat) (exponent : Int) : Option Json :=
  let scaled := scaleByTen ((exponent.natAbs + 307) / 308 + 1) (Binary64.ofNat significand) exponent
  scaled.map fun x => .float { x with negative }

/-- The value of a number from its whole digits, its fraction and its exponent. -/
def numberOf (negative : Bool) (whole : List Char) (fraction : Option (List Char))
    (exponent : Option (Bool × List Char)) : Option Json :=
  let (head, left) := takeSignificant whole 0
  match fraction, exponent, left with
  | none, none, 0 =>
    if !negative then some (.int head)
    else if head = 0 ∨ head > 9_223_372_036_854_775_808 then
      some (.float { Binary64.ofNat head with negative := true })
    else some (.int (-(head : Int)))
  | _, _, _ =>
    -- after a whole part that does not fit, the digits of the fraction may fit again
    let digits := fraction.getD []
    let (significand, unread) := takeSignificant digits head
    let shift : Int := (left : Int) - ((digits.length - unread : Nat) : Int)
    match exponent with
    | none => floatOf negative significand shift
    | some (down, ds) =>
      let e := Numeral.ofDecimal ds
      if e > 2_147_483_647 then
        if significand ≠ 0 ∧ !down then none
        else some (.float (Binary64.zero negative))
      else
        let bounded :=
          max (-2_147_483_648) (min 2_147_483_647 (if down then shift - e else shift + e))
        floatOf negative significand bounded

/-- Digits, at least one of them. -/
def digitsOr (e : ReadError) (cs : List Char) : Except ReadError (List Char × List Char) :=
  let ds := cs.takeWhile Char.isDigit
  let r := cs.dropWhile Char.isDigit
  if ds.isEmpty then .error (if r.isEmpty then .endOfText else e) else .ok (ds, r)

/-- A number behind its sign. -/
def readNumber (negative : Bool) (cs : List Char) : Except ReadError (Option Json × List Char) := do
  let (whole, r) ← digitsOr .malformed cs
  if whole.head? = some '0' ∧ whole.length > 1 then .error .malformed
  else
    let (fraction, r) ← match r with
      | '.' :: r => do
        let (ds, r) ← digitsOr .malformed r
        pure (some ds, r)
      | r => pure (none, r)
    let (exponent, r) ← match r with
      | [] => pure (none, r)
      | c :: t =>
        if c = 'e' ∨ c = 'E' then do
          let (down, t) := match t with
            | '-' :: t => (true, t)
            | '+' :: t => (false, t)
            | t => (false, t)
          let (ds, t) ← digitsOr .malformed t
          pure (some (down, ds), t)
        else pure (none, r)
    .ok (numberOf negative whole fraction exponent, r)

/-! ## Strings -/

/-- Four hexadecimal digits. -/
def readHex4 : List Char → Except ReadError (Nat × List Char)
  | a :: b :: c :: d :: r =>
    match Numeral.ofDigits? 16 [a, b, c, d] with
    | some n => .ok (n, r)
    | none => .error .malformed
  | _ => .error .endOfText

/-- The character of a simple escape. -/
def simpleEscape? (c : Char) : Option Char :=
  match c with
  | '"' => some '"'
  | '\\' => some '\\'
  | '/' => some '/'
  | 'b' => some (Char.ofNat 8)
  | 'f' => some (Char.ofNat 12)
  | 'n' => some '\n'
  | 'r' => some '\r'
  | 't' => some '\t'
  | _ => none

/-- The rest of a string behind its opening quote.  `out` holds the characters read, the last one
    first; `whole` says that each escape so far denotes a character. -/
def readString : Nat → List Char → List Char → Bool →
    Except ReadError (Option String × List Char)
  | 0, _, _, _ => .error .endOfText
  | _ + 1, [], _, whole => .error (if whole then .endOfText else .malformed)
  | _ + 1, '"' :: r, out, whole => .ok (if whole then some (String.ofList out.reverse) else none, r)
  | _ + 1, ['\\'], _, whole => .error (if whole then .endOfText else .malformed)
  | fuel + 1, '\\' :: 'u' :: r, out, whole => do
    let (n, r) ← readHex4 r
    if 0xD800 ≤ n ∧ n < 0xDC00 then
      match r with
      | '\\' :: 'u' :: r' =>
        let (m, r'') ← readHex4 r'
        if 0xDC00 ≤ m ∧ m < 0xE000 then
          let c := Char.ofNat (0x10000 + (n - 0xD800) * 0x400 + (m - 0xDC00))
          readString fuel r'' (c :: out) whole
        else readString fuel r out false
      | r => readString fuel r out false
    else if 0xDC00 ≤ n ∧ n < 0xE000 then readString fuel r out false
    else readString fuel r (Char.ofNat n :: out) whole
  | fuel + 1, '\\' :: c :: r, out, whole =>
    match simpleEscape? c with
    | some d => readString fuel r (d :: out) whole
    | none => .error .malformed
  | fuel + 1, c :: r, out, whole =>
    if c.toNat < 32 then .error .malformed else readString fuel r (c :: out) whole

/-! ## Documents -/

/-- The deepest nesting of containers in a value. -/
def maxDepth : Nat := 127

/-- The rest of a word such as `true`, then the document that it spells. -/
def readWord (word : List Char) (d : Document) : List Char → Document × List Char :=
  go word
where
  /-- Compare character by character. -/
  go : List Char → List Char → Document × List Char
  | [], r => (d, r)
  | _ :: _, [] => (.broken .endOfText, [])
  | w :: ws, c :: r => if w = c then go ws r else (.broken .malformed, [])

/-- Mark a container that is nested too deep. -/
def markDeep (depth : Nat) (d : Document) : Document := if depth > maxDepth then .deep d else d

mutual

/-- A value with blanks before it; the rest is empty behind a broken one. -/
def readValue : Nat → Nat → List Char → Document × List Char
  | 0, _, _ => (.broken .endOfText, [])
  | fuel + 1, depth, cs =>
    match skipBlanks cs with
    | [] => (.broken .endOfText, [])
    | 'n' :: r => readWord ['u', 'l', 'l'] .null r
    | 't' :: r => readWord ['r', 'u', 'e'] (.bool true) r
    | 'f' :: r => readWord ['a', 'l', 's', 'e'] (.bool false) r
    | '"' :: r =>
      match readString (r.length + 1) r [] true with
      | .ok (s, r) => (.string s, r)
      | .error e => (.broken e, [])
    | '-' :: r =>
      match readNumber true r with
      | .ok (n, r) => (.number n, r)
      | .error e => (.broken e, [])
    | '[' :: r =>
      let (items, fault, r) := readItems fuel (depth + 1) true r
      (markDeep (depth + 1) (.list items fault), r)
    | '{' :: r =>
      let (entries, fault, r) := readEntries fuel (depth + 1) true r
      (markDeep (depth + 1) (.map entries fault), r)
    | c :: r =>
      if c.isDigit then
        match readNumber false (c :: r) with
        | .ok (n, r) => (.number n, r)
        | .error e => (.broken e, [])
      else (.broken .malformed, [])

/-- The items of an array up to its end; `first` before the first one. -/
def readItems : Nat → Nat → Bool → List Char → List Document × Option ReadError × List Char
  | 0, _, _, _ => ([], some .endOfText, [])
  | fuel + 1, depth, first, cs =>
    match skipBlanks cs with
    | [] => ([], some .endOfText, [])
    | ']' :: r => ([], none, r)
    | c :: r =>
      let next := if first then some (c :: r) else if c = ',' then some r else none
      match next with
      | none => ([], some .malformed, [])
      | some r =>
        if !first && (skipBlanks r).head? == some ']' then ([], some .malformed, [])
        else
          match readValue fuel depth r with
          | (.broken e, _) => ([.broken e], some e, [])
          | (d, r) =>
            let (items, fault, r) := readItems fuel depth false r
            (d :: items, fault, r)

/-- The entries of an object up to its end; `first` before the first one. -/
def readEntries : Nat → Nat → Bool → List Char →
    List (Document × Document) × Option ReadError × List Char
  | 0, _, _, _ => ([], some .endOfText, [])
  | fuel + 1, depth, first, cs =>
    match skipBlanks cs with
    | [] => ([], some .endOfText, [])
    | '}' :: r => ([], none, r)
    | c :: r =>
      let next := if first then some (c :: r) else if c = ',' then some (skipBlanks r) else none
      match next with
      | none => ([], some .malformed, [])
      | some [] => ([], some .endOfText, [])
      | some ('"' :: r) =>
        match readString (r.length + 1) r [] true with
        | .error e => ([], some e, [])
        | .ok (key, r) =>
          match skipBlanks r with
          | [] => ([(.string key, .broken .endOfText)], some .endOfText, [])
          | ':' :: r =>
            match readValue fuel depth r with
            | (.broken e, _) => ([(.string key, .broken e)], some e, [])
            | (d, r) =>
              let (entries, fault, r) := readEntries fuel depth false r
              ((.string key, d) :: entries, fault, r)
          | _ => ([(.string key, .broken .malformed)], some .malformed, [])
      | some _ => ([], some .malformed, [])

end

end Healing.Json

namespace Healing

/-! ## Whole texts -/

/-- The document of a JSON text, and the fault of what stands behind it. -/
def Document.ofText (text : String) : Document × Option ReadError :=
  let cs := text.toList
  match Json.readValue (cs.length + 1) 0 cs with
  | (.broken e, _) => (.broken e, none)
  | (d, r) => (d, if (Json.skipBlanks r).isEmpty then none else some .malformed)

/-- Read a text as a JSON document of the type that `read` wants. -/
def Json.decode {α : Type} (read : Document → Except ReadError α) (text : String) :
    Except ReadError α := do
  let (d, rest) := Document.ofText text
  let a ← read d
  Document.checkFault rest
  .ok a

/-- The value that a JSON text spells out. -/
def Json.parse (text : String) : Except ReadError Json := Json.decode Document.value text

end Healing
