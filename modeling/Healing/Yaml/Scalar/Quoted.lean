/-
  Scalars between quotes.

  Between single quotes only the quote itself is special, and is written twice.  Between double
  quotes a backslash starts an escape.

  1. **Escapes** - `escape?`: what the character behind a backslash stands for.
  2. **Words** - `Word`: the characters up to a blank, the closing quote or an escaped line break.
  3. **Scalars** - `takeQuoted` joins the words.
-/
import Healing.Yaml.Scalar.Gap

namespace Healing.Yaml

/-! ## Escapes -/

/-- What an escape stands for: a character, or the one with a code of so many digits. -/
inductive Escape where
  | char (c : Char)
  | code (digits : Nat)

/-- The escape that the character behind a backslash denotes. -/
def escape? : Char → Option Escape
  | '0' => some (.char '\x00')
  | 'a' => some (.char '\x07')
  | 'b' => some (.char '\x08')
  | 't' => some (.char '\t')
  | '\t' => some (.char '\t')
  | 'n' => some (.char '\n')
  | 'v' => some (.char '\x0b')
  | 'f' => some (.char '\x0c')
  | 'r' => some (.char '\r')
  | 'e' => some (.char '\x1b')
  | ' ' => some (.char ' ')
  | '"' => some (.char '"')
  | '/' => some (.char '/')
  | '\\' => some (.char '\\')
  | 'N' => some (.char '\u0085')
  | '_' => some (.char '\u00a0')
  | 'L' => some (.char '\u2028')
  | 'P' => some (.char '\u2029')
  | 'x' => some (.code 2)
  | 'u' => some (.code 4)
  | 'U' => some (.code 8)
  | _ => none

/-- The value of a hexadecimal digit. -/
def hexDigit? (c : Char) : Option Nat :=
  if c.isDigit then some (c.toNat - '0'.toNat)
  else if 'a' ≤ c && c ≤ 'f' then some (c.toNat - 'a'.toNat + 10)
  else if 'A' ≤ c && c ≤ 'F' then some (c.toNat - 'A'.toNat + 10)
  else none

/-- The number that hexadecimal digits spell out. -/
def hexNumber? (digits : List Char) : Option Nat :=
  digits.foldlM (fun n c => (hexDigit? c).map (16 * n + ·)) 0

/-- The character with the code that so many hexadecimal digits spell out. -/
def codeChar? (count : Nat) (cs : List Char) : Option Char :=
  let digits := cs.take count
  if digits.length = count then
    (hexNumber? digits).bind fun n => if n.isValidChar then some (.ofNat n) else none
  else none

/-! ## Words -/

/-- Characters of a scalar between quotes, and the gap that an escaped line break opens. -/
structure Word where
  text : String := ""
  gap : Gap := {}

/-- Read on in a word up to a blank, a quote or an escaped line break. -/
def Cursor.takeQuotedWord (quote : Char) : Nat → String → Cursor → Option (Word × Cursor)
  | 0, text, c => some ({ text }, c)
  | fuel + 1, text, c =>
    match c.rest with
    | [] => some ({ text }, c)
    | x :: r =>
      if isSpace x then some ({ text }, c)
      else if x = quote then
        if quote = '\'' && r.head? == some '\'' then
          takeQuotedWord quote fuel (text.push x) (c.advance 2)
        else some ({ text }, c)
      else if quote = '"' && x = '\\' then
        match (c.advance 1).takeBreak? with
        | some (_, c) => some ({ text, gap := { broken := true } }, c)
        | none =>
          match r.head?.bind escape? with
          | none => none
          | some (.char y) => takeQuotedWord quote fuel (text.push y) (c.advance 2)
          | some (.code digits) =>
            match codeChar? digits (r.drop 1) with
            | none => none
            | some y => takeQuotedWord quote fuel (text.push y) (c.advance (2 + digits))
      else takeQuotedWord quote fuel (text.push x) (c.advance 1)

/-! ## Scalars -/

/-- Read on in a scalar behind its opening quote, and over the closing one. -/
def Cursor.takeQuoted (quote : Char) : Nat → String → Cursor → Option (String × Cursor)
  | 0, _, _ => none
  | fuel + 1, text, c =>
    if c.atMark || c.rest.isEmpty then none
    else
      match c.takeQuotedWord quote fuel text with
      | none => none
      | some (word, c) =>
        if c.sees quote then some (word.text, c.advance 1)
        else
          match c.takeGap 0 fuel word.gap with
          | none => none
          | some (g, c) => takeQuoted quote fuel (word.text ++ g.text) c

end Healing.Yaml
