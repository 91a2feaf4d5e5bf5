/-
  Plain scalars: words without quotes.

  A plain scalar ends at a colon with nothing behind it, at a comment, at a line that is not
  indented enough, and within brackets also at a comma or a bracket.

  1. **Words** - `takeWord`: the characters up to a blank or the end of the scalar.
  2. **Scalars** - `takePlain` joins the words.
-/
import Healing.Yaml.Scalar.Gap

namespace Healing.Yaml

/-! ## Words -/

/-- The characters that end a scalar within brackets. -/
def flowIndicators : List Char := [',', '[', ']', '{', '}']

/-- Whether a scalar ends here, ahead of the given characters. -/
def endsPlain (inFlow : Bool) (c : Char) (rest : List Char) : Bool :=
  (c = ':' && endsWord rest) || (inFlow && flowIndicators.contains c)

/-- Whether a colon stands where it can neither be part of a scalar nor end one. -/
def isStrayColon (inFlow : Bool) (c : Char) (rest : List Char) : Bool :=
  inFlow && c = ':' && rest.head?.any fun x => x = '?' || flowIndicators.contains x

/-- The characters up to a blank or the end of the scalar. -/
def takeWord (inFlow : Bool) : List Char → Option (List Char)
  | [] => some []
  | c :: r =>
    if isSpace c then some []
    else if isStrayColon inFlow c r then none
    else if endsPlain inFlow c r then some []
    else (takeWord inFlow r).map (c :: ·)

/-! ## Scalars -/

/-- Read on in a plain scalar: the text so far and the gap behind it.  The gap that is left at the
    end is no part of the scalar. -/
def Cursor.takePlain (inFlow : Bool) (indent : Int) :
    Nat → String → Gap → Cursor → Option (String × Gap × Cursor)
  | 0, text, g, c => some (text, g, c)
  | fuel + 1, text, g, c =>
    if c.atMark || c.sees '#' then some (text, g, c)
    else
      match takeWord inFlow c.rest with
      | none => none
      | some word =>
        let text := if word.isEmpty then text else text ++ g.text ++ String.ofList word
        let g := if word.isEmpty then g else {}
        let c := c.advance word.length
        if c.next?.any isSpace then
          match c.takeGap indent fuel g with
          | none => none
          | some (g, c) =>
            if !inFlow && (c.column : Int) < indent then some (text, g, c)
            else takePlain inFlow indent fuel text g c
        else some (text, g, c)

end Healing.Yaml
