/-
  Reading the text of a pattern.

  1. **Flags** - `Flags`: how the text that follows is to be understood.
  2. **Input** - `Input`: the text to come, the flags, and the names of groups so far.
  3. **Moving** - `bump` over a character; `bumpSpace` also over blanks and comments where they do
     not count.
  4. **Literals** - `Input.one?` and `Input.code?`: what a character stands for.
-/
import Healing.Pattern.Regex
import Healing.Pattern.Unicode
import Healing.Text.Blank

namespace Healing.Pattern

/-! ## Flags -/

/-- How a pattern is to be understood. -/
structure Flags where
  ignoreCase : Bool := false
  /-- Whether lines have ends of their own. -/
  multiLine : Bool := false
  /-- Whether the dot also stands for line ends. -/
  dotAll : Bool := false
  /-- Whether a carriage return ends a line. -/
  anyLineEnd : Bool := false
  /-- Whether blanks and comments do not count. -/
  verbose : Bool := false
  /-- Whether classes go beyond ASCII. -/
  unicode : Bool := true
deriving DecidableEq, Repr, Inhabited

/-- Set or clear the flag that a letter stands for.  The order in which repetitions are tried, for
    which there is a flag, does not matter. -/
def Flags.set (f : Flags) (letter : Char) (on : Bool) : Option Flags :=
  match letter with
  | 'i' => some { f with ignoreCase := on }
  | 'm' => some { f with multiLine := on }
  | 's' => some { f with dotAll := on }
  | 'R' => some { f with anyLineEnd := on }
  | 'x' => some { f with verbose := on }
  | 'u' => some { f with unicode := on }
  | 'U' => some f
  | _ => none

/-! ## Input -/

/-- What is left of the text of a pattern, and what is known about it. -/
structure Input where
  rest : List Char
  flags : Flags := {}
  /-- The names of the groups so far. -/
  names : List String := []
deriving Repr, Inhabited

/-! ## Moving -/

mutual

/-- Move over blanks and comments. -/
def skipVerbose : List Char → List Char
  | [] => []
  | c :: r => if Text.isBlank c then skipVerbose r else if c = '#' then skipComment r else c :: r

/-- Move over the rest of a comment. -/
def skipComment : List Char → List Char
  | [] => []
  | c :: r => if c = '\n' then skipVerbose r else skipComment r

end

namespace Input

/-- Whether the next character is the given one. -/
def sees (i : Input) (c : Char) : Bool := i.rest.head? == some c

/-- Move over blanks and comments where they do not count. -/
def skipSpace (i : Input) : Input :=
  if i.flags.verbose then { i with rest := skipVerbose i.rest } else i

/-- Move over some characters. -/
def bump (i : Input) (count : Nat) : Input := { i with rest := i.rest.drop count }

/-- Move over a character and what does not count behind it. -/
def bumpSpace (i : Input) : Input := (i.bump 1).skipSpace

/-- `bumpSpace`, if something is left behind it. -/
def bumpSpace? (i : Input) : Option Input :=
  let i := i.bumpSpace
  if i.rest.isEmpty then none else some i

/-- Read the longest run of wanted characters, without blanks and comments where they do not
    count. -/
def takeRun (wanted : Char → Bool) : Nat → List Char → Input → List Char × Input
  | 0, run, i => (run.reverse, i)
  | fuel + 1, run, i =>
    match i.rest with
    | c :: _ => if wanted c then takeRun wanted fuel (c :: run) i.bumpSpace else (run.reverse, i)
    | [] => (run.reverse, i)

/-! ## Literals -/

/-- The characters that differ from those of a set only in case, where case does not count. -/
def withCase (i : Input) (s : CharSet) : CharSet :=
  if i.flags.ignoreCase then
    if i.flags.unicode then Unicode.foldCase s else Unicode.foldAsciiCase s
  else s

/-- The set for a character.  A character given by the code of an octet has to be one on its own. -/
def one? (i : Input) (c : Char) (octet : Bool) : Option CharSet :=
  if !i.flags.unicode && octet && c.toNat > 0x7F then none else some (i.withCase (.single c))

/-- The code of a character in a set; without classes beyond ASCII it has to be in ASCII. -/
def code? (i : Input) (c : Char) : Option Nat :=
  if i.flags.unicode || c.toNat ≤ 0x7F then some c.toNat else none

/-- Negate a set.  Without classes beyond ASCII this is refused, as it is not a set of
    characters. -/
def negate? (i : Input) (negated : Bool) (s : CharSet) : Option CharSet :=
  if negated then if i.flags.unicode then some s.complement else none else some s

end Input

end Healing.Pattern
