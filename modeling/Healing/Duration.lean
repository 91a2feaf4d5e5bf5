/-
  Durations and their texts.

  A duration is a number of nanoseconds.  Its text is a sequence of terms such as `1h30m`, each a
  decimal number with a unit.

  1. **Units** - `DurationUnit` and its spellings.
  2. **Terms** - `Term` with its value: the product of number and unit as a floating-point number,
     rounded to whole nanoseconds.
  3. **Reading terms** - `nextTerm?` cuts the first term off a text, `terms?` all of them.
  4. **Durations** - `Duration.read?`, and `Duration.readInterval` for durations that are not zero.
-/
import Healing.Decimal.Numeral
import Healing.Text.Blank

namespace Healing

/-! ## Units -/

/-- The units of durations. -/
inductive DurationUnit where
  | nanosecond
  | microsecond
  | millisecond
  | second
  | minute
  | hour
deriving DecidableEq, Repr, Inhabited

namespace DurationUnit

/-- The length of a unit in nanoseconds. -/
def nanos : DurationUnit → Nat
  | .nanosecond => 1
  | .microsecond => 1_000
  | .millisecond => 1_000_000
  | .second => 1_000_000_000
  | .minute => 60_000_000_000
  | .hour => 3_600_000_000_000

/-- The unit that a text spells; a microsecond has three spellings. -/
def ofText? : List Char → Option DurationUnit
  | ['n', 's'] => some .nanosecond
  | ['u', 's'] => some .microsecond
  | ['\u00b5', 's'] => some .microsecond
  | ['\u03bc', 's'] => some .microsecond
  | ['m', 's'] => some .millisecond
  | ['s'] => some .second
  | ['m'] => some .minute
  | ['h'] => some .hour
  | _ => none

end DurationUnit

namespace Duration

/-! ## Terms -/

/-- A decimal number with a unit. -/
structure Term where
  /-- The digits before the point. -/
  whole : List Char
  /-- The digits behind the point. -/
  fraction : List Char
  unit : DurationUnit
deriving DecidableEq, Repr, Inhabited

/-- What stands for a value beyond the range of floating-point numbers. -/
def huge : Nat := 340_282_366_920_938_463_463_374_607_431_768_211_455

/-- The value of a floating-point number in whole units, a half rounded up. -/
def roundNanos : Option Binary64 → Nat
  | some x => Binary64.roundHalfUp x.ratio.1 x.ratio.2
  | none => huge

/-- The value of a term in nanoseconds. -/
def Term.nanos (t : Term) : Nat :=
  let number :=
    Binary64.ofDecimal false (Numeral.ofDecimal (t.whole ++ t.fraction))
      (-(t.fraction.length : Int))
  roundNanos (number.bind fun x => x.mul (.ofNat t.unit.nanos))

/-! ## Reading terms -/

/-- Whether a character belongs to a number. -/
def isNumberChar (c : Char) : Bool := c.isDigit || c = '.'

/-- The digits of a number before and behind its point; it has at most one point, and a digit. -/
def splitNumber? (cs : List Char) : Option (List Char × List Char) :=
  let whole := cs.takeWhile Char.isDigit
  match cs.dropWhile Char.isDigit with
  | [] => if whole.isEmpty then none else some (whole, [])
  | _ :: fraction =>
    if fraction.all Char.isDigit && !(whole.isEmpty && fraction.isEmpty) then some (whole, fraction)
    else none

/-- The first term of a text and the rest; a unit extends to the next number. -/
def nextTerm? (cs : List Char) : Option (Term × List Char) := do
  let r := cs.dropWhile isNumberChar
  let (whole, fraction) ← splitNumber? (cs.takeWhile isNumberChar)
  let unit ← DurationUnit.ofText? (r.takeWhile fun c => !isNumberChar c)
  some (⟨whole, fraction, unit⟩, r.dropWhile fun c => !isNumberChar c)

theorem length_dropWhile_le {α : Type} (p : α → Bool) (l : List α) :
    (l.dropWhile p).length ≤ l.length :=
  (List.dropWhile_suffix p).length_le

/-- A term takes something off a text. -/
theorem length_lt_of_nextTerm? {cs r : List Char} {t : Term} (h : nextTerm? cs = some (t, r)) :
    r.length < cs.length := by
  unfold nextTerm? at h
  cases cs with
  | nil => simp [splitNumber?] at h
  | cons c cs =>
    by_cases hc : isNumberChar c = true
    · simp only [Option.bind_eq_bind, Option.bind_eq_some_iff] at h
      obtain ⟨_, _, _, _, h⟩ := h
      simp only [Option.some.injEq, Prod.mk.injEq] at h
      rw [← h.2, List.dropWhile_cons_of_pos hc]
      refine Nat.lt_of_le_of_lt (length_dropWhile_le _ _) ?_
      exact Nat.lt_succ_of_le (length_dropWhile_le _ _)
    · simp [hc, splitNumber?] at h

/-- All terms of a text. -/
def terms? (cs : List Char) : Option (List Term) :=
  if cs.isEmpty then some []
  else
    match _h : nextTerm? cs with
    | none => none
    | some (t, r) => (terms? r).map (t :: ·)
termination_by cs.length
decreasing_by exact length_lt_of_nextTerm? ‹_›

end Duration

/-! ## Durations -/

/-- A number of nanoseconds. -/
abbrev Duration := Nat

namespace Duration

/-- The longest duration. -/
def longest : Duration := 18_446_744_073_709_551_615

/-- The duration that terms add up to, if it is not too long. -/
def ofTerms? (terms : List Term) : Option Duration :=
  let sum := terms.foldl (fun total term => total + term.nanos) 0
  if sum ≤ longest then some sum else none

/-- The duration that a text spells out: `0`, or one or more terms; blanks around it are ignored. -/
def read? (text : String) : Option Duration :=
  let cs := Text.trim text.toList
  if cs = ['0'] then some 0
  else if cs.isEmpty then none
  else (terms? cs).bind ofTerms?

/-- Why a text is no duration, or not one that is wanted. -/
inductive Fault where
  | invalid (text : String)
  | zero (text : String)
deriving DecidableEq, Repr, Inhabited

/-- The message of a fault. -/
def Fault.message : Fault → String
  | .invalid text => "invalid duration '" ++ text ++ "'"
  | .zero text => "interval '" ++ text ++ "' must be greater than zero"

/-- Read a duration. -/
def read (text : String) : Except Fault Duration :=
  match read? text with
  | some d => .ok d
  | none => .error (.invalid text)

/-- Read a duration that is not zero. -/
def readInterval (text : String) : Except Fault Duration := do
  let d ← read text
  if d = 0 then .error (.zero (String.ofList (Text.trim text.toList))) else .ok d

end Duration

end Healing
