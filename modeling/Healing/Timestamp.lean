/-
  Points in time and their texts.

  A point in time is kept as its date and time of day in UTC.  It is read from a lenient form of
  RFC 3339 and written in the strict one.

  1. **Calendar** - lengths of months, the days before and after a day.
  2. **Points in time** - `Timestamp`; `shift` moves one by an offset of less than a day.
  3. **Reading** - `Timestamp.read?`: blanks between the parts, fields of fewer digits, offsets with
     or without a colon.
  4. **Writing** - `Timestamp.write` with as many groups of three fraction digits as are needed.
-/
import Healing.Decimal.Numeral
import Healing.Text.Blank

namespace Healing

/-! ## Calendar -/

namespace Calendar

/-- Whether February has 29 days. -/
def isLeapYear (year : Int) : Bool := year % 4 = 0 && (year % 100 ≠ 0 || year % 400 = 0)

/-- The number of days of a month. -/
def monthLength (year : Int) (month : Nat) : Nat :=
  if month = 2 then if isLeapYear year then 29 else 28
  else if month = 4 ∨ month = 6 ∨ month = 9 ∨ month = 11 then 30
  else 31

/-- The years that a date may lie in. -/
def yearBounds : Int × Int := (-262143, 262142)

/-- The day after. -/
def nextDay (year : Int) (month day : Nat) : Int × Nat × Nat :=
  if day < monthLength year month then (year, month, day + 1)
  else if month < 12 then (year, month + 1, 1)
  else (year + 1, 1, 1)

/-- The day before. -/
def previousDay (year : Int) (month day : Nat) : Int × Nat × Nat :=
  if day > 1 then (year, month, day - 1)
  else if month > 1 then (year, month - 1, monthLength year (month - 1))
  else (year - 1, 12, 31)

end Calendar

/-! ## Points in time -/

/-- A point in time, as date and time of day in UTC; second 60 is a leap second. -/
structure Timestamp where
  year : Int
  month : Nat
  day : Nat
  hour : Nat
  minute : Nat
  second : Nat
  nanos : Nat
deriving DecidableEq, Repr, Inhabited

namespace Timestamp

/-- Whether the date exists and the time of day is one. -/
def isValid (t : Timestamp) : Bool :=
  Calendar.yearBounds.1 ≤ t.year && t.year ≤ Calendar.yearBounds.2
    && 1 ≤ t.month && t.month ≤ 12 && 1 ≤ t.day && t.day ≤ Calendar.monthLength t.year t.month
    && t.hour < 24 && t.minute < 60 && t.second ≤ 60 && t.nanos < 1000000000

/-- The point in time whose clock shows the given date and time at an offset from UTC in minutes,
    of less than a day. -/
def ofOffset (t : Timestamp) (offset : Int) : Timestamp :=
  let minutes : Int := t.hour * 60 + t.minute - offset
  let (date, minutes) :=
    if minutes < 0 then (Calendar.previousDay t.year t.month t.day, minutes + 1440)
    else if minutes ≥ 1440 then (Calendar.nextDay t.year t.month t.day, minutes - 1440)
    else ((t.year, t.month, t.day), minutes)
  { t with
    year := date.1, month := date.2.1, day := date.2.2
    hour := minutes.toNat / 60, minute := minutes.toNat % 60 }

/-! ## Reading -/

/-- At least one digit, at most `most` of them, and what stands behind. -/
def readDigits? (most : Nat) (cs : List Char) : Option (List Char × List Char) :=
  let ds := (cs.take most).takeWhile Char.isDigit
  if ds.isEmpty then none else some (ds, cs.drop ds.length)

/-- A number of at most two digits within bounds, with blanks before it. -/
def readField? (low high : Nat) (cs : List Char) : Option (Nat × List Char) :=
  (readDigits? 2 (Text.trimStart cs)).bind fun (ds, r) =>
    let n := Numeral.ofDecimal ds
    if low ≤ n ∧ n ≤ high then some (n, r) else none

/-- A year: four digits at most, or any number of them behind a sign. -/
def readYear? (cs : List Char) : Option (Int × List Char) :=
  match Text.trimStart cs with
  | '-' :: r => (readDigits? r.length r).map fun (ds, r) => (-(Numeral.ofDecimal ds : Int), r)
  | '+' :: r => (readDigits? r.length r).map fun (ds, r) => ((Numeral.ofDecimal ds : Int), r)
  | r => (readDigits? 4 r).map fun (ds, r) => ((Numeral.ofDecimal ds : Int), r)

/-- A separator, with blanks before it. -/
def readMark? (c : Char) (cs : List Char) : Option (List Char) :=
  match Text.trimStart cs with
  | d :: r => if d = c then some r else none
  | [] => none

/-- A fraction of a second in nanoseconds; digits beyond the ninth are dropped. -/
def readFraction? (cs : List Char) : Option (Nat × List Char) :=
  match cs with
  | '.' :: r =>
    (readDigits? 9 r).map fun (ds, r) =>
      (Numeral.ofDecimal ds * Nat.pow 10 (9 - ds.length), r.dropWhile Char.isDigit)
  | r => some (0, r)

/-- An offset from UTC in minutes: `Z`, `UTC`, or a sign with hours and minutes. -/
def readOffset? (cs : List Char) : Option (Int × List Char) :=
  match cs with
  | [] => none
  | c :: r =>
    if ((cs.take 3).map Char.toUpper) = ['U', 'T', 'C'] then some (0, cs.drop 3)
    else if c = 'Z' ∨ c = 'z' then some (0, r)
    else
      let sign : Option Int :=
        if c = '+' then some 1 else if c = '-' ∨ c = '−' then some (-1) else none
      sign.bind fun sign =>
        match r with
        | h1 :: h2 :: r =>
          if !(h1.isDigit && h2.isDigit) then none
          else
            match r.dropWhile fun c => c = ':' || Text.isBlank c with
            | m1 :: m2 :: r =>
              if !(m1.isDigit && m2.isDigit) || m1 > '5' then none
              else
                let minutes := Numeral.ofDecimal [h1, h2] * 60 + Numeral.ofDecimal [m1, m2]
                if minutes < 1440 then some (sign * minutes, r) else none
            | _ => none
        | _ => none

/-- Read a point in time. -/
def read? (text : String) : Option Timestamp := do
  let (year, r) ← readYear? text.toList
  let r ← readMark? '-' r
  let (month, r) ← readField? 1 12 r
  let r ← readMark? '-' r
  let (day, r) ← readField? 1 31 r
  let r ← match r with
    | c :: r => if c = 't' ∨ c = 'T' ∨ c = ' ' then some r else none
    | [] => none
  let (hour, r) ← readField? 0 23 r
  let r ← readMark? ':' r
  let (minute, r) ← readField? 0 59 r
  let r ← readMark? ':' r
  let (second, r) ← readField? 0 60 r
  let (nanos, r) ← readFraction? r
  let (offset, r) ← readOffset? (Text.trimStart r)
  let wall : Timestamp := { year, month, day, hour, minute, second, nanos }
  let t := wall.ofOffset offset
  if (Text.trimStart r).isEmpty && wall.isValid && t.isValid then some t else none

/-! ## Writing -/

/-- A number with zeros in front up to the given width. -/
def padded (width n : Nat) : List Char :=
  let ds := (toString n).toList
  List.replicate (width - ds.length) '0' ++ ds

/-- The year, with a sign outside of the years 0 to 9999. -/
def writeYear (year : Int) : List Char :=
  if 0 ≤ year ∧ year ≤ 9999 then padded 4 year.toNat
  else (if year < 0 then '-' else '+') :: padded 4 year.natAbs

/-- The fraction of a second in as many groups of three digits as it needs. -/
def writeFraction (nanos : Nat) : List Char :=
  if nanos = 0 then []
  else if nanos % 1000000 = 0 then '.' :: padded 3 (nanos / 1000000)
  else if nanos % 1000 = 0 then '.' :: padded 6 (nanos / 1000)
  else '.' :: padded 9 nanos

/-- The characters of a point in time up to the seconds. -/
def writeSeconds (t : Timestamp) : List Char :=
  writeYear t.year ++ '-' :: padded 2 t.month ++ '-' :: padded 2 t.day ++ 'T' :: padded 2 t.hour
    ++ ':' :: padded 2 t.minute ++ ':' :: padded 2 t.second

/-- The text of a point in time in UTC. -/
def write (t : Timestamp) : String :=
  String.ofList (t.writeSeconds ++ writeFraction t.nanos ++ ['Z'])

/-- The text of a point in time in UTC without its fraction of a second. -/
def writeWhole (t : Timestamp) : String := String.ofList (t.writeSeconds ++ ['Z'])

end Timestamp

end Healing
