/-
  How much room an expression takes when it is prepared for matching.

  Patterns that would take too much room are refused.  The room is that of a machine that reads the
  octets of a text, forwards or backwards.  The backwards machine knows no groups, and has a
  separate path for each way in which the characters of a set are spelled out in octets.

  1. **Octets** - `octetPaths`: the ways to spell out the characters of a set.
  2. **Sets** - `forwardPaths` and `backwardPaths`, the room for a set of characters.
  3. **Expressions** - `Regex.weight`, and `Regex.fits`.
-/
import Healing.Pattern.Regex

namespace Healing.Pattern

/-! ## Octets -/

/-- The octets of a code point. -/
def octets (code : Nat) : List Nat :=
  if code < 0x80 then [code]
  else if code < 0x800 then [0xC0 + code / 64, 0x80 + code % 64]
  else if code < 0x10000 then [0xE0 + code / 4096, 0x80 + code / 64 % 64, 0x80 + code % 64]
  else
    [0xF0 + code / 262144, 0x80 + code / 4096 % 64, 0x80 + code / 64 % 64, 0x80 + code % 64]

/-- The last code points that take one, two and three octets. -/
def lastOfLength : List Nat := [0x7F, 0x7FF, 0xFFFF]

/-- Where a range of code points has to be split, so that its octets vary independently. -/
def splitPoint? (low high : Nat) : Option Nat :=
  match lastOfLength.find? fun m => low ≤ m && m < high with
  | some m => some m
  | none =>
    if high ≤ 0x7F then none
    else
      [64, 4096, 262144].findSome? fun block =>
        if low / block = high / block then none
        else if low % block ≠ 0 then some ((low / block + 1) * block - 1)
        else if high % block ≠ block - 1 then some (high / block * block - 1)
        else none

/-- A way to spell out characters: the range of each octet. -/
abbrev OctetPath := List (Nat × Nat)

/-- The ways to spell out the code points of a range. -/
def rangePaths : Nat → Nat → Nat → List OctetPath
  | 0, _, _ => []
  | fuel + 1, low, high =>
    match splitPoint? low high with
    | some m => rangePaths fuel low m ++ rangePaths fuel (m + 1) high
    | none => [(octets low).zip (octets high)]

/-- The ways to spell out the characters of a set.  The halves of pairs of code units are none. -/
def octetPaths (s : CharSet) : List OctetPath :=
  (s.diff (.range 0xD800 0xDFFF)).ranges.flatMap fun r => rangePaths 64 r.1 r.2

/-! ## Sets -/

/-- Group paths by their first step. -/
def groupPaths : List OctetPath → List ((Nat × Nat) × List OctetPath)
  | [] => []
  | [] :: r => groupPaths r
  | (step :: rest) :: r =>
    match groupPaths r with
    | (next, rests) :: groups =>
      if next = step then (step, rest :: rests) :: groups
      else (step, [rest]) :: (next, rests) :: groups
    | [] => [(step, [rest])]

/-- The steps out of a state: the octets and the number of the next state; 0 is the end. -/
abbrev Steps := List ((Nat × Nat) × Nat)

/-- The state from which given paths lead to the end, among the states so far. -/
def stateOf : Nat → List OctetPath → List Steps → Nat × List Steps
  | 0, _, states => (0, states)
  | depth + 1, paths, states =>
    match groupPaths paths with
    | [] => (0, states)
    | groups =>
      let (steps, states) := groups.foldl (fun (acc : Steps × List Steps) g =>
        let (next, states) := stateOf depth g.2 acc.2
        (acc.1 ++ [(g.1, next)], states)) ([], states)
      match states.findIdx? (· == steps) with
      | some i => (states.length - i, states)
      | none => (states.length + 1, steps :: states)

/-- How many steps there are when paths share their first steps. -/
def sharedSteps : Nat → List OctetPath → Nat
  | 0, _ => 0
  | depth + 1, paths =>
    (groupPaths paths).foldl (fun n g => n + 1 + sharedSteps depth g.2) 0

/-- The room for a state. -/
def stateRoom : Nat := 32

/-- The room for a step from one state to another. -/
def stepRoom : Nat := 8

/-- The room for the choice of a next state. -/
def choiceRoom : Nat := 4

/-- The room for a set when reading forwards: equal states are shared. -/
def forwardPaths (paths : List OctetPath) : Nat :=
  let (_, states) := stateOf 5 paths []
  states.foldl (fun n steps => n + stateRoom + stepRoom * steps.length) stateRoom

/-- The room for a set when reading backwards. -/
def backwardPaths (paths : List OctetPath) : Nat :=
  stateRoom * (2 + sharedSteps 5 paths) + choiceRoom * paths.length

/-! ## Expressions -/

/-- The room for one character of a set. -/
def CharSet.weight (backward : Bool) (s : CharSet) : Nat :=
  if s.isEmpty then stateRoom
  else
    match s.only? with
    | some code => stateRoom * (octets code).length
    | none =>
      if s.isAscii then 2 * stateRoom + stepRoom * s.ranges.length
      else if backward then backwardPaths (octetPaths s)
      else forwardPaths (octetPaths s)

namespace Regex

/-- The room for an expression.  For a part of a choice, `inChoice` says that the room for the
    choice itself has been counted. -/
def weight (backward : Bool) : Bool → Regex → Nat
  | _, .empty => stateRoom
  | _, .one s => s.weight backward
  | _, .place _ => stateRoom
  | _, .cat a b => weight backward false a + weight backward false b
  | inChoice, .alt a b =>
    weight backward false a + weight backward true b + choiceRoom
      + (if inChoice then 0 else 2 * stateRoom + choiceRoom)
  | _, .group r => weight backward false r + (if backward then 0 else 2 * stateRoom)
  | _, .repeated least most r =>
    let w := weight backward false r
    let loop := stateRoom + 2 * choiceRoom
    match least, most with
    | 0, some 1 => 2 * stateRoom + 2 * choiceRoom + w
    | 0, none => if r.mayBeEmpty then 2 * loop + stateRoom + w else loop + w
    | n, none => n * w + loop
    | n, some m => n * w + (if n = m then 0 else stateRoom + (m - n) * (loop + w))

/-- The largest room that an expression may take. -/
def mostRoom : Nat := 10_485_760

/-- The room for finding an expression anywhere in a text, beyond that for itself. -/
def searchRoom : Nat := 7 * stateRoom

/-- Whether an expression is small enough. -/
def fits (r : Regex) : Bool :=
  weight false false r + searchRoom ≤ mostRoom && weight true false r + searchRoom ≤ mostRoom

end Regex

end Healing.Pattern
