/-
  Internet addresses in text.

  1. **Numbers** - `decimal?`, `isHexGroup`, `isPort`.
  2. **Version 4** - `isIpv4`: four numbers below 256.
  3. **Version 6** - `isIpv6`: eight groups of hexadecimal digits, some of which `::` can stand for.
  4. **Sockets** - `isSocketAddress`: an address and a port.
-/
import Healing.Text.Search

namespace Healing.Web

/-! ## Numbers -/

/-- The number that decimal digits stand for. -/
def decimal? (cs : List Char) : Option Nat :=
  if !cs.isEmpty && cs.all Char.isDigit then
    some (cs.foldl (fun n c => n * 10 + (c.toNat - '0'.toNat)) 0)
  else none

/-- Whether a character is a hexadecimal digit. -/
def isHexDigit (c : Char) : Bool :=
  c.isDigit || ('a' ≤ c && c ≤ 'f') || ('A' ≤ c && c ≤ 'F')

/-- Whether characters are a group of an address. -/
def isHexGroup (cs : List Char) : Bool := 1 ≤ cs.length && cs.length ≤ 4 && cs.all isHexDigit

/-- Whether characters are the number of a port. -/
def isPort (cs : List Char) : Bool := (decimal? cs).any (· < 65536)

/-! ## Version 4 -/

/-- Whether characters are a number below 256, without superfluous zeros. -/
def isOctet (cs : List Char) : Bool :=
  (decimal? cs).any (· < 256) && (cs.length = 1 || cs.head? ≠ some '0')

/-- Whether characters are an address: four numbers between dots. -/
def isIpv4 (cs : List Char) : Bool :=
  let parts := cs.splitOn '.'
  parts.length = 4 && parts.all isOctet

/-! ## Version 6 -/

/-- How many groups stand in parts of an address; where `isLast`, the last part may be an address of
    version 4, which counts as two groups. -/
def groupCount? (isLast : Bool) : List (List Char) → Option Nat
  | [] => some 0
  | [p] => if isHexGroup p then some 1 else if isLast && isIpv4 p then some 2 else none
  | p :: r => if isHexGroup p then (groupCount? isLast r).map (· + 1) else none

/-- The number of groups in one side of `::`, or in an address without it. -/
def sideCount? (isLast : Bool) (cs : List Char) : Option Nat :=
  if cs.isEmpty then some 0 else groupCount? isLast (cs.splitOn ':')

/-- Whether characters are an address of version 6. -/
def isIpv6 (cs : List Char) : Bool :=
  match Text.cutAt? [':', ':'] cs with
  | none => groupCount? true (cs.splitOn ':') = some 8
  | some (front, back) =>
    match sideCount? false front, sideCount? true back with
    | some m, some n => m + n ≤ 7
    | _, _ => false

/-! ## Sockets -/

/-- Whether characters name the scope of an address: a number of 32 bits. -/
def isScope (cs : List Char) : Bool := (decimal? cs).any (· < 4_294_967_296)

/-- Whether characters are an address of version 6, which a percent sign and a scope may follow. -/
def isScopedIpv6 (cs : List Char) : Bool :=
  let (address, r) := cs.span (· ≠ '%')
  isIpv6 address && (r.isEmpty || isScope (r.drop 1))

/-- Whether a text is an address with a port; an address of version 6 stands in brackets. -/
def isSocketAddress (s : String) : Bool :=
  match s.toList with
  | '[' :: cs =>
    match cs.span (· ≠ ']') with
    | (address, ']' :: ':' :: port) => isScopedIpv6 address && isPort port
    | _ => false
  | cs =>
    match cs.span (· ≠ ':') with
    | (address, ':' :: port) => isIpv4 address && isPort port
    | _ => false

end Healing.Web
