/-
  Addresses of resources.

  Only so much is read of a URL as tells whether it names a host: its scheme, its host and its port.
  Some schemes are special: their URLs always name a host, whatever number of slashes stands in
  front of it, and the host is a domain or an internet address.

  1. **Schemes** - `isSpecial` and `splitScheme?`.
  2. **Hosts** - `isDomain`, `isOpaqueHost`; a domain whose last label is a number is an address.
  3. **Authorities** - `splitPort?` parts a host from its port.
  4. **URLs** - `Url.ofText`.
  5. **Proxies** - `Url.ofProxy?`; the scheme of a proxy may be missing.
-/
import Healing.Web.IpAddress

namespace Healing.Web

/-! ## Schemes -/

/-- Whether URLs of a scheme always name a host. -/
def isSpecial (scheme : String) : Bool := ["http", "https", "ws", "wss", "ftp"].contains scheme

/-- Whether a character can stand in a scheme behind its first letter. -/
def isSchemeChar (c : Char) : Bool := c.isAlphanum || c = '+' || c = '-' || c = '.'

/-- The scheme in front of the first colon, in lower case, and what stands behind it. -/
def splitScheme? (cs : List Char) : Option (String × List Char) :=
  match cs.span isSchemeChar with
  | (c :: scheme, ':' :: r) =>
    if c.isAlpha then some ((String.ofList (c :: scheme)).toLower, r) else none
  | _ => none

/-! ## Hosts -/

/-- The value of a hexadecimal digit. -/
def hexValue (c : Char) : Nat :=
  if c.isDigit then c.toNat - '0'.toNat else (c.toLower.toNat - 'a'.toNat) + 10

/-- Put bytes in the place of their escapes; a percent sign that starts no escape stays. -/
def unescapeBytes : List Char → List Char
  | '%' :: a :: b :: r =>
    if isHexDigit a && isHexDigit b then
      Char.ofNat (hexValue a * 16 + hexValue b) :: unescapeBytes r
    else '%' :: unescapeBytes (a :: b :: r)
  | c :: r => c :: unescapeBytes r
  | [] => []

/-- Whether a character can stand in no host. -/
def isForbiddenInHost (c : Char) : Bool :=
  c = '\x00' || c = '\t' || c = '\n' || c = '\r' || " #/:<>?@[\\]^|".contains c

/-- Whether a character can stand in no domain. -/
def isForbiddenInDomain (c : Char) : Bool :=
  isForbiddenInHost c || c < ' ' || c = '\x7f' || c = '%'

/-- The number that a label stands for: a decimal, hexadecimal or octal one. -/
def labelNumber? (label : List Char) : Option Nat :=
  let value (base : Nat) (digits : List Char) : Option Nat :=
    if digits.all fun c => isHexDigit c && hexValue c < base then
      some (digits.foldl (fun n c => n * base + hexValue c) 0)
    else none
  match label with
  | [] => none
  | '0' :: 'x' :: r => value 16 r
  | '0' :: r => value 8 r
  | cs => value 10 cs

/-- The labels of a domain; one dot at its end does not count. -/
def labels (domain : List Char) : List (List Char) :=
  let parts := domain.splitOn '.'
  if parts.length > 1 && parts.getLast? = some [] then parts.dropLast else parts

/-- Whether a domain is meant to be an address, because its last label is a number. -/
def endsInNumber (domain : List Char) : Bool :=
  match (labels domain).getLast? with
  | some label => (!label.isEmpty && label.all Char.isDigit) || (label.take 2 = ['0', 'x']
      && (labelNumber? label).isSome)
  | none => false

/-- Whether labels are an address: numbers below 256, but the last one fills the bytes that are
    left. -/
def isAddress (labels : List (List Char)) : Bool :=
  match labels.mapM labelNumber? with
  | some numbers =>
    numbers.length ≤ 4 && numbers.dropLast.all (· < 256)
      && numbers.getLast?.any (· < Nat.pow 256 (5 - numbers.length))
  | none => false

/-- Whether characters are a domain, or an address in the place of one. -/
def isDomain (cs : List Char) : Bool :=
  let domain := (unescapeBytes cs).map Char.toLower
  !domain.isEmpty && !domain.any isForbiddenInDomain
    && (!endsInNumber domain || isAddress (labels domain))

/-- Whether characters are a host of a scheme that is not special. -/
def isOpaqueHost (cs : List Char) : Bool := !cs.any isForbiddenInHost

/-- Whether characters are a host. -/
def isHost (special : Bool) : List Char → Bool
  | '[' :: r => r.getLast? = some ']' && isIpv6 r.dropLast
  | cs => if special then isDomain cs else isOpaqueHost cs

/-! ## Authorities -/

/-- Part a host from what follows the first colon behind it; a colon between brackets is a part of
    the host. -/
def splitPort (inBrackets : Bool) : List Char → List Char × Option (List Char)
  | [] => ([], none)
  | c :: r =>
    if c = ':' && !inBrackets then ([], some r)
    else
      let (host, port) := splitPort (c = '[' || (inBrackets && c ≠ ']')) r
      (c :: host, port)

/-- What stands behind the last `@`. -/
def dropCredentials (cs : List Char) : List Char := (cs.reverse.takeWhile (· ≠ '@')).reverse

/-! ## URLs -/

/-- What is known about a URL. -/
structure Url where
  scheme : String
  host : Option String
  port : Option Nat := none
deriving DecidableEq, Repr, Inhabited

/-- Why a text is no URL. -/
inductive UrlFault where
  /-- There is no scheme. -/
  | relative
  | invalid
deriving DecidableEq, Repr, Inhabited

namespace Url

/-- Read the host and the port of a URL. -/
def ofAuthority (scheme : String) (authority : List Char) : Except UrlFault Url :=
  let (host, port) := splitPort false (dropCredentials authority)
  let portIsValid := match port with
    | none => true
    | some digits => digits.isEmpty || isPort digits
  if isHost (isSpecial scheme) host && portIsValid then
    .ok {
      scheme
      host := if host.isEmpty then none else some (String.ofList host).toLower
      port := port.bind decimal? }
  else .error .invalid

/-- Blanks and control characters, which do not count around a URL. -/
def isMargin (c : Char) : Bool := c ≤ ' '

/-- The characters of a text that count in a URL. -/
def clean (s : String) : List Char :=
  let cs := ((s.toList.dropWhile isMargin).reverse.dropWhile isMargin).reverse
  cs.filter fun c => c ≠ '\t' && c ≠ '\n' && c ≠ '\r'

/-- Read a URL. -/
def ofText (s : String) : Except UrlFault Url :=
  match splitScheme? (clean s) with
  | none => .error .relative
  | some (scheme, r) =>
    let isSlash (c : Char) : Bool := c = '/' || c = '\\'
    if isSpecial scheme then
      let authority := r.dropWhile isSlash
      ofAuthority scheme (authority.takeWhile fun c => !isSlash c && c ≠ '?' && c ≠ '#')
    else
      match r with
      | '/' :: '/' :: r => ofAuthority scheme (r.takeWhile fun c => c ≠ '/' && c ≠ '?' && c ≠ '#')
      | _ => .ok { scheme, host := none }

/-! ## Proxies -/

/-- The URL of a text, if it names a host. -/
def withHost? (s : String) : Option Url := (ofText s).toOption.filter fun u => u.host.isSome

/-- The URL of a proxy.  What has no scheme, or has no host behind it, is taken for a host. -/
def ofProxy? (s : String) : Option Url :=
  match ofText s with
  | .ok u => if u.host.isSome then some u else withHost? ("http://" ++ s)
  | .error .relative => withHost? ("http://" ++ s)
  | .error .invalid => none

end Url

end Healing.Web
