/-
  Media types, as requests declare them.

  A media type is a type and a subtype, which parameters may follow.  The subtype may end in a
  suffix after a plus sign, which names the format that the subtype is based on.

  1. **Characters** - `isTokenChar`.
  2. **Parameters** - an automaton, `ParameterState.step`, tells whether parameters are well formed.
  3. **Media types** - `MediaType.ofText?`, and `MediaType.isJson`.
-/
namespace Healing

/-! ## Characters -/

/-- Whether a character can stand in a token. -/
def isTokenChar (c : Char) : Bool := c.isAlphanum || "!#$%&'*+-.^_`|~".contains c

/-- Whether a character can stand between quotes. -/
def isQuotableChar (c : Char) : Bool := ' ' ≤ c && c < '\x7f'

/-! ## Parameters -/

/-- Where in the parameters of a media type a reader is. -/
inductive ParameterState where
  /-- In front of a name. -/
  | start
  | name
  /-- Behind the equals sign. -/
  | equals
  | value
  /-- Behind the opening quote. -/
  | opened
  | quoted
  /-- Behind the closing quote. -/
  | closed
deriving DecidableEq, Repr

namespace ParameterState

/-- Read one character.  The first character between quotes may be a quote. -/
def step : ParameterState → Char → Option ParameterState
  | .start, c => if c = ' ' then some .start else if isTokenChar c then some .name else none
  | .name, c => if c = '=' then some .equals else if isTokenChar c then some .name else none
  | .equals, c => if c = '"' then some .opened else if isTokenChar c then some .value else none
  | .value, c => if c = ';' then some .start else if isTokenChar c then some .value else none
  | .opened, c => if isQuotableChar c then some .quoted else none
  | .quoted, c => if c = '"' then some .closed else if isQuotableChar c then some .quoted else none
  | .closed, c => if c = ';' then some .start else if c = ' ' then some .closed else none

/-- Whether the parameters can end here. -/
def canEnd : ParameterState → Bool
  | .start | .equals | .value | .closed => true
  | .name | .opened | .quoted => false

end ParameterState

/-- Whether parameters are well formed. -/
def areParameters (cs : List Char) : Bool :=
  (cs.foldlM ParameterState.step ParameterState.start).any ParameterState.canEnd

/-! ## Media types -/

/-- A media type without its parameters, in lower case. -/
structure MediaType where
  type : String
  /-- The subtype with its suffix. -/
  subtype : String
deriving DecidableEq, Repr, Inhabited

namespace MediaType

/-- Read a media type; a subtype that parameters follow is not empty. -/
def ofText? (s : String) : Option MediaType :=
  let (type, r) := s.toList.span isTokenChar
  match r with
  | '/' :: r =>
    let (subtype, r) := r.span isTokenChar
    let wellFormed := match r with
      | [] => true
      | c :: r => !subtype.isEmpty && (c = ';' || c = ' ') && areParameters r
    if !type.isEmpty && wellFormed then
      some ⟨(String.ofList type).toLower, (String.ofList subtype).toLower⟩
    else none
  | _ => none

/-- A subtype without its suffix, and the suffix. A plus sign in front of everything else belongs to
    the name. -/
def splitSuffix (subtype : List Char) : List Char × Option (List Char) :=
  let suffix := subtype.reverse.takeWhile (· ≠ '+')
  let base := (subtype.reverse.drop (suffix.length + 1)).reverse
  if base.isEmpty then (subtype, none) else (base, some suffix.reverse)

/-- Whether a media type stands for JSON, or for something that is based on it. -/
def isJson (m : MediaType) : Bool :=
  let (base, suffix) := splitSuffix m.subtype.toList
  m.type = "application" && (base = "json".toList || suffix = some "json".toList)

end MediaType

end Healing
