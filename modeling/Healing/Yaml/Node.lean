/-
  The tree of a YAML text.

  A text that cannot be read on has a tree all the same: it is cut at the fault.

  1. **Nodes** - `Node`: scalars, lists and maps, and repetitions of nodes that have an anchor.
  2. **Sources** - `Source`: the tokens to come, the meaning of handles, and the anchors so far.
  3. **Properties** - `takeProperties`: the anchor and the tag of a node.
  4. **Content** - `takeNode` and the parts of lists and maps, in both notations.
  5. **Documents** - `Tree.ofTokens` reads the one document of a text.
-/
import Healing.Yaml.Token

namespace Healing.Yaml

/-! ## Nodes -/

/-- A node of the tree.  An anchor is known by the number of its name. -/
inductive Node where
  | scalar (value : Scalar) (anchor : Option Nat)
  /-- A list, and whether its end has been reached. -/
  | list (items : List Node) (tag : Option String) (anchor : Option Nat) (closed : Bool)
  /-- A map, and whether its end has been reached. -/
  | map (entries : List (Node × Node)) (tag : Option String) (anchor : Option Nat) (closed : Bool)
  /-- The last node of the whole text with this anchor, once more. -/
  | repeated (anchor : Nat)
  /-- The place where the text could not be read on. -/
  | cut
deriving Repr, Inhabited

/-- A scalar of which nothing is written. -/
def Node.empty : Node := .scalar { text := "" } none

/-! ## Sources -/

/-- What is left of a text, and what is known from the part that has been read. -/
structure Source where
  tokens : List Token
  /-- The meanings of handles. -/
  handles : List (String × String)
  /-- The names of the anchors so far, each with its number. -/
  names : List (String × Nat) := []
deriving Repr, Inhabited

/-- What a step gives: a result and the source behind it, if the text could be read on. -/
abbrev Taken (α : Type) := α × Option Source

namespace Source

/-- The source behind its first token. -/
def skip (s : Source) : Source := { s with tokens := s.tokens.tail }

/-- The next token. -/
def next? (s : Source) : Option Token := s.tokens.head?

/-- Whether the next token is one of the given ones. -/
def sees (s : Source) (ts : List Token) : Bool := s.tokens.head?.any ts.contains

/-! ## Properties -/

/-- The anchor and the tag in front of a node. -/
structure Properties where
  anchor : Option String := none
  tag : Option TagName := none

/-- Read the anchor and the tag in front of a node, in either order. -/
def takeProperties (s : Source) : Properties × Source :=
  match s.tokens with
  | .anchor a :: .tag t :: r => (⟨some a, some t⟩, { s with tokens := r })
  | .anchor a :: r => (⟨some a, none⟩, { s with tokens := r })
  | .tag t :: .anchor a :: r => (⟨some a, some t⟩, { s with tokens := r })
  | .tag t :: r => (⟨none, some t⟩, { s with tokens := r })
  | _ => ({}, s)

/-- A tag in full; its handle has to have a meaning. -/
def expandTag? (s : Source) (t : TagName) : Option String :=
  if t.handle.isEmpty then some t.suffix
  else (s.handles.lookup t.handle).map (· ++ t.suffix)

/-- Number the anchor in front of a node: its number is how many names there were before.  A name
    that is given again has a new number, which may be that of another name. -/
def addAnchor (s : Source) : Option String → Option Nat × Source
  | none => (none, s)
  | some a =>
    let number := s.names.length
    (some number, { s with names := (a, number) :: s.names.filter fun n => n.1 != a })

/-- A scalar with its tag; the tag `!` only says that there is no other. -/
def scalarOf (text : String) (style : ScalarStyle) (tag : Option String) : Scalar :=
  { text, style, tag := tag.filter (· != "!") }

/-! ## Content -/

/-- The tokens ahead of which a key or a value is empty in an indented map. -/
def mapBounds : List Token := [.key, .value, .closeIndented]

mutual

/-- Read a node; `block` says whether it may be indented, and `indentless` whether it may be a list
    whose dashes are not indented. -/
def takeNode (fuel : Nat) (block indentless : Bool) (s : Source) : Taken Node :=
  match fuel with
  | 0 => (.cut, none)
  | fuel + 1 =>
    match s.tokens with
    | .alias a :: _ =>
      match s.names.lookup a with
      | some number => (.repeated number, some s.skip)
      | none => (.cut, none)
    | _ =>
      let (p, s) := s.takeProperties
      let tag := p.tag.map s.expandTag?
      if tag == some none then (.cut, none)
      else takeContent fuel block indentless p.anchor (tag.bind id) s

/-- Read what stands behind the anchor and the tag of a node. -/
def takeContent (fuel : Nat) (block indentless : Bool) (name tag : Option String) (s : Source) :
    Taken Node :=
  match fuel with
  | 0 => (.cut, none)
  | fuel + 1 =>
    let (anchor, t) := s.addAnchor name
    match s.next? with
    | none => (.cut, none)
    | some (.scalar text style) => (.scalar (scalarOf text style tag) anchor, some t.skip)
    | some .openList =>
      let (items, t) := takeItems fuel true t.skip
      (.list items tag anchor t.isSome, t)
    | some .openMap =>
      let (entries, t) := takeEntries fuel true t.skip
      (.map entries tag anchor t.isSome, t)
    | some next =>
      if indentless && next = .dash then
        let (items, t) := takeDashes fuel true t
        (.list items tag anchor t.isSome, t)
      else if block && next = .openIndentedList then
        let (items, t) := takeDashes fuel false t.skip
        (.list items tag anchor t.isSome, t)
      else if block && next = .openIndentedMap then
        let (entries, t) := takeLines fuel t.skip
        (.map entries tag anchor t.isSome, t)
      else if name.isSome || tag.isSome then (.scalar { text := "", tag } anchor, some t)
      else (.cut, none)

/-- Read a node that is empty ahead of the given tokens. -/
def takeUnless (fuel : Nat) (bounds : List Token) (block indentless : Bool) (s : Source) :
    Taken Node :=
  match fuel with
  | 0 => (.cut, none)
  | fuel + 1 => if s.sees bounds then (.empty, some s) else takeNode fuel block indentless s

/-- Read the items of a list with dashes.  An indented one ends where the indentation does, another
    one where there is no dash. -/
def takeDashes (fuel : Nat) (indentless : Bool) (s : Source) : Taken (List Node) :=
  match fuel with
  | 0 => ([], none)
  | fuel + 1 =>
    match s.next? with
    | some .dash =>
      let bounds := if indentless then .dash :: mapBounds else [.dash, .closeIndented]
      match takeUnless fuel bounds true false s.skip with
      | (item, none) => ([item], none)
      | (item, some s) =>
        let (items, s) := takeDashes fuel indentless s
        (item :: items, s)
    | none => ([], none)
    | some next =>
      if indentless then ([], some s)
      else if next = .closeIndented then ([], some s.skip)
      else ([], none)

/-- Read the entries of an indented map. -/
def takeLines (fuel : Nat) (s : Source) : Taken (List (Node × Node)) :=
  match fuel with
  | 0 => ([], none)
  | fuel + 1 =>
    match s.next? with
    | some .key =>
      match takeUnless fuel mapBounds true true s.skip with
      | (key, none) => ([(key, .cut)], none)
      | (key, some s) =>
        match takeValue fuel mapBounds true s with
        | (value, none) => ([(key, value)], none)
        | (value, some s) =>
          let (entries, s) := takeLines fuel s
          ((key, value) :: entries, s)
    | some .closeIndented => ([], some s.skip)
    | _ => ([], none)

/-- Read the value behind a key, if there is one. -/
def takeValue (fuel : Nat) (bounds : List Token) (block : Bool) (s : Source) : Taken Node :=
  match fuel with
  | 0 => (.cut, none)
  | fuel + 1 =>
    match s.next? with
    | some .value => takeUnless fuel bounds block block s.skip
    | some _ => (.empty, some s)
    | none => (.cut, none)

/-- Read on in the items of a list between brackets. -/
def takeItems (fuel : Nat) (first : Bool) (s : Source) : Taken (List Node) :=
  match fuel with
  | 0 => ([], none)
  | fuel + 1 =>
    if s.sees [.closeList] then ([], some s.skip)
    else if !first && !s.sees [.comma] then ([], none)
    else
      let s := if first then s else s.skip
      if s.sees [.closeList] then ([], some s.skip)
      else
        let (item, s) := if s.sees [.key] then takePair fuel s.skip else takeNode fuel false false s
        match s with
        | none => ([item], none)
        | some s =>
          let (items, s) := takeItems fuel false s
          (item :: items, s)

/-- Read a map of one entry that is an item of a list between brackets, behind the token that starts
    the key.  The token behind an empty key is passed over. -/
def takePair (fuel : Nat) (s : Source) : Taken Node :=
  match fuel with
  | 0 => (.cut, none)
  | fuel + 1 =>
    let emptyKey := s.sees [.value, .comma, .closeList]
    match if emptyKey then (Node.empty, some s.skip) else takeNode fuel false false s with
    | (key, none) => (.map [(key, .cut)] none none false, none)
    | (key, some s) =>
      match takeValue fuel [.comma, .closeList] false s with
      | (value, none) => (.map [(key, value)] none none false, none)
      | (value, some s) =>
        if s.tokens.isEmpty then (.map [(key, value)] none none false, none)
        else (.map [(key, value)] none none true, some s)

/-- Read on in the entries of a map between brackets. -/
def takeEntries (fuel : Nat) (first : Bool) (s : Source) : Taken (List (Node × Node)) :=
  match fuel with
  | 0 => ([], none)
  | fuel + 1 =>
    if s.sees [.closeMap] then ([], some s.skip)
    else if !first && !s.sees [.comma] then ([], none)
    else
      let s := if first then s else s.skip
      if s.sees [.closeMap] then ([], some s.skip)
      else
        let bounds := [.comma, .closeMap]
        let (entry, s) :=
          if s.sees [.key] then
            match takeUnless fuel (.value :: bounds) false false s.skip with
            | (key, none) => ((key, Node.cut), none)
            | (key, some s) =>
              let (value, s) := takeValue fuel bounds false s
              ((key, value), s)
          else
            match takeNode fuel false false s with
            | (key, none) => ((key, Node.cut), none)
            | (key, some s) =>
              if s.tokens.isEmpty then ((key, Node.cut), none) else ((key, Node.empty), some s)
        match s with
        | none => ([entry], none)
        | some s =>
          let (entries, s) := takeEntries fuel false s
          (entry :: entries, s)

end

end Source

/-! ## Documents -/

/-- The tree of a text. -/
structure Tree where
  root : Node
  /-- Whether nothing else stands behind the document. -/
  alone : Bool
deriving Repr, Inhabited

namespace Tree

/-- The handles that always have a meaning. -/
def builtinHandles : List (String × String) := [("!", "!"), ("!!", builtinTag "")]

/-- Read the directives ahead of a document: one version at most, which has to be a known one, and
    one meaning for a handle. -/
def takeDirectives : List Token → Bool → List (String × String) →
    Option (List (String × String) × List Token)
  | .directive (.version major minor) :: r, versioned, handles =>
    if versioned || major ≠ 1 || !(minor = 1 || minor = 2) then none
    else takeDirectives r true handles
  | .directive (.handle handle meaning) :: r, versioned, handles =>
    if (handles.lookup handle).isSome then none
    else takeDirectives r versioned ((handle, meaning) :: handles)
  | ts, _, handles => some (handles ++ builtinHandles, ts)

/-- The tokens ahead of which a document is empty. -/
def isBound : Token → Bool
  | .directive _ => true
  | .documentStart => true
  | .documentEnd => true
  | .finish => true
  | _ => false

/-- Whether nothing but the end of the text follows. -/
def isEnd (ts : List Token) : Bool := ts.dropWhile (· = .documentEnd) = [.finish]

/-- The document that starts here. -/
def ofSource (s : Source) : Tree :=
  match s.takeNode (4 * s.tokens.length + 4) true false with
  | (root, some s) => { root, alone := isEnd s.tokens }
  | (root, none) => { root, alone := false }

/-- The document of a text.  No text at all is an empty document. -/
def ofTokens (ts : List Token) : Tree :=
  match ts with
  | [.finish] => { root := .empty, alone := true }
  | .documentStart :: _ => explicit ts
  | .directive _ :: _ => explicit ts
  | ts => ofSource { tokens := ts, handles := builtinHandles }
where
  /-- The document behind its directives and its mark. -/
  explicit (ts : List Token) : Tree :=
    match takeDirectives ts false [] with
    | some (handles, .documentStart :: r) =>
      match r with
      | t :: _ =>
        if isBound t then { root := .empty, alone := isEnd r }
        else ofSource { tokens := r, handles }
      | [] => { root := .cut, alone := false }
    | _ => { root := .cut, alone := false }

end Tree

end Healing.Yaml
