/-
  Structured documents as they are read.

  A document is the tree that a JSON or YAML text spells out, before it is given a type.  A text
  that is cut short or malformed still has a tree: it stops at the fault, which is kept as a
  `broken` node.  Decoding walks the tree in the order of the text, so the first fault of either
  kind, in the text or in the type of a value, is the one reported.

  1. **Faults** - `ReadError`: the text is malformed, ends early, or holds a value of a wrong type.
  2. **Documents** - `Document`; `ofJson` gives a document for a value.
  3. **Scalars** - `text`, `flag`, `whole`, and `optional` for what may be null.
  4. **Containers** - `listOf`, `mapOf`, `value` for a value of any type.
  5. **Records** - `record` walks the known fields of a map, or of a list that gives them in order.
-/
import Healing.Json.Basic
import Healing.Yaml.Scalar

namespace Healing

/-! ## Faults -/

/-- Why a text could not be read as a value of the wanted type. -/
inductive ReadError where
  /-- The text is malformed. -/
  | malformed
  /-- The text ends too early. -/
  | endOfText
  /-- A value has the wrong type; a rule without exactly one action says so. -/
  | wrongData (detail : Option String)
deriving DecidableEq, Repr, Inhabited

/-- A value of a type that is not wanted here. -/
def ReadError.mismatch : ReadError := .wrongData none

/-! ## Documents -/

/-- A document, not yet given a type. -/
inductive Document where
  | null
  | bool (value : Bool)
  /-- A number; `none` when it is beyond the range of floating-point numbers. -/
  | number (value : Option Json)
  /-- A string; `none` when it holds an escape that denotes no character. -/
  | string (value : Option String)
  /-- A scalar whose type depends on what is wanted. -/
  | scalar (value : Yaml.Scalar)
  /-- A list, with the fault that cut it short. -/
  | list (items : List Document) (fault : Option ReadError)
  /-- A list that cannot give the fields of a record, with the fault that cut it short. -/
  | series (items : List Document) (fault : Option ReadError)
  /-- A map in the order of the text, with the fault that cut it short. -/
  | map (entries : List (Document × Document)) (fault : Option ReadError)
  /-- A container nested too deep to be read as a value. -/
  | deep (value : Document)
  /-- A container with a tag that is not built in. -/
  | tagged (value : Document)
  /-- A value that is repeated within itself or too often. -/
  | endless
  /-- The place where the text could not be read on. -/
  | broken (fault : ReadError)
deriving Repr, Inhabited

namespace Document

mutual

/-- The document that spells out a value. -/
def ofJson : Json → Document
  | .null => .null
  | .bool b => .bool b
  | .int n => .number (some (.int n))
  | .float x => .number (some (.float x))
  | .str s => .string (some s)
  | .arr items => .list (ofItems items) none
  | .obj fields => .map (ofFields fields) none

/-- `ofJson` on each item. -/
def ofItems : List Json → List Document
  | [] => []
  | j :: r => ofJson j :: ofItems r

/-- `ofJson` on each field. -/
def ofFields : List (String × Json) → List (Document × Document)
  | [] => []
  | (k, j) :: r => (.string (some k), ofJson j) :: ofFields r

end

/-- The fault of meeting this document where a value of another type is wanted: a scalar has to be
    readable before its type is looked at. -/
def unexpected : Document → ReadError
  | .broken e => e
  | .number none => .malformed
  | .string none => .malformed
  | .endless => .malformed
  | _ => .mismatch

/-- Succeed unless there is a fault. -/
def checkFault : Option ReadError → Except ReadError Unit
  | some e => .error e
  | none => .ok ()

mutual

/-- Walk over a document whose value does not matter; only its text has to be well formed. -/
def ignore : Document → Except ReadError Unit
  | .broken e => .error e
  | .list items fault => do
    ignoreItems items
    checkFault fault
  | .series items fault => do
    ignoreItems items
    checkFault fault
  | .map entries fault => do
    ignoreEntries entries
    checkFault fault
  | .deep d => ignore d
  | .tagged d => ignore d
  | _ => .ok ()

/-- `ignore` on each item. -/
def ignoreItems : List Document → Except ReadError Unit
  | [] => .ok ()
  | d :: r => do
    ignore d
    ignoreItems r

/-- `ignore` on each entry. -/
def ignoreEntries : List (Document × Document) → Except ReadError Unit
  | [] => .ok ()
  | (k, d) :: r => do
    ignore k
    ignore d
    ignoreEntries r

end

/-! ## Scalars -/

/-- A text. -/
def text : Document → Except ReadError String
  | .string (some s) => .ok s
  | .scalar s => .ok s.text
  | d => .error d.unexpected

/-- A flag. -/
def flag : Document → Except ReadError Bool
  | .bool b => .ok b
  | .scalar s =>
    match if s.mayBe "bool" then Yaml.flag? s.text else none with
    | some b => .ok b
    | none => .error .mismatch
  | d => .error d.unexpected

/-- A whole number between the bounds. -/
def whole (low high : Int) : Document → Except ReadError Int
  | .number (some (.int n)) => if low ≤ n ∧ n ≤ high then .ok n else .error .mismatch
  | .scalar s =>
    match if s.mayBe "int" then Yaml.signed? low high s.text else none with
    | some n => .ok n
    | none => .error .mismatch
  | d => .error d.unexpected

/-- Nothing for null, else what `read` makes of the document. -/
def optional {α : Type} (read : Document → Except ReadError α) (d : Document) :
    Except ReadError (Option α) :=
  match d with
  | .null => .ok none
  | .scalar s =>
    match s.absent? with
    | none => .error .mismatch
    | some true => .ok none
    | some false => some <$> read d
  | d => some <$> read d

/-- A name out of a fixed set, alone or as the only key of a map to null. -/
def variant : Document → Except ReadError String
  | .string (some s) => .ok s
  | .string none => .error .malformed
  | .broken e => .error e
  | .map [] none => .error .malformed
  | .map [] (some e) => .error e
  | .map ((k, v) :: rest) fault => do
    let name ← k.text
    match v with
    | .null =>
      checkFault (if rest.isEmpty then fault else some .malformed)
      .ok name
    | v => .error v.unexpected
  | _ => .error .malformed

/-! ## Containers -/

/-- Read each of some items, and then the fault behind them. -/
def readItems {α : Type} (read : Document → Except ReadError α) (items : List Document)
    (fault : Option ReadError) : Except ReadError (List α) := do
  let values ← items.mapM read
  checkFault fault
  .ok values

/-- The items of a list. -/
def listOf {α : Type} (read : Document → Except ReadError α) :
    Document → Except ReadError (List α)
  | .list items fault => readItems read items fault
  | .series items fault => readItems read items fault
  | .tagged (.series items fault) => readItems read items fault
  | .scalar s => if s.isVoid then .ok [] else .error .mismatch
  | .deep _ => .error .malformed
  | d => .error d.unexpected

/-- The entries of a map of texts to `α`; of two entries with one key the later counts. -/
def readEntries {α : Type} (read : Document → Except ReadError α) :
    List (Document × Document) → KeyMap String α → Except ReadError (KeyMap String α)
  | [], m => .ok m
  | (k, d) :: r, m => do
    let key ← k.text
    let value ← read d
    readEntries read r (m.insert key value)

/-- A map with texts as keys. -/
def mapOf {α : Type} (read : Document → Except ReadError α) :
    Document → Except ReadError (KeyMap String α)
  | .map entries fault => do
    let m ← readEntries read entries ∅
    checkFault fault
    .ok m
  | .tagged (.map entries fault) => do
    let m ← readEntries read entries ∅
    checkFault fault
    .ok m
  | .scalar s => if s.isVoid then .ok ∅ else .error .mismatch
  | .deep _ => .error .malformed
  | d => .error d.unexpected

/-- The entries of a map, and the fault that cut it short. -/
def entries : Document → Except ReadError (List (Document × Document) × Option ReadError)
  | .map entries fault => .ok (entries, fault)
  | .tagged (.map entries fault) => .ok (entries, fault)
  | .scalar s => if s.isVoid then .ok ([], none) else .error .mismatch
  | .deep _ => .error .malformed
  | d => .error d.unexpected

mutual

/-- A value of any type. -/
def value : Document → Except ReadError Json
  | .null => .ok .null
  | .bool b => .ok (.bool b)
  | .number (some j) => .ok j
  | .number none => .error .malformed
  | .string (some s) => .ok (.str s)
  | .string none => .error .malformed
  | .scalar s =>
    match s.resolve with
    | some j => .ok j
    | none => .error .mismatch
  | .list items fault => do
    let js ← valueItems items
    checkFault fault
    .ok (.arr js)
  | .series items fault => do
    let js ← valueItems items
    checkFault fault
    .ok (.arr js)
  | .map entries fault => do
    let fields ← valueEntries entries []
    checkFault fault
    .ok (.obj fields)
  | .deep _ => .error .malformed
  | .tagged _ => .error .mismatch
  | .endless => .error .malformed
  | .broken e => .error e

/-- `value` on each item. -/
def valueItems : List Document → Except ReadError (List Json)
  | [] => .ok []
  | d :: r => do
    let j ← value d
    let js ← valueItems r
    .ok (j :: js)

/-- `value` on each entry, sorted by key; of two entries with one key the later counts. -/
def valueEntries :
    List (Document × Document) → List (String × Json) → Except ReadError (List (String × Json))
  | [], fields => .ok fields
  | (k, d) :: r, fields => do
    let key ← k.text
    let j ← value d
    valueEntries r (insertEntry key j fields)

end

/-! ## Records -/

/-- How a record was given: as a map, or as a list of so many items. -/
inductive Given where
  | byName
  | byPlace (count : Nat)
deriving DecidableEq, Repr

/-- Walk the entries of a map: a known field is read once, by `step`; an unknown one is ignored. -/
def recordEntries {σ : Type} (names : List String)
    (step : σ → String → Document → Except ReadError σ) :
    List (Document × Document) → List String → σ → Except ReadError σ
  | [], _, s => .ok s
  | (k, d) :: r, seen, s => do
    let name ← k.text
    if names.contains name then
      if seen.contains name then .error .mismatch
      else
        let s ← step s name d
        recordEntries names step r (name :: seen) s
    else
      d.ignore
      recordEntries names step r seen s

/-- Walk the items of a list that gives the fields in order, and has none too many. -/
def recordItems {σ : Type} (step : σ → String → Document → Except ReadError σ) :
    List String → List Document → σ → Except ReadError σ
  | _, [], s => .ok s
  | [], .broken e :: _, _ => .error e
  | [], _ :: _, _ => .error .malformed
  | name :: names, d :: r, s => do
    let s ← step s name d
    recordItems step names r s

/-- Read the fields of a record one after the other, and say how it was given. -/
def record {σ : Type} (names : List String) (start : σ)
    (step : σ → String → Document → Except ReadError σ) :
    Document → Except ReadError (σ × Given)
  | .map entries fault => do
    let s ← recordEntries names step entries [] start
    checkFault fault
    .ok (s, .byName)
  | .tagged (.map entries fault) => do
    let s ← recordEntries names step entries [] start
    checkFault fault
    .ok (s, .byName)
  | .list items fault => do
    let s ← recordItems step names items start
    checkFault fault
    .ok (s, .byPlace items.length)
  | .scalar s => if s.isVoid then .ok (start, .byName) else .error .mismatch
  | .deep _ => .error .malformed
  | d => .error d.unexpected

/-- The value of a field that has to be there. -/
def required {α : Type} : Option α → Except ReadError α
  | some a => .ok a
  | none => .error .mismatch

/-- A record given as a list has to reach the last field that a list must not leave out. -/
def Given.covers (given : Given) (count : Nat) : Except ReadError Unit :=
  match given with
  | .byName => .ok ()
  | .byPlace n => if n < count then .error .mismatch else .ok ()

end Document

end Healing
