/-
  Templates that are filled in.

  A template of literal texts and references becomes the same texts with the values of the
  references in their places.  The values are put in as they are: nothing in them is read again.

  1. **Pieces** - `Piece`, a literal with the reference behind it; `source` writes pieces down.
  2. **Reading** - `ofText?_source`: the template that the source spells out.
  3. **Values** - `fill?` puts values in the places of references.
  4. **Rendering** - `renderText_source`: rendering the source is filling it in.
-/
import Healing.Proofs.Template.Literal
import Healing.Proofs.Template.Reference
import Healing.Template.Rendering

namespace Healing.Template

open Delimiters (escapeBraces)

/-! ## Pieces -/

/-- A literal text and the reference behind it. -/
structure Piece where
  literal : List Char
  reference : Reference

/-- A template of literals and references, the literals escaped. -/
def source : List Piece → List Char → List Char
  | [], last => escapeBraces last
  | p :: ps, last =>
    escapeBraces p.literal
      ++ '{' :: '{' :: (p.reference.inside ++ '}' :: '}' :: source ps last)

/-- Whether the literals can be escaped: none has a backslash before double braces already, and none
    before a reference ends in what belongs to its tag then. -/
structure Escapable (ps : List Piece) (last : List Char) : Prop where
  unescaped : ∀ p ∈ ps, Unescaped p.literal
  apart : ∀ p ∈ ps, p.literal.getLast? ≠ some '{' ∧ p.literal.getLast? ≠ some '\\'
  last_unescaped : Unescaped last

theorem Escapable.tail {p : Piece} {ps : List Piece} {last : List Char}
    (h : Escapable (p :: ps) last) : Escapable ps last where
  unescaped := fun q hq => h.unescaped q (List.mem_cons_of_mem _ hq)
  apart := fun q hq => h.apart q (List.mem_cons_of_mem _ hq)
  last_unescaped := h.last_unescaped

/-! ## Reading -/

/-- The elements of a literal; an empty one has none. -/
def literalElements (l : List Char) : Template :=
  if l.isEmpty then [] else [.text (String.ofList l)]

/-- The elements of literals and references. -/
def elements : List Piece → List Char → Template
  | [], last => literalElements last
  | p :: ps, last => literalElements p.literal ++ .output p.reference.expr :: elements ps last

section Reading

variable (current : List Element) (opened : List Opened)

/-- A literal is put behind what is there. -/
theorem foldlM_take_literal (l : List Char) :
    (if l.isEmpty then [] else [Token.text l]).foldlM Building.take ⟨current, opened, false, false⟩
      = some ⟨(literalElements l).reverse ++ current, opened, false, false⟩ := by
  cases l with
  | nil => rfl
  | cons c r => rfl

/-- The tokens of a text without tags. -/
theorem cut_literal {fuel : Nat} {seen seen' cs text : List Char}
    (hread : readText ['{', '{'] (cs.length + 1) cs [] seen = (text, seen', [])) :
    cut (fuel + 1) seen cs = some (if text.isEmpty then [] else [Token.text text]) := by
  cases cs with
  | nil =>
    obtain rfl : [] = text := congrArg Prod.fst hread
    rfl
  | cons c r =>
    unfold cut
    rw [hread]
    rfl

/-- The tokens of a text and a tag that shows a value are followed by those behind the tag. -/
theorem cut_output {fuel : Nat} {seen seen' cs text rest r : List Char} {e : Expression}
    (hread : readText ['{', '{'] (cs.length + 1) cs [] seen = (text, seen', rest))
    (hrest : rest ≠ []) (htag : readTag rest = .ok ({ tag := .output e }, r)) :
    cut (fuel + 1) seen cs = (cut fuel (seenUpTo rest r seen') r).map fun more =>
      (if text.isEmpty then [] else [Token.text text])
        ++ Token.tag { tag := .output e } (surroundings seen' r) :: more := by
  have hmore : rest.isEmpty = false := by simpa using hrest
  cases cs with
  | nil => exact absurd (congrArg (·.2.2) hread).symm hrest
  | cons c cs =>
    rw [cut, hread]
    dsimp only
    rw [hmore, htag]
    · rfl
    · exact List.cons_ne_nil c cs

/-- **The tokens of a source** spell out its elements, whatever is there before them. -/
theorem cut_source (last : List Char) :
    ∀ (ps : List Piece), Escapable ps last → ∀ (fuel : Nat) (seen : List Char),
      (source ps last).length < fuel →
      ∃ tokens, cut fuel seen (source ps last) = some tokens ∧ ∀ current opened,
        tokens.foldlM Building.take ⟨current, opened, false, false⟩
          = some ⟨(elements ps last).reverse ++ current, opened, false, false⟩
  | _, _, 0, _, h => absurd h (Nat.not_lt_zero _)
  | [], h, fuel + 1, seen, _ => by
    have hmeets : Meets last [] := fun h => absurd rfl h
    have hread := readText_escapeBraces h.last_unescaped hmeets ((escapeBraces last).length + 1) []
      seen (by simp)
    rw [List.append_nil] at hread
    exact ⟨_, cut_literal hread, fun current opened => foldlM_take_literal current opened last⟩
  | p :: ps, h, fuel + 1, seen, hfuel => by
    have hmeets : Meets p.literal
        ('{' :: '{' :: (p.reference.inside ++ '}' :: '}' :: source ps last)) :=
      fun _ => ⟨⟨_, rfl⟩, h.apart p (List.mem_cons_self ..)⟩
    have hread := readText_escapeBraces (h.unescaped p (List.mem_cons_self ..)) hmeets
      ((source (p :: ps) last).length + 1) [] seen (Nat.lt_succ_self _)
    have hcut : cut (fuel + 1) seen (source (p :: ps) last) = _ :=
      cut_output hread (List.cons_ne_nil _ _) (p.reference.readTag_inside (source ps last))
    have hlength : (source ps last).length < fuel := by
      unfold source at hfuel
      simp only [List.length_append, List.length_cons] at hfuel
      omega
    -- what has been seen only tells whether a tag stands alone on its line
    obtain ⟨tokens, htokens, hbuild⟩ := cut_source last ps h.tail fuel _ hlength
    rw [htokens] at hcut
    refine ⟨_, hcut, fun current opened => ?_⟩
    rw [List.reverse_nil, List.nil_append, List.foldlM_append, foldlM_take_literal]
    show tokens.foldlM Building.take ⟨.output p.reference.expr ::
      ((literalElements p.literal).reverse ++ current), opened, false, false⟩ = _
    rw [hbuild]
    simp [elements]

end Reading

/-- **The template of a source.** -/
theorem ofText?_source {ps : List Piece} {last : List Char} (h : Escapable ps last) :
    ofText? (String.ofList (source ps last)) = some (elements ps last) := by
  obtain ⟨tokens, htokens, hbuild⟩ := cut_source last ps h _ [] (Nat.lt_succ_self _)
  have hcut : Token.ofText? (String.ofList (source ps last)).toList = some tokens := by
    rw [String.toList_ofList]
    exact htokens
  have hfold : tokens.foldlM Building.take ({} : Building)
      = some ⟨(elements ps last).reverse ++ [], [], false, false⟩ := hbuild [] []
  unfold ofText? ofTokens?
  rw [hcut, Option.bind_some, hfold, Option.bind_some, List.append_nil]
  exact congrArg some (List.reverse_reverse _)

/-! ## Values -/

/-- Put values in the places of references; none if one of them has no value. -/
def fill? (value : Reference → Option String) : List Piece → List Char → Option String
  | [], last => some (String.ofList last)
  | p :: ps, last =>
    (value p.reference).bind fun v =>
      (fill? value ps last).map fun r => String.ofList p.literal ++ v ++ r

/-- The text that a reference leads to in some data. -/
def textAt? (data : Json) (ref : Reference) : Option String :=
  match follow data ref.names with
  | .ok (some (.str v)) => some v
  | _ => none

/-- The outcome of rendering what has a value or lacks one. -/
def outcomeOf {α : Type} : Option α → Except RenderError α
  | some a => .ok a
  | none => .error .missingValue

/-! ## Rendering -/

section Rendering

variable {data : Json}

/-- Without any indentation the page grows by the text. -/
theorem Page.write_none (p : Page) (text : String) : (p.write none text).text = p.text ++ text := by
  unfold Page.write
  split
  · rename_i h
    have hempty : text = "" := String.isEmpty_iff.mp h
    rw [hempty, String.append_empty]
  · rfl

/-- The names of a path of names. -/
theorem namesOf_map_name (names : List String) : namesOf (names.map .name) = names := by
  induction names with
  | nil => rfl
  | cons n r ih =>
    rw [List.map_cons, namesOf, ih]

/-- A reference leads from the data along its names. -/
theorem resolve_path (ref : Reference) :
    ({ data } : Scope).resolve ref.path = ({ data } : Scope).locate ref.names := by
  have hvariable : variableOf? ref.path.steps = none := rfl
  have hnames : namesOf ref.path.steps = ref.names := namesOf_map_name _
  unfold Scope.resolve
  rw [hvariable]
  dsimp only
  rw [hnames]
  rfl

/-- No helper has a point in its name. -/
theorem named?_of_point {name : String} (h : '.' ∈ name.toList) : Helper.named? name = none := by
  unfold Helper.named?
  split
  all_goals first | rfl | (revert h; decide)

/-- The way a reference is written names no helper. -/
theorem named?_written (ref : Reference) : Helper.named? (String.ofList ref.written) = none := by
  cases hothers : ref.others with
  | nil =>
    have hwritten : ref.written = ref.first.chars := by
      unfold Reference.written Reference.tail
      rw [hothers]
      exact List.append_nil _
    rw [hwritten]
    exact (ref.alone hothers).1
  | cons w ws =>
    refine named?_of_point ?_
    unfold Reference.written Reference.tail
    rw [hothers, String.toList_ofList]
    simp

/-- A reference shows the text that it leads to. -/
theorem renderOutput_expr (inner : Renderer) (p : Progress) {ref : Reference}
    {value : Option String} (h : follow data ref.names = .ok (value.map .str)) :
    renderOutput inner { data } ref.expr p = outcomeOf (value.map (p.write { data })) := by
  have hname : nameOf { data } ref.expr.name = .ok (String.ofList ref.written) := by
    unfold Reference.expr nameOf
    rfl
  have hvalue : evaluate { data } ref.expr.name = ({ data } : Scope).locate ref.names := by
    unfold Reference.expr evaluate
    exact resolve_path ref
  have hempty : (ref.expr.args.isEmpty && ref.expr.named.isEmpty) = true := rfl
  unfold renderOutput
  rw [hempty, hname, hvalue]
  unfold Scope.locate
  rw [h]
  dsimp only [bind, Except.bind]
  rw [named?_written]
  cases value with
  | none => rfl
  | some v =>
    show Except.ok (p.write { data } (shown (.str v))) = _
    unfold shown
    rfl

/-- A literal is written as it is. -/
theorem foldlM_render_literal (data : Json) (inner : Renderer) (l : List Char) (p : Progress) :
    ∃ q : Progress,
      (literalElements l).foldlM (fun p e => Element.render inner { data } p e) p = .ok q ∧
        q.page.text = p.page.text ++ String.ofList l := by
  cases l with
  | nil => exact ⟨p, rfl, String.append_empty.symm⟩
  | cons c r => exact ⟨_, rfl, Page.write_none p.page _⟩

/-- Rendering the elements of literals and references. -/
theorem foldlM_render_elements (inner : Renderer) (value : Reference → Option String)
    (last : List Char) :
    ∀ (ps : List Piece), (∀ p ∈ ps,
        follow data p.reference.names = .ok ((value p.reference).map .str)) →
      ∀ p : Progress,
        ((elements ps last).foldlM (fun p e => Element.render inner { data } p e) p).map
            (fun q => q.page.text)
          = outcomeOf ((fill? value ps last).map (p.page.text ++ ·))
  | [], _, p => by
    obtain ⟨q, hq, htext⟩ := foldlM_render_literal data inner last p
    unfold elements
    rw [hq]
    exact congrArg Except.ok htext
  | piece :: ps, hvalue, p => by
    obtain ⟨q, hq, htext⟩ := foldlM_render_literal data inner piece.literal p
    have houtput := renderOutput_expr inner q (hvalue piece (List.mem_cons_self ..))
    unfold elements fill?
    rw [List.foldlM_append, hq]
    dsimp only [bind, Except.bind]
    rw [List.foldlM_cons]
    show Except.map _ (Except.bind (renderOutput inner { data } piece.reference.expr q) _) = _
    rw [houtput]
    cases hv : value piece.reference with
    | none => rfl
    | some v =>
      have hrest := foldlM_render_elements inner value last ps
        (fun p hp => hvalue p (List.mem_cons_of_mem _ hp)) (q.write { data } v)
      have hwritten : (q.write { data } v).page.text = q.page.text ++ v := Page.write_none _ _
      show Except.map _ (List.foldlM _ (q.write { data } v) (elements ps last)) = _
      rw [hrest, hwritten, htext]
      cases fill? value ps last with
      | none => rfl
      | some r =>
        simp [outcomeOf, String.append_assoc]

/-- **Rendering a source is filling it in**, if every reference leads to a text or to nothing. -/
theorem renderText_source {ps : List Piece} {last : List Char} (h : Escapable ps last)
    (value : Reference → Option String)
    (hvalue : ∀ p ∈ ps, follow data p.reference.names = .ok ((value p.reference).map .str)) :
    renderText data (String.ofList (source ps last)) = outcomeOf (fill? value ps last) := by
  obtain ⟨depth, hdepth⟩ : ∃ depth,
      depthFor (String.ofList (source ps last)).length data = depth + 1 := by
    refine Nat.exists_eq_succ_of_ne_zero (Nat.ne_of_gt ?_)
    exact Nat.mul_pos (Nat.succ_pos _) (Nat.succ_pos _)
  unfold renderText
  rw [ofText?_source h, hdepth]
  unfold render
  dsimp only
  rw [foldlM_render_elements (render depth) value last ps hvalue {}]
  cases fill? value ps last with
  | none => rfl
  | some text =>
    exact congrArg Except.ok String.empty_append

end Rendering

end Healing.Template
