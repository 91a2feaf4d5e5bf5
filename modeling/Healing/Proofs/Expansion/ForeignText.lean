/-
  Foreign text around expressions.

  With marks of its own a rule can carry texts of another template language.  What stands outside
  the marks is text, and comes out of the expansion as it was, as long as no backslash stands before
  double braces and nothing that belongs to a tag stands right before an expression.  Where one
  does, the escape changes what the engine reads: an expression turns into text, or a text into an
  expression.

  1. **Marks** - `EndsFirst`: a mark behind a text occurs there and not before.
  2. **Texts** - `foreignText`, literals with references in marks between them; `filled`, the same
     literals with values.
  3. **Rewriting** - `rewrite?_foreignText`.
  4. **Rendering** - `Binding.render_foreignText`.
  5. **Neighbours** - the texts that do not survive.
-/
import Healing.Expansion
import Healing.Proofs.Expansion.AlertData
import Healing.Proofs.Template.Filling

namespace Healing

open Template
open Delimiters (escapeBraces)

/-! ## Marks -/

/-- Whether a mark behind a text occurs there and not before. -/
def EndsFirst (mark l : List Char) : Prop := ∀ a b, l ++ mark = a ++ mark ++ b → b = []

/-- **A text is cut where a mark occurs first.** -/
theorem Text.cutAt?_eq_some_iff {mark cs a b : List Char} :
    Text.cutAt? mark cs = some (a, b) ↔ cs = a ++ (mark ++ b) ∧ EndsFirst mark a := by
  constructor
  · intro hcut
    have hparts := Text.eq_of_cutAt? hcut
    refine ⟨by rw [hparts, List.append_assoc], fun a' b' hearlier => ?_⟩
    -- an earlier occurrence would be the place of the cut, with more behind it
    cases hcut' : Text.cutAt? mark (a' ++ mark) with
    | none => exact absurd (List.suffix_append a' mark).isInfix (Text.cutAt?_eq_none_iff.mp hcut')
    | some cut =>
      obtain ⟨a'', b''⟩ := cut
      have hmore := Text.cutAt?_append hcut' (b' ++ b)
      rw [← List.append_assoc, ← hearlier, ← hparts, hcut] at hmore
      have hbehind : b = b'' ++ (b' ++ b) := congrArg Prod.snd (Option.some.inj hmore)
      have hlength := congrArg List.length hbehind
      simp only [List.length_append] at hlength
      exact List.length_eq_zero_iff.mp (by omega)
  · rintro ⟨rfl, hfirst⟩
    cases hcut : Text.cutAt? mark (a ++ mark) with
    | none => exact absurd (List.suffix_append a mark).isInfix (Text.cutAt?_eq_none_iff.mp hcut)
    | some cut =>
      obtain ⟨a', b'⟩ := cut
      have hparts := Text.eq_of_cutAt? hcut
      obtain rfl := hfirst a' b' hparts
      rw [List.append_nil] at hparts
      obtain rfl := List.append_cancel_right hparts
      rw [← List.append_assoc]
      exact Text.cutAt?_append hcut b

/-- Whether a mark occurs first behind a text can be checked by cutting. -/
theorem endsFirst_iff {mark l : List Char} :
    EndsFirst mark l ↔ Text.cutAt? mark (l ++ mark) = some (l, []) := by
  rw [Text.cutAt?_eq_some_iff, List.append_nil]
  exact (and_iff_right rfl).symm

instance (mark l : List Char) : Decidable (EndsFirst mark l) := decidable_of_iff' _ endsFirst_iff

/-- Whatever is behind the mark, a text is cut at it. -/
theorem EndsFirst.cutAt?_append {mark l : List Char} (h : EndsFirst mark l) (more : List Char) :
    Text.cutAt? mark (l ++ (mark ++ more)) = some (l, more) :=
  Text.cutAt?_eq_some_iff.mpr ⟨rfl, h⟩

/-! ## Texts -/

/-- Literal texts with references in marks between them. -/
def foreignText (d : Delimiters) : List Piece → List Char → List Char
  | [], last => last
  | p :: ps, last =>
    p.literal ++
      (d.left.toList ++ (p.reference.inside ++ (d.right.toList ++ foreignText d ps last)))

/-- The literal texts with values in the places of the references. -/
def filled (value : Reference → String) : List Piece → List Char → String
  | [], last => String.ofList last
  | p :: ps, last => String.ofList p.literal ++ value p.reference ++ filled value ps last

/-- Filling in values that are all there. -/
theorem fill?_some (value : Reference → String) (ps : List Piece) (last : List Char) :
    fill? (fun r => some (value r)) ps last = some (filled value ps last) := by
  induction ps with
  | nil => rfl
  | cons p ps ih =>
    rw [fill?, ih]
    rfl

/-- Whether the marks of a text are where they are meant to be, and nowhere else. -/
structure Marked (d : Delimiters) (ps : List Piece) (last : List Char) : Prop where
  literals : ∀ p ∈ ps, EndsFirst d.left.toList p.literal
  insides : ∀ p ∈ ps, EndsFirst d.right.toList p.reference.inside
  last : ¬ d.left.toList <:+: last

namespace Marked

variable {d : Delimiters} {p : Piece} {ps : List Piece} {last : List Char}

theorem tail (h : Marked d (p :: ps) last) : Marked d ps last where
  literals := fun q hq => h.literals q (List.mem_cons_of_mem _ hq)
  insides := fun q hq => h.insides q (List.mem_cons_of_mem _ hq)
  last := h.last

/-- An empty mark would be everywhere. -/
theorem left_ne_nil (h : Marked d ps last) : d.left.toList ≠ [] := by
  intro hempty
  refine h.last ?_
  rw [hempty]
  exact List.nil_infix

/-- The first mark of a text is behind its first literal. -/
theorem cutAt?_left (h : Marked d (p :: ps) last) :
    Text.cutAt? d.left.toList (foreignText d (p :: ps) last)
      = some (p.literal, p.reference.inside ++ (d.right.toList ++ foreignText d ps last)) :=
  (h.literals p (List.mem_cons_self ..)).cutAt?_append _

/-- The first pair of marks has the first reference in it. -/
theorem nextPair? (h : Marked d (p :: ps) last) :
    d.nextPair? (foreignText d (p :: ps) last)
      = some (p.literal, p.reference.inside, foreignText d ps last) := by
  unfold Delimiters.nextPair?
  rw [h.cutAt?_left, Option.bind_some]
  dsimp only
  rw [(h.insides p (List.mem_cons_self ..)).cutAt?_append]
  rfl

/-- Where the marks are can be checked by cutting. -/
theorem iff_cutAt? : Marked d ps last ↔
    (∀ p ∈ ps, EndsFirst d.left.toList p.literal)
      ∧ (∀ p ∈ ps, EndsFirst d.right.toList p.reference.inside)
      ∧ Text.cutAt? d.left.toList last = none :=
  ⟨fun h => ⟨h.literals, h.insides, Text.cutAt?_eq_none_iff.mpr h.last⟩,
    fun h => ⟨h.1, h.2.1, Text.cutAt?_eq_none_iff.mp h.2.2⟩⟩

instance : Decidable (Marked d ps last) := decidable_of_iff' _ iff_cutAt?

end Marked

/-! ## Rewriting -/

section Rewriting

variable {d : Delimiters} {last : List Char}

/-- **Pairs of marks become tags**, and what is between the pairs is escaped. -/
theorem rewritePairs_foreignText : ∀ {ps : List Piece}, Marked d ps last →
    ∀ fuel, (foreignText d ps last).length < fuel →
      d.rewritePairs fuel (foreignText d ps last) = some (source ps last)
  | _, _, 0, hfuel => absurd hfuel (Nat.not_lt_zero _)
  | [], h, fuel + 1, _ => by
    have hnone : d.nextPair? (foreignText d [] last) = none := by
      unfold Delimiters.nextPair?
      rw [foreignText, Text.cutAt?_eq_none_iff.mpr h.last, Option.bind_none]
    rw [Delimiters.rewritePairs, hnone]
    rfl
  | p :: ps, h, fuel + 1, hfuel => by
    -- every pair takes at least its left mark from the text
    have hleft := List.length_pos_iff.mpr h.left_ne_nil
    have hshorter : (foreignText d ps last).length < fuel := by
      rw [foreignText] at hfuel
      simp only [List.length_append] at hfuel
      omega
    rw [Delimiters.rewritePairs, h.nextPair?]
    dsimp only
    rw [rewritePairs_foreignText h.tail fuel hshorter]
    simp [source]

/-- A text with marks of its own is rewritten to the source of its pieces. -/
theorem rewrite?_foreignText {ps : List Piece} (hd : d ≠ {}) (h : Marked d ps last) :
    d.rewrite? (String.ofList (foreignText d ps last))
      = some (String.ofList (source ps last)) := by
  unfold Delimiters.rewrite?
  rw [if_neg hd, String.toList_ofList, String.length_ofList,
    rewritePairs_foreignText h _ (Nat.lt_succ_self _)]
  rfl

end Rewriting

/-! ## Rendering -/

section Rendering

variable {b : Binding} {ps : List Piece} {last : List Char}

/-- The rewritten text is rendered as it was meant. -/
theorem renderText_rewritten (h : Escapable ps last) (value : Reference → String)
    (hvalue : ∀ p ∈ ps,
      follow b.context p.reference.names = .ok (some (.str (value p.reference)))) :
    renderText b.context (String.ofList (source ps last)) = .ok (filled value ps last) := by
  rw [renderText_source h (fun r => some (value r)) hvalue, fill?_some]
  rfl

/-- **Foreign text survives** between expressions in marks of their own, if it can be escaped: every
    literal comes out as it was, and every expression as its value.  A text without any expression
    needs no escapes to stay as it is; and if it can be escaped, the engine would have left it as
    it is too. -/
theorem Binding.render_foreignText (hd : b.delimiters ≠ {}) (hmarks : Marked b.delimiters ps last)
    (value : Reference → String)
    (hvalue : ∀ p ∈ ps,
      follow b.context p.reference.names = .ok (some (.str (value p.reference))))
    (h : ps ≠ [] → Escapable ps last) :
    b.render (String.ofList (foreignText b.delimiters ps last)) = .ok (filled value ps last)
      ∧ (Escapable ps last → ∃ rewritten,
        b.delimiters.rewrite? (String.ofList (foreignText b.delimiters ps last)) = some rewritten
          ∧ renderText b.context rewritten = .ok (filled value ps last)) := by
  have hrewrite := rewrite?_foreignText hd hmarks
  refine ⟨?_, fun hesc => ⟨_, hrewrite, renderText_rewritten hesc value hvalue⟩⟩
  unfold render
  rw [String.toList_ofList]
  cases ps with
  | nil =>
    rw [foreignText, Text.cutAt?_eq_none_iff.mpr hmarks.last]
    rfl
  | cons p ps =>
    rw [hmarks.cutAt?_left, hrewrite]
    dsimp only
    rw [renderText_rewritten (h (List.cons_ne_nil p ps)) value hvalue]
    rfl

end Rendering

namespace Ansible

/-- Marks that leave double braces to another language. -/
def marks : Delimiters := ⟨"[[", "]]"⟩

/-- An alert of an instance. -/
def alert : Alert where
  labels := (∅ : KeyMap String String).insert "instance" "node0"

/-- What an expander with the marks is bound to for the alert. -/
def binding : Binding := ⟨marks, alertContext alert⟩

/-- The reference to the instance. -/
def host : Reference :=
  AlertReference.reference
    ⟨false, .labels, .of ['i', 'n', 's', 't', 'a', 'n', 'c', 'e'] (by decide)⟩

/-- The instance of the alert. -/
theorem follow_host : follow binding.context host.names = .ok (some (.str "node0")) :=
  follow_alertContext alert _

/-- A text with an expression in the marks, and another one in double braces. -/
def pieces : List Piece := [⟨"host=".toList, host⟩]

/-- What is behind the expression. -/
def rest : List Char := " var=\x7b\x7b ansible_host \x7d\x7d".toList

/-- The expression of the other language comes out as it was. -/
theorem render_foreignText_of_variable :
    String.ofList (foreignText marks pieces rest)
        = "host=[[labels.instance]] var=\x7b\x7b ansible_host \x7d\x7d"
      ∧ binding.render (String.ofList (foreignText marks pieces rest))
        = .ok (filled (fun _ => "node0") pieces rest)
      ∧ filled (fun _ => "node0") pieces rest
        = "host=node0 var=\x7b\x7b ansible_host \x7d\x7d" := by
  have hmarks : Marked marks pieces rest := by decide
  have hvalue : ∀ p ∈ pieces,
      follow binding.context p.reference.names = .ok (some (.str "node0")) := by
    intro p hp
    rw [List.mem_singleton.mp hp]
    exact follow_host
  have hesc : Escapable pieces rest :=
    ⟨fun p hp => .of_not_mem (by rw [List.mem_singleton.mp hp]; decide), by decide,
      .of_not_mem (by decide)⟩
  exact ⟨by decide, (Binding.render_foreignText (b := binding) (by decide) hmarks
    (fun _ => "node0") hvalue fun _ => hesc).1, by decide⟩

end Ansible

/-! ## Neighbours -/

/-- A reference in the marks of the engine. -/
def Template.Reference.tag (r : Reference) : List Char := '{' :: '{' :: (r.inside ++ ['}', '}'])

/-- A tag gets a backslash. -/
theorem escapeBraces_tag (r : Reference) (m : List Char) :
    escapeBraces (r.tag ++ m) = '\\' :: (r.tag ++ escapeBraces m) := by
  have hinside : '{' ∉ r.inside ++ ['}', '}'] := by
    simpa using r.brace_not_mem_inside
  show '\\' :: '{' :: '{' :: escapeBraces (r.inside ++ ['}', '}'] ++ m) = _
  rw [escapeBraces_append (.inl fun h => hinside (List.mem_of_getLast? h)),
    escapeBraces_of_not_mem hinside]
  rfl

/-- **An expression behind a backslash is rewritten to the same text** as the tag that it would be,
    so the rewriting does not tell the two apart. -/
theorem source_behind_backslash (r : Reference) {l : List Char} (hl : l.getLast? ≠ some '{')
    (last : List Char) : source [⟨l ++ ['\\'], r⟩] last = source [] (l ++ (r.tag ++ last)) := by
  have hslash : escapeBraces (l ++ ['\\']) = escapeBraces l ++ ['\\'] :=
    escapeBraces_append (.inl hl)
  have htag : escapeBraces (l ++ (r.tag ++ last))
      = escapeBraces l ++ '\\' :: (r.tag ++ escapeBraces last) := by
    rw [escapeBraces_append (.inl hl), escapeBraces_tag]
  rw [source, source, source, hslash, htag]
  simp [Reference.tag]

/-- **An expression behind a backslash is not expanded**: it becomes a tag of the engine as a text,
    without the backslash, whatever it stands for. -/
theorem Binding.render_behind_backslash {b : Binding} (hd : b.delimiters ≠ {}) (r : Reference)
    {l last : List Char} (hmarks : Marked b.delimiters [⟨l ++ ['\\'], r⟩] last)
    (hl : l.getLast? ≠ some '{') (h : Unescaped (l ++ (r.tag ++ last))) :
    b.render (String.ofList (foreignText b.delimiters [⟨l ++ ['\\'], r⟩] last))
      = .ok (String.ofList (l ++ (r.tag ++ last))) := by
  have hesc : Escapable [] (l ++ (r.tag ++ last)) := ⟨nofun, nofun, h⟩
  have hrewrite := rewrite?_foreignText hd hmarks
  rw [source_behind_backslash r hl] at hrewrite
  unfold render
  rw [String.toList_ofList, hmarks.cutAt?_left, hrewrite]
  dsimp only
  rw [renderText_rewritten hesc (fun _ => "") (fun _ hp => nomatch hp)]
  rfl

namespace Ansible

/-- Whether a text with the reference to the instance has its marks in their places, but comes out
    otherwise than with the instance in the place of the reference. -/
def Lost (text : String) (l last : List Char) (out : String) : Prop :=
  Marked marks [⟨l, host⟩] last ∧ String.ofList (foreignText marks [⟨l, host⟩] last) = text
    ∧ (binding.render text).toOption = some out
    ∧ out ≠ filled (fun _ => "node0") [⟨l, host⟩] last

/-- Texts that do not survive: a backslash before an expression, one before double braces, and an
    expression between braces. -/
theorem not_survives :
    (Expander.forAlerts (some marks)).bind alert.toJson = .ok binding
      ∧ follow binding.context host.names = .ok (some (.str "node0"))
      ∧ Lost "C:\\[[labels.instance]]" ['C', ':', '\\'] [] "C:\x7b\x7blabels.instance\x7d\x7d"
      ∧ Lost "\\\x7b\x7blabels.instance\x7d\x7d [[labels.instance]]"
        "\\\x7b\x7blabels.instance\x7d\x7d ".toList [] "\\node0 node0"
      ∧ Lost "\x7b[[labels.instance]]\x7d" ['{'] ['}'] "node0" :=
  ⟨bind_forAlerts alert (some marks), follow_host,
    ⟨by decide, by decide, by decide +kernel, by decide⟩,
    ⟨by decide, by decide, by decide +kernel, by decide⟩,
    ⟨by decide, by decide, by decide +kernel, by decide⟩⟩

end Ansible

end Healing
