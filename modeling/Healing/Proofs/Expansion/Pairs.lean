/-
  Which pairs of marks are rewritten.

  Marks may overlap each other, themselves and the braces, and one of them may be empty, so a text
  can often be cut into pairs in several ways.  Only one of these goes from the left: each opening
  mark is the first one in what is left, and each closing mark is the first one behind it.  These
  pairs become expressions, whatever stands between them is escaped, and behind the last of them
  all is text, even if there is an opening mark in it.

  1. **Escapes** - `escapeBraces_of_not_infix` and `escapeBraces_endsFirst`: double braces get a
     backslash, from the left.
  2. **Cuts** - `pairedText`, a text put together from its pairs; `Leftmost`, the cut from the left.
  3. **Pairs** - `nextPair?_eq_some_iff`: the rewriting looks for the pair that such a cut begins
     with.
  4. **One cut** - `Leftmost.unique`, and `Rewritten.exists_leftmost` from the rounds of the
     rewriting.
  5. **Texts** - `Delimiters.rewrites_leftmost`.
-/
import Healing.Proofs.Expansion.ForeignText
import Healing.Proofs.Expansion.Rewriting

namespace Healing

open Delimiters (escapeBraces blank Rewritten)

/-! ## Escapes -/

/-- A text without double braces has nothing to escape. -/
theorem escapeBraces_of_not_infix {cs : List Char} (h : ¬ ['{', '{'] <:+: cs) :
    escapeBraces cs = cs := by
  induction cs with
  | nil => rfl
  | cons c r ih =>
    rw [List.infix_cons_iff, not_or] at h
    rw [Template.escapeBraces_cons h.1, ih h.2]

/-- **The first double braces get a backslash**, and then the text behind them is escaped. -/
theorem escapeBraces_endsFirst {a : List Char} (h : EndsFirst ['{', '{'] a) (b : List Char) :
    escapeBraces (a ++ ('{' :: '{' :: b)) = a ++ ('\\' :: '{' :: '{' :: escapeBraces b) := by
  induction a with
  | nil => rfl
  | cons c r ih =>
    have hrest : EndsFirst ['{', '{'] r := by
      intro x y hxy
      exact h (c :: x) y (congrArg (c :: ·) hxy)
    have hstart : ¬ ['{', '{'] <+: c :: (r ++ ('{' :: '{' :: b)) := by
      -- braces at the start would be an occurrence with something behind it
      intro hprefix
      obtain ⟨rfl, hnext⟩ := List.cons_prefix_cons.mp hprefix
      cases r with
      | nil => exact absurd (h [] ['{'] rfl) (List.cons_ne_nil _ _)
      | cons c r =>
        obtain ⟨rfl, -⟩ := List.cons_prefix_cons.mp hnext
        exact absurd (h [] (r ++ ['{', '{']) rfl) (List.append_ne_nil_of_right_ne_nil _ nofun)
    rw [List.cons_append, Template.escapeBraces_cons hstart, ih hrest]
    rfl

/-! ## Cuts -/

/-- A text put together from what stands before and inside each pair of marks, and behind the
    last. -/
def pairedText (d : Delimiters) : List (List Char × List Char) → List Char → List Char
  | [], last => last
  | (before, inside) :: ps, last =>
    before ++ (d.left.toList ++ (inside ++ (d.right.toList ++ pairedText d ps last)))

/-- The same parts with the usual marks around the insides, and the others escaped. -/
def taggedText : List (List Char × List Char) → List Char → List Char
  | [], last => escapeBraces last
  | (before, inside) :: ps, last =>
    escapeBraces before ++ ('{' :: '{' :: inside) ++ ('}' :: '}' :: taggedText ps last)

/-- Whether there is no pair of marks in a text: no opening mark, or no closing mark behind the
    first one. -/
def Unpaired (d : Delimiters) (cs : List Char) : Prop :=
  ¬ d.left.toList <:+: cs ∨
    ∃ before behind, cs = before ++ (d.left.toList ++ behind) ∧ EndsFirst d.left.toList before ∧
      ¬ d.right.toList <:+: behind

/-- Whether a text is cut from the left: every mark is the first one where it may stand, and there
    is no pair behind the last one. -/
structure Leftmost (d : Delimiters) (ps : List (List Char × List Char)) (last : List Char) :
    Prop where
  before : ∀ p ∈ ps, EndsFirst d.left.toList p.1
  inside : ∀ p ∈ ps, EndsFirst d.right.toList p.2
  last : Unpaired d last

namespace Delimiters

variable {d : Delimiters} {cs before inside behind : List Char}

/-- The first pair of marks is the one that a cut from the left begins with. -/
theorem nextPair?_eq_some_iff : d.nextPair? cs = some (before, inside, behind) ↔
    cs = before ++ (d.left.toList ++ (inside ++ (d.right.toList ++ behind))) ∧
      EndsFirst d.left.toList before ∧ EndsFirst d.right.toList inside := by
  unfold nextPair?
  constructor
  · intro h
    obtain ⟨⟨a, r⟩, hleft, h⟩ := Option.bind_eq_some_iff.mp h
    obtain ⟨⟨i, b⟩, hright, h⟩ := Option.map_eq_some_iff.mp h
    cases h
    obtain ⟨rfl, hbefore⟩ := Text.cutAt?_eq_some_iff.mp hleft
    obtain ⟨rfl, hinside⟩ := Text.cutAt?_eq_some_iff.mp hright
    exact ⟨rfl, hbefore, hinside⟩
  · rintro ⟨hcs, hbefore, hinside⟩
    have hleft := Text.cutAt?_eq_some_iff.mpr ⟨hcs, hbefore⟩
    rw [hleft, Option.bind_some]
    dsimp only
    rw [hinside.cutAt?_append]
    rfl

/-- There is no first pair if there is no pair. -/
theorem nextPair?_eq_none_iff : d.nextPair? cs = none ↔ Unpaired d cs := by
  unfold nextPair? Unpaired
  cases hleft : Text.cutAt? d.left.toList cs with
  | none => simp [Text.cutAt?_eq_none_iff.mp hleft]
  | some cut =>
    obtain ⟨a, r⟩ := cut
    obtain ⟨hcs, hfirst⟩ := Text.cutAt?_eq_some_iff.mp hleft
    have hinfix : d.left.toList <:+: cs := by
      rw [hcs]
      exact List.infix_append' ..
    rw [Option.bind_some, Option.map_eq_none_iff, Text.cutAt?_eq_none_iff]
    constructor
    · exact fun h => .inr ⟨a, r, hcs, hfirst, h⟩
    · rintro (h | ⟨a', r', hcs', hfirst', h⟩)
      · exact absurd hinfix h
      · have hsame := Text.cutAt?_eq_some_iff.mpr ⟨hcs', hfirst'⟩
        rw [hleft] at hsame
        cases hsame
        exact h

end Delimiters

/-! ## One cut -/

namespace Leftmost

variable {d : Delimiters} {p : List Char × List Char} {ps : List (List Char × List Char)}
  {last out : List Char}

/-- What is behind the first pair is cut from the left as well. -/
theorem tail (h : Leftmost d (p :: ps) last) : Leftmost d ps last where
  before := fun q hq => h.before q (List.mem_cons_of_mem _ hq)
  inside := fun q hq => h.inside q (List.mem_cons_of_mem _ hq)
  last := h.last

/-- The first pair of such a cut is the first pair of the text. -/
theorem nextPair? (h : Leftmost d (p :: ps) last) :
    d.nextPair? (pairedText d (p :: ps) last) = some (p.1, p.2, pairedText d ps last) :=
  Delimiters.nextPair?_eq_some_iff.mpr
    ⟨rfl, h.before p List.mem_cons_self, h.inside p List.mem_cons_self⟩

/-- **There is only one cut from the left.** -/
theorem unique : ∀ {ps ps' : List (List Char × List Char)} {last last' : List Char},
    Leftmost d ps last → Leftmost d ps' last' → pairedText d ps last = pairedText d ps' last' →
      ps = ps' ∧ last = last'
  | [], [], _, _, _, _, heq => ⟨rfl, heq⟩
  | [], p' :: ps', last, last', h, h', heq => by
    -- one cut has found a pair where the other says that there is none
    have hnone := Delimiters.nextPair?_eq_none_iff.mpr h.last
    have hsome := h'.nextPair?
    rw [← heq] at hsome
    exact absurd (hsome.symm.trans hnone) nofun
  | p :: ps, [], last, last', h, h', heq => by
    have hnone := Delimiters.nextPair?_eq_none_iff.mpr h'.last
    have hsome := h.nextPair?
    rw [heq] at hsome
    exact absurd (hsome.symm.trans hnone) nofun
  | p :: ps, p' :: ps', last, last', h, h', heq => by
    have hpair := h.nextPair?
    rw [heq, h'.nextPair?] at hpair
    obtain ⟨hbefore, hinside, hrest⟩ : p'.1 = p.1 ∧ p'.2 = p.2 ∧
        pairedText d ps' last' = pairedText d ps last := by
      simpa only [Option.some.injEq, Prod.mk.injEq] using hpair
    obtain ⟨rfl, rfl⟩ := unique h.tail h'.tail hrest.symm
    exact ⟨by rw [Prod.ext hbefore hinside], rfl⟩

end Leftmost

/-- **What a text is rewritten to shows a cut from the left**: each round of the rewriting takes the
    next pair of it. -/
theorem Delimiters.Rewritten.exists_leftmost {d : Delimiters} {cs out : List Char}
    (h : Rewritten d cs out) :
    ∃ ps last, cs = pairedText d ps last ∧ Leftmost d ps last ∧ out = taggedText ps last := by
  induction h with
  | last hnone =>
    exact ⟨[], _, rfl, ⟨nofun, nofun, Delimiters.nextPair?_eq_none_iff.mp hnone⟩, rfl⟩
  | @pair cs before inside behind out next _ ih =>
    obtain ⟨ps, last, rfl, hcut, rfl⟩ := ih
    obtain ⟨hcs, hbefore, hinside⟩ := Delimiters.nextPair?_eq_some_iff.mp next
    refine ⟨(before, inside) :: ps, last, hcs, ⟨?_, ?_, hcut.last⟩, rfl⟩
    · exact List.forall_mem_cons.mpr ⟨hbefore, hcut.before⟩
    · exact List.forall_mem_cons.mpr ⟨hinside, hcut.inside⟩

/-! ## Texts -/

/-- **Rewriting finds exactly the leftmost pairs.**  Take any text and any marks that are not both
    empty.  There is exactly one way to cut the text from the left.  The insides of its pairs get
    the usual marks, everything else is escaped, and nothing is added, dropped or moved; with the
    usual marks the text stays as it is.  To escape a text is to put a backslash before the first
    double braces, and to go on behind them. -/
theorem Delimiters.rewrites_leftmost (d : Delimiters) (hd : d ≠ blank) (text : String) :
    (∃ ps last, (text.toList = pairedText d ps last ∧ Leftmost d ps last) ∧
      (∀ ps' last', text.toList = pairedText d ps' last' → Leftmost d ps' last' →
        ps' = ps ∧ last' = last) ∧
      d.rewrite? text = some (if d = {} then text else String.ofList (taggedText ps last))) ∧
    (∀ cs, ¬ ['{', '{'] <:+: cs → escapeBraces cs = cs) ∧
    ∀ a b, EndsFirst ['{', '{'] a →
      escapeBraces (a ++ ('{' :: '{' :: b)) = a ++ ('\\' :: '{' :: '{' :: escapeBraces b) := by
  refine ⟨?_, fun _ => escapeBraces_of_not_infix, fun _ b h => escapeBraces_endsFirst h b⟩
  obtain ⟨out, hout⟩ := exists_rewritePairs hd (Nat.lt_succ_self text.toList.length)
  have hrounds := rewritten_of_rewritePairs hout
  obtain ⟨ps, last, htext, hcut, rfl⟩ := hrounds.exists_leftmost
  refine ⟨ps, last, ⟨htext, hcut⟩, fun ps' last' htext' hcut' => ?_, ?_⟩
  · exact hcut'.unique hcut (htext'.symm.trans htext)
  · rw [rewrite?_eq_some_iff hd]
    by_cases husual : d = {}
    · rw [if_pos husual, if_pos husual]
    · rw [if_neg husual, if_neg husual, String.toList_ofList]
      exact hrounds

namespace Overlapping

/-- Marks of which one is the start of the other. -/
def marks : Delimiters := ⟨"||", "|"⟩

/-- Three bars in a row are an opening mark and a closing one, and an opening mark without a closing
    one is text. -/
theorem rewrites_leftmost_of_bars : marks ≠ blank ∧
    (∀ ps last, "||x|y||| \x7b\x7b ||z".toList = pairedText marks ps last → Leftmost marks ps last →
      ps = [([], ['x']), (['y'], [])] ∧ last = " \x7b\x7b ||z".toList) ∧
    marks.rewrite? "||x|y||| \x7b\x7b ||z"
      = some "\x7b\x7bx\x7d\x7dy\x7b\x7b\x7d\x7d \\\x7b\x7b ||z" := by
  have hd : marks ≠ blank := by decide
  obtain ⟨⟨ps, last, -, honly, hrewrite⟩, -⟩ :=
    marks.rewrites_leftmost hd "||x|y||| \x7b\x7b ||z"
  have hcut : Leftmost marks [([], ['x']), (['y'], [])] " \x7b\x7b ||z".toList :=
    ⟨by decide, by decide, .inr ⟨" \x7b\x7b ".toList, ['z'], by decide, by decide, by decide⟩⟩
  obtain ⟨rfl, rfl⟩ := honly _ _ (by decide) hcut
  exact ⟨hd, honly, hrewrite.trans (by decide)⟩

end Overlapping

end Healing
