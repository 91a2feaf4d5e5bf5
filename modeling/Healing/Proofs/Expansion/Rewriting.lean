/-
  Rewriting pair after pair.

  The first pair of marks in a text becomes an expression, and then the rest behind it is rewritten
  the same way.  Nothing is lost when a pair is cut out, so the rest is shorter by the marks at
  least, and there is an end to the pairs unless both marks are empty.  Two empty marks are found
  right at the start of any text, with all of it behind them, over and over again.

  1. **Rounds** - `Round`, what one pair leaves to be done; `Rewritten`, what a text has become when
     there are no more pairs.
  2. **Progress** - `eq_of_nextPair?`: nothing is lost; `Round.shorter`: the rest is shorter.
  3. **Fuel** - `rewritePairs_eq_some_iff`: with enough fuel the rounds are run to their end.
  4. **Empty marks** - `round_blank_iff` and `not_rewritten_blank`.
  5. **Texts** - `Delimiters.rewriting_ends_iff`; two empty marks are read like any others
     (`NoMarks`).
-/
import Healing.Expansion
import Mathlib.Data.List.Infix

namespace Healing

namespace Delimiters

/-! ## Rounds -/

/-- What is left to be done after one round: what is behind the first pair of marks. -/
def Round (d : Delimiters) (rest behind : List Char) : Prop :=
  ∃ before inside, d.nextPair? rest = some (before, inside, behind)

/-- What a text has become when there are no more pairs in it, however many rounds it takes. -/
inductive Rewritten (d : Delimiters) : List Char → List Char → Prop
  | last {rest : List Char} (none : d.nextPair? rest = none) : Rewritten d rest (escapeBraces rest)
  | pair {rest before inside behind out : List Char}
    (next : d.nextPair? rest = some (before, inside, behind)) (others : Rewritten d behind out) :
    Rewritten d rest (escapeBraces before ++ ('{' :: '{' :: inside) ++ ('}' :: '}' :: out))

variable {d : Delimiters} {rest before inside behind out : List Char}

/-- A text becomes only one thing. -/
theorem Rewritten.unique (h : Rewritten d rest out) : ∀ {out'}, Rewritten d rest out' →
    out = out' := by
  induction h with
  | last hnone =>
    intro out' h'
    cases h' with
    | last _ => rfl
    | pair next' _ =>
      rw [hnone] at next'
      cases next'
  | pair next _ ih =>
    intro out' h'
    cases h' with
    | last hnone' =>
      rw [next] at hnone'
      cases hnone'
    | pair next' others' =>
      rw [next] at next'
      cases next'
      rw [ih others']

/-! ## Progress -/

/-- **Nothing is lost** when the first pair is cut out. -/
theorem eq_of_nextPair? (h : d.nextPair? rest = some (before, inside, behind)) :
    rest = before ++ d.left.toList ++ (inside ++ d.right.toList ++ behind) := by
  obtain ⟨⟨a, r⟩, hleft, hright⟩ := Option.bind_eq_some_iff.mp h
  obtain ⟨⟨i, b⟩, hcut, hparts⟩ := Option.map_eq_some_iff.mp hright
  obtain ⟨rfl, rfl, rfl⟩ : a = before ∧ i = inside ∧ b = behind := by
    simpa only [Prod.mk.injEq] using hparts
  rw [Text.eq_of_cutAt? hleft, Text.eq_of_cutAt? hcut]

/-- Marks that are both empty. -/
def blank : Delimiters := ⟨"", ""⟩

/-- Other marks take some room. -/
theorem length_marks_pos (hd : d ≠ blank) : 0 < d.left.toList.length + d.right.toList.length := by
  apply Nat.pos_of_ne_zero
  intro hzero
  obtain ⟨hleft, hright⟩ := Nat.add_eq_zero_iff.mp hzero
  apply hd
  obtain ⟨left, right⟩ := d
  have hl : left = "" := String.toList_inj.mp (List.length_eq_zero_iff.mp hleft)
  have hr : right = "" := String.toList_inj.mp (List.length_eq_zero_iff.mp hright)
  rw [hl, hr]
  rfl

/-- **Every round leaves less to be done**, unless both marks are empty. -/
theorem Round.shorter (hd : d ≠ blank) (h : d.Round rest behind) :
    behind.length < rest.length := by
  obtain ⟨before, inside, hnext⟩ := h
  have hmarks := length_marks_pos hd
  rw [eq_of_nextPair? hnext]
  simp only [List.length_append]
  omega

/-! ## Fuel -/

/-- What has been rewritten with some fuel is rewritten for good. -/
theorem rewritten_of_rewritePairs :
    ∀ {fuel : Nat} {rest out : List Char}, d.rewritePairs fuel rest = some out →
      Rewritten d rest out
  | 0, _, _, h => nomatch h
  | fuel + 1, rest, out, h => by
    rw [rewritePairs] at h
    cases hnext : d.nextPair? rest with
    | none =>
      rw [hnext] at h
      obtain rfl := Option.some.inj h
      exact .last hnext
    | some parts =>
      obtain ⟨before, inside, behind⟩ := parts
      rw [hnext] at h
      obtain ⟨others, hothers, rfl⟩ := Option.map_eq_some_iff.mp h
      exact .pair hnext (rewritten_of_rewritePairs hothers)

/-- A text needs no more fuel than it is long: every round but the last takes a character. -/
theorem exists_rewritePairs (hd : d ≠ blank) :
    ∀ {fuel : Nat} {rest : List Char}, rest.length < fuel → ∃ out, d.rewritePairs fuel rest = some out
  | 0, _, h => absurd h (Nat.not_lt_zero _)
  | fuel + 1, rest, h => by
    rw [rewritePairs]
    cases hnext : d.nextPair? rest with
    | none => exact ⟨_, rfl⟩
    | some parts =>
      obtain ⟨before, inside, behind⟩ := parts
      have hshorter : behind.length < rest.length := Round.shorter hd ⟨before, inside, hnext⟩
      obtain ⟨out, hout⟩ := exists_rewritePairs hd (show behind.length < fuel by omega)
      exact ⟨_, congrArg (Option.map _) hout⟩

/-- **With enough fuel the rounds are run to their end.** -/
theorem rewritePairs_eq_some_iff (hd : d ≠ blank) {fuel : Nat} (enough : rest.length < fuel) :
    d.rewritePairs fuel rest = some out ↔ Rewritten d rest out := by
  constructor
  · exact rewritten_of_rewritePairs
  · intro h
    obtain ⟨out', hout'⟩ := exists_rewritePairs hd enough
    rw [hout', h.unique (rewritten_of_rewritePairs hout')]

/-! ## Empty marks -/

/-- Two empty marks are found at the start, with all of the text behind them. -/
theorem nextPair?_blank (rest : List Char) : blank.nextPair? rest = some ([], [], rest) := by
  have hcut : Text.cutAt? [] rest = some ([], rest) := by cases rest <;> rfl
  show (Text.cutAt? [] rest).bind (fun p => (Text.cutAt? [] p.2).map fun q => (p.1, q.1, q.2)) = _
  rw [hcut, Option.bind_some, hcut]
  rfl

/-- **With two empty marks every round leaves everything to be done.** -/
theorem round_blank_iff : blank.Round rest behind ↔ behind = rest := by
  unfold Round
  rw [nextPair?_blank]
  constructor
  · rintro ⟨_, _, h⟩
    cases h
    rfl
  · rintro rfl
    exact ⟨[], [], rfl⟩

/-- With two empty marks no text is ever rewritten. -/
theorem not_rewritten_blank (rest out : List Char) : ¬ Rewritten blank rest out := by
  intro h
  -- the other rounds start from the same text, so there is no first of them
  induction h with
  | last hnone =>
    rw [nextPair?_blank] at hnone
    cases hnone
  | pair _ _ ih => exact ih

/-- However much fuel there is, two empty marks use it up. -/
theorem rewritePairs_blank (fuel : Nat) (rest : List Char) :
    blank.rewritePairs fuel rest = none :=
  Option.eq_none_iff_forall_ne_some.mpr fun out h =>
    not_rewritten_blank rest out (rewritten_of_rewritePairs h)

/-! ## Texts -/

section Texts

variable {text source : String}

/-- What comes of rewriting a text; the usual marks need not be rewritten. -/
theorem rewrite?_eq_some_iff (hd : d ≠ blank) : d.rewrite? text = some source ↔
    if d = {} then source = text else Rewritten d text.toList source.toList := by
  unfold rewrite?
  split
  · rw [Option.some.injEq]
    exact eq_comm
  · rw [Option.map_eq_some_iff]
    constructor
    · rintro ⟨out, hout, rfl⟩
      rw [String.toList_ofList]
      exact rewritten_of_rewritePairs hout
    · intro h
      have henough : text.toList.length < text.length + 1 := Nat.lt_succ_self _
      exact ⟨source.toList, (rewritePairs_eq_some_iff hd henough).mpr h, String.ofList_toList⟩

/-- Every text is rewritten, unless both marks are empty. -/
theorem exists_rewrite? (hd : d ≠ blank) (text : String) :
    ∃ source, d.rewrite? text = some source := by
  by_cases husual : d = {}
  · exact ⟨text, if_pos husual⟩
  · have henough : text.toList.length < text.length + 1 := Nat.lt_succ_self _
    obtain ⟨out, hout⟩ := exists_rewritePairs hd henough
    refine ⟨String.ofList out, (rewrite?_eq_some_iff hd).mpr ?_⟩
    rw [if_neg husual, String.toList_ofList]
    exact rewritten_of_rewritePairs hout

/-- Two empty marks rewrite nothing. -/
theorem rewrite?_blank (text : String) : blank.rewrite? text = none := by
  unfold rewrite?
  rw [if_neg (by decide), rewritePairs_blank]
  rfl

end Texts

end Delimiters

/-- A text that has been rewritten is rendered; one without an opening mark stays as it is. -/
theorem Binding.render_of_rewrite? {b : Binding} {text source : String}
    (h : b.delimiters.rewrite? text = some source) :
    b.render text = if b.delimiters.left.toList <:+: text.toList then
      (Template.renderText b.context source).mapError (.rendering text) else .ok text := by
  unfold render
  cases hcut : Text.cutAt? b.delimiters.left.toList text.toList with
  | none => rw [if_neg (Text.cutAt?_eq_none_iff.mp hcut)]
  | some parts =>
    have hmark : b.delimiters.left.toList <:+: text.toList := by
      rw [← not_not (a := _ <:+: _), ← Text.cutAt?_eq_none_iff, hcut]
      exact nofun
    rw [if_pos hmark, h]

/-- With two empty marks no text can be rendered: there is no end to rewriting it. -/
theorem Binding.render_blank {b : Binding} (hb : b.delimiters = .blank) (text : String) :
    b.render text = .error (.rendering text .endless) := by
  have hcut : Text.cutAt? b.delimiters.left.toList text.toList = some ([], text.toList) := by
    rw [hb]
    show Text.cutAt? [] text.toList = _
    cases text.toList <;> rfl
  unfold render
  rw [hcut, hb, Delimiters.rewrite?_blank]

/-- **Rewriting comes to an end unless both marks are empty.**  Take any marks and any text.

    - Every round leaves less to be done, whatever the text, iff the marks are not both empty.
    - The rounds come to an end iff the marks are not both empty.
    - If they are not both empty, the text is rewritten to what the rounds make of it, or stays as
      it is with the usual marks; and the result is rendered, if there is an opening mark at all.
    - If both are empty, every round starts from the whole text again.  There is no end to that, and
      no text is rendered. -/
theorem Delimiters.rewriting_ends_iff (d : Delimiters) (text : String) :
    ((∀ rest behind, d.Round rest behind → behind.length < rest.length) ↔ d ≠ blank) ∧
    ((∃ out, Rewritten d text.toList out) ↔ d ≠ blank) ∧
    (d ≠ blank → ∃ source, d.rewrite? text = some source ∧
      (if d = {} then source = text else Rewritten d text.toList source.toList) ∧
      ∀ b : Binding, b.delimiters = d → b.render text = if d.left.toList <:+: text.toList then
        (Template.renderText b.context source).mapError (.rendering text) else .ok text) ∧
    (d = blank → (∀ behind, d.Round text.toList behind ↔ behind = text.toList) ∧
      (∀ fuel, d.rewritePairs fuel text.toList = none) ∧
      ∀ b : Binding, b.delimiters = d → b.render text = .error (.rendering text .endless)) := by
  refine ⟨⟨?_, fun hd rest behind => Round.shorter hd⟩, ⟨?_, ?_⟩, ?_, ?_⟩
  · rintro hshorter rfl
    exact Nat.lt_irrefl _ (hshorter [] [] (round_blank_iff.mpr rfl))
  · rintro ⟨out, hout⟩ rfl
    exact not_rewritten_blank _ out hout
  · intro hd
    obtain ⟨out, hout⟩ := exists_rewritePairs hd (Nat.lt_succ_self text.toList.length)
    exact ⟨out, rewritten_of_rewritePairs hout⟩
  · intro hd
    obtain ⟨source, hsource⟩ := exists_rewrite? hd text
    refine ⟨source, hsource, (rewrite?_eq_some_iff hd).mp hsource, ?_⟩
    rintro b rfl
    exact Binding.render_of_rewrite? hsource
  · rintro rfl
    exact ⟨fun _ => round_blank_iff, fun fuel => rewritePairs_blank fuel _,
      fun b hb => Binding.render_blank hb text⟩

namespace OneMark

/-- Marks of which the opening one is empty. -/
def marks : Delimiters := ⟨"", "|"⟩

/-- An empty mark does no harm beside another one: every closing mark ends an expression. -/
theorem rewriting_ends_of_one : marks ≠ .blank ∧
    marks.rewrite? "labels.a|labels.b|!" = some "\x7b\x7blabels.a\x7d\x7d\x7b\x7blabels.b\x7d\x7d!" ∧
    marks.Rewritten "labels.a|labels.b|!".toList
      "\x7b\x7blabels.a\x7d\x7d\x7b\x7blabels.b\x7d\x7d!".toList := by
  have hd : marks ≠ .blank := by decide
  obtain ⟨-, -, hends, -⟩ := marks.rewriting_ends_iff "labels.a|labels.b|!"
  obtain ⟨source, hsource, hrounds, -⟩ := hends hd
  have hrewrite : marks.rewrite? "labels.a|labels.b|!"
      = some "\x7b\x7blabels.a\x7d\x7d\x7b\x7blabels.b\x7d\x7d!" := by decide
  obtain rfl := Option.some.inj (hsource.symm.trans hrewrite)
  exact ⟨hd, hrewrite, hrounds⟩

end OneMark

namespace NoMarks

/-- The text of an action. -/
def text : String := "Restart node"

/-- **Not all marks let rewriting end**: two empty ones are read like any others; the rest behind
    their first pair is the whole text, and the text never becomes anything. -/
theorem not_ending :
    Delimiters.read (.ofJson (.obj [("left", .str ""), ("right", .str "")])) = .ok .blank ∧
      ¬ (∀ behind, Delimiters.blank.Round text.toList behind →
        behind.length < text.toList.length) ∧
      ¬ ∃ out, Delimiters.Rewritten .blank text.toList out := by
  refine ⟨rfl, fun hshorter => ?_, ?_⟩
  · exact Nat.lt_irrefl _ (hshorter _ (Delimiters.round_blank_iff.mpr rfl))
  · rintro ⟨out, hout⟩
    exact Delimiters.not_rewritten_blank _ out hout

end NoMarks

end Healing
