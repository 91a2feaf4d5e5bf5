/-
  Literal text in templates.

  Double braces are kept out of a template by a backslash before them.  A text that is escaped this
  way is read back as it was, up to the tag behind it, unless there is a backslash before double
  braces in the text already, or the text ends in what belongs to the tag then.

  1. **Neighbours** - `Unescaped`, a text without a backslash before double braces; `Meets`, what a
     text may have behind it.
  2. **Steps** - what `readText` makes of the start of a text.
  3. **Escapes** - how an escaped text starts.
  4. **Reading** - `readText_escapeBraces`.
-/
import Healing.Expansion.Delimiters
import Healing.Template.Token

namespace Healing.Template

open Delimiters (escapeBraces)
open Text (dropPrefix?)

/-! ## Neighbours -/

/-- Whether a text has no backslash right before double braces. -/
def Unescaped (l : List Char) : Prop := ¬ ['\\', '{', '{'] <:+: l

/-- Whether a text and what is behind it stay apart: there is nothing, or double braces, and then
    the text ends neither in a brace nor in a backslash. -/
def Meets (l rest : List Char) : Prop :=
  rest ≠ [] → ['{', '{'] <+: rest ∧ l.getLast? ≠ some '{' ∧ l.getLast? ≠ some '\\'

section Neighbours

variable {l rest : List Char}

/-- Nor has a part of such a text. -/
theorem Unescaped.of_append_right (a : List Char) (h : Unescaped (a ++ l)) : Unescaped l :=
  fun hin => h (hin.trans (List.suffix_append a l).isInfix)

/-- Nor has a text without backslashes. -/
theorem Unescaped.of_not_mem (h : '\\' ∉ l) : Unescaped l :=
  fun hin => h (hin.subset (List.mem_cons_self ..))

/-- Only the end of a text meets what is behind it. -/
theorem Meets.of_append_right (a : List Char) (h : Meets (a ++ l) rest) : Meets l rest := by
  intro hrest
  obtain ⟨hbraces, hbrace, hslash⟩ := h hrest
  cases l with
  | nil => exact ⟨hbraces, nofun, nofun⟩
  | cons c r =>
    have hlast : (a ++ c :: r).getLast? = (c :: r).getLast? := by
      rw [List.getLast?_append, List.getLast?_cons, Option.some_or]
    rw [hlast] at hbrace hslash
    exact ⟨hbraces, hbrace, hslash⟩

/-- Behind a brace or a backslash at the end there is nothing. -/
theorem Meets.eq_nil {c : Char} (a : List Char) (h : Meets (a ++ [c]) rest)
    (hc : c = '{' ∨ c = '\\') : rest = [] := by
  apply Decidable.byContradiction
  intro hrest
  obtain ⟨-, hbrace, hslash⟩ := h hrest
  rw [List.getLast?_concat] at hbrace hslash
  rcases hc with rfl | rfl
  · exact hbrace rfl
  · exact hslash rfl

end Neighbours

/-! ## Steps -/

section Steps

variable (fuel : Nat) (r text seen : List Char)

/-- Text ends at double braces. -/
theorem readText_braces :
    readText ['{', '{'] (fuel + 1) ('{' :: '{' :: r) text seen
      = (text.reverse, seen, '{' :: '{' :: r) := rfl

/-- A character that starts neither an escape nor a tag is text. -/
theorem readText_cons {c : Char} (hslash : c ≠ '\\') (hbraces : ¬ ['{', '{'] <+: c :: r) :
    readText ['{', '{'] (fuel + 1) (c :: r) text seen
      = readText ['{', '{'] fuel r (c :: text) (c :: seen) := by
  have hnone : dropPrefix? ['{', '{'] (c :: r) = none := by
    cases h : dropPrefix? ['{', '{'] (c :: r) with
    | none => rfl
    | some rest => exact absurd ⟨rest, (Text.dropPrefix?_eq_some_iff.mp h).symm⟩ hbraces
  rw [readText]
  · rw [hnone]
    rfl
  all_goals simp [hslash]

/-- Escaped double braces are text. -/
theorem readText_escape (hbraces : ¬ ['{', '{'] <+: r) :
    readText ['{', '{'] (fuel + 1) ('\\' :: '{' :: '{' :: r) text seen
      = readText ['{', '{'] fuel r ('{' :: '{' :: text) ('{' :: '{' :: '\\' :: seen) := by
  rw [readText]
  exact fun r' hr => hbraces ⟨r', hr.symm⟩

/-- Backslashes are text if there are no double braces behind them. -/
theorem readText_backslashes (n : Nat) (hbraces : ¬ ['{', '{'] <+: r) (hslash : ¬ ['\\'] <+: r) :
    readText ['{', '{'] (fuel + 1) (List.replicate (n + 1) '\\' ++ r) text seen
      = readText ['{', '{'] fuel r (List.replicate (n + 1) '\\' ++ text)
          (List.replicate (n + 1) '\\' ++ seen) := by
  rcases n with _ | n
  · -- a single one is a character like others
    show readText ['{', '{'] (fuel + 1) ('\\' :: r) text seen = _
    rw [readText]
    · rfl
    · exact fun r' _ hr => hbraces ⟨'{' :: '{' :: r', hr.symm⟩
    · exact fun r' _ hr => hbraces ⟨r', hr.symm⟩
    · exact fun r' _ hr => hslash ⟨r', hr.symm⟩
  · have hstop : r.takeWhile (· = '\\') = [] ∧ r.dropWhile (· = '\\') = r := by
      cases r with
      | nil => exact ⟨rfl, rfl⟩
      | cons c r =>
        have hc : ¬ c = '\\' := fun h => hslash ⟨r, by rw [h]; rfl⟩
        simp [hc]
    have htake : (List.replicate n '\\' ++ r).takeWhile (· = '\\') = List.replicate n '\\' := by
      rw [List.takeWhile_append_of_pos (by simp), hstop.1, List.append_nil]
    have hdrop : (List.replicate n '\\' ++ r).dropWhile (· = '\\') = r := by
      rw [List.dropWhile_append_of_pos (by simp), hstop.2]
    rw [List.replicate_succ, List.replicate_succ, List.cons_append, List.cons_append, readText,
      htake, hdrop]
    split
    · rename_i r'
      exact absurd ⟨r', rfl⟩ hbraces
    · rfl

end Steps

/-! ## Escapes -/

/-- The braces of an escape. -/
theorem escapeBraces_braces (l : List Char) :
    escapeBraces ('{' :: '{' :: l) = '\\' :: '{' :: '{' :: escapeBraces l := rfl

/-- A character that starts no double braces stays. -/
theorem escapeBraces_cons {c : Char} {l : List Char} (h : ¬ ['{', '{'] <+: c :: l) :
    escapeBraces (c :: l) = c :: escapeBraces l := by
  rw [escapeBraces]
  intro r hc hl
  exact h ⟨r, by rw [hc, hl]; rfl⟩

/-- Backslashes stay. -/
theorem escapeBraces_replicate (n : Nat) (l : List Char) :
    escapeBraces (List.replicate n '\\' ++ l) = List.replicate n '\\' ++ escapeBraces l := by
  induction n with
  | zero => rfl
  | succ n ih =>
    rw [List.replicate_succ, List.cons_append, escapeBraces_cons (by simp), ih]
    rfl

/-- A text without braces stays. -/
theorem escapeBraces_of_not_mem {l : List Char} (h : '{' ∉ l) : escapeBraces l = l := by
  induction l with
  | nil => rfl
  | cons c r ih =>
    have hc : c ≠ '{' := fun hc => h (hc ▸ List.mem_cons_self ..)
    rw [escapeBraces_cons (by simp [Ne.symm hc]), ih fun hr => h (List.mem_cons_of_mem _ hr)]

/-- Two texts are escaped one by one if there are no double braces across their junction. -/
theorem escapeBraces_append {l m : List Char} (h : l.getLast? ≠ some '{' ∨ ¬ ['{'] <+: m) :
    escapeBraces (l ++ m) = escapeBraces l ++ escapeBraces m := by
  fun_induction escapeBraces l with
  | case1 r ih =>
    have hr : r.getLast? ≠ some '{' ∨ ¬ ['{'] <+: m := by
      refine h.imp_left fun hlast => ?_
      cases r with
      | nil => exact nofun
      | cons c r => simpa using hlast
    rw [List.cons_append, List.cons_append, escapeBraces_braces, ih hr]
    rfl
  | case2 c r hbraces ih =>
    have hr : r.getLast? ≠ some '{' ∨ ¬ ['{'] <+: m := by
      refine h.imp_left fun hlast => ?_
      cases r with
      | nil => exact nofun
      | cons d r => simpa using hlast
    have hstart : ¬ ['{', '{'] <+: c :: (r ++ m) := by
      intro hstart
      obtain ⟨rfl, hnext⟩ := List.cons_prefix_cons.mp hstart
      rcases r with _ | ⟨d, r⟩
      · exact h.elim (fun hlast => hlast rfl) fun hm => hm hnext
      · obtain ⟨rfl, -⟩ := List.cons_prefix_cons.mp hnext
        exact hbraces r rfl rfl
    rw [List.cons_append, escapeBraces_cons hstart, ih hr]
    rfl
  | case3 => rfl

section Starts

variable {l rest : List Char}

/-- An escaped text does not start with double braces, unless they are behind it. -/
theorem not_braces_start (meets : Meets l rest) (hnil : l = [] → rest = []) :
    ¬ ['{', '{'] <+: escapeBraces l ++ rest := by
  rcases l with _ | ⟨c, l⟩
  · rw [hnil rfl]
    simp [escapeBraces]
  · by_cases hbraces : ['{', '{'] <+: c :: l
    · obtain ⟨r, hr⟩ := hbraces
      rw [← hr]
      show ¬ ['{', '{'] <+: '\\' :: _
      simp
    · rw [escapeBraces_cons hbraces]
      intro hstart
      obtain ⟨rfl, hnext⟩ := List.cons_prefix_cons.mp hstart
      rcases l with _ | ⟨d, l⟩
      · rw [Meets.eq_nil [] meets (.inl rfl)] at hnext
        simp [escapeBraces] at hnext
      · have hd : d ≠ '{' := fun hd => hbraces ⟨l, by rw [hd]; rfl⟩
        rw [escapeBraces_cons (by simp [Ne.symm hd])] at hnext
        exact hd (List.cons_prefix_cons.mp hnext).1.symm

/-- An escaped text does not start with a backslash, unless the text itself starts with one or with
    double braces. -/
theorem not_backslash_start (meets : Meets l rest) (hbraces : ¬ ['{', '{'] <+: l)
    (hslash : ¬ ['\\'] <+: l) : ¬ ['\\'] <+: escapeBraces l ++ rest := by
  rcases l with _ | ⟨c, l⟩
  · intro hstart
    rcases rest with _ | ⟨c, rest⟩
    · simp [escapeBraces] at hstart
    · obtain ⟨⟨r, hr⟩, -⟩ := meets (List.cons_ne_nil c rest)
      rw [← hr] at hstart
      simp [escapeBraces] at hstart
  · rw [escapeBraces_cons hbraces]
    intro hstart
    have hc := (List.cons_prefix_cons.mp hstart).1
    exact hslash ⟨l, by rw [hc]; rfl⟩

end Starts

/-! ## Reading -/

/-- A text starts with so many backslashes, and goes on with something else. -/
theorem exists_replicate (l : List Char) :
    ∃ n m, l = List.replicate n '\\' ++ m ∧ ¬ ['\\'] <+: m := by
  induction l with
  | nil => exact ⟨0, [], rfl, by simp⟩
  | cons c r ih =>
    by_cases hc : c = '\\'
    · obtain ⟨n, m, hr, hm⟩ := ih
      exact ⟨n + 1, m, by rw [hc, hr]; rfl, hm⟩
    · exact ⟨0, c :: r, rfl, by simp [Ne.symm hc]⟩

/-- **An escaped text is read back as it was**, and nothing is read of what is behind it. -/
theorem readText_escapeBraces {l rest : List Char} (unescaped : Unescaped l) (meets : Meets l rest)
    (fuel : Nat) (text seen : List Char) (enough : (escapeBraces l ++ rest).length < fuel) :
    readText ['{', '{'] fuel (escapeBraces l ++ rest) text seen
      = (text.reverse ++ l, (escapeBraces l).reverse ++ seen, rest) := by
  -- the steps take a run of backslashes, an escape, or any other character
  induction hlength : l.length using Nat.strongRecOn generalizing l fuel text seen with
  | ind length ih =>
  subst hlength
  obtain ⟨fuel, rfl⟩ : ∃ f, fuel = f + 1 := ⟨fuel - 1, by omega⟩
  obtain ⟨n, m, rfl, hm⟩ := exists_replicate l
  rcases n with _ | n
  · rw [List.replicate_zero, List.nil_append] at *
    rcases m with _ | ⟨c, m⟩
    · rcases rest with _ | ⟨d, rest⟩
      · simp [escapeBraces, readText]
      · obtain ⟨⟨r, hr⟩, -⟩ := meets (List.cons_ne_nil d rest)
        rw [← hr]
        simp [escapeBraces, readText_braces]
    · by_cases hbraces : ['{', '{'] <+: c :: m
      · obtain ⟨r, hr⟩ := hbraces
        obtain ⟨rfl, rfl⟩ : '{' = c ∧ '{' :: r = m := List.cons.inj hr
        have hmeets : Meets r rest := Meets.of_append_right ['{', '{'] meets
        have hnext : ¬ ['{', '{'] <+: escapeBraces r ++ rest := by
          refine not_braces_start hmeets ?_
          rintro rfl
          exact Meets.eq_nil ['{'] meets (.inl rfl)
        rw [escapeBraces_braces] at enough ⊢
        simp only [List.cons_append, List.length_cons] at enough ⊢
        rw [readText_escape _ _ _ _ hnext,
          ih r.length (by simp only [List.length_cons]; omega)
            (Unescaped.of_append_right ['{', '{'] unescaped) hmeets _ _ _ (by omega) rfl]
        simp
      · have hc : c ≠ '\\' := fun hc => hm ⟨m, by rw [hc]; rfl⟩
        have hnext := not_braces_start meets fun h => nomatch h
        rw [escapeBraces_cons hbraces] at enough hnext ⊢
        simp only [List.cons_append, List.length_cons] at enough hnext ⊢
        rw [readText_cons _ _ _ _ hc hnext,
          ih m.length (Nat.lt_succ_self _) (Unescaped.of_append_right [c] unescaped)
            (Meets.of_append_right [c] meets) _ _ _ (by omega) rfl]
        simp
  · have hmeets : Meets m rest := meets.of_append_right _
    have hbraces : ¬ ['{', '{'] <+: m := by
      rintro ⟨r, rfl⟩
      refine unescaped ⟨List.replicate n '\\', r, ?_⟩
      rw [List.replicate_succ']
      simp
    have hnext : ¬ ['{', '{'] <+: escapeBraces m ++ rest := by
      refine not_braces_start hmeets ?_
      rintro rfl
      rw [List.append_nil, List.replicate_succ'] at meets
      exact meets.eq_nil _ (.inr rfl)
    rw [escapeBraces_replicate, List.append_assoc] at enough ⊢
    rw [List.length_append, List.length_replicate] at enough
    rw [readText_backslashes _ _ _ _ _ hnext (not_backslash_start hmeets hbraces hm),
      ih m.length (by rw [List.length_append, List.length_replicate]; omega)
        (unescaped.of_append_right _) hmeets _ _ _ (by omega) rfl]
    simp

end Healing.Template
