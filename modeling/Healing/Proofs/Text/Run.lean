/-
  Runs of characters.

  A reader takes the characters of a kind for as long as they come.  So what was written as such
  characters is taken as a whole, if something else stands behind it.

  1. **Runs** - `span_append`: a run ends where something else begins.
  2. **Blanks** - `isBlank_of_isDigit`; `trimStart_append` and `trim_eq_self`: a text without blanks
     is not trimmed.
-/
import Healing.Text.Blank

namespace Healing.Text

variable {l r : List Char}

/-! ## Runs -/

/-- **A run ends where something else begins.** -/
theorem span_append {p : Char → Bool} (hl : ∀ c ∈ l, p c = true)
    (hr : ∀ c ∈ r.head?, p c = false) :
    (l ++ r).takeWhile p = l ∧ (l ++ r).dropWhile p = r := by
  have hrest : r.takeWhile p = [] ∧ r.dropWhile p = r := by
    cases r with
    | nil => exact ⟨rfl, rfl⟩
    | cons c r =>
      have hc : ¬ p c = true := Bool.eq_false_iff.mp (hr c rfl)
      exact ⟨List.takeWhile_cons_of_neg hc, List.dropWhile_cons_of_neg hc⟩
  rw [List.takeWhile_append_of_pos hl, List.dropWhile_append_of_pos hl, hrest.1, hrest.2,
    List.append_nil]
  exact ⟨rfl, rfl⟩

/-! ## Blanks -/

/-- A digit is no blank. -/
theorem isBlank_of_isDigit {c : Char} (h : c.isDigit = true) : isBlank c = false := by
  have hrange : 48 ≤ c.toNat ∧ c.toNat ≤ 57 := by
    simpa [Char.isDigit, UInt32.le_iff_toNat_le] using h
  simp only [isBlank, Bool.or_eq_false_iff, Bool.and_eq_false_iff, beq_eq_false_iff_ne,
    decide_eq_false_iff_not]
  omega

/-- Blanks at the start are dropped up to something else. -/
theorem trimStart_append (hl : ∀ c ∈ l, isBlank c = true) (hr : ∀ c ∈ r.head?, isBlank c = false) :
    trimStart (l ++ r) = r :=
  (span_append hl hr).2

/-- A text without blanks is not trimmed. -/
theorem trim_eq_self (h : ∀ c ∈ l, isBlank c = false) : trim l = l := by
  have hself : ∀ {m : List Char}, (∀ c ∈ m, isBlank c = false) → m.dropWhile isBlank = m :=
    fun hm => trimStart_append (l := []) nofun fun c hc => hm c (List.mem_of_mem_head? hc)
  have hreverse : ∀ c ∈ l.reverse, isBlank c = false := fun c hc => h c (List.mem_reverse.mp hc)
  unfold trim trimEnd dropEndWhile trimStart
  rw [hself h, hself hreverse, List.reverse_reverse]

end Healing.Text
