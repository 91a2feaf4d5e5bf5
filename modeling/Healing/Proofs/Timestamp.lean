/-
  Points in time are read back from their texts.

  There is one way to write a point in time and there are many to read one.  Whatever is written is
  read back as the same point in time: years of any size, leap seconds and fractions of a second.
  And whatever is read is a point in time that exists.

  1. **Padded numbers** - `ofDecimal_padded` and `length_padded`: zeros in front change nothing.
  2. **Digits** - `readDigits?_append`: digits are read up to something else.
  3. **Parts** - `readYear?_writeYear`, `readField?_padded`, `readFraction?_writeFraction`.
  4. **Points in time** - `read?_write` and `isValid_of_read?`.
-/
import Healing.Proofs.Text.Run
import Healing.Timestamp
import Mathlib.Algebra.Ring.Nat

namespace Healing.Timestamp

/-! ## Padded numbers -/

variable {width n : Nat}

/-- A padded number has digits only. -/
theorem isDigit_of_mem_padded : ∀ c ∈ padded width n, c.isDigit = true := by
  intro c hc
  rcases List.mem_append.mp hc with hc | hc
  · rw [(List.mem_replicate.mp hc).2]
    rfl
  · rw [Nat.toString_eq_ofList_toDigits, String.toList_ofList] at hc
    exact Nat.isDigit_of_mem_toDigits (by decide) (by decide) hc

/-- A padded number is not empty. -/
theorem padded_ne_nil : padded width n ≠ [] := by
  refine List.append_ne_nil_of_right_ne_nil _ ?_
  rw [Nat.toString_eq_ofList_toDigits, String.toList_ofList]
  exact Nat.toDigits_ne_nil

/-- Zeros in front do not change the number. -/
theorem ofDecimal_padded : Numeral.ofDecimal (padded width n) = n := by
  have hvalue : ∀ cs, Numeral.ofDecimal cs = Nat.ofDigitChars 10 cs 0 := by
    intro cs
    unfold Numeral.ofDecimal Nat.ofDigitChars
    simp only [Nat.mul_comm]
    rfl
  rw [hvalue]
  unfold padded
  rw [Nat.ofDigitChars_append, Nat.ofDigitChars_replicate_zero, Nat.mul_zero,
    Nat.toString_eq_ofList_toDigits, String.toList_ofList, Nat.ofDigitChars_ten_toDigits]

/-- A number that fits has the width. -/
theorem length_padded (width n : Nat) (hwidth : 0 < width) (h : n < 10 ^ width) :
    (padded width n).length = width := by
  have hlength : (Nat.toDigits 10 n).length ≤ width :=
    (Nat.length_toDigits_le_iff (by decide) hwidth).mpr h
  unfold padded
  rw [Nat.toString_eq_ofList_toDigits, String.toList_ofList, List.length_append,
    List.length_replicate]
  exact Nat.sub_add_cancel hlength

/-! ## Digits -/

section Digits

variable {ds r : List Char}

/-- Digits have no blanks before them. -/
theorem trimStart_digits (digits : ∀ c ∈ ds, c.isDigit = true) (nonempty : ds ≠ []) :
    Text.trimStart (ds ++ r) = ds ++ r := by
  obtain ⟨c, ds, rfl⟩ := List.exists_cons_of_ne_nil nonempty
  refine Text.trimStart_append (l := []) nofun ?_
  rintro _ ⟨⟩
  exact Text.isBlank_of_isDigit (digits c List.mem_cons_self)

/-- **Digits are read up to something else.** -/
theorem readDigits?_append {most : Nat} (digits : ∀ c ∈ ds, c.isDigit = true) (nonempty : ds ≠ [])
    (few : ds.length ≤ most) (ends : ∀ c ∈ r.head?, c.isDigit = false) :
    readDigits? most (ds ++ r) = some (ds, r) := by
  have htake : ((ds ++ r).take most).takeWhile Char.isDigit = ds := by
    rw [List.take_append, List.take_of_length_le few]
    refine (Text.span_append digits fun c hc => ends c ?_).1
    rw [List.head?_take] at hc
    exact (Option.ite_none_left_eq_some.mp hc).2
  unfold readDigits?
  simp only [htake, List.isEmpty_iff, nonempty, if_false, List.drop_left]

/-- A number of the two digits is read, whatever blanks might have been there. -/
theorem readField?_padded {low high : Nat} (hlow : low ≤ n) (hhigh : n ≤ high) (fits : n < 100)
    (ends : ∀ c ∈ r.head?, c.isDigit = false) :
    readField? low high (padded 2 n ++ r) = some (n, r) := by
  have hlength : (padded 2 n).length ≤ 2 := Nat.le_of_eq (length_padded 2 n (by decide) fits)
  unfold readField?
  rw [trimStart_digits isDigit_of_mem_padded padded_ne_nil,
    readDigits?_append isDigit_of_mem_padded padded_ne_nil hlength ends]
  show (if low ≤ Numeral.ofDecimal (padded 2 n) ∧ Numeral.ofDecimal (padded 2 n) ≤ high then _
    else none) = _
  rw [ofDecimal_padded, if_pos ⟨hlow, hhigh⟩]

/-! ## Parts -/

/-- All digits behind a minus belong to the year. -/
theorem readYear?_minus {cs : List Char} (h : readDigits? cs.length cs = some (ds, r)) :
    readYear? ('-' :: cs) = some (-(Numeral.ofDecimal ds : Int), r) := by
  show Option.map _ (readDigits? cs.length cs) = _
  rw [h]
  rfl

/-- All digits behind a plus belong to the year. -/
theorem readYear?_plus {cs : List Char} (h : readDigits? cs.length cs = some (ds, r)) :
    readYear? ('+' :: cs) = some ((Numeral.ofDecimal ds : Int), r) := by
  show Option.map _ (readDigits? cs.length cs) = _
  rw [h]
  rfl

/-- **Years are read back**, with a sign if they have one. -/
theorem readYear?_writeYear (year : Int) :
    readYear? (writeYear year ++ '-' :: r) = some (year, '-' :: r) := by
  have ends : ∀ c ∈ ('-' :: r).head?, c.isDigit = false := by
    rintro _ ⟨⟩
    rfl
  unfold writeYear
  split
  · rename_i hsmall
    have hlength : (padded 4 year.toNat).length ≤ 4 :=
      Nat.le_of_eq (length_padded 4 _ (by decide) (by omega))
    have hne : padded 4 year.toNat ≠ [] := padded_ne_nil
    have hread := readDigits?_append isDigit_of_mem_padded hne hlength ends
    obtain ⟨c, ds, hcons⟩ := List.exists_cons_of_ne_nil hne
    have hc : c.isDigit = true := isDigit_of_mem_padded c (hcons ▸ List.mem_cons_self)
    unfold readYear?
    rw [trimStart_digits isDigit_of_mem_padded hne]
    -- a digit is no sign
    split
    · rename_i hsign
      rw [hcons] at hsign
      cases hsign
      exact absurd hc (by decide)
    · rename_i hsign
      rw [hcons] at hsign
      cases hsign
      exact absurd hc (by decide)
    · rw [hread]
      show some ((Numeral.ofDecimal (padded 4 year.toNat) : Int), '-' :: r) = _
      rw [ofDecimal_padded, Int.toNat_of_nonneg hsmall.1]
  · have hread : readDigits? (padded 4 year.natAbs ++ '-' :: r).length
        (padded 4 year.natAbs ++ '-' :: r) = some (padded 4 year.natAbs, '-' :: r) := by
      refine readDigits?_append isDigit_of_mem_padded padded_ne_nil ?_ ends
      rw [List.length_append]
      exact Nat.le_add_right _ _
    by_cases hneg : year < 0
    · rw [if_pos hneg, List.cons_append, readYear?_minus hread, ofDecimal_padded,
        Int.ofNat_natAbs_of_nonpos (Int.le_of_lt hneg), Int.neg_neg]
    · rw [if_neg hneg, List.cons_append, readYear?_plus hread, ofDecimal_padded,
        Int.natAbs_of_nonneg (Int.not_lt.mp hneg)]

/-- **A fraction has three, six or nine digits**, unless it is zero. -/
theorem writeFraction_cases {nanos : Nat} (h : nanos < 1000000000) :
    writeFraction nanos = [] ∧ nanos = 0 ∨
      ∃ ds, writeFraction nanos = '.' :: ds ∧ (∀ c ∈ ds, c.isDigit = true) ∧
        (ds.length = 3 ∨ ds.length = 6 ∨ ds.length = 9) ∧
        Numeral.ofDecimal ds * 10 ^ (9 - ds.length) = nanos := by
  unfold writeFraction
  split
  · exact .inl ⟨rfl, ‹_›⟩
  · right
    split
    · have hlength := length_padded 3 (nanos / 1000000) (by decide) (by omega)
      refine ⟨_, rfl, isDigit_of_mem_padded, .inl hlength, ?_⟩
      rw [hlength, ofDecimal_padded]
      omega
    · split
      · have hlength := length_padded 6 (nanos / 1000) (by decide) (by omega)
        refine ⟨_, rfl, isDigit_of_mem_padded, .inr (.inl hlength), ?_⟩
        rw [hlength, ofDecimal_padded]
        omega
      · have hlength := length_padded 9 nanos (by decide) h
        refine ⟨_, rfl, isDigit_of_mem_padded, .inr (.inr hlength), ?_⟩
        rw [hlength, ofDecimal_padded]
        omega

/-- **Fractions are read back.** -/
theorem readFraction?_writeFraction {nanos : Nat} (h : nanos < 1000000000) :
    readFraction? (writeFraction nanos ++ 'Z' :: r) = some (nanos, 'Z' :: r) := by
  rcases writeFraction_cases h with ⟨hnone, rfl⟩ | ⟨ds, hds, digits, hlength, hvalue⟩
  · rw [hnone]
    rfl
  · have hread : readDigits? 9 (ds ++ 'Z' :: r) = some (ds, 'Z' :: r) := by
      refine readDigits?_append digits ?_ (by omega) ?_
      · rintro rfl
        simp at hlength
      · rintro _ ⟨⟩
        rfl
    rw [hds]
    show (readDigits? 9 (ds ++ 'Z' :: r)).map _ = _
    rw [hread]
    show some (Numeral.ofDecimal ds * Nat.pow 10 (9 - ds.length), 'Z' :: r) = _
    rw [Nat.pow_eq, hvalue]

end Digits

/-! ## Points in time -/

variable {t : Timestamp}

/-- What a point in time is made of has its bounds. -/
theorem isValid_iff : t.isValid = true ↔
    (Calendar.yearBounds.1 ≤ t.year ∧ t.year ≤ Calendar.yearBounds.2) ∧
      (1 ≤ t.month ∧ t.month ≤ 12) ∧ (1 ≤ t.day ∧ t.day ≤ Calendar.monthLength t.year t.month) ∧
      t.hour < 24 ∧ t.minute < 60 ∧ t.second ≤ 60 ∧ t.nanos < 1000000000 := by
  unfold isValid
  simp only [Bool.and_eq_true, decide_eq_true_eq, and_assoc]

/-- No month has more than 31 days. -/
theorem monthLength_le (year : Int) (month : Nat) : Calendar.monthLength year month ≤ 31 := by
  unfold Calendar.monthLength
  split
  · split <;> decide
  · split <;> decide

/-- A clock in UTC shows the time. -/
theorem ofOffset_zero (hour : t.hour < 24) (minute : t.minute < 60) : t.ofOffset 0 = t := by
  have hlow : ¬ ((t.hour : Int) * 60 + t.minute - 0 < 0) := by omega
  have hhigh : ¬ ((t.hour : Int) * 60 + t.minute - 0 ≥ 1440) := by omega
  have hhour : ((t.hour : Int) * 60 + t.minute - 0).toNat / 60 = t.hour := by omega
  have hminute : ((t.hour : Int) * 60 + t.minute - 0).toNat % 60 = t.minute := by omega
  unfold ofOffset
  simp only [if_neg hlow, if_neg hhigh, hhour, hminute]

/-- **What is written is read back.** -/
theorem read?_write (valid : t.isValid = true) : read? t.write = some t := by
  obtain ⟨-, hmonth, hday, hhour, hminute, hsecond, hnanos⟩ := isValid_iff.mp valid
  have hlength := monthLength_le t.year t.month
  have htext : t.write.toList = writeYear t.year ++ '-' :: (padded 2 t.month ++ '-' ::
      (padded 2 t.day ++ 'T' :: (padded 2 t.hour ++ ':' :: (padded 2 t.minute ++ ':' ::
        (padded 2 t.second ++ (writeFraction t.nanos ++ ['Z'])))))) := by
    unfold write writeSeconds
    rw [String.toList_ofList]
    simp only [List.append_assoc, List.cons_append]
  have hmark : ∀ (c : Char) (r : List Char), c.isDigit = false → ∀ c' ∈ (c :: r).head?,
      c'.isDigit = false := by
    rintro c r hc _ ⟨⟩
    exact hc
  have hend : ∀ c ∈ (writeFraction t.nanos ++ ['Z']).head?, c.isDigit = false := by
    rcases writeFraction_cases hnanos with ⟨hnone, -⟩ | ⟨ds, hds, -⟩
    · rw [hnone]
      exact hmark 'Z' [] rfl
    · rw [hds]
      exact hmark '.' _ rfl
  have hyear := (congrArg readYear? htext).trans (readYear?_writeYear t.year)
  have hdash : ∀ r, readMark? '-' ('-' :: r) = some r := fun _ => rfl
  have hcolon : ∀ r, readMark? ':' (':' :: r) = some r := fun _ => rfl
  have hzone : readOffset? (Text.trimStart ['Z']) = some (0, []) := rfl
  refine Option.bind_eq_some_iff.mpr ⟨_, hyear, ?_⟩
  refine Option.bind_eq_some_iff.mpr ⟨_, hdash _, ?_⟩
  refine Option.bind_eq_some_iff.mpr
    ⟨_, readField?_padded hmonth.1 hmonth.2 (by omega) (hmark '-' _ rfl), ?_⟩
  refine Option.bind_eq_some_iff.mpr ⟨_, hdash _, ?_⟩
  refine Option.bind_eq_some_iff.mpr
    ⟨_, readField?_padded hday.1 (by omega) (by omega) (hmark 'T' _ rfl), ?_⟩
  refine (if_pos (.inr (.inl rfl))).trans (Option.bind_eq_some_iff.mpr ⟨_, rfl, ?_⟩)
  refine Option.bind_eq_some_iff.mpr
    ⟨_, readField?_padded (Nat.zero_le _) (by omega) (by omega) (hmark ':' _ rfl), ?_⟩
  refine Option.bind_eq_some_iff.mpr ⟨_, hcolon _, ?_⟩
  refine Option.bind_eq_some_iff.mpr
    ⟨_, readField?_padded (Nat.zero_le _) (by omega) (by omega) (hmark ':' _ rfl), ?_⟩
  refine Option.bind_eq_some_iff.mpr ⟨_, hcolon _, ?_⟩
  refine Option.bind_eq_some_iff.mpr
    ⟨_, readField?_padded (Nat.zero_le _) hsecond (by omega) hend, ?_⟩
  refine Option.bind_eq_some_iff.mpr ⟨_, readFraction?_writeFraction hnanos, ?_⟩
  refine Option.bind_eq_some_iff.mpr ⟨_, hzone, ?_⟩
  show (if ((Text.trimStart []).isEmpty && t.isValid && (t.ofOffset 0).isValid) = true
    then some (t.ofOffset 0) else none) = some t
  rw [ofOffset_zero hhour hminute, valid]
  rfl

/-- **What is read exists.** -/
theorem isValid_of_read? {text : String} (h : read? text = some t) : t.isValid = true := by
  obtain ⟨⟨year, r⟩, -, h⟩ := Option.bind_eq_some_iff.mp h
  obtain ⟨r, -, h⟩ := Option.bind_eq_some_iff.mp h
  obtain ⟨⟨month, r⟩, -, h⟩ := Option.bind_eq_some_iff.mp h
  obtain ⟨r, -, h⟩ := Option.bind_eq_some_iff.mp h
  obtain ⟨⟨day, r⟩, -, h⟩ := Option.bind_eq_some_iff.mp h
  -- between the date and the time stands one of three characters
  rcases r with _ | ⟨c, r⟩
  · obtain ⟨_, hnone, -⟩ := Option.bind_eq_some_iff.mp h
    cases hnone
  · by_cases hc : c = 't' ∨ c = 'T' ∨ c = ' '
    · obtain ⟨r, -, h⟩ := Option.bind_eq_some_iff.mp ((if_pos hc).symm.trans h)
      obtain ⟨⟨hour, r⟩, -, h⟩ := Option.bind_eq_some_iff.mp h
      obtain ⟨r, -, h⟩ := Option.bind_eq_some_iff.mp h
      obtain ⟨⟨minute, r⟩, -, h⟩ := Option.bind_eq_some_iff.mp h
      obtain ⟨r, -, h⟩ := Option.bind_eq_some_iff.mp h
      obtain ⟨⟨second, r⟩, -, h⟩ := Option.bind_eq_some_iff.mp h
      obtain ⟨⟨nanos, r⟩, -, h⟩ := Option.bind_eq_some_iff.mp h
      obtain ⟨⟨offset, r⟩, -, h⟩ := Option.bind_eq_some_iff.mp h
      -- the last check has been passed by the point in time that is returned
      obtain ⟨hcheck, hread⟩ := Option.ite_none_right_eq_some.mp h
      rw [← Option.some.inj hread]
      exact (Bool.and_eq_true_iff.mp hcheck).2
    · obtain ⟨_, hnone, -⟩ := Option.bind_eq_some_iff.mp ((if_neg hc).symm.trans h)
      cases hnone

end Healing.Timestamp
