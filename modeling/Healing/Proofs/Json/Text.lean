/-
  Compact texts are read back.

  The writer leaves nothing to guess: a number ends where a comma or a bracket follows, a string at
  the first quote that is not escaped, and no blanks are written.  So a value whose numbers are
  whole and fit 64 bits is read back from its compact text, if it is not nested too deep for the
  reader.

  1. **Values** - `Json.Whole` for the numbers, `Json.Bounded` for their range and the nesting.
  2. **Numbers** - `readNumber_toDigits`: all digits count, and none stands in front in vain.
  3. **Strings** - `readString_escape`: one step of the reader for each character written.
  4. **Containers** - `readItems_chars` and `readEntries_chars`, one item or field at a time.
  5. **Texts** - `Document.ofText_compress` and `Json.decode_compress`.
-/
import Healing.Json.Reader
import Healing.Proofs.Document
import Healing.Proofs.Text.Run

namespace Healing

namespace Json

/-! ## Values -/

/-- Every number is a whole number.  The reader makes such a number of an integer that fits 64 bits,
    and a floating-point number of any other number and of a negative zero. -/
inductive Whole : Json → Prop
  | null : Whole .null
  | bool (b : Bool) : Whole (.bool b)
  | int (n : Int) : Whole (.int n)
  | str (s : String) : Whole (.str s)
  | arr {items : List Json} (whole : ∀ j ∈ items, Whole j) : Whole (.arr items)
  | obj {fields : List (String × Json)} (whole : ∀ f ∈ fields, Whole f.2) : Whole (.obj fields)

/-- Whole numbers fit 64 bits, and at most so many containers lie inside one another. -/
inductive Bounded : Nat → Json → Prop
  | null (n : Nat) : Bounded n .null
  | bool (n : Nat) (b : Bool) : Bounded n (.bool b)
  | int (n : Nat) {i : Int} (low : -9_223_372_036_854_775_808 ≤ i)
    (high : i ≤ 18_446_744_073_709_551_615) : Bounded n (.int i)
  | float (n : Nat) (x : Binary64) : Bounded n (.float x)
  | str (n : Nat) (s : String) : Bounded n (.str s)
  | arr {n : Nat} {items : List Json} (bounded : ∀ j ∈ items, Bounded n j) :
    Bounded (n + 1) (.arr items)
  | obj {n : Nat} {fields : List (String × Json)} (bounded : ∀ f ∈ fields, Bounded n f.2) :
    Bounded (n + 1) (.obj fields)

/-! ## Numbers -/

/-- What may follow a value: nothing, or a comma or a closing bracket. -/
def Ends (rest : List Char) : Prop := ∀ c ∈ rest.head?, c = ',' ∨ c = ']' ∨ c = '\x7d'

/-- Digits only add to a number. -/
theorem le_ofDigitChars (cs : List Char) (n : Nat) : n ≤ Nat.ofDigitChars 10 cs n := by
  induction cs generalizing n with
  | nil => exact Nat.le_of_eq Nat.ofDigitChars_nil.symm
  | cons c r ih =>
    rw [Nat.ofDigitChars_cons]
    exact Nat.le_trans (by omega) (ih _)

/-- Digits are all significant as long as the number fits. -/
theorem takeSignificant_of_le (cs : List Char) {n : Nat}
    (h : Nat.ofDigitChars 10 cs n ≤ 18_446_744_073_709_551_615) :
    takeSignificant cs n = (Nat.ofDigitChars 10 cs n, 0) := by
  induction cs generalizing n with
  | nil => rw [takeSignificant, Nat.ofDigitChars_nil]
  | cons c r ih =>
    have hnext : 10 * n + (c.toNat - '0'.toNat) = n * 10 + (c.toNat - 48) := by
      rw [Nat.mul_comm]
      rfl
    rw [Nat.ofDigitChars_cons, hnext] at h ⊢
    rw [takeSignificant, if_pos (Nat.le_trans (le_ofDigitChars r _) h), ih h]

/-- Only zero is written with a zero in front. -/
theorem eq_zero_of_head?_toDigits {n : Nat} (h : (Nat.toDigits 10 n).head? = some '0') : n = 0 := by
  induction n using Nat.strongRecOn with
  | ind n ih =>
    rw [Nat.toDigits_eq_if (by decide)] at h
    split at h
    · exact Nat.digitChar_eq_zero.mp (Option.some.inj h)
    · -- all digits but the last are those of `n / 10`, and so is the first one
      have hfront : (Nat.toDigits 10 (n / 10)).head? = some '0' := by
        obtain ⟨c, r, hcons⟩ :=
          List.exists_cons_of_ne_nil (Nat.toDigits_ne_nil (n := n / 10) (b := 10))
        rw [hcons] at h ⊢
        exact h
      have hzero := ih (n / 10) (by omega) hfront
      omega

/-- Digits end where something else begins. -/
theorem digitsOr_append {e : ReadError} {ds rest : List Char} (hne : ds ≠ [])
    (hds : ∀ c ∈ ds, c.isDigit = true) (ends : Ends rest) :
    digitsOr e (ds ++ rest) = .ok (ds, rest) := by
  obtain ⟨htake, hdrop⟩ := Text.span_append hds fun c hc => by
    rcases ends c hc with rfl | rfl | rfl <;> decide
  unfold digitsOr
  rw [htake, hdrop]
  exact if_neg fun h => hne (List.isEmpty_iff.mp h)

/-- **The digits of a number are read as they were written.** -/
theorem readNumber_toDigits (negative : Bool) (n : Nat) {rest : List Char} (ends : Ends rest) :
    readNumber negative (Nat.toDigits 10 n ++ rest)
      = .ok (numberOf negative (Nat.toDigits 10 n) none none, rest) := by
  have hdigits : digitsOr .malformed (Nat.toDigits 10 n ++ rest)
      = .ok (Nat.toDigits 10 n, rest) :=
    digitsOr_append Nat.toDigits_ne_nil
      (fun _ hc => Nat.isDigit_of_mem_toDigits (by decide) (by decide) hc) ends
  have hfront : ¬ ((Nat.toDigits 10 n).head? = some '0' ∧ (Nat.toDigits 10 n).length > 1) := by
    rintro ⟨hzero, hlength⟩
    rw [eq_zero_of_head?_toDigits hzero, Nat.toDigits_zero] at hlength
    exact absurd hlength (by decide)
  unfold readNumber
  rw [hdigits]
  show (if _ then _ else _) = _
  rw [if_neg hfront]
  cases rest with
  | nil => rfl
  | cons c r => rcases ends c rfl with rfl | rfl | rfl <;> rfl

/-- A number that fits is the value of its digits. -/
theorem numberOf_toDigits {n : Nat} (h : n ≤ 18_446_744_073_709_551_615) :
    numberOf false (Nat.toDigits 10 n) none none = some (.int n) := by
  have htake := takeSignificant_of_le (Nat.toDigits 10 n) (n := 0)
    (by rw [Nat.ofDigitChars_ten_toDigits]; exact h)
  rw [Nat.ofDigitChars_ten_toDigits] at htake
  unfold numberOf
  rw [htake]
  rfl

/-- Behind a minus, a number that fits and is not zero is the negated value of its digits. -/
theorem numberOf_neg_toDigits {n : Nat} (hpos : n ≠ 0) (h : n ≤ 9_223_372_036_854_775_808) :
    numberOf true (Nat.toDigits 10 n) none none = some (.int (-(n : Int))) := by
  have htake := takeSignificant_of_le (Nat.toDigits 10 n) (n := 0)
    (by rw [Nat.ofDigitChars_ten_toDigits]; omega)
  rw [Nat.ofDigitChars_ten_toDigits] at htake
  have hfits : ¬ (n = 0 ∨ n > 9_223_372_036_854_775_808) := by omega
  unfold numberOf
  rw [htake]
  exact (if_neg (by decide)).trans (if_neg hfits)

/-! ## Strings -/

/-- The hexadecimal digits of a control character spell its number. -/
theorem ofDigits?_hexDigit :
    ∀ n < 32, Numeral.ofDigits? 16 ['0', '0', hexDigit (n / 16), hexDigit (n % 16)] = some n := by
  decide

/-- How a character is written: with an escape of its own, by its number, or as it is. -/
theorem escapeChar_cases (c : Char) :
    (∃ e, escapeChar c = ['\\', e] ∧ e ≠ 'u' ∧ simpleEscape? e = some c) ∨
    (c.toNat < 32 ∧ escapeChar c
      = ['\\', 'u', '0', '0', hexDigit (c.toNat / 16), hexDigit (c.toNat % 16)]) ∨
    (c ≠ '"' ∧ c ≠ '\\' ∧ ¬ c.toNat < 32 ∧ escapeChar c = [c]) := by
  have hofNat : ∀ {n : Nat}, c.toNat = n → c = Char.ofNat n := fun h => by
    rw [← h, Char.ofNat_toNat]
  unfold escapeChar
  by_cases hquote : c = '"'
  · rw [if_pos hquote, hquote]
    exact .inl ⟨'"', rfl, by decide, rfl⟩
  by_cases hbackslash : c = '\\'
  · rw [if_neg hquote, if_pos hbackslash, hbackslash]
    exact .inl ⟨'\\', rfl, by decide, rfl⟩
  rw [if_neg hquote, if_neg hbackslash]
  split
  · rename_i h
    exact .inl ⟨'n', rfl, by decide, congrArg some h.symm⟩
  split
  · rename_i h
    exact .inl ⟨'r', rfl, by decide, congrArg some h.symm⟩
  split
  · rename_i h
    exact .inl ⟨'t', rfl, by decide, congrArg some h.symm⟩
  split
  · rename_i h
    exact .inl ⟨'b', rfl, by decide, congrArg some (hofNat h).symm⟩
  split
  · rename_i h
    exact .inl ⟨'f', rfl, by decide, congrArg some (hofNat h).symm⟩
  split
  · rename_i h
    exact .inr (.inl ⟨h, rfl⟩)
  · rename_i h
    exact .inr (.inr ⟨hquote, hbackslash, h, rfl⟩)

/-- **One character.**  The reader takes a character as it was written. -/
theorem readString_escapeChar (fuel : Nat) (c : Char) (rest out : List Char) :
    readString (fuel + 1) (escapeChar c ++ rest) out true
      = readString fuel rest (c :: out) true := by
  rcases escapeChar_cases c with ⟨e, hc, hu, he⟩ | ⟨hsmall, hc⟩ | ⟨hquote, hbackslash, hlarge, hc⟩
  · rw [hc]
    show readString (fuel + 1) ('\\' :: e :: rest) out true = _
    rw [readString, he]
    exact hu
  · -- two zeros and two digits spell the number of the character, which is no half of a pair
    have hhex : readHex4 ('0' :: '0' :: hexDigit (c.toNat / 16) :: hexDigit (c.toNat % 16) :: rest)
        = .ok (c.toNat, rest) := by
      rw [readHex4, ofDigits?_hexDigit _ hsmall]
    have hhigh : ¬ (0xD800 ≤ c.toNat ∧ c.toNat < 0xDC00) := by omega
    have hlow : ¬ (0xDC00 ≤ c.toNat ∧ c.toNat < 0xE000) := by omega
    rw [hc]
    show readString (fuel + 1) ('\\' :: 'u' :: '0' :: '0' :: hexDigit (c.toNat / 16)
      :: hexDigit (c.toNat % 16) :: rest) out true = _
    rw [readString, hhex]
    show (if _ then _ else _) = _
    rw [if_neg hhigh, if_neg hlow, Char.ofNat_toNat]
  · rw [hc]
    show readString (fuel + 1) (c :: rest) out true = _
    rw [readString, if_neg hlarge]
    · exact hquote
    · exact fun h _ => hbackslash h
    · exact fun _ h _ => hbackslash h
    · exact fun _ _ h _ => hbackslash h

/-- Every character takes its place. -/
theorem length_le_length_escape (cs : List Char) : cs.length ≤ (cs.flatMap escapeChar).length := by
  induction cs with
  | nil => exact Nat.le_refl _
  | cons c r ih =>
    have hpos : 0 < (escapeChar c).length := by
      rcases escapeChar_cases c with ⟨e, hc, -⟩ | ⟨-, hc⟩ | ⟨-, -, -, hc⟩
      all_goals
        rw [hc]
        exact Nat.succ_pos _
    rw [List.flatMap_cons, List.length_append, List.length_cons]
    omega

/-- The characters of a string are read up to its closing quote. -/
theorem readString_escape (cs : List Char) :
    ∀ {fuel : Nat} (rest out : List Char), cs.length < fuel →
      readString fuel (cs.flatMap escapeChar ++ '"' :: rest) out true
        = .ok (some (String.ofList (out.reverse ++ cs)), rest) := by
  induction cs with
  | nil =>
    intro fuel rest out hfuel
    obtain ⟨fuel, rfl⟩ := Nat.exists_eq_add_of_lt hfuel
    rw [List.append_nil]
    rfl
  | cons c r ih =>
    intro fuel rest out hfuel
    obtain ⟨fuel, rfl⟩ : ∃ n, fuel = n + 1 := ⟨fuel - 1, by omega⟩
    rw [List.flatMap_cons, List.append_assoc, readString_escapeChar,
      ih rest (c :: out) (by rw [List.length_cons] at hfuel; omega), List.reverse_cons,
      List.append_assoc]
    rfl

/-- **A text is read from between its quotes.** -/
theorem readString_quote (s : String) (rest : List Char) :
    readString ((s.toList.flatMap escapeChar ++ '"' :: rest).length + 1)
      (s.toList.flatMap escapeChar ++ '"' :: rest) [] true = .ok (some s, rest) := by
  have hlength := length_le_length_escape s.toList
  rw [readString_escape s.toList rest [] (by rw [List.length_append]; omega)]
  show Except.ok (some (String.ofList s.toList), rest) = _
  rw [String.ofList_toList]

/-! ## Scalars -/

/-- A text begins with something that is neither a blank nor a closing bracket. -/
def Begins (cs : List Char) : Prop := skipBlanks cs = cs ∧ ∃ c r, cs = c :: r ∧ c ≠ ']'

/-- A digit is not a blank. -/
theorem skipBlanks_digit {c : Char} (hc : c.isDigit = true) (r : List Char) :
    skipBlanks (c :: r) = c :: r := by
  refine List.dropWhile_cons_of_neg fun h => ?_
  rcases of_decide_eq_true h with rfl | rfl | rfl | rfl <;> exact absurd hc (by decide)

/-- A value that begins with a digit is a number. -/
theorem readValue_digit (fuel depth : Nat) {c : Char} (hc : c.isDigit = true) {r rest : List Char}
    {n : Option Json} (h : readNumber false (c :: r) = .ok (n, rest)) :
    readValue (fuel + 1) depth (c :: r) = (.number n, rest) := by
  rw [readValue, skipBlanks_digit hc]
  split
  case h_9 heq =>
    cases heq
    rw [if_pos hc, h]
  -- no digit is one of the marks that the reader knows
  all_goals
    rename_i heq
    cases heq
  all_goals exact absurd hc (by decide)

/-- A value that begins with a minus is a number. -/
theorem readValue_minus (fuel depth : Nat) {r rest : List Char} {n : Option Json}
    (h : readNumber true r = .ok (n, rest)) :
    readValue (fuel + 1) depth ('-' :: r) = (.number n, rest) := by
  have hskip : skipBlanks ('-' :: r) = '-' :: r := rfl
  rw [readValue]
  simp only [hskip, h]

/-- A value that begins with a quote is a string. -/
theorem readValue_quote (fuel depth : Nat) {r rest : List Char} {s : Option String}
    (h : readString (r.length + 1) r [] true = .ok (s, rest)) :
    readValue (fuel + 1) depth ('"' :: r) = (.string s, rest) := by
  have hskip : skipBlanks ('"' :: r) = '"' :: r := rfl
  rw [readValue]
  simp only [hskip, h]

/-- A natural number is written with its digits. -/
theorem toList_toString_ofNat (n : Nat) : (toString (Int.ofNat n)).toList = Nat.toDigits 10 n := by
  show (toString n).toList = _
  rw [Nat.toString_eq_ofList_toDigits, String.toList_ofList]

/-- A negative number is written with a minus and the digits of its absolute value. -/
theorem toList_toString_negSucc (n : Nat) :
    (toString (Int.negSucc n)).toList = '-' :: Nat.toDigits 10 (n + 1) := by
  have htext : (toString (Int.negSucc n)).toList = '-' :: (toString (n + 1)).toList := by
    show ("-" ++ toString (n + 1)).toList = _
    rw [String.toList_append]
    rfl
  rw [htext, Nat.toString_eq_ofList_toDigits, String.toList_ofList]

/-- The first digit of a number. -/
theorem exists_toDigits_eq_cons (n : Nat) :
    ∃ c r, Nat.toDigits 10 n = c :: r ∧ c.isDigit = true := by
  obtain ⟨c, r, hcons⟩ := List.exists_cons_of_ne_nil (Nat.toDigits_ne_nil (n := n) (b := 10))
  have hmem : c ∈ Nat.toDigits 10 n := by
    rw [hcons]
    exact List.mem_cons_self
  exact ⟨c, r, hcons, Nat.isDigit_of_mem_toDigits (by decide) (by decide) hmem⟩

/-- No value begins with a blank or with a closing bracket. -/
theorem begins_chars {j : Json} (whole : j.Whole) (rest : List Char) :
    Begins (j.chars ++ rest) := by
  cases whole with
  | null => exact ⟨rfl, _, _, rfl, by decide⟩
  | bool b => cases b <;> exact ⟨rfl, _, _, rfl, by decide⟩
  | int n =>
    cases n with
    | ofNat n =>
      obtain ⟨c, r, hcons, hc⟩ := exists_toDigits_eq_cons n
      rw [chars, toList_toString_ofNat, hcons]
      refine ⟨skipBlanks_digit hc _, c, _, rfl, ?_⟩
      rintro rfl
      exact absurd hc (by decide)
    | negSucc n =>
      rw [chars, toList_toString_negSucc]
      exact ⟨rfl, _, _, rfl, by decide⟩
  | str s => exact ⟨rfl, _, _, rfl, by decide⟩
  | arr _ => exact ⟨rfl, _, _, rfl, by decide⟩
  | obj _ => exact ⟨rfl, _, _, rfl, by decide⟩

/-- A value has characters. -/
theorem length_chars_pos {j : Json} (whole : j.Whole) : 0 < j.chars.length := by
  obtain ⟨-, c, r, hcons, -⟩ := begins_chars whole []
  rw [List.append_nil] at hcons
  rw [hcons]
  exact Nat.succ_pos _

/-- A value is read back where at most so many containers may lie inside one another: from its
    characters, whatever it may end with, and with as much fuel as there are characters. -/
structure ReadBack (n : Nat) (j : Json) : Prop where
  whole : j.Whole
  read : ∀ (fuel depth : Nat) (rest : List Char), depth + n ≤ maxDepth → j.chars.length ≤ fuel →
    Ends rest → readValue fuel depth (j.chars ++ rest) = (Document.ofJson j, rest)

/-- A value is read back if it is read back with some fuel left for what is in it. -/
theorem ReadBack.of_succ {n : Nat} {j : Json} (whole : j.Whole)
    (h : ∀ {fuel depth : Nat} (rest : List Char), depth + n ≤ maxDepth →
      j.chars.length ≤ fuel + 1 → Ends rest →
        readValue (fuel + 1) depth (j.chars ++ rest) = (Document.ofJson j, rest)) :
    ReadBack n j := by
  refine ⟨whole, ?_⟩
  intro fuel depth rest hdepth hfuel ends
  have hpos := length_chars_pos whole
  obtain ⟨fuel, rfl⟩ : ∃ k, fuel = k + 1 := ⟨fuel - 1, by omega⟩
  exact h rest hdepth hfuel ends

/-- A whole number that fits is read back. -/
theorem readBack_int (n : Nat) {i : Int} (low : -9_223_372_036_854_775_808 ≤ i)
    (high : i ≤ 18_446_744_073_709_551_615) : ReadBack n (.int i) := by
  refine ReadBack.of_succ (.int i) fun {fuel depth} rest _ _ ends => ?_
  rw [chars]
  cases i with
  | ofNat m =>
    obtain ⟨c, r, hcons, hc⟩ := exists_toDigits_eq_cons m
    have hread := readNumber_toDigits false m ends
    rw [numberOf_toDigits (Int.ofNat_le.mp high)] at hread
    rw [toList_toString_ofNat]
    rw [hcons] at hread ⊢
    exact readValue_digit fuel depth hc hread
  | negSucc m =>
    have hread := readNumber_toDigits true (m + 1) ends
    rw [numberOf_neg_toDigits (Nat.succ_ne_zero m) (by omega)] at hread
    rw [toList_toString_negSucc]
    exact readValue_minus fuel depth hread

/-- A text is read back. -/
theorem readBack_str (n : Nat) (s : String) : ReadBack n (.str s) := by
  refine ReadBack.of_succ (.str s) fun {fuel depth} rest _ _ _ => ?_
  have hchars : (Json.str s).chars ++ rest
      = '"' :: (s.toList.flatMap escapeChar ++ '"' :: rest) := by
    rw [chars, quote, List.cons_append, List.append_assoc]
    rfl
  rw [hchars]
  exact readValue_quote fuel depth (readString_quote s rest)

/-! ## Containers -/

/-- The items behind the first one, each behind a comma. -/
def itemTail : List Json → List Char
  | [] => []
  | j :: r => ',' :: itemChars (j :: r)

/-- Items are the first one and a tail. -/
theorem itemChars_cons (j : Json) (r : List Json) : itemChars (j :: r) = j.chars ++ itemTail r := by
  cases r with
  | nil => rw [itemChars, itemTail, List.append_nil]
  | cons i r => rfl

/-- The fields behind the first one, each behind a comma. -/
def fieldTail : List (String × Json) → List Char
  | [] => []
  | f :: r => ',' :: fieldChars (f :: r)

/-- Fields are the first one and a tail. -/
theorem fieldChars_cons (k : String) (j : Json) (r : List (String × Json)) :
    fieldChars ((k, j) :: r) = quote k ++ ':' :: (j.chars ++ fieldTail r) := by
  cases r with
  | nil => rw [fieldChars, fieldTail, List.append_nil]
  | cons f r => rfl

/-- An item may end where the next one or the end of the array follows. -/
theorem ends_itemTail (items : List Json) (rest : List Char) :
    Ends (itemTail items ++ ']' :: rest) := by
  cases items with
  | nil =>
    rintro c ⟨⟩
    exact .inr (.inl rfl)
  | cons j r =>
    rintro c ⟨⟩
    exact .inl rfl

/-- A field may end where the next one or the end of the object follows. -/
theorem ends_fieldTail (fields : List (String × Json)) (rest : List Char) :
    Ends (fieldTail fields ++ '\x7d' :: rest) := by
  cases fields with
  | nil =>
    rintro c ⟨⟩
    exact .inr (.inr rfl)
  | cons f r =>
    rintro c ⟨⟩
    exact .inl rfl

/-- What is read of the items of an array when an item is put in front. -/
def consItem {α : Type} (a : α) (p : List α × Option ReadError × List Char) :
    List α × Option ReadError × List Char :=
  (a :: p.1, p.2.1, p.2.2)

/-- **One item.**  The first item stands alone, any other behind a comma. -/
theorem readItems_item (fuel depth : Nat) {j : Json} {tail : List Char}
    (begins : Begins (j.chars ++ tail))
    (h : readValue fuel depth (j.chars ++ tail) = (Document.ofJson j, tail)) :
    readItems (fuel + 1) depth true (j.chars ++ tail)
        = consItem (Document.ofJson j) (readItems fuel depth false tail) ∧
      readItems (fuel + 1) depth false (',' :: (j.chars ++ tail))
        = consItem (Document.ofJson j) (readItems fuel depth false tail) := by
  obtain ⟨hskip, c, r, hcons, hc⟩ := begins
  rw [hcons] at hskip h ⊢
  -- the reader looks for the closing bracket first, which `c` is not
  constructor
  · rw [readItems, hskip]
    split
    case h_1 heq => cases heq
    case h_2 heq =>
      cases heq
      exact absurd rfl hc
    case h_3 heq =>
      cases heq
      rw [if_pos rfl]
      dsimp only
      rw [h]
      cases j <;> rfl
  · have hclosing : ¬ (!false && (skipBlanks (c :: r)).head? == some ']') = true := by
      rw [hskip]
      exact fun hhead => hc (Option.some.inj (beq_iff_eq.mp hhead))
    show (if (!false && (skipBlanks (c :: r)).head? == some ']') = true then _ else _) = _
    rw [if_neg hclosing, h]
    cases j <;> rfl

/-- **One field.**  The first field stands alone, any other behind a comma. -/
theorem readEntries_field (fuel depth : Nat) (k : String) {j : Json} {tail : List Char}
    (h : readValue fuel depth (j.chars ++ tail) = (Document.ofJson j, tail)) :
    readEntries (fuel + 1) depth true (quote k ++ ':' :: (j.chars ++ tail))
        = consItem (.string (some k), Document.ofJson j) (readEntries fuel depth false tail) ∧
      readEntries (fuel + 1) depth false (',' :: (quote k ++ ':' :: (j.chars ++ tail)))
        = consItem (.string (some k), Document.ofJson j) (readEntries fuel depth false tail) := by
  have hquote : quote k ++ ':' :: (j.chars ++ tail)
      = '"' :: (k.toList.flatMap escapeChar ++ '"' :: ':' :: (j.chars ++ tail)) := by
    rw [quote, List.cons_append, List.append_assoc]
    rfl
  have hkey := readString_quote k (':' :: (j.chars ++ tail))
  have hcolon : skipBlanks (':' :: (j.chars ++ tail)) = ':' :: (j.chars ++ tail) := rfl
  rw [hquote]
  generalize k.toList.flatMap escapeChar ++ '"' :: ':' :: (j.chars ++ tail) = cs at hkey
  -- with and without a comma, the reader goes on at the opening quote
  have hopening : skipBlanks ('"' :: cs) = '"' :: cs := rfl
  have hcomma : skipBlanks (',' :: '"' :: cs) = ',' :: '"' :: cs := rfl
  constructor
  · rw [readEntries, hopening]
    split
    case h_1 heq => cases heq
    case h_2 heq => exact absurd (List.cons.inj heq).1 (by decide)
    case h_3 heq =>
      cases heq
      simp only [if_true, hkey, hcolon, h]
      cases j <;> rfl
  · rw [readEntries, hcomma]
    split
    case h_1 heq => cases heq
    case h_2 heq => exact absurd (List.cons.inj heq).1 (by decide)
    case h_3 heq =>
      cases heq
      simp only [Bool.false_eq_true, if_false, if_true, hopening, hkey, hcolon, h]
      cases j <;> rfl

/-- Items that are read back one by one are read back up to the closing bracket. -/
theorem readItems_itemTail {items : List Json} {n depth : Nat} (hdepth : depth + n ≤ maxDepth)
    (back : ∀ j ∈ items, ReadBack n j) (rest : List Char) :
    ∀ {fuel : Nat}, (itemTail items).length < fuel →
      readItems fuel depth false (itemTail items ++ ']' :: rest)
        = (Document.ofItems items, none, rest) := by
  induction items with
  | nil =>
    intro fuel hfuel
    obtain ⟨fuel, rfl⟩ := Nat.exists_eq_add_of_lt hfuel
    rfl
  | cons j r ih =>
    intro fuel hfuel
    obtain ⟨fuel, rfl⟩ : ∃ k, fuel = k + 1 := ⟨fuel - 1, by omega⟩
    obtain ⟨hj, hr⟩ := List.forall_mem_cons.mp back
    -- the item has a character at least, which pays for the fuel that it takes
    have hpos := length_chars_pos hj.whole
    rw [itemTail, itemChars_cons, List.length_cons, List.length_append] at hfuel
    rw [itemTail, itemChars_cons, List.cons_append, List.append_assoc]
    have hread := hj.read fuel depth _ hdepth (by omega) (ends_itemTail r rest)
    rw [(readItems_item fuel depth (begins_chars hj.whole _) hread).2, ih hr (by omega)]
    rfl

/-- **Items.**  They are read back up to the closing bracket. -/
theorem readItems_chars {items : List Json} {n depth : Nat} (hdepth : depth + n ≤ maxDepth)
    (back : ∀ j ∈ items, ReadBack n j) (rest : List Char) {fuel : Nat}
    (hfuel : (itemChars items).length < fuel) :
    readItems fuel depth true (itemChars items ++ ']' :: rest)
      = (Document.ofItems items, none, rest) := by
  obtain ⟨fuel, rfl⟩ : ∃ k, fuel = k + 1 := ⟨fuel - 1, by omega⟩
  cases items with
  | nil => rfl
  | cons j r =>
    obtain ⟨hj, hr⟩ := List.forall_mem_cons.mp back
    have hpos := length_chars_pos hj.whole
    rw [itemChars_cons, List.length_append] at hfuel
    rw [itemChars_cons, List.append_assoc]
    have hread := hj.read fuel depth _ hdepth (by omega) (ends_itemTail r rest)
    rw [(readItems_item fuel depth (begins_chars hj.whole _) hread).1,
      readItems_itemTail hdepth hr rest (by omega)]
    rfl

/-- Fields that are read back one by one are read back up to the closing brace. -/
theorem readEntries_fieldTail {fields : List (String × Json)} {n depth : Nat}
    (hdepth : depth + n ≤ maxDepth) (back : ∀ f ∈ fields, ReadBack n f.2) (rest : List Char) :
    ∀ {fuel : Nat}, (fieldTail fields).length < fuel →
      readEntries fuel depth false (fieldTail fields ++ '\x7d' :: rest)
        = (Document.ofFields fields, none, rest) := by
  induction fields with
  | nil =>
    intro fuel hfuel
    obtain ⟨fuel, rfl⟩ := Nat.exists_eq_add_of_lt hfuel
    rfl
  | cons f r ih =>
    intro fuel hfuel
    obtain ⟨fuel, rfl⟩ : ∃ k, fuel = k + 1 := ⟨fuel - 1, by omega⟩
    obtain ⟨hf, hr⟩ := List.forall_mem_cons.mp back
    rw [fieldTail, fieldChars_cons] at hfuel
    simp only [List.length_cons, List.length_append] at hfuel
    rw [fieldTail, fieldChars_cons, List.cons_append, List.append_assoc, List.cons_append,
      List.append_assoc]
    have hread := hf.read fuel depth _ hdepth (by omega) (ends_fieldTail r rest)
    rw [(readEntries_field fuel depth f.1 hread).2, ih hr (by omega)]
    rfl

/-- **Fields.**  They are read back up to the closing brace. -/
theorem readEntries_chars {fields : List (String × Json)} {n depth : Nat}
    (hdepth : depth + n ≤ maxDepth) (back : ∀ f ∈ fields, ReadBack n f.2) (rest : List Char)
    {fuel : Nat} (hfuel : (fieldChars fields).length < fuel) :
    readEntries fuel depth true (fieldChars fields ++ '\x7d' :: rest)
      = (Document.ofFields fields, none, rest) := by
  obtain ⟨fuel, rfl⟩ : ∃ k, fuel = k + 1 := ⟨fuel - 1, by omega⟩
  cases fields with
  | nil => rfl
  | cons f r =>
    obtain ⟨hf, hr⟩ := List.forall_mem_cons.mp back
    rw [fieldChars_cons] at hfuel
    simp only [List.length_cons, List.length_append] at hfuel
    rw [fieldChars_cons, List.append_assoc, List.cons_append, List.append_assoc]
    have hread := hf.read fuel depth _ hdepth (by omega) (ends_fieldTail r rest)
    rw [(readEntries_field fuel depth f.1 hread).1,
      readEntries_fieldTail hdepth hr rest (by omega)]
    rfl

/-- **Values.**  A value whose numbers are whole and fit is read back, if it is not nested too
    deep. -/
theorem readBack {j : Json} (whole : j.Whole) : ∀ {n : Nat}, j.Bounded n → ReadBack n j := by
  induction whole with
  | null =>
    intro n _
    exact ReadBack.of_succ .null fun _ _ _ _ => rfl
  | bool b =>
    intro n _
    refine ReadBack.of_succ (.bool b) fun _ _ _ _ => ?_
    cases b <;> rfl
  | int i =>
    intro n bounded
    cases bounded with
    | int _ low high => exact readBack_int n low high
  | str s =>
    intro n _
    exact readBack_str n s
  | @arr items whole ih =>
    intro n bounded
    cases bounded with
    | @arr n _ bounded =>
      refine ReadBack.of_succ (.arr whole) fun {fuel depth} rest hdepth hfuel _ => ?_
      have hback : ∀ j ∈ items, ReadBack n j := fun j hj => ih j hj (bounded j hj)
      rw [chars, List.length_cons, List.length_append, List.length_singleton] at hfuel
      rw [chars, List.cons_append, List.append_assoc]
      show (let p := readItems fuel (depth + 1) true (itemChars items ++ ']' :: rest)
        (markDeep (depth + 1) (.list p.1 p.2.1), p.2.2)) = _
      rw [readItems_chars (by omega) hback rest (by omega)]
      exact congrArg (·, rest) (if_neg (by omega))
  | @obj fields whole ih =>
    intro n bounded
    cases bounded with
    | @obj n _ bounded =>
      refine ReadBack.of_succ (.obj whole) fun {fuel depth} rest hdepth hfuel _ => ?_
      have hback : ∀ f ∈ fields, ReadBack n f.2 := fun f hf => ih f hf (bounded f hf)
      rw [chars, List.length_cons, List.length_append, List.length_singleton] at hfuel
      rw [chars, List.cons_append, List.append_assoc]
      show (let p := readEntries fuel (depth + 1) true (fieldChars fields ++ '\x7d' :: rest)
        (markDeep (depth + 1) (.map p.1 p.2.1), p.2.2)) = _
      rw [readEntries_chars (by omega) hback rest (by omega)]
      exact congrArg (·, rest) (if_neg (by omega))

end Json

/-! ## Texts -/

/-- **The compact text of a value spells out the value**, and nothing stands behind it. -/
theorem Document.ofText_compress {j : Json} (whole : j.Whole) (bounded : j.Bounded Json.maxDepth) :
    Document.ofText j.compress = (Document.ofJson j, none) := by
  have hread := (Json.readBack whole bounded).read (j.chars.length + 1) 0 []
    (by omega) (by omega) nofun
  rw [List.append_nil] at hread
  unfold Document.ofText Json.compress
  rw [String.toList_ofList]
  dsimp only
  rw [hread]
  cases j <;> rfl

/-- Reading the compact text of a value is reading the document of the value. -/
theorem Json.decode_compress {α : Type} (read : Document → Except ReadError α) {j : Json}
    (whole : j.Whole) (bounded : j.Bounded Json.maxDepth) :
    Json.decode read j.compress = read (Document.ofJson j) := by
  unfold Json.decode
  rw [Document.ofText_compress whole bounded]
  show (read (Document.ofJson j) >>= fun a => Except.ok a) = _
  cases read (Document.ofJson j) <;> rfl

end Healing
