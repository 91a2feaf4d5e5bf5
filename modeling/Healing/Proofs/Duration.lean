/-
  The texts of durations.

  A duration is written as terms one behind the other, each a decimal number with a unit.  The
  reader takes all it can for a number and then all it can for a unit, up to the next digit or
  point.  As a unit has neither of them, and a number has nothing else, this finds the terms and
  nothing but them: the spelling of terms is put together and taken apart in one way only.

  1. **Spellings** - `DurationUnit.spellings`, `Number`, `Term.Spelled` and `Spelled`.
  2. **Characters** - no spelling has a blank in it, and each begins with a digit or a point.
  3. **Reading** - `splitNumber?_eq_some_iff`, `nextTerm?_eq_some_iff`, `terms?_eq_some_iff`: each
     reader takes exactly the spellings.
  4. **Sums** - `ofTerms?_eq_some_iff`; `ofTerms?_eq_saturated`: nothing is lost if the sum is kept
     within 128 bits.
  5. **Durations** - `Spells`, and `Duration.read_exact`.
-/
import Healing.Duration
import Healing.Proofs.Text.Run
import Mathlib.Algebra.GroupWithZero.Nat
import Mathlib.Logic.IsEmpty.Defs

namespace Healing

/-! ## Spellings -/

/-- The texts that spell a unit; for a millionth there are two Greek letters and a Latin one. -/
def DurationUnit.spellings : DurationUnit → List (List Char)
  | .nanosecond => [['n', 's']]
  | .microsecond => [['u', 's'], ['\u00b5', 's'], ['\u03bc', 's']]
  | .millisecond => [['m', 's']]
  | .second => [['s']]
  | .minute => [['m']]
  | .hour => [['h']]

namespace Duration

/-- A number as it is written: digits with at most one point among them, and at least one digit. -/
inductive Number : List Char → List Char → List Char → Prop
  | whole {ds : List Char} (digits : ∀ c ∈ ds, c.isDigit = true) (some : ds ≠ []) : Number ds [] ds
  | decimal {whole fraction : List Char} (digits : ∀ c ∈ whole ++ fraction, c.isDigit = true)
    (some : whole ++ fraction ≠ []) : Number whole fraction (whole ++ '.' :: fraction)

/-- A term as it is written: a number and a unit with nothing in between. -/
def Term.Spelled (t : Term) (cs : List Char) : Prop :=
  ∃ number unit, Number t.whole t.fraction number ∧ unit ∈ t.unit.spellings ∧ cs = number ++ unit

/-- Terms as they are written, one behind the other. -/
inductive Spelled : List Term → List Char → Prop
  | nil : Spelled [] []
  | cons {t : Term} {ts : List Term} {cs r : List Char} (first : t.Spelled cs)
    (others : Spelled ts r) : Spelled (t :: ts) (cs ++ r)

/-! ## Characters -/

/-- The characters of a unit are neither blanks nor characters of a number. -/
theorem of_mem_spellings {u : DurationUnit} {unit : List Char} (h : unit ∈ u.spellings) :
    unit ≠ [] ∧ ∀ c ∈ unit, isNumberChar c = false ∧ Text.isBlank c = false := by
  have hall : u.spellings.all (fun unit => !unit.isEmpty &&
      unit.all fun c => !isNumberChar c && !Text.isBlank c) = true := by
    cases u <;> decide
  have hunit := List.all_eq_true.mp hall unit h
  simpa only [Bool.and_eq_true, Bool.not_eq_true', List.all_eq_true, List.isEmpty_eq_false_iff]
    using hunit

namespace Number

variable {whole fraction number : List Char}

/-- A number has no other characters than digits and a point. -/
theorem isNumberChar_of_mem (h : Number whole fraction number) :
    ∀ c ∈ number, isNumberChar c = true := by
  cases h with
  | whole digits _ =>
    intro c hc
    simp [isNumberChar, digits c hc]
  | decimal digits _ =>
    intro c hc
    rcases List.mem_append.mp hc with hc | hc
    · simp [isNumberChar, digits c (List.mem_append_left _ hc)]
    · rcases List.mem_cons.mp hc with rfl | hc
      · rfl
      · simp [isNumberChar, digits c (List.mem_append_right _ hc)]

/-- A number has characters. -/
theorem ne_nil (h : Number whole fraction number) : number ≠ [] := by
  cases h with
  | whole _ some => exact some
  | decimal _ _ => exact List.append_ne_nil_of_right_ne_nil _ (List.cons_ne_nil _ _)

end Number

/-- A character of a number is no blank. -/
theorem isBlank_of_isNumberChar {c : Char} (h : isNumberChar c = true) : Text.isBlank c = false := by
  rcases Bool.or_eq_true_iff.mp h with h | h
  · exact Text.isBlank_of_isDigit h
  · rw [of_decide_eq_true h]
    rfl

namespace Spelled

variable {ts us : List Term} {cs ds : List Char}

/-- No terms take no characters. -/
theorem eq_nil (h : Spelled [] cs) : cs = [] := by
  cases h
  rfl

/-- Terms are written one behind the other, however they are grouped. -/
theorem append (h : Spelled ts cs) (h' : Spelled us ds) : Spelled (ts ++ us) (cs ++ ds) := by
  induction h with
  | nil => exact h'
  | cons first _ ih =>
    rw [List.append_assoc]
    exact .cons first ih

/-- A term begins with its number. -/
theorem head (h : Spelled ts cs) : ∀ c ∈ cs.head?, isNumberChar c = true := by
  cases h with
  | nil => exact nofun
  | cons first _ =>
    obtain ⟨number, unit, hnumber, -, rfl⟩ := first
    obtain ⟨d, more, rfl⟩ := List.exists_cons_of_ne_nil hnumber.ne_nil
    rintro c ⟨⟩
    exact hnumber.isNumberChar_of_mem d List.mem_cons_self

/-- There are no blanks in the spelling of terms. -/
theorem not_blank (h : Spelled ts cs) : ∀ c ∈ cs, Text.isBlank c = false := by
  induction h with
  | nil => exact nofun
  | cons first _ ih =>
    obtain ⟨number, unit, hnumber, hunit, rfl⟩ := first
    refine List.forall_mem_append.mpr ⟨List.forall_mem_append.mpr ⟨?_, ?_⟩, ih⟩
    · exact fun c hc => isBlank_of_isNumberChar (hnumber.isNumberChar_of_mem c hc)
    · exact fun c hc => ((of_mem_spellings hunit).2 c hc).2

/-- Terms take more than one character: there is a number and a unit. -/
theorem two_le_length (h : Spelled ts cs) (hne : ts ≠ []) : 2 ≤ cs.length := by
  cases h with
  | nil => exact absurd rfl hne
  | cons first _ =>
    obtain ⟨number, unit, hnumber, hunit, rfl⟩ := first
    have hnumber := List.length_pos_iff.mpr hnumber.ne_nil
    have hunit := List.length_pos_iff.mpr (of_mem_spellings hunit).1
    simp only [List.length_append]
    omega

end Spelled

/-! ## Reading -/

/-- A unit is read from its spellings. -/
theorem ofText?_eq_some_iff {cs : List Char} {u : DurationUnit} :
    DurationUnit.ofText? cs = some u ↔ cs ∈ u.spellings := by
  constructor
  · intro h
    unfold DurationUnit.ofText? at h
    split at h <;> cases h <;> decide
  · cases u <;> simp only [DurationUnit.spellings, List.mem_cons, List.not_mem_nil, or_false]
    case microsecond => rintro (rfl | rfl | rfl) <;> rfl
    all_goals
      rintro rfl
      rfl

/-- **A number is read from its spelling.** -/
theorem splitNumber?_eq_some_iff {cs whole fraction : List Char}
    (hcs : ∀ c ∈ cs, isNumberChar c = true) :
    splitNumber? cs = some (whole, fraction) ↔ Number whole fraction cs := by
  have hdigits : ∀ c ∈ cs.takeWhile Char.isDigit, c.isDigit = true :=
    List.all_eq_true.mp List.all_takeWhile
  have hparts : cs.takeWhile Char.isDigit ++ cs.dropWhile Char.isDigit = cs :=
    List.takeWhile_append_dropWhile
  constructor
  · intro h
    unfold splitNumber? at h
    dsimp only at h
    cases hrest : cs.dropWhile Char.isDigit with
    | nil =>
      rw [hrest] at h hparts
      obtain ⟨hsome, h⟩ := Option.ite_none_left_eq_some.mp h
      cases h
      rw [List.append_nil] at hparts
      rw [hparts] at hsome hdigits ⊢
      exact .whole hdigits fun hnil => hsome (List.isEmpty_iff.mpr hnil)
    | cons point rest =>
      -- what stops the digits is a character of a number, so it is the point
      have hpoint : point = '.' := by
        have hmem : point ∈ cs := by
          rw [← hparts, hrest]
          exact List.mem_append_right _ List.mem_cons_self
        have hstop : point.isDigit = false := by
          have hhead := List.head?_dropWhile_not Char.isDigit cs
          rw [hrest] at hhead
          exact hhead
        rcases (Bool.or_eq_true ..).mp (hcs point hmem) with hdigit | hdot
        · exact absurd (hstop.symm.trans hdigit) nofun
        · exact of_decide_eq_true hdot
      rw [hrest] at h hparts
      obtain ⟨hfraction, h⟩ := Option.ite_none_right_eq_some.mp h
      cases h
      rw [Bool.and_eq_true, List.all_eq_true] at hfraction
      have hnumber := Number.decimal (List.forall_mem_append.mpr ⟨hdigits, hfraction.1⟩) fun hnil => by
        obtain ⟨hwhole, hrest⟩ := List.append_eq_nil_iff.mp hnil
        simp [hwhole, hrest] at hfraction
      rw [hpoint] at hparts
      rwa [hparts] at hnumber
  · intro h
    cases h with
    | whole digits some =>
      obtain ⟨htake, hdrop⟩ := Text.span_append (r := []) digits nofun
      rw [List.append_nil] at htake hdrop
      unfold splitNumber?
      rw [htake, hdrop]
      exact if_neg (by simpa using some)
    | decimal digits some =>
      obtain ⟨hwhole, hfraction⟩ := List.forall_mem_append.mp digits
      obtain ⟨htake, hdrop⟩ := Text.span_append (r := '.' :: fraction) hwhole
        (by rintro c ⟨⟩; rfl)
      unfold splitNumber?
      rw [htake, hdrop]
      refine if_pos ?_
      rw [Bool.and_eq_true, List.all_eq_true]
      refine ⟨hfraction, ?_⟩
      cases whole <;> cases fraction <;> simp at some ⊢

/-- **A term is read from its spelling**, up to a character that begins another one. -/
theorem nextTerm?_eq_some_iff {cs r : List Char} {t : Term} :
    nextTerm? cs = some (t, r) ↔
      ∃ w, t.Spelled w ∧ cs = w ++ r ∧ ∀ c ∈ r.head?, isNumberChar c = true := by
  have hnumber : ∀ c ∈ cs.takeWhile isNumberChar, isNumberChar c = true :=
    List.all_eq_true.mp List.all_takeWhile
  unfold nextTerm?
  simp only [Option.bind_eq_bind, Option.bind_eq_some_iff]
  constructor
  · rintro ⟨⟨whole, fraction⟩, hsplit, unit, hunit, h⟩
    cases h
    refine ⟨_, ⟨_, _, (splitNumber?_eq_some_iff hnumber).mp hsplit,
      ofText?_eq_some_iff.mp hunit, rfl⟩, ?_, ?_⟩
    · rw [List.append_assoc, List.takeWhile_append_dropWhile, List.takeWhile_append_dropWhile]
    · intro c hc
      have hhead := List.head?_dropWhile_not (fun c => !isNumberChar c) (cs.dropWhile isNumberChar)
      rw [Option.mem_def.mp hc] at hhead
      simpa using hhead
  · rintro ⟨_, ⟨number, unit, hspelled, hunit, rfl⟩, rfl, hr⟩
    obtain ⟨hne, hletters⟩ := of_mem_spellings hunit
    -- the number ends with the unit, and the unit with the rest
    obtain ⟨htake, hdrop⟩ := Text.span_append (r := unit ++ r) hspelled.isNumberChar_of_mem (by
      obtain ⟨d, more, rfl⟩ := List.exists_cons_of_ne_nil hne
      rintro c ⟨⟩
      exact (hletters d List.mem_cons_self).1)
    obtain ⟨htake', hdrop'⟩ := Text.span_append (p := fun c => !isNumberChar c) (r := r)
      (fun c hc => by simp [(hletters c hc).1]) (fun c hc => by simp [hr c hc])
    rw [List.append_assoc, htake, hdrop]
    exact ⟨(t.whole, t.fraction), (splitNumber?_eq_some_iff hspelled.isNumberChar_of_mem).mpr hspelled,
      t.unit, by rw [htake']; exact ofText?_eq_some_iff.mpr hunit, by rw [hdrop']⟩

/-- **Terms are read from their spelling.** -/
theorem terms?_eq_some_iff {cs : List Char} {ts : List Term} :
    terms? cs = some ts ↔ Spelled ts cs := by
  constructor
  · intro h
    induction ts generalizing cs with
    | nil =>
      rw [terms?] at h
      split at h
      · rename_i hempty
        rw [List.isEmpty_iff.mp hempty]
        exact .nil
      · split at h
        · cases h
        · obtain ⟨_, -, ⟨⟩⟩ := Option.map_eq_some_iff.mp h
    | cons t ts ih =>
      rw [terms?] at h
      split at h
      · cases h
      · split at h
        · cases h
        · rename_i t' r hnext
          obtain ⟨others, hothers, ⟨⟩⟩ := Option.map_eq_some_iff.mp h
          obtain ⟨w, hw, rfl, -⟩ := nextTerm?_eq_some_iff.mp hnext
          exact .cons hw (ih hothers)
  · intro h
    induction h with
    | nil =>
      rw [terms?]
      rfl
    | @cons t ts w r first others ih =>
      have hnext := nextTerm?_eq_some_iff.mpr ⟨w, first, Eq.refl (w ++ r), others.head⟩
      have hne : ¬ (w ++ r).isEmpty = true := by
        have hlength := (Spelled.cons first others).two_le_length (List.cons_ne_nil _ _)
        intro hempty
        rw [List.isEmpty_iff.mp hempty] at hlength
        exact absurd hlength (by decide)
      rw [terms?, if_neg hne]
      split
      · rename_i hnone
        rw [hnext] at hnone
        cases hnone
      · rename_i hsome
        rw [hnext] at hsome
        cases hsome
        rw [ih]
        rfl

/-! ## Sums -/

/-- What terms add up to. -/
def total (ts : List Term) : Nat := (ts.map Term.nanos).sum

/-- The loop over the terms adds them up. -/
theorem foldl_nanos (ts : List Term) (n : Nat) :
    ts.foldl (fun total term => total + term.nanos) n = n + total ts := by
  unfold total
  induction ts generalizing n with
  | nil => rfl
  | cons t ts ih =>
    rw [List.foldl_cons, ih, List.map_cons, List.sum_cons, Nat.add_assoc]

/-- Terms make a duration if their sum is not too long. -/
theorem ofTerms?_eq_some_iff {ts : List Term} {d : Duration} :
    ofTerms? ts = some d ↔ total ts ≤ longest ∧ d = total ts := by
  unfold ofTerms?
  rw [foldl_nanos, Nat.zero_add]
  dsimp only
  rw [Option.ite_none_right_eq_some, Option.some.injEq]
  exact and_congr_right fun _ => eq_comm

/-- The sum of terms in a register that stops at its greatest value. -/
def saturatedTotal (ts : List Term) : Nat :=
  ts.foldl (fun total term => min (total + min term.nanos huge) huge) 0

/-- Such a sum is the sum of the terms, up to the greatest value. -/
theorem saturatedTotal_eq (ts : List Term) : saturatedTotal ts = min (total ts) huge := by
  have hfold : ∀ (ts : List Term) (n : Nat), n ≤ huge →
      ts.foldl (fun total term => min (total + min term.nanos huge) huge) n
        = min (n + total ts) huge := by
    intro ts
    induction ts with
    | nil => exact fun n hn => (Nat.min_eq_left hn).symm
    | cons t ts ih =>
      intro n hn
      rw [List.foldl_cons, ih _ (Nat.min_le_right _ _)]
      show _ = min (n + (t.nanos + total ts)) huge
      omega
  rw [saturatedTotal, hfold ts 0 (Nat.zero_le _), Nat.zero_add]

/-- **Nothing is lost in such a register**: a sum that it cannot hold is too long anyway. -/
theorem ofTerms?_eq_saturated (ts : List Term) :
    ofTerms? ts = if saturatedTotal ts ≤ longest then some (saturatedTotal ts) else none := by
  have hroom : longest ≤ huge := by decide
  unfold ofTerms?
  rw [foldl_nanos, Nat.zero_add, saturatedTotal_eq]
  dsimp only
  rcases Nat.le_total (total ts) huge with hfits | hover
  · rw [Nat.min_eq_left hfits]
  · have hlong : ¬ huge ≤ longest := by decide
    have hlonger : ¬ total ts ≤ longest := fun h => hlong (Nat.le_trans hover h)
    rw [Nat.min_eq_right hover, if_neg hlong, if_neg hlonger]

/-! ## Durations -/

/-- Whether a text without blanks around it spells out a duration: it is `0`, or it has one or more
    terms that add up to the duration, and this is not too long. -/
def Spells (cs : List Char) (d : Duration) : Prop :=
  (cs = ['0'] ∧ d = 0) ∨ ∃ ts, ts ≠ [] ∧ Spelled ts cs ∧ d = total ts ∧ d ≤ longest

/-- A duration is read from its spelling. -/
theorem read?_eq_some_iff {text : String} {d : Duration} :
    read? text = some d ↔ Spells (Text.trim text.toList) d := by
  unfold read? Spells
  dsimp only
  split
  · rename_i hzero
    rw [hzero, Option.some.injEq]
    constructor
    · exact fun h => .inl ⟨rfl, h.symm⟩
    · rintro (⟨-, rfl⟩ | ⟨ts, hne, hspelled, -⟩)
      · rfl
      · exact absurd (hspelled.two_le_length hne) (by decide)
  · rename_i hzero
    rw [or_iff_right fun h => hzero h.1]
    split
    · rename_i hempty
      rw [List.isEmpty_iff.mp hempty]
      constructor
      · exact nofun
      · rintro ⟨ts, hne, hspelled, -⟩
        exact absurd (hspelled.two_le_length hne) (by decide)
    · rename_i hempty
      rw [Option.bind_eq_some_iff]
      constructor
      · rintro ⟨ts, hterms, hsum⟩
        have hspelled := terms?_eq_some_iff.mp hterms
        obtain ⟨hle, rfl⟩ := ofTerms?_eq_some_iff.mp hsum
        refine ⟨ts, ?_, hspelled, rfl, hle⟩
        rintro rfl
        exact hempty (List.isEmpty_iff.mpr hspelled.eq_nil)
      · rintro ⟨ts, -, hspelled, rfl, hle⟩
        exact ⟨ts, terms?_eq_some_iff.mpr hspelled, ofTerms?_eq_some_iff.mpr ⟨hle, rfl⟩⟩

/-- Terms spell out their sum and nothing else. -/
theorem Spelled.spells_iff {ts : List Term} {cs : List Char} {d : Duration} (h : Spelled ts cs) :
    Spells cs d ↔ ts ≠ [] ∧ d = total ts ∧ d ≤ longest := by
  have hunique : ∀ {ts' : List Term}, Spelled ts' cs → ts' = ts := fun h' =>
    Option.some.inj ((terms?_eq_some_iff.mpr h').symm.trans (terms?_eq_some_iff.mpr h))
  constructor
  · rintro (⟨rfl, -⟩ | ⟨ts', hne, h', hd⟩)
    · -- a lone zero has no unit
      rw [terms?_eq_some_iff.symm, terms?] at h
      cases h
    · rw [hunique h'] at hne hd
      exact ⟨hne, hd⟩
  · exact fun ⟨hne, hd⟩ => .inr ⟨ts, hne, h, hd⟩

/-- What is read of a text is what it spells out. -/
theorem read_eq_ok_iff {text : String} {d : Duration} :
    read text = .ok d ↔ Spells (Text.trim text.toList) d := by
  rw [← read?_eq_some_iff]
  unfold read
  cases read? text with
  | none => exact ⟨nofun, nofun⟩
  | some d' => exact ⟨fun h => congrArg some (Except.ok.inj h), fun h => by cases h; rfl⟩

/-- A text that spells out no duration is a fault, and is told as it is. -/
theorem read_eq_error_iff {text : String} {fault : Fault} :
    read text = .error fault ↔
      fault = .invalid text ∧ ∀ d, ¬ Spells (Text.trim text.toList) d := by
  have hnone : read? text = none ↔ ∀ d, ¬ Spells (Text.trim text.toList) d := by
    rw [Option.eq_none_iff_forall_ne_some]
    exact forall_congr' fun d => not_congr read?_eq_some_iff
  rw [← hnone]
  unfold read
  cases read? text with
  | none => exact ⟨fun h => ⟨(Except.error.inj h).symm, rfl⟩, fun h => by rw [h.1]⟩
  | some d => exact ⟨nofun, fun h => nomatch h.2⟩

/-- **Durations add up where their texts are put together**, unless their sum is too long. -/
theorem read_append {a b : String} {as bs : List Term} {da db : Duration}
    (ha : Spelled as a.toList) (hb : Spelled bs b.toList) (hda : read a = .ok da)
    (hdb : read b = .ok db) :
    read (a ++ b) = if da + db ≤ longest then .ok (da + db) else .error (.invalid (a ++ b)) := by
  have hread : ∀ {text : String} {ts : List Term}, Spelled ts text.toList →
      ∀ {d}, read text = .ok d ↔ ts ≠ [] ∧ d = total ts ∧ d ≤ longest := by
    intro text ts h d
    rw [read_eq_ok_iff, Text.trim_eq_self h.not_blank, h.spells_iff]
  obtain ⟨hne, rfl, -⟩ := (hread ha).mp hda
  obtain ⟨-, rfl, -⟩ := (hread hb).mp hdb
  have hboth : Spelled (as ++ bs) (a ++ b).toList := by
    rw [String.toList_append]
    exact ha.append hb
  have hsum : total as + total bs = total (as ++ bs) := by
    unfold total
    rw [List.map_append, List.sum_append]
  rw [hsum]
  split
  · rename_i hle
    exact (hread hboth).mpr ⟨List.append_ne_nil_of_left_ne_nil hne _, rfl, hle⟩
  · rename_i hlong
    refine read_eq_error_iff.mpr ⟨rfl, fun d hd => ?_⟩
    obtain ⟨-, rfl, hle⟩ := (hread hboth).mp (read_eq_ok_iff.mpr hd)
    exact hlong hle

/-- **An interval is a duration that is not zero.** -/
theorem readInterval_eq_ok_iff {text : String} {d : Duration} :
    readInterval text = .ok d ↔ read text = .ok d ∧ 0 < d := by
  unfold readInterval
  cases read text with
  | error fault => exact ⟨nofun, fun h => nomatch h.1⟩
  | ok d' =>
    cases d' with
    | zero => exact ⟨nofun, fun ⟨h, hpos⟩ => absurd (Except.ok.inj h) (Nat.ne_of_lt hpos)⟩
    | succ n => exact ⟨fun h => ⟨h, Except.ok.inj h ▸ Nat.succ_pos n⟩, And.left⟩

/-- A duration of zero is a fault of its own where an interval is wanted. -/
theorem readInterval_eq_error_iff {text : String} {fault : Fault} :
    readInterval text = .error fault ↔ read text = .error fault ∨
      read text = .ok 0 ∧ fault = .zero (String.ofList (Text.trim text.toList)) := by
  unfold readInterval
  cases read text with
  | error fault' => exact ⟨.inl, fun h => h.elim id fun h => nomatch h.1⟩
  | ok d =>
    cases d with
    | zero =>
      constructor
      · exact fun h => .inr ⟨rfl, (Except.error.inj h).symm⟩
      · rintro (h | ⟨-, rfl⟩)
        · cases h
        · rfl
    | succ n => exact ⟨nofun, fun h => h.elim nofun fun h => nomatch h.1⟩

/-- **Texts of durations.**  A text is read iff, without the blanks around it, it is `0` or has one
    or more terms that add up to 64 bits at most; it is read as this sum, and any other text is
    told back as it was.  So where two texts of terms are put together their durations add up,
    unless the sum is too long.  An interval is read iff it is a duration that is not zero.  And a
    register of 128 bits that stops at its greatest value is enough for the sums. -/
theorem read_exact :
    (∀ text d, read text = .ok d ↔ Spells (Text.trim text.toList) d) ∧
    (∀ text fault, read text = .error fault ↔
      fault = .invalid text ∧ ∀ d, ¬ Spells (Text.trim text.toList) d) ∧
    (∀ a b as bs da db, Spelled as a.toList → Spelled bs b.toList → read a = .ok da →
      read b = .ok db → read (a ++ b)
        = if da + db ≤ longest then .ok (da + db) else .error (.invalid (a ++ b))) ∧
    (∀ text d, readInterval text = .ok d ↔ read text = .ok d ∧ 0 < d) ∧
    (∀ text fault, readInterval text = .error fault ↔ read text = .error fault ∨
      read text = .ok 0 ∧ fault = .zero (String.ofList (Text.trim text.toList))) ∧
    ∀ ts, ofTerms? ts
      = if saturatedTotal ts ≤ longest then some (saturatedTotal ts) else none := by
  refine ⟨fun _ _ => read_eq_ok_iff, fun _ _ => read_eq_error_iff, ?_,
    fun _ _ => readInterval_eq_ok_iff, fun _ _ => readInterval_eq_error_iff, ofTerms?_eq_saturated⟩
  exact fun a b as bs da db ha hb hda hdb => read_append ha hb hda hdb

namespace Halves

/-- Half of the time that is too long; the number is rounded up to a power of two. -/
def half : String := "9223372036854775807ns"

/-- The term of such a text. -/
def halfTerm : Term := ⟨"9223372036854775807".toList, [], .nanosecond⟩

/-- Half an hour in two units, one of which has no digit before its point. -/
def minutes : String := ".25h15m"

/-- The terms of this text. -/
def minutesTerms : List Term := [⟨[], ['2', '5'], .hour⟩, ⟨['1', '5'], [], .minute⟩]

/-- Half an hour twice is an hour, but the two halves of what is too long are too long. -/
theorem read_exact_of_halves :
    read minutes = .ok 1_800_000_000_000 ∧ read (minutes ++ minutes) = .ok 3_600_000_000_000 ∧
      read half = .ok 9_223_372_036_854_775_808 ∧
      read (half ++ half) = .error (.invalid (half ++ half)) := by
  have hhalf : Spelled [halfTerm] half.toList :=
    terms?_eq_some_iff.mp (by decide +kernel)
  have hminutes : Spelled minutesTerms minutes.toList :=
    terms?_eq_some_iff.mp (by decide +kernel)
  obtain ⟨hread, -, hadd, -⟩ := read_exact
  have hone := (hread half 9_223_372_036_854_775_808).mpr
    (.inr ⟨_, by decide, hhalf, by decide +kernel, by decide⟩)
  have htwo := (hread minutes 1_800_000_000_000).mpr
    (.inr ⟨_, by decide, hminutes, by decide +kernel, by decide⟩)
  exact ⟨htwo, hadd _ _ _ _ _ _ hminutes hminutes htwo htwo, hone,
    hadd _ _ _ _ _ _ hhalf hhalf hone hone⟩

end Halves

end Duration

end Healing
