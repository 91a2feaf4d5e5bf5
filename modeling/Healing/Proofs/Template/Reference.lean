/-
  References in templates.

  A reference is a tag that shows what a path of words leads to, such as the label of an alert.
  Between its marks there is nothing but the path and blanks around it, and it is read as such
  whatever is behind it.

  1. **Words** - `Word`, and how words are read.
  2. **References** - `Reference`, with what it looks like between its marks.
  3. **Paths** - `readPath_written`.
  4. **Other contents** - a path is no call, has no parameters and is no alternative.
  5. **Tags** - `readTag_inside`.
-/
import Healing.Proofs.Text.Run
import Healing.Template.Helper
import Healing.Template.Token

namespace Healing.Template

open Text (dropPrefix?)

/-! ## Words -/

/-- Whether a character is a blank between the parts of a tag. -/
def isTagBlank (c : Char) : Bool := c = ' ' ∨ c = '\t' ∨ c = '\n' ∨ c = '\r'

/-- A word that names a field. -/
structure Word where
  chars : List Char
  nonempty : chars ≠ []
  symbols : ∀ c ∈ chars, isSymbolChar c = true
  /-- The word for the current value is not a name. -/
  not_this : chars ≠ ['t', 'h', 'i', 's']

/-- A word whose characters have been checked. -/
def Word.of (chars : List Char) (checked : chars ≠ [] ∧ chars.all isSymbolChar = true
    ∧ chars ≠ ['t', 'h', 'i', 's']) : Word :=
  ⟨chars, checked.1, List.all_eq_true.mp checked.2.1, checked.2.2⟩

@[simp]
theorem Word.chars_of (chars : List Char) (checked) : (Word.of chars checked).chars = chars := rfl

/-- A word as a text. -/
def Word.text (w : Word) : String := String.ofList w.chars

section Characters

variable {c : Char} (h : isSymbolChar c = true)

include h

/-- A character of a word is none of the other characters. -/
theorem ne_of_isSymbolChar {d : Char} (hd : isSymbolChar d = false) : c ≠ d := by
  rintro rfl
  rw [h] at hd
  cases hd

/-- A text that starts with a character of a word starts with no other one. -/
theorem cons_ne_of_isSymbolChar {d : Char} (hd : isSymbolChar d = false) {r r' : List Char} :
    c :: r ≠ d :: r' := fun heq => ne_of_isSymbolChar h hd (List.cons.inj heq).1

/-- A character of a word is no blank. -/
theorem isTagBlank_of_isSymbolChar : isTagBlank c = false := by
  simp [isTagBlank, ne_of_isSymbolChar h (d := ' ') (by decide),
    ne_of_isSymbolChar h (d := '\t') (by decide), ne_of_isSymbolChar h (d := '\n') (by decide),
    ne_of_isSymbolChar h (d := '\r') (by decide)]

end Characters

theorem skipBlanks_cons {c : Char} (h : isTagBlank c = false) (r : List Char) :
    skipBlanks (c :: r) = c :: r := List.dropWhile_cons_of_neg (by simpa [isTagBlank] using h)

theorem skipBlanks_append {b : List Char} (h : ∀ c ∈ b, isTagBlank c = true) (r : List Char) :
    skipBlanks (b ++ r) = skipBlanks r := List.dropWhile_append_of_pos h

section Symbols

variable {cs r : List Char} (symbols : ∀ c ∈ cs, isSymbolChar c = true) (hr : wordEnds r = true)

include symbols hr

theorem span_symbols :
    (cs ++ r).takeWhile isSymbolChar = cs ∧ (cs ++ r).dropWhile isSymbolChar = r :=
  Text.span_append symbols fun c hc => by
    obtain ⟨rest, rfl⟩ := List.head?_eq_some_iff.mp hc
    simpa [wordEnds] using hr

/-- A word is read up to its end. -/
theorem readSymbol_symbols (nonempty : cs ≠ []) :
    readSymbol (cs ++ r) = .ok (String.ofList cs, r) := by
  unfold readSymbol
  rw [(span_symbols symbols hr).1, (span_symbols symbols hr).2]
  have hempty : cs.isEmpty = false := by simpa using nonempty
  simp only [hempty]
  rfl

end Symbols

/-- There is no word where there is no character of one. -/
theorem readSymbol_of_wordEnds {cs : List Char} (h : wordEnds cs = true) :
    readSymbol cs = .error .noMatch := by
  cases cs with
  | nil => rfl
  | cons c r =>
    have hc : isSymbolChar c = false := by simpa [wordEnds] using h
    unfold readSymbol
    rw [List.takeWhile_cons_of_neg (by simp [hc])]
    rfl

namespace Word

variable (w : Word) {r : List Char}

/-- A word does not stand for the current value. -/
theorem text_ne_this : w.text ≠ "this" := by
  intro h
  have hchars := congrArg String.toList h
  unfold text at hchars
  rw [String.toList_ofList] at hchars
  exact w.not_this hchars

/-- A word starts with a character of words. -/
theorem exists_cons : ∃ c cs, w.chars = c :: cs ∧ isSymbolChar c = true := by
  obtain ⟨c, cs, hw⟩ := List.exists_cons_of_ne_nil w.nonempty
  exact ⟨c, cs, hw, w.symbols c (by rw [hw]; exact List.mem_cons_self ..)⟩

theorem readSymbol_append (hr : wordEnds r = true) :
    readSymbol (w.chars ++ r) = .ok (w.text, r) := readSymbol_symbols w.symbols hr w.nonempty

/-- A word is a step of a path. -/
theorem readPathName_append (hr : wordEnds r = true) :
    readPathName (w.chars ++ r) = .ok (w.text, r) := by
  obtain ⟨c, cs, hw, hc⟩ := w.exists_cons
  have hread := w.readSymbol_append hr
  rw [hw] at hread ⊢
  unfold readPathName
  split
  · rename_i heq
    exact absurd heq (cons_ne_of_isSymbolChar hc (by decide))
  · exact hread

end Word

/-- A mark does not stand where a character of a word does, if it starts with another one. -/
theorem expect_of_isSymbolChar {c d : Char} (hc : isSymbolChar c = true)
    (hd : isSymbolChar d = false) (mark r : List Char) :
    expect (d :: mark) (c :: r) = .error .noMatch := by
  unfold expect dropPrefix?
  rw [if_neg (Ne.symm (ne_of_isSymbolChar hc hd))]

/-- There is no tilde where a character of a word stands. -/
theorem readTilde_of_isSymbolChar {c : Char} (hc : isSymbolChar c = true) (r : List Char) :
    readTilde (c :: r) = (false, c :: r) := by
  unfold readTilde
  rw [skipBlanks_cons (isTagBlank_of_isSymbolChar hc)]
  split
  · rename_i heq
    exact absurd heq (cons_ne_of_isSymbolChar hc (by decide))
  · rfl

/-- A tag does not end where a character of a word stands. -/
theorem readEnd_of_isSymbolChar {c : Char} (hc : isSymbolChar c = true) (r : List Char) :
    readEnd ['}', '}'] (c :: r) = .error .noMatch := by
  unfold readEnd
  rw [readTilde_of_isSymbolChar hc]
  dsimp only [bind, Except.bind]
  rw [expect_of_isSymbolChar hc (by decide)]

/-! ## References -/

/-- A tag that shows what a path of words leads to. -/
structure Reference where
  /-- The blanks before the path. -/
  lead : List Char := []
  first : Word
  others : List Word := []
  /-- The blanks behind the path. -/
  trail : List Char := []
  lead_blank : ∀ c ∈ lead, isTagBlank c = true
  trail_blank : ∀ c ∈ trail, isTagBlank c = true
  /-- A word alone is no helper and does not look like an alternative. -/
  alone : others = [] → Helper.named? first.text = none ∧ ¬ ['e', 'l', 's', 'e'] <+: first.chars

namespace Reference

variable (ref : Reference)

/-- The further words, each with a point before it. -/
def tail : List Char := ref.others.flatMap fun w => '.' :: w.chars

/-- The path as it is written. -/
def written : List Char := ref.first.chars ++ ref.tail

/-- What stands between the marks of the tag. -/
def inside : List Char := ref.lead ++ ref.written ++ ref.trail

/-- The names that the path leads along. -/
def names : List String := ref.first.text :: ref.others.map Word.text

/-- The path. -/
def path : Path := ⟨String.ofList ref.written, ref.names.map .name⟩

/-- The contents of the tag. -/
def expr : Expression := { name := .path ref.path }

/-- What stands between the path and what is behind the tag. -/
def closing (more : List Char) : List Char := ref.trail ++ '}' :: '}' :: more

/-- There are no opening braces inside a tag. -/
theorem brace_not_mem_inside : '{' ∉ ref.inside := by
  have hblank : isTagBlank '{' = false := by decide
  have hsymbol : isSymbolChar '{' = false := by decide
  have hword : ∀ w : Word, '{' ∉ w.chars := fun w hw => by
    rw [w.symbols _ hw] at hsymbol
    cases hsymbol
  intro hmem
  unfold inside written tail at hmem
  simp only [List.mem_append, List.mem_flatMap, List.mem_cons] at hmem
  rcases hmem with (hlead | hfirst | ⟨w, -, hpoint | hw⟩) | htrail
  · rw [ref.lead_blank _ hlead] at hblank
    cases hblank
  · exact hword _ hfirst
  · exact absurd hpoint (by decide)
  · exact hword w hw
  · rw [ref.trail_blank _ htrail] at hblank
    cases hblank

end Reference

/-! ## Paths -/

/-- Whether a text goes on with neither a word nor a path. -/
def endsPath : List Char → Bool
  | c :: _ => !isSymbolChar c && !isPathMark c
  | [] => true

/-- A path that starts with its first name. -/
theorem readPath_of_start {cs : List Char} (current : skipCurrent cs = cs)
    (root : readRoot cs = ([], cs)) (mark : readVariableMark cs = ([], cs))
    (ups : ∀ fuel, readUps fuel cs = (0, cs)) :
    readPath cs = (readPathName cs).map fun (first, r) =>
      let (others, r) := readPathNames r.length r
      (⟨String.ofList (cs.take (cs.length - r.length)),
        ((first :: others).filter (· ≠ "this")).map PathStep.name⟩, r) := by
  unfold readPath
  rw [current, root]
  dsimp only [bind, Except.bind]
  rw [mark]
  dsimp only
  rw [ups]
  dsimp only
  cases readPathName cs with
  | error e => rfl
  | ok first => rfl

section Start

variable {c : Char} (hc : isSymbolChar c = true) (r : List Char)

include hc

/-- A word is not the mark of the outermost data. -/
theorem readRoot_of_isSymbolChar : readRoot (c :: r) = ([], c :: r) := by
  unfold readRoot
  split
  · rename_i heq
    exact absurd heq (cons_ne_of_isSymbolChar hc (by decide))
  · rfl

/-- Nor the mark of a variable. -/
theorem readVariableMark_of_isSymbolChar : readVariableMark (c :: r) = ([], c :: r) := by
  unfold readVariableMark
  split
  · rename_i heq
    exact absurd heq (cons_ne_of_isSymbolChar hc (by decide))
  · rfl

/-- Nor a step up. -/
theorem readUps_of_isSymbolChar (fuel : Nat) : readUps fuel (c :: r) = (0, c :: r) := by
  unfold readUps
  split
  · rfl
  · rename_i heq
    exact absurd heq (cons_ne_of_isSymbolChar hc (by decide))
  · rfl

end Start

theorem wordEnds_of_endsPath {cs : List Char} (h : endsPath cs = true) : wordEnds cs = true := by
  cases cs with
  | nil => rfl
  | cons c r => exact (Bool.and_eq_true_iff.mp h).1

namespace Reference

variable (ref : Reference) {r : List Char}

/-- A blank or a brace ends a path. -/
theorem endsPath_closing (more : List Char) : endsPath (ref.closing more) = true := by
  unfold closing
  cases htrail : ref.trail with
  | nil => rfl
  | cons c cs =>
    have hc := ref.trail_blank c (by rw [htrail]; exact List.mem_cons_self ..)
    have hblank : c = ' ' ∨ c = '\t' ∨ c = '\n' ∨ c = '\r' := by simpa [isTagBlank] using hc
    rcases hblank with rfl | rfl | rfl | rfl <;> rfl

/-- A word ends where the further words start. -/
theorem wordEnds_tail (hr : endsPath r = true) : wordEnds (ref.tail ++ r) = true := by
  unfold tail
  cases ref.others with
  | nil => exact wordEnds_of_endsPath hr
  | cons w ws => rfl

/-- The further words are read one by one. -/
theorem readPathNames_append (hr : endsPath r = true) :
    ∀ (ws : List Word) (fuel : Nat), ws.length ≤ fuel →
      readPathNames fuel (ws.flatMap (fun w => '.' :: w.chars) ++ r) = (ws.map Word.text, r)
  | [], fuel, _ => by
    rw [List.flatMap_nil, List.nil_append, List.map_nil]
    cases fuel with
    | zero => rfl
    | succ fuel =>
      cases r with
      | nil => rfl
      | cons c r =>
        have hc : isPathMark c = false := by
          simpa using (Bool.and_eq_true_iff.mp hr).2
        unfold readPathNames
        rw [hc]
        rfl
  | w :: ws, 0, h => by simp at h
  | w :: ws, fuel + 1, h => by
    have hends : wordEnds (ws.flatMap (fun w => '.' :: w.chars) ++ r) = true := by
      cases ws with
      | nil => exact wordEnds_of_endsPath hr
      | cons w ws => rfl
    rw [List.flatMap_cons, List.cons_append, List.cons_append, List.append_assoc]
    unfold readPathNames
    rw [w.readPathName_append hends]
    dsimp only
    rw [readPathNames_append hr ws fuel (Nat.le_of_succ_le_succ h)]
    rfl

/-- Every further word takes some room. -/
theorem length_le_tail (ws : List Word) :
    ws.length ≤ (ws.flatMap fun w => '.' :: w.chars).length := by
  induction ws with
  | nil => exact Nat.zero_le _
  | cons w ws ih =>
    rw [List.flatMap_cons, List.length_append]
    simp only [List.length_cons]
    omega

/-- A path of words starts where the innermost block does. -/
theorem skipCurrent_written (hr : endsPath r = true) :
    skipCurrent (ref.written ++ r) = ref.written ++ r := by
  obtain ⟨c, cs, hw, hc⟩ := ref.first.exists_cons
  unfold skipCurrent
  split
  · rename_i m rest heq
    split
    · rename_i hmark
      -- the first word would be the one for the current value
      refine absurd ?_ ref.first.not_this
      have hfirst := (span_symbols ref.first.symbols (ref.wordEnds_tail hr)).1
      have hm : isSymbolChar m = false := by
        cases hm : isSymbolChar m with
        | false => rfl
        | true =>
          have hpoint : m = '.' ∨ m = '/' := by simpa [isPathMark] using hmark
          rcases hpoint with rfl | rfl <;> cases hm
      rw [← List.append_assoc, ← written, heq] at hfirst
      rw [← hfirst, List.takeWhile_cons_of_pos (by decide), List.takeWhile_cons_of_pos (by decide),
        List.takeWhile_cons_of_pos (by decide), List.takeWhile_cons_of_pos (by decide),
        List.takeWhile_cons_of_neg (by simp [hm])]
    · rfl
  · rename_i rest heq
    unfold written at heq
    rw [hw] at heq
    exact absurd heq (cons_ne_of_isSymbolChar hc (by decide))
  · rfl

/-- **A path of words is read as such.** -/
theorem readPath_written (hr : endsPath r = true) :
    readPath (ref.written ++ r) = .ok (ref.path, r) := by
  obtain ⟨c, cs, hw, hc⟩ := ref.first.exists_cons
  have hstart : ref.written ++ r = ref.first.chars ++ (ref.tail ++ r) := List.append_assoc ..
  have hcons : ref.written ++ r = c :: (cs ++ (ref.tail ++ r)) := by
    rw [hstart, hw]
    rfl
  have hroot : readRoot (ref.written ++ r) = ([], ref.written ++ r) := by
    rw [hcons]
    exact readRoot_of_isSymbolChar hc _
  have hmark : readVariableMark (ref.written ++ r) = ([], ref.written ++ r) := by
    rw [hcons]
    exact readVariableMark_of_isSymbolChar hc _
  have hups : ∀ fuel, readUps fuel (ref.written ++ r) = (0, ref.written ++ r) := by
    rw [hcons]
    exact readUps_of_isSymbolChar hc _
  have hfirst : readPathName (ref.written ++ r) = .ok (ref.first.text, ref.tail ++ r) := by
    rw [hstart]
    exact ref.first.readPathName_append (ref.wordEnds_tail hr)
  have hothers : readPathNames (ref.tail ++ r).length (ref.tail ++ r)
      = (ref.others.map Word.text, r) := by
    refine readPathNames_append hr ref.others _ ?_
    rw [List.length_append]
    exact Nat.le_trans (length_le_tail ref.others) (Nat.le_add_right ..)
  have hnames : (ref.names.filter (· ≠ "this")) = ref.names := by
    rw [List.filter_eq_self]
    intro name hname
    rcases List.mem_cons.mp hname with rfl | hname
    · exact decide_eq_true ref.first.text_ne_this
    · obtain ⟨w, -, rfl⟩ := List.mem_map.mp hname
      exact decide_eq_true w.text_ne_this
  have hwritten : (ref.written ++ r).take ((ref.written ++ r).length - r.length) = ref.written := by
    rw [List.length_append, Nat.add_sub_cancel]
    exact List.take_left
  rw [readPath_of_start (ref.skipCurrent_written hr) hroot hmark hups, hfirst]
  dsimp only [Except.map]
  rw [hothers, hwritten]
  have hall : ref.first.text :: ref.others.map Word.text = ref.names := rfl
  rw [hall, hnames]
  rfl

end Reference

/-! ## Other contents -/

/-- A text that neither a parameter nor a call starts: a brace, or a point with a word behind it. -/
inductive NoParam : List Char → Prop
  | brace (r : List Char) : NoParam ('}' :: r)
  | point (w : Word) (r : List Char) : NoParam ('.' :: (w.chars ++ r))

section NoParam

variable {cs : List Char} (h : NoParam cs)

include h

/-- No word starts there. -/
theorem NoParam.wordEnds : Template.wordEnds cs = true := by
  cases h <;> rfl

/-- There is no path. -/
theorem readPath_of_noParam : readPath cs = .error .noMatch := by
  cases h with
  | brace r => rfl
  | point w r =>
    obtain ⟨c, rest, hw, hc⟩ := w.exists_cons
    rw [hw, List.cons_append]
    have hcurrent : skipCurrent ('.' :: c :: (rest ++ r)) = '.' :: c :: (rest ++ r) := by
      unfold skipCurrent
      split
      · rename_i heq
        cases (List.cons.inj heq).1
      · rename_i heq
        exact absurd (List.cons.inj heq).2 (cons_ne_of_isSymbolChar hc (by decide))
      · rfl
    have hups : ∀ fuel, readUps fuel ('.' :: c :: (rest ++ r)) = (0, '.' :: c :: (rest ++ r)) := by
      intro fuel
      unfold readUps
      split
      · rfl
      · rename_i heq
        exact absurd (List.cons.inj heq).2 (cons_ne_of_isSymbolChar hc (by decide))
      · rfl
    rw [readPath_of_start hcurrent rfl rfl hups]
    rfl

/-- There is no parameter. -/
theorem readParam_of_noParam (fuel : Nat) : readParam fuel cs = .error .noMatch := by
  cases fuel with
  | zero => rfl
  | succ fuel =>
    have hliteral : readLiteral cs = .error .noMatch := by
      unfold readLiteral skipLiteral
      cases h <;> rfl
    have hcall : readCall fuel cs = .error .noMatch := by
      cases fuel with
      | zero => rfl
      | succ fuel =>
        unfold readCall
        cases h <;> rfl
    have hkeyword : atKeyword cs = false := by
      cases h <;> rfl
    unfold readParam
    rw [hkeyword, hliteral, readPath_of_noParam h, hcall]
    rfl

end NoParam

/-- Behind the blanks there is no parameter. -/
theorem readParams_of_noParam {cs : List Char} (h : NoParam (skipBlanks cs)) (fuel : Nat) :
    readParams fuel cs = .ok (([], []), cs) := by
  cases fuel with
  | zero => rfl
  | succ fuel =>
    unfold readParams
    dsimp only
    rw [readSymbol_of_wordEnds h.wordEnds, readParam_of_noParam h]
    rfl

namespace Reference

variable (ref : Reference) (more : List Char)

/-- Behind the first word there is no parameter. -/
theorem noParam_tail : NoParam (skipBlanks (ref.tail ++ ref.closing more)) := by
  unfold tail
  cases ref.others with
  | nil =>
    rw [List.flatMap_nil, List.nil_append]
    unfold closing
    rw [skipBlanks_append ref.trail_blank]
    exact .brace _
  | cons w ws =>
    rw [List.flatMap_cons, List.cons_append, List.cons_append, List.append_assoc]
    exact .point w _

/-- The path starts with a character of a word. -/
theorem exists_written_cons (r : List Char) :
    ∃ c cs, ref.written ++ r = c :: cs ∧ isSymbolChar c = true := by
  obtain ⟨c, cs, hw, hc⟩ := ref.first.exists_cons
  refine ⟨c, cs ++ ref.tail ++ r, ?_, hc⟩
  unfold written
  rw [hw]
  rfl

/-- No blank stands before the path. -/
theorem skipBlanks_written (r : List Char) : skipBlanks (ref.written ++ r) = ref.written ++ r := by
  obtain ⟨c, cs, hw, hc⟩ := ref.exists_written_cons r
  rw [hw]
  exact skipBlanks_cons (isTagBlank_of_isSymbolChar hc) _

/-- The path is the whole of a value. -/
theorem readOutput_written :
    readOutput (ref.written ++ ref.closing more) = .ok (ref.expr, ref.closing more) := by
  have hends : endsPath (ref.closing more) = true := ref.endsPath_closing more
  have hword : readSymbol (ref.written ++ ref.closing more)
      = .ok (ref.first.text, ref.tail ++ ref.closing more) := by
    unfold written
    rw [List.append_assoc]
    exact ref.first.readSymbol_append (ref.wordEnds_tail hends)
  have hcall : ∀ fuel, readCall fuel (ref.written ++ ref.closing more) = .error .noMatch := by
    intro fuel
    obtain ⟨c, cs, hw, hc⟩ := ref.exists_written_cons (ref.closing more)
    cases fuel with
    | zero => rfl
    | succ fuel =>
      unfold readCall
      rw [hw, expect_of_isSymbolChar hc (by decide)]
      rfl
  unfold readOutput
  dsimp only
  rw [ref.skipBlanks_written, hword]
  dsimp only [bind, Except.bind]
  rw [readParams_of_noParam (ref.noParam_tail more)]
  unfold readName
  rw [hcall, ref.readPath_written hends]
  rfl

/-- What is between the marks of a tag is read from the path on. -/
theorem readFramed_inside {α : Type} (contents : List Char → Except Stop (α × List Char))
    (make : α → Tag) :
    readFramed [] contents make ('{' :: '{' :: (ref.inside ++ '}' :: '}' :: more)) = (do
      let (a, r) ← contents (ref.written ++ ref.closing more)
      let (after, r) ← readEnd ['}', '}'] r
      .ok (⟨make a, false, after⟩, r)) := by
  have hopen : expect ['{', '{'] ('{' :: '{' :: (ref.inside ++ '}' :: '}' :: more))
      = .ok (ref.lead ++ (ref.written ++ ref.closing more)) := by
    unfold inside closing
    rw [List.append_assoc, List.append_assoc]
    rfl
  have htilde : readTilde (ref.lead ++ (ref.written ++ ref.closing more))
      = (false, ref.written ++ ref.closing more) := by
    obtain ⟨c, cs, hw, hc⟩ := ref.exists_written_cons (ref.closing more)
    have hskip : readTilde (ref.lead ++ (ref.written ++ ref.closing more))
        = readTilde (ref.written ++ ref.closing more) := by
      unfold readTilde
      rw [skipBlanks_append ref.lead_blank]
    rw [hskip, hw]
    exact readTilde_of_isSymbolChar hc cs
  have hsign : expect [] (ref.written ++ ref.closing more)
      = .ok (ref.written ++ ref.closing more) := rfl
  unfold readFramed
  rw [hopen]
  dsimp only [bind, Except.bind]
  rw [htilde]
  dsimp only
  rw [hsign]
  dsimp only
  rw [ref.skipBlanks_written]

/-- The end of the tag. -/
theorem readEnd_closing : readEnd ['}', '}'] (ref.closing more) = .ok (false, more) := by
  unfold readEnd readTilde closing
  rw [skipBlanks_append ref.trail_blank]
  rfl

/-- If the path starts with the word for an alternative, the rest of its first word and further
    words stand behind that. -/
theorem readElse_written :
    readElse (ref.written ++ ref.closing more) = .error .noMatch ∨
      ∃ cs r, readElse (ref.written ++ ref.closing more) = .ok (cs ++ '.' :: r) ∧
        (∀ c ∈ cs, isSymbolChar c = true) ∧ NoParam ('.' :: r) := by
  have hsplit : ref.written ++ ref.closing more
      = ref.first.chars ++ (ref.tail ++ ref.closing more) := List.append_assoc ..
  unfold readElse expect
  cases helse : dropPrefix? ['e', 'l', 's', 'e'] (ref.written ++ ref.closing more) with
  | none =>
    obtain ⟨c, cs, hw, hc⟩ := ref.exists_written_cons (ref.closing more)
    rw [hw]
    exact .inl (expect_of_isSymbolChar hc (by decide) [] cs)
  | some rest =>
    -- the first word only starts like the one for an alternative, and there are further words
    have hrest := Text.dropPrefix?_eq_some_iff.mp helse
    have hfirst : ref.first.chars = ['e', 'l', 's', 'e'] ++ rest.takeWhile isSymbolChar := by
      rw [← (span_symbols ref.first.symbols (ref.wordEnds_tail (ref.endsPath_closing more))).1,
        ← hsplit, hrest]
      exact List.takeWhile_append_of_pos (List.all_eq_true.mp (by decide))
    have hothers : ref.others ≠ [] := fun hnil => (ref.alone hnil).2 ⟨_, hfirst.symm⟩
    obtain ⟨w, ws, hws⟩ := List.exists_cons_of_ne_nil hothers
    refine .inr ⟨rest.takeWhile isSymbolChar,
      w.chars ++ (ws.flatMap (fun w => '.' :: w.chars) ++ ref.closing more), ?_, ?_, .point w _⟩
    · have htail : ref.tail ++ ref.closing more
          = '.' :: (w.chars ++ (ws.flatMap (fun w => '.' :: w.chars) ++ ref.closing more)) := by
        unfold tail
        rw [hws, List.flatMap_cons, List.cons_append, List.cons_append, List.append_assoc]
      rw [hsplit, hfirst, htail, List.append_assoc] at hrest
      exact congrArg Except.ok (List.append_cancel_left hrest).symm
    · exact fun c hc => ref.first.symbols c (by
        rw [hfirst]
        exact List.mem_append_right _ hc)

end Reference

/-- A line of an alternative ends before a point. -/
theorem readLine_point {cs r : List Char} (hcs : ∀ c ∈ cs, isSymbolChar c = true)
    (hr : NoParam ('.' :: r)) :
    readLine (cs ++ '.' :: r) = .error .noMatch ∨
      ∃ e, readLine (cs ++ '.' :: r) = .ok (e, '.' :: r) := by
  unfold readLine
  cases cs with
  | nil => exact .inl rfl
  | cons c cs =>
    have hc := hcs c (List.mem_cons_self ..)
    have hparams : ∀ fuel, readParams fuel ('.' :: r) = .ok (([], []), '.' :: r) :=
      readParams_of_noParam hr
    rw [List.cons_append, skipBlanks_cons (isTagBlank_of_isSymbolChar hc), ← List.cons_append,
      readSymbol_symbols hcs rfl (List.cons_ne_nil c cs)]
    dsimp only [bind, Except.bind]
    rw [hparams]
    exact .inr ⟨_, rfl⟩

namespace Reference

variable (ref : Reference) (more : List Char)

/-- A reference is no alternative. -/
theorem readAlternative_inside :
    readAlternative ('{' :: '{' :: (ref.inside ++ '}' :: '}' :: more)) = .error .noMatch := by
  unfold readAlternative
  rw [readFramed_inside, readFramed_inside]
  rcases ref.readElse_written more with h | ⟨cs, r, h, hcs, hr⟩
  · rw [h]
    rfl
  · -- an alternative has to end, with a line or without one, and there is a point in the way
    rw [h]
    dsimp only [bind, Except.bind]
    have hend : readEnd ['}', '}'] (cs ++ '.' :: r) = .error .noMatch := by
      cases cs with
      | nil => rfl
      | cons c cs => exact readEnd_of_isSymbolChar (hcs c (List.mem_cons_self ..)) _
    rw [hend]
    rcases readLine_point hcs hr with hline | ⟨e, hline⟩
    · rw [hline]
      rfl
    · rw [hline]
      rfl

/-- **A reference is read as such**, whatever is behind it. -/
theorem readTag_inside :
    readTag ('{' :: '{' :: (ref.inside ++ '}' :: '}' :: more))
      = .ok ({ tag := .output ref.expr }, more) := by
  have hvalue : readFramed [] readOutput .output ('{' :: '{' :: (ref.inside ++ '}' :: '}' :: more))
      = .ok ({ tag := .output ref.expr }, more) := by
    rw [readFramed_inside, readOutput_written]
    dsimp only [bind, Except.bind]
    rw [readEnd_closing]
  unfold readTag
  rw [readAlternative_inside, hvalue]
  rfl

end Reference

end Healing.Template
