/-
  Metrics as they are shown.

  The text of the metrics has one line for every series.  The values of labels can be any texts, so
  they stand between quotes and are escaped.  A reader that knows no more than the format - lines,
  comments, labels, quotes and escapes - finds both tables in the text, whatever the labels are.

  1. **Escapes** - `readQuoted` undoes them; `escapeLabel_eq_replace`: three replacements in a row.
  2. **Lines** - `readSample` reads the line of a series (`readSample_line`).
  3. **Texts** - `readSamples` reads all lines that are no comments (`readSamples_render`).
  4. **Tables** - `Entry.Moves`: a series is in a table iff something has been reported about it.
  5. **Exposition** - `exposition`.
-/
import Healing.Proofs.KeyMap
import Healing.Proofs.Metrics
import Healing.Proofs.Text.Run
import Mathlib.Data.List.Nodup
import Mathlib.Data.String.Basic
import Mathlib.Tactic.Tauto
import Std.Data.String.ToInt

namespace Healing.Metrics

/-! ## Escapes -/

/-- Put other characters in the place of one, wherever it stands. -/
def replaceChar (c : Char) (substitute : List Char) (cs : List Char) : List Char :=
  cs.flatMap fun x => if x = c then substitute else [x]

/-- Whether there is a quote that no backslash stands for. -/
def hasBareQuote : List Char → Bool
  | '\\' :: _ :: r => hasBareQuote r
  | c :: r => c == '"' || hasBareQuote r
  | [] => false

/-- What a backslash and the character behind it stand for. -/
def unescaped? (c : Char) : Option Char :=
  if c = '\\' then some '\\'
  else if c = '"' then some '"'
  else if c = 'n' then some '\n'
  else none

/-- The value of a label up to its closing quote, without escapes, and what stands behind. -/
def readQuoted : List Char → Option (List Char × List Char)
  | [] => none
  | '"' :: r => some ([], r)
  | ['\\'] => none
  | '\\' :: c :: r =>
    (unescaped? c).bind fun d => (readQuoted r).map fun (value, rest) => (d :: value, rest)
  | c :: r => (readQuoted r).map fun (value, rest) => (c :: value, rest)

/-- A character is escaped, or stands for itself. -/
theorem escapeChar_cases (c : Char) :
    (∃ d, escapeChar c = ['\\', d] ∧ unescaped? d = some c ∧ d ≠ '\n') ∨
      (escapeChar c = [c] ∧ c ≠ '\\' ∧ c ≠ '"' ∧ c ≠ '\n') := by
  unfold escapeChar
  by_cases hbackslash : c = '\\'
  · subst hbackslash
    exact Or.inl ⟨'\\', by decide⟩
  by_cases hquote : c = '"'
  · subst hquote
    exact Or.inl ⟨'"', by decide⟩
  by_cases hnewline : c = '\n'
  · subst hnewline
    exact Or.inl ⟨'n', by decide⟩
  rw [if_neg hbackslash, if_neg hquote, if_neg hnewline]
  exact Or.inr ⟨rfl, hbackslash, hquote, hnewline⟩

/-- A character that is not special is read as it is. -/
theorem readQuoted_cons {c : Char} (hbackslash : c ≠ '\\') (hquote : c ≠ '"') (r : List Char) :
    readQuoted (c :: r) = (readQuoted r).map fun (value, rest) => (c :: value, rest) := by
  rw [readQuoted]
  · exact hquote
  · intro h
    exact absurd h hbackslash
  · intro _ _ h
    exact absurd h hbackslash

/-- **A value is read back up to its closing quote.** -/
theorem readQuoted_escape (value rest : List Char) :
    readQuoted (value.flatMap escapeChar ++ '"' :: rest) = some (value, rest) := by
  induction value with
  | nil => rfl
  | cons c r ih =>
    rw [List.flatMap_cons, List.append_assoc]
    rcases escapeChar_cases c with ⟨d, hescape, hstands, -⟩ | ⟨hescape, hbackslash, hquote, -⟩
    · rw [hescape, List.cons_append, List.cons_append, List.nil_append, readQuoted, hstands, ih]
      rfl
    · rw [hescape, List.singleton_append, readQuoted_cons hbackslash hquote, ih]
      rfl

/-- The characters of an escaped value. -/
theorem toList_escapeLabel (value : String) :
    (escapeLabel value).toList = value.toList.flatMap escapeChar :=
  String.toList_ofList

/-- A value is escaped by three replacements: backslashes first, then quotes, then line breaks. -/
theorem escapeLabel_eq_replace (value : String) :
    (escapeLabel value).toList = replaceChar '\n' ['\\', 'n']
      (replaceChar '"' ['\\', '"'] (replaceChar '\\' ['\\', '\\'] value.toList)) := by
  rw [toList_escapeLabel]
  unfold replaceChar
  rw [List.flatMap_assoc, List.flatMap_assoc]
  refine congrArg (List.flatMap · value.toList) (funext fun c => ?_)
  unfold escapeChar
  by_cases hbackslash : c = '\\'
  · subst hbackslash
    rfl
  by_cases hquote : c = '"'
  · subst hquote
    rfl
  by_cases hnewline : c = '\n'
  · subst hnewline
    rfl
  simp [hbackslash, hquote, hnewline]

/-- Different values are escaped differently. -/
theorem escapeLabel_inj {a b : String} (h : escapeLabel a = escapeLabel b) : a = b := by
  have ha := readQuoted_escape a.toList []
  rw [← toList_escapeLabel, h, toList_escapeLabel, readQuoted_escape] at ha
  exact String.toList_inj.mp (congrArg Prod.fst (Option.some.inj ha)).symm

/-- An escaped value stays on its line. -/
theorem newline_not_mem_escapeLabel (value : String) : '\n' ∉ (escapeLabel value).toList := by
  rw [toList_escapeLabel, List.mem_flatMap]
  rintro ⟨c, -, hmem⟩
  rcases escapeChar_cases c with ⟨d, hescape, -, hd⟩ | ⟨hescape, -, -, hc⟩
  · rw [hescape] at hmem
    simp [hd.symm] at hmem
  · rw [hescape] at hmem
    simp [hc.symm] at hmem

/-- No quote in an escaped value could be taken for its end. -/
theorem hasBareQuote_escapeLabel (value : String) :
    hasBareQuote (escapeLabel value).toList = false := by
  rw [toList_escapeLabel]
  induction value.toList with
  | nil => rfl
  | cons c r ih =>
    rw [List.flatMap_cons]
    rcases escapeChar_cases c with ⟨d, hescape, -, -⟩ | ⟨hescape, hbackslash, hquote, -⟩
    · rw [hescape, List.cons_append, List.cons_append, List.nil_append, hasBareQuote, ih]
    · rw [hescape, List.singleton_append, hasBareQuote, ih]
      · simp [hquote]
      · intro _ _ h
        exact absurd h hbackslash

/-! ## Lines -/

/-- A label up to its closing quote, and what stands behind. -/
def readLabel (cs : List Char) : Option ((String × String) × List Char) :=
  match cs.dropWhile (· != '=') with
  | '=' :: '"' :: r =>
    (readQuoted r).map fun (value, rest) =>
      ((String.ofList (cs.takeWhile (· != '=')), String.ofList value), rest)
  | _ => none

/-- The end of a quoted value is in the text. -/
theorem length_of_readQuoted (cs : List Char) :
    ∀ {value rest : List Char}, readQuoted cs = some (value, rest) → rest.length < cs.length := by
  induction cs using readQuoted.induct with
  | case1 =>
    intro value rest h
    cases h
  | case2 r =>
    intro value rest h
    cases h
    exact Nat.lt_succ_self _
  | case3 =>
    intro value rest h
    cases h
  | case4 c r ih =>
    intro value rest h
    rw [readQuoted] at h
    obtain ⟨d, -, hmap⟩ := Option.bind_eq_some_iff.mp h
    obtain ⟨⟨value', rest'⟩, hread, heq⟩ := Option.map_eq_some_iff.mp hmap
    cases heq
    exact Nat.lt_succ_of_lt (Nat.lt_succ_of_lt (ih hread))
  | case5 c r hquote _ hbackslash ih =>
    intro value rest h
    rw [readQuoted] at h
    · obtain ⟨⟨value', rest'⟩, hread, heq⟩ := Option.map_eq_some_iff.mp h
      cases heq
      exact Nat.lt_succ_of_lt (ih hread)
    all_goals assumption

/-- A label takes up a part of the text. -/
theorem length_of_readLabel {cs rest : List Char} {label : String × String}
    (h : readLabel cs = some (label, rest)) : rest.length < cs.length := by
  unfold readLabel at h
  split at h
  · rename_i r hdrop
    obtain ⟨⟨value, rest'⟩, hread, heq⟩ := Option.map_eq_some_iff.mp h
    cases heq
    have hquoted := length_of_readQuoted r hread
    have hsuffix := (List.dropWhile_suffix (· != '=') (l := cs)).length_le
    rw [hdrop, List.length_cons, List.length_cons] at hsuffix
    omega
  · cases h

/-- The labels up to the closing brace, with commas between them, and what stands behind. -/
def readLabels (cs : List Char) : Option (List (String × String) × List Char) :=
  match _h : readLabel cs with
  | some (label, '\x7d' :: rest) => some ([label], rest)
  | some (label, ',' :: rest) =>
    (readLabels rest).map fun (labels, rest) => (label :: labels, rest)
  | _ => none
termination_by cs.length
decreasing_by exact Nat.lt_of_succ_lt (length_of_readLabel _h)

/-- What the line of a series says. -/
structure Sample where
  name : String
  labels : List (String × String)
  value : Int
deriving DecidableEq

/-- Read the line of a series: a name, labels between braces, a blank and a number. -/
def readSample (cs : List Char) : Option Sample :=
  match cs.dropWhile (· != '\x7b') with
  | '\x7b' :: r =>
    (readLabels r).bind fun (labels, rest) =>
      match rest with
      | ' ' :: value =>
        (String.ofList value).toInt?.map fun value =>
          ⟨String.ofList (cs.takeWhile (· != '\x7b')), labels, value⟩
      | _ => none
  | _ => none

/-- A text before the first place of a character, and what stands from there on. -/
theorem takeWhile_dropWhile_ne {c : Char} {l : List Char} (h : c ∉ l) (r : List Char) :
    (l ++ c :: r).takeWhile (· != c) = l ∧ (l ++ c :: r).dropWhile (· != c) = c :: r := by
  refine Text.span_append (fun x hx => bne_iff_ne.mpr fun heq => h (heq ▸ hx)) fun x hx => ?_
  rw [← Option.some.inj hx]
  exact bne_self_eq_false c

/-- **A label is read back.** -/
theorem readLabel_labelText {label : String × String} (name : '=' ∉ label.1.toList)
    (rest : List Char) : readLabel ((labelText label).toList ++ rest) = some (label, rest) := by
  have htext : (labelText label).toList ++ rest
      = label.1.toList ++ '=' :: ('"' :: (label.2.toList.flatMap escapeChar ++ '"' :: rest)) := by
    simp [labelText, toList_escapeLabel]
  obtain ⟨htake, hdrop⟩ := takeWhile_dropWhile_ne name
    ('"' :: (label.2.toList.flatMap escapeChar ++ '"' :: rest))
  unfold readLabel
  rw [htext, hdrop, htake]
  show (readQuoted (label.2.toList.flatMap escapeChar ++ '"' :: rest)).map _ = _
  rw [readQuoted_escape, Option.map_some, String.ofList_toList]
  show some ((label.1, String.ofList label.2.toList), rest) = some (label, rest)
  rw [String.ofList_toList]

/-- The labels of a line as characters, with commas between them. -/
def labelChars (labels : List (String × String)) : List Char :=
  [','].intercalate (labels.map fun label => (labelText label).toList)

/-- A single label. -/
theorem labelChars_singleton (label : String × String) :
    labelChars [label] = (labelText label).toList :=
  List.intercalate_singleton

/-- A label in front of others. -/
theorem labelChars_cons_cons (label next : String × String) (r : List (String × String)) :
    labelChars (label :: next :: r) = (labelText label).toList ++ ',' :: labelChars (next :: r) := by
  unfold labelChars
  rw [List.map_cons, List.map_cons, List.intercalate_cons_cons, List.append_assoc]
  rfl

/-- **The labels of a line are read back.** -/
theorem readLabels_labelChars (rest : List Char) :
    ∀ {labels : List (String × String)}, labels ≠ [] → (∀ label ∈ labels, '=' ∉ label.1.toList) →
      readLabels (labelChars labels ++ '\x7d' :: rest) = some (labels, rest)
  | [label], _, names => by
    have hread := readLabel_labelText (names label (List.mem_singleton_self _)) ('\x7d' :: rest)
    rw [labelChars_singleton, readLabels, hread]
    rfl
  | label :: next :: r, _, names => by
    obtain ⟨hname, hnames⟩ := List.forall_mem_cons.mp names
    have hread := readLabel_labelText hname (',' :: (labelChars (next :: r) ++ '\x7d' :: rest))
    have hmore := readLabels_labelChars rest (List.cons_ne_nil next r) hnames
    rw [labelChars_cons_cons, List.append_assoc, List.cons_append, readLabels, hread]
    show (readLabels (labelChars (next :: r) ++ '\x7d' :: rest)).map _ = _
    rw [hmore]
    rfl

/-- The characters of the line of a series, up to its end. -/
def lineChars (sample : Sample) : List Char :=
  sample.name.toList ++ '\x7b' :: (labelChars sample.labels ++ '\x7d' :: ' ' ::
    (toString sample.value).toList)

/-- A line ends with a line break. -/
theorem toList_line (sample : Sample) :
    (line sample.name sample.labels (toString sample.value)).toList
      = lineChars sample ++ ['\n'] := by
  simp [line, lineChars, labelChars, String.toList_intercalate, Function.comp_def]

/-- Names that can be told from comments, and from the marks behind them. -/
structure PlainNames (name : String) (labels : List String) : Prop where
  start : ∃ c r, name.toList = c :: r ∧ c ≠ '#'
  name : '\x7b' ∉ name.toList ∧ '\n' ∉ name.toList
  labelled : labels ≠ []
  labels : ∀ label ∈ labels, '=' ∉ label.toList ∧ '\n' ∉ label.toList

/-- Whether the names of a series are plain; the values of its labels may be anything. -/
def Sample.Plain (sample : Sample) : Prop :=
  PlainNames sample.name (sample.labels.map (·.1))

theorem Sample.Plain.label {sample : Sample} (h : sample.Plain) {label : String × String}
    (hmem : label ∈ sample.labels) : '=' ∉ label.1.toList ∧ '\n' ∉ label.1.toList :=
  h.labels label.1 (List.mem_map_of_mem hmem)

/-- **The line of a series is read back.** -/
theorem readSample_lineChars {sample : Sample} (h : sample.Plain) :
    readSample (lineChars sample) = some sample := by
  obtain ⟨htake, hdrop⟩ := takeWhile_dropWhile_ne h.name.1
    (labelChars sample.labels ++ '\x7d' :: ' ' :: (toString sample.value).toList)
  have hlabelled : sample.labels ≠ [] := mt List.map_eq_nil_iff.mpr h.labelled
  have hlabels := readLabels_labelChars (' ' :: (toString sample.value).toList) hlabelled
    fun label hmem => (h.label hmem).1
  have hvalue : (toString sample.value).toInt? = some sample.value := Int.toInt?_repr _
  unfold readSample lineChars
  rw [hdrop, htake]
  show (readLabels (labelChars sample.labels ++ _)).bind _ = _
  rw [hlabels, Option.bind_some]
  show (String.ofList (toString sample.value).toList).toInt?.map _ = _
  rw [String.ofList_toList, String.ofList_toList, hvalue]
  rfl

/-- Lines of different series are different. -/
theorem lineChars_inj {s t : Sample} (hs : s.Plain) (ht : t.Plain)
    (h : lineChars s = lineChars t) : s = t := by
  have hread := readSample_lineChars hs
  rw [h, readSample_lineChars ht] at hread
  exact (Option.some.inj hread).symm

/-- There is no line break in the digits of a number. -/
theorem newline_not_mem_toString (n : Int) : '\n' ∉ (toString n).toList := by
  have hnat : ∀ m : Nat, '\n' ∉ (toString m).toList := by
    intro m hmem
    rw [Nat.toString_eq_ofList_toDigits, String.toList_ofList] at hmem
    have hdigit := Nat.isDigit_of_mem_toDigits (by decide) (by decide) hmem
    exact absurd hdigit (by decide)
  cases n with
  | ofNat m => exact hnat m
  | negSucc m =>
    intro hmem
    have htext : (toString (Int.negSucc m)).toList = '-' :: (toString (m + 1)).toList := by
      show ("-" ++ toString (m + 1)).toList = _
      rw [String.toList_append]
      rfl
    rw [htext] at hmem
    rcases List.mem_cons.mp hmem with hsign | hdigits
    · exact absurd hsign (by decide)
    · exact hnat _ hdigits

/-- The labels of a series stay on its line. -/
theorem newline_not_mem_labelChars :
    ∀ {labels : List (String × String)}, (∀ label ∈ labels, '\n' ∉ label.1.toList) →
      '\n' ∉ labelChars labels
  | [], _ => List.not_mem_nil
  | label :: r, names => by
    obtain ⟨hname, hnames⟩ := List.forall_mem_cons.mp names
    have htext : '\n' ∉ (labelText label).toList := by
      have hvalue := newline_not_mem_escapeLabel label.2
      simp [labelText, hname, hvalue]
    have hmore := newline_not_mem_labelChars hnames
    cases r with
    | nil => rwa [labelChars_singleton]
    | cons next r =>
      rw [labelChars_cons_cons, List.mem_append, List.mem_cons, not_or, not_or]
      exact ⟨htext, by decide, hmore⟩

/-- A series stays on its line. -/
theorem newline_not_mem_lineChars {sample : Sample} (h : sample.Plain) :
    '\n' ∉ lineChars sample := by
  have hlabels : '\n' ∉ labelChars sample.labels :=
    newline_not_mem_labelChars fun label hmem => (h.label hmem).2
  have hvalue := newline_not_mem_toString sample.value
  unfold lineChars
  simp only [List.mem_append, List.mem_cons, not_or]
  exact ⟨h.name.2, by decide, hlabels, by decide, by decide, hvalue⟩

/-! ## Texts -/

/-- The lines of a text but for empty ones and comments. -/
def sampleLines (text : String) : List (List Char) :=
  (text.toList.splitOn '\n').filter fun l => !l.isEmpty && l.head? != some '#'

/-- Read all lines of a text. -/
def readSamples (text : String) : Option (List Sample) := (sampleLines text).mapM readSample

/-- The values of the labels of a sample, and its own value. -/
def Sample.row (sample : Sample) : SeriesKey × Int := (sample.labels.map (·.2), sample.value)

/-- The series of a table: the samples with its name and its labels. -/
def tableOf (name : String) (labels : List String) (samples : List Sample) :
    List (SeriesKey × Int) :=
  (samples.filter fun s => s.name == name && s.labels.map (·.1) == labels).map Sample.row

/-- Texts that end with line breaks are split at them. -/
theorem splitOn_lines {lines : List (List Char)} (h : ∀ l ∈ lines, '\n' ∉ l) :
    (lines.flatMap (· ++ ['\n'])).splitOn '\n' = lines ++ [[]] := by
  induction lines with
  | nil => rfl
  | cons l r ih =>
    obtain ⟨hl, hr⟩ := List.forall_mem_cons.mp h
    rw [List.flatMap_cons, List.append_assoc, List.singleton_append,
      List.splitOn_append_cons_self_of_not_mem hl, ih hr]
    rfl

/-- The samples of a table. -/
def samplesOf (name : String) (labels : List String) (rows : List (SeriesKey × Int)) :
    List Sample :=
  rows.map fun row => ⟨name, labels.zip row.1, row.2⟩

/-- The requests as rows of numbers. -/
def requestedRows (m : Metrics) : List (SeriesKey × Int) :=
  m.requestedTable.entries.map fun e => (e.1, (e.2 : Int))

/-- All samples of the metrics, in the order of their lines. -/
def samples (m : Metrics) : List Sample :=
  samplesOf requestedName requestedLabels m.requestedRows
    ++ samplesOf launchedName launchedLabels m.launchedTable.entries

/-- The lines in front of a table. -/
def headingLines (name help type : String) : List (List Char) :=
  [("# HELP " ++ name ++ " " ++ help).toList, ("# TYPE " ++ name ++ " " ++ type).toList]

/-- All lines of the metrics. -/
def lines (m : Metrics) : List (List Char) :=
  headingLines requestedName "Number of healing actions requested by activated rules" "counter"
    ++ (samplesOf requestedName requestedLabels m.requestedRows).map lineChars
    ++ headingLines launchedName "Number of healing actions by status" "gauge"
    ++ (samplesOf launchedName launchedLabels m.launchedTable.entries).map lineChars

/-- The lines of a table. -/
theorem toList_join_lines (name : String) (labels : List String) (rows : List (SeriesKey × Int)) :
    (String.join (rows.map fun row => line name (labels.zip row.1) (toString row.2))).toList
      = ((samplesOf name labels rows).map lineChars).flatMap (· ++ ['\n']) := by
  induction rows with
  | nil => rfl
  | cons row r ih =>
    have hline := toList_line ⟨name, labels.zip row.1, row.2⟩
    rw [List.map_cons, String.join_cons, String.toList_append, ih, hline]
    rfl

/-- The text of the metrics is made of their lines. -/
theorem toList_render (m : Metrics) : m.render.toList = m.lines.flatMap (· ++ ['\n']) := by
  have hrequested := toList_join_lines requestedName requestedLabels m.requestedRows
  have hlaunched := toList_join_lines launchedName launchedLabels m.launchedTable.entries
  have hheading : ∀ name help type : String, (heading name help type).toList
      = (headingLines name help type).flatMap (· ++ ['\n']) := by
    intro name help type
    simp [heading, headingLines]
  unfold requestedRows at hrequested
  rw [List.map_map] at hrequested
  unfold render lines requestedRows
  rw [String.toList_append, String.toList_append, String.toList_append, hheading, hheading,
    hlaunched, List.flatMap_append, List.flatMap_append, List.flatMap_append, ← hrequested]
  rfl

/-- Every series has as many values as its table has labels. -/
structure Labelled (m : Metrics) : Prop where
  requested : ∀ e ∈ m.requestedTable.entries, e.1.length = requestedLabels.length
  launched : ∀ e ∈ m.launchedTable.entries, e.1.length = launchedLabels.length

theorem plainNames_requested : PlainNames requestedName requestedLabels where
  start := ⟨_, _, rfl, by decide⟩
  name := by decide
  labelled := by decide
  labels := by decide

theorem plainNames_launched : PlainNames launchedName launchedLabels where
  start := ⟨_, _, rfl, by decide⟩
  name := by decide
  labelled := by decide
  labels := by decide

section Tables

variable {name : String} {labels : List String} {rows : List (SeriesKey × Int)}

/-- A series with plain names is plain, whatever the values of its labels are. -/
theorem PlainNames.plain (h : PlainNames name labels) {key : SeriesKey}
    (length : key.length = labels.length) (value : Int) :
    (⟨name, labels.zip key, value⟩ : Sample).Plain := by
  have hnames : (labels.zip key).map (·.1) = labels := List.map_fst_zip (Nat.le_of_eq length.symm)
  show PlainNames name ((labels.zip key).map (·.1))
  rwa [hnames]

/-- All series of a table with plain names are plain. -/
theorem PlainNames.samplesOf (h : PlainNames name labels)
    (lengths : ∀ row ∈ rows, row.1.length = labels.length) :
    ∀ sample ∈ samplesOf name labels rows, sample.Plain := by
  intro sample hmem
  obtain ⟨row, hrow, rfl⟩ := List.mem_map.mp hmem
  exact h.plain (lengths row hrow) row.2

/-- The rows of a table are the values in its samples. -/
theorem map_row_samplesOf (lengths : ∀ row ∈ rows, row.1.length = labels.length) :
    (samplesOf name labels rows).map Sample.row = rows := by
  unfold Metrics.samplesOf
  rw [List.map_map]
  refine (List.map_congr_left fun row hrow => ?_).trans (List.map_id rows)
  exact Prod.ext (List.map_snd_zip (Nat.le_of_eq (lengths row hrow))) rfl

/-- A table is recovered from its samples. -/
theorem tableOf_samplesOf (lengths : ∀ row ∈ rows, row.1.length = labels.length) :
    tableOf name labels (samplesOf name labels rows) = rows := by
  have hall : (samplesOf name labels rows).filter
      (fun s => s.name == name && s.labels.map (·.1) == labels) = samplesOf name labels rows := by
    rw [List.filter_eq_self]
    intro sample hmem
    obtain ⟨row, hrow, rfl⟩ := List.mem_map.mp hmem
    have hnames : (labels.zip row.1).map (·.1) = labels :=
      List.map_fst_zip (Nat.le_of_eq (lengths row hrow).symm)
    simp [hnames]
  unfold tableOf
  rw [hall, map_row_samplesOf lengths]

/-- The series of a table among more samples. -/
theorem tableOf_append (before after : List Sample) :
    tableOf name labels (before ++ after)
      = tableOf name labels before ++ tableOf name labels after := by
  unfold tableOf
  rw [List.filter_append, List.map_append]

/-- No sample of one table is taken for one of another. -/
theorem tableOf_samplesOf_of_ne {other : String} {labels' : List String} (h : other ≠ name) :
    tableOf name labels (samplesOf other labels' rows) = [] := by
  have hnone : (samplesOf other labels' rows).filter
      (fun s => s.name == name && s.labels.map (·.1) == labels) = [] := by
    rw [List.filter_eq_nil_iff]
    intro sample hmem
    obtain ⟨row, -, rfl⟩ := List.mem_map.mp hmem
    simp [h]
  unfold tableOf
  rw [hnone]
  rfl

end Tables

/-- The lines in front of a table are comments. -/
theorem filter_headingLines (name help type : String) :
    (headingLines name help type).filter (fun l => !l.isEmpty && l.head? != some '#') = [] := by
  simp [headingLines]

/-- The lines of series are no comments. -/
theorem filter_lineChars {samples : List Sample} (h : ∀ sample ∈ samples, sample.Plain) :
    (samples.map lineChars).filter (fun l => !l.isEmpty && l.head? != some '#')
      = samples.map lineChars := by
  rw [List.filter_eq_self]
  intro l hl
  obtain ⟨sample, hsample, rfl⟩ := List.mem_map.mp hl
  obtain ⟨c, r, hname, hc⟩ := (h sample hsample).start
  simp [lineChars, hname, hc]

namespace Labelled

variable {m : Metrics} (h : m.Labelled)
include h

/-- Every series of the requests has the labels of its table. -/
theorem requestedRows : ∀ row ∈ m.requestedRows, row.1.length = requestedLabels.length := by
  intro row hrow
  obtain ⟨e, he, rfl⟩ := List.mem_map.mp hrow
  exact h.requested e he

/-- All samples of the metrics are plain. -/
theorem plain : ∀ sample ∈ m.samples, sample.Plain := by
  intro sample hmem
  rcases List.mem_append.mp hmem with hmem | hmem
  · exact plainNames_requested.samplesOf h.requestedRows sample hmem
  · exact plainNames_launched.samplesOf h.launched sample hmem

/-- No line is broken. -/
theorem newline_not_mem_lines : ∀ l ∈ m.lines, '\n' ∉ l := by
  have hsamples : ∀ {samples : List Sample}, (∀ sample ∈ samples, sample.Plain) →
      ∀ l ∈ samples.map lineChars, '\n' ∉ l := by
    intro samples hplain l hl
    obtain ⟨sample, hsample, rfl⟩ := List.mem_map.mp hl
    exact newline_not_mem_lineChars (hplain sample hsample)
  unfold lines
  simp only [List.forall_mem_append]
  refine ⟨⟨⟨by decide, ?_⟩, by decide⟩, ?_⟩
  · exact hsamples (plainNames_requested.samplesOf h.requestedRows)
  · exact hsamples (plainNames_launched.samplesOf h.launched)

/-- **Every sample has a line of its own**, and all other lines are comments. -/
theorem sampleLines_render : sampleLines m.render = m.samples.map lineChars := by
  unfold sampleLines
  rw [toList_render, splitOn_lines h.newline_not_mem_lines]
  unfold lines
  simp only [List.filter_append]
  rw [filter_headingLines, filter_headingLines,
    filter_lineChars (plainNames_requested.samplesOf h.requestedRows),
    filter_lineChars (plainNames_launched.samplesOf h.launched)]
  unfold samples
  simp

/-- **The samples are read back.** -/
theorem readSamples_render : readSamples m.render = some m.samples := by
  have hread : ∀ {samples : List Sample}, (∀ sample ∈ samples, sample.Plain) →
      (samples.map lineChars).mapM readSample = some samples := by
    intro samples
    induction samples with
    | nil => exact fun _ => rfl
    | cons sample r ih =>
      intro hplain
      obtain ⟨hsample, hr⟩ := List.forall_mem_cons.mp hplain
      rw [List.map_cons, List.mapM_cons, readSample_lineChars hsample, ih hr]
      rfl
  unfold readSamples
  rw [h.sampleLines_render]
  exact hread h.plain

/-- The tables are recovered from the samples. -/
theorem tableOf_samples :
    tableOf requestedName requestedLabels m.samples = m.requestedRows ∧
      tableOf launchedName launchedLabels m.samples = m.launchedTable.entries := by
  unfold samples
  rw [tableOf_append, tableOf_append, tableOf_samplesOf h.requestedRows,
    tableOf_samplesOf h.launched, tableOf_samplesOf_of_ne (by decide),
    tableOf_samplesOf_of_ne (by decide), List.append_nil, List.nil_append]
  exact ⟨rfl, rfl⟩

/-- No line is shown twice. -/
theorem nodup_sampleLines : (sampleLines m.render).Nodup := by
  have hsamples : m.samples.Nodup := by
    refine List.nodup_append.mpr ⟨?_, ?_, ?_⟩
    · refine List.Nodup.of_map Sample.row ?_
      rw [map_row_samplesOf h.requestedRows]
      refine m.requestedTable.sorted.nodup.map fun e e' heq => ?_
      obtain ⟨hkey, hvalue⟩ := Prod.mk.inj heq
      exact Prod.ext hkey (Int.ofNat_inj.mp hvalue)
    · refine List.Nodup.of_map Sample.row ?_
      rw [map_row_samplesOf h.launched]
      exact m.launchedTable.sorted.nodup
    · -- the names of the tables are different
      intro s hs t ht heq
      obtain ⟨row, -, rfl⟩ := List.mem_map.mp hs
      obtain ⟨row', -, rfl⟩ := List.mem_map.mp ht
      have hname : requestedName = launchedName := congrArg Sample.name heq
      exact absurd hname (by decide)
  rw [h.sampleLines_render]
  exact hsamples.map_on fun s hs t ht heq => lineChars_inj (h.plain s hs) (h.plain t ht) heq

end Labelled

/-! ## Tables -/

/-- The reports that move a gauge. -/
def Entry.movers (kind target rule : String) : LaunchState → List Entry
  | .running => [.started kind target rule, .completed kind target rule]
  | .completed => [.completed kind target rule]
  | .failed => [.failed kind target rule]

section Presence

variable (m : Metrics) (kind target rule : String)

/-- A gauge that is moved is in the table. -/
theorem isSome_addLaunched (kind' target' rule' : String) (state state' : LaunchState)
    (delta : Int) :
    ((m.addLaunched kind' target' rule' state' delta).launchedTable.get?
        [kind, target, rule, state.word]).isSome ↔
      (kind' = kind ∧ target' = target ∧ rule' = rule ∧ state' = state) ∨
        (m.launchedTable.get? [kind, target, rule, state.word]).isSome := by
  have hget : (m.addLaunched kind' target' rule' state' delta).launchedTable.get?
      [kind, target, rule, state.word] = (m.launchedTable.insert [kind', target', rule', state'.word]
        (m.launchedCount kind' target' rule' state'.word + delta)).get?
          [kind, target, rule, state.word] := rfl
  rw [hget, KeyMap.get?_insert]
  by_cases h : kind' = kind ∧ target' = target ∧ rule' = rule ∧ state' = state
  · rw [if_pos (launchedKey_eq_iff.mpr h)]
    simp [h]
  · rw [if_neg (fun he => h (launchedKey_eq_iff.mp he))]
    simp [h]

/-- A report puts the gauges that it moves into the table. -/
theorem isSome_launched_record (entry : Entry) (state : LaunchState) :
    ((m.record entry).launchedTable.get? [kind, target, rule, state.word]).isSome ↔
      entry ∈ Entry.movers kind target rule state ∨
        (m.launchedTable.get? [kind, target, rule, state.word]).isSome := by
  cases entry with
  | requested kind' rule' alert' =>
    show (m.launchedTable.get? _).isSome ↔ _
    cases state <;> simp [Entry.movers]
  | started kind' target' rule' =>
    show ((m.addLaunched kind' target' rule' .running 1).launchedTable.get? _).isSome ↔ _
    rw [isSome_addLaunched]
    cases state <;> simp [Entry.movers]
  | completed kind' target' rule' =>
    show (((m.addLaunched kind' target' rule' .running (-1)).addLaunched kind' target' rule'
      .completed 1).launchedTable.get? _).isSome ↔ _
    rw [isSome_addLaunched, isSome_addLaunched]
    cases state <;> simp [Entry.movers]
  | failed kind' target' rule' =>
    show ((m.addLaunched kind' target' rule' .failed 1).launchedTable.get? _).isSome ↔ _
    rw [isSome_addLaunched]
    cases state <;> simp [Entry.movers]

/-- A gauge is in the table iff something has moved it. -/
theorem isSome_launched_foldl (state : LaunchState) :
    ∀ (book : List Entry) (m : Metrics),
      ((book.foldl record m).launchedTable.get? [kind, target, rule, state.word]).isSome ↔
        (∃ entry ∈ book, entry ∈ Entry.movers kind target rule state) ∨
          (m.launchedTable.get? [kind, target, rule, state.word]).isSome
  | [], m => by simp
  | entry :: r, m => by
    rw [List.foldl_cons, isSome_launched_foldl state r, isSome_launched_record]
    simp only [List.mem_cons, exists_eq_or_imp]
    rw [or_left_comm, or_assoc]

/-- A request puts its counter into the table. -/
theorem isSome_requested_record (alert : String) (entry : Entry) :
    ((m.record entry).requestedTable.get? [kind, rule, alert]).isSome ↔
      entry = .requested kind rule alert ∨ (m.requestedTable.get? [kind, rule, alert]).isSome := by
  cases entry with
  | requested kind' rule' alert' =>
    have hget : (m.record (.requested kind' rule' alert')).requestedTable.get? [kind, rule, alert]
        = (m.requestedTable.insert [kind', rule', alert']
          (m.requestedCount kind' rule' alert' + 1)).get? [kind, rule, alert] := rfl
    rw [hget, KeyMap.get?_insert]
    by_cases h : [kind, rule, alert] = [kind', rule', alert']
    · simp only [List.cons.injEq, and_true] at h
      obtain ⟨rfl, rfl, rfl⟩ := h
      simp
    · rw [if_neg h]
      have hentry : Entry.requested kind' rule' alert' ≠ .requested kind rule alert := by
        rintro ⟨⟩
        exact h rfl
      simp [hentry]
  | started _ _ _ => exact (or_iff_right nofun).symm
  | completed _ _ _ => exact (or_iff_right nofun).symm
  | failed _ _ _ => exact (or_iff_right nofun).symm

/-- A counter is in the table iff there has been such a request. -/
theorem isSome_requested_foldl (alert : String) :
    ∀ (book : List Entry) (m : Metrics),
      ((book.foldl record m).requestedTable.get? [kind, rule, alert]).isSome ↔
        .requested kind rule alert ∈ book ∨
          (m.requestedTable.get? [kind, rule, alert]).isSome
  | [], m => by simp
  | entry :: r, m => by
    rw [List.foldl_cons, isSome_requested_foldl alert r, isSome_requested_record, List.mem_cons]
    tauto

end Presence

/-- Whether every series belongs to a request, or to an action in one of the states. -/
structure Named (m : Metrics) : Prop where
  requested : ∀ key, (m.requestedTable.get? key).isSome →
    ∃ kind rule alert, key = [kind, rule, alert]
  launched : ∀ key, (m.launchedTable.get? key).isSome →
    ∃ kind target rule, ∃ state : LaunchState, key = [kind, target, rule, state.word]

namespace Named

variable {m : Metrics}

/-- No series is there to begin with. -/
theorem start : Named {} where
  requested := nofun
  launched := nofun

/-- A gauge that is moved has a name. -/
theorem addLaunched (h : m.Named) (kind target rule : String) (state : LaunchState) (delta : Int) :
    (m.addLaunched kind target rule state delta).Named where
  requested := h.requested
  launched := by
    intro key hkey
    by_cases hmoved : key = [kind, target, rule, state.word]
    · exact ⟨kind, target, rule, state, hmoved⟩
    · have hget : (m.addLaunched kind target rule state delta).launchedTable.get? key
          = m.launchedTable.get? key :=
        (KeyMap.get?_insert ..).trans (if_neg hmoved)
      rw [hget] at hkey
      exact h.launched key hkey

/-- Whatever is reported, series have names. -/
theorem record (h : m.Named) (entry : Entry) : (m.record entry).Named := by
  cases entry with
  | requested kind rule alert =>
    refine ⟨?_, h.launched⟩
    intro key hkey
    by_cases hcounted : key = [kind, rule, alert]
    · exact ⟨kind, rule, alert, hcounted⟩
    · have hget : (m.record (.requested kind rule alert)).requestedTable.get? key
          = m.requestedTable.get? key :=
        (KeyMap.get?_insert ..).trans (if_neg hcounted)
      rw [hget] at hkey
      exact h.requested key hkey
  | started kind target rule => exact h.addLaunched kind target rule .running 1
  | completed kind target rule =>
    exact (h.addLaunched kind target rule .running (-1)).addLaunched kind target rule .completed 1
  | failed kind target rule => exact h.addLaunched kind target rule .failed 1

/-- After any reports, series have names. -/
theorem foldl (book : List Entry) (h : m.Named) : (book.foldl Metrics.record m).Named := by
  induction book generalizing m with
  | nil => exact h
  | cons entry r ih => exact ih (h.record entry)

/-- Named series have as many values as there are labels. -/
theorem labelled (h : m.Named) : m.Labelled where
  requested := by
    rintro ⟨key, n⟩ hmem
    obtain ⟨kind, rule, alert, rfl⟩ :=
      h.requested key (Option.isSome_of_mem (KeyMap.get?_eq_some_iff.mpr hmem))
    rfl
  launched := by
    rintro ⟨key, n⟩ hmem
    obtain ⟨kind, target, rule, state, rfl⟩ :=
      h.launched key (Option.isSome_of_mem (KeyMap.get?_eq_some_iff.mpr hmem))
    rfl

end Named

/-- An entry of a map is a key that is bound, with what it is bound to. -/
theorem mem_entries_iff {α : Type} {t : KeyMap SeriesKey α} {key : SeriesKey} (default v : α) :
    (key, v) ∈ t.entries ↔ (t.get? key).isSome ∧ v = (t.get? key).getD default := by
  rw [← KeyMap.get?_eq_some_iff]
  cases t.get? key with
  | none => simp
  | some w => simp [eq_comm]

/-- **The requests after any reports**: those that have been made, with their numbers. -/
theorem mem_requestedRows_foldl (book : List Entry) (key : SeriesKey) (n : Int) :
    (key, n) ∈ (book.foldl record {}).requestedRows ↔ ∃ kind rule alert, key = [kind, rule, alert] ∧
      .requested kind rule alert ∈ book ∧ n = book.count (.requested kind rule alert) := by
  have hrow : (key, n) ∈ (book.foldl record {}).requestedRows ↔
      ∃ k : Nat, (key, k) ∈ (book.foldl record {}).requestedTable.entries ∧ n = k := by
    unfold requestedRows
    rw [List.mem_map]
    constructor
    · rintro ⟨⟨key', k⟩, hmem, ⟨⟩⟩
      exact ⟨k, hmem, rfl⟩
    · rintro ⟨k, hmem, rfl⟩
      exact ⟨(key, k), hmem, rfl⟩
  have hcount : ∀ kind rule alert, (((book.foldl record {}).requestedTable.get?
      [kind, rule, alert]).getD 0) = book.count (.requested kind rule alert) := by
    intro kind rule alert
    exact (requestedCount_foldl kind rule alert book {}).trans (Nat.zero_add _)
  simp only [hrow, mem_entries_iff 0]
  constructor
  · rintro ⟨k, ⟨hsome, rfl⟩, rfl⟩
    obtain ⟨kind, rule, alert, rfl⟩ := (Named.start.foldl book).requested key hsome
    refine ⟨kind, rule, alert, rfl, ?_, congrArg Nat.cast (hcount kind rule alert)⟩
    rcases (isSome_requested_foldl kind rule alert book {}).mp hsome with hmem | hnone
    · exact hmem
    · cases hnone
  · rintro ⟨kind, rule, alert, rfl, hmem, rfl⟩
    have hsome := (isSome_requested_foldl kind rule alert book {}).mpr (Or.inl hmem)
    exact ⟨_, ⟨hsome, rfl⟩, congrArg Nat.cast (hcount kind rule alert).symm⟩

/-- **The gauges after any reports**: those that have been moved, with their balances. -/
theorem mem_launchedTable_foldl (book : List Entry) (key : SeriesKey) (n : Int) :
    (key, n) ∈ (book.foldl record {}).launchedTable.entries ↔ ∃ kind target rule,
      ∃ state : LaunchState, key = [kind, target, rule, state.word] ∧
        (∃ entry ∈ book, entry ∈ Entry.movers kind target rule state) ∧
        n = Entry.balance book kind target rule state := by
  have hbalance : ∀ kind target rule, ∀ state : LaunchState,
      (((book.foldl record {}).launchedTable.get? [kind, target, rule, state.word]).getD 0)
        = Entry.balance book kind target rule state := by
    intro kind target rule state
    exact (launchedCount_foldl kind target rule state book {}).trans (Int.zero_add _)
  rw [mem_entries_iff 0]
  constructor
  · rintro ⟨hsome, rfl⟩
    obtain ⟨kind, target, rule, state, rfl⟩ := (Named.start.foldl book).launched key hsome
    refine ⟨kind, target, rule, state, rfl, ?_, hbalance kind target rule state⟩
    rcases (isSome_launched_foldl kind target rule state book {}).mp hsome with hmoved | hnone
    · exact hmoved
    · cases hnone
  · rintro ⟨kind, target, rule, state, rfl, hmoved, rfl⟩
    exact ⟨(isSome_launched_foldl kind target rule state book {}).mpr (Or.inl hmoved),
      (hbalance kind target rule state).symm⟩

/-! ## Exposition -/

/-- Lines say different things if they belong to different series, or show different values. -/
theorem line_inj {name name' : String} {labels labels' : List String} {key key' : SeriesKey}
    {v v' : Int} (plain : PlainNames name labels) (plain' : PlainNames name' labels')
    (length : key.length = labels.length) (length' : key'.length = labels'.length)
    (h : line name (labels.zip key) (toString v) = line name' (labels'.zip key') (toString v')) :
    name = name' ∧ labels = labels' ∧ key = key' ∧ v = v' := by
  have hline := toList_line ⟨name, labels.zip key, v⟩
  have hline' := toList_line ⟨name', labels'.zip key', v'⟩
  have hended : lineChars ⟨name, labels.zip key, v⟩ ++ ['\n']
      = lineChars ⟨name', labels'.zip key', v'⟩ ++ ['\n'] := by
    rw [← hline, ← hline']
    exact congrArg String.toList h
  have hchars := List.append_cancel_right hended
  obtain ⟨rfl, hzip, rfl⟩ := Sample.mk.inj
    (lineChars_inj (plain.plain length v) (plain'.plain length' v') hchars)
  have hlabels := congrArg (List.map Prod.fst) hzip
  rw [List.map_fst_zip (Nat.le_of_eq length.symm),
    List.map_fst_zip (Nat.le_of_eq length'.symm)] at hlabels
  have hkeys := congrArg (List.map Prod.snd) hzip
  rw [List.map_snd_zip (Nat.le_of_eq length), List.map_snd_zip (Nat.le_of_eq length')] at hkeys
  exact ⟨rfl, hlabels, hkeys, rfl⟩

/-- **The text of the metrics is unambiguous.**  Take any reports, with any texts as labels.

    - From the text both tables are read back, every series from a line of its own, in the order of
      the tables, which have no series twice.
    - A series is there iff something has been reported about it.  A counter is the number of its
      requests, and a gauge the balance of the reports.
    - A value is escaped by three replacements in a row.  It has no line break and no bare quote
      then, and different values are escaped differently.
    - Different series, of one table or of both, never have the same line. -/
theorem exposition (book : List Entry) :
    let m := book.foldl record {}
    (∃ samples, readSamples m.render = some samples ∧
      tableOf requestedName requestedLabels samples = m.requestedRows ∧
      tableOf launchedName launchedLabels samples = m.launchedTable.entries ∧
      samples.length = m.requestedTable.size + m.launchedTable.size ∧
      samples.length = (sampleLines m.render).length) ∧
    (sampleLines m.render).Nodup ∧
    SortedKeys m.requestedRows ∧ SortedKeys m.launchedTable.entries ∧
    (∀ key n, (key, n) ∈ m.requestedRows ↔ ∃ kind rule alert, key = [kind, rule, alert] ∧
      .requested kind rule alert ∈ book ∧ n = book.count (.requested kind rule alert)) ∧
    (∀ key n, (key, n) ∈ m.launchedTable.entries ↔ ∃ kind target rule,
      ∃ state : LaunchState, key = [kind, target, rule, state.word] ∧
        (∃ entry ∈ book, entry ∈ Entry.movers kind target rule state) ∧
        n = Entry.balance book kind target rule state) ∧
    (∀ value, (escapeLabel value).toList = replaceChar '\n' ['\\', 'n']
        (replaceChar '"' ['\\', '"'] (replaceChar '\\' ['\\', '\\'] value.toList)) ∧
      '\n' ∉ (escapeLabel value).toList ∧ hasBareQuote (escapeLabel value).toList = false) ∧
    Function.Injective escapeLabel ∧
    PlainNames requestedName requestedLabels ∧ PlainNames launchedName launchedLabels ∧
    ∀ name labels name' labels', PlainNames name labels → PlainNames name' labels' →
      ∀ (key key' : SeriesKey) (v v' : Int), key.length = labels.length →
        key'.length = labels'.length →
        line name (labels.zip key) (toString v) = line name' (labels'.zip key') (toString v') →
        name = name' ∧ labels = labels' ∧ key = key' ∧ v = v' := by
  intro m
  have hnamed : m.Named := Named.start.foldl book
  have hlabelled := hnamed.labelled
  obtain ⟨hrequested, hlaunched⟩ := hlabelled.tableOf_samples
  refine ⟨⟨m.samples, hlabelled.readSamples_render, hrequested, hlaunched, ?_, ?_⟩,
    hlabelled.nodup_sampleLines, List.pairwise_map.mpr m.requestedTable.sorted,
    m.launchedTable.sorted, mem_requestedRows_foldl book, mem_launchedTable_foldl book, ?_,
    fun a b => escapeLabel_inj, plainNames_requested, plainNames_launched, ?_⟩
  · simp [samples, samplesOf, requestedRows, KeyMap.size]
  · rw [hlabelled.sampleLines_render, List.length_map]
  · intro value
    exact ⟨escapeLabel_eq_replace value, newline_not_mem_escapeLabel value,
      hasBareQuote_escapeLabel value⟩
  · intro name labels name' labels' plain plain' key key' v v' length length' h
    exact line_inj plain plain' length length' h

end Healing.Metrics
