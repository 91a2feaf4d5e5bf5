/-
  The data of an alert in templates.

  Labels and annotations come from outside.  A reference puts them into the text as they are, and
  whatever they contain - braces, quotes, expressions of the template language - is never read as a
  part of the template.

  1. **References** - `AlertReference`: a label or an annotation, named with or without the alert.
  2. **Templates** - `alertText`, texts with references between them, and `alertFilled?`, the same
     with the values of an alert in their places.
  3. **Contexts** - what the references of a template start from, and where they lead.
  4. **Rendering** - `render_alertText`: what the engine makes of such a template.
  5. **Expansion** - `Alert.expandText_verbatim`.
-/
import Healing.Expansion
import Healing.Alert
import Healing.Proofs.KeyMap
import Healing.Proofs.Template.Filling

namespace Healing

open Template

/-! ## References -/

/-- The parts of an alert whose names come from outside. -/
inductive AlertPart where
  | labels
  | annotations

namespace AlertPart

/-- The name of a part. -/
def word : AlertPart → Word
  | .labels => .of ['l', 'a', 'b', 'e', 'l', 's'] (by decide)
  | .annotations => .of ['a', 'n', 'n', 'o', 't', 'a', 't', 'i', 'o', 'n', 's'] (by decide)

/-- The contents of a part. -/
def of (a : Alert) : AlertPart → KeyMap String String
  | .labels => a.labels
  | .annotations => a.annotations

/-- A part is the labels or the annotations. -/
theorem word_cases (part : AlertPart) (a : Alert) :
    part.word.text = "labels" ∧ part.of a = a.labels ∨
      part.word.text = "annotations" ∧ part.of a = a.annotations := by
  cases part with
  | labels => exact .inl ⟨rfl, rfl⟩
  | annotations => exact .inr ⟨rfl, rfl⟩

end AlertPart

/-- The name of the alert itself. -/
def alertWord : Word := .of ['a', 'l', 'e', 'r', 't'] (by decide)

/-- A reference to a label or an annotation; a long one goes by way of the alert. -/
structure AlertReference where
  long : Bool := false
  part : AlertPart
  key : Word

namespace AlertReference

variable (r : AlertReference)

/-- The reference as it is written. -/
def written : String :=
  (if r.long then "alert." else "") ++ r.part.word.text ++ "." ++ r.key.text

/-- The reference without going by way of the alert. -/
def short : AlertReference := { r with long := false }

/-- The value that an alert has for it. -/
def value? (a : Alert) : Option String := (r.part.of a).get? r.key.text

/-- The reference as a tag without blanks. -/
def reference : Reference where
  first := if r.long then alertWord else r.part.word
  others := if r.long then [r.part.word, r.key] else [r.key]
  lead_blank := List.forall_mem_nil _
  trail_blank := List.forall_mem_nil _
  alone := by split <;> nofun

/-- What stands between the marks of the tag. -/
theorem inside_reference : r.reference.inside = r.written.toList := by
  obtain ⟨long, part, key⟩ := r
  have hword : ∀ w : Word, w.text.toList = w.chars := fun w => String.toList_ofList
  unfold Reference.inside Reference.written Reference.tail written
  cases long with
  | false => simp [reference, hword]
  | true => simp [reference, hword, alertWord]

end AlertReference

/-! ## Templates -/

/-- Texts with references to an alert between them. -/
def alertText : List (String × AlertReference) → String → String
  | [], last => last
  | (literal, r) :: ps, last =>
    literal ++ "\x7b\x7b" ++ r.written ++ "\x7d\x7d" ++ alertText ps last

/-- The same texts with the values of an alert; none if it lacks one of them. -/
def alertFilled? (a : Alert) : List (String × AlertReference) → String → Option String
  | [], last => some last
  | (literal, r) :: ps, last =>
    (r.value? a).bind fun v => (alertFilled? a ps last).map fun more => literal ++ v ++ more

/-! ## Contexts -/

/-- What the references of a template about an alert start from. -/
def alertContext (a : Alert) : Json :=
  ((a.toJson.insertField "alert" a.toJson).insertField "labels" (.ofTexts a.labels)).insertField
    "annotations" (.ofTexts a.annotations)

/-- A pointer of one plain token leads to a field. -/
theorem pointer?_of_token {fields : List (String × Json)} {path n : String}
    (hpath : path.toList = '/' :: n.toList) (hsplit : n.toList.splitOn '/' = [n.toList])
    (hplain : Json.unescapeToken n.toList = n.toList) :
    (Json.obj fields).pointer? path = findValue? n fields := by
  unfold Json.pointer?
  rw [hpath]
  show (n.toList.splitOn '/').foldlM (fun j token => Json.child? j (Json.unescapeToken token)) _ = _
  rw [hsplit, List.foldlM_cons, hplain, Json.child?, String.ofList_toList]
  cases findValue? n fields <;> rfl

/-- An expander for alerts can be bound to every alert. -/
theorem bind_forAlerts (a : Alert) (delimiters : Option Delimiters) :
    (Expander.forAlerts delimiters).bind a.toJson
      = .ok ⟨delimiters.getD {}, alertContext a⟩ := by
  have hwhole : a.toJson.pointer? "" = some a.toJson := rfl
  have hlabels : a.toJson.pointer? "/labels" = some (.ofTexts a.labels) := by
    unfold Alert.toJson
    rw [pointer?_of_token (n := "labels") (by decide) (by decide) (by decide)]
    simp [findValue?_cons]
  have hannotations : a.toJson.pointer? "/annotations" = some (.ofTexts a.annotations) := by
    unfold Alert.toJson
    rw [pointer?_of_token (n := "annotations") (by decide) (by decide) (by decide)]
    simp [findValue?_cons]
  unfold Expander.bind Expander.forAlerts
  simp only [List.foldlM_cons, List.foldlM_nil, bindVariable, hwhole, hlabels, hannotations]
  rfl

/-- The parts of an alert, and the alert itself, among the fields of the context. -/
theorem step_alertContext (a : Alert) :
    step (some (alertContext a)) "alert" = .ok (some a.toJson) ∧ ∀ part : AlertPart,
      step (some (alertContext a)) part.word.text = .ok (some (.ofTexts (part.of a))) := by
  have hcontext : ∀ name, step (some (alertContext a)) name = .ok (findValue? name
      (insertEntry "annotations" (.ofTexts a.annotations)
        (insertEntry "labels" (.ofTexts a.labels) (insertEntry "alert" a.toJson _)))) :=
    fun _ => rfl
  refine ⟨?_, fun part => ?_⟩
  · rw [hcontext]
    simp [findValue?_insertEntry]
  · rw [hcontext]
    rcases part.word_cases a with ⟨hname, hpart⟩ | ⟨hname, hpart⟩
    · simp [hname, hpart, findValue?_insertEntry]
    · simp [hname, hpart, findValue?_insertEntry]

/-- The parts of an alert among its own fields. -/
theorem step_toJson (a : Alert) (part : AlertPart) :
    step (some a.toJson) part.word.text = .ok (some (.ofTexts (part.of a))) := by
  have hfields : ∀ name, step (some a.toJson) name = .ok (findValue? name _) := fun _ => rfl
  rw [hfields]
  rcases part.word_cases a with ⟨hname, hpart⟩ | ⟨hname, hpart⟩
  · simp [hname, hpart, findValue?_cons]
  · simp [hname, hpart, findValue?_cons]

/-- The texts of a map. -/
theorem step_ofTexts (m : KeyMap String String) (key : String) :
    step (some (.ofTexts m)) key = .ok ((m.get? key).map .str) :=
  congrArg Except.ok (findValue?_map Json.str key m.entries)

/-- **Where a reference leads**: to the label or annotation, or to nothing. -/
theorem follow_alertContext (a : Alert) (r : AlertReference) :
    follow (alertContext a) r.reference.names = .ok ((r.value? a).map .str) := by
  obtain ⟨long, part, key⟩ := r
  obtain ⟨halert, hpart⟩ := step_alertContext a
  cases long with
  | false =>
    have hnames : (⟨false, part, key⟩ : AlertReference).reference.names
        = [part.word.text, key.text] := rfl
    rw [hnames, follow, List.foldlM_cons, hpart]
    show List.foldlM step (some (.ofTexts (part.of a))) [key.text] = _
    rw [List.foldlM_cons, step_ofTexts]
    rfl
  | true =>
    have hnames : (⟨true, part, key⟩ : AlertReference).reference.names
        = ["alert", part.word.text, key.text] := rfl
    rw [hnames, follow, List.foldlM_cons, halert]
    show List.foldlM step (some a.toJson) [part.word.text, key.text] = _
    rw [List.foldlM_cons, step_toJson]
    show List.foldlM step (some (.ofTexts (part.of a))) [key.text] = _
    rw [List.foldlM_cons, step_ofTexts]
    rfl

/-! ## Rendering -/

/-- A text with references as literals and references. -/
def alertPiece (p : String × AlertReference) : Piece := ⟨p.1.toList, p.2.reference⟩

/-- A text with references is the source of its pieces, as there is nothing to escape in it. -/
theorem toList_alertText {ps : List (String × AlertReference)} {last : String}
    (hps : ∀ p ∈ ps, '\x7b' ∉ p.1.toList) (hlast : '\x7b' ∉ last.toList) :
    (alertText ps last).toList = source (ps.map alertPiece) last.toList := by
  induction ps with
  | nil => exact (escapeBraces_of_not_mem hlast).symm
  | cons p ps ih =>
    have htext := ih fun q hq => hps q (List.mem_cons_of_mem _ hq)
    have hliteral := escapeBraces_of_not_mem (hps p (List.mem_cons_self ..))
    simp only [alertText, List.map_cons, source, alertPiece, String.toList_append, htext, hliteral,
      AlertReference.inside_reference]
    simp

/-- The text that a reference leads to is the value of the alert. -/
theorem textAt?_alertContext (a : Alert) (r : AlertReference) :
    textAt? (alertContext a) r.reference = r.value? a := by
  unfold textAt?
  rw [follow_alertContext]
  cases r.value? a <;> rfl

/-- Filling in the pieces is filling in the values of the alert. -/
theorem fill?_alertPiece (a : Alert) (ps : List (String × AlertReference)) (last : String) :
    fill? (textAt? (alertContext a)) (ps.map alertPiece) last.toList = alertFilled? a ps last := by
  induction ps with
  | nil => exact congrArg some String.ofList_toList
  | cons p ps ih =>
    rw [List.map_cons, fill?, ih]
    show ((textAt? (alertContext a) p.2.reference).bind fun v =>
      (alertFilled? a ps last).map fun more => String.ofList p.1.toList ++ v ++ more) = _
    rw [textAt?_alertContext, String.ofList_toList]
    rfl

/-- Texts without braces and backslashes have nothing to escape. -/
theorem escapable_alertPiece {ps : List (String × AlertReference)} {last : String}
    (hps : ∀ p ∈ ps, '\x7b' ∉ p.1.toList ∧ '\\' ∉ p.1.toList) (hlast : '\\' ∉ last.toList) :
    Escapable (ps.map alertPiece) last.toList := by
  have hpiece : ∀ q ∈ ps.map alertPiece, '\x7b' ∉ q.literal ∧ '\\' ∉ q.literal := by
    intro q hq
    obtain ⟨p, hp, rfl⟩ := List.mem_map.mp hq
    exact hps p hp
  exact
    { unescaped := fun q hq => .of_not_mem (hpiece q hq).2
      apart := fun q hq =>
        ⟨fun h => (hpiece q hq).1 (List.mem_of_getLast? h),
          fun h => (hpiece q hq).2 (List.mem_of_getLast? h)⟩
      last_unescaped := .of_not_mem hlast }

/-- Rendering a template about an alert is filling it in. -/
theorem render_alertText (a : Alert) {ps : List (String × AlertReference)} {last : String}
    (hps : ∀ p ∈ ps, '\x7b' ∉ p.1.toList ∧ '\\' ∉ p.1.toList)
    (hlast : '\x7b' ∉ last.toList ∧ '\\' ∉ last.toList) :
    Binding.render ⟨{}, alertContext a⟩ (alertText ps last)
      = (outcomeOf (alertFilled? a ps last)).mapError (.rendering (alertText ps last)) := by
  have htext := toList_alertText (fun p hp => (hps p hp).1) hlast.1
  have hvalue : ∀ q ∈ ps.map alertPiece, follow (alertContext a) q.reference.names
      = .ok ((textAt? (alertContext a) q.reference).map .str) := by
    intro q hq
    obtain ⟨p, -, rfl⟩ := List.mem_map.mp hq
    show follow (alertContext a) p.2.reference.names
      = .ok ((textAt? (alertContext a) p.2.reference).map .str)
    rw [textAt?_alertContext]
    exact follow_alertContext a p.2
  have hrender := renderText_source (escapable_alertPiece hps hlast.2) _ hvalue
  rw [← htext, String.ofList_toList, fill?_alertPiece] at hrender
  unfold Binding.render
  split
  · -- a text without any double braces has no references
    rename_i hcut
    have hleft : ({} : Delimiters).left.toList = ['\x7b', '\x7b'] := by decide
    have hmark : ¬ ['\x7b', '\x7b'] <:+: (alertText ps last).toList := by
      rw [← hleft]
      exact Text.cutAt?_eq_none_iff.mp hcut
    rcases ps with _ | ⟨p, ps⟩
    · rfl
    · refine absurd ?_ hmark
      rw [htext]
      exact List.infix_append' _ ['\x7b', '\x7b'] _
  · have hrewrite : ({} : Delimiters).rewrite? (alertText ps last) = some (alertText ps last) :=
      if_pos rfl
    dsimp only
    rw [hrewrite]
    dsimp only
    rw [hrender]

/-- The values are all there if and only if the template can be filled in. -/
theorem isSome_alertFilled? (a : Alert) (ps : List (String × AlertReference)) (last : String) :
    (alertFilled? a ps last).isSome ↔ ∀ p ∈ ps, (p.2.part.of a).contains p.2.key.text := by
  induction ps with
  | nil => simp [alertFilled?]
  | cons p ps ih =>
    obtain ⟨literal, r⟩ := p
    have hcontains : (r.part.of a).contains r.key.text = (r.value? a).isSome := rfl
    rw [List.forall_mem_cons, ← ih, hcontains, alertFilled?]
    cases r.value? a with
    | none => simp
    | some v => simp

/-- Going by way of the alert makes no difference to the values. -/
theorem alertFilled?_congr (a : Alert) (last : String) :
    ∀ {ps qs : List (String × AlertReference)},
      ps.map (fun p => (p.1, p.2.short)) = qs.map (fun q => (q.1, q.2.short)) →
      alertFilled? a ps last = alertFilled? a qs last
  | [], [], _ => rfl
  | [], _ :: _, h => nomatch h
  | _ :: _, [], h => nomatch h
  | (literal, r) :: ps, (literal', r') :: qs, h => by
    rw [List.map_cons, List.map_cons] at h
    obtain ⟨hhead, htail⟩ := List.cons.inj h
    obtain ⟨hliteral, hshort⟩ := Prod.mk.inj hhead
    have hliteral : literal = literal' := hliteral
    have hvalue : r.value? a = r'.value? a := by
      show r.short.value? a = r'.short.value? a
      exact congrArg (fun x => AlertReference.value? x a) hshort
    rw [alertFilled?, alertFilled?, alertFilled?_congr a last htail, hvalue, hliteral]

/-! ## Expansion -/

/-- Expand a text about an alert with the default marks. -/
def Alert.expandText (a : Alert) (text : String) : Except ExpansionError String := do
  let binding ← (Expander.forAlerts none).bind a.toJson
  binding.render text

/-- Expanding a template is filling it in. -/
theorem Alert.expandText_alertText (a : Alert) {ps : List (String × AlertReference)} {last : String}
    (hps : ∀ p ∈ ps, '\x7b' ∉ p.1.toList ∧ '\\' ∉ p.1.toList)
    (hlast : '\x7b' ∉ last.toList ∧ '\\' ∉ last.toList) :
    a.expandText (alertText ps last)
      = (outcomeOf (alertFilled? a ps last)).mapError (.rendering (alertText ps last)) := by
  unfold expandText
  rw [bind_forAlerts]
  exact render_alertText a hps hlast

/-- **The data of an alert stays as it is.**  A text with references to labels and annotations can
    be expanded if and only if the alert has them all.  It becomes the same text with their values
    in the places of the references, whatever the values contain, and it makes no difference whether
    a reference goes by way of the alert. -/
theorem Alert.expandText_verbatim (a : Alert) {ps : List (String × AlertReference)} {last : String}
    (hps : ∀ p ∈ ps, '\x7b' ∉ p.1.toList ∧ '\\' ∉ p.1.toList)
    (hlast : '\x7b' ∉ last.toList ∧ '\\' ∉ last.toList) :
    ((∃ out, a.expandText (alertText ps last) = .ok out)
        ↔ ∀ p ∈ ps, (p.2.part.of a).contains p.2.key.text)
      ∧ (∀ out, a.expandText (alertText ps last) = .ok out ↔ alertFilled? a ps last = some out)
      ∧ ∀ qs : List (String × AlertReference),
        qs.map (fun q => (q.1, q.2.short)) = ps.map (fun p => (p.1, p.2.short)) →
        (a.expandText (alertText qs last)).toOption
          = (a.expandText (alertText ps last)).toOption := by
  have hok : ∀ out, a.expandText (alertText ps last) = .ok out
      ↔ alertFilled? a ps last = some out := by
    intro out
    rw [expandText_alertText a hps hlast]
    cases alertFilled? a ps last with
    | none => exact ⟨fun h => (nomatch h), fun h => (nomatch h)⟩
    | some text =>
      exact ⟨fun h => congrArg some (Except.ok.inj h),
        fun h => congrArg Except.ok (Option.some.inj h)⟩
  refine ⟨?_, hok, ?_⟩
  · rw [← isSome_alertFilled? a ps last, Option.isSome_iff_exists]
    exact exists_congr hok
  · intro qs hshort
    -- the literals are the same, so there is nothing to escape in them either
    have hqs : ∀ q ∈ qs, '\x7b' ∉ q.1.toList ∧ '\\' ∉ q.1.toList := by
      intro q hq
      have hmem := List.mem_map_of_mem (f := fun q => (q.1, q.2.short)) hq
      rw [hshort] at hmem
      obtain ⟨p, hp, heq⟩ := List.mem_map.mp hmem
      rw [← (Prod.mk.inj heq).1]
      exact hps p hp
    rw [expandText_alertText a hps hlast, expandText_alertText a hqs hlast,
      alertFilled?_congr a last hshort]
    cases alertFilled? a ps last <;> rfl

namespace Quoting

/-- An alert whose annotation looks like a template. -/
def alert : Alert where
  labels := (∅ : KeyMap String String).insert "host" "a\\<b>"
  annotations := (∅ : KeyMap String String).insert "note"
    "\x7b\x7blabels.host\x7d\x7d & \x7b\x7b#if\x7d\x7d\n"

/-- The key of the label. -/
def host : Word := .of ['h', 'o', 's', 't'] (by decide)

/-- The key of the annotation. -/
def note : Word := .of ['n', 'o', 't', 'e'] (by decide)

/-- Texts that refer to both. -/
def parts : List (String × AlertReference) :=
  [("on ", ⟨false, .labels, host⟩), (": ", ⟨true, .annotations, note⟩)]

/-- An annotation with references and blocks in it comes out as it is. -/
theorem expandText_verbatim_of_quoted :
    alertText parts "."
        = "on \x7b\x7blabels.host\x7d\x7d: \x7b\x7balert.annotations.note\x7d\x7d."
      ∧ alert.expandText (alertText parts ".")
        = .ok "on a\\<b>: \x7b\x7blabels.host\x7d\x7d & \x7b\x7b#if\x7d\x7d\n." := by
  have hparts : ∀ p ∈ parts, '\x7b' ∉ p.1.toList ∧ '\\' ∉ p.1.toList := by decide
  have hlast : '\x7b' ∉ ".".toList ∧ '\\' ∉ ".".toList := by decide
  exact ⟨by decide, ((alert.expandText_verbatim hparts hlast).2.1 _).mpr (by decide)⟩

end Quoting

end Healing
