/-
  Which values describe a rule.

  A rule is read from an object iff its known fields have the right types, its metadata are there,
  and one of the two actions is given, and not both; a field that is null gives no action.

  1. **Types** - texts, maps of texts, values that may be null, and the tables `Delimiters.types`,
     `AwxJob.types`, `Rule.metadataTypes` and `Rule.types`.
  2. **Reading by type** - one lemma for each type: a value is read iff it has the type.
  3. **Rules** - `Rule.read_iff`.
-/
import Healing.Proofs.Record
import Healing.Rule
import Mathlib.Logic.Basic

namespace Healing

/-! ## Types -/

namespace Json

/-- A text. -/
def IsText (j : Json) : Prop := ∃ s, j = .str s

/-- An object with texts only. -/
def IsTextMap (j : Json) : Prop := ∃ fields, j = .obj fields ∧ ∀ f ∈ fields, f.2.IsText

/-- A value that a batch job can be read from. -/
def IsBatchJob (j : Json) : Prop := ∃ job, Kubernetes.Job.read (.ofJson j) = .ok job

/-- Null, or a value of a type. -/
def OrNull (P : Json → Prop) (j : Json) : Prop := j = .null ∨ P j

end Json

/-- The fields of delimiters. -/
def Delimiters.types : List (String × (Json → Prop)) :=
  [("left", Json.IsText), ("right", Json.IsText)]

/-- The fields of an AWX job; its variables may be anything. -/
def AwxJob.types : List (String × (Json → Prop)) :=
  [("template", Json.IsText), ("extraVars", fun _ => True), ("limit", Json.OrNull Json.IsText)]

namespace Rule

/-- The fields of the metadata of a rule. -/
def metadataTypes : List (String × (Json → Prop)) :=
  [("name", Json.IsText), ("namespace", Json.OrNull Json.IsText),
    ("resourceVersion", Json.OrNull Json.IsText)]

/-- The fields of a rule. -/
def types : List (String × (Json → Prop)) :=
  [("metadata", Json.IsRecord metadataTypes ["name"]),
    ("labels", Json.IsTextMap),
    ("annotations", Json.IsTextMap),
    ("delimiters", Json.OrNull (Json.IsRecord Delimiters.types ["left", "right"])),
    ("awxJob", Json.OrNull (Json.IsRecord AwxJob.types ["template"])),
    ("batchJob", Json.OrNull Json.IsBatchJob)]

/-- A field is there and not null. -/
def Active (name : String) (fields : List (String × Json)) : Prop :=
  ∃ j, (name, j) ∈ fields ∧ j ≠ .null

/-- **Fields that describe a rule**: no known field is given twice, all of them have their types,
    the metadata are there, and exactly one of the actions is there and not null. -/
structure Described (fields : List (String × Json)) : Prop where
  declared : Json.Declared types fields
  metadata : ∃ j, ("metadata", j) ∈ fields
  action : Xor (Active "awxJob" fields) (Active "batchJob" fields)

end Rule

/-! ## Reading by type -/

namespace Document

/-- A text is read from a text. -/
theorem exists_text_iff {j : Json} : (∃ s, text (ofJson j) = .ok s) ↔ j.IsText := by
  cases j with
  | str s => exact ⟨fun _ => ⟨s, rfl⟩, fun _ => ⟨s, rfl⟩⟩
  | _ => exact ⟨nofun, nofun⟩

/-- What may be null is read from null or from what it is read from anyway. -/
theorem exists_optional_iff {α : Type} {read : Document → Except ReadError α} {P : Json → Prop}
    {j : Json} (hread : (∃ a, read (ofJson j) = .ok a) ↔ P j) :
    (∃ o, optional read (ofJson j) = .ok o) ↔ j.OrNull P := by
  have hsome : (∃ o, some <$> read (ofJson j) = .ok o) ↔ P j :=
    Except.exists_bind_ok_iff.trans hread
  cases j with
  | null => exact ⟨fun _ => .inl rfl, fun _ => ⟨none, rfl⟩⟩
  | _ =>
    refine hsome.trans ⟨.inr, ?_⟩
    rintro (⟨⟨⟩⟩ | h)
    exact h

/-- What may be null is nothing iff it is null. -/
theorem isSome_of_optional {α : Type} {read : Document → Except ReadError α} {j : Json}
    {o : Option α} (h : optional read (ofJson j) = .ok o) : o.isSome ↔ j ≠ .null := by
  cases j with
  | null =>
    cases h
    exact ⟨nofun, fun h => absurd rfl h⟩
  | _ =>
    obtain ⟨a, -, rfl⟩ := Except.map_eq_ok_iff.mp h
    exact ⟨nofun, fun _ => rfl⟩

/-- Every value is read as a value of any type. -/
theorem exists_value (j : Json) : ∃ v, value (ofJson j) = .ok v := by
  induction j using Json.induct with
  | arr items ih =>
    have hitems : ∃ vs, valueItems (ofItems items) = .ok vs := by
      induction items with
      | nil => exact ⟨[], rfl⟩
      | cons j r ihr =>
        obtain ⟨⟨v, hv⟩, hr⟩ := List.forall_mem_cons.mp ih
        obtain ⟨vs, hvs⟩ := ihr hr
        exact ⟨v :: vs, Except.bind_eq_ok_iff.mpr ⟨v, hv, Except.bind_eq_ok_iff.mpr ⟨vs, hvs, rfl⟩⟩⟩
    obtain ⟨vs, hvs⟩ := hitems
    exact ⟨.arr vs, Except.bind_eq_ok_iff.mpr ⟨vs, hvs, rfl⟩⟩
  | obj fields ih =>
    have hfields : ∀ before, ∃ after, valueEntries (ofFields fields) before = .ok after := by
      induction fields with
      | nil => exact fun before => ⟨before, rfl⟩
      | cons f r ihr =>
        intro before
        obtain ⟨⟨v, hv⟩, hr⟩ := List.forall_mem_cons.mp ih
        obtain ⟨after, hafter⟩ := ihr hr (insertEntry f.1 v before)
        refine ⟨after, ?_⟩
        show (value (ofJson f.2) >>= fun v =>
          valueEntries (ofFields r) (insertEntry f.1 v before)) = _
        exact Except.bind_eq_ok_iff.mpr ⟨v, hv, hafter⟩
    obtain ⟨after, hafter⟩ := hfields []
    exact ⟨.obj after, Except.bind_eq_ok_iff.mpr ⟨after, hafter, rfl⟩⟩
  | _ => exact ⟨_, rfl⟩

/-- Entries are read iff every value is. -/
theorem exists_readEntries_iff {α : Type} {read : Document → Except ReadError α}
    (fields : List (String × Json)) :
    ∀ {before : KeyMap String α}, (∃ m, readEntries read (ofFields fields) before = .ok m) ↔
      ∀ f ∈ fields, ∃ a, read (ofJson f.2) = .ok a := by
  induction fields with
  | nil => exact fun {before} => ⟨fun _ => nofun, fun _ => ⟨before, rfl⟩⟩
  | cons f r ih =>
    intro before
    have hstep : ∀ {m : KeyMap String α}, readEntries read (ofFields (f :: r)) before = .ok m ↔
        ∃ a, read (ofJson f.2) = .ok a ∧
          readEntries read (ofFields r) (before.insert f.1 a) = .ok m := by
      intro m
      show (read (ofJson f.2) >>= fun a => readEntries read (ofFields r) (before.insert f.1 a)) = _
        ↔ _
      exact Except.bind_eq_ok_iff
    rw [List.forall_mem_cons]
    constructor
    · rintro ⟨m, h⟩
      obtain ⟨a, ha, h⟩ := hstep.mp h
      exact ⟨⟨a, ha⟩, ih.mp ⟨m, h⟩⟩
    · rintro ⟨⟨a, ha⟩, hr⟩
      obtain ⟨m, h⟩ := ih.mpr hr
      exact ⟨m, hstep.mpr ⟨a, ha, h⟩⟩

/-- A map of texts is read from a map of texts. -/
theorem exists_mapOf_text_iff {j : Json} :
    (∃ m, mapOf text (ofJson j) = .ok m) ↔ j.IsTextMap := by
  cases j with
  | obj fields =>
    have hread : (∃ m, mapOf text (ofJson (.obj fields)) = .ok m) ↔
        ∃ m, readEntries text (ofFields fields) ∅ = .ok m :=
      Except.exists_bind_ok_iff (f := id)
    rw [hread, exists_readEntries_iff]
    constructor
    · exact fun h => ⟨fields, rfl, fun f hf => exists_text_iff.mp (h f hf)⟩
    · rintro ⟨_, ⟨⟩, h⟩
      exact fun f hf => exists_text_iff.mpr (h f hf)
  | _ =>
    constructor
    · rintro ⟨m, ⟨⟩⟩
    · rintro ⟨fields, ⟨⟩, -⟩

/-- A field that has to be there can be taken iff it has been read. -/
theorem exists_required_iff {α : Type} {o : Option α} : (∃ a, required o = .ok a) ↔ o.isSome := by
  cases o with
  | none => exact ⟨nofun, nofun⟩
  | some a => exact ⟨fun _ => rfl, fun _ => ⟨a, rfl⟩⟩

end Document

open Document

/-- **Delimiters** are read from both of their marks. -/
theorem Delimiters.exists_read_iff {j : Json} :
    (∃ d, Delimiters.read (ofJson j) = .ok d) ↔ j.IsRecord types ["left", "right"] := by
  refine record_iff types (by decide) ?_ fun {fields s} given hnodup h => ?_
  · intro t ht s j
    simp only [types, List.mem_cons, List.not_mem_nil, or_false] at ht
    rcases ht with rfl | rfl <;> exact Except.exists_bind_ok_iff.trans exists_text_iff
  · have hleft : s.1.isSome ↔ ∃ j, ("left", j) ∈ fields := by
      refine isSome_required_iff (·.1) "left" (by decide) ?_ ?_ rfl hnodup h
      · intro s s' j hs
        obtain ⟨t, -, ⟨⟩⟩ := Except.bind_eq_ok_iff.mp hs
        rfl
      · intro other hother hne s s' j hs
        simp only [types, List.map_cons, List.map_nil, List.mem_cons, List.not_mem_nil,
          or_false] at hother
        rcases hother with rfl | rfl
        · exact absurd rfl hne
        · obtain ⟨t, -, ⟨⟩⟩ := Except.bind_eq_ok_iff.mp hs
          rfl
    have hright : s.2.isSome ↔ ∃ j, ("right", j) ∈ fields := by
      refine isSome_required_iff (·.2) "right" (by decide) ?_ ?_ rfl hnodup h
      · intro s s' j hs
        obtain ⟨t, -, ⟨⟩⟩ := Except.bind_eq_ok_iff.mp hs
        rfl
      · intro other hother hne s s' j hs
        simp only [types, List.map_cons, List.map_nil, List.mem_cons, List.not_mem_nil,
          or_false] at hother
        rcases hother with rfl | rfl
        · obtain ⟨t, -, ⟨⟩⟩ := Except.bind_eq_ok_iff.mp hs
          rfl
        · exact absurd rfl hne
    have hboth : (∃ d, (do .ok { left := ← required s.1, right := ← required s.2 } :
        Except ReadError Delimiters) = .ok d) ↔ s.1.isSome ∧ s.2.isSome := by
      obtain ⟨left, right⟩ := s
      cases left with
      | none => exact ⟨nofun, nofun⟩
      | some l =>
        cases right with
        | none => exact ⟨nofun, nofun⟩
        | some r => exact ⟨fun _ => ⟨rfl, rfl⟩, fun _ => ⟨⟨l, r⟩, rfl⟩⟩
    rw [List.forall_mem_cons, List.forall_mem_singleton, ← hleft, ← hright]
    exact hboth

/-- **AWX jobs** are read from a template, variables and a limit. -/
theorem AwxJob.exists_read_iff {j : Json} :
    (∃ job, AwxJob.read (ofJson j) = .ok job) ↔ j.IsRecord types ["template"] := by
  refine record_iff types (by decide) ?_ fun {fields s} given hnodup h => ?_
  · intro t ht s j
    simp only [types, List.mem_cons, List.not_mem_nil, or_false] at ht
    rcases ht with rfl | rfl | rfl
    · exact Except.exists_bind_ok_iff.trans exists_text_iff
    · exact Except.exists_bind_ok_iff.trans (iff_true_intro (exists_value j))
    · exact Except.exists_bind_ok_iff.trans (exists_optional_iff exists_text_iff)
  · have htemplate : s.1.isSome ↔ ∃ j, ("template", j) ∈ fields := by
      refine isSome_required_iff (·.1) "template" (by decide) ?_ ?_ rfl hnodup h
      · intro s s' j hs
        obtain ⟨t, -, ⟨⟩⟩ := Except.bind_eq_ok_iff.mp hs
        rfl
      · intro other hother hne s s' j hs
        simp only [types, List.map_cons, List.map_nil, List.mem_cons, List.not_mem_nil,
          or_false] at hother
        rcases hother with rfl | rfl | rfl
        · exact absurd rfl hne
        all_goals
          obtain ⟨t, -, ⟨⟩⟩ := Except.bind_eq_ok_iff.mp hs
          rfl
    rw [List.forall_mem_singleton, ← htemplate, ← exists_required_iff]
    exact Except.exists_bind_ok_iff

namespace Rule

/-- **Metadata** are read from a name, a namespace and a version. -/
theorem exists_readMetadata_iff {j : Json} :
    (∃ m, readMetadata (ofJson j) = .ok m) ↔ j.IsRecord metadataTypes ["name"] := by
  refine record_iff metadataTypes (by decide) ?_ fun {fields s} given hnodup h => ?_
  · intro t ht s j
    simp only [metadataTypes, List.mem_cons, List.not_mem_nil, or_false] at ht
    rcases ht with rfl | rfl | rfl
    · exact Except.exists_bind_ok_iff.trans exists_text_iff
    · exact Except.exists_bind_ok_iff.trans (exists_optional_iff exists_text_iff)
    · exact Except.exists_bind_ok_iff.trans (exists_optional_iff exists_text_iff)
  · have hname : s.1.isSome ↔ ∃ j, ("name", j) ∈ fields := by
      refine isSome_required_iff (·.1) "name" (by decide) ?_ ?_ rfl hnodup h
      · intro s s' j hs
        obtain ⟨t, -, ⟨⟩⟩ := Except.bind_eq_ok_iff.mp hs
        rfl
      · intro other hother hne s s' j hs
        simp only [metadataTypes, List.map_cons, List.map_nil, List.mem_cons, List.not_mem_nil,
          or_false] at hother
        rcases hother with rfl | rfl | rfl
        · exact absurd rfl hne
        all_goals
          obtain ⟨t, -, ⟨⟩⟩ := Except.bind_eq_ok_iff.mp hs
          rfl
    rw [List.forall_mem_singleton, ← hname, ← exists_required_iff]
    exact Except.exists_bind_ok_iff

/-- An action is chosen iff exactly one has been read. -/
theorem exists_action_iff {d : Draft} (name : String) :
    (∃ a, d.action name = .ok a) ↔ Xor (d.awxJob.isSome : Prop) d.batchJob.isSome := by
  unfold Draft.action
  cases d.awxJob with
  | none =>
    cases d.batchJob with
    | none => exact ⟨nofun, nofun⟩
    | some job => exact ⟨fun _ => .inr ⟨rfl, nofun⟩, fun _ => ⟨.batch job, rfl⟩⟩
  | some job =>
    cases d.batchJob with
    | none => exact ⟨fun _ => .inl ⟨rfl, nofun⟩, fun _ => ⟨.awx job, rfl⟩⟩
    | some job' =>
      constructor
      · exact nofun
      · rintro (⟨-, h⟩ | ⟨-, h⟩)
        · exact absurd rfl h
        · exact absurd rfl h

/-- A field of a rule sets nothing but its own. -/
theorem eq_of_readField {name : String} (hname : name ∈ types.map (·.1)) {s s' : Draft}
    {d : Document} (h : readField s name d = .ok s') :
    (name ≠ "metadata" → s'.metadata = s.metadata) ∧ (name ≠ "awxJob" → s'.awxJob = s.awxJob) ∧
      (name ≠ "batchJob" → s'.batchJob = s.batchJob) := by
  simp only [types, List.map_cons, List.map_nil, List.mem_cons, List.not_mem_nil,
    or_false] at hname
  rcases hname with rfl | rfl | rfl | rfl | rfl | rfl
  all_goals
    obtain ⟨a, -, ⟨⟩⟩ := Except.bind_eq_ok_iff.mp h
    refine ⟨fun hne => ?_, fun hne => ?_, fun hne => ?_⟩
    all_goals first | rfl | exact absurd rfl hne

/-- Each field of a rule is read iff it has its type. -/
theorem exists_readField_iff :
    ∀ t ∈ types, ∀ s j, (∃ s', readField s t.1 (ofJson j) = .ok s') ↔ t.2 j := by
  intro t ht s j
  simp only [types, List.mem_cons, List.not_mem_nil, or_false] at ht
  rcases ht with rfl | rfl | rfl | rfl | rfl | rfl
  · exact Except.exists_bind_ok_iff.trans exists_readMetadata_iff
  · exact Except.exists_bind_ok_iff.trans exists_mapOf_text_iff
  · exact Except.exists_bind_ok_iff.trans exists_mapOf_text_iff
  · exact Except.exists_bind_ok_iff.trans (exists_optional_iff Delimiters.exists_read_iff)
  · exact Except.exists_bind_ok_iff.trans (exists_optional_iff AwxJob.exists_read_iff)
  · exact Except.exists_bind_ok_iff.trans (exists_optional_iff (P := Json.IsBatchJob) Iff.rfl)

/-- What has been read of a rule: the metadata iff they are there, and an action iff it is there and
    not null. -/
theorem draft_iff {fields : List (String × Json)} {s : Draft}
    (hnodup : ((known (types.map (·.1)) fields).map (·.1)).Nodup)
    (h : (known (types.map (·.1)) fields).foldlM (stepOf readField) {} = .ok s) :
    (s.metadata.isSome ↔ ∃ j, ("metadata", j) ∈ fields) ∧
      (s.awxJob.isSome ↔ Active "awxJob" fields) ∧
      (s.batchJob.isSome ↔ Active "batchJob" fields) := by
  refine ⟨?_, ?_, ?_⟩
  · refine isSome_required_iff Draft.metadata "metadata" (by decide) ?_ ?_ rfl hnodup h
    · intro s s' j hs
      obtain ⟨m, -, ⟨⟩⟩ := Except.bind_eq_ok_iff.mp hs
      rfl
    · exact fun other hother hne _ _ _ hs => (eq_of_readField hother hs).1 hne
  · refine isSome_field_iff Draft.awxJob (· ≠ .null) "awxJob" (by decide) ?_ ?_ rfl hnodup h
    · intro s s' j hs
      obtain ⟨o, ho, ⟨⟩⟩ := Except.bind_eq_ok_iff.mp hs
      exact isSome_of_optional ho
    · exact fun other hother hne _ _ _ hs => (eq_of_readField hother hs).2.1 hne
  · refine isSome_field_iff Draft.batchJob (· ≠ .null) "batchJob" (by decide) ?_ ?_ rfl hnodup h
    · intro s s' j hs
      obtain ⟨o, ho, ⟨⟩⟩ := Except.bind_eq_ok_iff.mp hs
      exact isSome_of_optional ho
    · exact fun other hother hne _ _ _ hs => (eq_of_readField hother hs).2.2 hne

/-- **Rules** are read from fields that describe one. -/
theorem read_iff (fields : List (String × Json)) :
    (∃ r, Rule.read (ofJson (.obj fields)) = .ok r) ↔ Described fields := by
  have hrecord : (∃ r, Rule.read (ofJson (.obj fields)) = .ok r) ↔
      ∃ fields', (Json.obj fields).given? (types.map (·.1)) = some fields' ∧
        Json.Declared types fields' ∧ (∃ j, ("metadata", j) ∈ fields') ∧
          Xor (Active "awxJob" fields') (Active "batchJob" fields') := by
    refine record_iff types (by decide) exists_readField_iff fun {fields s} given hnodup h => ?_
    obtain ⟨hmetadata, hawx, hbatch⟩ := draft_iff hnodup h
    rw [← hmetadata, ← hawx, ← hbatch]
    -- behind the fields, the metadata have to be there and one action has to be chosen
    constructor
    · rintro ⟨r, h⟩
      obtain ⟨⟨name, space, version⟩, hm, h⟩ := Except.bind_eq_ok_iff.mp h
      obtain ⟨action, ha, -⟩ := Except.bind_eq_ok_iff.mp h
      exact ⟨exists_required_iff.mp ⟨_, hm⟩, (exists_action_iff name).mp ⟨action, ha⟩⟩
    · rintro ⟨hm, ha⟩
      obtain ⟨⟨name, space, version⟩, hm⟩ := exists_required_iff.mpr hm
      obtain ⟨action, ha⟩ := (exists_action_iff name).mpr ha
      exact ⟨_, Except.bind_eq_ok_iff.mpr ⟨_, hm, Except.bind_eq_ok_iff.mpr ⟨action, ha, rfl⟩⟩⟩
  rw [hrecord]
  constructor
  · rintro ⟨_, ⟨⟩, hdeclared, hmetadata, haction⟩
    exact ⟨hdeclared, hmetadata, haction⟩
  · rintro ⟨hdeclared, hmetadata, haction⟩
    exact ⟨fields, rfl, hdeclared, hmetadata, haction⟩

end Rule

end Healing
