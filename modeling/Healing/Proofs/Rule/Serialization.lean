/-
  Rules are read back from their texts.

  The written rule leaves out what is absent or empty, and writes its one action as one of two
  fields; the reader fills in what is left out.  So the text of a rule tells everything about it.

  1. **Parts** - `mapOf_ofTexts`, `AwxJob.read_toJson` and `Rule.readMetadata_toJson`.
  2. **Rules** - `Rule.read_toJson`, one field after the other.
  3. **Texts** - what is read from a JSON text can be written again: `Rule.Launching`,
     `Rule.bounded_toJson`.
  4. **Faithful texts** - `Rule.serialized_faithfully`.
-/
import Healing.Proofs.Digest
import Healing.Proofs.Json.Nesting
import Healing.Proofs.Rule.Reading

namespace Healing

open Document

/-! ## Parts -/

/-- A record is read from fields in its own order, some of which may be missing. -/
theorem Document.record_bind_eq_ok {σ β : Type} {names : List String}
    {step : σ → String → Document → Except ReadError σ} {start s : σ}
    {finish : σ × Given → Except ReadError β} {b : β} {fields : List (String × Json)}
    (hnames : names.Nodup) (hfields : (fields.map (·.1)).Sublist names)
    (hfold : fields.foldlM (stepOf step) start = .ok s)
    (hfinish : ∀ given, finish (s, given) = .ok b) :
    (record names start step (ofJson (.obj fields)) >>= finish) = .ok b := by
  have hknown : known names fields = fields :=
    known_eq_self fun f hf => hfields.subset (List.mem_map_of_mem hf)
  have hloop : ((known names fields).map (·.1)).Nodup ∧
      (known names fields).foldlM (stepOf step) start = .ok s := by
    rw [hknown]
    exact ⟨hnames.sublist hfields, hfold⟩
  obtain ⟨given, h⟩ := (record_ofJson_iff (j := .obj fields) hnames).mpr ⟨fields, rfl, hloop⟩
  exact Except.bind_eq_ok_iff.mpr ⟨(s, given), h, hfinish given⟩

/-- A map of texts is read back. -/
theorem mapOf_ofTexts (m : KeyMap String String) :
    mapOf text (ofJson (Json.ofTexts m)) = .ok m := by
  have hentries : ∀ (l : List (String × String)) (before : KeyMap String String),
      Document.readEntries text (ofFields (l.map fun e => (e.1, Json.str e.2))) before
        = .ok (l.foldl (fun (m : KeyMap String String) e => m.insert e.1 e.2) before) := by
    intro l
    induction l with
    | nil => exact fun _ => rfl
    | cons e r ih => exact fun before => ih (before.insert e.1 e.2)
  have hm : m.entries.foldl (fun (m : KeyMap String String) e => m.insert e.1 e.2) ∅ = m :=
    KeyMap.ofList_entries m
  refine Except.bind_eq_ok_iff.mpr ⟨m, ?_, rfl⟩
  rw [hentries, hm]

/-- The field of a text stands under its name, if it is there. -/
theorem Rule.map_fst_textField (name : String) (o : Option String) :
    ((Rule.textField name o).map (·.1)).Sublist [name] := by
  cases o with
  | none => exact List.nil_sublist _
  | some s => exact List.Sublist.refl _

/-- The field of a text holds a text. -/
theorem Rule.isText_of_mem_textField {name : String} {o : Option String} :
    ∀ f ∈ textField name o, f.2.IsText := by
  cases o with
  | none => exact nofun
  | some s => exact List.forall_mem_singleton.mpr ⟨s, rfl⟩

/-- An AWX job is written without its variables if they are null, or else with them. -/
theorem AwxJob.toJson_cases (job : AwxJob) :
    (job.extraVars = .null ∧
      job.toJson = .obj ([("template", .str job.template)] ++ Rule.textField "limit" job.limit)) ∨
    job.toJson = .obj ([("template", .str job.template), ("extraVars", job.extraVars)]
      ++ Rule.textField "limit" job.limit) := by
  obtain ⟨template, vars, limit⟩ := job
  cases vars with
  | null => cases limit <;> exact .inl ⟨rfl, rfl⟩
  | _ => cases limit <;> exact .inr rfl

/-- An AWX job is read back. -/
theorem AwxJob.read_toJson {job : AwxJob} (sorted : job.extraVars.Sorted) :
    AwxJob.read (ofJson job.toJson) = .ok job := by
  obtain ⟨template, vars, limit⟩ := job
  rcases AwxJob.toJson_cases ⟨template, vars, limit⟩ with ⟨rfl, hjson⟩ | hjson
  · rw [hjson]
    cases limit <;> rfl
  · rw [hjson]
    refine record_bind_eq_ok (s := (some template, ⟨"", vars, limit⟩)) (by decide) ?_ ?_
      fun _ => rfl
    · rw [List.map_append]
      exact (List.Sublist.refl ["template", "extraVars"]).append
        (Rule.map_fst_textField "limit" limit)
    · refine foldlM_append_eq_ok_iff.mpr ⟨(some template, ⟨"", vars, none⟩), ?_, ?_⟩
      · refine foldlM_cons_eq_ok_iff.mpr ⟨(some template, ⟨"", .null, none⟩), rfl, ?_⟩
        exact foldlM_cons_eq_ok_iff.mpr
          ⟨_, Except.bind_eq_ok_iff.mpr ⟨vars, value_ofJson sorted, rfl⟩, rfl⟩
      · cases limit <;> rfl

namespace Rule

/-- Metadata are read back. -/
theorem readMetadata_toJson (name : String) (space version : Option String) :
    readMetadata (ofJson (.obj ([("name", .str name)] ++ textField "namespace" space
      ++ textField "resourceVersion" version))) = .ok (name, space, version) := by
  cases space <;> cases version <;> rfl

/-- The field of a map stands under its name, if it is there. -/
theorem map_fst_mapField (name : String) (m : KeyMap String String) :
    ((mapField name m).map (·.1)).Sublist [name] := by
  unfold mapField
  split
  · exact List.nil_sublist _
  · exact List.Sublist.refl _

/-- A map is read from its field, and so is the empty map from no field. -/
theorem foldlM_mapField {name : String} {m : KeyMap String String} {s s' : Draft}
    (hempty : m = ∅ → s' = s) (hstep : readField s name (ofJson (.ofTexts m)) = .ok s') :
    (mapField name m).foldlM (stepOf readField) s = .ok s' := by
  unfold mapField
  split
  · rename_i h
    have hm : m = ∅ := KeyMap.ext (List.isEmpty_iff.mp h)
    rw [hempty hm]
    rfl
  · exact foldlM_cons_eq_ok_iff.mpr ⟨s', hstep, rfl⟩

/-- The field of delimiters, left out when there are none. -/
def delimitersField : Option Delimiters → List (String × Json)
  | some d => [("delimiters", d.toJson)]
  | none => []

/-- The fields in which a rule with an AWX action is written. -/
def fields (r : Rule) (job : AwxJob) : List (String × Json) :=
  [("metadata", .obj ([("name", .str r.name)] ++ textField "namespace" r.space
      ++ textField "resourceVersion" r.resourceVersion))]
    ++ mapField "labels" r.labels ++ mapField "annotations" r.annotations
    ++ delimitersField r.delimiters ++ [("awxJob", job.toJson)]

/-- A rule with an AWX action is the object of its fields. -/
theorem toJson_eq {r : Rule} {job : AwxJob} (haction : r.action = .awx job) :
    r.toJson = .obj (r.fields job) := by
  unfold toJson fields
  rw [haction]
  cases r.delimiters <;> rfl

/-- The fields of a rule are written in the order in which the reader lists them. -/
theorem map_fst_fields (r : Rule) (job : AwxJob) :
    ((r.fields job).map (·.1)).Sublist
      ["metadata", "labels", "annotations", "delimiters", "awxJob", "batchJob"] := by
  have hdelimiters : ((delimitersField r.delimiters).map (·.1)).Sublist ["delimiters"] := by
    cases r.delimiters with
    | none => exact List.nil_sublist _
    | some d => exact List.Sublist.refl _
  have haction : ["awxJob"].Sublist ["awxJob", "batchJob"] := by decide
  unfold fields
  simp only [List.map_append]
  exact ((((List.Sublist.refl ["metadata"]).append (map_fst_mapField "labels" r.labels)).append
    (map_fst_mapField "annotations" r.annotations)).append hdelimiters).append haction

/-- **A rule with an AWX action is read back.** -/
theorem read_toJson {r : Rule} {job : AwxJob} (haction : r.action = .awx job)
    (sorted : job.extraVars.Sorted) : Rule.read (ofJson r.toJson) = .ok r := by
  rw [toJson_eq haction]
  have hsub := map_fst_fields r job
  obtain ⟨name, space, version, labels, annotations, delimiters, action⟩ := r
  dsimp only at haction
  subst haction
  refine record_bind_eq_ok
    (s := ⟨some (name, space, version), labels, annotations, delimiters, some job, none⟩)
    (by decide) hsub ?_ fun _ => rfl
  -- each field sets its own part of the draft
  refine foldlM_append_eq_ok_iff.mpr
    ⟨⟨some (name, space, version), labels, annotations, delimiters, none, none⟩, ?_, ?_⟩
  · refine foldlM_append_eq_ok_iff.mpr
      ⟨⟨some (name, space, version), labels, annotations, none, none, none⟩, ?_, ?_⟩
    · refine foldlM_append_eq_ok_iff.mpr
        ⟨⟨some (name, space, version), labels, ∅, none, none, none⟩, ?_, ?_⟩
      · refine foldlM_append_eq_ok_iff.mpr
          ⟨⟨some (name, space, version), ∅, ∅, none, none, none⟩, ?_, ?_⟩
        · have hmetadata := readMetadata_toJson name space version
          exact foldlM_cons_eq_ok_iff.mpr
            ⟨_, Except.bind_eq_ok_iff.mpr ⟨_, hmetadata, rfl⟩, rfl⟩
        · refine foldlM_mapField ?_ (Except.bind_eq_ok_iff.mpr ⟨labels, mapOf_ofTexts labels, rfl⟩)
          rintro rfl
          rfl
      · refine foldlM_mapField ?_
          (Except.bind_eq_ok_iff.mpr ⟨annotations, mapOf_ofTexts annotations, rfl⟩)
        rintro rfl
        rfl
    · cases delimiters <;> rfl
  · have hjob : (ofJson job.toJson).optional AwxJob.read = .ok (some job) := by
      have hread := AwxJob.read_toJson sorted
      show some <$> AwxJob.read (ofJson job.toJson) = _
      rw [hread]
      rfl
    exact foldlM_cons_eq_ok_iff.mpr ⟨_, Except.bind_eq_ok_iff.mpr ⟨_, hjob, rfl⟩, rfl⟩

end Rule

/-! ## Texts -/

/-- A map of texts is written as one. -/
theorem Json.IsTextMap.ofTexts (m : KeyMap String String) : (Json.ofTexts m).IsTextMap := by
  refine ⟨_, rfl, fun f hf => ?_⟩
  obtain ⟨e, -, rfl⟩ := List.mem_map.mp hf
  exact ⟨e.2, rfl⟩

/-- A map of texts has whole numbers only, as it has none. -/
theorem Json.IsTextMap.whole {j : Json} (h : j.IsTextMap) : j.Whole := by
  obtain ⟨fields, rfl, h⟩ := h
  refine .obj fun f hf => ?_
  obtain ⟨s, hs⟩ := h f hf
  rw [hs]
  exact .str s

/-- A map of texts is one container. -/
theorem Json.IsTextMap.bounded {j : Json} (h : j.IsTextMap) (n : Nat) : j.Bounded (n + 1) := by
  obtain ⟨fields, rfl, h⟩ := h
  refine .obj fun f hf => ?_
  obtain ⟨s, hs⟩ := h f hf
  rw [hs]
  exact .str n s

/-- The parts of a bounded document lie one container deeper. -/
theorem Document.Bounded.parts {n : Nat} {d : Document} (bounded : d.Bounded (n + 1)) :
    ∀ p ∈ d.parts, p.Bounded n := by
  cases bounded with
  | list h => exact h
  | map h =>
    intro p hp
    obtain ⟨e, he, rfl⟩ := List.mem_map.mp hp
    exact h e he
  | _ => exact nofun

namespace AwxJob

/-- Each field of an AWX job is a text or its variables. -/
theorem exists_fields (job : AwxJob) :
    ∃ fields, job.toJson = .obj fields ∧ ∀ f ∈ fields, f.2.IsText ∨ f.2 = job.extraVars := by
  have hlimit : ∀ f ∈ Rule.textField "limit" job.limit, f.2.IsText ∨ f.2 = job.extraVars :=
    fun f hf => .inl (Rule.isText_of_mem_textField f hf)
  rcases job.toJson_cases with ⟨-, hjson⟩ | hjson
  · exact ⟨_, hjson, List.forall_mem_cons.mpr ⟨.inl ⟨_, rfl⟩, hlimit⟩⟩
  · exact ⟨_, hjson, List.forall_mem_cons.mpr
      ⟨.inl ⟨_, rfl⟩, List.forall_mem_cons.mpr ⟨.inr rfl, hlimit⟩⟩⟩

/-- An AWX job has whole numbers only if its variables do. -/
theorem whole_toJson {job : AwxJob} (whole : job.extraVars.Whole) : job.toJson.Whole := by
  obtain ⟨fields, hjson, h⟩ := job.exists_fields
  rw [hjson]
  refine .obj fun f hf => ?_
  rcases h f hf with ⟨s, hs⟩ | hvars
  · rw [hs]
    exact .str s
  · rw [hvars]
    exact whole

/-- An AWX job is one container around its variables. -/
theorem bounded_toJson {job : AwxJob} {n : Nat} (bounded : job.extraVars.Bounded n) :
    job.toJson.Bounded (n + 1) := by
  obtain ⟨fields, hjson, h⟩ := job.exists_fields
  rw [hjson]
  refine .obj fun f hf => ?_
  rcases h f hf with ⟨s, hs⟩ | hvars
  · rw [hs]
    exact .str n s
  · rw [hvars]
    exact bounded

/-- The variables that are read are in order and one container deeper than their job. -/
theorem extraVars_of_read {d : Document} {n : Nat} (bounded : d.Bounded (n + 1)) {job : AwxJob}
    (h : AwxJob.read d = .ok job) : job.extraVars.Sorted ∧ job.extraVars.Bounded n := by
  obtain ⟨⟨s, given⟩, hs, h⟩ := Except.bind_eq_ok_iff.mp h
  obtain ⟨template, -, ⟨⟩⟩ := Except.bind_eq_ok_iff.mp h
  refine record_invariant (P := fun s : Option String × AwxJob =>
    s.2.extraVars.Sorted ∧ s.2.extraVars.Bounded n) (fun p hp {s s' name} hkept h => ?_)
    ⟨.null, .null n⟩ hs
  dsimp only at h
  split at h
  · obtain ⟨t, -, ⟨⟩⟩ := Except.bind_eq_ok_iff.mp h
    exact hkept
  · obtain ⟨vars, hvars, ⟨⟩⟩ := Except.bind_eq_ok_iff.mp h
    have hp := bounded.parts p hp
    exact ⟨sorted_of_value hp.plain vars hvars, bounded_of_value hp vars hvars⟩
  · obtain ⟨limit, -, ⟨⟩⟩ := Except.bind_eq_ok_iff.mp h
    exact hkept

end AwxJob

namespace Rule

/-- The variables of a rule that is read are in order and two containers deeper than the rule. -/
theorem extraVars_of_read {d : Document} {n : Nat} (bounded : d.Bounded (n + 2)) {r : Rule}
    {job : AwxJob} (h : Rule.read d = .ok r) (haction : r.action = .awx job) :
    job.extraVars.Sorted ∧ job.extraVars.Bounded n := by
  obtain ⟨⟨draft, given⟩, hdraft, h⟩ := Except.bind_eq_ok_iff.mp h
  obtain ⟨⟨name, space, version⟩, -, h⟩ := Except.bind_eq_ok_iff.mp h
  obtain ⟨action, ha, ⟨⟩⟩ := Except.bind_eq_ok_iff.mp h
  dsimp only at haction
  subst haction
  have hjob : draft.awxJob = some job := by
    unfold Draft.action at ha
    split at ha
    · rename_i hawx _
      cases ha
      exact hawx
    all_goals cases ha
  refine record_invariant (P := fun s : Draft => ∀ job, s.awxJob = some job →
    job.extraVars.Sorted ∧ job.extraVars.Bounded n) (fun p hp {s s' name} hkept h => ?_)
    (fun _ h => nomatch (h : none = some _)) hdraft job hjob
  unfold readField at h
  split at h
  -- only the fifth field, the job, sets the job
  case h_5 =>
    obtain ⟨o, ho, ⟨⟩⟩ := Except.bind_eq_ok_iff.mp h
    rintro job rfl
    exact AwxJob.extraVars_of_read (bounded.parts p hp) (read_of_optional ho)
  all_goals
    obtain ⟨a, -, ⟨⟩⟩ := Except.bind_eq_ok_iff.mp h
    exact hkept

/-- Each field of a rule is a map of texts or its job. -/
theorem isTextMap_of_mem_fields (r : Rule) (job : AwxJob) :
    ∀ f ∈ r.fields job, f.2.IsTextMap ∨ f.2 = job.toJson := by
  have hmap : ∀ {name : String} {m : KeyMap String String},
      ∀ f ∈ mapField name m, f.2.IsTextMap := by
    intro name m f hf
    unfold mapField at hf
    split at hf
    · cases hf
    · rw [List.mem_singleton.mp hf]
      exact .ofTexts m
  have hmetadata : (Json.obj ([("name", .str r.name)] ++ textField "namespace" r.space
      ++ textField "resourceVersion" r.resourceVersion)).IsTextMap := by
    refine ⟨_, rfl, List.forall_mem_append.mpr ⟨List.forall_mem_append.mpr ⟨?_, ?_⟩, ?_⟩⟩
    · exact List.forall_mem_singleton.mpr ⟨r.name, rfl⟩
    · exact isText_of_mem_textField
    · exact isText_of_mem_textField
  have hdelimiters : ∀ f ∈ delimitersField r.delimiters, f.2.IsTextMap := by
    cases r.delimiters with
    | none => exact nofun
    | some d =>
      refine List.forall_mem_singleton.mpr ⟨_, rfl, List.forall_mem_cons.mpr ⟨⟨d.left, rfl⟩, ?_⟩⟩
      exact List.forall_mem_singleton.mpr ⟨d.right, rfl⟩
  -- the job stands behind all the other fields
  intro f hf
  rcases List.mem_append.mp hf with hf | hf
  · left
    rcases List.mem_append.mp hf with hf | hf
    · rcases List.mem_append.mp hf with hf | hf
      · rcases List.mem_append.mp hf with hf | hf
        · rw [List.mem_singleton.mp hf]
          exact hmetadata
        · exact hmap f hf
      · exact hmap f hf
    · exact hdelimiters f hf
  · right
    rw [List.mem_singleton.mp hf]

/-- A rule has whole numbers only if the variables of its job do. -/
theorem whole_toJson {r : Rule} {job : AwxJob} (haction : r.action = .awx job)
    (whole : job.extraVars.Whole) : r.toJson.Whole := by
  rw [toJson_eq haction]
  refine .obj fun f hf => ?_
  rcases isTextMap_of_mem_fields r job f hf with htexts | hjob
  · exact htexts.whole
  · rw [hjob]
    exact AwxJob.whole_toJson whole

/-- A rule is two containers around the variables of its job. -/
theorem bounded_toJson {r : Rule} {job : AwxJob} (haction : r.action = .awx job) {n : Nat}
    (bounded : job.extraVars.Bounded n) : r.toJson.Bounded (n + 2) := by
  rw [toJson_eq haction]
  refine .obj fun f hf => ?_
  rcases isTextMap_of_mem_fields r job f hf with htexts | hjob
  · exact htexts.bounded n
  · rw [hjob]
    exact AwxJob.bounded_toJson bounded

/-- **The text of a rule is read back**, if the variables are in order, have whole numbers that fit
    and leave room for the rule around them. -/
theorem decode_text {r : Rule} {job : AwxJob} (haction : r.action = .awx job)
    (sorted : job.extraVars.Sorted) (whole : job.extraVars.Whole)
    (bounded : job.extraVars.Bounded (Json.maxDepth - 2)) :
    Json.decode Rule.read r.text = .ok r := by
  rw [text, Json.decode_compress Rule.read (whole_toJson haction whole)
    (bounded_toJson haction bounded)]
  exact read_toJson haction sorted

/-! ## Faithful texts -/

/-- A rule that has been read from a JSON text and launches an AWX job, with whole numbers in the
    variables of the job. -/
structure Launching (r : Rule) : Prop where
  read : ∃ text, Json.decode Rule.read text = .ok r
  whole : ∃ job, r.action = .awx job ∧ job.extraVars.Whole

/-- Such a rule is read back from its own text. -/
theorem Launching.decode_text {r : Rule} (launching : r.Launching) :
    Json.decode Rule.read r.text = .ok r := by
  obtain ⟨text, h⟩ := launching.read
  obtain ⟨job, haction, whole⟩ := launching.whole
  obtain ⟨r', hr, h⟩ := Except.bind_eq_ok_iff.mp h
  obtain ⟨-, -, ⟨⟩⟩ := Except.bind_eq_ok_iff.mp h
  obtain ⟨sorted, bounded⟩ := extraVars_of_read (Document.bounded_ofText text) hr haction
  exact Rule.decode_text haction sorted whole bounded

/-- Different rules of this kind have different texts. -/
theorem Launching.text_ne {r r' : Rule} (launching : r.Launching) (launching' : r'.Launching)
    (hne : r ≠ r') : r.text ≠ r'.text := by
  intro htext
  have h := launching.decode_text
  rw [htext, launching'.decode_text] at h
  exact hne (Except.ok.inj h).symm

/-- An object that a text spells out is read from the text like the object itself. -/
theorem exists_decode_iff {text : String} {fields : List (String × Json)}
    (h : Document.ofText text = (ofJson (.obj fields), none)) :
    (∃ r, Json.decode Rule.read text = .ok r) ↔ Described fields := by
  rw [← read_iff]
  unfold Json.decode
  rw [h]
  show (∃ r, (Rule.read (ofJson (.obj fields)) >>= fun r => Except.ok r) = .ok r) ↔ _
  exact Except.exists_bind_ok_iff (f := id)

/-- **Serialization is faithful.**  A rule with an AWX job that has been read from a JSON text is
    read back from its own text.  So different rules have different texts, and if both get their
    versions from their texts, then the same version means a collision of the digest.  In the other
    direction an object is read as a rule iff its fields describe one, whatever the text that spells
    it out. -/
theorem serialized_faithfully :
    (∀ r : Rule, r.Launching → Json.decode Rule.read r.text = .ok r) ∧
    (∀ r r' : Rule, r.Launching → r'.Launching → r ≠ r' →
      r.text ≠ r'.text ∧
        (r.resourceVersion = none → r'.resourceVersion = none → r.version = r'.version →
          Sha1.Collision r.text.toUTF8.toList r'.text.toUTF8.toList)) ∧
    ∀ fields : List (String × Json),
      ((∃ r, Rule.read (ofJson (.obj fields)) = .ok r) ↔ Described fields) ∧
        ∀ text : String, Document.ofText text = (ofJson (.obj fields), none) →
          ((∃ r, Json.decode Rule.read text = .ok r) ↔ Described fields) := by
  refine ⟨fun r launching => launching.decode_text, ?_,
    fun fields => ⟨read_iff fields, fun text h => exists_decode_iff h⟩⟩
  intro r r' launching launching' hne
  have htext := launching.text_ne launching' hne
  refine ⟨htext, fun hnone hnone' hversion => ?_⟩
  unfold version at hversion
  rw [hnone, hnone'] at hversion
  exact Sha1.collision_of_hex_eq htext hversion

/-- The variables of a job that tries so many times. -/
def startVars (retries : Int) : Json :=
  .obj [("hosts", .arr [.str "a\"b\\", .null]), ("retries", .int retries)]

/-- A rule that starts a node again; its namespace, its limit and one of its marks are empty. -/
def startNode (retries : Int) : Rule where
  name := "start-node"
  space := some ""
  labels := (∅ : KeyMap String String).insert "alertname" "Node\nDown"
  delimiters := some ⟨"", "]]"⟩
  action := .awx { template := "Start node", extraVars := startVars retries, limit := some "" }

theorem serialized_faithfully_startNode :
    (startNode 1).Launching ∧ (startNode 2).Launching ∧
      Json.decode Rule.read (startNode 1).text = .ok (startNode 1) ∧
      (startNode 1).text ≠ (startNode 2).text ∧
      ((startNode 1).version = (startNode 2).version →
        Sha1.Collision (startNode 1).text.toUTF8.toList (startNode 2).text.toUTF8.toList) ∧
      ∃ fields, Document.ofText (startNode 1).text = (ofJson (.obj fields), none) ∧
        Described fields := by
  have hwhole : ∀ n : Int, (startVars n).Whole := fun n =>
    .obj (List.forall_mem_cons.mpr ⟨.arr (List.forall_mem_cons.mpr
      ⟨.str _, List.forall_mem_singleton.mpr .null⟩), List.forall_mem_singleton.mpr (.int n)⟩)
  have hbounded : ∀ n : Int, 0 ≤ n → n ≤ 2 → (startVars n).Bounded (Json.maxDepth - 2) :=
    fun n low high => .obj (List.forall_mem_cons.mpr ⟨.arr (List.forall_mem_cons.mpr
      ⟨.str _ _, List.forall_mem_singleton.mpr (.null _)⟩),
        List.forall_mem_singleton.mpr (.int _ (by omega) (by omega))⟩)
  have horder : compare "hosts" "retries" = .lt := by decide
  have hsorted : ∀ n : Int, (startVars n).Sorted := fun n =>
    .obj (List.pairwise_pair.mpr horder) (List.forall_mem_cons.mpr
      ⟨.arr (List.forall_mem_cons.mpr ⟨.str _, List.forall_mem_singleton.mpr .null⟩),
        List.forall_mem_singleton.mpr (.int n)⟩)
  have hlaunching : ∀ n : Int, 0 ≤ n → n ≤ 2 → (startNode n).Launching := fun n low high =>
    ⟨⟨_, decode_text rfl (hsorted n) (hwhole n) (hbounded n low high)⟩, _, rfl, hwhole n⟩
  have hone := hlaunching 1 (by decide) (by decide)
  have htwo := hlaunching 2 (by decide) (by decide)
  have hne : startNode 1 ≠ startNode 2 := by
    intro h
    injection h with _ _ _ _ _ _ haction
    injection haction with hjob
    injection hjob with _ hvars _
    injection hvars with hfields
    exact absurd (congrArg (fun f => (f.map (·.2)).getLast?) hfields) (by simp)
  have hback := serialized_faithfully.1 _ hone
  have hdifferent := serialized_faithfully.2.1 _ _ hone htwo hne
  have hroom : (startNode 1).toJson.Bounded Json.maxDepth :=
    bounded_toJson (r := startNode 1) rfl (hbounded 1 (by decide) (by decide))
  have htext := Document.ofText_compress (whole_toJson (r := startNode 1) rfl (hwhole 1)) hroom
  have hdescribed := ((serialized_faithfully.2.2 _).2 (startNode 1).text htext).mp ⟨_, hback⟩
  exact ⟨hone, htwo, hback, hdifferent.1, hdifferent.2 rfl rfl, _, htext, hdescribed⟩

end Rule

end Healing
