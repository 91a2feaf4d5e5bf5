/-
  The JSON form of an alert carries the alert.

  An alert arrives with any of its fields, and is shown with all of them: a status that is not known
  becomes a word of its own, times are put into UTC.  Reading the JSON form again gives the same
  alert, so that templates and launched jobs have all the data that has been received, and nothing
  else.

  1. **Reading** - `Received`, what the fields of an object make of an alert; `received_of_read`.
  2. **Times** - `TimesExist`: the times of an alert that has been read are points in time.
  3. **JSON form** - `field?_toJson` and `read_toJson`; `decode_toJson` for the text of it.
  4. **Templates** - `field?_alertContext` and `Engine.expandAction_ne_unknownVariable`.
  5. **Faithful alerts** - `Alert.carried_faithfully`.
-/
import Healing.Engine
import Healing.Proofs.Awx.Launch
import Healing.Proofs.Expansion.Actions
import Healing.Proofs.Expansion.AlertData
import Healing.Proofs.Rule.Serialization
import Healing.Proofs.Timestamp

namespace Healing

open Document

namespace Alert

/-! ## Reading -/

/-- A value is read from the field of a name, or is a default if there is no such field. -/
def Given {α : Type} (fields : List (String × Json)) (name : String)
    (read : Document → Except ReadError α) (default value : α) : Prop :=
  (∃ j, (name, j) ∈ fields ∧ read (ofJson j) = .ok value) ∨
    (∀ j, (name, j) ∉ fields) ∧ value = default

/-- **The alert that has been received** in the fields of an object. -/
structure Received (fields : List (String × Json)) (a : Alert) : Prop where
  status : Given fields "status" readStatus .firing a.status
  labels : Given fields "labels" (mapOf text) ∅ a.labels
  annotations : Given fields "annotations" (mapOf text) ∅ a.annotations
  startsAt : Given fields "startsAt" (Document.optional readTime) none a.startsAt
  endsAt : Given fields "endsAt" (Document.optional readTime) none a.endsAt
  generatorUrl : Given fields "generatorURL" text "" a.generatorUrl
  fingerprint : Given fields "fingerprint" text "" a.fingerprint

/-- A status is unknown iff its word is none of the two that are known. -/
theorem readStatus_eq_unknown_iff {word : String} :
    readStatus (ofJson (.str word)) = .ok .unknown ↔ word ≠ "firing" ∧ word ≠ "resolved" := by
  show Except.ok (AlertStatus.ofWord word) = .ok AlertStatus.unknown ↔ _
  unfold AlertStatus.ofWord
  by_cases hfiring : word = "firing"
  · simp [hfiring]
  · by_cases hresolved : word = "resolved"
    · simp [hresolved]
    · simp [hfiring, hresolved]

/-- A field sets nothing but its own. -/
theorem eq_of_readField {name : String} (hname : name ∈ fieldNames) {a a' : Alert} {d : Document}
    (h : readField a name d = .ok a') :
    (name ≠ "status" → a'.status = a.status) ∧ (name ≠ "labels" → a'.labels = a.labels) ∧
      (name ≠ "annotations" → a'.annotations = a.annotations) ∧
      (name ≠ "startsAt" → a'.startsAt = a.startsAt) ∧ (name ≠ "endsAt" → a'.endsAt = a.endsAt) ∧
      (name ≠ "generatorURL" → a'.generatorUrl = a.generatorUrl) ∧
      (name ≠ "fingerprint" → a'.fingerprint = a.fingerprint) := by
  simp only [fieldNames, List.mem_cons, List.not_mem_nil, or_false] at hname
  rcases hname with rfl | rfl | rfl | rfl | rfl | rfl | rfl
  all_goals
    obtain ⟨v, -, ⟨⟩⟩ := Except.bind_eq_ok_iff.mp h
    refine ⟨fun hne => ?_, fun hne => ?_, fun hne => ?_, fun hne => ?_, fun hne => ?_,
      fun hne => ?_, fun hne => ?_⟩
    all_goals first | rfl | exact absurd rfl hne

/-- What only one field can set has been given by that field. -/
theorem given_of_foldlM {α : Type} {fields : List (String × Json)} {a : Alert}
    (hnodup : ((known fieldNames fields).map (·.1)).Nodup)
    (hfold : (known fieldNames fields).foldlM (stepOf readField) {} = .ok a) (get : Alert → α)
    {name : String} (hname : name ∈ fieldNames) {read : Document → Except ReadError α}
    {put : Alert → α → Alert}
    (hread : ∀ a d, readField a name d = read d >>= fun v => .ok (put a v))
    (hput : ∀ a v, get (put a v) = v)
    (hkeep : ∀ other ∈ fieldNames, other ≠ name → ∀ {a a' : Alert} {d : Document},
      readField a other d = .ok a' → get a' = get a) :
    Given fields name read (get {}) (get a) := by
  have hmem : ∀ {j : Json}, (name, j) ∈ known fieldNames fields ↔ (name, j) ∈ fields := by
    intro j
    rw [mem_known, and_iff_left hname]
  have hset : ∀ {a a' : Alert} {j : Json}, readField a name (ofJson j) = .ok a' →
      read (ofJson j) = .ok (get a') := by
    intro a a' j h
    rw [hread] at h
    obtain ⟨v, hv, ⟨⟩⟩ := Except.bind_eq_ok_iff.mp h
    rw [hput]
    exact hv
  have hfield := foldlM_field (R := fun j v => read (ofJson j) = .ok v) hset
    (fun other hother hne => hkeep other hother hne) (fun f hf => (mem_known.mp hf).2) hnodup hfold
  rcases hfield with ⟨j, hj, hv⟩ | ⟨hnone, hget⟩
  · exact .inl ⟨j, hmem.mp hj, hv⟩
  · exact .inr ⟨fun j hj => hnone j (hmem.mpr hj), hget⟩

/-- **What is read from an object is what has been received in its fields.** -/
theorem received_of_read {fields : List (String × Json)} {a : Alert}
    (h : read (ofJson (.obj fields)) = .ok a) : Received fields a := by
  obtain ⟨⟨s, given⟩, hs, rfl⟩ := Except.map_eq_ok_iff.mp h
  obtain ⟨_, ⟨⟩, hnodup, hfold⟩ := (record_ofJson_iff (by decide)).mp ⟨given, hs⟩
  constructor
  · exact given_of_foldlM hnodup hfold status (by decide) (fun _ _ => rfl)
      (fun _ _ => rfl) fun _ hother hne _ _ _ h => (eq_of_readField hother h).1 hne
  · exact given_of_foldlM hnodup hfold labels (by decide) (fun _ _ => rfl)
      (fun _ _ => rfl) fun _ hother hne _ _ _ h => (eq_of_readField hother h).2.1 hne
  · exact given_of_foldlM hnodup hfold annotations (by decide) (fun _ _ => rfl)
      (fun _ _ => rfl) fun _ hother hne _ _ _ h => (eq_of_readField hother h).2.2.1 hne
  · exact given_of_foldlM hnodup hfold startsAt (by decide) (fun _ _ => rfl)
      (fun _ _ => rfl) fun _ hother hne _ _ _ h => (eq_of_readField hother h).2.2.2.1 hne
  · exact given_of_foldlM hnodup hfold endsAt (by decide) (fun _ _ => rfl)
      (fun _ _ => rfl) fun _ hother hne _ _ _ h => (eq_of_readField hother h).2.2.2.2.1 hne
  · exact given_of_foldlM hnodup hfold generatorUrl (by decide) (fun _ _ => rfl)
      (fun _ _ => rfl) fun _ hother hne _ _ _ h => (eq_of_readField hother h).2.2.2.2.2.1 hne
  · exact given_of_foldlM hnodup hfold fingerprint (by decide) (fun _ _ => rfl)
      (fun _ _ => rfl) fun _ hother hne _ _ _ h => (eq_of_readField hother h).2.2.2.2.2.2 hne

/-! ## Times -/

/-- The times of an alert are points in time. -/
def TimesExist (a : Alert) : Prop :=
  ∀ t, a.startsAt = some t ∨ a.endsAt = some t → t.isValid = true

/-- A time that is read exists. -/
theorem isValid_of_readTime {d : Document} {t : Timestamp} (h : readTime d = .ok t) :
    t.isValid = true := by
  obtain ⟨s, -, h⟩ := Except.bind_eq_ok_iff.mp h
  cases hread : Timestamp.read? s with
  | none =>
    rw [hread] at h
    cases h
  | some t' =>
    rw [hread] at h
    cases h
    exact Timestamp.isValid_of_read? hread

/-- No field brings in a time that does not exist. -/
theorem TimesExist.readField {a a' : Alert} (times : a.TimesExist) {name : String} {d : Document}
    (h : a.readField name d = .ok a') : a'.TimesExist := by
  have hopt : ∀ {o : Option Timestamp} {t : Timestamp}, d.optional readTime = .ok o → o = some t →
      t.isValid = true := by
    rintro _ t hread rfl
    exact isValid_of_readTime (read_of_optional hread)
  unfold Alert.readField at h
  split at h
  case h_4 =>
    obtain ⟨o, hread, ⟨⟩⟩ := Except.bind_eq_ok_iff.mp h
    rintro t (ht | ht)
    · exact hopt hread ht
    · exact times t (.inr ht)
  case h_5 =>
    obtain ⟨o, hread, ⟨⟩⟩ := Except.bind_eq_ok_iff.mp h
    rintro t (ht | ht)
    · exact times t (.inl ht)
    · exact hopt hread ht
  case h_8 =>
    cases h
    exact times
  all_goals
    obtain ⟨v, -, ⟨⟩⟩ := Except.bind_eq_ok_iff.mp h
    exact times

/-- **The times of an alert that has been read exist**, whatever it has been read from. -/
theorem timesExist_of_read {d : Document} {a : Alert} (h : read d = .ok a) : a.TimesExist := by
  obtain ⟨⟨s, given⟩, hs, rfl⟩ := Except.map_eq_ok_iff.mp h
  refine record_invariant (P := TimesExist) (fun _ _ _ _ _ times h => times.readField h) ?_ hs
  rintro t (ht | ht) <;> nomatch ht

/-! ## JSON form -/

variable (a : Alert)

/-- The fields of the JSON form. -/
def fields : List (String × Json) :=
  [("annotations", .ofTexts a.annotations), ("endsAt", timeJson a.endsAt),
    ("fingerprint", .str a.fingerprint), ("generatorURL", .str a.generatorUrl),
    ("labels", .ofTexts a.labels), ("startsAt", timeJson a.startsAt),
    ("status", .str a.status.word)]

/-- The fields of the JSON form are those that the reader knows. -/
theorem map_fst_fields : (a.fields.map (·.1)).Perm fieldNames := by
  show List.Perm ["annotations", "endsAt", "fingerprint", "generatorURL", "labels", "startsAt",
    "status"] fieldNames
  decide

/-- **The JSON form has all fields**, and no others. -/
theorem isSome_field?_toJson (name : String) :
    (a.toJson.field? name).isSome ↔ name ∈ fieldNames := by
  show (findValue? name a.fields).isSome ↔ _
  rw [isSome_findValue?_iff, ← a.map_fst_fields.mem_iff, List.mem_map]
  constructor
  · rintro ⟨v, hv⟩
    exact ⟨(name, v), hv, rfl⟩
  · rintro ⟨⟨_, v⟩, hv, rfl⟩
    exact ⟨v, hv⟩

/-- The parts of an alert among the fields of its JSON form. -/
theorem field?_toJson : a.toJson.field? "labels" = some (.ofTexts a.labels) ∧
    a.toJson.field? "annotations" = some (.ofTexts a.annotations) := by
  constructor
  · show findValue? "labels" a.fields = _
    simp [fields, findValue?_cons]
  · show findValue? "annotations" a.fields = _
    simp [fields, findValue?_cons]

/-- A time is read back, and so is the lack of one. -/
theorem optional_timeJson {o : Option Timestamp} (valid : ∀ t, o = some t → t.isValid = true) :
    Document.optional readTime (ofJson (timeJson o)) = .ok o := by
  cases o with
  | none => rfl
  | some t =>
    have htext : text (ofJson (timeJson (some t))) = .ok t.write := rfl
    have hread : readTime (ofJson (timeJson (some t))) = .ok t := by
      unfold readTime
      simp only [htext, bind, Except.bind, Timestamp.read?_write (valid t rfl)]
    exact Except.map_eq_ok_iff.mpr ⟨t, hread, rfl⟩

/-- A status is read back. -/
theorem readStatus_word (s : AlertStatus) : readStatus (ofJson (.str s.word)) = .ok s := by
  cases s <;> rfl

/-- **An alert is read back from its JSON form.** -/
theorem read_toJson {a : Alert} (times : a.TimesExist) : read (ofJson a.toJson) = .ok a := by
  have hannotations := mapOf_ofTexts a.annotations
  have hlabels := mapOf_ofTexts a.labels
  have hstarts := optional_timeJson fun t ht => times t (.inl ht)
  have hends := optional_timeJson fun t ht => times t (.inr ht)
  have hstatus := readStatus_word a.status
  have hread : a.fields.foldlM (stepOf readField) {} = .ok a := by
    refine foldlM_cons_eq_ok_iff.mpr ⟨_, Except.bind_eq_ok_iff.mpr ⟨_, hannotations, rfl⟩, ?_⟩
    refine foldlM_cons_eq_ok_iff.mpr ⟨_, Except.bind_eq_ok_iff.mpr ⟨_, hends, rfl⟩, ?_⟩
    refine foldlM_cons_eq_ok_iff.mpr ⟨_, Except.bind_eq_ok_iff.mpr ⟨a.fingerprint, rfl, rfl⟩, ?_⟩
    refine foldlM_cons_eq_ok_iff.mpr ⟨_, Except.bind_eq_ok_iff.mpr ⟨a.generatorUrl, rfl, rfl⟩, ?_⟩
    refine foldlM_cons_eq_ok_iff.mpr ⟨_, Except.bind_eq_ok_iff.mpr ⟨_, hlabels, rfl⟩, ?_⟩
    refine foldlM_cons_eq_ok_iff.mpr ⟨_, Except.bind_eq_ok_iff.mpr ⟨_, hstarts, rfl⟩, ?_⟩
    exact foldlM_cons_eq_ok_iff.mpr ⟨_, Except.bind_eq_ok_iff.mpr ⟨_, hstatus, rfl⟩, rfl⟩
  have hknown : known fieldNames a.fields = a.fields :=
    known_eq_self fun f hf => a.map_fst_fields.subset (List.mem_map_of_mem hf)
  have hnodup : (a.fields.map (·.1)).Nodup := a.map_fst_fields.nodup_iff.mpr (by decide)
  rw [← hknown] at hnodup hread
  obtain ⟨given, h⟩ := (record_ofJson_iff (j := .obj a.fields) (by decide)).mpr
    ⟨a.fields, rfl, hnodup, hread⟩
  exact Except.map_eq_ok_iff.mpr ⟨(a, given), h, rfl⟩

/-- A time is a text or null. -/
theorem timeJson_cases (o : Option Timestamp) : timeJson o = .null ∨ (timeJson o).IsText := by
  cases o with
  | none => exact .inl rfl
  | some t => exact .inr ⟨_, rfl⟩

/-- Each field is null, a text or a map of texts. -/
theorem type_of_mem_fields : ∀ f ∈ a.fields, f.2 = .null ∨ f.2.IsText ∨ f.2.IsTextMap := by
  unfold fields
  simp only [List.forall_mem_cons]
  have htime : ∀ o, timeJson o = .null ∨ (timeJson o).IsText ∨ (timeJson o).IsTextMap := fun o =>
    (timeJson_cases o).imp_right .inl
  have htext : ∀ s, Json.str s = .null ∨ (Json.str s).IsText ∨ (Json.str s).IsTextMap := fun s =>
    .inr (.inl ⟨s, rfl⟩)
  have hmap : ∀ m, Json.ofTexts m = .null ∨ (Json.ofTexts m).IsText ∨ (Json.ofTexts m).IsTextMap :=
    fun m => .inr (.inr (.ofTexts m))
  exact ⟨hmap _, htime _, htext _, htext _, hmap _, htime _, htext _, nofun⟩

/-- **An alert is read back from the text of its JSON form.** -/
theorem decode_toJson {a : Alert} (times : a.TimesExist) :
    Json.decode read a.toJson.compress = .ok a := by
  have hwhole : a.toJson.Whole := by
    refine .obj fun f hf => ?_
    rcases a.type_of_mem_fields f hf with hnull | ⟨s, hs⟩ | hmap
    · rw [hnull]
      exact .null
    · rw [hs]
      exact .str s
    · exact hmap.whole
  have hbounded : a.toJson.Bounded Json.maxDepth := by
    refine .obj fun f hf => ?_
    rcases a.type_of_mem_fields f hf with hnull | ⟨s, hs⟩ | hmap
    · rw [hnull]
      exact .null _
    · rw [hs]
      exact .str _ s
    · exact hmap.bounded _
  rw [Json.decode_compress read hwhole hbounded]
  exact read_toJson times

/-! ## Templates -/

/-- **What templates start from**: the fields of the JSON form, and the JSON form itself. -/
theorem field?_alertContext (name : String) : (alertContext a).field? name =
    if name = "alert" then some a.toJson else a.toJson.field? name := by
  show findValue? name (insertEntry "annotations" (.ofTexts a.annotations)
    (insertEntry "labels" (.ofTexts a.labels) (insertEntry "alert" a.toJson a.fields))) = _
  obtain ⟨hlabels, hannotations⟩ := a.field?_toJson
  rw [findValue?_insertEntry, findValue?_insertEntry, findValue?_insertEntry]
  by_cases hname : name = "annotations"
  · subst hname
    rw [if_pos rfl, if_neg (by decide), hannotations]
  · by_cases hname' : name = "labels"
    · subst hname'
      rw [if_neg hname, if_pos rfl, if_neg (by decide), hlabels]
    · rw [if_neg hname, if_neg hname']
      rfl

end Alert

/-- A text that cannot be expanded is named with the cause. -/
theorem Binding.exists_rendering {b : Binding} {text : String} {e : ExpansionError}
    (h : b.render text = .error e) : ∃ cause, e = .rendering text cause := by
  unfold render at h
  split at h
  · cases h
  · split at h
    · cases h
      exact ⟨_, rfl⟩
    · rename_i source _
      cases hrender : Template.renderText b.context source with
      | ok out =>
        rw [hrender] at h
        cases h
      | error cause =>
        rw [hrender] at h
        cases h
        exact ⟨cause, rfl⟩

/-- **No variable of a template is unknown** when an action is expanded about an alert. -/
theorem Engine.expandAction_ne_unknownVariable (rule : Rule) (a : Alert) (name path : String) :
    expandAction rule a ≠ .error (.unknownVariable name path) := by
  intro h
  unfold expandAction at h
  rw [bind_forAlerts] at h
  simp only [bind, Except.bind] at h
  split at h
  · rename_i cause hstop
    cases h
    rcases Action.cause_of_expand hstop with h | ⟨text, h⟩
    · cases h
    · obtain ⟨cause, h⟩ := Binding.exists_rendering h
      cases h
  · cases h

/-! ## Faithful alerts -/

namespace Alert

/-- **An alert is carried faithfully.**  However it has been read, its times exist, and they are
    written in UTC with three, six or nine digits of a second, or with none.  Its JSON form has all
    fields, with texts as labels and annotations, and is read back as the same alert.  Templates see
    that form, so that no variable of theirs is unknown, and so do launched jobs. -/
theorem carried_faithfully {d : Document} {a : Alert} (h : read d = .ok a) :
    -- the data that has been received
    (∀ fields, d = ofJson (.obj fields) → Received fields a) ∧
    (∀ word, readStatus (ofJson (.str word)) = .ok .unknown ↔ word ≠ "firing" ∧ word ≠ "resolved") ∧
    (∀ t, a.startsAt = some t ∨ a.endsAt = some t → t.isValid = true ∧
      Timestamp.read? t.write = some t ∧ ∃ fraction,
        t.write = String.ofList (t.writeSeconds ++ fraction ++ ['Z']) ∧
          (fraction = [] ∨ ∃ ds, fraction = '.' :: ds ∧ (∀ c ∈ ds, c.isDigit = true) ∧
            (ds.length = 3 ∨ ds.length = 6 ∨ ds.length = 9))) ∧
    -- its JSON form
    (∀ name, (a.toJson.field? name).isSome ↔ name ∈ fieldNames) ∧
    (∃ labels annotations, a.toJson.field? "labels" = some labels ∧ labels.IsTextMap ∧
      a.toJson.field? "annotations" = some annotations ∧ annotations.IsTextMap) ∧
    read (ofJson a.toJson) = .ok a ∧ Json.decode read a.toJson.compress = .ok a ∧
    -- who sees it
    (∀ delimiters, ∃ binding, (Expander.forAlerts delimiters).bind a.toJson = .ok binding ∧
      ∀ name, binding.context.field? name =
        if name = "alert" then some a.toJson else a.toJson.field? name) ∧
    (∀ rule name path, Engine.expandAction rule a ≠ .error (.unknownVariable name path)) ∧
    ∀ job, ∃ vars, (Awx.launchBody job a).field? "extra_vars" = some (.obj vars) ∧
      findValue? "alert" vars = some a.toJson := by
  have htimes := timesExist_of_read h
  obtain ⟨hlabels, hannotations⟩ := a.field?_toJson
  refine ⟨?_, fun _ => readStatus_eq_unknown_iff,
    fun t ht => ⟨htimes t ht, Timestamp.read?_write (htimes t ht), ?_⟩, a.isSome_field?_toJson,
    ⟨_, _, hlabels, .ofTexts _, hannotations, .ofTexts _⟩, read_toJson htimes, decode_toJson htimes,
    fun delimiters => ?_, fun rule => Engine.expandAction_ne_unknownVariable rule a,
    fun job => ?_⟩
  · rintro fields rfl
    exact received_of_read h
  · refine ⟨_, rfl, ?_⟩
    obtain ⟨-, -, -, -, -, -, hnanos⟩ := Timestamp.isValid_iff.mp (htimes t ht)
    rcases Timestamp.writeFraction_cases hnanos with ⟨hnone, -⟩ | ⟨ds, hds, digits, hlength, -⟩
    · exact .inl hnone
    · exact .inr ⟨ds, hds, digits, hlength⟩
  · exact ⟨_, bind_forAlerts a delimiters, a.field?_alertContext⟩
  · obtain ⟨vars, hvars, hkeys⟩ := (Awx.carriesLaunch_launchBody job a).extraVars
    exact ⟨vars, hvars, (hkeys "alert").trans (if_pos rfl)⟩

namespace Leap

/-- An alert as it is received: a status of its own, and a leap second far ahead. -/
def received : Json :=
  .obj [("status", .str "suppressed"), ("labels", .obj [("alertname", .str "Disk")]),
    ("startsAt", .str "+12000-2-29 23:59:60.00025+00:00"), ("endsAt", .null)]

/-- The alert. -/
def alert : Alert where
  status := .unknown
  labels := (∅ : KeyMap String String).insert "alertname" "Disk"
  startsAt := some ⟨12000, 2, 29, 23, 59, 60, 250000⟩

/-- The status stays unknown, and the time is written with six digits of a second. -/
theorem carried_faithfully_of_leap : read (ofJson received) = .ok alert ∧
    read (ofJson alert.toJson) = .ok alert ∧
    alert.toJson.field? "status" = some (.str "unknown") ∧
    alert.toJson.field? "startsAt" = some (.str "+12000-02-29T23:59:60.000250Z") := by
  have h : read (ofJson received) = .ok alert := rfl
  have hwritten : (⟨12000, 2, 29, 23, 59, 60, 250000⟩ : Timestamp).write
      = "+12000-02-29T23:59:60.000250Z" := by decide
  obtain ⟨-, -, -, -, -, hback, -⟩ := carried_faithfully h
  refine ⟨h, hback, rfl, ?_⟩
  rw [← hwritten]
  rfl

end Leap

end Alert

end Healing
