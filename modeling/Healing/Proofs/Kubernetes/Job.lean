/-
  Reading batch jobs again.

  A job is read into its JSON form, and that form can be read again.  The texts in it may have
  changed on the way: the job is then the one with the new texts, with its times written in the
  usual way.

  1. **Shape** - `Job.shape`, and `Job.Fits`: what every job that has been read is like
     (`Job.fits_of_read`).
  2. **Outlines** - a value with the outline of a job's JSON form has its fields
     (`Job.exists_of_outline`).
  3. **Reading again** - `Job.toJson_of_read`; since a job is what its JSON form says
     (`Job.ext_toJson`), it is read again as it is if it is spelled in the usual way
     (`Job.read_toJson`), and expanded to what is read then (`Job.expand_eq`).
-/
import Healing.Kubernetes.Job
import Healing.Proofs.Expansion.Leaves
import Healing.Proofs.Kubernetes.Shape

namespace Healing.Kubernetes

open Shape (may must)

/-! ## Shape -/

/-- Whether a value is of a shape is not a matter of its texts. -/
theorem Shape.Fits.of_outline {s : Shape} {j : Json} (h : s.Fits j) :
    ∀ {k : Json}, k.outline = j.outline → s.Fits k := by
  induction h with
  | text s | time s | bytes s | portionText s =>
    intro k hk
    cases k <;> cases hk
    constructor
  | flag b =>
    intro k hk
    cases k <;> cases hk
    exact .flag b
  | whole bounds =>
    intro k hk
    cases k <;> cases hk
    exact .whole bounds
  | portion bounds =>
    intro k hk
    cases k <;> cases hk
    exact .portion bounds
  | anything sorted => exact fun hk => .anything (sorted.of_outline hk)
  | list _ ih =>
    intro k hk
    obtain ⟨items', rfl, hitems⟩ := Json.exists_arr_of_outline hk
    refine .list fun k hk => ?_
    obtain ⟨j, hj, hjk⟩ := Json.exists_mem_of_outline hitems hk
    exact ih j hj hjk
  | map keys _ ih =>
    intro k hk
    obtain ⟨fields', rfl, hfields⟩ := Json.exists_obj_of_outline hk
    refine .map (Json.sortedKeys_of_outline hfields keys) fun g hg => ?_
    obtain ⟨f, hf, -, hfg⟩ := Json.exists_field_of_outline hfields hg
    exact ih f hf hfg
  | record keys known _ required ih =>
    intro k hk
    obtain ⟨fields', rfl, hfields⟩ := Json.exists_obj_of_outline hk
    refine .record (Json.sortedKeys_of_outline hfields keys) (fun g hg => ?_)
      (fun g hg e he => ?_) (fun f hf hrequired => ?_)
    · obtain ⟨f, hf, hname, -⟩ := Json.exists_field_of_outline hfields hg
      rw [hname]
      exact known f hf
    · obtain ⟨f, hf, hname, hfg⟩ := Json.exists_field_of_outline hfields hg
      rw [hname] at he
      exact ih f hf e he hfg
    · obtain ⟨j, hj, hne⟩ := required f hf hrequired
      have hfound := congrArg (findValue? f.1) hfields
      rw [findValue?_map Json.outline, findValue?_map Json.outline, hj] at hfound
      obtain ⟨k, hk, houtline⟩ := Option.map_eq_some_iff.mp hfound
      refine ⟨k, hk, ?_⟩
      rintro rfl
      exact hne (Json.eq_null_of_outline houtline.symm)

namespace Job

/-- The fields of a job besides its version and its kind. -/
def shapes : List (String × Bool × Shape) := [
  must "metadata" Schema.objectMeta, may "spec" Schema.jobSpec, may "status" Schema.jobStatus]

/-- The shape of the JSON form of a job. -/
def shape : Shape := .record (must "apiVersion" .text :: must "kind" .text :: shapes)

/-- The parts of a job have their shapes. -/
structure Fits (j : Job) : Prop where
  metadata : Schema.objectMeta.Fits (.obj j.metadata.entries)
  spec : ∀ s ∈ j.spec, Schema.jobSpec.Fits s
  status : ∀ s ∈ j.status, Schema.jobStatus.Fits s

theorem sound_shape : shape.sound = true := by decide +kernel

theorem sound_shapes : Shape.soundFields shapes = true :=
  Shape.soundFields_of_cons (Shape.soundFields_of_cons sound_shape)

/-- Metadata are an object. -/
theorem metadata_of_fits {j : Json} (h : Schema.objectMeta.Fits j) :
    ∃ m : KeyMap String Json, j = .obj m.entries := by
  cases h with
  | record keys => exact ⟨⟨_, keys⟩, rfl⟩

/-- An object is the map of its fields. -/
theorem fieldMap_obj (m : KeyMap String Json) : fieldMap (some (.obj m.entries)) = m :=
  m.ofList_entries

/-- Sorted known fields that fit make up a job. -/
theorem Fits.ofFields {fields : List (String × Json)}
    (fits : ∀ f ∈ fields, ∃ e, shapes.lookup f.1 = some e ∧ e.2.Fits f.2) :
    Fits { metadata := fieldMap (findValue? "metadata" fields)
           spec := findValue? "spec" fields
           status := findValue? "status" fields } := by
  have hfound : ∀ {name j}, findValue? name fields = some j →
      ∃ e, shapes.lookup name = some e ∧ e.2.Fits j := fun h => fits _ (mem_of_findValue? h)
  refine ⟨?_, fun s hs => ?_, fun s hs => ?_⟩
  · cases hmetadata : findValue? "metadata" fields with
    | none => exact Shape.fits_default Schema.objectMeta (by decide +kernel)
    | some j =>
      obtain ⟨e, he, hfits⟩ := hfound hmetadata
      cases he
      obtain ⟨m, rfl⟩ := metadata_of_fits hfits
      rw [fieldMap_obj]
      exact hfits
  · obtain ⟨e, he, hfits⟩ := hfound hs
    cases he
    exact hfits
  · obtain ⟨e, he, hfits⟩ := hfound hs
    cases he
    exact hfits

/-- A job that consists of metadata fits if all of them are known; none of them is required. -/
theorem Fits.ofMetadata {m : KeyMap String Json}
    (fits : ∀ f ∈ m.entries, ∃ e, Schema.objectMeta.field? f.1 = some e ∧ e.2.Fits f.2) :
    Fits { metadata := m } := by
  refine ⟨.ofFields (by decide +kernel) m.sorted fits fun f hf hrequired => ?_, nofun, nofun⟩
  have hoptional : f.2.1 = false := by
    clear hrequired
    revert f
    decide
  rw [hoptional] at hrequired
  cases hrequired

/-- What is read from the entries of a job are known fields that fit. -/
theorem fits_of_readTyped {entries : List (Document × Document)}
    (plain : ∀ e ∈ entries, e.2.Plain) :
    ∀ {before after : List (String × Json)}, SortedKeys before →
      (∀ f ∈ before, ∃ e, shapes.lookup f.1 = some e ∧ e.2.Fits f.2) →
      readTyped apiVersion kind readers entries before = .ok after →
      ∀ f ∈ after, ∃ e, shapes.lookup f.1 = some e ∧ e.2.Fits f.2 := by
  induction entries with
  | nil =>
    rintro before after - hbefore ⟨⟩
    exact hbefore
  | cons entry r ih =>
    intro before after keys hbefore h
    obtain ⟨hentry, hr⟩ := List.forall_mem_cons.mp plain
    obtain ⟨name, -, h⟩ := Except.bind_eq_ok_iff.mp h
    split at h
    · obtain ⟨-, -, h⟩ := Except.bind_eq_ok_iff.mp h
      exact ih hr keys hbefore h
    · split at h
      · obtain ⟨-, -, h⟩ := Except.bind_eq_ok_iff.mp h
        exact ih hr keys hbefore h
      · obtain ⟨fields, hfields, h⟩ := Except.bind_eq_ok_iff.mp h
        have hread : ∀ e ∈ [entry], ∀ f ∈ shapes, ∀ j, f.2.2.read e.2 = .ok j → f.2.2.Fits j :=
          List.forall_mem_singleton.mpr fun f hf =>
            f.2.2.fits_of_read (Shape.of_soundFields sound_shapes f hf).1 entry.2 hentry
        obtain ⟨keys', hfits⟩ := Shape.fits_of_readFields hread keys hbefore hfields
        exact ih hr keys' hfits h

/-- **What is read from a plain document as a job has the shape of one.** -/
theorem fits_of_read {d : Document} (plain : d.Plain) {j : Job} (h : read d = .ok j) :
    j.Fits := by
  obtain ⟨⟨entries, fault⟩, hentries, h⟩ := Except.bind_eq_ok_iff.mp h
  obtain ⟨fields, hfields, h⟩ := Except.bind_eq_ok_iff.mp h
  obtain ⟨-, -, h⟩ := Except.bind_eq_ok_iff.mp h
  cases h
  exact .ofFields (fits_of_readTyped (Document.plain_of_entries plain hentries) .nil
    (List.forall_mem_nil _) hfields)

/-- A job in a YAML text has the shape of one. -/
theorem fits_of_yaml {text : String} {j : Job} (h : Yaml.decode read text = .ok j) : j.Fits := by
  obtain ⟨d, plain, hd⟩ := Yaml.exists_of_decode h
  exact fits_of_read plain hd

/-! ## Reading again -/

/-- Entries are read one by one. -/
theorem readFields_cons (readers : List (String × Reader)) (e : Document × Document)
    (r : List (Document × Document)) (before : List (String × Json)) :
    readFields readers (e :: r) before
      = readFields readers [e] before >>= fun fields => readFields readers r fields := by
  obtain ⟨k, d⟩ := e
  rw [readFields, readFields]
  cases k.text with
  | error e => rfl
  | ok name =>
    dsimp only [bind, Except.bind]
    cases readers.lookup name with
    | none => cases d.ignore <;> rfl
    | some read =>
      dsimp only
      cases d.optional read with
      | error e => rfl
      | ok o => cases o <;> rfl

/-- The fields of a job are read like those of a record, but for its version and its kind. -/
theorem readTyped_eq_readFields {fields : List (String × Json)}
    (h : ∀ f ∈ fields, f.1 ≠ "apiVersion" ∧ f.1 ≠ "kind") :
    ∀ before : List (String × Json),
      readTyped apiVersion kind readers (Document.ofFields fields) before
        = readFields readers (Document.ofFields fields) before := by
  induction fields with
  | nil => exact fun _ => rfl
  | cons f r ih =>
    intro before
    obtain ⟨⟨hversion, hkind⟩, hr⟩ := List.forall_mem_cons.mp h
    have hstep : readTyped apiVersion kind readers (Document.ofFields (f :: r)) before
        = readFields readers [(.string (some f.1), .ofJson f.2)] before >>= fun fields =>
          readTyped apiVersion kind readers (Document.ofFields r) fields := by
      rw [Document.ofFields, readTyped]
      dsimp only [Document.text, bind, Except.bind]
      rw [if_neg hversion, if_neg hkind]
    refine (hstep.trans ?_).trans (readFields_cons readers _ _ before).symm
    exact congrArg _ (funext fun fields => ih hr fields)

/-- The fields of a job besides its version and its kind. -/
def parts (metadata : Json) (spec status : Option Json) : List (String × Json) :=
  optionalField "metadata" (some metadata)
    ++ (optionalField "spec" spec ++ (optionalField "status" status ++ []))

/-- The JSON form of a job, from its parts. -/
def ofParts (version kind : String) (metadata : KeyMap String Json) (spec status : Option Json) :
    Json :=
  .obj (("apiVersion", .str version) :: ("kind", .str kind)
    :: parts (.obj metadata.entries) spec status)

theorem toJson_eq_ofParts (j : Job) :
    j.toJson = ofParts apiVersion kind j.metadata j.spec j.status := by
  unfold toJson ofParts parts
  rw [List.append_nil, List.append_assoc]
  rfl

/-- **A job is what its JSON form says.** -/
theorem ext_toJson {j k : Job} (h : j.toJson = k.toJson) : j = k := by
  obtain ⟨metadata, spec, status⟩ := j
  obtain ⟨metadata', spec', status'⟩ := k
  simp only [toJson, Json.obj.injEq, List.cons_append, List.nil_append, List.cons.injEq,
    Prod.mk.injEq, true_and] at h
  obtain ⟨hmetadata, hrest⟩ := h
  obtain rfl : metadata = metadata' := KeyMap.ext hmetadata
  cases spec <;> cases spec' <;> cases status <;> cases status' <;>
    simp_all [optionalField]

/-- A value with the outline of a field that may be absent is one. -/
theorem exists_optionalField {name : String} {o : Option Json} {l r : List (String × Json)}
    (h : (l.map fun f => (f.1, f.2.outline))
      = (optionalField name o ++ r).map fun f => (f.1, f.2.outline)) :
    ∃ o' r', l = optionalField name o' ++ r' ∧ o'.map Json.outline = o.map Json.outline ∧
      (r'.map fun f => (f.1, f.2.outline)) = r.map fun f => (f.1, f.2.outline) := by
  cases o with
  | none => exact ⟨none, l, rfl, rfl, h⟩
  | some j =>
    cases l with
    | nil => cases h
    | cons f l =>
      obtain ⟨hf, hl⟩ := List.cons.inj h
      obtain ⟨hname, hvalue⟩ := Prod.mk.inj hf
      exact ⟨some f.2, l, congrArg (fun n => (n, f.2) :: l) hname, congrArg some hvalue, hl⟩

/-- A value with the outline of a text is one. -/
theorem exists_str_of_outline {o : Option Json} {s : String}
    (h : o.map Json.outline = (some (Json.str s)).map Json.outline) : ∃ t, o = some (.str t) := by
  obtain ⟨j, rfl, hj⟩ := Option.map_eq_some_iff.mp h
  cases j with
  | str t => exact ⟨t, rfl⟩
  | _ => cases hj

/-- **A value with the outline of a job has its parts.** -/
theorem exists_of_outline {j : Job} (hfits : j.Fits) {k : Json} (h : k.outline = j.toJson.outline) :
    ∃ version kind metadata spec status, k = ofParts version kind metadata spec status ∧
      Schema.objectMeta.Fits (.obj metadata.entries) ∧
      (∀ s ∈ spec, Schema.jobSpec.Fits s) ∧ ∀ s ∈ status, Schema.jobStatus.Fits s := by
  have hfields : j.toJson = .obj (optionalField "apiVersion" (some (.str apiVersion))
      ++ (optionalField "kind" (some (.str Job.kind))
      ++ (optionalField "metadata" (some (.obj j.metadata.entries))
      ++ (optionalField "spec" j.spec ++ (optionalField "status" j.status ++ []))))) := by
    exact j.toJson_eq_ofParts
  rw [hfields] at h
  obtain ⟨fields, rfl, hall⟩ := Json.exists_obj_of_outline h
  obtain ⟨version, _, rfl, hversion, hall⟩ := exists_optionalField hall
  obtain ⟨kind, _, rfl, hkind, hall⟩ := exists_optionalField hall
  obtain ⟨metadata, _, rfl, hmetadata, hall⟩ := exists_optionalField hall
  obtain ⟨spec, _, rfl, hspec, hall⟩ := exists_optionalField hall
  obtain ⟨status, _, rfl, hstatus, hall⟩ := exists_optionalField hall
  obtain rfl := List.map_eq_nil_iff.mp hall
  obtain ⟨version, rfl⟩ := exists_str_of_outline hversion
  obtain ⟨kind, rfl⟩ := exists_str_of_outline hkind
  obtain ⟨value, rfl, hvalue⟩ := Option.map_eq_some_iff.mp hmetadata
  have hvalueFits := hfits.metadata.of_outline hvalue
  obtain ⟨m, rfl⟩ := metadata_of_fits hvalueFits
  have hpart : ∀ {s : Shape} {o o' : Option Json}, o'.map Json.outline = o.map Json.outline →
      (∀ j ∈ o, s.Fits j) → ∀ j ∈ o', s.Fits j := by
    intro s o o' houtline ho j hj
    rw [hj] at houtline
    obtain ⟨i, hi, hij⟩ := Option.map_eq_some_iff.mp houtline.symm
    exact (ho i hi).of_outline hij.symm
  refine ⟨version, kind, m, spec, status, ?_, hvalueFits, hpart hspec hfits.spec,
    hpart hstatus hfits.status⟩
  rfl

/-- The fields of a job that has been read besides its version and its kind. -/
theorem readTyped_ofParts {version kind : String} {fields after : List (String × Json)}
    (h : readTyped apiVersion Job.kind readers
      (Document.ofFields (("apiVersion", .str version) :: ("kind", .str kind) :: fields)) []
      = .ok after) :
    version = apiVersion ∧ kind = Job.kind ∧
      readTyped apiVersion Job.kind readers (Document.ofFields fields) [] = .ok after := by
  have hexactly : ∀ {wanted s : String} {j : Json},
      readExactly wanted (.ofJson (.str s)) = .ok j → s = wanted := by
    intro wanted s j h
    obtain ⟨_, ⟨⟩, h⟩ := Except.bind_eq_ok_iff.mp h
    split at h
    · assumption
    · cases h
  obtain ⟨name, ⟨⟩, h⟩ := Except.bind_eq_ok_iff.mp h
  rw [if_pos rfl] at h
  obtain ⟨v, hv, h⟩ := Except.bind_eq_ok_iff.mp h
  obtain ⟨name, ⟨⟩, h⟩ := Except.bind_eq_ok_iff.mp h
  rw [if_neg (by decide), if_pos rfl] at h
  obtain ⟨k, hk, h⟩ := Except.bind_eq_ok_iff.mp h
  exact ⟨hexactly hv, hexactly hk, h⟩

/-- A field that may be absent is found under its name. -/
theorem findValue?_optionalField (name : String) (o : Option Json) (r : List (String × Json)) :
    findValue? name (optionalField name o ++ r) = o.or (findValue? name r) := by
  cases o with
  | none => rfl
  | some j =>
    show findValue? name ((name, j) :: r) = _
    rw [findValue?_cons, if_pos Std.ReflCmp.compare_self]
    rfl

/-- A field that may be absent is not found under another name. -/
theorem findValue?_optionalField_of_ne {name other : String} (h : name ≠ other) (o : Option Json)
    (r : List (String × Json)) :
    findValue? name (optionalField other o ++ r) = findValue? name r := by
  cases o with
  | none => rfl
  | some j =>
    show findValue? name ((other, j) :: r) = _
    rw [findValue?_cons, if_neg fun heq => h (Std.LawfulEqCmp.eq_of_compare heq)]

/-- A field that may be absent, but is not null, stays there. -/
theorem mapPresent_optionalField {f : String → Json → Json} {name : String} {o : Option Json}
    (h : ∀ j ∈ o, j ≠ .null) (r : List (String × Json)) :
    Shape.mapPresent f (optionalField name o ++ r)
      = optionalField name (o.map (f name)) ++ Shape.mapPresent f r := by
  cases o with
  | none => rfl
  | some j =>
    cases j with
    | null => exact absurd rfl (h .null rfl)
    | _ => rfl

/-- Metadata with their times as they are written are metadata. -/
theorem exists_metadata (m : KeyMap String Json) : ∃ m' : KeyMap String Json,
    Schema.objectMeta.respell (.obj m.entries) = .obj m'.entries :=
  ⟨⟨_, Shape.sortedKeys_mapPresent m.sorted⟩, rfl⟩

section Parts

variable {metadata : Json} {spec status : Option Json}

/-- The metadata of a job are found among its parts. -/
theorem findValue?_metadata : findValue? "metadata" (parts metadata spec status) = some metadata := by
  unfold parts
  rw [findValue?_optionalField]
  rfl

theorem findValue?_spec : findValue? "spec" (parts metadata spec status) = spec := by
  unfold parts
  rw [findValue?_optionalField_of_ne (by decide), findValue?_optionalField,
    findValue?_optionalField_of_ne (by decide)]
  exact Option.or_none

theorem findValue?_status : findValue? "status" (parts metadata spec status) = status := by
  unfold parts
  rw [findValue?_optionalField_of_ne (by decide), findValue?_optionalField_of_ne (by decide),
    findValue?_optionalField]
  exact Option.or_none

/-- The parts of a job are sorted by name. -/
theorem sortedKeys_parts : SortedKeys (parts metadata spec status) := by
  have hall : ["metadata", "spec", "status"].Pairwise fun a b => compare a b = .lt := by decide
  have hnames : ((parts metadata spec status).map (·.1)).Sublist ["metadata", "spec", "status"] := by
    cases spec <;> cases status <;> simp [parts, optionalField]
  exact List.pairwise_map.mp (hall.sublist hnames)

/-- What holds of the metadata and of the other parts that are there holds of all parts. -/
theorem parts_cases {P : String × Json → Prop} (hmetadata : P ("metadata", metadata))
    (hspec : ∀ j ∈ spec, P ("spec", j)) (hstatus : ∀ j ∈ status, P ("status", j)) :
    ∀ f ∈ parts metadata spec status, P f := by
  have hoptional : ∀ {name : String} {o : Option Json}, (∀ j ∈ o, P (name, j)) →
      ∀ f ∈ optionalField name o, P f := by
    intro name o h f hf
    cases o with
    | none => cases hf
    | some j =>
      obtain rfl := List.mem_singleton.mp hf
      exact h j rfl
  have hsome : ∀ j ∈ some metadata, P ("metadata", j) := by
    rintro _ ⟨⟩
    exact hmetadata
  unfold parts
  rw [List.append_nil]
  exact List.forall_mem_append.mpr ⟨hoptional hsome,
    List.forall_mem_append.mpr ⟨hoptional hspec, hoptional hstatus⟩⟩

end Parts

section Again

variable {version kind : String} {metadata : KeyMap String Json} {spec status : Option Json}
  (hspec : ∀ s ∈ spec, Schema.jobSpec.Fits s) (hstatus : ∀ s ∈ status, Schema.jobStatus.Fits s)

include hspec hstatus

/-- The parts of a job with their times as they are written. -/
theorem mapPresent_parts {ss : List (String × Bool × Shape)}
    (hss : ∀ f ∈ shapes, ss.lookup f.1 = some f.2) :
    Shape.mapPresent (Shape.respellField ss) (parts (.obj metadata.entries) spec status)
      = parts (Schema.objectMeta.respell (.obj metadata.entries))
        (spec.map Schema.jobSpec.respell) (status.map Schema.jobStatus.respell) := by
  have hmetadata : Shape.respellField ss "metadata" = Schema.objectMeta.respell := funext
    (Shape.respellField_of_lookup (hss (must "metadata" Schema.objectMeta) List.mem_cons_self))
  have hspec' : Shape.respellField ss "spec" = Schema.jobSpec.respell := funext
    (Shape.respellField_of_lookup (hss (may "spec" Schema.jobSpec) (.tail _ List.mem_cons_self)))
  have hstatus' : Shape.respellField ss "status" = Schema.jobStatus.respell := funext
    (Shape.respellField_of_lookup
      (hss (may "status" Schema.jobStatus) (.tail _ (.tail _ List.mem_cons_self))))
  unfold parts
  rw [mapPresent_optionalField (by rintro _ ⟨⟩; nofun),
    mapPresent_optionalField fun j hj => (hspec j hj).ne_null rfl,
    mapPresent_optionalField fun j hj => (hstatus j hj).ne_null rfl, hmetadata, hspec', hstatus']
  rfl

/-- **A job is read again as it is spelled.** -/
theorem toJson_of_read (hmetadata : Schema.objectMeta.Fits (.obj metadata.entries)) {j : Job}
    (h : read (.ofJson (ofParts version kind metadata spec status)) = .ok j) :
    j.toJson = shape.respell (ofParts version kind metadata spec status) := by
  rw [ofParts, Document.ofJson] at h
  obtain ⟨⟨entries, fault⟩, ⟨⟩, h⟩ := Except.bind_eq_ok_iff.mp h
  obtain ⟨fields, hfields, h⟩ := Except.bind_eq_ok_iff.mp h
  cases h
  obtain ⟨rfl, rfl, hrest⟩ := readTyped_ofParts hfields
  have hother : ∀ name ∈ ["metadata", "spec", "status"], name ≠ "apiVersion" ∧ name ≠ "kind" := by
    decide
  have hnames : ∀ f ∈ parts (.obj metadata.entries) spec status,
      f.1 ≠ "apiVersion" ∧ f.1 ≠ "kind" :=
    parts_cases (hother "metadata" (by decide)) (fun _ _ => hother "spec" (by decide))
      (fun _ _ => hother "status" (by decide))
  have hfits : ∀ f ∈ parts (.obj metadata.entries) spec status,
      ∃ e, shapes.lookup f.1 = some e ∧ e.2.Fits f.2 :=
    parts_cases ⟨_, rfl, hmetadata⟩ (fun j hj => ⟨_, rfl, hspec j hj⟩)
      (fun j hj => ⟨_, rfl, hstatus j hj⟩)
  have hknown : ∀ f ∈ parts (.obj metadata.entries) spec status,
      (shapes.lookup f.1).isSome := by
    intro f hf
    obtain ⟨e, he, -⟩ := hfits f hf
    rw [he]
    rfl
  have hagain : ∀ f ∈ parts (.obj metadata.entries) spec status, ∀ e,
      shapes.lookup f.1 = some e → ∀ a, e.2.read (.ofJson f.2) = .ok a → a = e.2.respell f.2 := by
    intro f hf e he
    obtain ⟨e', he', hf⟩ := hfits f hf
    rw [he] at he'
    cases he'
    exact Shape.read_ofJson hf
  have hwithin : ∀ f ∈ shapes, shapes.lookup f.1 = some f.2 :=
    fun f hf => (Shape.of_soundFields sound_shapes f hf).2.2
  have hwhole : ∀ f ∈ shapes,
      (must "apiVersion" .text :: must "kind" .text :: shapes).lookup f.1 = some f.2 :=
    fun f hf => (Shape.of_soundFields sound_shape f (.tail _ (.tail _ hf))).2.2
  rw [readTyped_eq_readFields hnames] at hrest
  have hread : fields = Shape.mapPresent (Shape.respellField shapes)
      (parts (.obj metadata.entries) spec status) :=
    Shape.readFields_ofFields hknown hagain [] sortedKeys_parts hrest
  have hform : shape.respell (ofParts apiVersion Job.kind metadata spec status)
      = .obj (("apiVersion", .str apiVersion) :: ("kind", .str Job.kind)
        :: Shape.mapPresent (Shape.respellField _) (parts (.obj metadata.entries) spec status)) :=
    rfl
  obtain ⟨m, hm⟩ := exists_metadata metadata
  rw [hform, hread, mapPresent_parts hspec hstatus hwithin, mapPresent_parts hspec hstatus hwhole,
    hm, findValue?_metadata, findValue?_spec, findValue?_status, fieldMap_obj, toJson_eq_ofParts]
  rfl

end Again

/-- **A job is read from another one's JSON form** if that form, with its times as they are written,
    is its own. -/
theorem read_toJson {j k : Job} (fits : j.Fits) (hread : (read (.ofJson j.toJson)).isOk = true)
    (hspelled : shape.respell j.toJson = k.toJson) : read (.ofJson j.toJson) = .ok k := by
  rw [toJson_eq_ofParts] at hread hspelled ⊢
  cases hafter : read (.ofJson (ofParts apiVersion kind j.metadata j.spec j.status)) with
  | error e =>
    rw [hafter] at hread
    cases hread
  | ok after =>
    have hform := toJson_of_read fits.spec fits.status fits.metadata hafter
    rw [ext_toJson (hform.trans hspelled)]

/-- A job becomes what is read from its expanded JSON form. -/
theorem expand_eq {render : String → Except ExpansionError String} {j k : Job} {form : Json}
    (hform : j.toJson.expand render = ⟨form, none⟩) (hread : read (.ofJson form) = .ok k) :
    j.expand render = ⟨k, none⟩ := by
  unfold expand
  simp only [hform, hread]

end Job

end Healing.Kubernetes
