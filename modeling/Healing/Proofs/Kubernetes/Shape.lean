/-
  Reading objects of a shape.

  What is read as a value of a shape fits it, and can be read again from the document that spells
  it out.  It comes out as it was, but for the values that have several spellings: points in time
  and bytes, which are read from any spelling and written in one.

  1. **Fitting** - `Shape.Fits`: values of a shape, with any texts in the places of times and bytes.
  2. **Spelling** - `Shape.respell` writes times and bytes in the one way.
  3. **Reading again** - `Shape.read_ofJson`.
  4. **Sound shapes** - `Shape.sound`: the defaults of required fields fit.
  5. **Reading** - `Shape.fits_of_read`: what is read from a plain document fits.
-/
import Healing.Kubernetes.Shape
import Healing.Proofs.Document

namespace Healing.Kubernetes

/-! ## Fitting -/

namespace Shape

/-- The values of a shape; a record has all its required fields and no unknown ones. -/
inductive Fits : Shape → Json → Prop
  | text (s : String) : Fits .text (.str s)
  | flag (b : Bool) : Fits .flag (.bool b)
  | whole {low high n : Int} (bounds : low ≤ n ∧ n ≤ high) : Fits (.whole low high) (.int n)
  | time (s : String) : Fits .time (.str s)
  | portion {n : Int} (bounds : -2_147_483_648 ≤ n ∧ n ≤ 2_147_483_647) : Fits .portion (.int n)
  | portionText (s : String) : Fits .portion (.str s)
  | bytes (s : String) : Fits .bytes (.str s)
  | anything {j : Json} (sorted : j.Sorted) : Fits .anything j
  | list {item : Shape} {items : List Json} (fits : ∀ j ∈ items, Fits item j) :
    Fits (.list item) (.arr items)
  | map {value : Shape} {fields : List (String × Json)} (keys : SortedKeys fields)
    (fits : ∀ f ∈ fields, Fits value f.2) : Fits (.map value) (.obj fields)
  | record {shapes : List (String × Bool × Shape)} {fields : List (String × Json)}
    (keys : SortedKeys fields) (known : ∀ f ∈ fields, (shapes.lookup f.1).isSome)
    (fits : ∀ f ∈ fields, ∀ e, shapes.lookup f.1 = some e → Fits e.2 f.2)
    (required : ∀ f ∈ shapes, f.2.1 = true → ∃ j, findValue? f.1 fields = some j ∧ j ≠ .null) :
    Fits (.record shapes) (.obj fields)

/-! ## Spelling -/

/-- A point in time as it is written, if the text spells one out. -/
def respellTime (s : String) : String := ((Timestamp.read? s).map Timestamp.writeWhole).getD s

/-- Bytes as they are written, if the text spells them out. -/
def respellBytes (s : String) : String :=
  ((Base64.decode? s.toList).map fun bytes => String.ofList (Base64.encode bytes)).getD s

/-- The fields that are not null, with their values changed. -/
def mapPresent (f : String → Json → Json) (fields : List (String × Json)) : List (String × Json) :=
  fields.filterMap fun e =>
    match e.2 with
    | .null => none
    | j => some (e.1, f e.1 j)

/-- The fields that are not null are sorted if all of them are. -/
theorem sortedKeys_mapPresent {f : String → Json → Json} {fields : List (String × Json)}
    (keys : SortedKeys fields) : SortedKeys (mapPresent f fields) := by
  have hname : ∀ {e e' : String × Json}, e' ∈ (match e.2 with
      | .null => none
      | j => some (e.1, f e.1 j)) → e'.1 = e.1 := by
    rintro ⟨name, j⟩ e' h
    cases j <;> cases h <;> rfl
  refine keys.filterMap _ fun e d hed e' he' d' hd' => ?_
  rw [hname he', hname hd']
  exact hed

mutual

/-- A value with its times and bytes as they are written, and without the fields of records that are
    null. -/
def respell : Shape → Json → Json
  | .time, .str s => .str (respellTime s)
  | .bytes, .str s => .str (respellBytes s)
  | .list item, .arr items => .arr (items.map (respell item))
  | .map value, .obj fields => .obj (fields.map fun f => (f.1, respell value f.2))
  | .record shapes, .obj fields => .obj (mapPresent (respellField shapes) fields)
  | _, j => j

/-- `respell` for the field of a record. -/
def respellField : List (String × Bool × Shape) → String → Json → Json
  | [], _, j => j
  | (name, _, s) :: r, field, j => if field == name then respell s j else respellField r field j

end

/-- A field is spelled after its shape. -/
theorem respellField_of_lookup {shapes : List (String × Bool × Shape)} {name : String}
    {e : Bool × Shape} (h : shapes.lookup name = some e) (j : Json) :
    respellField shapes name j = e.2.respell j := by
  induction shapes with
  | nil => cases h
  | cons f r ih =>
    rw [respellField]
    rw [List.lookup_cons] at h
    cases hname : name == f.1 with
    | true =>
      rw [hname] at h
      obtain rfl := Option.some.inj h
      rfl
    | false =>
      rw [hname] at h
      exact ih h

/-- A field is read after its shape. -/
theorem lookup_readers (shapes : List (String × Bool × Shape)) (name : String) :
    (readers shapes).lookup name = (shapes.lookup name).map fun e => e.2.read := by
  induction shapes with
  | nil => rfl
  | cons f r ih =>
    rw [readers, List.lookup_cons, List.lookup_cons, ih]
    cases name == f.1 <;> rfl

/-! ## Reading again -/

/-- Items are read again one by one. -/
theorem mapM_read {read : Reader} {f : Json → Json} {items : List Json}
    (ih : ∀ j ∈ items, ∀ a, read (.ofJson j) = .ok a → a = f j) :
    ∀ {js : List Json}, (Document.ofItems items).mapM read = .ok js → js = items.map f := by
  induction items with
  | nil =>
    rintro js ⟨⟩
    rfl
  | cons j r ihr =>
    intro js h
    obtain ⟨hj, hr⟩ := List.forall_mem_cons.mp ih
    rw [Document.ofItems, List.mapM_cons] at h
    obtain ⟨a, ha, h⟩ := Except.bind_eq_ok_iff.mp h
    obtain ⟨as, has, h⟩ := Except.bind_eq_ok_iff.mp h
    cases h
    rw [List.map_cons, hj a ha, ihr hr has]

/-- The values of a map are read again one by one. -/
theorem readEntries_ofFields {read : Reader} {f : Json → Json} {fields : List (String × Json)}
    (ih : ∀ e ∈ fields, ∀ a, read (.ofJson e.2) = .ok a → a = f e.2) :
    ∀ (before : KeyMap String Json) {after}, SortedKeys (before.entries ++ fields) →
      Document.readEntries read (Document.ofFields fields) before = .ok after →
      after.entries = before.entries ++ fields.map fun e => (e.1, f e.2) := by
  induction fields with
  | nil =>
    rintro before after - ⟨⟩
    rw [List.map_nil, List.append_nil]
  | cons e r ihr =>
    intro before after hkeys h
    obtain ⟨he, hr⟩ := List.forall_mem_cons.mp ih
    obtain ⟨k, ⟨⟩, h⟩ := Except.bind_eq_ok_iff.mp h
    obtain ⟨a, ha, h⟩ := Except.bind_eq_ok_iff.mp h
    have hnext : SortedKeys (before.entries ++ [(e.1, a)] ++ r) := by
      rw [← List.append_cons]
      exact hkeys.of_keys (by simp)
    have hinsert : (before.insert e.1 a).entries = before.entries ++ [(e.1, a)] :=
      insertEntry_last (e := (e.1, a)) (List.pairwise_append.mp hnext).1
    rw [← hinsert] at hnext
    rw [ihr hr _ hnext h, hinsert, he a ha, List.map_cons, ← List.append_cons]

/-- A value that is not null is there. -/
theorem optional_ofJson {α : Type} (read : Document → Except ReadError α) {j : Json}
    (h : j ≠ .null) : (Document.ofJson j).optional read = some <$> read (.ofJson j) := by
  cases j with
  | null => exact absurd rfl h
  | _ => rfl

/-- The fields of a record are read again one by one. -/
theorem readFields_ofFields {shapes : List (String × Bool × Shape)} {fields : List (String × Json)}
    (known : ∀ f ∈ fields, (shapes.lookup f.1).isSome)
    (ih : ∀ f ∈ fields, ∀ e, shapes.lookup f.1 = some e →
      ∀ a, e.2.read (.ofJson f.2) = .ok a → a = e.2.respell f.2) :
    ∀ (before : List (String × Json)) {after}, SortedKeys (before ++ fields) →
      readFields (readers shapes) (Document.ofFields fields) before = .ok after →
      after = before ++ mapPresent (respellField shapes) fields := by
  induction fields with
  | nil =>
    rintro before after - ⟨⟩
    exact (List.append_nil _).symm
  | cons f r ihr =>
    obtain ⟨name, j⟩ := f
    intro before after hkeys h
    obtain ⟨hf, hr⟩ := List.forall_mem_cons.mp ih
    obtain ⟨hknown, hrest⟩ := List.forall_mem_cons.mp known
    obtain ⟨e, he⟩ := Option.isSome_iff_exists.mp hknown
    obtain ⟨k, ⟨⟩, h⟩ := Except.bind_eq_ok_iff.mp h
    rw [lookup_readers, he, Option.map_some] at h
    obtain ⟨o, ho, h⟩ := Except.bind_eq_ok_iff.mp h
    by_cases hnull : j = .null
    · -- nothing stands for the name before, so nothing is taken out
      subst hnull
      cases ho
      have hwithout : SortedKeys (before ++ r) :=
        hkeys.sublist ((List.sublist_cons_self ..).append_left before)
      rw [eraseEntry_of_first hkeys] at h
      exact ihr hrest hr _ hwithout h
    · rw [optional_ofJson e.2.read hnull] at ho
      obtain ⟨a, ha, rfl⟩ := Except.map_eq_ok_iff.mp ho
      have hnext : SortedKeys (before ++ [(name, a)] ++ r) := by
        rw [← List.append_cons]
        exact hkeys.of_keys (by simp)
      have hlast := insertEntry_last (e := (name, a)) (List.pairwise_append.mp hnext).1
      have hpresent : mapPresent (respellField shapes) ((name, j) :: r)
          = (name, e.2.respell j) :: mapPresent (respellField shapes) r := by
        rw [← respellField_of_lookup he]
        cases j with
        | null => exact absurd rfl hnull
        | _ => rfl
      dsimp only at h
      rw [hlast] at h
      rw [ihr hrest hr _ hnext h, hf e he a ha, hpresent, ← List.append_cons]

/-- Defaults are added for what is absent only. -/
theorem addDefaults_of_isSome {defaults fields : List (String × Json)}
    (h : ∀ d ∈ defaults, (findValue? d.1 fields).isSome) : addDefaults defaults fields = fields := by
  induction defaults with
  | nil => rfl
  | cons d r ih =>
    obtain ⟨hd, hr⟩ := List.forall_mem_cons.mp h
    rw [addDefaults, List.foldl_cons, if_pos hd]
    exact ih hr

/-- Defaults are those of required fields. -/
theorem mem_defaults {shapes : List (String × Bool × Shape)} {d : String × Json}
    (h : d ∈ defaults shapes) : ∃ f ∈ shapes, f.1 = d.1 ∧ f.2.1 = true ∧ d.2 = f.2.2.default := by
  induction shapes with
  | nil => cases h
  | cons f r ih =>
    obtain ⟨name, required, s⟩ := f
    have hrest : d ∈ defaults r →
        ∃ f ∈ (name, required, s) :: r, f.1 = d.1 ∧ f.2.1 = true ∧ d.2 = f.2.2.default := by
      intro hd
      obtain ⟨f, hf, h⟩ := ih hd
      exact ⟨f, List.mem_cons_of_mem _ hf, h⟩
    rw [defaults] at h
    split at h
    · rename_i hrequired
      rcases List.mem_cons.mp h with rfl | h
      · exact ⟨_, List.mem_cons_self, rfl, hrequired, rfl⟩
      · exact hrest h
    · exact hrest h

/-- A required field has a default. -/
theorem defaults_of_mem {shapes : List (String × Bool × Shape)} {f : String × Bool × Shape}
    (h : f ∈ shapes) (required : f.2.1 = true) : (f.1, f.2.2.default) ∈ defaults shapes := by
  induction shapes with
  | nil => cases h
  | cons g r ih =>
    obtain ⟨name, needed, s⟩ := g
    rw [defaults]
    rcases List.mem_cons.mp h with rfl | h
    · rw [if_pos required]
      exact List.mem_cons_self
    · split
      · exact List.mem_cons_of_mem _ (ih h)
      · exact ih h

/-- A field that is there and not null stays there. -/
theorem isSome_mapPresent {f : String → Json → Json} {fields : List (String × Json)} {name : String}
    {j : Json} (h : findValue? name fields = some j) (hne : j ≠ .null) :
    (findValue? name (mapPresent f fields)).isSome := by
  rw [isSome_findValue?_iff]
  refine ⟨f name j, List.mem_filterMap.mpr ⟨(name, j), mem_of_findValue? h, ?_⟩⟩
  cases j with
  | null => exact absurd rfl hne
  | _ => rfl

/-- **What fits is read again as it is spelled.** -/
theorem read_ofJson {s : Shape} {j : Json} (fits : s.Fits j) :
    ∀ a, s.read (.ofJson j) = .ok a → a = s.respell j := by
  induction fits with
  | text s | flag b | portionText s =>
    rintro a ⟨⟩
    rfl
  | whole bounds =>
    intro a h
    rw [read, Document.ofJson] at h
    dsimp only [Document.whole] at h
    rw [if_pos bounds] at h
    cases h
    rfl
  | time s =>
    intro a h
    rw [read, Document.ofJson, readTime, Document.text] at h
    rw [respell, respellTime]
    cases htime : Timestamp.read? s with
    | none =>
      simp only [bind, Except.bind, htime] at h
      cases h
    | some t =>
      simp only [bind, Except.bind, htime] at h
      cases h
      rfl
  | portion bounds =>
    intro a h
    rw [read, Document.ofJson, readPortion, if_pos bounds] at h
    cases h
    rfl
  | bytes s =>
    intro a h
    rw [read, Document.ofJson, readBytes, Document.text] at h
    rw [respell, respellBytes]
    cases hbytes : Base64.decode? s.toList with
    | none =>
      simp only [bind, Except.bind, hbytes] at h
      cases h
    | some bytes =>
      simp only [bind, Except.bind, hbytes] at h
      cases h
      rfl
  | @anything j sorted =>
    intro a h
    rw [read, Document.value_ofJson sorted] at h
    cases h
    cases j <;> rfl
  | list _ ih =>
    intro a h
    rw [read, Document.ofJson] at h
    obtain ⟨js, hjs, rfl⟩ := Except.map_eq_ok_iff.mp h
    obtain ⟨items, hitems, hjs⟩ := Except.bind_eq_ok_iff.mp hjs
    cases hjs
    rw [respell, mapM_read ih hitems]
  | map keys _ ih =>
    intro a h
    rw [read, Document.ofJson] at h
    obtain ⟨m, hm, rfl⟩ := Except.map_eq_ok_iff.mp h
    obtain ⟨m', hm', hm⟩ := Except.bind_eq_ok_iff.mp hm
    cases hm
    have hentries := readEntries_ofFields ih ∅ keys hm'
    rw [respell, hentries]
    rfl
  | record keys known _ required ih =>
    intro a h
    rw [read, Document.ofJson, readRecord] at h
    obtain ⟨⟨entries, fault⟩, ⟨⟩, h⟩ := Except.bind_eq_ok_iff.mp h
    obtain ⟨fields, hfields, h⟩ := Except.bind_eq_ok_iff.mp h
    cases h
    have hpresent := readFields_ofFields known ih [] keys hfields
    rw [respell, hpresent, List.nil_append]
    refine congrArg Json.obj (addDefaults_of_isSome fun d hd => ?_)
    obtain ⟨f, hf, hname, hrequired, -⟩ := mem_defaults hd
    obtain ⟨j, hj, hne⟩ := required f hf hrequired
    rw [hname] at hj
    exact isSome_mapPresent hj hne

/-! ## Sound shapes -/

/-- Whether any value is one of the shape. -/
def isAnything : Shape → Bool
  | .anything => true
  | _ => false

mutual

/-- Whether the defaults of required fields fit, and are not null; and no name stands for two
    fields. -/
def sound : Shape → Bool
  | .whole low high => decide (low ≤ 0) && decide (0 ≤ high)
  | .list item => sound item
  | .map value => sound value
  | .record fields => soundFields fields
  | _ => true

/-- `sound` for fields. -/
def soundFields : List (String × Bool × Shape) → Bool
  | [] => true
  | (name, required, s) :: r =>
    sound s && !(required && s.isAnything) && (r.lookup name).isNone && soundFields r

end

/-- What holds of a record if it holds of all its fields holds of every shape. -/
@[elab_as_elim]
theorem induct {P : Shape → Prop} (text : P .text) (flag : P .flag)
    (whole : ∀ low high, P (.whole low high)) (time : P .time) (portion : P .portion)
    (bytes : P .bytes) (anything : P .anything) (list : ∀ item, P item → P (.list item))
    (map : ∀ value, P value → P (.map value))
    (record : ∀ fields, (∀ f ∈ fields, P f.2.2) → P (.record fields)) (s : Shape) : P s :=
  @Shape.rec P (fun fields => ∀ f ∈ fields, P f.2.2) (fun f => P f.2.2) (fun f => P f.2)
    text flag whole time portion bytes anything list map record nofun
    (fun _ _ hf hr => List.forall_mem_cons.mpr ⟨hf, hr⟩) (fun _ _ hs => hs) (fun _ _ hs => hs) s

/-- Without one of its fields a sound record is sound. -/
theorem soundFields_of_cons {f : String × Bool × Shape} {r : List (String × Bool × Shape)}
    (h : soundFields (f :: r) = true) : soundFields r = true := by
  obtain ⟨name, required, s⟩ := f
  exact (Bool.and_eq_true_iff.mp h).2

/-- What is known about the fields of a sound record. -/
theorem of_soundFields {shapes : List (String × Bool × Shape)} (h : soundFields shapes = true) :
    ∀ f ∈ shapes, f.2.2.sound = true ∧ (f.2.1 = true → f.2.2.isAnything = false) ∧
      shapes.lookup f.1 = some f.2 := by
  induction shapes with
  | nil => exact nofun
  | cons f r ih =>
    obtain ⟨name, required, s⟩ := f
    rw [soundFields] at h
    simp only [Bool.and_eq_true, Bool.not_eq_true', Bool.and_eq_false_imp] at h
    obtain ⟨⟨⟨hsound, hanything⟩, hnew⟩, hr⟩ := h
    refine List.forall_mem_cons.mpr ⟨⟨hsound, hanything, List.lookup_cons_self⟩, ?_⟩
    intro g hg
    obtain ⟨hgsound, hganything, hlookup⟩ := ih hr g hg
    have hne : (g.1 == name) = false := by
      rw [beq_eq_false_iff_ne]
      intro heq
      rw [heq] at hlookup
      rw [hlookup] at hnew
      cases hnew
    refine ⟨hgsound, hganything, ?_⟩
    rw [List.lookup_cons, hne]
    exact hlookup

/-- Only what may be anything may be null. -/
theorem Fits.ne_null {s : Shape} {j : Json} (h : s.Fits j) (hs : s.isAnything = false) :
    j ≠ .null := by
  rintro rfl
  cases h
  cases hs

/-- What is said about a field of a record: whether it is required, and its shape. -/
def field? : Shape → String → Option (Bool × Shape)
  | .record shapes, name => shapes.lookup name
  | _, _ => none

/-- Known fields that fit make up a record if no required one is missing. -/
theorem Fits.ofFields {shapes : List (String × Bool × Shape)} {fields : List (String × Json)}
    (sound : soundFields shapes = true) (keys : SortedKeys fields)
    (fits : ∀ f ∈ fields, ∃ e, shapes.lookup f.1 = some e ∧ Fits e.2 f.2)
    (required : ∀ f ∈ shapes, f.2.1 = true → (findValue? f.1 fields).isSome) :
    Fits (.record shapes) (.obj fields) := by
  refine .record keys (fun f hf => ?_) (fun f hf e he => ?_) (fun f hf hrequired => ?_)
  · obtain ⟨e, he, -⟩ := fits f hf
    rw [he]
    rfl
  · obtain ⟨e', he', hfits⟩ := fits f hf
    rw [he] at he'
    cases he'
    exact hfits
  · obtain ⟨j, hj⟩ := Option.isSome_iff_exists.mp (required f hf hrequired)
    obtain ⟨e, he, hfits⟩ := fits _ (mem_of_findValue? hj)
    obtain ⟨-, hanything, hlookup⟩ := of_soundFields sound f hf
    rw [hlookup] at he
    cases he
    exact ⟨j, hj, hfits.ne_null (hanything hrequired)⟩

/-! ## Defaults -/

/-- What is known about fields after others have been added to them, each unless its name is there
    already or in any case. -/
theorem foldl_added {P : String × Json → Prop}
    {step : List (String × Json) → String × Json → List (String × Json)}
    (hstep : ∀ l d, step l d = insertEntry d.1 d.2 l ∨
      ((findValue? d.1 l).isSome ∧ step l d = l)) {more : List (String × Json)} :
    ∀ {fields : List (String × Json)}, SortedKeys fields → (∀ f ∈ fields, P f) →
      (∀ d ∈ more, P d) →
      SortedKeys (more.foldl step fields) ∧ (∀ f ∈ more.foldl step fields, P f) ∧
        ∀ name, (findValue? name fields).isSome ∨ name ∈ more.map (·.1) →
          (findValue? name (more.foldl step fields)).isSome := by
  induction more with
  | nil =>
    intro fields keys hfields _
    refine ⟨keys, hfields, ?_⟩
    rintro name (h | h)
    · exact h
    · cases h
  | cons d r ih =>
    intro fields keys hfields hmore
    obtain ⟨hd, hr⟩ := List.forall_mem_cons.mp hmore
    rw [List.foldl_cons, List.map_cons]
    rcases hstep fields d with heq | ⟨hpresent, heq⟩
    · have hinsert : ∀ f ∈ insertEntry d.1 d.2 fields, P f := by
        intro f hf
        rcases mem_insertEntry hf with rfl | hf
        · exact hd
        · exact hfields f hf
      rw [heq]
      obtain ⟨hkeys, hall, hthere⟩ := ih (pairwise_insertEntry d.1 d.2 keys) hinsert hr
      refine ⟨hkeys, hall, fun name h => hthere name ?_⟩
      rw [findValue?_insertEntry]
      split
      · exact Or.inl rfl
      · rename_i hne
        rcases h with h | h
        · exact Or.inl h
        · exact Or.inr (List.mem_of_ne_of_mem hne h)
    · rw [heq]
      obtain ⟨hkeys, hall, hthere⟩ := ih keys hfields hr
      refine ⟨hkeys, hall, fun name h => hthere name ?_⟩
      rcases h with h | h
      · exact Or.inl h
      · rcases List.mem_cons.mp h with rfl | h
        · exact Or.inl hpresent
        · exact Or.inr h

/-- A record that lacks required fields is filled up with their defaults. -/
theorem Fits.filled {shapes : List (String × Bool × Shape)} {fields : List (String × Json)}
    {step : List (String × Json) → String × Json → List (String × Json)}
    (hstep : ∀ l d, step l d = insertEntry d.1 d.2 l ∨
      ((findValue? d.1 l).isSome ∧ step l d = l))
    (sound : soundFields shapes = true) (keys : SortedKeys fields)
    (fits : ∀ f ∈ fields, ∃ e, shapes.lookup f.1 = some e ∧ Fits e.2 f.2)
    (hdefaults : ∀ f ∈ shapes, f.2.1 = true → Fits f.2.2 f.2.2.default) :
    Fits (.record shapes) (.obj ((defaults shapes).foldl step fields)) := by
  have hknown : ∀ d ∈ defaults shapes, ∃ e, shapes.lookup d.1 = some e ∧ Fits e.2 d.2 := by
    intro d hd
    obtain ⟨f, hf, hname, hrequired, hdefault⟩ := mem_defaults hd
    obtain ⟨-, -, hlookup⟩ := of_soundFields sound f hf
    rw [← hname, hdefault]
    exact ⟨f.2, hlookup, hdefaults f hf hrequired⟩
  obtain ⟨hkeys, hall, hthere⟩ := foldl_added hstep keys fits hknown
  refine .ofFields sound hkeys hall fun f hf hrequired => hthere f.1 (Or.inr ?_)
  exact List.mem_map_of_mem (f := (·.1)) (defaults_of_mem hf hrequired)

/-- **The default of a sound shape fits.** -/
theorem fits_default (s : Shape) : s.sound = true → s.Fits s.default := by
  induction s using Shape.induct with
  | text => exact fun _ => .text _
  | flag => exact fun _ => .flag _
  | whole low high =>
    intro h
    obtain ⟨hlow, hhigh⟩ := Bool.and_eq_true_iff.mp h
    exact .whole ⟨of_decide_eq_true hlow, of_decide_eq_true hhigh⟩
  | time => exact fun _ => .time _
  | portion => exact fun _ => .portion (by decide)
  | bytes => exact fun _ => .bytes _
  | anything => exact fun _ => .anything .null
  | list item _ => exact fun _ => .list nofun
  | map value _ => exact fun _ => .map .nil nofun
  | record fields ih =>
    intro h
    exact .filled (fun l d => Or.inl rfl) h .nil nofun fun f hf _ =>
      ih f hf (of_soundFields h f hf).1

/-! ## Reading -/

/-- A number that a scalar spells out lies between the bounds. -/
theorem bounds_of_signed? {low high n : Int} {text : String}
    (h : Yaml.signed? low high text = some n) : low ≤ n ∧ n ≤ high := by
  have hsigned : ∀ {base cs}, Numeral.signed? base low high cs = some n → low ≤ n ∧ n ≤ high := by
    intro base cs h
    obtain ⟨i, -, hi⟩ := Option.bind_eq_some_iff.mp h
    split at hi
    · rename_i hbounds
      cases hi
      exact hbounds
    · cases hi
  have hmarked : ∀ {read : Nat → List Char → Option Int} {cs},
      (∀ base d, read base d = some n → low ≤ n ∧ n ≤ high) →
      Yaml.marked? read cs = some n → low ≤ n ∧ n ≤ high := by
    intro read cs hread h
    unfold Yaml.marked? at h
    split at h
    · obtain ⟨m, -, h⟩ := Option.bind_eq_some_iff.mp h
      split at h
      · cases h
      · exact hread _ _ h
    · cases h
  unfold Yaml.signed? at h
  extract_lets cs doubleSign r negated at h
  have hnegated : negated = some n → low ≤ n ∧ n ≤ high := by
    clear_value cs
    intro h
    subst negated
    split at h
    · exact hmarked (fun _ _ => hsigned) h
    · cases h
  split at h
  · cases h
  · rcases Option.or_eq_some_iff.mp h with h | ⟨-, h⟩
    · exact hmarked (fun _ _ => hsigned) h
    · rcases Option.or_eq_some_iff.mp h with h | ⟨-, h⟩
      · exact hnegated h
      · split at h
        · cases h
        · exact hsigned h

/-- A whole number is read between its bounds. -/
theorem bounds_of_whole {low high n : Int} {d : Document} (h : d.whole low high = .ok n) :
    low ≤ n ∧ n ≤ high := by
  unfold Document.whole at h
  split at h
  · split at h
    · rename_i hbounds
      cases h
      exact hbounds
    · cases h
  · split at h
    · rename_i i hi
      cases h
      split at hi
      · exact bounds_of_signed? hi
      · cases hi
    · cases h
  · cases h

/-- A point in time is read as a text. -/
theorem text_of_readTime {d : Document} {j : Json} (h : readTime d = .ok j) : ∃ s, j = .str s := by
  obtain ⟨text, -, h⟩ := Except.bind_eq_ok_iff.mp h
  cases htime : Timestamp.read? text with
  | none =>
    rw [htime] at h
    cases h
  | some t =>
    rw [htime] at h
    cases h
    exact ⟨_, rfl⟩

/-- Bytes are read as a text. -/
theorem text_of_readBytes {d : Document} {j : Json} (h : readBytes d = .ok j) : ∃ s, j = .str s := by
  obtain ⟨text, -, h⟩ := Except.bind_eq_ok_iff.mp h
  cases hbytes : Base64.decode? text.toList with
  | none =>
    rw [hbytes] at h
    cases h
  | some bytes =>
    rw [hbytes] at h
    cases h
    exact ⟨_, rfl⟩

/-- A portion is read as a number between its bounds, or as a text. -/
theorem fits_of_readPortion {d : Document} {j : Json} (h : readPortion d = .ok j) :
    Fits .portion j := by
  unfold readPortion at h
  split at h
  · split at h
    · rename_i hbounds
      cases h
      exact .portion hbounds
    · cases h
  · cases h
    exact .portionText _
  · split at h
    · split at h
      · rename_i hbounds
        cases h
        exact .portion hbounds
      · cases h
    · cases h
      exact .portionText _
    · cases h
  · cases h
  · cases h

/-- What is read from items fits. -/
theorem fits_of_mapM {read : Reader} {P : Json → Prop} {items : List Document}
    (h : ∀ d ∈ items, ∀ j, read d = .ok j → P j) :
    ∀ {js : List Json}, items.mapM read = .ok js → ∀ j ∈ js, P j := by
  induction items with
  | nil =>
    rintro js ⟨⟩
    exact nofun
  | cons d r ih =>
    intro js hjs
    obtain ⟨hd, hr⟩ := List.forall_mem_cons.mp h
    rw [List.mapM_cons] at hjs
    obtain ⟨j, hj, hjs⟩ := Except.bind_eq_ok_iff.mp hjs
    obtain ⟨js', hjs', hjs⟩ := Except.bind_eq_ok_iff.mp hjs
    cases hjs
    exact List.forall_mem_cons.mpr ⟨hd j hj, ih hr hjs'⟩

/-- What is read from entries fits. -/
theorem fits_of_readEntries {read : Reader} {P : Json → Prop}
    {entries : List (Document × Document)}
    (h : ∀ e ∈ entries, ∀ j, read e.2 = .ok j → P j) :
    ∀ {before after : KeyMap String Json}, (∀ f ∈ before.entries, P f.2) →
      Document.readEntries read entries before = .ok after → ∀ f ∈ after.entries, P f.2 := by
  induction entries with
  | nil =>
    rintro before after hbefore ⟨⟩
    exact hbefore
  | cons e r ih =>
    intro before after hbefore hafter
    obtain ⟨he, hr⟩ := List.forall_mem_cons.mp h
    obtain ⟨k, -, hafter⟩ := Except.bind_eq_ok_iff.mp hafter
    obtain ⟨j, hj, hafter⟩ := Except.bind_eq_ok_iff.mp hafter
    refine ih hr (fun f hf => ?_) hafter
    rcases mem_insertEntry hf with rfl | hf
    · exact he j hj
    · exact hbefore f hf

/-- What is read from the entries of a record are known fields that fit. -/
theorem fits_of_readFields {shapes : List (String × Bool × Shape)}
    {entries : List (Document × Document)}
    (h : ∀ e ∈ entries, ∀ f ∈ shapes, ∀ j, f.2.2.read e.2 = .ok j → Fits f.2.2 j) :
    ∀ {before after : List (String × Json)}, SortedKeys before →
      (∀ f ∈ before, ∃ e, shapes.lookup f.1 = some e ∧ Fits e.2 f.2) →
      readFields (readers shapes) entries before = .ok after →
      SortedKeys after ∧ ∀ f ∈ after, ∃ e, shapes.lookup f.1 = some e ∧ Fits e.2 f.2 := by
  induction entries with
  | nil =>
    rintro before after keys hbefore ⟨⟩
    exact ⟨keys, hbefore⟩
  | cons entry r ih =>
    intro before after keys hbefore hafter
    obtain ⟨hentry, hr⟩ := List.forall_mem_cons.mp h
    obtain ⟨name, -, hafter⟩ := Except.bind_eq_ok_iff.mp hafter
    rw [lookup_readers] at hafter
    cases hlookup : shapes.lookup name with
    | none =>
      rw [hlookup] at hafter
      obtain ⟨-, -, hafter⟩ := Except.bind_eq_ok_iff.mp hafter
      exact ih hr keys hbefore hafter
    | some e =>
      rw [hlookup] at hafter
      obtain ⟨o, ho, hafter⟩ := Except.bind_eq_ok_iff.mp hafter
      cases o with
      | none =>
        refine ih hr (pairwise_eraseEntry name keys) (fun f hf => ?_) hafter
        exact hbefore f (List.mem_filter.mp hf).1
      | some j =>
        refine ih hr (pairwise_insertEntry name j keys) (fun f hf => ?_) hafter
        rcases mem_insertEntry hf with rfl | hf
        · obtain ⟨l₁, l₂, hshapes, -⟩ := List.lookup_eq_some_iff.mp hlookup
          have hmem : (name, e) ∈ shapes := by
            rw [hshapes]
            exact List.mem_append_right _ List.mem_cons_self
          exact ⟨e, hlookup, hentry _ hmem j (Document.read_of_optional ho)⟩
        · exact hbefore f hf

/-- **What is read from a plain document fits.** -/
theorem fits_of_read (s : Shape) : s.sound = true → ∀ d : Document, d.Plain →
    ∀ j, s.read d = .ok j → s.Fits j := by
  induction s using Shape.induct with
  | text =>
    intro _ d _ j h
    obtain ⟨s, -, rfl⟩ := Except.map_eq_ok_iff.mp h
    exact .text s
  | flag =>
    intro _ d _ j h
    obtain ⟨b, -, rfl⟩ := Except.map_eq_ok_iff.mp h
    exact .flag b
  | whole low high =>
    intro _ d _ j h
    obtain ⟨n, hn, rfl⟩ := Except.map_eq_ok_iff.mp h
    exact .whole (bounds_of_whole hn)
  | time =>
    intro _ d _ j h
    obtain ⟨s, rfl⟩ := text_of_readTime h
    exact .time s
  | portion =>
    intro _ d _ j h
    exact fits_of_readPortion h
  | bytes =>
    intro _ d _ j h
    obtain ⟨s, rfl⟩ := text_of_readBytes h
    exact .bytes s
  | anything =>
    intro _ d plain j h
    exact .anything (Document.sorted_of_value plain j h)
  | list item ih =>
    intro sound d plain j h
    rw [read] at h
    obtain ⟨js, hjs, rfl⟩ := Except.map_eq_ok_iff.mp h
    obtain ⟨items, hitems, hjs⟩ := Document.listOf_cases plain hjs
    exact .list (fits_of_mapM (fun d hd => ih sound d (hitems d hd)) hjs)
  | map value ih =>
    intro sound d plain j h
    rw [read] at h
    obtain ⟨m, hm, rfl⟩ := Except.map_eq_ok_iff.mp h
    obtain ⟨entries, hentries, hm⟩ := Document.mapOf_cases plain hm
    exact .map m.sorted
      (fits_of_readEntries (fun e he => ih sound e.2 (hentries e he)) (List.forall_mem_nil _) hm)
  | record fields ih =>
    intro sound d plain j h
    rw [read] at h
    obtain ⟨⟨entries, fault⟩, hentries, h⟩ := Except.bind_eq_ok_iff.mp h
    obtain ⟨after, hafter, h⟩ := Except.bind_eq_ok_iff.mp h
    obtain ⟨-, -, h⟩ := Except.bind_eq_ok_iff.mp h
    cases h
    have hfields : ∀ e ∈ entries, ∀ f ∈ fields, ∀ j, f.2.2.read e.2 = .ok j → Fits f.2.2 j :=
      fun e he f hf => ih f hf (of_soundFields sound f hf).1 e.2
        (Document.plain_of_entries plain hentries e he)
    obtain ⟨keys, hfits⟩ := fits_of_readFields hfields .nil (List.forall_mem_nil _) hafter
    refine .filled (fun l d => ?_) sound keys hfits fun f hf _ =>
      fits_default f.2.2 (of_soundFields sound f hf).1
    split
    · rename_i hpresent
      exact Or.inr ⟨hpresent, rfl⟩
    · exact Or.inl rfl

end Shape

end Healing.Kubernetes
