/-
  Records and the values that describe them.

  A record is read from the fields of an object, in any order, or from the items of an array, in the
  order of the fields; fields that it does not know are skipped.  Every field is read on its own, so
  that a value describes a record iff each of its known fields has the right type and none that is
  needed is missing.

  1. **Loops** - `exists_foldlM_iff`: a loop succeeds iff every step does.
  2. **Fields** - `Json.given?` for what a value gives to a record, `Document.known` for what the
     record takes.
  3. **Reading** - `Document.record_ofJson_iff`: a record is what its known fields make of it, one
     by one.
  4. **Single fields** - `foldlM_field`: what one field sets is what the record has.
  5. **Types** - `Json.Declared` and `Json.IsRecord`; `Document.record_iff`.
  6. **Parts** - `Document.record_invariant`: what the parts of a document preserve, it preserves.
-/
import Healing.Proofs.Document
import Mathlib.Data.List.Nodup

namespace Healing

/-! ## Loops -/

section Loops

variable {ε α σ : Type} {f : σ → α → Except ε σ}

/-- A loop goes on behind its first step. -/
theorem foldlM_cons_eq_ok_iff {a : α} {l : List α} {s s' : σ} :
    (a :: l).foldlM f s = .ok s' ↔ ∃ t, f s a = .ok t ∧ l.foldlM f t = .ok s' := by
  rw [List.foldlM_cons]
  exact Except.bind_eq_ok_iff

/-- A loop goes on behind its first half. -/
theorem foldlM_append_eq_ok_iff {l m : List α} {s s' : σ} :
    (l ++ m).foldlM f s = .ok s' ↔ ∃ t, l.foldlM f s = .ok t ∧ m.foldlM f t = .ok s' := by
  rw [List.foldlM_append]
  exact Except.bind_eq_ok_iff

/-- **A loop succeeds iff every step does**, if the state has no say in it. -/
theorem exists_foldlM_iff {P : α → Prop} {l : List α}
    (hstep : ∀ a ∈ l, ∀ s, (∃ s', f s a = .ok s') ↔ P a) (s : σ) :
    (∃ s', l.foldlM f s = .ok s') ↔ ∀ a ∈ l, P a := by
  induction l generalizing s with
  | nil => exact ⟨fun _ => nofun, fun _ => ⟨s, rfl⟩⟩
  | cons a r ih =>
    obtain ⟨hhead, htail⟩ := List.forall_mem_cons.mp hstep
    rw [List.forall_mem_cons]
    constructor
    · rintro ⟨s', h⟩
      obtain ⟨t, ht, h⟩ := foldlM_cons_eq_ok_iff.mp h
      exact ⟨(hhead s).mp ⟨t, ht⟩, (ih htail t).mp ⟨s', h⟩⟩
    · rintro ⟨ha, hr⟩
      obtain ⟨t, ht⟩ := (hhead s).mpr ha
      obtain ⟨s', h⟩ := (ih htail t).mpr hr
      exact ⟨s', foldlM_cons_eq_ok_iff.mpr ⟨t, ht, h⟩⟩

end Loops

/-! ## Fields -/

/-- The fields that a value gives to a record: those of an object by name, or the items of an array
    by place, if there are not too many. -/
def Json.given? (names : List String) : Json → Option (List (String × Json))
  | .obj fields => some fields
  | .arr items => if items.length ≤ names.length then some (names.zip items) else none
  | _ => none

namespace Document

/-- The fields that a record knows. -/
def known (names : List String) (fields : List (String × Json)) : List (String × Json) :=
  fields.filter fun f => names.contains f.1

/-- The fields that are known are those with a known name. -/
theorem mem_known {names : List String} {fields : List (String × Json)} {f : String × Json} :
    f ∈ known names fields ↔ f ∈ fields ∧ f.1 ∈ names := by
  unfold known
  rw [List.mem_filter, List.contains_iff_mem]

/-- If all names are known, so are all fields. -/
theorem known_eq_self {names : List String} {fields : List (String × Json)}
    (h : ∀ f ∈ fields, f.1 ∈ names) : known names fields = fields :=
  List.filter_eq_self.mpr fun f hf => List.contains_iff_mem.mpr (h f hf)

/-- The names that items are given stand in their order. -/
theorem map_fst_zip_sublist :
    ∀ (names : List String) (items : List Json), ((names.zip items).map (·.1)).Sublist names
  | [], _ => List.Sublist.slnil
  | _ :: _, [] => List.nil_sublist _
  | name :: names, _ :: items => (map_fst_zip_sublist names items).cons_cons name

/-- Items that are given names have known names. -/
theorem known_zip (names : List String) (items : List Json) :
    known names (names.zip items) = names.zip items :=
  known_eq_self fun _ hf => (List.of_mem_zip hf).1

/-! ## Reading -/

/-- The document of a value can be skipped. -/
theorem ignore_ofJson (j : Json) : ignore (ofJson j) = .ok () := by
  induction j using Json.induct with
  | arr items ih =>
    have hitems : ignoreItems (ofItems items) = .ok () := by
      induction items with
      | nil => rfl
      | cons j r ihr =>
        obtain ⟨hj, hr⟩ := List.forall_mem_cons.mp ih
        show (ignore (ofJson j) >>= fun _ => ignoreItems (ofItems r)) = _
        rw [hj]
        exact ihr hr
    show (ignoreItems (ofItems items) >>= fun _ => checkFault none) = _
    rw [hitems]
    rfl
  | obj fields ih =>
    have hfields : ignoreEntries (ofFields fields) = .ok () := by
      induction fields with
      | nil => rfl
      | cons f r ihr =>
        obtain ⟨hf, hr⟩ := List.forall_mem_cons.mp ih
        show (ignore (ofJson f.2) >>= fun _ => ignoreEntries (ofFields r)) = _
        rw [hf]
        exact ihr hr
    show (ignoreEntries (ofFields fields) >>= fun _ => checkFault none) = _
    rw [hfields]
    rfl
  | _ => rfl

variable {σ : Type} {names : List String} {step : σ → String → Document → Except ReadError σ}

/-- One field of a value is read. -/
def stepOf (step : σ → String → Document → Except ReadError σ) (s : σ) (f : String × Json) :
    Except ReadError σ :=
  step s f.1 (ofJson f.2)

/-- Fields by name: the known ones are read in order, if none of them comes twice. -/
theorem recordEntries_ofFields_iff (fields : List (String × Json)) :
    ∀ {seen : List String} {s s' : σ}, recordEntries names step (ofFields fields) seen s = .ok s' ↔
      (∀ f ∈ known names fields, f.1 ∉ seen) ∧ ((known names fields).map (·.1)).Nodup ∧
        (known names fields).foldlM (stepOf step) s = .ok s' := by
  induction fields with
  | nil =>
    intro seen s s'
    exact ⟨fun h => ⟨nofun, List.nodup_nil, h⟩, fun h => h.2.2⟩
  | cons f r ih =>
    intro seen s s'
    show (if names.contains f.1 = true then
        if seen.contains f.1 = true then .error .mismatch
        else stepOf step s f >>= fun s => recordEntries names step (ofFields r) (f.1 :: seen) s
      else ignore (ofJson f.2) >>= fun _ => recordEntries names step (ofFields r) seen s) = _ ↔ _
    by_cases hknown : names.contains f.1 = true
    · have hfields : known names (f :: r) = f :: known names r := List.filter_cons_of_pos hknown
      rw [hfields, if_pos hknown, List.forall_mem_cons, List.map_cons, List.nodup_cons,
        foldlM_cons_eq_ok_iff]
      by_cases hseen : seen.contains f.1 = true
      · rw [if_pos hseen]
        exact ⟨nofun, fun h => absurd (List.contains_iff_mem.mp hseen) h.1.1⟩
      · have hfresh : f.1 ∉ seen := fun h => hseen (List.contains_iff_mem.mpr h)
        rw [if_neg hseen, Except.bind_eq_ok_iff]
        -- the name of the first field is now among those that must not come again
        constructor
        · rintro ⟨t, ht, h⟩
          obtain ⟨hnew, hnodup, hfold⟩ := ih.mp h
          refine ⟨⟨hfresh, fun g hg hmem => hnew g hg (List.mem_cons_of_mem _ hmem)⟩,
            ⟨fun hmem => ?_, hnodup⟩, t, ht, hfold⟩
          obtain ⟨g, hg, hname⟩ := List.mem_map.mp hmem
          exact hnew g hg (hname ▸ List.mem_cons_self)
        · rintro ⟨⟨-, hnew⟩, ⟨hfirst, hnodup⟩, t, ht, hfold⟩
          refine ⟨t, ht, ih.mpr ⟨fun g hg hmem => ?_, hnodup, hfold⟩⟩
          rcases List.mem_cons.mp hmem with hname | hmem
          · exact hfirst (List.mem_map.mpr ⟨g, hg, hname⟩)
          · exact hnew g hg hmem
    · have hfields : known names (f :: r) = known names r := List.filter_cons_of_neg hknown
      rw [hfields, if_neg hknown, ignore_ofJson]
      exact ih

/-- Fields by place: each item is read under the next name, and there are not too many items. -/
theorem recordItems_ofItems_iff (items : List Json) :
    ∀ {names : List String} {s s' : σ}, recordItems step names (ofItems items) s = .ok s' ↔
      items.length ≤ names.length ∧ (names.zip items).foldlM (stepOf step) s = .ok s' := by
  induction items with
  | nil =>
    intro names s s'
    rw [List.zip_nil_right]
    have hread : recordItems step names (ofItems []) s = .ok s := by cases names <;> rfl
    rw [hread]
    exact ⟨fun h => ⟨Nat.zero_le _, h⟩, fun h => h.2⟩
  | cons j r ih =>
    intro names s s'
    cases names with
    | nil =>
      -- there is an item too many, and it is no broken one
      have hread : recordItems step [] (ofItems (j :: r)) s = .error .malformed := by
        cases j <;> rfl
      rw [hread]
      exact ⟨nofun, fun h => absurd h.1 (Nat.not_succ_le_zero _)⟩
    | cons name names =>
      rw [ofItems, recordItems, Except.bind_eq_ok_iff, List.zip_cons_cons, foldlM_cons_eq_ok_iff,
        List.length_cons, List.length_cons, Nat.succ_le_succ_iff]
      constructor
      · rintro ⟨t, ht, h⟩
        obtain ⟨hlength, hfold⟩ := ih.mp h
        exact ⟨hlength, t, ht, hfold⟩
      · rintro ⟨hlength, t, ht, hfold⟩
        exact ⟨t, ht, ih.mpr ⟨hlength, hfold⟩⟩

/-- **A record is what its known fields make of it, one by one.** -/
theorem record_ofJson_iff (hnames : names.Nodup) {start s : σ} {j : Json} :
    (∃ given, record names start step (ofJson j) = .ok (s, given)) ↔
      ∃ fields, j.given? names = some fields ∧ ((known names fields).map (·.1)).Nodup ∧
        (known names fields).foldlM (stepOf step) start = .ok s := by
  cases j with
  | obj fields =>
    have hread : record names start step (ofJson (.obj fields))
        = (·, .byName) <$> recordEntries names step (ofFields fields) [] start := by
      show (recordEntries names step (ofFields fields) [] start >>= fun s => Except.ok (s, _)) = _
      cases recordEntries names step (ofFields fields) [] start <;> rfl
    rw [hread]
    constructor
    · rintro ⟨given, h⟩
      obtain ⟨t, ht, ⟨⟩⟩ := Except.map_eq_ok_iff.mp h
      obtain ⟨-, hnodup, hfold⟩ := (recordEntries_ofFields_iff fields).mp ht
      exact ⟨fields, rfl, hnodup, hfold⟩
    · rintro ⟨_, ⟨⟩, hnodup, hfold⟩
      have hentries := (recordEntries_ofFields_iff fields).mpr
        ⟨fun _ _ => List.not_mem_nil, hnodup, hfold⟩
      exact ⟨.byName, Except.map_eq_ok_iff.mpr ⟨s, hentries, rfl⟩⟩
  | arr items =>
    have hread : record names start step (ofJson (.arr items)) =
        (·, .byPlace (ofItems items).length) <$> recordItems step names (ofItems items) start := by
      show (recordItems step names (ofItems items) start >>= fun s => Except.ok (s, _)) = _
      cases recordItems step names (ofItems items) start <;> rfl
    rw [hread]
    constructor
    · rintro ⟨given, h⟩
      obtain ⟨t, ht, ⟨⟩⟩ := Except.map_eq_ok_iff.mp h
      obtain ⟨hlength, hfold⟩ := (recordItems_ofItems_iff items).mp ht
      refine ⟨names.zip items, if_pos hlength, ?_⟩
      rw [known_zip]
      exact ⟨hnames.sublist (map_fst_zip_sublist names items), hfold⟩
    · rintro ⟨fields, hgiven, -, hfold⟩
      obtain ⟨hlength, hfields⟩ := Option.ite_none_right_eq_some.mp hgiven
      cases hfields
      rw [known_zip] at hfold
      have hitems := (recordItems_ofItems_iff items).mpr ⟨hlength, hfold⟩
      exact ⟨_, Except.map_eq_ok_iff.mpr ⟨s, hitems, rfl⟩⟩
  | _ =>
    constructor
    · rintro ⟨given, ⟨⟩⟩
    · rintro ⟨fields, ⟨⟩, -⟩

/-! ## Single fields -/

/-- **One field.**  What is set by a field with one name, and by no other, is what that field has
    set it to, if there is one, or else what it was at the start. -/
theorem foldlM_field {β : Type} {get : σ → β} {R : Json → β → Prop} {name : String}
    (hset : ∀ {s s' : σ} {j : Json}, step s name (ofJson j) = .ok s' → R j (get s'))
    (hkeep : ∀ other ∈ names, other ≠ name → ∀ {s s' : σ} {j : Json},
      step s other (ofJson j) = .ok s' → get s' = get s) {fields : List (String × Json)} :
    ∀ {s s' : σ}, (∀ f ∈ fields, f.1 ∈ names) → (fields.map (·.1)).Nodup →
      fields.foldlM (stepOf step) s = .ok s' →
        (∃ j, (name, j) ∈ fields ∧ R j (get s')) ∨
          (∀ j, (name, j) ∉ fields) ∧ get s' = get s := by
  induction fields with
  | nil =>
    rintro s _ - - ⟨⟩
    exact .inr ⟨fun _ => List.not_mem_nil, rfl⟩
  | cons f r ih =>
    intro s s' hmem hnodup h
    obtain ⟨hf, hr⟩ := List.forall_mem_cons.mp hmem
    rw [List.map_cons, List.nodup_cons] at hnodup
    obtain ⟨t, ht, h⟩ := foldlM_cons_eq_ok_iff.mp h
    rcases ih hr hnodup.2 h with ⟨j, hj, hR⟩ | ⟨hnone, hget⟩
    · exact .inl ⟨j, List.mem_cons_of_mem _ hj, hR⟩
    · -- no later field has the name, so that what this one sets is kept
      by_cases hname : f.1 = name
      · subst hname
        exact .inl ⟨f.2, List.mem_cons_self, hget ▸ hset ht⟩
      · refine .inr ⟨fun j hj => ?_, hget.trans (hkeep f.1 hf hname ht)⟩
        rcases List.mem_cons.mp hj with rfl | hj
        · exact hname rfl
        · exact hnone j hj

/-- **A field that is there.**  What only one field can set is set iff that field is there with a
    value that sets it. -/
theorem isSome_field_iff {β : Type} (get : σ → Option β) (P : Json → Prop) (name : String)
    (hname : name ∈ names)
    (hset : ∀ {s s' : σ} {j : Json}, step s name (ofJson j) = .ok s' → ((get s').isSome ↔ P j))
    (hkeep : ∀ other ∈ names, other ≠ name → ∀ {s s' : σ} {j : Json},
      step s other (ofJson j) = .ok s' → get s' = get s)
    {start s : σ} (hstart : get start = none) {fields : List (String × Json)}
    (hnodup : ((known names fields).map (·.1)).Nodup)
    (h : (known names fields).foldlM (stepOf step) start = .ok s) :
    (get s).isSome ↔ ∃ j, (name, j) ∈ fields ∧ P j := by
  have hmem : ∀ {j : Json}, (name, j) ∈ known names fields ↔ (name, j) ∈ fields := by
    intro j
    rw [mem_known, and_iff_left hname]
  have hfield := foldlM_field (R := fun j o => o.isSome ↔ P j) hset hkeep
    (fun f hf => (mem_known.mp hf).2) hnodup h
  rcases hfield with ⟨j, hj, hiff⟩ | ⟨hnone, hget⟩
  · rw [hiff]
    constructor
    · exact fun hP => ⟨j, hmem.mp hj, hP⟩
    · rintro ⟨i, hi, hP⟩
      -- the field comes once, so it is the same one
      have heq := List.inj_on_of_nodup_map hnodup (hmem.mpr hi) hj rfl
      cases heq
      exact hP
  · rw [hget, hstart]
    constructor
    · exact nofun
    · rintro ⟨j, hj, -⟩
      exact absurd (hmem.mpr hj) (hnone j)

/-- What only one field can set, and sets whatever its value, is set iff that field is there. -/
theorem isSome_required_iff {β : Type} (get : σ → Option β) (name : String) (hname : name ∈ names)
    (hset : ∀ {s s' : σ} {j : Json}, step s name (ofJson j) = .ok s' → (get s').isSome)
    (hkeep : ∀ other ∈ names, other ≠ name → ∀ {s s' : σ} {j : Json},
      step s other (ofJson j) = .ok s' → get s' = get s)
    {start s : σ} (hstart : get start = none) {fields : List (String × Json)}
    (hnodup : ((known names fields).map (·.1)).Nodup)
    (h : (known names fields).foldlM (stepOf step) start = .ok s) :
    (get s).isSome ↔ ∃ j, (name, j) ∈ fields := by
  have hfield := isSome_field_iff get (fun _ => True) name hname
    (fun hs => iff_true_intro (hset hs)) hkeep hstart hnodup h
  rw [hfield]
  exact exists_congr fun _ => and_iff_left trivial

end Document

/-! ## Types -/

namespace Json

/-- The known fields are given at most once, and they have the types of the table. -/
structure Declared (types : List (String × (Json → Prop))) (fields : List (String × Json)) :
    Prop where
  once : ((Document.known (types.map (·.1)) fields).map (·.1)).Nodup
  typed : ∀ t ∈ types, ∀ j, (t.1, j) ∈ fields → t.2 j

/-- A value has the type of a record with the fields of the table: it is an object, or an array that
    gives the fields in order; its known fields have their types, and what is required is there. -/
def IsRecord (types : List (String × (Json → Prop))) (required : List String) (j : Json) : Prop :=
  ∃ fields, j.given? (types.map (·.1)) = some fields ∧ Declared types fields ∧
    ∀ name ∈ required, ∃ v, (name, v) ∈ fields

end Json

namespace Document

variable {σ : Type} {step : σ → String → Document → Except ReadError σ}

/-- **Loops by types.**  If each known field is read iff it has its type, then the known fields are
    read iff they all have their types. -/
theorem exists_foldlM_known_iff {types : List (String × (Json → Prop))}
    (hstep : ∀ t ∈ types, ∀ s j, (∃ s', step s t.1 (ofJson j) = .ok s') ↔ t.2 j)
    (fields : List (String × Json)) (start : σ) :
    (∃ s, (known (types.map (·.1)) fields).foldlM (stepOf step) start = .ok s) ↔
      ∀ t ∈ types, ∀ j, (t.1, j) ∈ fields → t.2 j := by
  have hfield : ∀ f ∈ known (types.map (·.1)) fields, ∀ s,
      (∃ s', stepOf step s f = .ok s') ↔ ∀ t ∈ types, t.1 = f.1 → t.2 f.2 := by
    intro f hf s
    obtain ⟨t, ht, hname⟩ := List.mem_map.mp (mem_known.mp hf).2
    -- any entry of the table with this name decides
    constructor
    · intro hread t' ht' hname'
      refine (hstep t' ht' s f.2).mp ?_
      rw [hname']
      exact hread
    · intro h
      have hread := (hstep t ht s f.2).mpr (h t ht hname)
      rw [hname] at hread
      exact hread
  rw [exists_foldlM_iff hfield]
  constructor
  · intro h t ht j hj
    exact h (t.1, j) (mem_known.mpr ⟨hj, List.mem_map_of_mem ht⟩) t ht rfl
  · rintro h f hf t ht hname
    exact h t ht f.2 (hname ▸ (mem_known.mp hf).1)

/-- **Records by their types.**  A record is read, and what is made of it then, iff its known fields
    have their types and are complete. -/
theorem record_iff (types : List (String × (Json → Prop))) (hnames : (types.map (·.1)).Nodup)
    (hstep : ∀ t ∈ types, ∀ s j, (∃ s', step s t.1 (ofJson j) = .ok s') ↔ t.2 j)
    {start : σ} {β : Type} {finish : σ × Given → Except ReadError β}
    {complete : List (String × Json) → Prop}
    (hfinish : ∀ {fields : List (String × Json)} {s : σ} (given : Given),
      ((known (types.map (·.1)) fields).map (·.1)).Nodup →
        (known (types.map (·.1)) fields).foldlM (stepOf step) start = .ok s →
          ((∃ b, finish (s, given) = .ok b) ↔ complete fields)) {j : Json} :
    (∃ b, (record (types.map (·.1)) start step (ofJson j) >>= finish) = .ok b) ↔
      ∃ fields, j.given? (types.map (·.1)) = some fields ∧ Json.Declared types fields ∧
        complete fields := by
  constructor
  · rintro ⟨b, h⟩
    obtain ⟨⟨s, given⟩, hs, hb⟩ := Except.bind_eq_ok_iff.mp h
    obtain ⟨fields, hgiven, hnodup, hfold⟩ := (record_ofJson_iff hnames).mp ⟨given, hs⟩
    have htyped := (exists_foldlM_known_iff hstep fields start).mp ⟨s, hfold⟩
    exact ⟨fields, hgiven, ⟨hnodup, htyped⟩, (hfinish given hnodup hfold).mp ⟨b, hb⟩⟩
  · rintro ⟨fields, hgiven, hdeclared, hcomplete⟩
    obtain ⟨s, hfold⟩ := (exists_foldlM_known_iff hstep fields start).mpr hdeclared.typed
    obtain ⟨given, hs⟩ := (record_ofJson_iff hnames).mpr ⟨fields, hgiven, hdeclared.once, hfold⟩
    obtain ⟨b, hb⟩ := (hfinish given hdeclared.once hfold).mpr hcomplete
    exact ⟨b, Except.bind_eq_ok_iff.mpr ⟨(s, given), hs, hb⟩⟩

/-! ## Parts -/

/-- The documents that a record is read from. -/
def parts : Document → List Document
  | .map entries _ => entries.map (·.2)
  | .tagged (.map entries _) => entries.map (·.2)
  | .list items _ => items
  | _ => []

/-- What every entry preserves, a map preserves. -/
theorem recordEntries_invariant {names : List String} {P : σ → Prop}
    {entries : List (Document × Document)}
    (hstep : ∀ e ∈ entries, ∀ {s s' : σ} {name : String}, P s → step s name e.2 = .ok s' → P s') :
    ∀ {seen : List String} {s s' : σ}, P s → recordEntries names step entries seen s = .ok s' →
      P s' := by
  induction entries with
  | nil =>
    rintro seen s _ hs ⟨⟩
    exact hs
  | cons e r ih =>
    intro seen s s' hs h
    obtain ⟨hhead, htail⟩ := List.forall_mem_cons.mp hstep
    obtain ⟨name, -, h⟩ := Except.bind_eq_ok_iff.mp h
    split at h
    · split at h
      · cases h
      · obtain ⟨t, ht, h⟩ := Except.bind_eq_ok_iff.mp h
        exact ih htail (hhead hs ht) h
    · obtain ⟨-, -, h⟩ := Except.bind_eq_ok_iff.mp h
      exact ih htail hs h

/-- What every item preserves, a list preserves. -/
theorem recordItems_invariant {P : σ → Prop} {items : List Document}
    (hstep : ∀ d ∈ items, ∀ {s s' : σ} {name : String}, P s → step s name d = .ok s' → P s') :
    ∀ {names : List String} {s s' : σ}, P s → recordItems step names items s = .ok s' → P s' := by
  induction items with
  | nil =>
    intro names s s' hs h
    cases names <;> cases h <;> exact hs
  | cons d r ih =>
    intro names s s' hs h
    obtain ⟨hhead, htail⟩ := List.forall_mem_cons.mp hstep
    cases names with
    | nil => cases d <;> cases h
    | cons name names =>
      rw [recordItems] at h
      obtain ⟨t, ht, h⟩ := Except.bind_eq_ok_iff.mp h
      exact ih htail (hhead hs ht) h

/-- **What the parts of a document preserve, it preserves.** -/
theorem record_invariant {names : List String} {P : σ → Prop} {d : Document}
    (hstep : ∀ p ∈ d.parts, ∀ {s s' : σ} {name : String}, P s → step s name p = .ok s' → P s')
    {start s : σ} {given : Given} (hstart : P start)
    (h : record names start step d = .ok (s, given)) : P s := by
  have hentries : ∀ {entries : List (Document × Document)} {fault : Option ReadError},
      (∀ p ∈ entries.map (·.2), ∀ {s s' : σ} {name : String},
        P s → step s name p = .ok s' → P s') →
      (do
        let s ← recordEntries names step entries [] start
        checkFault fault
        .ok (s, Given.byName) : Except ReadError _) = .ok (s, given) → P s := by
    intro entries fault hstep h
    obtain ⟨t, ht, h⟩ := Except.bind_eq_ok_iff.mp h
    obtain ⟨-, -, h⟩ := Except.bind_eq_ok_iff.mp h
    cases h
    exact recordEntries_invariant (fun e he => hstep e.2 (List.mem_map_of_mem he)) hstart ht
  unfold record at h
  split at h
  · exact hentries hstep h
  · exact hentries hstep h
  · obtain ⟨t, ht, h⟩ := Except.bind_eq_ok_iff.mp h
    obtain ⟨-, -, h⟩ := Except.bind_eq_ok_iff.mp h
    cases h
    exact recordItems_invariant hstep hstart ht
  · split at h
    · cases h
      exact hstart
    · cases h
  · cases h
  · cases h

end Document

end Healing
