/-
  Values and the documents that spell them out.

  A value can be read from a document only with the fields of every object sorted; and such a value
  is read from the document that spells it out.

  1. **Steps** - `Except.bind_eq_ok_iff`: both of two steps succeed; `Except.exists_bind_ok_iff`.
  2. **Induction** - `Json.induct`, over the containers of a value.
  3. **Sorted values** - `Json.Sorted`.
  4. **Plain documents** - `Document.Plain`: numbers are numbers; what is inside of plain documents
     is plain.
  5. **Reading values** - what is read from a plain document is sorted
     (`Document.sorted_of_value`).
  6. **Reading back** - `Document.value_ofJson`.
  7. **YAML** - the documents of YAML texts are plain (`Yaml.plain_expand`).
-/
import Healing.Proofs.KeyMap
import Healing.Yaml.Repetition

namespace Healing

/-! ## Steps -/

/-- Two steps succeed iff the first one does, and then the second one. -/
theorem Except.bind_eq_ok_iff {ε α β : Type} {x : Except ε α} {f : α → Except ε β} {b : β} :
    x >>= f = .ok b ↔ ∃ a, x = .ok a ∧ f a = .ok b := by
  cases x with
  | error e => exact ⟨nofun, nofun⟩
  | ok a =>
    constructor
    · exact fun h => ⟨a, rfl, h⟩
    · rintro ⟨_, ⟨⟩, h⟩
      exact h

/-- A result is changed iff there is one. -/
theorem Except.map_eq_ok_iff {ε α β : Type} {x : Except ε α} {f : α → β} {b : β} :
    f <$> x = .ok b ↔ ∃ a, x = .ok a ∧ f a = b := by
  cases x with
  | error e => exact ⟨nofun, nofun⟩
  | ok a =>
    constructor
    · rintro ⟨⟩
      exact ⟨a, rfl, rfl⟩
    · rintro ⟨_, ⟨⟩, rfl⟩
      rfl

/-- A result that is changed is there iff it was there before. -/
theorem Except.exists_bind_ok_iff {ε α β : Type} {x : Except ε α} {f : α → β} :
    (∃ b, (x >>= fun a => Except.ok (f a)) = .ok b) ↔ ∃ a, x = .ok a := by
  cases x with
  | error e => exact ⟨nofun, nofun⟩
  | ok a => exact ⟨fun _ => ⟨a, rfl⟩, fun _ => ⟨f a, rfl⟩⟩

/-! ## Induction -/

namespace Json

/-- What holds of a container if it holds of all that is in it holds of every value. -/
@[elab_as_elim]
theorem induct {P : Json → Prop} (null : P .null) (bool : ∀ b, P (.bool b)) (int : ∀ n, P (.int n))
    (float : ∀ x, P (.float x)) (str : ∀ s, P (.str s))
    (arr : ∀ items, (∀ j ∈ items, P j) → P (.arr items))
    (obj : ∀ fields, (∀ f ∈ fields, P f.2) → P (.obj fields)) (j : Json) : P j :=
  @Json.rec P (fun items => ∀ j ∈ items, P j) (fun fields => ∀ f ∈ fields, P f.2) (fun f => P f.2)
    null bool int float str arr obj nofun (fun _ _ hj hr => List.forall_mem_cons.mpr ⟨hj, hr⟩)
    nofun (fun _ _ hf hr => List.forall_mem_cons.mpr ⟨hf, hr⟩) (fun _ _ hj => hj) j

/-! ## Sorted values -/

/-- In every object the names of the fields grow. -/
inductive Sorted : Json → Prop
  | null : Sorted .null
  | bool (b : Bool) : Sorted (.bool b)
  | int (n : Int) : Sorted (.int n)
  | float (x : Binary64) : Sorted (.float x)
  | str (s : String) : Sorted (.str s)
  | arr {items : List Json} (sorted : ∀ j ∈ items, Sorted j) : Sorted (.arr items)
  | obj {fields : List (String × Json)} (keys : SortedKeys fields)
    (sorted : ∀ f ∈ fields, Sorted f.2) : Sorted (.obj fields)

/-- A value without containers is sorted. -/
theorem sorted_of_depth_eq_zero {j : Json} (h : j.depth = 0) : j.Sorted := by
  cases j with
  | arr items => exact absurd h (Nat.succ_ne_zero _)
  | obj fields => exact absurd h (Nat.succ_ne_zero _)
  | _ => constructor

end Json

/-! ## Plain documents -/

/-- A whole number is no container. -/
theorem Yaml.depth_whole? {text : String} {j : Json} (h : whole? text = some (some j)) :
    j.depth = 0 := by
  obtain ⟨i, -, hi⟩ := Option.map_eq_some_iff.mp h
  split at hi
  · cases hi
    rfl
  · cases hi

/-- A decimal number is no container. -/
theorem Yaml.depth_ofReading (x : Numeral.Reading) : (ofReading x).depth = 0 := by
  cases x <;> rfl

/-- An unquoted scalar spells out a value without containers. -/
theorem Yaml.depth_resolvePlain {text : String} {j : Json} (h : resolvePlain text = some j) :
    j.depth = 0 := by
  unfold resolvePlain at h
  split at h
  · cases h
    rfl
  · split at h
    · cases h
      rfl
    · split at h
      · rename_i o ho
        subst h
        exact depth_whole? ho
      · split at h
        · cases h
          rfl
        · split at h
          · cases h
            exact depth_ofReading _
          · cases h
            rfl

/-- A scalar spells out a value without containers. -/
theorem Yaml.Scalar.depth_resolve {s : Yaml.Scalar} {j : Json} (h : s.resolve = some j) :
    j.depth = 0 := by
  unfold resolve at h
  split at h
  · split at h
    · exact depth_resolvePlain h
    · cases h
      rfl
  · split at h
    · obtain ⟨b, -, rfl⟩ := Option.map_eq_some_iff.mp h
      rfl
    · split at h
      · obtain ⟨o, ho, rfl⟩ := Option.bind_eq_some_iff.mp h
        exact depth_whole? ho
      · split at h
        · obtain ⟨x, -, rfl⟩ := Option.map_eq_some_iff.mp h
          exact depth_ofReading x
        · split at h
          · split at h
            · cases h
              rfl
            · cases h
          · split at h
            · cases h
            · cases h
              rfl

namespace Document

/-- Wherever a document has a number, it is one. -/
inductive Plain : Document → Prop
  | null : Plain .null
  | bool (b : Bool) : Plain (.bool b)
  | int (n : Int) : Plain (.number (some (.int n)))
  | float (x : Binary64) : Plain (.number (some (.float x)))
  | noNumber : Plain (.number none)
  | string (s : Option String) : Plain (.string s)
  | scalar (s : Yaml.Scalar) : Plain (.scalar s)
  | list {items : List Document} {fault : Option ReadError} (plain : ∀ d ∈ items, Plain d) :
    Plain (.list items fault)
  | series {items : List Document} {fault : Option ReadError} (plain : ∀ d ∈ items, Plain d) :
    Plain (.series items fault)
  | map {entries : List (Document × Document)} {fault : Option ReadError}
    (plain : ∀ e ∈ entries, Plain e.2) : Plain (.map entries fault)
  | deep (d : Document) : Plain (.deep d)
  | tagged {d : Document} (plain : Plain d) : Plain (.tagged d)
  | endless : Plain .endless
  | broken (e : ReadError) : Plain (.broken e)

/-- The document of a value is plain. -/
theorem plain_ofJson (j : Json) : (ofJson j).Plain := by
  induction j using Json.induct with
  | null => exact .null
  | bool b => exact .bool b
  | int n => exact .int n
  | float x => exact .float x
  | str s => exact .string s
  | arr items ih =>
    refine .list ?_
    induction items with
    | nil => exact nofun
    | cons j r ihr =>
      obtain ⟨hj, hr⟩ := List.forall_mem_cons.mp ih
      exact List.forall_mem_cons.mpr ⟨hj, ihr hr⟩
  | obj fields ih =>
    refine .map ?_
    induction fields with
    | nil => exact nofun
    | cons f r ihr =>
      obtain ⟨hf, hr⟩ := List.forall_mem_cons.mp ih
      exact List.forall_mem_cons.mpr ⟨hf, ihr hr⟩

/-- What is read from a list is read from its items. -/
theorem listOf_cases {α : Type} {read : Document → Except ReadError α} {d : Document} {as : List α}
    (plain : d.Plain) (h : d.listOf read = .ok as) :
    ∃ items : List Document, (∀ item ∈ items, item.Plain) ∧ items.mapM read = .ok as := by
  have hitems : ∀ {items : List Document} {fault}, (∀ item ∈ items, item.Plain) →
      readItems read items fault = .ok as →
      ∃ items : List Document, (∀ item ∈ items, item.Plain) ∧ items.mapM read = .ok as := by
    intro items fault hplain h
    obtain ⟨bs, hbs, h⟩ := Except.bind_eq_ok_iff.mp h
    obtain ⟨-, -, h⟩ := Except.bind_eq_ok_iff.mp h
    cases h
    exact ⟨items, hplain, hbs⟩
  unfold listOf at h
  split at h
  · cases plain with | list hplain => exact hitems hplain h
  · cases plain with | series hplain => exact hitems hplain h
  · cases plain with | tagged hplain => cases hplain with | series hplain => exact hitems hplain h
  · split at h
    · cases h
      exact ⟨[], nofun, rfl⟩
    · cases h
  · cases h
  · cases h

/-- What is read from a map is read from its entries. -/
theorem mapOf_cases {α : Type} {read : Document → Except ReadError α} {d : Document}
    {m : KeyMap String α} (plain : d.Plain) (h : d.mapOf read = .ok m) :
    ∃ entries : List (Document × Document), (∀ e ∈ entries, e.2.Plain) ∧
      readEntries read entries ∅ = .ok m := by
  have hentries : ∀ {entries : List (Document × Document)} {fault}, (∀ e ∈ entries, e.2.Plain) →
      (do
        let m ← readEntries read entries ∅
        checkFault fault
        .ok m : Except ReadError _) = .ok m →
      ∃ entries : List (Document × Document), (∀ e ∈ entries, e.2.Plain) ∧
        readEntries read entries ∅ = .ok m := by
    intro entries fault hplain h
    obtain ⟨m', hm, h⟩ := Except.bind_eq_ok_iff.mp h
    obtain ⟨-, -, h⟩ := Except.bind_eq_ok_iff.mp h
    cases h
    exact ⟨entries, hplain, hm⟩
  unfold mapOf at h
  split at h
  · cases plain with | map hplain => exact hentries hplain h
  · cases plain with | tagged hplain => cases hplain with | map hplain => exact hentries hplain h
  · split at h
    · cases h
      exact ⟨[], nofun, rfl⟩
    · cases h
  · cases h
  · cases h

/-- The entries of a plain document are plain. -/
theorem plain_of_entries {d : Document} {entries : List (Document × Document)}
    {fault : Option ReadError} (plain : d.Plain) (h : d.entries = .ok (entries, fault)) :
    ∀ e ∈ entries, e.2.Plain := by
  unfold Document.entries at h
  split at h
  · cases h
    cases plain with | map hplain => exact hplain
  · cases h
    cases plain with | tagged hplain => cases hplain with | map hplain => exact hplain
  · split at h
    · cases h
      exact nofun
    · cases h
  · cases h
  · cases h

/-- What is there has been read. -/
theorem read_of_optional {α : Type} {read : Document → Except ReadError α} {d : Document} {a : α}
    (h : d.optional read = .ok (some a)) : read d = .ok a := by
  have hsome : some <$> read d = .ok (some a) → read d = .ok a := by
    intro h
    obtain ⟨b, hb, hsome⟩ := Except.map_eq_ok_iff.mp h
    rw [← Option.some.inj hsome]
    exact hb
  unfold optional at h
  split at h
  · cases h
  · split at h
    · cases h
    · cases h
    · exact hsome h
  · exact hsome h

/-! ## Reading values -/

/-- What holds of the values of some documents holds of the values that are read from them as
    items. -/
theorem forall_of_valueItems {P : Json → Prop} {items : List Document}
    (ih : ∀ d ∈ items, ∀ j, value d = .ok j → P j) :
    ∀ {js : List Json}, valueItems items = .ok js → ∀ j ∈ js, P j := by
  induction items with
  | nil =>
    intro js h
    cases h
    exact nofun
  | cons d r ihr =>
    intro js h
    obtain ⟨hd, hr⟩ := List.forall_mem_cons.mp ih
    obtain ⟨j, hj, h⟩ := Except.bind_eq_ok_iff.mp h
    obtain ⟨js', hjs, h⟩ := Except.bind_eq_ok_iff.mp h
    cases h
    exact List.forall_mem_cons.mpr ⟨hd j hj, ihr hr hjs⟩

/-- What holds of the values of some documents holds of the values that are read from them as
    entries; these are put in order. -/
theorem forall_of_valueEntries {P : Json → Prop} {entries : List (Document × Document)}
    (ih : ∀ e ∈ entries, ∀ j, value e.2 = .ok j → P j) :
    ∀ {fields after : List (String × Json)}, SortedKeys fields → (∀ f ∈ fields, P f.2) →
      valueEntries entries fields = .ok after → SortedKeys after ∧ ∀ f ∈ after, P f.2 := by
  induction entries with
  | nil =>
    intro fields after hkeys hfields h
    cases h
    exact ⟨hkeys, hfields⟩
  | cons e r ihr =>
    intro fields after hkeys hfields h
    obtain ⟨he, hr⟩ := List.forall_mem_cons.mp ih
    obtain ⟨k, -, h⟩ := Except.bind_eq_ok_iff.mp h
    obtain ⟨j, hj, h⟩ := Except.bind_eq_ok_iff.mp h
    refine ihr hr (pairwise_insertEntry k j hkeys) (fun f hf => ?_) h
    rcases mem_insertEntry hf with rfl | hf
    · exact he j hj
    · exact hfields f hf

/-- **What is read from a plain document is sorted.** -/
theorem sorted_of_value {d : Document} (plain : d.Plain) :
    ∀ j, value d = .ok j → j.Sorted := by
  induction plain with
  | null | bool b | int n | float x =>
    rintro j ⟨⟩
    constructor
  | noNumber | deep d | tagged _ _ | endless | broken e => nofun
  | string s =>
    intro j h
    cases s with
    | none => cases h
    | some s =>
      cases h
      exact .str s
  | scalar s =>
    intro j h
    unfold value at h
    split at h
    · rename_i j' hj
      cases h
      exact Json.sorted_of_depth_eq_zero (Yaml.Scalar.depth_resolve hj)
    · cases h
  | list _ ih | series _ ih =>
    intro j h
    obtain ⟨js, hjs, h⟩ := Except.bind_eq_ok_iff.mp h
    obtain ⟨-, -, h⟩ := Except.bind_eq_ok_iff.mp h
    cases h
    exact .arr (forall_of_valueItems ih hjs)
  | map _ ih =>
    intro j h
    obtain ⟨fields, hfields, h⟩ := Except.bind_eq_ok_iff.mp h
    obtain ⟨-, -, h⟩ := Except.bind_eq_ok_iff.mp h
    cases h
    obtain ⟨hkeys, hsorted⟩ := forall_of_valueEntries ih List.Pairwise.nil nofun hfields
    exact .obj hkeys hsorted

/-! ## Reading back -/

/-- Items are read one by one. -/
theorem valueItems_ofItems {items : List Json} (ih : ∀ j ∈ items, value (ofJson j) = .ok j) :
    valueItems (ofItems items) = .ok items := by
  induction items with
  | nil => rfl
  | cons j r ihr =>
    obtain ⟨hj, hr⟩ := List.forall_mem_cons.mp ih
    show (value (ofJson j) >>= fun j => valueItems (ofItems r) >>= fun js => .ok (j :: js)) = _
    rw [hj, ihr hr]
    rfl

/-- Sorted fields are read one behind the other. -/
theorem valueEntries_ofFields {fields : List (String × Json)}
    (ih : ∀ f ∈ fields, value (ofJson f.2) = .ok f.2) :
    ∀ {before : List (String × Json)}, SortedKeys (before ++ fields) →
      valueEntries (ofFields fields) before = .ok (before ++ fields) := by
  induction fields with
  | nil =>
    intro before _
    rw [List.append_nil]
    rfl
  | cons f r ihr =>
    intro before hkeys
    obtain ⟨hf, hr⟩ := List.forall_mem_cons.mp ih
    have happend : before ++ f :: r = before ++ [f] ++ r := List.append_cons ..
    rw [happend] at hkeys ⊢
    have hstep : valueEntries (ofFields (f :: r)) before
        = (value (ofJson f.2)) >>= fun j => valueEntries (ofFields r) (insertEntry f.1 j before) :=
      rfl
    rw [hstep, hf]
    show valueEntries (ofFields r) (insertEntry f.1 f.2 before) = _
    rw [insertEntry_last (List.pairwise_append.mp hkeys).1]
    exact ihr hr hkeys

/-- **A sorted value is read from the document that spells it out.** -/
theorem value_ofJson {j : Json} (sorted : j.Sorted) : value (ofJson j) = .ok j := by
  induction sorted with
  | null | bool b | int n | float x | str s => rfl
  | arr _ ih =>
    rw [ofJson, value]
    exact Except.bind_eq_ok_iff.mpr ⟨_, valueItems_ofItems ih, rfl⟩
  | obj hkeys _ ih =>
    rw [ofJson, value]
    exact Except.bind_eq_ok_iff.mpr ⟨_, valueEntries_ofFields ih hkeys, rfl⟩

end Document

/-! ## YAML -/

namespace Yaml

/-- A running count does not matter for what holds of every item. -/
theorem forall_mem_thread {α β : Type} {P : β → Prop} {f : α → Nat → β × Nat}
    (h : ∀ a n, P (f a n).1) : ∀ (l : List α) (n : Nat), ∀ b ∈ (thread f l n).1, P b
  | [], _ => nofun
  | a :: r, n => List.forall_mem_cons.mpr ⟨h a n, forall_mem_thread h r _⟩

/-- A container is plain with and without its tag. -/
theorem plain_withTag {tag : Option String} {d : Document} (h : d.Plain) :
    (withTag tag d).Plain := by
  unfold withTag
  split
  · exact .tagged h
  · exact h

/-- **The document of a node is plain**: its numbers have no type yet. -/
theorem plain_expand (table : List (Nat × Node)) : ∀ (depth : Nat) (repeated : Bool) (node : Node)
    (left : Nat), (expand table depth repeated node left).1.Plain := by
  intro depth
  induction depth with
  | zero =>
    intro repeated node left
    unfold expand
    split
    split
    · exact .endless
    · exact .scalar _
    · exact .broken _
    · exact .endless
    · dsimp only
      split
      · exact .endless
      · exact .deep _
    · contradiction
    · contradiction
  | succ depth ih =>
    intro repeated node left
    unfold expand
    split
    split
    · exact .endless
    · exact .scalar _
    · exact .broken _
    · exact .endless
    · contradiction
    · rename_i hdepth _
      cases hdepth
      exact plain_withTag (.series (forall_mem_thread (fun n left => ih _ n left) _ _))
    · rename_i hdepth _
      cases hdepth
      refine plain_withTag (.map (forall_mem_thread (P := fun e : Document × Document => e.2.Plain)
        ?_ _ _))
      exact fun e _ => ih _ e.2 _

/-- What is read from a YAML text is read from a plain document. -/
theorem exists_of_decode {α : Type} {read : Document → Except ReadError α} {text : String} {a : α}
    (h : decode read text = .ok a) : ∃ d : Document, d.Plain ∧ read d = .ok a := by
  obtain ⟨b, hb, h⟩ := Except.bind_eq_ok_iff.mp h
  obtain ⟨-, -, h⟩ := Except.bind_eq_ok_iff.mp h
  cases h
  exact ⟨_, plain_expand .., hb⟩

end Yaml

end Healing
