/-
  Expansion visits the texts of a value in order.

  A value has texts, and it has an outline: all of it but its texts.  The two together are the
  value.  A walk keeps the outline; of the texts it renders one after the other, up to the first one
  that fails.  That one and all texts behind it stay as they were.

  1. **Rendering** - `Rendered`: what comes of rendering texts in order.
  2. **Walks** - `Walk.InOrder`: a walk over a value, seen from its texts and its outline; for parts
     of a value (`InOrder.map`) and for one behind the other (`InOrder.cons`).
  3. **JSON** - `Json.texts` and `Json.outline` make up a value (`Json.ext_texts`), and
     `Json.expand_inOrder`.
-/
import Healing.Expansion.Leaves
import Healing.Proofs.Document
import Mathlib.Data.List.Forall2

namespace Healing

universe u

/-! ## Rendering -/

variable {ε : Type} {render : String → Except ε String}

/-- What comes of rendering texts in order: all of them are rendered; or the first one that fails
    and those behind it are left as they are. -/
inductive Rendered (render : String → Except ε String) :
    List String → List String → Option ε → Prop
  | all {before after : List String}
    (each : List.Forall₂ (fun s t => render s = .ok t) before after) : Rendered render before after none
  | stops {before after later : List String} {s : String} {e : ε}
    (each : List.Forall₂ (fun s t => render s = .ok t) before after)
    (fails : render s = .error e) :
    Rendered render (before ++ s :: later) (after ++ s :: later) (some e)

/-- Texts that have all been rendered are followed by others. -/
theorem Rendered.append {ss ts ss' ts' : List String} {o : Option ε}
    (h : Rendered render ss ts none) (h' : Rendered render ss' ts' o) :
    Rendered render (ss ++ ss') (ts ++ ts') o := by
  cases h with
  | all each =>
    cases h' with
    | all each' => exact .all (List.rel_append each each')
    | stops each' fails =>
      rw [← List.append_assoc, ← List.append_assoc]
      exact .stops (List.rel_append each each') fails

/-- Behind a text that fails others are left as they are. -/
theorem Rendered.append_later {ss ts : List String} {e : ε} (h : Rendered render ss ts (some e))
    (later : List String) : Rendered render (ss ++ later) (ts ++ later) (some e) := by
  cases h with
  | stops each fails =>
    rw [List.append_assoc, List.append_assoc]
    exact .stops each fails

/-- What stops the rendering is a text that fails. -/
theorem Rendered.exists_of_some {ss ts : List String} {e : ε} (h : Rendered render ss ts (some e)) :
    ∃ s, render s = .error e := by
  cases h with
  | stops _ fails => exact ⟨_, fails⟩

/-! ## Walks -/

namespace Walk

variable {α β : Type u}

/-- A walk renders the texts of a value in order, and keeps all the rest. -/
structure InOrder (render : String → Except ε String) (texts : α → List String) (outline : α → α)
    (a : α) (w : Walk ε α) : Prop where
  rendered : Rendered render (texts a) (texts w.value) w.stopped
  kept : outline w.value = outline a

/-- A walk is stopped by a text that cannot be rendered. -/
theorem InOrder.exists_of_stopped {texts : α → List String} {outline : α → α} {a : α} {w : Walk ε α}
    (h : w.InOrder render texts outline a) {e : ε} (hstop : w.stopped = some e) :
    ∃ s, render s = .error e :=
  (hstop ▸ h.rendered).exists_of_some

/-- A text is rendered, or left as it is. -/
theorem inOrder_ofText (s : String) :
    (ofText render s).InOrder render (fun s => [s]) (fun _ => "") s := by
  unfold ofText
  cases hrender : render s with
  | ok t => exact ⟨.all (.cons hrender .nil), rfl⟩
  | error e =>
    have hstops : Rendered render ([] ++ s :: []) ([] ++ s :: []) (some e) := .stops .nil hrender
    exact ⟨hstops, rfl⟩

variable {texts : α → List String} {outline : α → α} {a : α} {w : Walk ε α}

/-- The walk over a part that has all the texts of the whole. -/
theorem InOrder.map {texts' : β → List String} {outline' : β → β} {f : α → β}
    (h : w.InOrder render texts outline a) (htexts : ∀ x, texts' (f x) = texts x)
    (houtline : ∀ x y, outline x = outline y → outline' (f x) = outline' (f y)) :
    (w.map f).InOrder render texts' outline' (f a) where
  rendered := by
    rw [htexts]
    show Rendered render _ (texts' (f w.value)) _
    rw [htexts]
    exact h.rendered
  kept := houtline _ _ h.kept

/-- The walk over a list: the others are left as they are if the first walk has been stopped. -/
theorem InOrder.cons {others : List α} {rest : Walk ε (List α)}
    (h : w.InOrder render texts outline a)
    (hrest : rest.InOrder render (·.flatMap texts) (·.map outline) others) :
    (w.cons others rest).InOrder render (·.flatMap texts) (·.map outline) (a :: others) := by
  obtain ⟨value, stopped⟩ := w
  cases stopped with
  | some e => exact ⟨h.rendered.append_later _, congrArg (· :: others.map outline) h.kept⟩
  | none =>
    refine ⟨h.rendered.append hrest.rendered, ?_⟩
    show outline value :: rest.value.map outline = _
    rw [h.kept, hrest.kept]
    rfl

end Walk

/-! ## JSON -/

namespace Json

mutual

/-- The texts of a value, in order. -/
def texts : Json → List String
  | .str s => [s]
  | .arr items => textsItems items
  | .obj fields => textsFields fields
  | _ => []

/-- `texts` of the items. -/
def textsItems : List Json → List String
  | [] => []
  | j :: r => texts j ++ textsItems r

/-- `texts` of the values of the fields. -/
def textsFields : List (String × Json) → List String
  | [] => []
  | (_, j) :: r => texts j ++ textsFields r

end

mutual

/-- A value without its texts. -/
def outline : Json → Json
  | .str _ => .str ""
  | .arr items => .arr (outlineItems items)
  | .obj fields => .obj (outlineFields fields)
  | j => j

/-- `outline` of each item. -/
def outlineItems : List Json → List Json
  | [] => []
  | j :: r => outline j :: outlineItems r

/-- `outline` of the value of each field. -/
def outlineFields : List (String × Json) → List (String × Json)
  | [] => []
  | (k, j) :: r => (k, outline j) :: outlineFields r

end

theorem textsItems_eq (items : List Json) : textsItems items = items.flatMap texts := by
  induction items with
  | nil => rfl
  | cons j r ih => rw [textsItems, ih, List.flatMap_cons]

theorem textsFields_eq (fields : List (String × Json)) :
    textsFields fields = fields.flatMap fun f => f.2.texts := by
  induction fields with
  | nil => rfl
  | cons f r ih => rw [textsFields, ih, List.flatMap_cons]

theorem outlineItems_eq (items : List Json) : outlineItems items = items.map outline := by
  induction items with
  | nil => rfl
  | cons j r ih => rw [outlineItems, ih, List.map_cons]

theorem outlineFields_eq (fields : List (String × Json)) :
    outlineFields fields = fields.map fun f => (f.1, f.2.outline) := by
  induction fields with
  | nil => rfl
  | cons f r ih => rw [outlineFields, ih, List.map_cons]

/-- A value with the outline of a list is a list. -/
theorem exists_arr_of_outline {k : Json} {items : List Json}
    (h : k.outline = (Json.arr items).outline) :
    ∃ items', k = .arr items' ∧ items'.map outline = items.map outline := by
  cases k with
  | arr items' =>
    rw [outline, outline, outlineItems_eq, outlineItems_eq] at h
    exact ⟨items', rfl, Json.arr.inj h⟩
  | _ => cases h

/-- A value with the outline of an object is an object. -/
theorem exists_obj_of_outline {k : Json} {fields : List (String × Json)}
    (h : k.outline = (Json.obj fields).outline) :
    ∃ fields', k = .obj fields' ∧
      (fields'.map fun f => (f.1, f.2.outline)) = fields.map fun f => (f.1, f.2.outline) := by
  cases k with
  | obj fields' =>
    rw [outline, outline, outlineFields_eq, outlineFields_eq] at h
    exact ⟨fields', rfl, Json.obj.inj h⟩
  | _ => cases h

/-- Every item has an item of its outline in a list with the same outlines. -/
theorem exists_mem_of_outline {items items' : List Json}
    (h : items'.map outline = items.map outline) {k : Json} (hk : k ∈ items') :
    ∃ j ∈ items, k.outline = j.outline := by
  have hmem : k.outline ∈ items.map outline := h ▸ List.mem_map_of_mem hk
  obtain ⟨j, hj, heq⟩ := List.mem_map.mp hmem
  exact ⟨j, hj, heq.symm⟩

section Fields

variable {fields fields' : List (String × Json)}
  (h : (fields'.map fun f => (f.1, f.2.outline)) = fields.map fun f => (f.1, f.2.outline))

include h

/-- Every field has one of its name and outline among fields with the same outlines. -/
theorem exists_field_of_outline {g : String × Json} (hg : g ∈ fields') :
    ∃ f ∈ fields, g.1 = f.1 ∧ g.2.outline = f.2.outline := by
  have hmem : (g.1, g.2.outline) ∈ fields.map fun f => (f.1, f.2.outline) :=
    h ▸ List.mem_map_of_mem (f := fun f => (f.1, f.2.outline)) hg
  obtain ⟨f, hf, heq⟩ := List.mem_map.mp hmem
  exact ⟨f, hf, (Prod.mk.inj heq).1.symm, (Prod.mk.inj heq).2.symm⟩

/-- Fields with the same outlines are sorted alike. -/
theorem sortedKeys_of_outline (keys : SortedKeys fields) : SortedKeys fields' := by
  refine keys.of_keys ?_
  have hnames := congrArg (List.map (·.1)) h
  rw [List.map_map, List.map_map] at hnames
  exact hnames

end Fields

/-- A value without a text has the outline of no other value. -/
theorem eq_null_of_outline {j : Json} (h : j.outline = .null) : j = .null := by
  cases j <;> cases h
  rfl

/-- Whether a value is sorted is not a matter of its texts. -/
theorem Sorted.of_outline {j : Json} (h : j.Sorted) :
    ∀ {k : Json}, k.outline = j.outline → k.Sorted := by
  induction h with
  | null | bool b | int n | float x | str s =>
    intro k hk
    cases k <;> cases hk
    constructor
  | arr _ ih =>
    intro k hk
    obtain ⟨items', rfl, hitems⟩ := exists_arr_of_outline hk
    refine .arr fun k hk => ?_
    obtain ⟨j, hj, hjk⟩ := exists_mem_of_outline hitems hk
    exact ih j hj hjk
  | obj keys _ ih =>
    intro k hk
    obtain ⟨fields', rfl, hfields⟩ := exists_obj_of_outline hk
    refine .obj (sortedKeys_of_outline hfields keys) fun g hg => ?_
    obtain ⟨f, hf, -, hfg⟩ := exists_field_of_outline hfields hg
    exact ih f hf hfg

/-- A value has as many texts as its outline. -/
theorem length_texts_outline (j : Json) : j.outline.texts.length = j.texts.length := by
  induction j using Json.induct with
  | null | bool b | int n | float x | str s => rfl
  | arr items ih =>
    rw [outline, texts, texts, textsItems_eq, textsItems_eq, outlineItems_eq, List.flatMap_map,
      List.length_flatMap, List.length_flatMap, List.map_congr_left ih]
  | obj fields ih =>
    rw [outline, texts, texts, textsFields_eq, textsFields_eq, outlineFields_eq, List.flatMap_map,
      List.length_flatMap, List.length_flatMap, List.map_congr_left ih]

/-- Values of one outline have equally many texts. -/
theorem length_texts_of_outline {j k : Json} (h : j.outline = k.outline) :
    j.texts.length = k.texts.length := by
  rw [← length_texts_outline, h, length_texts_outline]

/-- Lists are what the outlines and the texts of their items say. -/
theorem ext_flatMap {α β : Type} {texts : α → List String} {outline : α → β} {l : List α}
    (hlength : ∀ a b, outline a = outline b → (texts a).length = (texts b).length)
    (ih : ∀ a ∈ l, ∀ b, outline a = outline b → texts a = texts b → a = b) :
    ∀ m : List α, l.map outline = m.map outline → l.flatMap texts = m.flatMap texts → l = m := by
  induction l with
  | nil =>
    intro m houtline _
    exact (List.map_eq_nil_iff.mp houtline.symm).symm
  | cons a l ihl =>
    intro m houtline htexts
    cases m with
    | nil => cases houtline
    | cons b m =>
      obtain ⟨ha, hl⟩ := List.forall_mem_cons.mp ih
      obtain ⟨hab, hlm⟩ := List.cons.inj houtline
      rw [List.flatMap_cons, List.flatMap_cons] at htexts
      obtain ⟨habTexts, hlmTexts⟩ := List.append_inj htexts (hlength a b hab)
      rw [ha b hab habTexts, ihl hl m hlm hlmTexts]

/-- **A value is what its outline and its texts say.** -/
theorem ext_texts (j : Json) : ∀ k : Json, j.outline = k.outline → j.texts = k.texts → j = k := by
  induction j using Json.induct with
  | null | bool b | int n | float x =>
    intro k houtline _
    cases k <;> cases houtline
    rfl
  | str s =>
    intro k houtline htexts
    cases k with
    | str t => exact congrArg Json.str (List.singleton_inj.mp htexts)
    | _ => cases houtline
  | arr items ih =>
    intro k houtline htexts
    obtain ⟨items', rfl, hitems⟩ := exists_arr_of_outline houtline.symm
    rw [texts, texts, textsItems_eq, textsItems_eq] at htexts
    exact congrArg Json.arr (ext_flatMap (fun _ _ => length_texts_of_outline) ih items'
      hitems.symm htexts)
  | obj fields ih =>
    intro k houtline htexts
    obtain ⟨fields', rfl, hfields⟩ := exists_obj_of_outline houtline.symm
    rw [texts, texts, textsFields_eq, textsFields_eq] at htexts
    refine congrArg Json.obj (ext_flatMap (fun f g h => ?_) (fun f hf g h htexts => ?_) fields'
      hfields.symm htexts)
    · exact length_texts_of_outline (Prod.mk.inj h).2
    · obtain ⟨hname, hvalue⟩ := Prod.mk.inj h
      exact Prod.ext hname (ih f hf g.2 hvalue htexts)

/-- The walk over the items of a list. -/
theorem expandItems_inOrder {items : List Json}
    (ih : ∀ j ∈ items, (j.expand render).InOrder render texts outline j) :
    (expandItems render items).InOrder render (·.flatMap texts) (·.map outline) items := by
  induction items with
  | nil => exact ⟨.all .nil, rfl⟩
  | cons j r ihr =>
    obtain ⟨hj, hr⟩ := List.forall_mem_cons.mp ih
    exact hj.cons (ihr hr)

/-- The walk over the values of fields. -/
theorem expandFields_inOrder {fields : List (String × Json)}
    (ih : ∀ f ∈ fields, (f.2.expand render).InOrder render texts outline f.2) :
    (expandFields render fields).InOrder render (·.flatMap fun f => f.2.texts)
      (·.map fun f => (f.1, f.2.outline)) fields := by
  induction fields with
  | nil => exact ⟨.all .nil, rfl⟩
  | cons f r ihr =>
    obtain ⟨hf, hr⟩ := List.forall_mem_cons.mp ih
    have hfirst : ((f.2.expand render).map fun j => (f.1, j)).InOrder render (fun f => f.2.texts)
        (fun f => (f.1, f.2.outline)) f :=
      Walk.InOrder.map (f := fun j => (f.1, j)) hf (fun _ => rfl) fun _ _ h => congrArg (f.1, ·) h
    exact hfirst.cons (ihr hr)

/-- **Expansion visits the texts of a value in order.** -/
theorem expand_inOrder (j : Json) : (j.expand render).InOrder render texts outline j := by
  induction j using Json.induct with
  | null | bool b | int n | float x => exact ⟨.all .nil, rfl⟩
  | str s => exact (Walk.inOrder_ofText s).map (fun _ => rfl) fun _ _ _ => rfl
  | arr items ih =>
    refine (expandItems_inOrder ih).map textsItems_eq fun x y h => ?_
    rw [outline, outline, outlineItems_eq, outlineItems_eq, h]
  | obj fields ih =>
    refine (expandFields_inOrder ih).map textsFields_eq fun x y h => ?_
    rw [outline, outline, outlineFields_eq, outlineFields_eq, h]

end Json

end Healing
