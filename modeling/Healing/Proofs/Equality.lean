/-
  Equality of what is compared at run time.

  Actions are remembered, and rules are compared with those that are known, by a test `==` that
  takes the two floating-point zeros for one.  It is weaker than equality, but it is an equivalence.

  1. **Pulling back** - `EquivBEq.pullBack`: a test that compares images under a function is an
     equivalence if the test on the images is.
  2. **Containers** - pairs, optional values, lists and maps.
  3. **JSON** - `Json.plain` drops the sign of every zero; `same_iff_plain_eq`: two values are the
     same iff they are equal without those signs.
  4. **Actions and rules** - every record is compared like the tuple of its fields.
-/
import Healing.Rule

namespace Healing

universe u v

/-! ## Pulling back -/

/-- A test that compares images under a function is an equivalence if the test on the images is. -/
theorem EquivBEq.pullBack {α : Type u} {β : Type v} [BEq α] [BEq β] [EquivBEq β] (f : α → β)
    (h : ∀ a b, (a == b) = (f a == f b)) : EquivBEq α where
  rfl := by intro a; rw [h]; exact BEq.rfl
  symm := by intro a b hab; rw [h] at hab ⊢; exact BEq.symm hab
  trans := by intro a b c hab hbc; rw [h] at hab hbc ⊢; exact BEq.trans hab hbc

/-! ## Containers -/

section Containers

variable {α : Type u} {β : Type v} [BEq α] [BEq β]

/-- What equals nothing is nothing. -/
theorem eq_none_of_beq_none {o : Option α} (h : (o == none) = true) : o = none := by
  cases o with
  | none => rfl
  | some a => cases h

/-- What equals something is something equal. -/
theorem exists_of_beq_some {o : Option α} {b : α} (h : (o == some b) = true) :
    ∃ a, o = some a ∧ (a == b) = true := by
  cases o with
  | none => cases h
  | some a => exact ⟨a, rfl, h⟩

/-- Something equals something equal only. -/
theorem exists_of_some_beq {a : α} {o : Option α} (h : (some a == o) = true) :
    ∃ b, o = some b ∧ (a == b) = true := by
  cases o with
  | none => cases h
  | some b => exact ⟨b, rfl, h⟩

variable [EquivBEq α] [EquivBEq β]

instance equivBEq_prod : EquivBEq (α × β) where
  symm := by
    intro a b hab
    obtain ⟨h₁, h₂⟩ := Bool.and_eq_true_iff.mp hab
    exact Bool.and_eq_true_iff.mpr ⟨BEq.symm h₁, BEq.symm h₂⟩
  trans := by
    intro a b c hab hbc
    obtain ⟨h₁, h₂⟩ := Bool.and_eq_true_iff.mp hab
    obtain ⟨k₁, k₂⟩ := Bool.and_eq_true_iff.mp hbc
    exact Bool.and_eq_true_iff.mpr ⟨BEq.trans h₁ k₁, BEq.trans h₂ k₂⟩

instance equivBEq_option : EquivBEq (Option α) where
  symm := by
    intro a b hab
    cases a <;> cases b
    case some.some a b => exact BEq.symm (a := a) hab
    all_goals exact hab
  trans := by
    intro a b c hab hbc
    cases a <;> cases b
    case some.some a b =>
      cases c with
      | none => exact hbc
      | some c => exact BEq.trans (a := a) (b := b) hab hbc
    case none.none => exact hbc
    all_goals exact absurd hab Bool.false_ne_true

/-- Lists are compared item by item. -/
theorem list_beq_symm : ∀ {l m : List α}, (l == m) = true → (m == l) = true
  | [], [], h => h
  | a :: l, b :: m, h => by
    rw [List.cons_beq_cons, Bool.and_eq_true_iff] at h ⊢
    exact ⟨BEq.symm h.1, list_beq_symm h.2⟩

/-- Lists that are equal item by item to the same list are so to each other. -/
theorem list_beq_trans :
    ∀ {l m n : List α}, (l == m) = true → (m == n) = true → (l == n) = true
  | [], [], _, _, h => h
  | a :: l, b :: m, c :: n, h, k => by
    rw [List.cons_beq_cons, Bool.and_eq_true_iff] at h k ⊢
    exact ⟨BEq.trans h.1 k.1, list_beq_trans h.2 k.2⟩

instance equivBEq_list : EquivBEq (List α) where
  symm := list_beq_symm
  trans := list_beq_trans

instance [Ord α] : EquivBEq (KeyMap α β) := EquivBEq.pullBack KeyMap.entries fun _ _ => rfl

end Containers

/-! ## JSON -/

/-- A number without the sign of a zero. -/
def Binary64.plain (x : Binary64) : Binary64 := if x.isZero then .zero false else x

/-- Two numbers have the same value iff they are equal without the sign of a zero. -/
theorem Binary64.sameValue_iff_plain_eq (x y : Binary64) :
    x.sameValue y = true ↔ x.plain = y.plain := by
  have hzero : (Binary64.zero false).isZero = true := rfl
  unfold sameValue plain
  by_cases hx : x.isZero = true <;> by_cases hy : y.isZero = true
  · simp [hx, hy]
  · -- only the first is zero: they are different either way
    have hne : x ≠ y := fun e => hy (e ▸ hx)
    have hne' : Binary64.zero false ≠ y := fun e => hy (e ▸ hzero)
    simp [hx, hy, hne, hne']
  · have hne : x ≠ y := fun e => hx (e ▸ hy)
    have hne' : x ≠ Binary64.zero false := fun e => hx (e ▸ hzero)
    simp [hx, hy, hne, hne']
  · simp [hx, hy]

namespace Json

mutual

/-- A value without the signs of the zeros in it. -/
def plain : Json → Json
  | .float x => .float x.plain
  | .arr items => .arr (plainItems items)
  | .obj fields => .obj (plainFields fields)
  | j => j

/-- `plain` on each item. -/
def plainItems : List Json → List Json
  | [] => []
  | j :: r => plain j :: plainItems r

/-- `plain` on the value of each field. -/
def plainFields : List (String × Json) → List (String × Json)
  | [] => []
  | (k, j) :: r => (k, plain j) :: plainFields r

end

mutual

/-- **Same values.**  Two values are the same iff they are equal without the signs of zeros. -/
theorem same_iff_plain_eq : ∀ a b : Json, same a b = true ↔ plain a = plain b
  | .float x, .float y => by simp [same, plain, Binary64.sameValue_iff_plain_eq]
  | .arr a, .arr b => by simp [same, plain, sameItems_iff_plain_eq a b]
  | .obj a, .obj b => by simp [same, plain, sameFields_iff_plain_eq a b]
  | .null, b => by cases b <;> simp [same, plain]
  | .bool _, b => by cases b <;> simp [same, plain]
  | .int _, b => by cases b <;> simp [same, plain]
  | .str _, b => by cases b <;> simp [same, plain]
  | .float _, .null | .float _, .bool _ | .float _, .int _ | .float _, .str _
  | .float _, .arr _ | .float _, .obj _ => by simp [same, plain]
  | .arr _, .null | .arr _, .bool _ | .arr _, .int _ | .arr _, .str _
  | .arr _, .float _ | .arr _, .obj _ => by simp [same, plain]
  | .obj _, .null | .obj _, .bool _ | .obj _, .int _ | .obj _, .str _
  | .obj _, .float _ | .obj _, .arr _ => by simp [same, plain]

/-- `same_iff_plain_eq` for lists of items. -/
theorem sameItems_iff_plain_eq : ∀ a b : List Json,
    sameItems a b = true ↔ plainItems a = plainItems b
  | [], [] => by simp [sameItems]
  | [], _ :: _ => by simp [sameItems, plainItems]
  | _ :: _, [] => by simp [sameItems, plainItems]
  | a :: as, b :: bs => by
    have hhead := same_iff_plain_eq a b
    have htail := sameItems_iff_plain_eq as bs
    simp [sameItems, plainItems, hhead, htail]

/-- `same_iff_plain_eq` for lists of fields. -/
theorem sameFields_iff_plain_eq : ∀ a b : List (String × Json),
    sameFields a b = true ↔ plainFields a = plainFields b
  | [], [] => by simp [sameFields]
  | [], (_, _) :: _ => by simp [sameFields, plainFields]
  | (_, _) :: _, [] => by simp [sameFields, plainFields]
  | (k, a) :: as, (l, b) :: bs => by
    have hhead := same_iff_plain_eq a b
    have htail := sameFields_iff_plain_eq as bs
    simp [sameFields, plainFields, hhead, htail, and_assoc]

end

instance : EquivBEq Json where
  rfl := by intro a; exact (same_iff_plain_eq a a).mpr rfl
  symm := by
    intro a b hab
    exact (same_iff_plain_eq b a).mpr ((same_iff_plain_eq a b).mp hab).symm
  trans := by
    intro a b c hab hbc
    exact (same_iff_plain_eq a c).mpr
      (((same_iff_plain_eq a b).mp hab).trans ((same_iff_plain_eq b c).mp hbc))

end Json

/-! ## Actions and rules -/

instance : EquivBEq Kubernetes.Job :=
  EquivBEq.pullBack (fun j => (j.metadata, j.spec, j.status)) fun _ _ => rfl

instance : EquivBEq AwxJob :=
  EquivBEq.pullBack (fun j => (j.template, j.extraVars, j.limit)) fun _ _ => rfl

/-- The job of an action, in the place for its kind. -/
def Action.jobs : Action → Option AwxJob × Option Kubernetes.Job
  | .awx job => (some job, none)
  | .batch job => (none, some job)

instance : EquivBEq Action :=
  EquivBEq.pullBack Action.jobs fun a b => by
    cases a <;> cases b
    case awx.awx a b => exact (Bool.and_true _).symm
    all_goals rfl

instance : EquivBEq Rule :=
  EquivBEq.pullBack
    (fun r => (r.name, r.space, r.resourceVersion, r.labels, r.annotations, r.delimiters, r.action))
    fun _ _ => rfl

/-- Equal rules have one name. -/
theorem Rule.name_eq_of_beq {r r' : Rule} (h : (r == r') = true) : r.name = r'.name :=
  eq_of_beq (Bool.and_eq_true_iff.mp h).1

end Healing
