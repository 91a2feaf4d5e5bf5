/-
  Making batch jobs ready.

  A job is created in its own namespace, or, if it has none, in that of the rule that asks for it.
  So jobs that are equal before they are made ready need not be equal afterwards; they are if they
  end up in the same namespace.

  1. **Equal maps** - in equal maps equal values are found (`KeyMap.get?_beq`), and they stay equal
     when the same is bound in both (`KeyMap.insert_beq`).
  2. **Namespaces** - `Kubernetes.Job.withNamespace` changes the namespace, and nothing else.
  3. **Equal jobs** - they have the same name and the same namespace.
  4. **Ready jobs** - `Rule.target`, where the job of a rule is created; `Rule.prepare_eq`: that is
     all that a job with a name is given; `Rule.prepare_beq` compares what is made of equal jobs.
-/
import Healing.Proofs.Equality
import Healing.Proofs.KeyMap
import Healing.Runner

namespace Healing

universe u

/-! ## Equal maps -/

section EqualMaps

variable {α : Type u} [BEq α]

/-- In equal lists of pairs equal values are found. -/
theorem findValue?_beq (k : String) :
    ∀ {l m : List (String × α)}, (l == m) = true → (findValue? k l == findValue? k m) = true
  | [], [], _ => rfl
  | (k₁, v) :: l, (k₂, w) :: m, h => by
    rw [List.cons_beq_cons, Bool.and_eq_true_iff] at h
    obtain ⟨hkey, hvalue⟩ := Bool.and_eq_true_iff.mp h.1
    have hkeys : k₁ = k₂ := eq_of_beq hkey
    subst hkeys
    rw [findValue?_cons, findValue?_cons]
    split
    · exact hvalue
    · exact findValue?_beq k h.2

/-- Lists of pairs stay equal when the same pair is put into both. -/
theorem insertEntry_beq [ReflBEq α] (k : String) (v : α) :
    ∀ {l m : List (String × α)}, (l == m) = true → (insertEntry k v l == insertEntry k v m) = true
  | [], [], _ => BEq.rfl
  | (k₁, a) :: l, (k₂, b) :: m, h => by
    have hcons := h
    rw [List.cons_beq_cons, Bool.and_eq_true_iff] at h
    have hkeys : k₁ = k₂ := eq_of_beq (Bool.and_eq_true_iff.mp h.1).1
    subst hkeys
    unfold insertEntry
    split
    · rw [List.cons_beq_cons, hcons, BEq.rfl]
      rfl
    · rw [List.cons_beq_cons, h.2, BEq.rfl]
      rfl
    · rw [List.cons_beq_cons, h.1, insertEntry_beq k v h.2]
      rfl

namespace KeyMap

variable {m n : KeyMap String α}

/-- In equal maps a key is bound to equal values. -/
theorem get?_beq (h : (m == n) = true) (k : String) : (m.get? k == n.get? k) = true :=
  findValue?_beq k h

/-- Maps stay equal when a key is bound to the same value in both. -/
theorem insert_beq [ReflBEq α] (h : (m == n) = true) (k : String) (v : α) :
    (m.insert k v == n.insert k v) = true :=
  insertEntry_beq k v h

end KeyMap

end EqualMaps

/-- Equal values are the same text, or no texts. -/
theorem Json.text?_of_beq {a b : Json} (h : (a == b) = true) : a.text? = b.text? := by
  have hplain : ∀ j : Json, j.plain.text? = j.text? := by
    intro j
    cases j <;> rfl
  rw [← hplain a, ← hplain b, (Json.same_iff_plain_eq a b).mp h]

namespace Kubernetes.Job

/-! ## Namespaces -/

variable (j : Job) (ns : String)

/-- The namespace that a job has been put into. -/
theorem namespaceName_withNamespace : (j.withNamespace ns).namespaceName = ns := by
  unfold namespaceName metadataText withNamespace
  rw [KeyMap.get?_insert, if_pos rfl]
  rfl

/-- A job keeps its name in another namespace. -/
theorem name_withNamespace : (j.withNamespace ns).name = j.name := by
  unfold name metadataText withNamespace
  rw [KeyMap.get?_insert, if_neg (by decide)]

/-- A job is in one namespace at a time. -/
theorem withNamespace_withNamespace (ns' : String) :
    (j.withNamespace ns).withNamespace ns' = j.withNamespace ns' := by
  unfold withNamespace
  rw [KeyMap.insert_insert]

variable {j}

/-- A job that has a namespace can be put into it. -/
theorem withNamespace_self (h : j.namespaceName.isEmpty = false) :
    j.withNamespace j.namespaceName = j := by
  unfold withNamespace
  rw [KeyMap.insert_of_get?]
  unfold namespaceName metadataText at h ⊢
  rcases hget : j.metadata.get? "namespace" with _ | value
  · rw [hget] at h
    cases h
  · rw [hget] at h
    cases value with
    | str s => rfl
    | _ => cases h

/-! ## Equal jobs -/

variable {i : Job}

/-- Equal jobs have the same texts among their metadata. -/
theorem metadataText_of_beq (h : (i == j) = true) (field : String) :
    i.metadataText field = j.metadataText field := by
  have hfield := KeyMap.get?_beq (Bool.and_eq_true_iff.mp h).1 field
  unfold metadataText
  rcases hj : j.metadata.get? field with _ | b
  · rw [hj] at hfield
    rw [eq_none_of_beq_none hfield]
  · rw [hj] at hfield
    obtain ⟨a, ha, hab⟩ := exists_of_beq_some hfield
    rw [ha]
    exact congrArg (Option.getD · "") (Json.text?_of_beq hab)

/-- Equal jobs stay equal when they are put into the same namespace. -/
theorem withNamespace_beq (h : (i == j) = true) (ns : String) :
    (i.withNamespace ns == j.withNamespace ns) = true := by
  obtain ⟨hmetadata, hrest⟩ := Bool.and_eq_true_iff.mp h
  exact Bool.and_eq_true_iff.mpr ⟨KeyMap.insert_beq hmetadata "namespace" (.str ns), hrest⟩

end Kubernetes.Job

/-! ## Ready jobs -/

namespace Rule

open Kubernetes (Job)

variable (r : Rule) {job : Job}

/-- The namespace that a job of a rule is created in: its own, or else that of the rule. -/
def target (job : Job) : String :=
  if job.namespaceName.isEmpty then r.spaceName else job.namespaceName

/-- **A job with a name is put into its namespace**, and that is all. -/
theorem prepare_eq (named : job.name ≠ "") :
    r.prepare job = .ok (job.withNamespace (r.target job)) := by
  have hname : ¬ job.name.isEmpty = true := by
    rwa [String.isEmpty_iff]
  unfold prepare target
  rw [if_neg hname]
  split
  · rfl
  · rename_i hns
    rw [Job.withNamespace_self ((Bool.not_eq_true _).mp hns)]

/-- Two rules create a job in the same namespace iff it names one or they have the same. -/
theorem target_eq_iff (r' : Rule) :
    r'.target job = r.target job ↔ job.namespaceName ≠ "" ∨ r'.spaceName = r.spaceName := by
  unfold target
  by_cases h : job.namespaceName = ""
  · rw [h]
    simp
  · have hne : ¬ job.namespaceName.isEmpty = true := by
      rwa [String.isEmpty_iff]
    simp [h, hne]

/-- **What is made of equal jobs** has the same name, and would be equal in one namespace.  It is
    equal iff it is in one namespace. -/
theorem prepare_beq (r' : Rule) {job' : Job} (h : (job' == job) = true) (named : job.name ≠ "") :
    ∃ made ready, r'.prepare job' = .ok made ∧ r.prepare job = .ok ready ∧
      made.name = ready.name ∧ (made.withNamespace ready.namespaceName == ready) = true ∧
      made.namespaceName = r'.target job ∧ ready.namespaceName = r.target job ∧
      ((made == ready) = true ↔ made.namespaceName = ready.namespaceName) := by
  have hname : job'.name = job.name := Job.metadataText_of_beq h "name"
  have hspace : job'.namespaceName = job.namespaceName := Job.metadataText_of_beq h "namespace"
  have htarget : r'.target job' = r'.target job := by
    unfold target
    rw [hspace]
  refine ⟨_, _, r'.prepare_eq (hname ▸ named), r.prepare_eq named, ?_, ?_, ?_, ?_, ?_⟩
  · rw [Job.name_withNamespace, Job.name_withNamespace, hname]
  · rw [Job.withNamespace_withNamespace, Job.namespaceName_withNamespace]
    exact Job.withNamespace_beq h _
  · rw [Job.namespaceName_withNamespace, htarget]
  · exact Job.namespaceName_withNamespace ..
  · refine ⟨fun heq => Job.metadataText_of_beq heq "namespace", fun heq => ?_⟩
    rw [Job.namespaceName_withNamespace, Job.namespaceName_withNamespace] at heq
    rw [heq]
    exact Job.withNamespace_beq h _

end Rule

end Healing
