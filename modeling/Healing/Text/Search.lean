/-
  Finding a mark in a text.

  1. **Prefixes** - `dropPrefix?` takes a mark off the start of a text.
  2. **First occurrence** - `cutAt?` cuts a text at the first occurrence of a mark.
-/
namespace Healing.Text

/-- The rest of a text that starts with the given characters. -/
def dropPrefix? : List Char → List Char → Option (List Char)
  | [], cs => some cs
  | p :: ps, c :: cs => if p = c then dropPrefix? ps cs else none
  | _ :: _, [] => none

/-- The parts of a text before and behind the first occurrence of a mark; an empty mark occurs at
    the start. -/
def cutAt? (mark : List Char) : List Char → Option (List Char × List Char)
  | [] => if mark.isEmpty then some ([], []) else none
  | c :: r =>
    match dropPrefix? mark (c :: r) with
    | some rest => some ([], rest)
    | none => (cutAt? mark r).map fun (a, b) => (c :: a, b)

theorem dropPrefix?_eq_some_iff {mark cs r : List Char} :
    dropPrefix? mark cs = some r ↔ cs = mark ++ r := by
  induction mark generalizing cs with
  | nil => simp [dropPrefix?]
  | cons p ps ih =>
    cases cs with
    | nil => simp [dropPrefix?]
    | cons c cs =>
      by_cases h : p = c
      · subst h; simp [dropPrefix?, ih]
      · simp [dropPrefix?, h, Ne.symm h]

/-- Nothing is lost when a text is cut. -/
theorem eq_of_cutAt? {mark cs a b : List Char} (h : cutAt? mark cs = some (a, b)) :
    cs = a ++ mark ++ b := by
  induction cs generalizing a b with
  | nil =>
    unfold cutAt? at h
    split at h
    · rename_i hm
      simp only [Option.some.injEq, Prod.mk.injEq] at h
      obtain ⟨rfl, rfl⟩ := h
      simpa using hm
    · simp at h
  | cons c r ih =>
    unfold cutAt? at h
    split at h
    · rename_i rest hd
      simp only [Option.some.injEq, Prod.mk.injEq] at h
      obtain ⟨rfl, rfl⟩ := h
      simpa using dropPrefix?_eq_some_iff.1 hd
    · obtain ⟨⟨x, y⟩, hx, he⟩ := Option.map_eq_some_iff.1 h
      simp only [Prod.mk.injEq] at he
      obtain ⟨rfl, rfl⟩ := he
      simp [ih hx]

/-- A text cannot be cut at a mark that does not occur in it, and at no other. -/
theorem cutAt?_eq_none_iff {mark cs : List Char} : cutAt? mark cs = none ↔ ¬ mark <:+: cs := by
  induction cs with
  | nil =>
    unfold cutAt?
    cases mark <;> simp
  | cons c r ih =>
    rw [List.infix_cons_iff, cutAt?]
    cases h : dropPrefix? mark (c :: r) with
    | some rest =>
      have hstart : mark <+: c :: r := ⟨rest, (dropPrefix?_eq_some_iff.mp h).symm⟩
      simp [hstart]
    | none =>
      have hstart : ¬ mark <+: c :: r := by
        rintro ⟨rest, hrest⟩
        rw [dropPrefix?_eq_some_iff.mpr hrest.symm] at h
        cases h
      simp [hstart, ih]

/-- A cut does not depend on what is behind it. -/
theorem cutAt?_append {mark cs a b : List Char} (h : cutAt? mark cs = some (a, b))
    (more : List Char) : cutAt? mark (cs ++ more) = some (a, b ++ more) := by
  induction cs generalizing a b with
  | nil =>
    unfold cutAt? at h
    split at h
    · rename_i hm
      obtain ⟨rfl, rfl⟩ := Prod.mk.inj (Option.some.inj h)
      obtain rfl := List.isEmpty_iff.mp hm
      cases more <;> rfl
    · cases h
  | cons c r ih =>
    rw [cutAt?] at h
    rw [List.cons_append, cutAt?]
    cases hd : dropPrefix? mark (c :: r) with
    | some rest =>
      rw [hd] at h
      obtain ⟨rfl, rfl⟩ := Prod.mk.inj (Option.some.inj h)
      have hmore : c :: (r ++ more) = mark ++ (rest ++ more) := by
        rw [← List.append_assoc, ← dropPrefix?_eq_some_iff.mp hd]
        rfl
      rw [dropPrefix?_eq_some_iff.mpr hmore]
    | none =>
      rw [hd] at h
      obtain ⟨⟨x, y⟩, hx, he⟩ := Option.map_eq_some_iff.mp h
      obtain ⟨rfl, rfl⟩ := Prod.mk.inj he
      -- the mark fits into what is left, so it does not reach beyond it here either
      have hfits : mark.length ≤ (c :: r).length := by
        rw [eq_of_cutAt? hx]
        simp only [List.length_cons, List.length_append]
        omega
      have hnone : dropPrefix? mark (c :: (r ++ more)) = none := by
        cases hd' : dropPrefix? mark (c :: (r ++ more)) with
        | none => rfl
        | some rest =>
          have hprefix : mark <+: c :: r :=
            List.prefix_of_prefix_length_le ⟨rest, (dropPrefix?_eq_some_iff.mp hd').symm⟩
              (List.prefix_append (c :: r) more) hfits
          obtain ⟨rest', hrest'⟩ := hprefix
          rw [dropPrefix?_eq_some_iff.mpr hrest'.symm] at hd
          cases hd
      rw [hnone, ih hx]
      rfl

end Healing.Text
