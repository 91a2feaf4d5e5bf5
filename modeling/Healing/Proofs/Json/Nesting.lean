/-
  How deep the documents of JSON texts are nested.

  The reader marks what is nested too deep, and such a container is not read as a value.  A number
  that is kept exact fits 64 bits.  So a value that comes out of a JSON text has a compact text that
  the reader takes again, if its numbers are whole.

  1. **Documents** - `Document.Bounded`: numbers fit, and containers lie inside one another at most
     so many times.
  2. **Numbers** - `bounded_readNumber`.
  3. **Texts** - `bounded_ofText`, by induction on the fuel of the reader.
  4. **Values** - `bounded_of_value`: what is read from such a document is as bounded as it is.
-/
import Healing.Proofs.Json.Text

namespace Healing

/-! ## Documents -/

/-- Numbers fit, and at most so many containers lie inside one another that are not marked as too
    deep. -/
inductive Document.Bounded : Nat → Document → Prop
  | null (n : Nat) : Bounded n .null
  | bool (n : Nat) (b : Bool) : Bounded n (.bool b)
  | int (n : Nat) {i : Int} (low : -9_223_372_036_854_775_808 ≤ i)
    (high : i ≤ 18_446_744_073_709_551_615) : Bounded n (.number (some (.int i)))
  | float (n : Nat) (x : Binary64) : Bounded n (.number (some (.float x)))
  | noNumber (n : Nat) : Bounded n (.number none)
  | string (n : Nat) (s : Option String) : Bounded n (.string s)
  | list {n : Nat} {items : List Document} {fault : Option ReadError}
    (bounded : ∀ d ∈ items, Bounded n d) : Bounded (n + 1) (.list items fault)
  | map {n : Nat} {entries : List (Document × Document)} {fault : Option ReadError}
    (bounded : ∀ e ∈ entries, Bounded n e.2) : Bounded (n + 1) (.map entries fault)
  | deep (n : Nat) (d : Document) : Bounded n (.deep d)
  | broken (n : Nat) (e : ReadError) : Bounded n (.broken e)

/-- Such documents are plain. -/
theorem Document.Bounded.plain {n : Nat} {d : Document} (bounded : d.Bounded n) : d.Plain := by
  induction bounded with
  | list _ ih => exact .list ih
  | map _ ih => exact .map ih
  | _ => constructor

/-! ## Numbers -/

namespace Json

/-- The digits that are taken fit 64 bits. -/
theorem takeSignificant_le (cs : List Char) {n : Nat} (h : n ≤ 18_446_744_073_709_551_615) :
    (takeSignificant cs n).1 ≤ 18_446_744_073_709_551_615 := by
  induction cs generalizing n with
  | nil => exact h
  | cons c r ih =>
    show (if _ then _ else _ : Nat × Nat).1 ≤ _
    split
    · rename_i hnext
      exact ih hnext
    · exact h

/-- A number that is scaled is a floating-point number. -/
theorem exists_of_floatOf {negative : Bool} {significand : Nat} {exponent : Int} {j : Json}
    (h : floatOf negative significand exponent = some j) : ∃ x, j = .float x := by
  obtain ⟨x, -, rfl⟩ := Option.map_eq_some_iff.mp h
  exact ⟨_, rfl⟩

/-- A number is one that fits, or a floating-point number. -/
theorem bounded_numberOf {negative : Bool} {whole : List Char} {fraction : Option (List Char)}
    {exponent : Option (Bool × List Char)} (n : Nat) :
    (Document.number (numberOf negative whole fraction exponent)).Bounded n := by
  have hfloat : ∀ {o : Option Json}, (∀ j, o = some j → ∃ x, j = .float x) →
      (Document.number o).Bounded n := by
    intro o h
    cases o with
    | none => exact .noNumber n
    | some j =>
      obtain ⟨x, rfl⟩ := h j rfl
      exact .float n x
  have hhead := takeSignificant_le whole (Nat.zero_le 18_446_744_073_709_551_615)
  unfold numberOf
  generalize takeSignificant whole 0 = taken at hhead
  obtain ⟨head, left⟩ := taken
  dsimp only at hhead ⊢
  split
  · split
    · exact .int n (by omega) (by omega)
    · split
      · exact .float n _
      · exact .int n (by omega) (by omega)
  · split
    · exact hfloat fun _ => exists_of_floatOf
    · split
      · split
        · exact .noNumber n
        · exact .float n _
      · exact hfloat fun _ => exists_of_floatOf

/-- A number that has been read. -/
theorem bounded_readNumber {negative : Bool} {cs rest : List Char} {o : Option Json}
    (h : readNumber negative cs = .ok (o, rest)) (n : Nat) : (Document.number o).Bounded n := by
  unfold readNumber at h
  simp only [bind, Except.bind, pure, Except.pure] at h
  -- wherever the reader does not fail, it ends with the value of what it has read
  repeat' split at h
  all_goals cases h
  all_goals exact bounded_numberOf n

/-! ## Texts -/

/-- A word spells out what it is for, or it is broken. -/
theorem bounded_readWord {d : Document} {n : Nat} (bounded : d.Bounded n) (word : List Char) :
    ∀ cs : List Char, (readWord word d cs).1.Bounded n := by
  unfold readWord
  induction word with
  | nil => exact fun _ => bounded
  | cons w ws ih =>
    intro cs
    cases cs with
    | nil => exact .broken n _
    | cons c r =>
      show (if w = c then readWord.go d ws r else (.broken .malformed, [])).1.Bounded n
      split
      · exact ih r
      · exact .broken n _

/-- A container that is not marked has room for what is in it. -/
theorem bounded_markDeep {depth : Nat} {d : Document}
    (h : d.Bounded (maxDepth - (depth + 1) + 1)) :
    (markDeep (depth + 1) d).Bounded (maxDepth - depth) := by
  unfold markDeep
  split
  · exact .deep _ d
  · rename_i hdepth
    have hroom : maxDepth - (depth + 1) + 1 = maxDepth - depth := by omega
    exact hroom ▸ h

/-- **Nothing that is read goes too deep**: neither a value nor any item or field. -/
theorem bounded_read (fuel : Nat) :
    (∀ depth cs, (readValue fuel depth cs).1.Bounded (maxDepth - depth)) ∧
    (∀ depth first cs, ∀ d ∈ (readItems fuel depth first cs).1, d.Bounded (maxDepth - depth)) ∧
    (∀ depth first cs, ∀ e ∈ (readEntries fuel depth first cs).1,
      e.2.Bounded (maxDepth - depth)) := by
  induction fuel with
  | zero => exact ⟨fun _ _ => .broken _ _, fun _ _ _ => List.forall_mem_nil _, fun _ _ _ => List.forall_mem_nil _⟩
  | succ fuel ih =>
    obtain ⟨hvalue, hitems, hentries⟩ := ih
    -- what stands in a container is read one deeper, with less fuel
    refine ⟨fun depth cs => ?_, fun depth first cs => ?_, fun depth first cs => ?_⟩
    · rw [readValue]
      split
      · exact .broken _ _
      · exact bounded_readWord (.null _) _ _
      · exact bounded_readWord (.bool _ _) _ _
      · exact bounded_readWord (.bool _ _) _ _
      · split
        · exact .string _ _
        · exact .broken _ _
      · split
        · rename_i hread
          exact bounded_readNumber hread _
        · exact .broken _ _
      · exact bounded_markDeep (.list (hitems (depth + 1) true _))
      · exact bounded_markDeep (.map (hentries (depth + 1) true _))
      · split
        · split
          · rename_i hread
            exact bounded_readNumber hread _
          · exact .broken _ _
        · exact .broken _ _
    · rw [readItems]
      split
      · exact List.forall_mem_nil _
      · exact List.forall_mem_nil _
      · dsimp only
        split
        · exact List.forall_mem_nil _
        · split
          · exact List.forall_mem_nil _
          · split
            · exact List.forall_mem_singleton.mpr (.broken _ _)
            · rename_i hread
              have hd := congrArg Prod.fst hread ▸ hvalue depth _
              exact List.forall_mem_cons.mpr ⟨hd, hitems depth false _⟩
    · rw [readEntries]
      split
      · exact List.forall_mem_nil _
      · exact List.forall_mem_nil _
      · dsimp only
        split
        · exact List.forall_mem_nil _
        · exact List.forall_mem_nil _
        · split
          · exact List.forall_mem_nil _
          · split
            · exact List.forall_mem_singleton.mpr (.broken _ _)
            · split
              · exact List.forall_mem_singleton.mpr (.broken _ _)
              · rename_i hread
                have hd := congrArg Prod.fst hread ▸ hvalue depth _
                exact List.forall_mem_cons.mpr ⟨hd, hentries depth false _⟩
            · exact List.forall_mem_singleton.mpr (.broken _ _)
        · exact List.forall_mem_nil _

end Json

/-- **The document of a JSON text is not nested deeper than the reader goes.** -/
theorem Document.bounded_ofText (text : String) :
    (Document.ofText text).1.Bounded Json.maxDepth := by
  have hvalue := (Json.bounded_read (text.toList.length + 1)).1 0 text.toList
  unfold Document.ofText
  dsimp only
  split
  · exact .broken _ _
  · rename_i hread
    rw [hread] at hvalue
    exact hvalue

/-! ## Values -/

namespace Document

/-- **What is read from a bounded document is as bounded.** -/
theorem bounded_of_value {d : Document} {n : Nat} (bounded : d.Bounded n) :
    ∀ j, value d = .ok j → j.Bounded n := by
  induction bounded with
  | null n =>
    rintro j ⟨⟩
    exact .null n
  | bool n b =>
    rintro j ⟨⟩
    exact .bool n b
  | int n low high =>
    rintro j ⟨⟩
    exact .int n low high
  | float n x =>
    rintro j ⟨⟩
    exact .float n x
  | string n s =>
    intro j h
    cases s with
    | none => cases h
    | some s =>
      cases h
      exact .str n s
  | noNumber n | deep n d | broken n e => nofun
  | list _ ih =>
    intro j h
    obtain ⟨js, hjs, h⟩ := Except.bind_eq_ok_iff.mp h
    obtain ⟨-, -, h⟩ := Except.bind_eq_ok_iff.mp h
    cases h
    exact .arr (forall_of_valueItems ih hjs)
  | map _ ih =>
    intro j h
    obtain ⟨fields, hfields, h⟩ := Except.bind_eq_ok_iff.mp h
    obtain ⟨-, -, h⟩ := Except.bind_eq_ok_iff.mp h
    cases h
    exact .obj (forall_of_valueEntries ih List.Pairwise.nil nofun hfields).2

end Document

end Healing
