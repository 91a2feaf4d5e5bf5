/-
  Digests written in hexadecimal digits.

  A digest is compared as a text.  Nothing is lost on the way: different texts have different bytes,
  and different digests are written differently.  So two texts with one written digest are a
  collision of the digest itself.

  1. **Bytes of a text** - `toList_toUTF8_inj`.
  2. **Hexadecimal digits** - `Sha1.hexDigits_inj`, two digits for each byte.
  3. **Collisions** - `Sha1.Collision` and `Sha1.collision_of_hex_eq`.
-/
import Healing.Digest.Sha1

namespace Healing

/-! ## Bytes of a text -/

/-- The bytes from a position on are listed behind those that were listed before. -/
theorem toList_loop_eq (b : ByteArray) (i : Nat) (before : List UInt8) :
    ByteArray.toList.loop b i before = before.reverse ++ b.data.toList.drop i := by
  induction i, before using ByteArray.toList.loop.induct b with
  | case1 i before hi ih =>
    have hget : b.get! i = b.data.toList[i] := by
      show b.data[i]! = _
      rw [getElem!_pos b.data i hi]
      rfl
    rw [ByteArray.toList.loop, if_pos hi, ih, List.reverse_cons, List.append_assoc, hget,
      List.drop_eq_getElem_cons (i := i) hi]
    rfl
  | case2 i before hend =>
    rw [ByteArray.toList.loop, if_neg hend, List.drop_eq_nil_of_le (Nat.le_of_not_lt hend),
      List.append_nil]

/-- Different texts have different bytes. -/
theorem toList_toUTF8_inj {s t : String} (h : s.toUTF8.toList = t.toUTF8.toList) : s = t := by
  have hdata : ∀ b : ByteArray, b.toList = b.data.toList := fun b => toList_loop_eq b 0 []
  rw [hdata, hdata] at h
  exact String.toByteArray_inj.mp (ByteArray.ext (Array.toList_inj.mp h))

namespace Sha1

/-! ## Hexadecimal digits -/

/-- Different numbers below sixteen have different digits. -/
theorem hexDigit_inj :
    ∀ m < 16, ∀ n < 16, Json.hexDigit m = Json.hexDigit n → m = n := by
  decide

/-- Different bytes are written differently. -/
theorem hexDigits_inj : ∀ {bs cs : List UInt8},
    (bs.flatMap fun b => [Json.hexDigit (b.toNat / 16), Json.hexDigit (b.toNat % 16)])
      = (cs.flatMap fun b => [Json.hexDigit (b.toNat / 16), Json.hexDigit (b.toNat % 16)]) →
    bs = cs
  | [], [], _ => rfl
  | b :: bs, c :: cs, h => by
    rw [List.flatMap_cons, List.flatMap_cons] at h
    obtain ⟨hhigh, h⟩ := List.cons.inj h
    obtain ⟨hlow, h⟩ := List.cons.inj h
    have hb := b.toNat_lt
    have hc := c.toNat_lt
    have hdiv := hexDigit_inj _ (by omega) _ (by omega) hhigh
    have hmod := hexDigit_inj _ (by omega) _ (by omega) hlow
    have hbyte : b = c := UInt8.toNat_inj.mp (by omega)
    rw [hbyte, hexDigits_inj h]

/-! ## Collisions -/

/-- Two different messages with one digest. -/
def Collision (m n : List UInt8) : Prop := m ≠ n ∧ digest m = digest n

/-- Different texts whose written digests are the same are a collision. -/
theorem collision_of_hex_eq {s t : String} (hne : s ≠ t) (h : hex s = hex t) :
    Collision s.toUTF8.toList t.toUTF8.toList :=
  ⟨fun hbytes => hne (toList_toUTF8_inj hbytes), hexDigits_inj (String.ofList_inj.mp h)⟩

end Sha1

end Healing
