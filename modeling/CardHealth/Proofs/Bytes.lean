import CardHealth.Bytes
import Mathlib.Data.List.Basic

/-!
# One character a byte

The text with one character a byte holds the characters of its bytes (`mem_toLatin1`), and gives the
bytes back (`ofLatin1_toLatin1`).
-/

namespace CardHealth.Bytes

theorem toNat_ofNat (b : UInt8) : (Char.ofNat b.toNat).toNat = b.toNat := by
  have hb := b.toNat_lt
  have hvalid : b.toNat.isValidChar := Or.inl (by omega)
  rw [Char.ofNat, dif_pos hvalid]
  rfl

theorem mem_toLatin1 {byte : UInt8} {b : Bytes} :
    Char.ofNat byte.toNat ∈ toLatin1 b ↔ byte ∈ b := by
  refine ⟨fun h => ?_, List.mem_map_of_mem⟩
  obtain ⟨other, hmem, heq⟩ := List.mem_map.mp h
  have hnat := congrArg Char.toNat heq
  rw [toNat_ofNat, toNat_ofNat] at hnat
  rwa [← UInt8.toNat_inj.mp hnat]

theorem ofLatin1_toLatin1 (b : Bytes) : ofLatin1 (String.ofList (toLatin1 b)) = b := by
  rw [ofLatin1, toLatin1, String.toList_ofList, List.map_map]
  refine (List.map_congr_left fun byte _ => ?_).trans (List.map_id b)
  rw [Function.comp_apply, toNat_ofNat, UInt8.ofNat_toNat, id]

theorem toLatin1_append (a b : Bytes) : toLatin1 (a ++ b) = toLatin1 a ++ toLatin1 b :=
  List.map_append

end CardHealth.Bytes
