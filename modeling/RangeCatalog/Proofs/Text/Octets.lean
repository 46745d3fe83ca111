import Mathlib.Data.List.Basic

/-! # Octets of texts

A text is decoded from the list of its own octets.
-/

namespace RangeCatalog

/-- What remains of an array is appended to the octets that were collected, the last of them first. -/
theorem toList_loop (octets : ByteArray) (index : Nat) (collected : List UInt8) :
    ByteArray.toList.loop octets index collected =
      collected.reverse ++ octets.data.toList.drop index := by
  fun_induction ByteArray.toList.loop octets index collected with
  | case1 index collected inside ih =>
    have bound : index < octets.data.toList.length := inside
    have octet : octets.get! index = octets.data.toList[index] := by
      rw [ByteArray.get!, getElem!_pos octets.data index inside, Array.getElem_toList]
    rw [ih, List.reverse_cons, List.append_assoc, List.singleton_append, octet,
      List.getElem_cons_drop]
  | case2 index collected outside =>
    have bound : octets.data.toList.length ≤ index := Nat.le_of_not_lt outside
    rw [List.drop_eq_nil_of_le bound, List.append_nil]

private theorem toByteArray_toList (octets : ByteArray) : octets.toList.toByteArray = octets := by
  apply ByteArray.ext
  rw [ByteArray.toList, toList_loop, List.data_toByteArray, List.reverse_nil, List.nil_append,
    List.drop_zero, Array.toArray_toList]

/-- A text is decoded from its own octets. -/
theorem fromUTF8?_toUTF8 (text : String) :
    String.fromUTF8? text.toUTF8.toList.toByteArray = some text := by
  have valid : text.toUTF8.IsValidUTF8 := text.isValidUTF8
  rw [toByteArray_toList, String.fromUTF8?, dif_pos valid]
  rfl

private theorem toList_toByteArray (octets : List UInt8) : octets.toByteArray.toList = octets := by
  rw [ByteArray.toList, toList_loop, List.data_toByteArray, List.reverse_nil, List.nil_append,
    List.drop_zero]

/-- A text that is decoded has the octets from which it is. -/
theorem toUTF8_of_fromUTF8? {octets : List UInt8} {text : String}
    (decoded : String.fromUTF8? octets.toByteArray = some text) : text.toUTF8.toList = octets := by
  rw [String.fromUTF8?] at decoded
  split at decoded
  · obtain rfl := Option.some.inj decoded
    exact toList_toByteArray octets
  · contradiction

/-- Texts with the same octets are the same text. -/
theorem toUTF8_toList_inj {text other : String} (same : text.toUTF8.toList = other.toUTF8.toList) :
    text = other := by
  have decoded := fromUTF8?_toUTF8 text
  rw [same, fromUTF8?_toUTF8] at decoded
  exact (Option.some.inj decoded).symm

end RangeCatalog
