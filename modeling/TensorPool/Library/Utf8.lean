/-
This file gives the bytes of a string and the rules for them.
-/

import Mathlib.Data.List.Basic

namespace Utf8

/-- The bytes of a string are those of its letters. -/
def bytes (text : String) : List UInt8 := text.toList.flatMap String.utf8EncodeChar

theorem bytes_append (front back : String) : bytes (front ++ back) = bytes front ++ bytes back := by
  rw [bytes, String.toList_append, List.flatMap_append]
  rfl

/-- They are the bytes that the string is stored as. -/
theorem bytes_eq (text : String) : bytes text = text.toByteArray.data.toList := by
  have stored : text.toByteArray = (text.toList.flatMap String.utf8EncodeChar).toByteArray := by
    conv_lhs => rw [← String.ofList_toList (s := text), String.toByteArray_ofList]
    rfl
  rw [stored, List.toList_data_toByteArray]
  rfl

/-- The list of a byte array is read from an index to its end. -/
theorem toList_loop (array : ByteArray) (index : Nat) (read : List UInt8) :
    ByteArray.toList.loop array index read = read.reverse ++ array.data.toList.drop index := by
  induction index, read using ByteArray.toList.loop.induct array with
  | case1 index read inside hypothesis =>
      have here : index < array.data.toList.length := inside
      have byte : array.get! index = array.data.toList[index] := by
        change array.data[index]! = _
        rw [getElem!_pos array.data index inside]
        exact (Array.getElem_toList inside).symm
      rw [ByteArray.toList.loop, if_pos inside, hypothesis, List.reverse_cons, List.append_assoc,
        List.drop_eq_getElem_cons here, byte]
      rfl
  | case2 index read outside =>
      have none : array.data.toList.drop index = [] := List.drop_eq_nil_of_le (Nat.not_lt.mp outside)
      rw [ByteArray.toList.loop, if_neg outside, none, List.append_nil]

/-- The list of the bytes of a string is the same. -/
theorem toList_toUTF8 (text : String) : text.toUTF8.toList = bytes text := by
  rw [bytes_eq, ByteArray.toList, toList_loop]
  rfl

theorem length_bytes (text : String) : (bytes text).length = text.utf8ByteSize := by
  rw [bytes_eq]
  rfl

end Utf8
