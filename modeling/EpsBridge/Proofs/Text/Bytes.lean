import EpsBridge.Text.Utf8

/-!
# Arrays of bytes as lists

What is read and written is kept in arrays of bytes, and what is proved about it
speaks of the lists of their elements.  `toList_eq_data` takes the library's loop
to the list that the array is built on, and each operation then has one equation.
-/

namespace EpsBridge

theorem toList_loop (bytes : ByteArray) (position : Nat) (read : List UInt8) :
    ByteArray.toList.loop bytes position read =
      read.reverse ++ bytes.data.toList.drop position := by
  fun_induction ByteArray.toList.loop bytes position read with
  | case1 position read hposition ih =>
      have hlength : position < bytes.data.toList.length := by simpa using hposition
      have hbyte : bytes.get! position = bytes.data.toList[position] := by
        simpa [ByteArray.get!] using getElem!_pos bytes.data position hposition
      rw [ih, List.drop_eq_getElem_cons hlength, hbyte]
      simp
  | case2 position read hposition =>
      have hpast : bytes.data.toList.length ≤ position := by
        simpa using Nat.le_of_not_lt hposition
      rw [List.drop_eq_nil_of_le hpast, List.append_nil]

theorem toList_eq_data (bytes : ByteArray) : bytes.toList = bytes.data.toList := by
  rw [ByteArray.toList, toList_loop]
  rfl

theorem toList_inj {first second : ByteArray} : first.toList = second.toList ↔ first = second := by
  rw [toList_eq_data, toList_eq_data, Array.toList_inj, ByteArray.ext_iff]

@[simp] theorem length_toList (bytes : ByteArray) : bytes.toList.length = bytes.size := by
  rw [toList_eq_data, Array.length_toList, ByteArray.size_data]

@[simp] theorem toList_append (first second : ByteArray) :
    (first ++ second).toList = first.toList ++ second.toList := by
  simp only [toList_eq_data, ByteArray.data_append, Array.toList_append]

@[simp] theorem toList_extract_zero (bytes : ByteArray) (count : Nat) :
    (bytes.extract 0 count).toList = bytes.toList.take count := by
  simp [toList_eq_data, ByteArray.data_extract]

theorem toList_extract (bytes : ByteArray) (start stop : Nat) :
    (bytes.extract start stop).toList = (bytes.toList.drop start).take (stop - start) := by
  rw [toList_eq_data, toList_eq_data, ByteArray.data_extract, Array.toList_extract,
    List.extract_eq_take_drop]

@[simp] theorem toList_toByteArray (bytes : List UInt8) : bytes.toByteArray.toList = bytes := by
  simp [toList_eq_data, List.data_toByteArray]

/-- The fold of an array that has come to a position goes on over what is left. -/
theorem foldlM_loop {β : Type} (f : β → UInt8 → β) (bytes : ByteArray) (left position : Nat)
    (value : β) (hleft : left = bytes.size - position) :
    Id.run (ByteArray.foldlM.loop (fun value byte => pure (f value byte)) bytes bytes.size
      (Nat.le_refl _) left position value) = (bytes.data.toList.drop position).foldl f value := by
  induction left generalizing position value with
  | zero =>
      have hpast : bytes.data.toList.length ≤ position := by
        rw [Array.length_toList, ByteArray.size_data]
        omega
      rw [ByteArray.foldlM.loop, List.drop_eq_nil_of_le hpast]
      simp
  | succ left ih =>
      have hposition : position < bytes.size := by omega
      have hlength : position < bytes.data.toList.length := by simpa using hposition
      rw [ByteArray.foldlM.loop, dif_pos hposition, List.drop_eq_getElem_cons hlength,
        List.foldl_cons, ← ih (position + 1) _ (by omega)]
      simp [ByteArray.getElem_eq_getElem_data]

theorem foldl_eq_foldl_toList {β : Type} (f : β → UInt8 → β) (init : β) (bytes : ByteArray) :
    bytes.foldl f init = bytes.toList.foldl f init := by
  rw [toList_eq_data, ByteArray.foldl, ByteArray.foldlM, dif_pos (Nat.le_refl _)]
  exact foldlM_loop f bytes _ 0 init rfl

end EpsBridge
