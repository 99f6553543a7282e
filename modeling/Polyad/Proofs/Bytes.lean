/-
Polyad/Proofs/Bytes.lean

What can be read back from the bytes that are given to a hash: a count from its eight bytes, and a
text from its encoded characters and the byte that ends them.

Idea.  The low byte of a number and what remains without it are its remainder and quotient by
256.  A text can be told from what follows because no encoded character has the byte 255: the
bytes of a character begin with a fixed pattern of bits that leaves too little room
(`ne_terminator_of_mem_utf8`).
-/
import Polyad.Feed
import Mathlib.Data.List.Basic

namespace Polyad

/-! ### Counts -/

theorem eq_of_littleEndian_eq {width m n : Nat} (hm : m < Nat.pow 256 width)
    (hn : n < Nat.pow 256 width) (h : littleEndian width m = littleEndian width n) : m = n := by
  induction width generalizing m n with
  | zero => exact (Nat.lt_one_iff.mp hm).trans (Nat.lt_one_iff.mp hn).symm
  | succ width ih =>
    obtain ⟨hlow, hhigh⟩ := List.cons.inj h
    have hquotient : m / 256 = n / 256 :=
      ih (Nat.div_lt_of_lt_mul (Nat.mul_comm _ _ ▸ hm))
        (Nat.div_lt_of_lt_mul (Nat.mul_comm _ _ ▸ hn)) hhigh
    have hremainder : m % 256 = n % 256 := by
      simpa using congrArg UInt8.toNat hlow
    rw [← Nat.div_add_mod m 256, hquotient, hremainder, Nat.div_add_mod]

/-! ### Texts -/

namespace Feed

/-- The bytes of an array from an index on, after those collected before. -/
theorem toList_loop_eq (b : ByteArray) (i : Nat) (r : List UInt8) :
    ByteArray.toList.loop b i r = r.reverse ++ b.data.toList.drop i := by
  fun_induction ByteArray.toList.loop b i r with
  | case1 i r h ih =>
    have hi : i < b.data.toList.length := h
    have hget : b.get! i = b.data.toList[i] := getElem!_pos b.data i hi
    rw [ih, List.drop_eq_getElem_cons hi, List.reverse_cons, List.append_assoc, hget]
    rfl
  | case2 i r h =>
    rw [List.drop_eq_nil_of_le (Nat.le_of_not_lt h), List.append_nil]

theorem toList_toUTF8 (s : String) : s.toUTF8.toList = s.toList.flatMap String.utf8EncodeChar := by
  show ByteArray.toList.loop s.toByteArray 0 [] = _
  rw [toList_loop_eq, ← String.utf8Encode_toList]
  exact List.toList_data_toByteArray

theorem eq_of_toList_toUTF8_eq {s t : String} (h : s.toUTF8.toList = t.toUTF8.toList) : s = t := by
  rw [toList_toUTF8, toList_toUTF8] at h
  refine String.toByteArray_inj.mp ?_
  rw [← String.utf8Encode_toList, ← String.utf8Encode_toList]
  exact congrArg List.toByteArray h

/-- A byte that begins or continues a character has fewer bits set than the terminator. -/
theorem ne_terminator_of_mem_utf8 {c : Char} {b : UInt8} (h : b ∈ String.utf8EncodeChar c) :
    b ≠ 0xff := by
  have hlt : ∀ n, n < 255 → UInt8.ofNat n ≠ 0xff := by
    intro n hn he
    have := congrArg UInt8.toNat he
    simp at this
    omega
  unfold String.utf8EncodeChar at h
  dsimp only at h
  split at h
  · simp only [List.mem_cons, List.not_mem_nil, or_false] at h
    obtain rfl := h
    exact hlt _ (by omega)
  · split at h
    · simp only [List.mem_cons, List.not_mem_nil, or_false] at h
      rcases h with rfl | rfl <;> exact hlt _ (by omega)
    · split at h
      · simp only [List.mem_cons, List.not_mem_nil, or_false] at h
        rcases h with rfl | rfl | rfl <;> exact hlt _ (by omega)
      · simp only [List.mem_cons, List.not_mem_nil, or_false] at h
        rcases h with rfl | rfl | rfl | rfl <;> exact hlt _ (by omega)

theorem terminator_notMem (s : String) : 0xff ∉ s.toUTF8.toList := by
  rw [toList_toUTF8]
  intro h
  obtain ⟨c, -, hc⟩ := List.mem_flatMap.mp h
  exact ne_terminator_of_mem_utf8 hc rfl

/-- What stands before the first terminator, and what stands behind it. -/
theorem append_cons_inj {α : Type} {a : α} {xs ys r r' : List α} (hx : a ∉ xs) (hy : a ∉ ys)
    (h : xs ++ a :: r = ys ++ a :: r') : xs = ys ∧ r = r' := by
  rcases List.append_eq_append_iff.mp h with ⟨l, hys, hr⟩ | ⟨l, hxs, hr⟩ <;>
    rcases l with - | ⟨b, l⟩
  · exact ⟨by rw [hys, List.append_nil], (List.cons.inj hr).2⟩
  · -- one of the two texts would go on with the terminator
    obtain rfl := (List.cons.inj hr).1
    exact absurd (hys ▸ List.mem_append_right xs List.mem_cons_self) hy
  · exact ⟨by rw [hxs, List.append_nil], (List.cons.inj hr).2.symm⟩
  · obtain rfl := (List.cons.inj hr).1
    exact absurd (hxs ▸ List.mem_append_right ys List.mem_cons_self) hx

/-- **A text is read back** from the front of a stream: the text and the rest are determined. -/
theorem textBytes_append_inj {U : Universe} {s t : String} {r r' : List (Write U)}
    (h : bytes (textBytes s) ++ r = bytes (textBytes t) ++ r') : s = t ∧ r = r' := by
  have hnotMem (s : String) : Write.byte 0xff ∉ bytes (U := U) s.toUTF8.toList := by
    intro hmem
    obtain ⟨b, hb, he⟩ := List.mem_map.mp hmem
    obtain rfl := Write.byte.inj he
    exact terminator_notMem s hb
  have hsplit (s : String) (r : List (Write U)) :
      bytes (textBytes s) ++ r = bytes s.toUTF8.toList ++ .byte 0xff :: r := by
    simp [bytes, textBytes]
  rw [hsplit, hsplit] at h
  obtain ⟨htext, hrest⟩ := append_cons_inj (hnotMem s) (hnotMem t) h
  refine ⟨eq_of_toList_toUTF8_eq ?_, hrest⟩
  exact (List.map_injective_iff.mpr fun a b => Write.byte.inj) htext

/-- **A count is read back** from the front of a stream. -/
theorem count_append_inj {U : Universe} {m n : Nat} {r r' : List (Write U)} (hm : m < UInt64.size)
    (hn : n < UInt64.size) (h : count m ++ r = count n ++ r') : m = n ∧ r = r' := by
  have hsize : UInt64.size = Nat.pow 256 8 := rfl
  rw [hsize] at hm hn
  obtain ⟨hcount, hrest⟩ := List.append_inj h (by simp [count, bytes])
  refine ⟨eq_of_littleEndian_eq hm hn ?_, hrest⟩
  exact (List.map_injective_iff.mpr fun a b => Write.byte.inj) hcount

end Feed

end Polyad
