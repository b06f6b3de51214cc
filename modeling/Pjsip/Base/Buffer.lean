import Mathlib.Data.List.Basic

/-!
# Memory that is written to

The memory from the start of a buffer on, by index, without an end of its own: whether a
store stays inside the buffer is a fact about the indices that were stored at, which are
kept beside the contents.
-/

namespace Pjsip.Base

structure Buffer where
  cells : Nat → UInt8
  /-- Every index that has been stored at. -/
  stored : List Nat

namespace Buffer

/-- Store `bytes` from index `pos` on. -/
def store (b : Buffer) (pos : Nat) (bytes : List UInt8) : Buffer where
  cells i := if pos ≤ i then (bytes[i - pos]?).getD (b.cells i) else b.cells i
  stored := b.stored ++ List.range' pos bytes.length

/-- The `n` octets from index `pos` on. -/
def slice (b : Buffer) (pos n : Nat) : List UInt8 := (List.range' pos n).map b.cells

variable (b : Buffer)

@[simp] theorem slice_length (pos n : Nat) : (b.slice pos n).length = n := by
  simp [slice]

theorem slice_append (pos n m : Nat) :
    b.slice pos (n + m) = b.slice pos n ++ b.slice (pos + n) m := by
  rw [slice, slice, slice, ← List.map_append, List.range'_append_1]

variable {bytes : List UInt8}

theorem mem_stored_store {pos i : Nat} :
    i ∈ (b.store pos bytes).stored ↔ i ∈ b.stored ∨ pos ≤ i ∧ i < pos + bytes.length := by
  simp [store]

theorem slice_store_before {pos at_ n : Nat} (before : at_ + n ≤ pos) :
    (b.store pos bytes).slice at_ n = b.slice at_ n := by
  apply List.map_congr_left
  intro i mem
  rw [List.mem_range'_1] at mem
  exact if_neg (by omega)

theorem slice_store_after {pos at_ n : Nat}
    (after : pos + bytes.length ≤ at_) :
    (b.store pos bytes).slice at_ n = b.slice at_ n := by
  apply List.map_congr_left
  intro i mem
  rw [List.mem_range'_1] at mem
  show (if pos ≤ i then (bytes[i - pos]?).getD (b.cells i) else b.cells i) = b.cells i
  rw [if_pos (by omega), List.getElem?_eq_none (by omega)]
  rfl

theorem slice_store (pos : Nat) (bytes : List UInt8) :
    (b.store pos bytes).slice pos bytes.length = bytes := by
  apply List.ext_getElem
  · simp
  · intro i small same
    simp only [slice, List.getElem_map, List.getElem_range']
    show (if pos ≤ pos + 1 * i then (bytes[pos + 1 * i - pos]?).getD _ else _) = _
    rw [if_pos (by omega), show pos + 1 * i - pos = i by omega, List.getElem?_eq_getElem same]
    rfl

theorem slice_store_end {n size : Nat} (fits : bytes.length ≤ size) :
    (b.store n bytes).slice 0 (n + size)
      = b.slice 0 n ++ bytes ++ b.slice (n + bytes.length) (size - bytes.length) := by
  have whole : n + size = n + (bytes.length + (size - bytes.length)) := by omega
  rw [whole, slice_append, slice_append, Nat.zero_add, slice_store_before b (by omega),
    slice_store, slice_store_after b (Nat.le_refl _), List.append_assoc]

theorem slice_store_last (n : Nat) (bytes : List UInt8) :
    (b.store n bytes).slice 0 (n + bytes.length) = b.slice 0 n ++ bytes := by
  rw [slice_store_end b (Nat.le_refl _), Nat.sub_self]
  exact List.append_nil _

theorem slice_store_within {pos n : Nat} (within : pos + bytes.length ≤ n) :
    (b.store pos bytes).slice 0 n
      = (b.slice 0 n).take pos ++ bytes ++ (b.slice 0 n).drop (pos + bytes.length) := by
  have whole : n = pos + (bytes.length + (n - (pos + bytes.length))) := by omega
  have parts : b.slice 0 n = b.slice 0 pos ++ (b.slice pos bytes.length
      ++ b.slice (pos + bytes.length) (n - (pos + bytes.length))) := by
    conv => lhs; rw [whole]
    rw [slice_append, slice_append, Nat.zero_add]
  conv => lhs; rw [whole]
  rw [slice_append, slice_append, Nat.zero_add, slice_store_before b (by omega), slice_store,
    slice_store_after b (Nat.le_refl _), parts, List.take_left' (slice_length b 0 pos),
    ← List.append_assoc (b.slice 0 pos) (b.slice pos bytes.length), List.drop_left' (by simp),
    List.append_assoc]

end Buffer

end Pjsip.Base
