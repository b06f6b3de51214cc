import Mathlib.Data.List.Range
import Mathlib.Data.List.Nodup
import Mathlib.Data.Nat.ModEq
import Mathlib.Data.List.Rotate

/-!
# Circular windows

The arithmetic of a ring of `n` slots read from a head: slot `i` places after
the head, the window of the first `size` places, and how a head that advances
renumbers them. Nothing here knows what a slot holds.
-/

namespace Pjsip.Base.Ring

/-- The slot `i` places after `head` in a ring of `n` slots. -/
def slot (n head i : Nat) : Nat := (head + i) % n

/-- The slots that the window of `size` places from `head` covers. -/
def Window (n head size pos : Nat) : Prop := ∃ i < size, pos = slot n head i

instance (n head size pos : Nat) : Decidable (Window n head size pos) :=
  inferInstanceAs (Decidable (∃ i < size, pos = slot n head i))

theorem slot_lt {n : Nat} (pos : 0 < n) (head i : Nat) : slot n head i < n :=
  Nat.mod_lt _ pos

@[simp] theorem slot_zero {n head : Nat} (inside : head < n) : slot n head 0 = head := by
  simpa [slot] using Nat.mod_eq_of_lt inside

/-- Advancing the head by `k` renumbers place `k + i` to place `i`. -/
theorem slot_advance (n head k i : Nat) : slot n ((head + k) % n) i = slot n head (k + i) := by
  simp [slot, Nat.add_assoc]

theorem slot_inj {n head i j : Nat} (hi : i < n) (hj : j < n)
    (same : slot n head i = slot n head j) : i = j := by
  have congruent : i ≡ j [MOD n] := Nat.ModEq.add_left_cancel' head same
  rwa [Nat.ModEq, Nat.mod_eq_of_lt hi, Nat.mod_eq_of_lt hj] at congruent

theorem slot_surj {n head p : Nat} (hh : head < n) (hp : p < n) : ∃ i < n, p = slot n head i := by
  by_cases behind : head ≤ p
  · refine ⟨p - head, by omega, ?_⟩
    rw [slot, Nat.add_sub_cancel' behind, Nat.mod_eq_of_lt hp]
  · refine ⟨p + n - head, by omega, ?_⟩
    rw [slot, Nat.add_sub_cancel' (by omega), Nat.add_mod_right, Nat.mod_eq_of_lt hp]

theorem window_slot_iff {n head size i : Nat} (hs : size ≤ n) (hi : i < n) :
    Window n head size (slot n head i) ↔ i < size := by
  constructor
  · rintro ⟨j, hj, same⟩
    rwa [slot_inj hi (by omega) same]
  · intro inside
    exact ⟨i, inside, rfl⟩

/-- The places `0 .. count` after the head lie in at most two runs of
consecutive slots: up to the end of the ring, and from its start. -/
theorem map_slot_range {n head count : Nat} (hh : head < n) (hc : count ≤ n) :
    (List.range count).map (slot n head) =
      List.range' head (min count (n - head)) ++ List.range' 0 (count - (n - head)) := by
  apply List.ext_getElem
  · simp
    omega
  · intro i hi _
    simp only [List.length_map, List.length_range] at hi
    simp only [List.getElem_map, List.getElem_range, slot, List.getElem_append,
      List.length_range', List.getElem_range']
    split
    · rw [Nat.mod_eq_of_lt (by omega)]
      omega
    · rw [Nat.mod_eq_sub_mod (by omega), Nat.mod_eq_of_lt (by omega)]
      omega

theorem map_slot_perm {n head : Nat} (hh : head < n) :
    ((List.range n).map (slot n head)).Perm (List.range n) := by
  apply (List.perm_ext_iff_of_nodup _ List.nodup_range).mpr
  · intro p
    simp only [List.mem_map, List.mem_range]
    constructor
    · rintro ⟨i, _, rfl⟩
      exact slot_lt (by omega) head i
    · intro hp
      obtain ⟨i, hi, same⟩ := slot_surj hh hp
      exact ⟨i, hi, same.symm⟩
  · apply List.Nodup.map_on _ List.nodup_range
    intro i hi j hj same
    exact slot_inj (List.mem_range.mp hi) (List.mem_range.mp hj) same

end Pjsip.Base.Ring

/-!
# Stretches of a list

A stretch of a list is read, or other elements are written over it. Where a list is taken for a
ring, it is rotated so that the ring begins at its front; a stretch that does not go over the end
of the list is one of the rotated list too.
-/

namespace Pjsip.Base

variable {α : Type*}

/-- The `n` elements from index `pos` on. -/
def stretch (l : List α) (pos n : Nat) : List α := (l.drop pos).take n

/-- `new` is written over the elements from index `pos` on. -/
def overwrite (l : List α) (pos : Nat) (new : List α) : List α :=
  l.take pos ++ new ++ l.drop (pos + new.length)

theorem stretch_length {l : List α} {pos n : Nat} (inside : pos + n ≤ l.length) :
    (stretch l pos n).length = n := by
  rw [stretch, List.length_take, List.length_drop]
  omega

theorem overwrite_length {l : List α} {pos : Nat} {new : List α}
    (inside : pos + new.length ≤ l.length) : (overwrite l pos new).length = l.length := by
  simp only [overwrite, List.length_append, List.length_take, List.length_drop]
  omega

@[simp] theorem overwrite_nil (l : List α) (pos : Nat) : overwrite l pos [] = l := by
  simp [overwrite]

theorem stretch_append (front mid back : List α) {pos n : Nat} (at_ : pos = front.length)
    (size : n = mid.length) : stretch (front ++ (mid ++ back)) pos n = mid := by
  subst at_ size
  rw [stretch, List.drop_left, List.take_left]

theorem overwrite_append (front mid back new : List α) {pos : Nat} (at_ : pos = front.length)
    (size : new.length = mid.length) :
    overwrite (front ++ (mid ++ back)) pos new = front ++ (new ++ back) := by
  subst at_
  rw [overwrite, List.take_left, size, ← List.length_append, ← List.append_assoc front mid,
    List.drop_left, List.append_assoc]

theorem split_at (l : List α) (pos n : Nat) (inside : pos + n ≤ l.length) :
    ∃ front mid back, l = front ++ (mid ++ back) ∧ front.length = pos ∧ mid.length = n := by
  refine ⟨l.take pos, (l.drop pos).take n, (l.drop pos).drop n, ?_, ?_, ?_⟩
  · rw [List.take_append_drop, List.take_append_drop]
  · rw [List.length_take]
    omega
  · rw [List.length_take, List.length_drop]
    omega

theorem stretch_add (l : List α) (pos n m : Nat) :
    stretch l pos n ++ stretch l (pos + n) m = stretch l pos (n + m) := by
  rw [stretch, stretch, stretch, List.take_add, List.drop_drop]

theorem stretch_take (l : List α) (n : Nat) : stretch l 0 n = l.take n := rfl

theorem take_overwrite {l : List α} {pos : Nat} (new : List α) (inside : pos ≤ l.length) :
    (overwrite l pos new).take (pos + new.length) = l.take pos ++ new := by
  have size : (l.take pos ++ new).length = pos + new.length := by
    rw [List.length_append, List.length_take]
    omega
  rw [overwrite, ← size, List.take_left]

theorem overwrite_overwrite {l : List α} (pos : Nat) (first second : List α)
    (inside : pos + (first ++ second).length ≤ l.length) :
    overwrite (overwrite l pos first) (pos + first.length) second
      = overwrite l pos (first ++ second) := by
  rw [List.length_append] at inside
  obtain ⟨front, mid, back, rfl, place, size⟩ := split_at l pos
    (first.length + second.length) (by omega)
  obtain ⟨a, b, rfl, sizeA⟩ : ∃ a b, mid = a ++ b ∧ a.length = first.length :=
    ⟨mid.take first.length, mid.drop first.length, (List.take_append_drop ..).symm, by
      rw [List.length_take]
      omega⟩
  rw [List.length_append] at size
  have sizeB : b.length = second.length := by omega
  rw [overwrite_append front (a ++ b) back (first ++ second) place.symm (by
      rw [List.length_append, List.length_append]
      omega), List.append_assoc a,
    overwrite_append front a (b ++ back) first place.symm sizeA.symm, ← List.append_assoc front,
    overwrite_append (front ++ first) b back second (by
      rw [List.length_append]
      omega) sizeB.symm, List.append_assoc, List.append_assoc]

section Ring

variable {l : List α} {start k pos n : Nat}

/-- Place `k` of the ring that begins at index `start` is index `pos`. -/
structure Place (size start k pos : Nat) : Prop where
  before : start < size
  within : k ≤ size
  index : pos = if start + k < size then start + k else start + k - size

theorem rotate_eq (inside : start < l.length) : l.rotate start = l.drop start ++ l.take start :=
  List.rotate_eq_drop_append_take (Nat.le_of_lt inside)

theorem Place.shift {size i : Nat} (place : Place size start k pos) (inside : pos + i < size)
    (within : k + i ≤ size) : Place size start (k + i) (pos + i) := by
  obtain ⟨before, -, index⟩ := place
  refine ⟨before, within, ?_⟩
  split at index
  · rw [if_pos (by omega)]
    omega
  · rw [if_neg (by omega)]
    omega

theorem stretch_rotate (place : Place l.length start k pos) (ring : k + n ≤ l.length)
    (inside : pos + n ≤ l.length) : stretch l pos n = stretch (l.rotate start) k n := by
  obtain ⟨before, -, index⟩ := place
  obtain ⟨front, back, rfl, size⟩ : ∃ front back, l = front ++ back ∧ front.length = start :=
    ⟨l.take start, l.drop start, (List.take_append_drop ..).symm, by
      rw [List.length_take]
      omega⟩
  rw [rotate_eq before, ← size, List.drop_left, List.take_left]
  rw [← size] at index before
  simp only [List.length_append] at before ring inside index
  split at index
  · next low =>
      -- behind the first place
      obtain ⟨a, b, c, rfl, placeA, placeB⟩ := split_at back k n (by omega)
      rw [← List.append_assoc front, stretch_append (front ++ a) b c (by
          rw [List.length_append]
          omega) placeB.symm, List.append_assoc, List.append_assoc,
        stretch_append a b (c ++ front) placeA.symm placeB.symm]
  · next high =>
      obtain ⟨a, b, c, rfl, placeA, placeB⟩ := split_at front pos n (by omega)
      rw [List.append_assoc, List.append_assoc, stretch_append a b (c ++ back) placeA.symm
        placeB.symm, ← List.append_assoc back, stretch_append (back ++ a) b c (by
          rw [List.length_append]
          omega) placeB.symm]

theorem overwrite_rotate {new : List α} (place : Place l.length start k pos)
    (ring : k + new.length ≤ l.length) (inside : pos + new.length ≤ l.length) :
    (overwrite l pos new).rotate start = overwrite (l.rotate start) k new := by
  obtain ⟨before, -, index⟩ := place
  have after : start < (overwrite l pos new).length := by
    rw [overwrite_length inside]
    exact before
  rw [rotate_eq after, rotate_eq before]
  obtain ⟨front, back, rfl, size⟩ : ∃ front back, l = front ++ back ∧ front.length = start :=
    ⟨l.take start, l.drop start, (List.take_append_drop ..).symm, by
      rw [List.length_take]
      omega⟩
  rw [← size, List.drop_left, List.take_left]
  rw [← size] at index before
  simp only [List.length_append] at before ring inside index
  split at index
  · next low =>
      obtain ⟨a, b, c, rfl, placeA, placeB⟩ := split_at back k new.length (by omega)
      have left : overwrite (front ++ (a ++ (b ++ c))) pos new = front ++ (a ++ (new ++ c)) := by
        rw [← List.append_assoc front, overwrite_append (front ++ a) b c new (by
          rw [List.length_append]
          omega) placeB.symm, List.append_assoc]
      have right : overwrite ((a ++ (b ++ c)) ++ front) k new = (a ++ (new ++ c)) ++ front := by
        rw [List.append_assoc, List.append_assoc,
          overwrite_append a b (c ++ front) new placeA.symm placeB.symm, List.append_assoc,
          List.append_assoc]
      rw [left, right, List.drop_left, List.take_left]
  · next high =>
      obtain ⟨a, b, c, rfl, placeA, placeB⟩ := split_at front pos new.length (by omega)
      have same : (a ++ (b ++ c)).length = (a ++ (new ++ c)).length := by
        simp only [List.length_append, placeB]
      have left : overwrite ((a ++ (b ++ c)) ++ back) pos new = (a ++ (new ++ c)) ++ back := by
        rw [List.append_assoc, List.append_assoc,
          overwrite_append a b (c ++ back) new placeA.symm placeB.symm, List.append_assoc,
          List.append_assoc]
      have right : overwrite (back ++ (a ++ (b ++ c))) k new = back ++ (a ++ (new ++ c)) := by
        rw [← List.append_assoc back, overwrite_append (back ++ a) b c new (by
          rw [List.length_append]
          omega) placeB.symm, List.append_assoc]
      rw [left, right, same, List.drop_left, List.take_left]

end Ring

end Pjsip.Base
