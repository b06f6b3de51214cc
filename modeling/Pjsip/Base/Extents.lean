import Mathlib.Data.List.Pairwise

/-!
# Extents that lie one behind the other

An extent is a stretch of memory, of one octet at least. A list of them adjoins from one place to
another when each of them begins where the one before it ends.
-/

namespace Pjsip.Base

structure Extent where
  start : Nat
  size : Nat
  deriving DecidableEq, Repr

def Extent.stop (extent : Extent) : Nat := extent.start + extent.size

def Extent.Apart (a b : Extent) : Prop := a.stop ≤ b.start ∨ b.stop ≤ a.start

instance : Std.Symm Extent.Apart where
  symm _ _ := Or.symm

inductive Adjoin : Nat → List Extent → Nat → Prop
  | nil (p : Nat) : Adjoin p [] p
  | cons (extent : Extent) (sized : 0 < extent.size) {extents : List Extent} {q : Nat}
      (rest : Adjoin extent.stop extents q) : Adjoin extent.start (extent :: extents) q

section Adjoin

variable {p q r : Nat} {first second : List Extent}

theorem adjoin_cons {extent : Extent} : Adjoin p (extent :: first) q
      ↔ extent.start = p ∧ 0 < extent.size ∧ Adjoin extent.stop first q := by
  constructor
  · intro adjoin
    cases adjoin with
    | cons _ sized rest => exact ⟨rfl, sized, rest⟩
  · rintro ⟨rfl, sized, rest⟩
    exact .cons extent sized rest

@[simp] theorem adjoin_nil : Adjoin p [] q ↔ p = q := by
  constructor
  · rintro ⟨⟩
    rfl
  · rintro rfl
    exact .nil p

theorem Adjoin.le (adjoin : Adjoin p first q) : p ≤ q := by
  induction adjoin with
  | nil => exact Nat.le_refl _
  | cons extent _ _ ih =>
    unfold Extent.stop at ih
    omega

theorem Adjoin.eq_nil (adjoin : Adjoin p first q) (ends : q ≤ p) : first = [] := by
  cases adjoin with
  | nil => rfl
  | cons extent sized rest =>
    have later := rest.le
    unfold Extent.stop at later
    omega

theorem Adjoin.append (one : Adjoin p first q) (two : Adjoin q second r) :
    Adjoin p (first ++ second) r := by
  induction one with
  | nil => exact two
  | cons extent sized _ ih => exact .cons extent sized (ih two)

theorem Adjoin.split (adjoin : Adjoin p (first ++ second) r) :
    ∃ q, Adjoin p first q ∧ Adjoin q second r := by
  induction first generalizing p with
  | nil => exact ⟨p, .nil p, adjoin⟩
  | cons extent first ih =>
    obtain ⟨rfl, sized, rest⟩ := adjoin_cons.1 adjoin
    obtain ⟨q, one, two⟩ := ih rest
    exact ⟨q, .cons extent sized one, two⟩

theorem Adjoin.last {extent : Extent} (adjoin : Adjoin p (first ++ [extent]) q) :
    Adjoin p first extent.start ∧ 0 < extent.size ∧ extent.stop = q := by
  obtain ⟨m, one, two⟩ := adjoin.split
  obtain ⟨rfl, sized, rest⟩ := adjoin_cons.1 two
  exact ⟨one, sized, adjoin_nil.1 rest⟩

theorem Adjoin.within (adjoin : Adjoin p first q) :
    ∀ extent ∈ first, p ≤ extent.start ∧ extent.stop ≤ q := by
  induction adjoin with
  | nil => nofun
  | @cons extent _ extents q rest ih =>
    have onwards := rest.le
    intro other inside
    rcases List.mem_cons.1 inside with rfl | later
    · exact ⟨Nat.le_refl _, rest.le⟩
    · have := ih other later
      unfold Extent.stop at *
      omega

theorem Adjoin.apart (adjoin : Adjoin p first q) : first.Pairwise Extent.Apart := by
  induction adjoin with
  | nil => exact .nil
  | cons extent _ rest ih =>
    exact List.pairwise_cons.2 ⟨fun other inside => .inl (rest.within other inside).1, ih⟩

theorem apart_append {m n : Nat} (one : Adjoin p first q) (two : Adjoin m second n)
    (before : n ≤ p) : (first ++ second).Pairwise Extent.Apart := by
  refine List.pairwise_append.2 ⟨one.apart, two.apart, fun a inA b inB => .inr ?_⟩
  have := (one.within a inA).1
  have := (two.within b inB).2
  omega

end Adjoin

end Pjsip.Base
