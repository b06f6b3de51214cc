import Mathlib.Data.List.Basic

/-!
# Texts joined by a separator

Texts are joined one after the other with a separator between them. What comes out says what
stood between the separators, and no more: a separator inside a text cannot be told from one
between two texts.
-/

namespace Pjsip.Base

variable {α : Type*}

theorem map_joined {β : Type*} (f : α → β) (sep : α) (parts : List (List α)) :
    ([sep].intercalate parts).map f = [f sep].intercalate (parts.map (List.map f)) := by
  induction parts with
  | nil => rfl
  | cons part parts ih =>
    cases parts with
    | nil => simp
    | cons next parts =>
      rw [List.intercalate_cons_cons, List.map_append, List.map_append, ih]
      simp [List.intercalate_cons_cons]

variable [BEq α] [LawfulBEq α] {sep : α} {parts parts' : List (List α)}

/-- What stands between the separators. -/
def pieces (sep : α) (parts : List (List α)) : List (List α) := parts.flatMap (List.splitOn sep)

theorem splitOn_joined (nonempty : parts ≠ []) :
    List.splitOn sep ([sep].intercalate parts) = pieces sep parts := by
  induction parts with
  | nil => exact absurd rfl nonempty
  | cons part parts ih =>
    cases parts with
    | nil => simp [pieces]
    | cons next parts =>
      rw [List.intercalate_cons_cons, List.append_assoc, List.singleton_append,
        List.splitOn_append_cons_self, ih (List.cons_ne_nil next parts)]
      rfl

theorem joined_inj (nonempty : parts ≠ []) (some' : parts' ≠ []) :
    [sep].intercalate parts = [sep].intercalate parts' ↔ pieces sep parts = pieces sep parts' := by
  rw [← splitOn_joined nonempty, ← splitOn_joined some']
  constructor
  · exact congrArg _
  · intro same
    have joined := congrArg [sep].intercalate same
    rwa [List.intercalate_splitOn, List.intercalate_splitOn] at joined

theorem pieces_plain (plain : ∀ part ∈ parts, sep ∉ part) : pieces sep parts = parts := by
  induction parts with
  | nil => rfl
  | cons part parts ih =>
    have first := List.splitOn_eq_singleton (plain part List.mem_cons_self)
    have rest := ih fun other mem => plain other (List.mem_cons_of_mem part mem)
    rw [pieces, List.flatMap_cons, first]
    exact congrArg (part :: ·) rest

theorem append_last_inj {first first' last last' : List α} (plain : sep ∉ last)
    (plain' : sep ∉ last') :
    first ++ sep :: last = first' ++ sep :: last' ↔ first = first' ∧ last = last' := by
  constructor
  · intro same
    have reversed := congrArg List.reverse same
    simp only [List.reverse_append, List.reverse_cons, List.append_assoc,
      List.singleton_append] at reversed
    have cut : ∀ (last first : List α), sep ∉ last →
        (last ++ sep :: first).splitOn sep = last :: first.splitOn sep := by
      intro last first plain
      rw [List.splitOn_append_cons_self, List.splitOn_eq_singleton plain, List.singleton_append]
    have split := congrArg (List.splitOn sep) reversed
    rw [cut _ _ (mt List.mem_reverse.1 plain), cut _ _ (mt List.mem_reverse.1 plain')] at split
    obtain ⟨same, rest⟩ := List.cons.inj split
    have before := congrArg [sep].intercalate rest
    rw [List.intercalate_splitOn, List.intercalate_splitOn] at before
    exact ⟨List.reverse_injective before, List.reverse_injective same⟩
  · rintro ⟨rfl, rfl⟩
    rfl

end Pjsip.Base
