import Mathlib.Order.Lattice
import Pjsip.Pjlib.Rbtree.Fixup

/-!
# Searching for a key

The two descents, on a tree whose keys increase. The comparison function of the
caller decides a strict total order of the keys.
-/

namespace Pjsip.Pjlib.Rbtree

open Pjsip.Base.LinkedTree

/-- `comp` answers by sign how its first key stands to the second. -/
structure Compares {κ : Type} [LinearOrder κ] (comp : κ → κ → Int) : Prop where
  less : ∀ a b, comp a b < 0 ↔ a < b
  equal : ∀ a b, comp a b = 0 ↔ a = b

/-- The keys increase along the list. -/
def Increasing {α κ : Type} [LT κ] (key : α → κ) (xs : List α) : Prop :=
  xs.Pairwise fun a b => key a < key b

section Increasing

variable {α κ : Type} [LinearOrder κ] {key : α → κ} {d : Side} {near far : Shape α} {a : α}

theorem Increasing.join (increasing : Increasing key (Shape.join d near a far).inorder) :
    Increasing key near.inorder ∧ Increasing key far.inorder := by
  cases d
  · obtain ⟨first, last, _⟩ := List.pairwise_append.mp increasing
    exact ⟨first, (List.pairwise_cons.mp last).2⟩
  · obtain ⟨first, last, _⟩ := List.pairwise_append.mp increasing
    exact ⟨(List.pairwise_cons.mp last).2, first⟩

theorem Increasing.nodup {xs : List α} (increasing : Increasing key xs) : xs.Nodup :=
  increasing.imp fun less => by
    rintro rfl
    exact lt_irrefl _ less

theorem Increasing.around {l r : Shape α} (increasing : Increasing key (Shape.node l a r).inorder) :
    (∀ e ∈ l.inorder, key e < key a) ∧ ∀ e ∈ r.inorder, key a < key e := by
  obtain ⟨_, last, across⟩ := List.pairwise_append.mp increasing
  exact ⟨fun e mem => across e mem a (by simp), (List.pairwise_cons.mp last).1⟩

theorem Increasing.narrow {l r : Shape α} (increasing : Increasing key (Shape.node l a r).inorder)
    (k : κ) (e : α) :
    (k < key a → (e ∈ (Shape.node l a r).inorder ∧ key e = k ↔ e ∈ l.inorder ∧ key e = k)) ∧
      (k = key a → (e ∈ (Shape.node l a r).inorder ∧ key e = k ↔ e = a)) ∧
      (key a < k → (e ∈ (Shape.node l a r).inorder ∧ key e = k ↔ e ∈ r.inorder ∧ key e = k)) := by
  obtain ⟨below, above⟩ := increasing.around
  have split : e ∈ (Shape.node l a r).inorder ↔ e ∈ l.inorder ∨ e = a ∨ e ∈ r.inorder := by
    simp [Shape.inorder]
  rw [split]
  refine ⟨fun less => ⟨?_, ?_⟩, fun same => ⟨?_, ?_⟩, fun greater => ⟨?_, ?_⟩⟩
  · rintro ⟨mem | rfl | mem, rfl⟩
    · exact ⟨mem, rfl⟩
    · exact absurd less (lt_irrefl _)
    · exact absurd less (above e mem).asymm
  · rintro ⟨mem, here⟩
    exact ⟨.inl mem, here⟩
  · rintro ⟨mem | rfl | mem, rfl⟩
    · exact absurd same (below e mem).ne
    · rfl
    · exact absurd same (above e mem).ne'
  · rintro rfl
    exact ⟨.inr (.inl rfl), same.symm⟩
  · rintro ⟨mem | rfl | mem, rfl⟩
    · exact absurd greater (below e mem).asymm
    · exact absurd greater (lt_irrefl _)
    · exact ⟨mem, rfl⟩
  · rintro ⟨mem, here⟩
    exact ⟨.inr (.inr mem), here⟩

end Increasing

variable {α κ : Type} [LinearOrder κ] {comp : κ → κ → Int} {tree : PjRbtree α κ} {k : κ}

theorem findLoop_spec (compares : Compares comp) {fuel : Nat} {p r : Ref α} {s : Shape α}
    (sub : Sub tree.links p r s) (increasing : Increasing tree.key s.inorder)
    (enough : s.depth ≤ fuel) :
    ∃ found, findLoop comp tree k fuel r = some found ∧
      ∀ e, found = some e ↔ e ∈ s.inorder ∧ tree.key e = k := by
  induction s generalizing p r fuel with
  | leaf =>
    cases sub
    exact ⟨none, by cases fuel <;> rfl, by simp [Shape.inorder]⟩
  | node l a t ihl ihr =>
    obtain ⟨rfl, _, left, right⟩ := sub
    obtain ⟨incL, incR⟩ := Increasing.join (d := .left) increasing
    rw [Shape.depth] at enough
    obtain ⟨fuel, rfl⟩ : ∃ n, fuel = n + 1 := ⟨fuel - 1, by omega⟩
    unfold findLoop
    simp only [compares.less, compares.equal]
    rcases lt_trichotomy k (tree.key a) with less | same | greater
    · have room : l.depth ≤ fuel := by omega
      obtain ⟨found, search, spec⟩ := ihl left incL room
      refine ⟨found, ?_, fun e => (spec e).trans ((increasing.narrow k e).1 less).symm⟩
      rw [if_neg less.ne, if_pos less]
      exact search
    · refine ⟨some a, by rw [if_pos same], fun e => ?_⟩
      rw [(increasing.narrow k e).2.1 same, Option.some.injEq, eq_comm]
    · have room : t.depth ≤ fuel := by omega
      obtain ⟨found, search, spec⟩ := ihr right incR room
      refine ⟨found, ?_, fun e => (spec e).trans ((increasing.narrow k e).2.2 greater).symm⟩
      rw [if_neg greater.ne', if_neg greater.asymm]
      exact search

/-- Keys before the focus are smaller than `k`, those after it greater. -/
def Brackets (key : α → κ) (k : κ) (fs : List (Frame α)) : Prop :=
  (∀ e ∈ before fs, key e < k) ∧ ∀ e ∈ after fs, k < key e

/-- The last comparison tells on which side of its parent the focus hangs. -/
def LastSide (fs : List (Frame α)) (rv : Int) : Prop :=
  ∀ f ∈ fs.head?, f.side = if rv < 0 then .left else .right

/-- The search ends at an equal key, or at an empty place with the smaller keys
before it and the greater ones after it. -/
theorem findPlace_spec (compares : Compares comp) {fuel : Nat} {p r : Ref α} {s : Shape α}
    {fs : List (Frame α)} {rv : Int} (focus : Focus tree.links r p s fs)
    (increasing : Increasing tree.key (plug s fs).inorder) (brackets : Brackets tree.key k fs)
    (last : LastSide fs rv) (enough : s.inorder.length ≤ fuel) :
    findPlace comp tree k fuel r p rv = some .taken ∧ (∃ e ∈ s.inorder, tree.key e = k) ∨
      ∃ p' fs' rv', findPlace comp tree k fuel r p rv = some (.free p' rv') ∧
        Focus tree.links .null p' .leaf fs' ∧ (plug .leaf fs').inorder = (plug s fs).inorder ∧
        Brackets tree.key k fs' ∧ LastSide fs' rv' := by
  induction s generalizing p r fs rv fuel with
  | leaf =>
    have null : r = .null := focus.sub
    subst null
    exact .inr ⟨p, fs, rv, by cases fuel <;> rfl, focus, rfl, brackets, last⟩
  | node l a t ihl ihr =>
    obtain ⟨rfl, _⟩ := focus.sub
    simp only [Shape.inorder, List.length_append, List.length_cons] at enough
    obtain ⟨fuel, rfl⟩ : ∃ n, fuel = n + 1 := ⟨fuel - 1, by omega⟩
    have here : Increasing tree.key (Shape.node l a t).inorder := by
      rw [plug_inorder] at increasing
      exact (List.pairwise_append.mp (List.pairwise_append.mp increasing).1).2.1
    obtain ⟨below, above⟩ := here.around
    unfold findPlace
    simp only [compares.less, compares.equal]
    rcases lt_trichotomy k (tree.key a) with less | same | greater
    · have down : Focus tree.links (tree.links.child .left (.elem a)) (.elem a) l
          (⟨.left, a, t⟩ :: fs) := Focus.down (d := .left) focus
      rw [if_neg less.ne, if_pos less]
      have brackets' : Brackets tree.key k (⟨.left, a, t⟩ :: fs) := by
        refine ⟨by simpa [before] using brackets.1, ?_⟩
        intro e mem
        simp only [after, List.mem_append, List.mem_cons] at mem
        rcases mem with (rfl | mem) | mem
        · exact less
        · exact less.trans (above e mem)
        · exact brackets.2 e mem
      have last' : LastSide (⟨.left, a, t⟩ :: fs) (comp k (tree.key a)) := by
        intro f head
        cases head
        rw [if_pos ((compares.less _ _).mpr less)]
      have room : l.inorder.length ≤ fuel := by omega
      rcases ihl down increasing brackets' last' room with ⟨taken, e, mem, same⟩ | free
      · exact .inl ⟨taken, e, by simp [Shape.inorder, mem], same⟩
      · exact .inr free
    · rw [if_pos same]
      exact .inl ⟨rfl, a, by simp [Shape.inorder], same.symm⟩
    · have down : Focus tree.links (tree.links.child .right (.elem a)) (.elem a) t
          (⟨.right, a, l⟩ :: fs) := Focus.down (d := .right) focus
      rw [if_neg greater.ne', if_neg greater.asymm]
      have brackets' : Brackets tree.key k (⟨.right, a, l⟩ :: fs) := by
        refine ⟨?_, by simpa [after] using brackets.2⟩
        intro e mem
        simp only [before, List.mem_append, List.mem_singleton] at mem
        rcases mem with mem | mem | rfl
        · exact brackets.1 e mem
        · exact (below e mem).trans greater
        · exact greater
      have last' : LastSide (⟨.right, a, l⟩ :: fs) (comp k (tree.key a)) := by
        intro f head
        cases head
        rw [if_neg fun less => greater.asymm ((compares.less _ _).mp less)]
      have room : t.inorder.length ≤ fuel := by omega
      rcases ihr down increasing brackets' last' room with ⟨taken, e, mem, same⟩ | free
      · exact .inl ⟨taken, e, by simp [Shape.inorder, mem], same⟩
      · exact .inr free

end Pjsip.Pjlib.Rbtree
