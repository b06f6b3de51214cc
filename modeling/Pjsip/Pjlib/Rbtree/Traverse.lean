import Pjsip.Pjlib.Rbtree.Fixup

/-!
# First, last, next and previous

The loops of the traversal functions, on any tree with its elements in order. The
fuel they are given is the size of the tree, and it is enough.
-/

namespace Pjsip.Pjlib.Rbtree

open Pjsip.Base.LinkedTree

variable {α κ : Type} [DecidableEq α]

variable {d : Side}

theorem extreme_spec {L : Links α} {fuel : Nat} {p r : Ref α} {s : Shape α}
    (sub : Sub L p r s) (nullLeaf : NullLeaf L) (enough : s.inorder.length ≤ fuel) :
    ∃ e, extreme d L fuel r = some e ∧ toNode e = endOf d s.inorder ∧ L.child d e = .null := by
  induction fuel generalizing p r s with
  | zero =>
    cases s with
    | leaf =>
      cases sub
      refine ⟨.null, ?_, ?_, nullLeaf d⟩
      · unfold extreme
        rw [if_neg (not_not.mpr (nullLeaf d))]
      · cases d <;> rfl
    | node l a r => simp [Shape.inorder] at enough
  | succ fuel ih =>
    cases s with
    | leaf =>
      cases sub
      refine ⟨.null, ?_, ?_, nullLeaf d⟩
      · unfold extreme
        rw [if_neg (not_not.mpr (nullLeaf d))]
      · cases d <;> rfl
    | node l a r =>
      obtain ⟨near, far, shape⟩ := exists_join d l a r
      rw [shape] at sub enough ⊢
      obtain ⟨rfl, _, below, _⟩ := sub_join.mp sub
      have shorter : near.inorder.length ≤ fuel := by
        cases d <;> simp [Shape.join, Shape.inorder] at enough <;> omega
      unfold extreme
      rcases below.root_cases with ⟨null, rfl⟩ | ⟨b, mem, root⟩
      · refine ⟨.elem a, ?_, ?_, null⟩
        · rw [if_neg (not_not.mpr null)]
        · rw [endOf_join]
          cases d <;> rfl
      · obtain ⟨e, found, same, last⟩ := ih below shorter
        refine ⟨e, ?_, ?_, last⟩
        · rw [if_pos (by rw [root]; simp)]
          exact found
        · rw [same, endOf_join]
          have below' : (endOf d near.inorder).isSome := by
            cases d <;> simp [endOf, List.ne_nil_of_mem mem]
          rw [Option.or_of_isSome below']

theorem climb_spec {L : Links α} {fuel : Nat} {x : α} {p : Ref α} {s : Shape α}
    {fs : List (Frame α)} (focus : Focus L (.elem x) p s fs) (enough : fs.length ≤ fuel) :
    ∃ e, climb d L fuel (.elem x) p = some e ∧ toNode e = endOf d.opp (beyond d fs) := by
  induction fuel generalizing x p s fs with
  | zero =>
    obtain rfl : fs = [] := List.length_eq_zero_iff.mp (Nat.le_zero.mp enough)
    refine ⟨.null, ?_, ?_⟩
    · rw [focus.hangs.2]
      unfold climb
      rw [if_neg (by simp)]
    · cases d <;> rfl
  | succ fuel ih =>
    cases fs with
    | nil =>
      refine ⟨.null, ?_, ?_⟩
      · rw [focus.hangs.2]
        unfold climb
        rw [if_neg (by simp)]
      · cases d <;> rfl
    | cons f fs =>
      have test := side_test focus d
      obtain rfl := focus.hangs.1
      rw [beyond_cons]
      unfold climb
      by_cases side : f.side = d
      · rw [if_pos ⟨by simp, test.mpr side⟩, if_pos side]
        exact ih focus.up (Nat.le_of_succ_le_succ enough)
      · rw [if_neg fun both => side (test.mp both.2), if_neg side]
        exact ⟨_, rfl, rfl⟩

/-- The elements from one end to the other, towards side `d`. -/
def towards : Side → List α → List α
  | .left, xs => xs.reverse
  | .right, xs => xs

section Walk

variable {tree : PjRbtree α κ} {xs : List α}

theorem outermost_spec (order : InOrder tree.links xs) (size : tree.size = xs.length) (d : Side) :
    outermost d.opp tree = some (towards d xs).head? := by
  obtain ⟨s, inTree, rfl⟩ := order
  obtain ⟨e, found, same, _⟩ :=
    extreme_spec (d := d.opp) inTree.sub inTree.nullLeaf (Nat.le_of_eq size.symm)
  unfold outermost
  rw [found, Option.map_some, same]
  cases d <;> simp [endOf, towards, Side.opp]

theorem neighbour_focus {x : α} {p : Ref α} {near far : Shape α} {fs : List (Frame α)}
    (focus : Focus tree.links (.elem x) p (.join d near x far) fs)
    (size : tree.size = (plug (.join d near x far) fs).inorder.length) :
    neighbour d tree (.elem x) =
      some ((endOf d.opp near.inorder).or (endOf d.opp (beyond d fs))) := by
  have lengths : near.inorder.length ≤ tree.size ∧ fs.length ≤ tree.size := by
    have path := length_le_elements fs
    rw [size, plug_inorder]
    simp only [List.length_append] at path ⊢
    constructor
    · cases d <;> simp [Shape.join, Shape.inorder] <;> omega
    · omega
  obtain ⟨_, parent, below, _⟩ := sub_join.mp focus.sub
  unfold neighbour
  rcases below.root_cases with ⟨null, rfl⟩ | ⟨b, mem, root⟩
  · obtain ⟨e, found, same⟩ := climb_spec (d := d) focus lengths.2
    rw [if_neg (not_not.mpr null), parent, found, Option.map_some, same]
    cases d <;> rfl
  · obtain ⟨e, found, same, _⟩ := extreme_spec (d := d.opp) below focus.nullLeaf lengths.1
    have within : (endOf d.opp near.inorder).isSome := by
      cases d <;> simp [endOf, Side.opp, List.ne_nil_of_mem mem]
    rw [if_pos (by rw [root]; simp), found, Option.map_some, same, Option.or_of_isSome within]

theorem neighbour_spec (order : InOrder tree.links xs) (size : tree.size = xs.length)
    {pre post : List α} {x : α} (here : towards d xs = pre ++ x :: post) :
    neighbour d tree (.elem x) = some post.head? := by
  have mem : x ∈ xs := by
    have listed : x ∈ towards d xs := by simp [here]
    cases d
    · exact List.mem_reverse.mp listed
    · exact listed
  obtain ⟨p, a, b, fs, focus, rfl⟩ := order.locate mem
  cases d with
  | right =>
    have moved : Focus tree.links (.elem x) p (.join .right b x a) fs := focus
    rw [neighbour_focus moved size, ← (focus.place here).2]
    simp [endOf, beyond, Side.opp]
  | left =>
    have moved : Focus tree.links (.elem x) p (.join .left a x b) fs := focus
    have back : (plug (.node a x b) fs).inorder = post.reverse ++ x :: pre.reverse := by
      rw [← List.reverse_reverse (plug (.node a x b) fs).inorder]
      rw [show (plug (.node a x b) fs).inorder.reverse = pre ++ x :: post from here]
      simp
    rw [neighbour_focus moved size, ← List.getLast?_reverse, ← (focus.place back).1]
    simp [endOf, beyond, Side.opp]

theorem enumerate_spec (order : InOrder tree.links xs) (size : tree.size = xs.length)
    {pre post : List α} (here : towards d xs = pre ++ post) {fuel : Nat}
    (enough : post.length ≤ fuel) : enumerate d tree fuel post.head? = some post := by
  induction post generalizing pre fuel with
  | nil => cases fuel <;> rfl
  | cons x post ih =>
    obtain ⟨fuel, rfl⟩ : ∃ n, fuel = n + 1 :=
      ⟨fuel - 1, by simp only [List.length_cons] at enough; omega⟩
    have next := neighbour_spec order size here
    have onwards : towards d xs = (pre ++ [x]) ++ post := by
      simpa using here
    have rest := ih onwards (Nat.le_of_succ_le_succ enough)
    show (neighbour d tree (.elem x)).bind _ = _
    rw [next, Option.bind_some, rest, Option.map_some]

end Walk

end Pjsip.Pjlib.Rbtree
