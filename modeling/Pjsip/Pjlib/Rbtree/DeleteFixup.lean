import Pjsip.Pjlib.Rbtree.Fixup

/-!
# The fix-up after a removal

A round either ends the loop, because the node is then red or the root, or goes up
one step of the path with the links as they were.
-/

namespace Pjsip.Pjlib.Rbtree

open Pjsip.Base.LinkedTree

variable {α κ : Type} [DecidableEq α]

/-- The loop of `delete_fixup` is over at this node. -/
def Settled (tree : PjRbtree α κ) (node : Ref α) : Prop :=
  node = tree.links.root ∨ tree.color node ≠ .black

variable {tree : PjRbtree α κ}

theorem deleteFixup_done (fuel : Nat) {node : Ref α}
    (settled : Settled tree node) : deleteFixup fuel tree node = some (tree.setColor node .black) := by
  unfold deleteFixup
  rw [if_neg]
  rintro ⟨notRoot, black⟩
  rcases settled with root | red
  · exact notRoot root
  · exact red black

variable {fs : List (Frame α)}

/-- The sibling rotated over the parent; the root is the sibling, or it was and is
above the parent. -/
theorem focus_lowered {L : Links α} {d : Side} {q y : α} {r p : Ref α} {s near far : Shape α}
    (focus : Focus L r p s (⟨d, q, .join d near y far⟩ :: fs)) :
    Focus (rotate d L (.elem q)) r (.elem q) s (⟨d, q, near⟩ :: ⟨d, y, far⟩ :: fs) ∧
      (plug s (⟨d, q, near⟩ :: ⟨d, y, far⟩ :: fs)).inorder =
        (plug s (⟨d, q, .join d near y far⟩ :: fs)).inorder ∧
      ((rotate d L (.elem q)).root = .elem y ∨
        (rotate d L (.elem q)).root = L.root ∧ L.root ≠ .elem q) := by
  have atParent : Focus L (.elem q) (L.parent (.elem q)) (.join d s q (.join d near y far)) fs := by
    have up := focus.up
    rwa [focus.hangs.1] at up
  have rotated := focus_rotate atParent
  have down := rotated.down.down
  have same := focus.sub.root_unique down.sub
  rw [← same] at down
  refine ⟨down, ?_, ?_⟩
  · rw [plug_inorder, plug_inorder]
    cases d <;> simp [before, after, Shape.join, Shape.inorder]
  · cases fs with
    | nil => exact .inl rotated.hangs.1
    | cons f fs =>
      refine .inr ⟨atParent.hangs.root_unique rotated.hangs, ?_⟩
      obtain ⟨e, onPath, root⟩ := atParent.hangs.root_onPath
      rw [root]
      rintro here
      cases here
      exact atParent.disjoint (mem_join.mpr (.inr (.inl rfl))) onPath

/-- After the first case the node hangs under the same parent, which is the root
or has a black root above it. If anything was rotated, the parent is red. -/
theorem settleSibling_spec {x : α} {p : Ref α} {s : Shape α} {f : Frame α}
    (focus : Focus tree.links (.elem x) p s (f :: fs))
    (notRoot : .elem x ≠ tree.links.root) (rootOk : RootOk tree (.elem x)) :
    ∃ tree' other fs', settleSibling f.side tree (.elem x) =
        (tree', tree'.links.child f.side.opp (.elem f.elem)) ∧
      Focus tree'.links (.elem x) (.elem f.elem) s (⟨f.side, f.elem, other⟩ :: fs') ∧
      (plug s (⟨f.side, f.elem, other⟩ :: fs')).inorder = (plug s (f :: fs)).inorder ∧
      RootOk tree' (.elem f.elem) ∧ tree'.key = tree.key ∧ tree'.size = tree.size ∧
      (tree'.links = tree.links ∧ fs' = fs ∧ other = f.other ∨
        tree'.color (.elem f.elem) = .red) := by
  obtain ⟨d, q, other⟩ := f
  have parentEq : tree.links.parent (.elem x) = .elem q :=
    (focus_parent focus).trans focus.hangs.1
  have here := focus.hangs.1
  subst here
  have rootOk' : RootOk tree (.elem q) := rootOk.imp (fun same => absurd same.symm notRoot) id
  unfold settleSibling
  simp only [parentEq]
  split
  · rename_i red
    have sibling : Sub tree.links (.elem q) (tree.links.child d.opp (.elem q)) other :=
      focus.hangs.2.2.1
    cases other with
    | leaf =>
      -- a red null node: nothing is rotated
      have null : tree.links.child d.opp (.elem q) = .null := sibling
      have still : rotate d tree.links (.elem q) = tree.links := rotate_none null
      refine ⟨_, .leaf, fs, Prod.ext rfl ?_, ?_, rfl, ?_, rfl, rfl, .inr ?_⟩
      · simp [still, parentEq]
      · simpa [still] using focus
      · rcases rootOk' with top | black
        · exact .inl (by simpa [still] using top)
        · by_cases top : tree.links.root = .elem q
          · exact .inl (by simpa [still] using top)
          · exact .inr (by simp [still, top, black])
      · simp
    | node l y r =>
      obtain ⟨near, far, shape⟩ := exists_join d l y r
      rw [shape] at focus sibling ⊢
      obtain ⟨temp, _⟩ := sub_join.mp sibling
      obtain ⟨moved, same, root⟩ := focus_lowered focus
      refine ⟨_, near, ⟨d, y, far⟩ :: fs, Prod.ext rfl ?_, moved, same, ?_, rfl, rfl, .inr ?_⟩
      · simp [focus_parent moved]
      · have apart : y ≠ q := by
          rintro rfl
          exact focus.distinct.cons.2.2.1 (mem_join.mpr (.inr (.inl rfl)))
        refine .inr ?_
        rcases root with top | ⟨top, notParent⟩
        · simp [top, temp, apart]
        · have black := rootOk'.resolve_left notParent
          simp [top, temp, notParent, black]
      · simp
  · exact ⟨tree, other, fs, rfl, focus, rfl, rootOk', rfl, rfl, .inl ⟨rfl, rfl, rfl⟩⟩

/-- The last two cases rotate twice at most. -/
theorem settleParent_spec {xs : List α} {x : α}
    (order : InOrder tree.links xs) (mem : x ∈ xs) (d : Side) {temp : Ref α}
    (inside : ∀ e, temp = .elem e → e ∈ xs) :
    InOrder (settleParent d tree (.elem x) temp).links xs ∧
      (settleParent d tree (.elem x) temp).key = tree.key ∧
      (settleParent d tree (.elem x) temp).size = tree.size := by
  unfold settleParent
  split
  rename_i tree' temp' first
  have step : InOrder tree'.links xs ∧ tree'.key = tree.key ∧ tree'.size = tree.size := by
    split at first
    · cases first
      exact ⟨order.rotate d.opp inside, rfl, rfl⟩
    · cases first
      exact ⟨order, rfl, rfl⟩
  obtain ⟨order', key, size⟩ := step
  refine ⟨?_, key, size⟩
  exact order'.rotate d (order'.links mem).1

/-- What one round of the removal fix-up does: it recolours the sibling and moves
the node to its parent, or it ends the loop. -/
theorem deleteFixupRound_spec {x : α} {p : Ref α} {s : Shape α} {f : Frame α}
    (focus : Focus tree.links (.elem x) p s (f :: fs))
    (notRoot : .elem x ≠ tree.links.root) (rootOk : RootOk tree (.elem x)) :
    ∃ tree' node, deleteFixupRound tree (.elem x) = (tree', node) ∧
      tree'.key = tree.key ∧ tree'.size = tree.size ∧ RootOk tree' node ∧
      (node = .elem f.elem ∧ tree'.links = tree.links ∨
        Settled tree' node ∧ InOrder tree'.links (plug s (f :: fs)).inorder) := by
  have parentEq : tree.links.parent (.elem x) = p := focus_parent focus
  have side : (if tree.links.child .left p = .elem x then Side.left else .right) = f.side := by
    have test := side_test focus .left
    split
    · rename_i left
      exact (test.mp left).symm
    · rename_i right
      cases same : f.side with
      | left => exact absurd (test.mpr same) right
      | right => rfl
  obtain ⟨tree', other, fs', settled, focus', same, rootOk', key, size, moved⟩ :=
    settleSibling_spec focus notRoot rootOk
  have order' := InOrder.of_focus focus'
  rw [same] at order'
  unfold deleteFixupRound
  simp only [parentEq, side, settled]
  split
  · -- the sibling is not the root: it hangs beside the path
    have parentEq' := focus_parent focus'
    refine ⟨_, _, rfl, key, size, ?_, ?_⟩
    · rcases rootOk' with top | black
      · exact .inl (by simpa [parentEq'] using top)
      · by_cases top : tree'.links.root = .elem f.elem
        · exact .inl (by simpa [parentEq'] using top)
        · have beside := focus'.sibling_ne_root top
          exact .inr (by simp [beside, black])
    · rcases moved with ⟨links, _⟩ | red
      · exact .inl ⟨parentEq', links⟩
      · refine .inr ⟨.inr ?_, order'⟩
        simp [parentEq', red]
  · have inside : ∀ e, tree'.links.child f.side.opp (.elem f.elem) = .elem e →
        e ∈ (plug s (f :: fs)).inorder := by
      intro e here
      have inOther : e ∈ other.inorder := focus'.hangs.2.2.1.root_mem here
      rw [← same]
      exact mem_plug.mpr (.inr (onPath_cons.mpr (.inr (.inl inOther))))
    obtain ⟨order'', key', size'⟩ := settleParent_spec order'
      (mem_plug.mpr (.inl (focus.sub.root_mem rfl))) f.side inside
    refine ⟨_, _, rfl, key'.trans key, size'.trans size, .inl rfl, .inr ⟨.inl rfl, order''⟩⟩

/-- The last steps: the node and the null node are made black. -/
theorem restored_settled {tree' : PjRbtree α κ} {xs : List α} {node : Ref α}
    (order : InOrder tree'.links xs) (rootOk : RootOk tree' node) (key : tree'.key = tree.key)
    (size : tree'.size = tree.size) :
    Restored tree xs ((tree'.setColor node .black).setColor .null .black) := by
  refine ⟨order, ?_, by simp, key, size⟩
  rcases rootOk with top | black
  · simp [top]
  · simp [black]

theorem deleteFixup_spec {fuel : Nat} {x : α} {p : Ref α} {s : Shape α}
    (focus : Focus tree.links (.elem x) p s fs)
    (rootOk : RootOk tree (.elem x)) (enough : fs.length ≤ fuel) :
    ∃ tree', deleteFixup fuel tree (.elem x) = some tree' ∧
      Restored tree (plug s fs).inorder (tree'.setColor .null .black) := by
  induction fuel generalizing tree x p s fs with
  | zero =>
    have top : fs = [] := List.length_eq_zero_iff.mp (Nat.le_zero.mp enough)
    subst top
    rw [deleteFixup_done 0 (.inl focus.hangs.1.symm)]
    exact ⟨_, rfl, restored_settled (.of_focus focus) rootOk rfl rfl⟩
  | succ fuel ih =>
    by_cases settled : Settled tree (.elem x)
    · rw [deleteFixup_done _ settled]
      exact ⟨_, rfl, restored_settled (.of_focus focus) rootOk rfl rfl⟩
    · have going : .elem x ≠ tree.links.root ∧ tree.color (.elem x) = .black := by
        simpa [Settled] using settled
      cases fs with
      | nil => exact absurd focus.hangs.1.symm going.1
      | cons f fs =>
        obtain ⟨tree', node, round, key, size, rootOk', rest⟩ :=
          deleteFixupRound_spec focus going.1 rootOk
        have unrolled : deleteFixup (fuel + 1) tree (.elem x) = deleteFixup fuel tree' node := by
          rw [deleteFixup, if_pos going, round]
        rw [unrolled]
        rcases rest with ⟨rfl, links⟩ | ⟨ended, order⟩
        · have up : Focus tree'.links (.elem f.elem) (tree'.links.parent (.elem f.elem))
              (f.close s) fs := by
            rw [links, ← focus.hangs.1]
            exact focus.up
          obtain ⟨tree'', done, restored⟩ := ih up rootOk' (Nat.le_of_succ_le_succ enough)
          exact ⟨tree'', done, restored.order, restored.rootBlack, restored.nullBlack,
            restored.key.trans key, restored.size.trans size⟩
        · rw [deleteFixup_done fuel ended]
          exact ⟨_, rfl, restored_settled order rootOk' key size⟩

end Pjsip.Pjlib.Rbtree
