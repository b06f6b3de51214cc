import Pjsip.Pjlib.Rbtree.Erase
import Pjsip.Pjlib.Rbtree.InsertBalance

/-!
# Removal and the balance

The colour that `pj_rbtree_erase` tests is the one the successor has just been
given, and the fix-up is not run at the null node. So the only repair that is ever
made in a balanced tree is that a red child becomes black, and `KeepsBalance` says
when that is enough.
-/

namespace Pjsip.Pjlib.Rbtree

open Pjsip.Base.LinkedTree

variable {α κ : Type} [DecidableEq α]

/-- The removal of `node`, which unlinks `succ`, needs no repair or gets it: `succ`
is red, or its place is taken by a child while `node` is black, or the tree is
empty afterwards. -/
def KeepsBalance (tree : PjRbtree α κ) (node succ : Ref α) : Prop :=
  tree.color succ = .red ∨
    tree.color node = .black ∧ spliceChild tree.links succ ≠ .null ∨ tree.size = 1

/-- `s` under the name of `x`. -/
def rename (x s e : α) : α := if e = x then s else e

/-- How a removal of `x` leaves the links: `s` is spliced out, and then stands for `x`. -/
structure Taken (tree : PjRbtree α κ) (x s : α) (d : Side) (c : Shape α) (p : Ref α)
    (fs : List (Frame α)) : Prop where
  found : spliced tree (.elem x) = some (.elem s)
  focus : Focus tree.links (.elem s) p (.join d c s .leaf) fs
  child : Focus (splice tree.links (.elem s)) (spliceChild tree.links (.elem s)) p c fs
  place : x = s ∨ OnPath fs x
  remains : Tree (unlink tree (.elem x) (.elem s)).links ((plug c fs).map (rename x s))

variable {tree : PjRbtree α κ} {xs : List α} {x s : α} {d : Side} {c : Shape α} {p : Ref α}
  {fs : List (Frame α)}

theorem map_rename {a b : Shape α} (nodup : (plug (.node a x b) fs).inorder.Nodup) (s : α) :
    (plug (.node a x b) fs).map (rename x s) = plug (.node a s b) fs := by
  obtain ⟨notA, notB, offPath⟩ := plug_nodup nodup
  have away : ∀ e, e ≠ x → rename x s e = e := by
    intro e other
    rw [rename, if_neg other]
  have left : a.map (rename x s) = a :=
    Shape.map_fixed fun e mem => away e (ne_of_mem_of_not_mem mem notA)
  have right : b.map (rename x s) = b :=
    Shape.map_fixed fun e mem => away e (ne_of_mem_of_not_mem mem notB)
  have above : fs.map (Frame.map (rename x s)) = fs := by
    apply Frame.map_fixed
    intro e onPath
    apply away
    intro same
    exact offPath (same ▸ onPath)
  rw [map_plug, Shape.map, left, right, above, rename, if_pos rfl]

theorem exists_taken (order : InOrder tree.links xs) (mem : x ∈ xs)
    (size : tree.size = xs.length) : ∃ s d c p fs, Taken tree x s d c p fs := by
  rcases spliced_spec order mem size with ⟨found, missing⟩ | ⟨s, pre, post, found, sx, rfl, missing⟩
  · obtain ⟨p, a, b, fs, focus, rfl⟩ := order.locate mem
    obtain ⟨d, c, parts, child⟩ := focus_splice focus missing
    rw [parts] at focus
    refine ⟨x, d, c, p, fs, found, focus, child, .inl rfl, ?_⟩
    have same : (plug c fs).map (rename x x) = plug c fs := by
      apply Shape.map_fixed
      intro e _
      unfold rename
      split
      · rename_i here
        exact here.symm
      · rfl
    rw [same, unlink_same]
    exact child.tree
  · obtain ⟨d, c, p, fs, focus, onPath, child, _, p', a, b, fs', shape, _, _, replaced⟩ :=
      unlink_promoted order sx missing
    refine ⟨s, d, c, p, fs, found, focus, child, .inr onPath, ?_⟩
    have nodup : (plug (.node a x b) fs').inorder.Nodup := shape ▸ child.tree.shape_nodup
    rw [← shape, map_rename nodup]
    exact replaced.tree

/-! ## The repair -/

/-- The colour a red child ends up with. -/
def childHue (tree : PjRbtree α κ) (x : α) : Color :=
  if tree.color (.elem x) = .black then .black else .red

variable {tree' : PjRbtree α κ}

/-- The colours that a balanced tree has left after a removal: the fix-up meets a red
node at once. -/
theorem fixErased_hue (taken : Taken tree x s d c p fs)
    (lone : c = .leaf ∨ ∃ e, c = .node .leaf e .leaf ∧ IsRed (tree.hue e))
    (returned : fixErased (unlink tree (.elem x) (.elem s)) (.elem s)
      (spliceChild tree.links (.elem s)) = some tree') :
    tree'.links = (unlink tree (.elem x) (.elem s)).links ∧ ∀ e, tree'.hue e =
        if e ∈ c.inorder then childHue tree x else if e = s then tree.hue x else tree.hue e := by
  have offChild : s ∉ c.inorder := by
    intro mem
    exact (nodup_join taken.focus.shape_nodup).2.2.1 mem
  have here : (unlink tree (.elem x) (.elem s)).color (.elem s) = tree.color (.elem x) := by
    rw [unlink_color, if_pos rfl]
  have hue : ∀ e, (unlink tree (.elem x) (.elem s)).hue e = if e = s then tree.hue x else tree.hue e := by
    intro e
    rw [PjRbtree.hue, unlink_color]
    simp [PjRbtree.hue]
  unfold fixErased at returned
  rw [here] at returned
  rcases lone with rfl | ⟨e, rfl, red⟩
  · -- no child: only the null node is written to
    have childless : spliceChild tree.links (.elem s) = .null := taken.child.sub
    rw [childless] at returned
    split at returned
    · cases returned
      refine ⟨rfl, ?_⟩
      intro e
      simp only [Shape.inorder, List.not_mem_nil, if_false]
      rw [← hue]
      simp [PjRbtree.hue]
    · cases returned
      refine ⟨rfl, ?_⟩
      intro e
      simp only [Shape.inorder, List.not_mem_nil, if_false]
      exact hue e
  · have child : spliceChild tree.links (.elem s) = .elem e := taken.child.sub.1
    have es : e ≠ s := by
      rintro rfl
      exact offChild (by simp [Shape.inorder])
    rw [child] at returned
    split at returned
    · rename_i black
      have settled : Settled (unlink tree (.elem x) (.elem s)) (.elem e) := by
        refine .inr ?_
        rw [unlink_color, if_neg (by simpa using es)]
        intro same
        exact not_isRed_black (same ▸ red)
      rw [if_pos (by simp), deleteFixup_done _ settled] at returned
      cases returned
      refine ⟨rfl, ?_⟩
      intro e'
      simp only [Shape.inorder, List.nil_append, List.mem_singleton, childHue, black, if_true]
      rw [← hue]
      simp [PjRbtree.hue]
    · rename_i notBlack
      cases returned
      refine ⟨rfl, ?_⟩
      intro e'
      simp only [Shape.inorder, List.nil_append, List.mem_singleton, childHue, notBlack, if_false]
      rw [hue]
      by_cases same : e' = e
      · subst same
        rw [if_neg es, if_pos rfl]
        exact red
      · rw [if_neg same]

theorem erased_map (taken : Taken tree x s d c p fs) (hue : ∀ e, tree'.hue e =
      if e ∈ c.inorder then childHue tree x else if e = s then tree.hue x else tree.hue e) :
    ((plug c fs).map (rename x s)).map tree'.hue =
      plug (c.map fun _ => childHue tree x) (fs.map (Frame.map tree.hue)) := by
  have offChild : s ∉ c.inorder := (nodup_join taken.focus.shape_nodup).2.2.1
  rw [Shape.map_map, map_plug]
  congr 1
  · apply Shape.map_congr
    intro e mem
    have ex : e ≠ x := by
      rintro rfl
      rcases taken.place with rfl | onPath
      · exact offChild mem
      · exact taken.child.disjoint mem onPath
    rw [rename, if_neg ex, hue, if_pos mem]
  · apply Frame.map_congr
    intro e onPath
    by_cases ex : e = x
    · rw [rename, if_pos ex, hue, if_neg offChild, if_pos rfl, ex]
    · have offShape : e ∉ c.inorder := fun mem => taken.child.disjoint mem onPath
      have es : e ≠ s := by
        rintro rfl
        exact taken.focus.disjoint (mem_join.mpr (.inr (.inl rfl))) onPath
      rw [rename, if_neg ex, hue, if_neg offShape, if_neg es]

theorem inBalance_erased_iff (taken : Taken tree x s d c p fs)
    (lone : c = .leaf ∨ ∃ e, c = .node .leaf e .leaf ∧ IsRed (tree.hue e))
    (returned : pjRbtreeErase tree (.elem x) = some tree') :
    InBalance tree' ↔ ∃ k, Balanced IsRed k
      (plug (c.map fun _ => childHue tree x) (fs.map (Frame.map tree.hue))) := by
  unfold pjRbtreeErase at returned
  simp only [taken.found, Option.map_eq_some_iff] at returned
  obtain ⟨fixed, fixedEq, rfl⟩ := returned
  obtain ⟨links, hue⟩ := fixErased_hue taken lone fixedEq
  have shape := erased_map taken hue
  constructor
  · intro balance
    obtain ⟨t, k, inTree, balanced⟩ := balance
    have inTree' : Tree (unlink tree (.elem x) (.elem s)).links t := links ▸ inTree
    obtain rfl := taken.remains.sub.shape_unique inTree'.sub
    exact ⟨k, shape ▸ balanced⟩
  · intro parts
    obtain ⟨k, balanced⟩ := parts
    refine ⟨(plug c fs).map (rename x s), k, ?_, ?_⟩
    · show Tree fixed.links _
      rw [links]
      exact taken.remains
    · rw [← shape] at balanced
      exact balanced

theorem taken_size [LinearOrder κ] (taken : Taken tree x s d c p fs) (ok : SearchTree tree xs) :
    tree.size = 1 + c.inorder.length + (before fs ++ after fs).length := by
  obtain ⟨t, inTree, rfl⟩ := ok.order
  obtain rfl := taken.focus.tree.sub.shape_unique inTree.sub
  rw [ok.size, plug_inorder]
  cases d <;> simp [Shape.join, Shape.inorder] <;> omega

/-- Removing `x` keeps the balance exactly where nothing is missing that a further
repair would give. -/
theorem pjRbtreeErase_balance [LinearOrder κ] (ok : SearchTree tree xs) (mem : x ∈ xs)
    (balance : InBalance tree) (returned : pjRbtreeErase tree (.elem x) = some tree') :
    ∃ succ, spliced tree (.elem x) = some succ ∧
      (InBalance tree' ↔ KeepsBalance tree (.elem x) succ) := by
  obtain ⟨s, d, c, p, fs, taken⟩ := exists_taken ok.order mem ok.size
  refine ⟨.elem s, taken.found, ?_⟩
  obtain ⟨t, h, inTree, whole⟩ := balance
  obtain rfl := taken.focus.tree.sub.shape_unique inTree.sub
  rw [map_plug, map_join] at whole
  have size := taken_size taken ok
  rcases balanced_lone_child whole with ⟨red, empty, fits⟩ | ⟨black, fits, child⟩
  · -- a red node without children goes
    obtain rfl := Shape.map_eq_leaf empty
    rw [inBalance_erased_iff taken (.inl rfl) returned]
    exact iff_of_true ⟨h, fits.plug .leaf id⟩ (.inl red)
  · have notRed : ¬ tree.color (.elem s) = .red := black
    rcases child with empty | ⟨b, single, red⟩
    · -- a black node without children goes: nothing takes its place
      obtain rfl := Shape.map_eq_leaf empty
      have childless : spliceChild tree.links (.elem s) = .null := taken.child.sub
      rw [inBalance_erased_iff taken (.inl rfl) returned]
      cases fs with
      | nil =>
        refine iff_of_true ⟨0, .leaf⟩ (.inr (.inr ?_))
        rw [size]
        rfl
      | cons f fs =>
        refine iff_of_false ?_ ?_
        · intro parts
          obtain ⟨k, balanced⟩ := parts
          exact fits.not_balanced .leaf (by omega) k balanced
        · intro keeps
          rcases keeps with red | ⟨_, notNull⟩ | alone
          · exact notRed red
          · exact notNull childless
          · have path := length_le_elements (f :: fs)
            simp only [List.length_cons] at path
            omega
    · -- its red child takes the place of a black node
      obtain ⟨e, rfl, same⟩ := Shape.map_eq_single single
      subst same
      have notNull : spliceChild tree.links (.elem s) ≠ .null := by
        have root : spliceChild tree.links (.elem s) = .elem e := taken.child.sub.1
        rw [root]
        simp
      rw [inBalance_erased_iff taken (.inr ⟨e, rfl, red⟩) returned]
      by_cases nodeBlack : tree.color (.elem x) = .black
      · refine iff_of_true ⟨h, fits.plug ?_ ?_⟩ (.inr (.inl ⟨nodeBlack, notNull⟩))
        · rw [Shape.map, childHue, if_pos nodeBlack]
          exact .black not_isRed_black .leaf .leaf
        · rw [Shape.map, childHue, if_pos nodeBlack]
          exact not_isRed_black
      · cases fs with
        | nil =>
          have top : x = s := taken.place.resolve_right (by simp [OnPath, before, after])
          have root : tree.links.root = .elem s := taken.focus.hangs.1
          have rootBlack := ok.rootBlack
          rw [root, ← top] at rootBlack
          exact absurd rootBlack nodeBlack
        | cons f fs =>
          refine iff_of_false ?_ ?_
          · intro parts
            obtain ⟨k, balanced⟩ := parts
            rw [Shape.map, childHue, if_neg nodeBlack] at balanced
            exact fits.not_balanced (.red rfl id id .leaf .leaf) (by omega) k balanced
          · intro keeps
            rcases keeps with red | ⟨nodeBlack', _⟩ | alone
            · exact notRed red
            · exact nodeBlack nodeBlack'
            · simp only [Shape.inorder, List.nil_append, List.length_singleton] at size
              omega

end Pjsip.Pjlib.Rbtree
