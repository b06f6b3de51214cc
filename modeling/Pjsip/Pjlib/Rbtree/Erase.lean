import Pjsip.Pjlib.Rbtree.DeleteFixup
import Pjsip.Pjlib.Rbtree.Insert
import Pjsip.Pjlib.Rbtree.Traverse

/-!
# Removal

The node unlinked is the one to be removed, or its successor, which then takes its
place. Either way one element leaves the order.
-/

namespace Pjsip.Pjlib.Rbtree

open Pjsip.Base.LinkedTree

variable {α κ : Type} [DecidableEq α] {tree : PjRbtree α κ} {xs : List α} {x s : α}

/-- What unlinking leaves for the fix-up. -/
structure Unlinked (tree : PjRbtree α κ) (ys : List α) (child : Ref α) (s : α)
    (tree' : PjRbtree α κ) : Prop where
  order : InOrder tree'.links ys
  childIn : child = .null ∨ ∃ e ∈ ys, child = .elem e
  root : tree'.color tree'.links.root = .black ∨
    tree'.links.root = child ∧ tree'.color (.elem s) = .black
  nullBlack : tree'.color .null = .black
  key : tree'.key = tree.key
  size : tree'.size = tree.size

theorem unlink_same (tree : PjRbtree α κ) (x : α) :
    unlink tree (.elem x) (.elem x) = tree.withLinks (splice tree.links (.elem x)) := by
  unfold unlink
  rw [if_neg (not_not.mpr rfl)]

theorem unlink_other (sx : s ≠ x) : (unlink tree (.elem x) (.elem s)).links =
    replace (splice tree.links (.elem s)) (.elem x) (.elem s) := by
  unfold unlink
  rw [if_pos (by simpa using sx)]
  rfl

theorem unlink_color (tree : PjRbtree α κ) (x s : α) (r : Ref α) :
    (unlink tree (.elem x) (.elem s)).color r =
      if r = .elem s then tree.color (.elem x) else tree.color r := by
  unfold unlink
  split
  · simp [PjRbtree.withLinks]
  · rename_i same
    obtain rfl : s = x := by simpa using same
    split
    · rename_i here
      rw [here]
      rfl
    · rfl

theorem unlink_key (tree : PjRbtree α κ) (node succ : Ref α) :
    (unlink tree node succ).key = tree.key := by
  unfold unlink
  split <;> rfl

theorem unlink_size (tree : PjRbtree α κ) (node succ : Ref α) :
    (unlink tree node succ).size = tree.size := by
  unfold unlink
  split <;> rfl

variable {pre post : List α}

theorem erase_middle {y : α} (nodup : (pre ++ y :: post).Nodup) :
    (pre ++ y :: post).erase y = pre ++ post := by
  have notBefore : y ∉ pre := fun mem =>
    (List.nodup_append'.mp nodup).2.2 mem (by simp)
  rw [List.erase_append_right _ notBefore, List.erase_cons_head]

theorem splice_inOrder {L : Links α} {p : Ref α} {d : Side} {c : Shape α} {fs : List (Frame α)}
    (focus : Focus L (.elem s) p (.join d c s .leaf) fs) :
    (plug c fs).inorder = (plug (.join d c s .leaf) fs).inorder.erase s := by
  have nodup := focus.nodup
  rw [plug_inorder] at nodup ⊢
  rw [plug_inorder]
  cases d with
  | left =>
    have shape : before fs ++ (Shape.join .left c s .leaf).inorder ++ after fs =
        (before fs ++ c.inorder) ++ s :: after fs := by
      simp [Shape.join, Shape.inorder]
    rw [shape] at nodup ⊢
    rw [erase_middle nodup]
  | right =>
    have shape : before fs ++ (Shape.join .right c s .leaf).inorder ++ after fs =
        before fs ++ s :: (c.inorder ++ after fs) := by
      simp [Shape.join, Shape.inorder]
    rw [shape] at nodup ⊢
    rw [erase_middle nodup, List.append_assoc]

theorem unlink_self (order : InOrder tree.links xs) (mem : x ∈ xs)
    (rootBlack : tree.color tree.links.root = .black) (nullBlack : tree.color .null = .black)
    (missing : tree.links.child .left (.elem x) = .null ∨
      tree.links.child .right (.elem x) = .null) :
    Unlinked tree (xs.erase x) (spliceChild tree.links (.elem x)) x
      (unlink tree (.elem x) (.elem x)) := by
  obtain ⟨p, a, b, fs, focus, rfl⟩ := order.locate mem
  obtain ⟨d, c, parts, spliced⟩ := focus_splice focus missing
  rw [parts] at focus ⊢
  rw [unlink_same, ← splice_inOrder focus]
  refine ⟨.of_focus spliced, ?_, ?_, nullBlack, rfl, rfl⟩
  · rcases spliced.sub.root_cases with ⟨null, _⟩ | ⟨e, inC, root⟩
    · exact .inl null
    · exact .inr ⟨e, mem_plug.mpr (.inl inC), root⟩
  · cases fs with
    | nil =>
      have top : tree.links.root = .elem x := focus.hangs.1
      refine .inr ⟨spliced.hangs.1, ?_⟩
      show tree.color (.elem x) = .black
      rw [← top]
      exact rootBlack
    | cons f fs =>
      refine .inl ?_
      show tree.color (splice tree.links (.elem x)).root = .black
      rw [focus.hangs.root_unique spliced.hangs]
      exact rootBlack

/-- The successor out of its place and into that of the node. -/
structure Promoted (tree : PjRbtree α κ) (x s : α) (pre post : List α) (d : Side) (c : Shape α)
    (p : Ref α) (fs : List (Frame α)) : Prop where
  focus : Focus tree.links (.elem s) p (.join d c s .leaf) fs
  onPath : OnPath fs x
  spliced : Focus (splice tree.links (.elem s)) (spliceChild tree.links (.elem s)) p c fs
  without : (plug c fs).inorder = pre ++ x :: post
  replaced : ∃ p' a b fs', plug (.node a x b) fs' = plug c fs ∧
    before fs' ++ a.inorder = pre ∧ b.inorder ++ after fs' = post ∧
    Focus (unlink tree (.elem x) (.elem s)).links (.elem s) p' (.node a s b) fs'

theorem unlink_promoted (order : InOrder tree.links (pre ++ x :: s :: post))
    (sx : s ≠ x) (missing : tree.links.child .left (.elem s) = .null) :
    ∃ d c p fs, Promoted tree x s pre post d c p fs := by
  obtain ⟨p, a, b, fs, focus, shape⟩ := order.locate (x := s) (by simp)
  have nodup : (pre ++ x :: s :: post).Nodup := shape ▸ focus.nodup
  -- nothing hangs on the left of the successor: the node comes just before it
  obtain ⟨_, _, subA, _⟩ := focus.sub
  obtain rfl : a = .leaf := by
    rcases subA.root_cases with ⟨_, leaf⟩ | ⟨e, _, root⟩
    · exact leaf
    · rw [missing] at root
      cases root
  have here : (plug (.node .leaf s b) fs).inorder = (pre ++ [x]) ++ s :: post := by
    simpa using shape
  obtain ⟨first, last⟩ := focus.place here
  have onPath : OnPath fs x := by
    refine .inl ?_
    rw [← List.append_nil (before fs)]
    exact first ▸ (by simp)
  have moved : ((pre ++ [x]) ++ s :: post).Nodup := by simpa using nodup
  have notBefore : s ∉ pre := fun mem =>
    (List.nodup_append'.mp moved).2.2 (show s ∈ pre ++ [x] by simp [mem]) (by simp)
  have notAfter : s ∉ post := (List.nodup_cons.mp (List.nodup_append'.mp moved).2.1).1
  obtain ⟨d, c, parts, spliced⟩ := focus_splice focus (.inl missing)
  rw [parts] at focus shape
  have without : (plug c fs).inorder = pre ++ x :: post := by
    rw [splice_inOrder focus, shape, show pre ++ x :: s :: post = (pre ++ [x]) ++ s :: post by simp,
      erase_middle moved]
    simp
  obtain ⟨p', a', b', fs', focus', shape'⟩ :=
    Tree.locate spliced.tree (a := x) (by simp [without])
  obtain ⟨first', last'⟩ := focus'.place (by rw [shape']; exact without)
  have fresh : s ∉ (plug (.node a' x b') fs').inorder := by
    rw [shape', without]
    simp [notBefore, sx, notAfter]
  refine ⟨d, c, p, fs, focus, onPath, spliced, without, p', a', b', fs', shape', first', last', ?_⟩
  rw [unlink_other sx]
  exact focus_replace focus' fresh

theorem unlink_successor (order : InOrder tree.links (pre ++ x :: s :: post))
    (sx : s ≠ x) (rootBlack : tree.color tree.links.root = .black)
    (nullBlack : tree.color .null = .black) (missing : tree.links.child .left (.elem s) = .null) :
    Unlinked tree (pre ++ s :: post) (spliceChild tree.links (.elem s)) s
      (unlink tree (.elem x) (.elem s)) := by
  obtain ⟨d, c, p, fs, promoted⟩ := unlink_promoted order sx missing
  obtain ⟨focus, onPath, spliced, without, p', a', b', fs', _, first', last', replaced⟩ := promoted
  have inPlace : (plug (.node a' s b') fs').inorder = pre ++ s :: post := by
    rw [plug_inorder, ← first', ← last']
    simp [Shape.inorder]
  refine ⟨?_, ?_, .inl ?_, ?_, unlink_key _ _ _, unlink_size _ _ _⟩
  · rw [← inPlace]
    exact .of_focus replaced
  · rcases spliced.sub.root_cases with ⟨null, _⟩ | ⟨e, inC, root⟩
    · exact .inl null
    · have apart : e ≠ x := by
        rintro rfl
        exact spliced.disjoint inC onPath
      have inside : e ∈ pre ++ x :: post := without ▸ mem_plug.mpr (.inl inC)
      simp only [List.mem_append, List.mem_cons, apart, false_or] at inside
      refine .inr ⟨e, ?_, root⟩
      simp only [List.mem_append, List.mem_cons]
      tauto
  · cases fs with
    | nil => simp [OnPath, before, after] at onPath
    | cons f fs =>
      have top : (splice tree.links (.elem s)).root = tree.links.root :=
        focus.hangs.root_unique spliced.hangs
      have notS : tree.links.root ≠ .elem s := by
        obtain ⟨e, mem, root⟩ := focus.hangs.root_onPath
        rw [root]
        rintro here
        cases here
        exact focus.disjoint (mem_join.mpr (.inr (.inl rfl))) mem
      rw [unlink_color, unlink_other sx, replace_root, top]
      by_cases here : tree.links.root = .elem x
      · rw [if_pos here, if_pos rfl, ← here, rootBlack]
      · rw [if_neg here, if_neg notS, rootBlack]
  · rw [unlink_color, if_neg (by simp), nullBlack]

/-- The node that is unlinked: the node itself when it lacks a child, else the
next one, which has no child on its left. -/
theorem spliced_spec (order : InOrder tree.links xs) (mem : x ∈ xs) (size : tree.size = xs.length) :
    spliced tree (.elem x) = some (.elem x) ∧ (tree.links.child .left (.elem x) = .null ∨
        tree.links.child .right (.elem x) = .null) ∨
      ∃ s pre post, spliced tree (.elem x) = some (.elem s) ∧ s ≠ x ∧
        xs = pre ++ x :: s :: post ∧ tree.links.child .left (.elem s) = .null := by
  unfold spliced
  by_cases missing : tree.links.child .left (.elem x) = .null ∨
      tree.links.child .right (.elem x) = .null
  · rw [if_pos missing]
    exact .inl ⟨rfl, missing⟩
  · rw [if_neg missing]
    refine .inr ?_
    obtain ⟨p, a, b, fs, focus, rfl⟩ := order.locate mem
    obtain ⟨_, _, _, subB⟩ := focus.sub
    have enough : b.inorder.length ≤ tree.size := by
      rw [size, plug_inorder]
      simp only [Shape.inorder, List.length_append, List.length_cons]
      omega
    obtain ⟨e, found, first, last⟩ := extreme_spec (d := .left) subB focus.nullLeaf enough
    rcases subB.root_cases with ⟨null, _⟩ | ⟨y, inB, _⟩
    · exact absurd (.inr null) missing
    · cases e with
      | null =>
        cases parts : b.inorder with
        | nil => simp [parts] at inB
        | cons z rest => simp [toNode, endOf, parts] at first
      | elem s =>
        obtain ⟨rest, parts⟩ : ∃ rest, b.inorder = s :: rest := by
          cases parts : b.inorder with
          | nil => simp [parts] at inB
          | cons z rest =>
            simp only [toNode, endOf, parts, List.head?_cons, Option.some.injEq] at first
            exact ⟨rest, by rw [first]⟩
        have joined : (Shape.join .left a x b).inorder.Nodup := focus.shape_nodup
        obtain ⟨_, _, _, notB, _⟩ := nodup_join joined
        refine ⟨s, before fs ++ a.inorder, rest ++ after fs, found, ?_, ?_, last⟩
        · rintro rfl
          exact notB (by simp [parts])
        · simp [plug_inorder, Shape.inorder, parts]

theorem unlink_spec (order : InOrder tree.links xs) (mem : x ∈ xs) (size : tree.size = xs.length)
    (rootBlack : tree.color tree.links.root = .black) (nullBlack : tree.color .null = .black) :
    ∃ s, spliced tree (.elem x) = some (.elem s) ∧
      Unlinked tree (xs.erase x) (spliceChild tree.links (.elem s)) s
        (unlink tree (.elem x) (.elem s)) := by
  rcases spliced_spec order mem size with ⟨same, missing⟩ | ⟨s, pre, post, found, sx, rfl, missing⟩
  · exact ⟨x, same, unlink_self order mem rootBlack nullBlack missing⟩
  · obtain ⟨_, _, _, _, focus, shape⟩ := order.locate mem
    have nodup := focus.nodup
    rw [shape] at nodup
    refine ⟨s, found, ?_⟩
    rw [erase_middle nodup]
    exact unlink_successor order sx rootBlack nullBlack missing

theorem fixErased_spec {tree' : PjRbtree α κ} {ys : List α} {child : Ref α}
    (unlinked : Unlinked tree ys child s tree') (room : ys.length ≤ tree.size) :
    ∃ tree'', fixErased tree' (.elem s) child = some tree'' ∧ Restored tree ys tree'' := by
  obtain ⟨order, childIn, root, nullBlack, key, size⟩ := unlinked
  unfold fixErased
  by_cases black : tree'.color (.elem s) = .black
  · rw [if_pos black]
    rcases childIn with null | ⟨e, mem, here⟩
    · refine ⟨tree'.setColor .null .black, by simp [null], order, ?_, by simp, key, size⟩
      rcases root with rootBlack | ⟨top, _⟩
      · simp [rootBlack]
      · simp [top, null]
    · obtain ⟨p, a, b, fs, focus, rfl⟩ := order.locate mem
      have enough : fs.length ≤ tree'.size + 1 := by
        have path := length_le_elements fs
        rw [plug_inorder] at room
        simp only [List.length_append] at path room
        omega
      have rootOk : RootOk tree' (.elem e) := by
        rcases root with rootBlack | ⟨top, _⟩
        · exact .inr rootBlack
        · exact .inl (top.trans here)
      obtain ⟨tree'', fixed, restored⟩ := deleteFixup_spec focus rootOk enough
      refine ⟨_, ?_, restored.order, restored.rootBlack, restored.nullBlack,
        restored.key.trans key, restored.size.trans size⟩
      simp [here, fixed]
  · rw [if_neg black]
    refine ⟨tree', rfl, order, ?_, nullBlack, key, size⟩
    exact root.resolve_right fun both => black both.2

variable [LinearOrder κ]

theorem pjRbtreeErase_spec (ok : SearchTree tree xs) (mem : x ∈ xs) :
    ∃ tree', pjRbtreeErase tree (.elem x) = some tree' ∧ tree'.key = tree.key ∧
      SearchTree tree' (xs.erase x) := by
  obtain ⟨s, found, unlinked⟩ := unlink_spec ok.order mem ok.size ok.rootBlack ok.nullBlack
  have room : (xs.erase x).length ≤ tree.size := by
    rw [ok.size]
    exact List.length_erase_le
  obtain ⟨tree', fixed, restored⟩ := fixErased_spec unlinked room
  refine ⟨{ tree' with size := tree'.size - 1 }, ?_, restored.key, ?_⟩
  · unfold pjRbtreeErase
    simp only [found, fixed, Option.map_some]
  · have key : tree'.key = tree.key := restored.key
    refine ⟨restored.order, ?_, ?_, restored.rootBlack, restored.nullBlack⟩
    · rw [key]
      exact ok.increasing.sublist List.erase_sublist
    · rw [List.length_erase_of_mem mem, ← ok.size, restored.size]

end Pjsip.Pjlib.Rbtree
