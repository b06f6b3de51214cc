import Pjsip.Pjlib.Rbtree.Search

/-!
# Insertion

The new node is hung at the empty place that the search found, and the fix-up
keeps the order.
-/

namespace Pjsip.Pjlib.Rbtree

open Pjsip.Base.LinkedTree

/-- What holds between two calls: the elements `xs` in search order. -/
structure SearchTree {α κ : Type} [LinearOrder κ] (tree : PjRbtree α κ) (xs : List α) : Prop where
  order : InOrder tree.links xs
  increasing : Increasing tree.key xs
  size : tree.size = xs.length
  rootBlack : tree.color tree.links.root = .black
  nullBlack : tree.color .null = .black

theorem pjRbtreeFind_spec {α κ : Type} [LinearOrder κ] {comp : κ → κ → Int} {tree : PjRbtree α κ}
    {xs : List α} (compares : Compares comp) (ok : SearchTree tree xs) (key : κ) :
    ∃ found, pjRbtreeFind comp tree key = some found ∧
      ∀ e, found = some e ↔ e ∈ xs ∧ tree.key e = key := by
  obtain ⟨s, inTree, rfl⟩ := ok.order
  exact findLoop_spec compares inTree.sub ok.increasing (ok.size ▸ s.depth_le)

variable {α κ : Type} [DecidableEq α]

theorem focus_hangBelow {tree : PjRbtree α κ} {x : α} {f : Frame α} {fs : List (Frame α)} {rv : Int}
    (focus : Focus tree.links .null (.elem f.elem) .leaf (f :: fs))
    (fresh : x ∉ (plug .leaf (f :: fs)).inorder)
    (side : f.side = if rv < 0 then .left else .right) :
    Focus (hangBelow (clearNode tree (.elem x)) (.elem x) (.elem f.elem) rv).links (.elem x)
      (.elem f.elem) (.node .leaf x .leaf) (f :: fs) := by
  have offPath : ∀ e, OnPath (f :: fs) e → e ≠ x := by
    rintro e onPath rfl
    exact fresh (mem_plug.mpr (.inr onPath))
  have apart : f.elem ≠ x := offPath f.elem (onPath_cons.mpr (.inl rfl))
  have linked : (hangBelow (clearNode tree (.elem x)) (.elem x) (.elem f.elem) rv).links =
      ((clearNode tree (.elem x)).links.setParent (.elem x) (.elem f.elem)).setChild f.side
        (.elem f.elem) (.elem x) := by
    unfold hangBelow
    rw [side]
    split <;> rfl
  rw [linked]
  have cleared : Hangs ((clearNode tree (.elem x)).links.setParent (.elem x) (.elem f.elem)) .null
      (.elem f.elem) (f :: fs) := by
    refine focus.hangs.congr rfl fun e onPath => ?_
    have away := offPath e onPath
    simp [Agree, clearNode, PjRbtree.withLinks, away]
  refine ⟨⟨rfl, by simp, ?_, ?_⟩, cleared.setChild focus.distinct _, ?_, ?_⟩
  · show _ = Ref.null
    simp [clearNode, PjRbtree.withLinks, apart.symm]
  · show _ = Ref.null
    simp [clearNode, PjRbtree.withLinks, apart.symm]
  · have nodup := focus.nodup
    rw [plug_inorder] at nodup fresh ⊢
    simp only [Shape.inorder, List.append_nil, List.nil_append] at nodup fresh ⊢
    rw [List.append_assoc, List.singleton_append]
    exact List.nodup_middle.mpr (List.nodup_cons.mpr ⟨fresh, nodup⟩)
  · intro d
    simp [clearNode, PjRbtree.withLinks, focus.nullLeaf d]

theorem hangBelow_color (tree : PjRbtree α κ) (x : α) (p r : Ref α) (rv : Int) :
    (hangBelow (clearNode tree (.elem x)) (.elem x) p rv).color r =
      if r = .elem x then .red else tree.color r := by
  simp [hangBelow, clearNode, PjRbtree.withLinks]

theorem hangBelow_root (tree : PjRbtree α κ) (x : α) (p : Ref α) (rv : Int) :
    (hangBelow (clearNode tree (.elem x)) (.elem x) p rv).links.root = tree.links.root := by
  unfold hangBelow
  split <;> rfl

theorem focus_plant {tree : PjRbtree α κ} (nullLeaf : NullLeaf tree.links) (x : α) :
    Focus (plant (clearNode tree (.elem x)) (.elem x)).links (.elem x) .null (.node .leaf x .leaf)
      [] := by
  refine ⟨⟨rfl, by simp [plant, PjRbtree.withLinks], ?_, ?_⟩, ⟨rfl, rfl⟩, ?_, ?_⟩
  · show _ = Ref.null
    simp [plant, clearNode, PjRbtree.withLinks]
  · show _ = Ref.null
    simp [plant, clearNode, PjRbtree.withLinks]
  · simp [plug, Shape.inorder]
  · intro d
    simp [plant, clearNode, PjRbtree.withLinks, nullLeaf d]

variable [LinearOrder κ] {comp : κ → κ → Int} {tree : PjRbtree α κ} {xs : List α}

/-- The search of an insertion finds the key, or the empty place between the
smaller and the greater keys. -/
theorem pjRbtreeInsert_place (compares : Compares comp) (ok : SearchTree tree xs) (x : α) :
    pjRbtreeInsert comp tree x = some (tree, -1) ∧ (∃ e ∈ xs, tree.key e = tree.key x) ∨
      ∃ p fs rv, Focus tree.links .null p .leaf fs ∧ xs = before fs ++ after fs ∧
        Brackets tree.key (tree.key x) fs ∧ LastSide fs rv ∧
        (∀ e ∈ xs, tree.key e ≠ tree.key x) ∧
        pjRbtreeInsert comp tree x = (if p ≠ .null then
            insertFixup (tree.size + 1) (hangBelow (clearNode tree (.elem x)) (.elem x) p rv)
              (.elem x)
          else some (plant (clearNode tree (.elem x)) (.elem x))).map
            fun tree => ({ tree with size := tree.size + 1 }, 0) := by
  obtain ⟨s, inTree, inorder⟩ := ok.order
  have increasing : Increasing tree.key (plug s []).inorder := by
    rw [plug, inorder]
    exact ok.increasing
  have around : Brackets tree.key (tree.key x) [] := ⟨by simp [before], by simp [after]⟩
  have first : LastSide ([] : List (Frame α)) 0 := by
    simp [LastSide]
  have enough : s.inorder.length ≤ tree.size := by
    rw [inorder]
    exact Nat.le_of_eq ok.size.symm
  have search := findPlace_spec compares inTree increasing around first enough
  unfold pjRbtreeInsert
  rcases search with ⟨taken, e, mem, same⟩ | ⟨p, fs, rv, place, focus, same, brackets, last⟩
  · rw [taken]
    exact .inl ⟨rfl, e, inorder ▸ mem, same⟩
  · rw [place]
    have parts : xs = before fs ++ after fs := by
      rw [← inorder]
      simpa [plug_inorder, plug, Shape.inorder] using same.symm
    refine .inr ⟨p, fs, rv, focus, parts, brackets, last, ?_, rfl⟩
    intro e mem
    rw [parts, List.mem_append] at mem
    rcases mem with first | second
    · exact (brackets.1 e first).ne
    · exact (brackets.2 e second).ne'

theorem hung_ready (ok : SearchTree tree xs) {x : α} {f : Frame α} {fs : List (Frame α)} {rv : Int}
    (focus : Focus tree.links .null (.elem f.elem) .leaf (f :: fs))
    (parts : xs = before (f :: fs) ++ after (f :: fs)) (fresh : x ∉ xs)
    (last : LastSide (f :: fs) rv) :
    Focus (hangBelow (clearNode tree (.elem x)) (.elem x) (.elem f.elem) rv).links (.elem x)
        (.elem f.elem) (.node .leaf x .leaf) (f :: fs) ∧
      RootOk (hangBelow (clearNode tree (.elem x)) (.elem x) (.elem f.elem) rv) (.elem x) ∧
      (hangBelow (clearNode tree (.elem x)) (.elem x) (.elem f.elem) rv).color .null = .black := by
  refine ⟨focus_hangBelow focus ?_ (last f rfl), ?_, ?_⟩
  · rw [parts] at fresh
    simpa [plug_inorder, Shape.inorder] using fresh
  · unfold RootOk
    rw [hangBelow_root, hangBelow_color]
    by_cases top : tree.links.root = .elem x
    · exact .inl top
    · exact .inr (by rw [if_neg top, ok.rootBlack])
  · rw [hangBelow_color, if_neg (by simp), ok.nullBlack]

/-- An insertion finds the key and changes nothing, or puts the element between
the smaller and the greater keys. -/
theorem pjRbtreeInsert_spec (compares : Compares comp) (ok : SearchTree tree xs) (x : α) :
    pjRbtreeInsert comp tree x = some (tree, -1) ∧ (∃ e ∈ xs, tree.key e = tree.key x) ∨
      ∃ tree' pre post, pjRbtreeInsert comp tree x = some (tree', 0) ∧ xs = pre ++ post ∧
        tree'.key = tree.key ∧ (∀ e ∈ xs, tree.key e ≠ tree.key x) ∧
        SearchTree tree' (pre ++ x :: post) := by
  rcases pjRbtreeInsert_place compares ok x with
    found | ⟨p, fs, rv, focus, parts, brackets, last, unequal, called⟩
  · exact .inl found
  · refine .inr ?_
    have added : Increasing tree.key (before fs ++ x :: after fs) := by
      have pairs := ok.increasing
      rw [parts] at pairs
      obtain ⟨first, second, across⟩ := List.pairwise_append.mp pairs
      refine List.pairwise_append.mpr ⟨first, List.pairwise_cons.mpr ⟨brackets.2, second⟩, ?_⟩
      intro a inBefore b inRest
      rcases List.mem_cons.mp inRest with rfl | inAfter
      · exact brackets.1 a inBefore
      · exact across a inBefore b inAfter
    have shape : (plug (.node .leaf x .leaf) fs).inorder = before fs ++ x :: after fs := by
      simp [plug_inorder, Shape.inorder]
    have longer : tree.size + 1 = (before fs ++ x :: after fs).length := by
      rw [ok.size, parts]
      simp only [List.length_append, List.length_cons]
      omega
    cases fs with
    | nil =>
      obtain rfl := focus.hangs.2
      have alone := InOrder.of_focus (focus_plant focus.nullLeaf x)
      refine ⟨_, _, _, called, parts, rfl, unequal, alone, added, longer, ?_, ?_⟩
      · simp [plant, PjRbtree.withLinks]
      · simp [plant, clearNode, PjRbtree.withLinks, ok.nullBlack]
    | cons f fs =>
      have parent := focus.hangs.1
      subst parent
      have fresh : x ∉ xs := fun mem => unequal x mem rfl
      obtain ⟨hung, rootOk, nullBlack⟩ := hung_ready ok focus parts fresh last
      have enough : (f :: fs).length ≤ tree.size + 1 := by
        have path := length_le_elements (f :: fs)
        rw [← parts, ← ok.size] at path
        omega
      obtain ⟨tree', fixed, restored⟩ := insertFixup_spec hung rootOk nullBlack enough
      have order := restored.order
      rw [shape] at order
      rw [if_pos (by simp), fixed] at called
      refine ⟨{ tree' with size := tree'.size + 1 }, _, _, called, parts, restored.key, unequal, ?_⟩
      have key : tree'.key = tree.key := restored.key
      have size : tree'.size = tree.size := restored.size
      refine ⟨order, ?_, ?_, restored.rootBlack, restored.nullBlack⟩
      · rw [key]
        exact added
      · rw [size]
        exact longer

end Pjsip.Pjlib.Rbtree
