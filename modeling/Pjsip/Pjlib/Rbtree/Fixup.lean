import Pjsip.Pjlib.Rbtree.Relink

/-!
# The fix-up loops keep the elements in order

Both loops only recolour and rotate, so the order of the elements survives
whatever the colours are. The colours decide that the loops end, and that the
root is black afterwards, which the next insertion relies on.
-/

namespace Pjsip.Pjlib.Rbtree

open Pjsip.Base.LinkedTree

variable {α κ : Type}

/-- The links are those of a tree with the elements `xs` in order. -/
def InOrder (L : Links α) (xs : List α) : Prop := ∃ s, Tree L s ∧ s.inorder = xs

section InOrder

variable {L : Links α} {xs : List α} {x : α}

theorem InOrder.of_focus {r p : Ref α} {s : Shape α} {fs : List (Frame α)}
    (focus : Focus L r p s fs) : InOrder L (plug s fs).inorder :=
  ⟨_, focus.tree, rfl⟩

theorem InOrder.locate (order : InOrder L xs) (mem : x ∈ xs) :
    ∃ p a b fs, Focus L (.elem x) p (.node a x b) fs ∧ (plug (.node a x b) fs).inorder = xs := by
  obtain ⟨s, tree, rfl⟩ := order
  obtain ⟨p, a, b, fs, focus, same⟩ := tree.locate mem
  exact ⟨p, a, b, fs, focus, by rw [same]⟩

theorem InOrder.nullLeaf (order : InOrder L xs) : NullLeaf L := by
  obtain ⟨s, tree, _⟩ := order
  exact tree.nullLeaf

theorem InOrder.links (order : InOrder L xs) (mem : x ∈ xs) :
    (∀ e, L.parent (.elem x) = .elem e → e ∈ xs) ∧
      ∀ d e, L.child d (.elem x) = .elem e → e ∈ xs := by
  obtain ⟨p, a, b, fs, focus, rfl⟩ := order.locate mem
  obtain ⟨_, rfl, subA, subB⟩ := focus.sub
  constructor
  · intro e here
    exact mem_plug.mpr (.inr (focus.parent_onPath here))
  · intro d e here
    refine mem_plug.mpr (.inl ?_)
    cases d with
    | left => simp [Shape.inorder, subA.root_mem here]
    | right => simp [Shape.inorder, subB.root_mem here]

theorem InOrder.root (order : InOrder L xs) :
    L.root = .null ∧ xs = [] ∨ ∃ e ∈ xs, L.root = .elem e := by
  obtain ⟨s, tree, rfl⟩ := order
  rcases tree.sub.root_cases with ⟨null, rfl⟩ | ⟨e, mem, root⟩
  · exact .inl ⟨null, rfl⟩
  · exact .inr ⟨e, mem, root⟩

theorem InOrder.reach_iff (order : InOrder L xs) (e : α) : Reach L (.elem e) ↔ e ∈ xs := by
  constructor
  · intro reach
    have known : ∀ r, Reach L r → ∀ e, r = .elem e → e ∈ xs := by
      intro r reach
      induction reach with
      | root =>
        intro e root
        rcases order.root with ⟨null, _⟩ | ⟨e', mem, root'⟩
        · rw [root] at null
          cases null
        · rw [root] at root'
          cases root'
          exact mem
      | @child d r _ ih =>
        intro e here
        cases r with
        | null =>
          rw [order.nullLeaf d] at here
          cases here
        | elem a => exact (order.links (ih a rfl)).2 d e here
    exact known _ reach e rfl
  · intro mem
    obtain ⟨_, _, _, _, focus, _⟩ := order.locate mem
    exact focus.reach

end InOrder

/-! ## The side of a node -/

variable {p : Ref α} {s far other : Shape α} {fs : List (Frame α)}

theorem side_test {L : Links α} {x : α} {f : Frame α}
    (focus : Focus L (.elem x) p s (f :: fs)) (d : Side) :
    L.child d p = .elem x ↔ f.side = d := by
  obtain ⟨rfl, here, other, _⟩ := focus.hangs
  constructor
  · intro same
    rcases Side.eq_or_opp f.side d with rfl | rfl
    · rfl
    · have inOther : x ∈ f.other.inorder := other.root_mem same
      have inShape : x ∈ s.inorder := focus.sub.root_mem rfl
      exact absurd (onPath_cons.mpr (.inr (.inl inOther))) (focus.disjoint inShape)
  · rintro rfl
    exact here

theorem focus_parent {L : Links α} {x : α}
    (focus : Focus L (.elem x) p s fs) : L.parent (.elem x) = p := by
  have sub := focus.sub
  cases s with
  | leaf => cases sub
  | node l a r =>
    obtain ⟨same, parent, _⟩ := sub
    cases same
    exact parent

theorem red_parent_path {L : Links α} {x : α}
    (focus : Focus L (.elem x) p s fs) (notRoot : .elem x ≠ L.root) (parentNotRoot : L.root ≠ p) :
    ∃ f g fs', fs = f :: g :: fs' := by
  cases fs with
  | nil => exact absurd focus.hangs.1.symm notRoot
  | cons f fs =>
    cases fs with
    | cons g fs => exact ⟨f, g, fs, rfl⟩
    | nil => exact absurd focus.up.hangs.1 parentNotRoot

theorem focus_join {L : Links α} {x : α}
    (focus : Focus L (.elem x) p s fs) (d : Side) : ∃ a b, s = .join d a x b := by
  have sub := focus.sub
  cases s with
  | leaf => cases sub
  | node l y r =>
    obtain ⟨same, _⟩ := sub
    cases same
    exact exists_join d l x r

variable [DecidableEq α]

theorem InOrder.rotate {L : Links α} {xs : List α} (order : InOrder L xs) (d : Side) {r : Ref α}
    (inside : ∀ e, r = .elem e → e ∈ xs) : InOrder (rotate d L r) xs := by
  cases r with
  | null =>
    rw [rotate_none (order.nullLeaf _)]
    exact order
  | elem x =>
    obtain ⟨p, a, b, fs, focus, rfl⟩ := order.locate (inside x rfl)
    obtain ⟨near, far, shape⟩ := exists_join d a x b
    rw [shape] at focus ⊢
    obtain ⟨_, _, _, subFar⟩ := sub_join.mp focus.sub
    cases far with
    | leaf =>
      rw [rotate_none subFar]
      exact .of_focus focus
    | node l y r =>
      obtain ⟨near', far', shape'⟩ := exists_join d l y r
      rw [shape'] at focus ⊢
      have moved := InOrder.of_focus (focus_rotate focus)
      have same : (plug (Shape.join d (.join d near x near') y far') fs).inorder =
          (plug (Shape.join d near x (.join d near' y far')) fs).inorder := by
        rw [plug_inorder, plug_inorder]
        cases d <;> simp [Shape.join, Shape.inorder]
      rwa [same] at moved

/-- What a fix-up leaves: the elements in order, the root and the null node black. -/
structure Restored (tree : PjRbtree α κ) (xs : List α) (tree' : PjRbtree α κ) : Prop where
  order : InOrder tree'.links xs
  rootBlack : tree'.color tree'.links.root = .black
  nullBlack : tree'.color .null = .black
  key : tree'.key = tree.key
  size : tree'.size = tree.size

theorem sideOf_eq {L : Links α} {x : α} {f : Frame α}
    (focus : Focus L (.elem x) (L.parent (.elem x)) s (f :: fs)) : sideOf L (.elem x) = f.side := by
  have test := side_test focus .left
  unfold sideOf
  split
  · rename_i here
    exact (test.mp here.symm).symm
  · rename_i away
    cases side : f.side with
    | left => exact absurd (test.mpr side).symm away
    | right => rfl

/-- The root is black, unless the fix-up stands at it. -/
def RootOk (tree : PjRbtree α κ) (node : Ref α) : Prop :=
  tree.links.root = node ∨ tree.color tree.links.root = .black

omit [DecidableEq α] in
theorem root_ne_parent {x : α} (focus : Focus tree.links (.elem x) p s fs)
    (rootOk : RootOk tree (.elem x)) (notRoot : .elem x ≠ tree.links.root)
    (parentRed : tree.color (tree.links.parent (.elem x)) = .red) : tree.links.root ≠ p := by
  intro top
  rw [focus_parent focus, ← top] at parentRed
  rcases rootOk with same | black
  · exact notRoot same.symm
  · rw [black] at parentRed
    cases parentRed

@[simp] theorem setColor_links (tree : PjRbtree α κ) (node : Ref α) (color : Color) :
    (tree.setColor node color).links = tree.links := rfl

@[simp] theorem setColor_key (tree : PjRbtree α κ) (node : Ref α) (color : Color) :
    (tree.setColor node color).key = tree.key := rfl

@[simp] theorem setColor_size (tree : PjRbtree α κ) (node : Ref α) (color : Color) :
    (tree.setColor node color).size = tree.size := rfl

@[simp] theorem setColor_color (tree : PjRbtree α κ) (node r : Ref α) (color : Color) :
    (tree.setColor node color).color r = if r = node then color else tree.color r := by
  simp [PjRbtree.setColor, Function.update_apply]

@[simp] theorem rotate_color (tree : PjRbtree α κ) (d : Side) (node : Ref α) :
    (tree.rotate d node).color = tree.color := rfl

@[simp] theorem rotate_links (tree : PjRbtree α κ) (d : Side) (node : Ref α) :
    (tree.rotate d node).links = Rbtree.rotate d tree.links node := rfl

@[simp] theorem rotate_key (tree : PjRbtree α κ) (d : Side) (node : Ref α) :
    (tree.rotate d node).key = tree.key := rfl

@[simp] theorem rotate_size (tree : PjRbtree α κ) (d : Side) (node : Ref α) :
    (tree.rotate d node).size = tree.size := rfl

/-! ## After an insertion -/

variable {d : Side}

theorem focus_lift {L : Links α} {q g : α} {r : Ref α}
    (focus : Focus L r p s (⟨d, q, far⟩ :: ⟨d, g, other⟩ :: fs)) :
    Focus (rotate d.opp L (.elem g)) r (.elem q) s (⟨d, q, .join d.opp other g far⟩ :: fs) ∧
      (plug s (⟨d, q, .join d.opp other g far⟩ :: fs)).inorder =
        (plug s (⟨d, q, far⟩ :: ⟨d, g, other⟩ :: fs)).inorder := by
  have atGrand : Focus L (.elem g) (L.parent (.elem g))
      (.join d.opp other g (.join d.opp far q s)) fs := by
    have up := focus.up.up
    rw [focus.up.hangs.1] at up
    rw [join_opp, join_opp]
    exact up
  have rotated := focus_rotate atGrand
  rw [join_opp d _ q s] at rotated
  have down := rotated.down
  have same := focus.sub.root_unique down.sub
  rw [← same] at down
  refine ⟨down, ?_⟩
  rw [plug_inorder, plug_inorder]
  cases d <;> simp [before, after, Shape.join, Shape.inorder, Side.opp]

theorem focus_straighten {L : Links α} {x q : α} {a b : Shape α}
    (focus : Focus L (.elem x) p (.join d a x b) (⟨d.opp, q, other⟩ :: fs)) :
    Focus (rotate d L (.elem q)) (.elem q) (.elem x) (.join d other q a) (⟨d, x, b⟩ :: fs) ∧
      (plug (.join d other q a) (⟨d, x, b⟩ :: fs)).inorder =
        (plug (.join d a x b) (⟨d.opp, q, other⟩ :: fs)).inorder := by
  have atParent : Focus L (.elem q) (L.parent (.elem q)) (.join d other q (.join d a x b)) fs := by
    have up := focus.up
    rw [focus.hangs.1, Frame.close, join_opp] at up
    exact up
  have down := (focus_rotate atParent).down
  obtain ⟨root, _⟩ := sub_join.mp down.sub
  rw [root] at down
  refine ⟨down, ?_⟩
  rw [plug_inorder, plug_inorder]
  cases d <;> simp [before, after, Shape.join, Shape.inorder, Side.opp]

variable {tree : PjRbtree α κ}

theorem insertFixup_done (fuel : Nat) {node : Ref α}
    (ended : tree.color (tree.links.parent node) ≠ .red) :
    insertFixup fuel tree node = some (tree.setColor tree.links.root .black) := by
  unfold insertFixup
  rw [if_neg fun both => ended both.2]

/-- The last steps of a round: `q` becomes black and goes over `g`, which becomes
red. -/
def raise (tree : PjRbtree α κ) (d : Side) (q g : α) : PjRbtree α κ :=
  ((tree.setColor (.elem q) .black).setColor (.elem g) .red).rotate d.opp (.elem g)

/-- The first case of a round: uncle and parent become black, the grandparent red. -/
def recolour (tree : PjRbtree α κ) (d : Side) (q g : α) : PjRbtree α κ :=
  ((tree.setColor (tree.links.child d.opp (.elem g)) .black).setColor (.elem q) .black).setColor
    (.elem g) .red

/-- What one round of the insertion fix-up does below a parent and a grandparent: it
recolours and goes up, or it rotates once or twice. -/
theorem insertFixupRound_cases {x : α}
    {f g : Frame α} (focus : Focus tree.links (.elem x) p s (f :: g :: fs)) :
    tree.color (tree.links.child g.side.opp (.elem g.elem)) = .red ∧
        insertFixupRound tree (.elem x) = (recolour tree g.side f.elem g.elem, .elem g.elem) ∨
      tree.color (tree.links.child g.side.opp (.elem g.elem)) ≠ .red ∧ (f.side = g.side ∧
            insertFixupRound tree (.elem x) = (raise tree g.side f.elem g.elem, .elem x) ∨
          f.side = g.side.opp ∧ insertFixupRound tree (.elem x) =
            (raise (tree.rotate g.side (.elem f.elem)) g.side x g.elem, .elem f.elem)) := by
  obtain ⟨side, q, far⟩ := f
  obtain ⟨d, gr, other⟩ := g
  have parentEq : tree.links.parent (.elem x) = .elem q :=
    (focus_parent focus).trans focus.hangs.1
  have atParent : Focus tree.links (.elem q) (.elem gr) (Frame.close ⟨side, q, far⟩ s)
      (⟨d, gr, other⟩ :: fs) := by
    have up := focus.up
    rw [focus.hangs.1] at up
    rwa [show tree.links.parent (.elem q) = .elem gr from up.hangs.1] at up
  have grandEq : tree.links.parent (.elem q) = .elem gr := focus_parent atParent
  have sideEq : sideOf tree.links (.elem q) = d := sideOf_eq (by rw [grandEq]; exact atParent)
  have inner : .elem x = tree.links.child d.opp (.elem q) ↔ side = d.opp := by
    have test := side_test focus d.opp
    rw [focus.hangs.1, eq_comm] at test
    exact test
  unfold insertFixupRound
  simp only [parentEq, grandEq, sideEq]
  split
  · rename_i uncleRed
    refine .inl ⟨uncleRed, ?_⟩
    simp only [setColor_links, grandEq]
    rfl
  · rename_i uncleBlack
    refine .inr ⟨uncleBlack, ?_⟩
    rcases Side.eq_or_opp d side with rfl | rfl
    · -- the node is the outer child
      have outer : ¬ .elem x = tree.links.child side.opp (.elem q) := by
        rw [inner]
        exact Side.ne_opp side
      rw [if_neg outer]
      refine .inl ⟨rfl, ?_⟩
      simp only [parentEq, setColor_links, grandEq]
      rfl
    · -- the node is the inner child, and changes places with its parent first
      rw [if_pos (inner.mpr rfl)]
      obtain ⟨a, b, rfl⟩ := focus_join focus d
      have moved : Focus (tree.rotate d (.elem q)).links (.elem q) (.elem x) (.join d far q a)
          (⟨d, x, b⟩ :: ⟨d, gr, other⟩ :: fs) := (focus_straighten focus).1
      have parentMoved := focus_parent moved
      have grandMoved : (tree.rotate d (.elem q)).links.parent (.elem x) = .elem gr :=
        moved.up.hangs.1
      refine .inr ⟨rfl, ?_⟩
      simp only [parentMoved, setColor_links, grandMoved]
      rfl

theorem focus_raise {x q g : α}
    (focus : Focus tree.links (.elem x) p s (⟨d, q, far⟩ :: ⟨d, g, other⟩ :: fs)) :
    Focus (raise tree d q g).links (.elem x) (.elem q) s (⟨d, q, .join d.opp other g far⟩ :: fs) ∧
      (raise tree d q g).color (.elem q) = .black ∧
      ∀ r, r ≠ .elem q → (raise tree d q g).color r =
        if r = .elem g then .red else tree.color r := by
  have apart : q ≠ g := by
    rintro rfl
    exact focus.distinct.cons.2.1 (onPath_cons.mpr (.inl rfl))
  refine ⟨(focus_lift focus).1, ?_, ?_⟩
  · simp [raise, apart]
  · intro r other
    simp [raise, other]

theorem raise_done {x q g : α}
    (focus : Focus tree.links (.elem x) p s (⟨d, q, far⟩ :: ⟨d, g, other⟩ :: fs)) :
    (raise tree d q g).color ((raise tree d q g).links.parent (.elem x)) ≠ .red ∧
      InOrder (raise tree d q g).links (plug s (⟨d, q, far⟩ :: ⟨d, g, other⟩ :: fs)).inorder ∧
      (raise tree d q g).color .null = tree.color .null := by
  obtain ⟨lifted, black, colors⟩ := focus_raise focus
  refine ⟨?_, ?_, ?_⟩
  · rw [focus_parent lifted, black]
    intro same
    cases same
  · rw [← (focus_lift focus).2]
    exact .of_focus lifted
  · rw [colors .null (by simp), if_neg (by simp)]

theorem recolour_null {g : α} (q : α) (nullBlack : tree.color .null = .black)
    (uncleRed : tree.color (tree.links.child d.opp (.elem g)) = .red) :
    (recolour tree d q g).color .null = .black := by
  have uncle : .null ≠ tree.links.child d.opp (.elem g) := by
    intro null
    rw [← null, nullBlack] at uncleRed
    cases uncleRed
  simp [recolour, uncle, nullBlack]

theorem recolour_rootOk {x : α} (d : Side) (q g : α)
    (notRoot : .elem x ≠ tree.links.root) (rootOk : RootOk tree (.elem x)) :
    RootOk (recolour tree d q g) (.elem g) := by
  rcases rootOk with same | black
  · exact absurd same.symm notRoot
  · by_cases top : tree.links.root = .elem g
    · exact .inl top
    · refine .inr ?_
      simp only [recolour, setColor_links, setColor_color]
      split_ifs <;> first | rfl | exact black

/-- A round goes up to the grandparent with the links as they were, or it rotates
and leaves the node with a black parent. -/
theorem insertFixupRound_spec {x : α}
    {f g : Frame α} (focus : Focus tree.links (.elem x) p s (f :: g :: fs))
    (notRoot : .elem x ≠ tree.links.root) (rootOk : RootOk tree (.elem x))
    (nullBlack : tree.color .null = .black) :
    ∃ tree' node, insertFixupRound tree (.elem x) = (tree', node) ∧
      tree'.color .null = .black ∧ tree'.key = tree.key ∧ tree'.size = tree.size ∧
      (node = .elem g.elem ∧ tree'.links = tree.links ∧ RootOk tree' node ∨
        tree'.color (tree'.links.parent node) ≠ .red ∧
          InOrder tree'.links (plug s (f :: g :: fs)).inorder) := by
  obtain ⟨side, q, far⟩ := f
  obtain ⟨d, gr, other⟩ := g
  rcases insertFixupRound_cases focus with ⟨uncleRed, round⟩ | ⟨_, ⟨rfl, round⟩ | ⟨rfl, round⟩⟩
  · exact ⟨_, _, round, recolour_null q nullBlack uncleRed, rfl, rfl,
      .inl ⟨rfl, rfl, recolour_rootOk d q gr notRoot rootOk⟩⟩
  · obtain ⟨parentBlack, order, null⟩ := raise_done focus
    exact ⟨_, _, round, null.trans nullBlack, rfl, rfl, .inr ⟨parentBlack, order⟩⟩
  · obtain ⟨a, b, rfl⟩ := focus_join focus d
    obtain ⟨straight, same⟩ := focus_straighten focus
    have moved : Focus (tree.rotate d (.elem q)).links (.elem q) (.elem x)
        (.join d far q a) (⟨d, x, b⟩ :: ⟨d, gr, other⟩ :: fs) := straight
    obtain ⟨parentBlack, order, null⟩ := raise_done moved
    rw [same] at order
    exact ⟨_, _, round, null.trans nullBlack, rfl, rfl, .inr ⟨parentBlack, order⟩⟩

theorem restored_black {tree' : PjRbtree α κ} {xs : List α} (order : InOrder tree'.links xs)
    (nullBlack : tree'.color .null = .black) (key : tree'.key = tree.key)
    (size : tree'.size = tree.size) :
    Restored tree xs (tree'.setColor tree'.links.root .black) := by
  refine ⟨order, by simp, ?_, key, size⟩
  simp [nullBlack]

/-- The insertion fix-up ends: each round that only recolours moves two steps up
the path. -/
theorem insertFixup_spec {fuel : Nat} {x : α} (focus : Focus tree.links (.elem x) p s fs)
    (rootOk : RootOk tree (.elem x)) (nullBlack : tree.color .null = .black)
    (enough : fs.length ≤ fuel) :
    ∃ tree', insertFixup fuel tree (.elem x) = some tree' ∧
      Restored tree (plug s fs).inorder tree' := by
  induction fuel using Nat.strongRecOn generalizing tree x p s fs
  rename_i fuel ih
  by_cases going : .elem x ≠ tree.links.root ∧ tree.color (tree.links.parent (.elem x)) = .red
  · obtain ⟨notRoot, parentRed⟩ := going
    have parentNotRoot := root_ne_parent focus rootOk notRoot parentRed
    obtain ⟨f, g, above, rfl⟩ := red_parent_path focus notRoot parentNotRoot
    obtain ⟨tree', node, round, null, key, size, rest⟩ :=
      insertFixupRound_spec focus notRoot rootOk nullBlack
    obtain ⟨fuel, rfl⟩ : ∃ n, fuel = n + 1 :=
      ⟨fuel - 1, by simp only [List.length_cons] at enough; omega⟩
    have unrolled : insertFixup (fuel + 1) tree (.elem x) = insertFixup fuel tree' node := by
      rw [insertFixup, if_pos ⟨notRoot, parentRed⟩, round]
    rw [unrolled]
    rcases rest with ⟨rfl, links, rootOk'⟩ | ⟨ended, order⟩
    · have up : Focus tree'.links (.elem g.elem) (tree'.links.parent (.elem g.elem))
          (g.close (f.close s)) above := by
        rw [links, ← focus.up.hangs.1]
        exact focus.up.up
      obtain ⟨tree'', done, restored⟩ := ih fuel (by omega) up rootOk' null
        (by simp only [List.length_cons] at enough; omega)
      exact ⟨tree'', done, restored.order, restored.rootBlack, restored.nullBlack,
        restored.key.trans key, restored.size.trans size⟩
    · rw [insertFixup_done fuel ended]
      exact ⟨_, rfl, restored_black order null key size⟩
  · rw [show insertFixup fuel tree (.elem x) = some (tree.setColor tree.links.root .black) by
      unfold insertFixup
      rw [if_neg going]]
    exact ⟨_, rfl, restored_black (.of_focus focus) nullBlack rfl rfl⟩

end Pjsip.Pjlib.Rbtree
