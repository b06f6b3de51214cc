import Pjsip.Base.Balance
import Pjsip.Pjlib.Rbtree.Insert

/-!
# Insertion keeps the balance

The new node is red, so that only it and its parent can be red together. The loop
of `insert_fixup` carries this one fault up the path, and either reaches a place
where it is none, or removes it by a rotation.
-/

namespace Pjsip.Pjlib.Rbtree

open Pjsip.Base.LinkedTree

variable {α κ : Type}

def IsRed (color : Color) : Prop := color = .red

def PjRbtree.hue (tree : PjRbtree α κ) (e : α) : Color := tree.color (.elem e)

/-- The links are those of a tree, balanced with its colours. -/
def InBalance (tree : PjRbtree α κ) : Prop :=
  ∃ t h, Tree tree.links t ∧ Balanced IsRed h (t.map tree.hue)

theorem not_isRed_black : ¬ IsRed .black := by
  intro same
  cases same

theorem InBalance.congr {tree tree' : PjRbtree α κ} (balance : InBalance tree)
    (links : tree'.links = tree.links) (hue : tree'.hue = tree.hue) : InBalance tree' := by
  obtain ⟨t, h, inTree, balanced⟩ := balance
  exact ⟨t, h, links ▸ inTree, hue ▸ balanced⟩

theorem InBalance.of_focus {tree : PjRbtree α κ} {r p : Ref α} {s : Shape α} {fs : List (Frame α)}
    {h : Nat} (focus : Focus tree.links r p s fs)
    (balanced : Balanced IsRed h (plug (s.map tree.hue) (fs.map (Frame.map tree.hue)))) :
    InBalance tree := by
  refine ⟨_, h, focus.tree, ?_⟩
  rw [map_plug]
  exact balanced

theorem InBalance.fits {tree : PjRbtree α κ} (balance : InBalance tree) {r p : Ref α}
    {s : Shape α} {fs : List (Frame α)} (focus : Focus tree.links r p s fs) : ∃ n h, Balanced IsRed n (s.map tree.hue) ∧
      Fits IsRed n (fs.map (Frame.map tree.hue)) h := by
  obtain ⟨t, h, inTree, balanced⟩ := balance
  obtain rfl := focus.tree.sub.shape_unique inTree.sub
  rw [map_plug] at balanced
  obtain ⟨n, below, above, _⟩ := balanced_plug.mp balanced
  exact ⟨n, h, below, above⟩

theorem focus_uncle {L : Links α} {r p : Ref α} {s : Shape α} {f g : Frame α} {fs : List (Frame α)}
    (focus : Focus L r p s (f :: g :: fs)) :
    Sub L (.elem g.elem) (L.child g.side.opp (.elem g.elem)) g.other := by
  obtain ⟨parent, _, sub, _⟩ := focus.up.hangs
  rwa [parent] at sub

/-- The elements near the end of a path are not met elsewhere. -/
theorem focus_apart {L : Links α} {r p : Ref α} {s : Shape α} {f g : Frame α} {fs : List (Frame α)}
    (focus : Focus L r p s (f :: g :: fs)) :
    (∀ e ∈ s.inorder, e ≠ f.elem ∧ e ≠ g.elem ∧ e ∉ g.other.inorder) ∧
      (∀ e ∈ f.other.inorder, e ≠ f.elem ∧ e ≠ g.elem ∧ e ∉ g.other.inorder) ∧
      (∀ e ∈ g.other.inorder, e ≠ f.elem ∧ e ≠ g.elem) ∧
      ∀ e, OnPath fs e → e ≠ f.elem ∧ e ≠ g.elem ∧ e ∉ g.other.inorder := by
  obtain ⟨above, parent, beside, sibling⟩ := focus.distinct.cons
  obtain ⟨_, grand, uncle, cousins⟩ := above.cons
  have below := fun e (mem : e ∈ s.inorder) => focus.disjoint mem
  simp only [onPath_cons] at parent sibling below
  refine ⟨?_, ?_, ?_, ?_⟩
  · grind
  · grind
  · grind
  · grind

variable {tree : PjRbtree α κ} {d : Side} {x q g : α} {p : Ref α} {s far other : Shape α}
  {fs : List (Frame α)} {n h : Nat}

/-- The fault one step above the node: a red node in a balanced place, whatever the
colour of its parent. -/
structure Fault (tree : PjRbtree α κ) (x : α) (s : Shape α) (fs : List (Frame α)) : Prop where
  red : IsRed (tree.hue x)
  balanced : ∃ n h, Balanced IsRed n (s.map tree.hue) ∧ Fits IsRed n (fs.map (Frame.map tree.hue)) h

theorem fault_over (focus : Focus tree.links (.elem x) p s fs) (fault : Fault tree x s fs)
    (ended : ¬ (.elem x ≠ tree.links.root ∧ tree.color (tree.links.parent (.elem x)) = .red)) :
    InBalance tree := by
  obtain ⟨_, n, h, balanced, fits⟩ := fault
  refine .of_focus focus (balanced_plug.mpr ⟨n, balanced, fits, ?_⟩)
  rintro ⟨_, top⟩
  cases fs with
  | nil => exact top
  | cons f fs =>
    refine ended ⟨?_, ?_⟩
    · obtain ⟨e, onPath, root⟩ := focus.hangs.root_onPath
      intro same
      rw [root] at same
      cases same
      exact focus.disjoint (focus.sub.root_mem rfl) onPath
    · rw [focus_parent focus, focus.hangs.1]
      exact top

theorem uncle_black {f g : Frame α} (focus : Focus tree.links (.elem x) p s (f :: g :: fs))
    (uncleBlack : tree.color (tree.links.child g.side.opp (.elem g.elem)) ≠ .red) :
    ¬ RootRed IsRed (g.other.map tree.hue) := by
  have sub := focus_uncle focus
  intro root
  cases shape : g.other with
  | leaf =>
    rw [shape] at root
    exact root
  | node l u r =>
    rw [shape] at root sub
    rw [sub.1] at uncleBlack
    exact uncleBlack root

variable [DecidableEq α]

@[simp] theorem setColor_hue (tree : PjRbtree α κ) (y e : α) (color : Color) :
    (tree.setColor (.elem y) color).hue e = if e = y then color else tree.hue e := by
  simp [PjRbtree.hue]

theorem InBalance.blacken_root (balance : InBalance tree) :
    InBalance (tree.setColor tree.links.root .black) := by
  obtain ⟨t, h, inTree, balanced⟩ := balance
  cases t with
  | leaf => exact ⟨.leaf, 0, inTree, .leaf⟩
  | node l a r =>
    have root : tree.links.root = .elem a := inTree.sub.1
    have joined : (Shape.join .left l a r).inorder.Nodup := inTree.shape_nodup
    obtain ⟨_, _, notLeft, notRight, _⟩ := nodup_join joined
    have left : l.map (tree.setColor (.elem a) .black).hue = l.map tree.hue := by
      apply Shape.map_congr
      intro e mem
      rw [setColor_hue, if_neg (ne_of_mem_of_not_mem mem notLeft)]
    have right : r.map (tree.setColor (.elem a) .black).hue = r.map tree.hue := by
      apply Shape.map_congr
      intro e mem
      rw [setColor_hue, if_neg (ne_of_mem_of_not_mem mem notRight)]
    have here : ¬ IsRed ((tree.setColor (.elem a) .black).hue a) := by
      rw [setColor_hue, if_pos rfl]
      exact not_isRed_black
    rw [root]
    have children : ∃ m, Balanced IsRed m (l.map tree.hue) ∧ Balanced IsRed m (r.map tree.hue) := by
      cases balanced with
      | red _ _ _ bl br => exact ⟨_, bl, br⟩
      | black _ bl br => exact ⟨_, bl, br⟩
    obtain ⟨m, bl, br⟩ := children
    refine ⟨.node l a r, m + 1, inTree, ?_⟩
    rw [Shape.map, left, right]
    exact .black here bl br

/-! ## One round -/

theorem fault_recolour {f g : Frame α} (focus : Focus tree.links (.elem x) p s (f :: g :: fs))
    (fault : Fault tree x s (f :: g :: fs)) (parentRed : IsRed (tree.hue f.elem))
    (uncleRed : tree.color (tree.links.child g.side.opp (.elem g.elem)) = .red)
    (nullBlack : tree.color .null = .black) :
    Fault (recolour tree g.side f.elem g.elem) g.elem (g.close (f.close s)) fs := by
  obtain ⟨side, q, far⟩ := f
  obtain ⟨d, g, other⟩ := g
  obtain ⟨_, n, h, balanced, fits⟩ := fault
  obtain ⟨below, beside, uncles, above⟩ := focus_apart focus
  have sub := focus_uncle focus
  -- a red uncle is an element
  cases other with
  | leaf =>
    have null : tree.links.child d.opp (.elem g) = .null := sub
    rw [null, nullBlack] at uncleRed
    cases uncleRed
  | node l u r =>
    have uncleEq : tree.links.child d.opp (.elem g) = .elem u := sub.1
    have hue : (recolour tree d q g).hue = fun e =>
        if e = g then .red else if e = q then .black else if e = u then .black
          else tree.hue e := by
      funext e
      simp [recolour, uncleEq]
    obtain ⟨uq, ug⟩ := uncles u (by simp [Shape.inorder])
    have whole : (Shape.join d (Shape.join side s q far) g (.node l u r)).inorder.Nodup :=
      focus.up.up.shape_nodup
    have uncleNodup : (Shape.join .left l u r).inorder.Nodup := (nodup_join whole).2.1
    obtain ⟨_, _, notLeft, notRight, _⟩ := nodup_join uncleNodup
    have grandNotParent : q ≠ g := by
      intro same
      exact focus.distinct.cons.2.1 (onPath_cons.mpr (.inl same))
    have kept : ∀ t : Shape α, (∀ e ∈ t.inorder, e ≠ q ∧ e ≠ g ∧ e ≠ u) →
        t.map (recolour tree d q g).hue = t.map tree.hue := by
      intro t away
      apply Shape.map_congr
      intro e mem
      obtain ⟨eq, eg, eu⟩ := away e mem
      rw [hue]
      simp only [eq, eg, eu, if_false]
    have keptAbove : fs.map (Frame.map (recolour tree d q g).hue) =
        fs.map (Frame.map tree.hue) := by
      apply Frame.map_congr
      intro e mem
      obtain ⟨eq, eg, eo⟩ := above e mem
      have eu : e ≠ u := fun same => eo (by simp [Shape.inorder, same])
      rw [hue]
      simp only [eq, eg, eu, if_false]
    have keptNode := kept s fun e mem => by
      obtain ⟨eq, eg, eo⟩ := below e mem
      exact ⟨eq, eg, fun same => eo (by simp [Shape.inorder, same])⟩
    have keptFar := kept far fun e mem => by
      obtain ⟨eq, eg, eo⟩ := beside e mem
      exact ⟨eq, eg, fun same => eo (by simp [Shape.inorder, same])⟩
    have keptLeft := kept l fun e mem => by
      obtain ⟨eq, eg⟩ := uncles e (by simp [Shape.inorder, mem])
      exact ⟨eq, eg, fun same => notLeft (same ▸ mem)⟩
    have keptRight := kept r fun e mem => by
      obtain ⟨eq, eg⟩ := uncles e (by simp [Shape.inorder, mem])
      exact ⟨eq, eg, fun same => notRight (same ▸ mem)⟩
    have uncleHue : IsRed (tree.hue u) := by
      rw [uncleEq] at uncleRed
      exact uncleRed
    have moved := balanced_recolour ((recolour tree d q g).hue q)
      ((recolour tree d q g).hue g) ((recolour tree d q g).hue u)
      fits parentRed uncleHue balanced (by simp [hue, grandNotParent, IsRed])
      (by simp [hue, IsRed]) (by simp [hue, ug, IsRed])
    refine ⟨by simp [hue, IsRed], n + 1, h, ?_, ?_⟩
    · rw [Frame.close, Frame.close, map_join, map_join, Shape.map, keptNode, keptFar, keptLeft,
        keptRight]
      exact moved.1
    · rw [keptAbove]
      exact moved.2

theorem fault_raise (focus : Focus tree.links (.elem x) p s (⟨d, q, far⟩ :: ⟨d, g, other⟩ :: fs))
    (fault : Fault tree x s (⟨d, q, far⟩ :: ⟨d, g, other⟩ :: fs)) (parentRed : IsRed (tree.hue q))
    (uncleBlack : ¬ RootRed IsRed (other.map tree.hue)) : InBalance (raise tree d q g) := by
  obtain ⟨_, n, h, balanced, fits⟩ := fault
  obtain ⟨lifted, _, _⟩ := focus_raise focus
  obtain ⟨below, beside, uncles, above⟩ := focus_apart focus
  have grandNotParent : q ≠ g := by
    intro same
    exact focus.distinct.cons.2.1 (onPath_cons.mpr (.inl same))
  have hue : (raise tree d q g).hue = fun e =>
      if e = g then .red else if e = q then .black else tree.hue e := by
    funext e
    simp [raise, PjRbtree.hue]
  have kept : ∀ t : Shape α, (∀ e ∈ t.inorder, e ≠ q ∧ e ≠ g) →
      t.map (raise tree d q g).hue = t.map tree.hue := by
    intro t away
    apply Shape.map_congr
    intro e mem
    obtain ⟨eq, eg⟩ := away e mem
    rw [hue]
    simp only [eq, eg, if_false]
  have keptAbove : fs.map (Frame.map (raise tree d q g).hue) = fs.map (Frame.map tree.hue) := by
    apply Frame.map_congr
    intro e mem
    obtain ⟨eq, eg, _⟩ := above e mem
    rw [hue]
    simp only [eq, eg, if_false]
  have keptNode := kept s fun e mem => ⟨(below e mem).1, (below e mem).2.1⟩
  have keptFar := kept far fun e mem => ⟨(beside e mem).1, (beside e mem).2.1⟩
  have keptUncle := kept other uncles
  have moved := balanced_lift ((raise tree d q g).hue q) ((raise tree d q g).hue g)
    fits parentRed uncleBlack balanced (by simp [hue, grandNotParent, IsRed])
    (by simp [hue, IsRed])
  refine .of_focus (h := h) lifted ?_
  rw [List.map_cons, keptAbove, Frame.map, map_join, keptNode, keptFar, keptUncle]
  exact moved

theorem fault_straighten {a b : Shape α} {f : Frame α}
    (fault : Fault tree x (.join d a x b) (⟨d.opp, q, other⟩ :: f :: fs))
    (parentRed : IsRed (tree.hue q)) :
    Fault (tree.rotate d (.elem q)) q (.join d other q a) (⟨d, x, b⟩ :: f :: fs) := by
  obtain ⟨red, n, h, balanced, fits⟩ := fault
  rw [map_join] at balanced
  obtain ⟨moved, movedFits⟩ := balanced_straighten fits parentRed balanced red
  refine ⟨parentRed, n, h, ?_, movedFits⟩
  rw [map_join]
  exact moved

/-! ## The loop -/

theorem insertFixup_balance {fuel : Nat} {tree tree' : PjRbtree α κ} {x : α} {p : Ref α}
    {s : Shape α} {fs : List (Frame α)} (focus : Focus tree.links (.elem x) p s fs)
    (fault : Fault tree x s fs) (rootOk : RootOk tree (.elem x))
    (nullBlack : tree.color .null = .black)
    (returned : insertFixup fuel tree (.elem x) = some tree') : InBalance tree' := by
  induction fuel generalizing tree x p s fs with
  | zero =>
    unfold insertFixup at returned
    split at returned
    · cases returned
    · rename_i ended
      cases returned
      exact (fault_over focus fault ended).blacken_root
  | succ fuel ih =>
    rw [insertFixup] at returned
    split at returned
    · rename_i going
      obtain ⟨notRoot, parentRed⟩ := going
      have parentNotRoot := root_ne_parent focus rootOk notRoot parentRed
      obtain ⟨f, g, above, rfl⟩ := red_parent_path focus notRoot parentNotRoot
      have parentHue : IsRed (tree.hue f.elem) := by
        rw [focus_parent focus, focus.hangs.1] at parentRed
        exact parentRed
      have parentEq := focus.up.hangs.1
      rw [focus.hangs.1] at parentEq
      rcases insertFixupRound_cases focus with ⟨uncleRed, round⟩ | ⟨uncleBlack, rest⟩
      · rw [round] at returned
        have up : Focus (recolour tree g.side f.elem g.elem).links (.elem g.elem)
            (tree.links.parent (.elem g.elem)) (g.close (f.close s)) above := by
          have moved := focus.up.up
          rwa [focus.hangs.1, parentEq] at moved
        exact ih up (fault_recolour focus fault parentHue uncleRed nullBlack)
          (recolour_rootOk _ _ _ notRoot rootOk) (recolour_null _ nullBlack uncleRed) returned
      · have uncleHue := uncle_black focus uncleBlack
        obtain ⟨side, q, far⟩ := f
        obtain ⟨d, gr, other⟩ := g
        rcases rest with ⟨rfl, round⟩ | ⟨rfl, round⟩
        · rw [round] at returned
          have settled : insertFixup fuel (raise tree side q gr) (.elem x) = some tree' := returned
          rw [insertFixup_done fuel (raise_done focus).1] at settled
          cases settled
          exact (fault_raise focus fault parentHue uncleHue).blacken_root
        · obtain ⟨a, b, rfl⟩ := focus_join focus d
          have moved : Focus (tree.rotate d (.elem q)).links (.elem q) (.elem x)
              (.join d far q a) (⟨d, x, b⟩ :: ⟨d, gr, other⟩ :: above) :=
            (focus_straighten focus).1
          rw [round] at returned
          have settled : insertFixup fuel (raise (tree.rotate d (.elem q)) d x gr) (.elem q) =
              some tree' := returned
          rw [insertFixup_done fuel (raise_done moved).1] at settled
          cases settled
          exact (fault_raise moved (fault_straighten fault parentHue) fault.red
            uncleHue).blacken_root
    · rename_i ended
      cases returned
      exact (fault_over focus fault ended).blacken_root

/-! ## The operation -/

theorem pjRbtreeInsert_balance [LinearOrder κ] {comp : κ → κ → Int} {xs : List α} {rv : Int}
    {tree' : PjRbtree α κ} (compares : Compares comp) (ok : SearchTree tree xs)
    (balance : InBalance tree) (returned : pjRbtreeInsert comp tree x = some (tree', rv)) :
    InBalance tree' := by
  rcases pjRbtreeInsert_place compares ok x with
    ⟨refused, _⟩ | ⟨p, fs, last, focus, parts, _, side, unequal, called⟩
  · rw [refused] at returned
    cases returned
    exact balance
  · have fresh : x ∉ xs := fun mem => unequal x mem rfl
    rw [called, Option.map_eq_some_iff] at returned
    obtain ⟨fixed, returned, same⟩ := returned
    cases same
    cases fs with
    | nil =>
      obtain rfl := focus.hangs.2
      cases returned
      have alone : Balanced IsRed 1 ((Shape.node .leaf x .leaf).map
          (plant (clearNode tree (.elem x)) (.elem x)).hue) := by
        refine .black ?_ .leaf .leaf
        simp [plant, PjRbtree.hue, not_isRed_black]
      exact .congr ⟨_, 1, (focus_plant focus.nullLeaf x).tree, alone⟩ rfl rfl
    | cons f fs =>
      have parent := focus.hangs.1
      subst parent
      obtain ⟨hung, rootOk, nullBlack⟩ := hung_ready ok focus parts fresh side
      obtain ⟨n, h, empty, above⟩ := balance.fits focus
      cases empty
      have kept : (f :: fs).map (Frame.map (hangBelow (clearNode tree (.elem x)) (.elem x)
          (.elem f.elem) last).hue) = (f :: fs).map (Frame.map tree.hue) := by
        apply Frame.map_congr
        intro e onPath
        rw [PjRbtree.hue, hangBelow_color, if_neg, PjRbtree.hue]
        intro same
        cases same
        exact hung.disjoint (by simp [Shape.inorder]) onPath
      have red : IsRed ((hangBelow (clearNode tree (.elem x)) (.elem x) (.elem f.elem) last).hue
          x) := by
        rw [PjRbtree.hue, hangBelow_color, if_pos rfl]
        rfl
      have fault : Fault _ x (.node .leaf x .leaf) (f :: fs) :=
        ⟨red, 0, h, .red red id id .leaf .leaf, kept ▸ above⟩
      exact (insertFixup_balance hung fault rootOk nullBlack returned).congr rfl rfl

end Pjsip.Pjlib.Rbtree
