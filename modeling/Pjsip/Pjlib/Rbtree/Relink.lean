import Pjsip.Pjlib.Rbtree.Model

/-!
# Rotations, splicing and replacement

What the three relinking routines do to the shape around the node they work on. A
rotation keeps the order of the elements; splicing takes one element out; a
replacement puts one element for another.
-/

namespace Pjsip.Pjlib.Rbtree

open Pjsip.Base.LinkedTree

variable {α κ : Type} [DecidableEq α] {L : Links α} {p : Ref α} {d : Side} {fs : List (Frame α)}

/-! ## Rotations -/

theorem rotate_none {node : Ref α} (null : L.child d.opp node = .null) : rotate d L node = L := by
  unfold rotate
  simp only [null, if_true]

theorem rotate_agree {x y : α} (child : L.child d.opp (.elem x) = .elem y) {e : α} (hx : e ≠ x)
    (hy : e ≠ y) (inner : L.child d (.elem y) ≠ .elem e) (parent : L.parent (.elem x) ≠ .elem e) :
    Agree L (rotate d L (.elem x)) e := by
  unfold rotate
  simp only [child, reduceCtorEq, if_false]
  unfold Links.relink Links.relinkChild
  constructor
  · split_ifs <;> simp [hx, hy, inner.symm]
  · intro d'
    split_ifs <;> simp [hx, hy, parent.symm]

theorem rotate_pair {x y : α} (child : L.child d.opp (.elem x) = .elem y) (xy : x ≠ y)
    (hx : L.parent (.elem x) ≠ .elem x) (hy : L.parent (.elem x) ≠ .elem y) :
    (rotate d L (.elem x)).parent (.elem x) = .elem y ∧
      (rotate d L (.elem x)).parent (.elem y) = L.parent (.elem x) ∧
      (rotate d L (.elem x)).child d (.elem x) = L.child d (.elem x) ∧
      (rotate d L (.elem x)).child d.opp (.elem x) = L.child d (.elem y) ∧
      (rotate d L (.elem x)).child d (.elem y) = .elem x ∧
      (rotate d L (.elem x)).child d.opp (.elem y) = L.child d.opp (.elem y) := by
  unfold rotate
  simp only [child, reduceCtorEq, if_false]
  unfold Links.relink Links.relinkChild
  refine ⟨by simp, ?_, ?_, ?_, by simp, ?_⟩
  · split_ifs <;> simp [xy.symm]
  · split_ifs <;> simp [xy, hx.symm]
  · split_ifs <;> simp [xy, hx.symm]
  · split_ifs <;> simp [xy.symm, hy.symm]

theorem rotate_inner {x y z : α} (child : L.child d.opp (.elem x) = .elem y)
    (inner : L.child d (.elem y) = .elem z) (zx : z ≠ x) (zy : z ≠ y)
    (hz : L.parent (.elem x) ≠ .elem z) :
    (rotate d L (.elem x)).parent (.elem z) = .elem x ∧
      ∀ d', (rotate d L (.elem x)).child d' (.elem z) = L.child d' (.elem z) := by
  unfold rotate
  simp only [child, inner, reduceCtorEq, if_false, ne_eq, not_false_eq_true, if_true]
  unfold Links.relink Links.relinkChild
  constructor
  · split_ifs <;> simp [zx, zy]
  · intro d'
    split_ifs <;> simp [zx, zy, hz.symm]

theorem rotate_nullLeaf (nullLeaf : NullLeaf L) (d : Side) (x : α) :
    NullLeaf (rotate d L (.elem x)) := by
  cases child : L.child d.opp (.elem x) with
  | null =>
    rw [rotate_none child]
    exact nullLeaf
  | elem y =>
    unfold rotate
    simp only [child, reduceCtorEq, if_false]
    apply setParent_nullLeaf
    apply setChild_nullLeaf
    apply relink_nullLeaf
    apply setParent_nullLeaf
    split <;> exact setChild_nullLeaf nullLeaf _ _ _

theorem rotate_outer {x y : α} (child : L.child d.opp (.elem x) = .elem y)
    (hx : L.parent (.elem x) ≠ .elem x) :
    (rotate d L (.elem x)).root = (L.relink (L.parent (.elem x)) (.elem x) (.elem y)).root ∧
      ∀ e, e ≠ x → e ≠ y → L.child d (.elem y) ≠ .elem e →
        Agree (L.relink (L.parent (.elem x)) (.elem x) (.elem y)) (rotate d L (.elem x)) e := by
  unfold rotate
  simp only [child, reduceCtorEq, if_false]
  unfold Links.relink Links.relinkChild
  constructor
  · split_ifs <;> simp_all
  · intro e ex ey inner
    constructor
    · split_ifs <;> simp_all [inner.symm]
    · intro d'
      split_ifs <;> simp_all

theorem focus_rotate {x y : α} {a b c : Shape α}
    (focus : Focus L (.elem x) p (.join d a x (.join d b y c)) fs) :
    Focus (rotate d L (.elem x)) (.elem y) p (.join d (.join d a x b) y c) fs := by
  obtain ⟨_, rfl, subA, subRest⟩ := sub_join.mp focus.sub
  obtain ⟨childEq, parentY, subB, subC⟩ := sub_join.mp subRest
  obtain ⟨_, nodupRest, xA, xRest, apart⟩ := nodup_join focus.shape_nodup
  obtain ⟨nodupB, _, yB, yC, apartRest⟩ := nodup_join nodupRest
  simp only [mem_join, not_or] at xRest apart
  obtain ⟨xB, xy, xC⟩ := xRest
  have offPath : ∀ e, e ∈ (Shape.join d a x (.join d b y c)).inorder →
      L.parent (.elem x) ≠ .elem e :=
    fun e mem here => focus.disjoint mem (focus.parent_onPath here)
  simp only [mem_join] at offPath
  obtain ⟨parX, parY, childX, childX', childY, childY'⟩ :=
    rotate_pair childEq xy (offPath x (by simp)) (offPath y (by simp))
  -- away from the three nodes relinked the links are as they were
  have agree : ∀ e, e ≠ x → e ≠ y → L.child d (.elem y) ≠ .elem e →
      L.parent (.elem x) ≠ .elem e → Agree L (Rbtree.rotate d L (.elem x)) e :=
    fun e hx hy inner parent => rotate_agree childEq hx hy inner parent
  have innerB : ∀ e, L.child d (.elem y) = .elem e → e ∈ b.inorder :=
    fun e here => subB.root_mem here
  refine ⟨?_, ?_, ?_, rotate_nullLeaf focus.nullLeaf d x⟩
  · refine sub_join.mpr ⟨rfl, parY, ?_, ?_⟩
    · rw [childY]
      refine sub_join.mpr ⟨rfl, parX, ?_, ?_⟩
      · rw [childX]
        refine subA.congr fun e mem => agree e ?_ ?_ ?_ (offPath e (by simp [mem]))
        · rintro rfl
          exact xA mem
        · rintro rfl
          exact (apart _ mem).2.1 rfl
        · intro here
          exact (apart e mem).1 (innerB e here)
      · rw [childX']
        refine subB.reparent nodupB (fun z here => ?_) fun e mem other => ?_
        · rw [here]
          exact rotate_inner childEq here (fun same => xB (same ▸ innerB z here))
            (fun same => yB (same ▸ innerB z here)) (offPath z (by simp [innerB z here]))
        · refine agree e ?_ ?_ other (offPath e (by simp [mem]))
          · rintro rfl
            exact xB mem
          · rintro rfl
            exact yB mem
    · rw [childY']
      refine subC.congr fun e mem => agree e ?_ ?_ ?_ (offPath e (by simp [mem]))
      · rintro rfl
        exact xC mem
      · rintro rfl
        exact yC mem
      · intro here
        exact apartRest e (innerB e here) mem
  · have away : ¬ OnPath fs x := focus.disjoint (by simp [mem_join])
    obtain ⟨root, outer⟩ := rotate_outer childEq (offPath x (by simp))
    refine (focus.hangs.relink focus.distinct away (.elem y)).congr root fun e onPath => ?_
    have notIn : ∀ e', e' ∈ (Shape.join d a x (.join d b y c)).inorder → e ≠ e' :=
      fun e' mem same => focus.disjoint mem (same ▸ onPath)
    refine outer e (notIn x (by simp [mem_join])) (notIn y (by simp [mem_join])) fun here => ?_
    exact notIn e (by simp [mem_join, innerB e here]) rfl
  · have same : (Shape.join d (.join d a x b) y c).inorder =
        (Shape.join d a x (.join d b y c)).inorder := by
      cases d <;> simp [Shape.join, Shape.inorder]
    have nodup := focus.nodup
    rw [plug_inorder] at nodup ⊢
    rwa [same]

/-! ## Splicing -/

theorem focus_spliceSide {x : α} {c : Shape α}
    (focus : Focus L (.elem x) p (.join d c x .leaf) fs) :
    Focus ((L.setParent (L.child d (.elem x)) p).relink p (.elem x) (L.child d (.elem x)))
      (L.child d (.elem x)) p c fs := by
  obtain ⟨_, parentX, subC, _⟩ := sub_join.mp focus.sub
  obtain ⟨nodupC, _, xC, _, _⟩ := nodup_join focus.shape_nodup
  generalize hchild : L.child d (.elem x) = child at subC ⊢
  have childC : ∀ e, child = .elem e → e ∈ c.inorder := fun e here => subC.root_mem here
  have offPath : ∀ e ∈ c.inorder, p ≠ .elem e := fun e mem here =>
    focus.disjoint (mem_join.mpr (.inl mem)) (focus.parent_onPath here)
  refine ⟨?_, ?_, ?_, ?_⟩
  · refine subC.reparent nodupC (fun z here => ?_) fun e mem other => ?_
    · subst here
      have relinked := relink_agree (L.setParent (.elem z) p) (.elem x) (.elem z)
        (offPath z (childC z rfl))
      exact ⟨relinked.1.trans (by simp), relinked.2⟩
    · have relinked := relink_agree (L.setParent child p) (.elem x) child (offPath e mem)
      exact ⟨relinked.1.trans (by simp [other.symm]), relinked.2⟩
  · have away : ¬ OnPath fs x := focus.disjoint (by simp [mem_join])
    have before : Hangs (L.setParent child p) (.elem x) p fs := by
      refine focus.hangs.congr rfl fun e onPath => ⟨?_, fun _ => rfl⟩
      have other : Ref.elem e ≠ child := fun here =>
        focus.disjoint (mem_join.mpr (.inl (childC e here.symm))) onPath
      simp [other]
    exact before.relink focus.distinct away child
  · refine focus.nodup.sublist ?_
    rw [plug_inorder, plug_inorder]
    refine ((List.Sublist.refl _).append ?_).append (List.Sublist.refl _)
    cases d <;> simp [Shape.join, Shape.inorder]
  · exact relink_nullLeaf (setParent_nullLeaf focus.nullLeaf _ _) _ _ _

/-- Splicing takes one element out of the tree: it has one child at most, which
takes its place. -/
theorem focus_splice {x : α} {a b : Shape α} (focus : Focus L (.elem x) p (.node a x b) fs)
    (missing : L.child .left (.elem x) = .null ∨ L.child .right (.elem x) = .null) :
    ∃ d c, Shape.node a x b = .join d c x .leaf ∧
      Focus (splice L (.elem x)) (spliceChild L (.elem x)) p c fs := by
  obtain ⟨_, parentX, subA, subB⟩ := focus.sub
  have leaf : ∀ {d : Side} {s : Shape α}, Sub L (.elem x) (L.child d (.elem x)) s →
      L.child d (.elem x) = .null → s = .leaf := by
    intro d s sub null
    rcases sub.root_cases with ⟨_, same⟩ | ⟨z, _, root⟩
    · exact same
    · rw [null] at root
      cases root
  unfold splice spliceChild
  rw [parentX]
  by_cases left : L.child .left (.elem x) = .null
  · have empty := leaf subA left
    subst empty
    have moved : Focus L (.elem x) p (.join .right b x .leaf) fs := focus
    refine ⟨.right, b, rfl, ?_⟩
    rw [if_neg (not_not.mpr left)]
    exact focus_spliceSide moved
  · have empty := leaf subB (missing.resolve_left left)
    subst empty
    have moved : Focus L (.elem x) p (.join .left a x .leaf) fs := focus
    refine ⟨.left, a, rfl, ?_⟩
    rw [if_pos left]
    exact focus_spliceSide moved

/-! ## Replacement -/

section Replace

variable {x s : α}

theorem takePlace_parent (L : Links α) (x s : α) (y : Ref α) :
    (takePlace L (.elem x) (.elem s)).parent y =
      if y = .elem s then L.parent (.elem x) else L.parent y := by
  unfold takePlace Links.relinkChild
  simp only
  split_ifs <;> simp [*]

theorem takePlace_root (L : Links α) (x s : α) :
    (takePlace L (.elem x) (.elem s)).root = L.root := by
  unfold takePlace Links.relinkChild
  simp only
  split_ifs <;> rfl

theorem takePlace_children (sx : s ≠ x) (notX : L.parent (.elem x) ≠ .elem x)
    (notS : L.parent (.elem x) ≠ .elem s) (d : Side) :
    (takePlace L (.elem x) (.elem s)).child d (.elem s) = L.child d (.elem x) ∧
      (takePlace L (.elem x) (.elem s)).child d (.elem x) = L.child d (.elem x) := by
  unfold takePlace Links.relinkChild
  simp only
  constructor
  · cases d <;> split_ifs <;> simp [notS.symm]
  · cases d <;> split_ifs <;> simp [notX.symm, sx.symm]

theorem takePlace_outer (notS : L.parent (.elem x) ≠ .elem s) {e : α} (es : e ≠ s) (d : Side) :
    (takePlace L (.elem x) (.elem s)).child d (.elem e) =
      (L.relink (L.parent (.elem x)) (.elem x) (.elem s)).child d (.elem e) := by
  unfold takePlace Links.relink Links.relinkChild
  split_ifs <;> simp_all

theorem takePlace_nullLeaf (nullLeaf : NullLeaf L) : NullLeaf (takePlace L (.elem x) (.elem s)) := by
  intro d
  unfold takePlace Links.relinkChild
  simp only
  split_ifs with occupied
  · simp [nullLeaf d, Ne.symm occupied]
  · simp [nullLeaf d, Ne.symm occupied]
  · simp [nullLeaf d]

theorem adoptChildren_child (L : Links α) (node succ : Ref α) :
    (adoptChildren L node succ).child = L.child ∧ (adoptChildren L node succ).root = L.root := by
  unfold adoptChildren
  simp only
  split_ifs <;> exact ⟨rfl, rfl⟩

theorem adoptChildren_parent (L : Links α) (node succ : Ref α) {y : Ref α} (notNull : y ≠ .null) :
    (adoptChildren L node succ).parent y =
      if L.child .left node = y ∨ L.child .right node = y then succ else L.parent y := by
  unfold adoptChildren
  by_cases left : L.child .left node = .null
  · by_cases right : L.child .right node = .null
    · simp [left, right, notNull.symm]
    · simp [left, right, notNull.symm, eq_comm]
  · by_cases right : L.child .right node = .null
    · simp [left, right, notNull.symm, eq_comm]
    · by_cases atRight : y = L.child .right node
      · simp [left, right, atRight]
      · simp [left, right, atRight, Ne.symm atRight, eq_comm]

theorem replace_root (L : Links α) (x s : α) :
    (replace L (.elem x) (.elem s)).root = if L.root = .elem x then .elem s else L.root := by
  have kept : (adoptChildren (takePlace L (.elem x) (.elem s)) (.elem x) (.elem s)).root = L.root :=
    (adoptChildren_child _ _ _).2.trans (takePlace_root L x s)
  unfold replace
  simp only [kept]
  split
  · rfl
  · exact kept

theorem replace_child (L : Links α) (x s : α) :
    (replace L (.elem x) (.elem s)).child = (takePlace L (.elem x) (.elem s)).child := by
  unfold replace
  simp only
  split <;> exact (adoptChildren_child _ _ _).1

theorem replace_parent (sx : s ≠ x) (notX : L.parent (.elem x) ≠ .elem x)
    (notS : L.parent (.elem x) ≠ .elem s) (e : α) :
    (replace L (.elem x) (.elem s)).parent (.elem e) =
      if L.child .left (.elem x) = .elem e ∨ L.child .right (.elem x) = .elem e then .elem s
      else if e = s then L.parent (.elem x) else L.parent (.elem e) := by
  have adopted := adoptChildren_parent (takePlace L (.elem x) (.elem s)) (.elem x) (.elem s)
    (show Ref.elem e ≠ .null by simp)
  rw [(takePlace_children sx notX notS .left).2, (takePlace_children sx notX notS .right).2,
    takePlace_parent] at adopted
  simp only [Ref.elem.injEq] at adopted
  rw [← adopted]
  unfold replace
  simp only
  split <;> rfl

theorem focus_replace {a b : Shape α} (focus : Focus L (.elem x) p (.node a x b) fs)
    (fresh : s ∉ (plug (.node a x b) fs).inorder) :
    Focus (replace L (.elem x) (.elem s)) (.elem s) p (.node a s b) fs := by
  obtain ⟨_, rfl, subA, subB⟩ := focus.sub
  have joined : (Shape.join .left a x b).inorder.Nodup := focus.shape_nodup
  obtain ⟨nodupA, nodupB, xA, xB, apart⟩ := nodup_join joined
  have inTree : ∀ e, e ∈ (Shape.node a x b).inorder ∨ OnPath fs e → e ≠ s := by
    rintro e mem rfl
    apply fresh
    rw [plug_inorder, List.mem_append, List.mem_append]
    rcases mem with mem | mem | mem
    · exact .inl (.inr mem)
    · exact .inl (.inl mem)
    · exact .inr mem
  have inShape : ∀ e, e ∈ a.inorder ∨ e = x ∨ e ∈ b.inorder → e ∈ (Shape.node a x b).inorder := by
    intro e mem
    simpa [Shape.inorder] using mem
  have sx : s ≠ x := (inTree x (.inl (inShape x (by simp)))).symm
  have offPath : ∀ e, e ∈ (Shape.node a x b).inorder → L.parent (.elem x) ≠ .elem e :=
    fun e mem here => focus.disjoint mem (focus.parent_onPath here)
  have notX := offPath x (inShape x (by simp))
  have notS : L.parent (.elem x) ≠ .elem s := fun here =>
    inTree s (.inr (focus.parent_onPath here)) rfl
  have rootA : ∀ e, L.child .left (.elem x) = .elem e → e ∈ a.inorder :=
    fun e here => subA.root_mem here
  have rootB : ∀ e, L.child .right (.elem x) = .elem e → e ∈ b.inorder :=
    fun e here => subB.root_mem here
  have parentOf := replace_parent sx notX notS
  have childOf : ∀ e, e ≠ s → ∀ d, (replace L (.elem x) (.elem s)).child d (.elem e) =
      (L.relink (L.parent (.elem x)) (.elem x) (.elem s)).child d (.elem e) := by
    intro e es d
    rw [replace_child]
    exact takePlace_outer notS es d
  -- the nodes below keep their children, and only the two roots change their parent
  have below : ∀ e, e ∈ (Shape.node a x b).inorder → ∀ d,
      (replace L (.elem x) (.elem s)).child d (.elem e) = L.child d (.elem e) := by
    intro e mem d
    rw [childOf e (inTree e (.inl mem)) d]
    exact (relink_agree L _ _ (offPath e mem)).2 d
  have subOf : ∀ {d : Side} {t : Shape α}, Sub L (.elem x) (L.child d (.elem x)) t →
      t.inorder.Nodup → (∀ e ∈ t.inorder, e ∈ (Shape.node a x b).inorder) →
      (∀ e ∈ t.inorder, L.child d.opp (.elem x) ≠ .elem e) →
      Sub (replace L (.elem x) (.elem s)) (.elem s) (L.child d (.elem x)) t := by
    intro d t sub nodup inside away
    refine sub.reparent nodup (fun z here => ?_) fun e mem other => ⟨?_, below e (inside e mem)⟩
    · rw [here, parentOf z, if_pos (by cases d <;> simp [here])]
      exact ⟨rfl, below z (inside z (sub.root_mem here))⟩
    · have neither : ¬ (L.child .left (.elem x) = .elem e ∨ L.child .right (.elem x) = .elem e) := by
        cases d <;> simp_all [Side.opp]
      rw [parentOf e, if_neg neither, if_neg (inTree e (.inl (inside e mem)))]
  refine ⟨?_, ?_, ?_, ?_⟩
  · have children := takePlace_children sx notX notS
    refine ⟨rfl, ?_, ?_, ?_⟩
    · have neither : ¬ (L.child .left (.elem x) = .elem s ∨ L.child .right (.elem x) = .elem s) := by
        rintro (here | here)
        · exact inTree s (.inl (inShape s (.inl (rootA s here)))) rfl
        · exact inTree s (.inl (inShape s (.inr (.inr (rootB s here))))) rfl
      rw [parentOf s, if_neg neither, if_pos rfl]
    · rw [replace_child, (children .left).1]
      exact subOf subA nodupA (fun e mem => inShape e (.inl mem))
        fun e mem here => apart e mem (rootB e here)
    · rw [replace_child, (children .right).1]
      exact subOf subB nodupB (fun e mem => inShape e (.inr (.inr mem)))
        fun e mem here => apart e (rootA e here) mem
  · have away : ¬ OnPath fs x := focus.disjoint (inShape x (by simp))
    refine (focus.hangs.relink focus.distinct away (.elem s)).congr ?_ fun e onPath => ⟨?_, ?_⟩
    · rw [replace_root, relink_root]
      cases fs with
      | nil =>
        obtain ⟨root, top⟩ := focus.hangs
        rw [if_pos root, if_pos top]
      | cons f fs =>
        obtain ⟨e, onPath, root⟩ := focus.hangs.root_onPath
        have notRoot : L.root ≠ .elem x := by
          rw [root]
          rintro same
          cases same
          exact away onPath
        rw [if_neg notRoot, if_neg (by rw [focus.hangs.1]; simp)]
    · have notIn : ∀ e', e' ∈ (Shape.node a x b).inorder → e ≠ e' :=
        fun e' mem same => focus.disjoint mem (same ▸ onPath)
      have neither : ¬ (L.child .left (.elem x) = .elem e ∨ L.child .right (.elem x) = .elem e) := by
        rintro (here | here)
        · exact notIn e (inShape e (.inl (rootA e here))) rfl
        · exact notIn e (inShape e (.inr (.inr (rootB e here)))) rfl
      rw [parentOf e, if_neg neither, if_neg (inTree e (.inr onPath)), relink_parent]
    · exact childOf e (inTree e (.inr onPath))
  · have rest := (List.nodup_cons.mp ((plug_perm a b x fs).nodup_iff.mp focus.nodup)).2
    refine (plug_perm a b s fs).nodup_iff.mpr (List.nodup_cons.mpr ⟨fun mem => fresh ?_, rest⟩)
    exact (plug_perm a b x fs).mem_iff.mpr (List.mem_cons_of_mem _ mem)
  · intro d
    rw [replace_child]
    exact takePlace_nullLeaf focus.nullLeaf d

end Replace

end Pjsip.Pjlib.Rbtree
