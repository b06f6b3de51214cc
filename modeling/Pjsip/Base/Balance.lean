import Pjsip.Base.LinkedTree
import Mathlib.Algebra.Group.Nat.Defs

/-!
# Balance of two-coloured shapes

Some elements of a shape are red, the others black. `Balanced n` says that no red element has a red
child and that every way down passes `n` black elements. A repair works at the end of a path: `Fits`
is what the path asks of the shape below it, and `balanced_plug` splits a balanced tree at any of
its nodes. The rest is what a recolouring or a rotation does to the two.
-/

namespace Pjsip.Base.LinkedTree

variable {α β : Type}

/-! ## Shapes over another type -/

def Shape.map (f : α → β) : Shape α → Shape β
  | .leaf => .leaf
  | .node l a r => .node (l.map f) (f a) (r.map f)

def Frame.map (f : α → β) (frame : Frame α) : Frame β :=
  ⟨frame.side, f frame.elem, frame.other.map f⟩

@[simp] theorem map_join (f : α → β) (d : Side) (near : Shape α) (a : α) (far : Shape α) :
    (Shape.join d near a far).map f = .join d (near.map f) (f a) (far.map f) := by
  cases d <;> rfl

theorem map_plug (f : α → β) (s : Shape α) (fs : List (Frame α)) :
    (plug s fs).map f = plug (s.map f) (fs.map (Frame.map f)) := by
  induction fs generalizing s with
  | nil => rfl
  | cons g fs ih =>
    rw [plug, ih, List.map_cons, plug]
    simp [Frame.close, Frame.map]

theorem Shape.map_congr {f g : α → β} {s : Shape α} (same : ∀ e ∈ s.inorder, f e = g e) :
    s.map f = s.map g := by
  induction s with
  | leaf => rfl
  | node l a r ihl ihr =>
    have left := ihl fun e mem => same e (by simp [Shape.inorder, mem])
    have right := ihr fun e mem => same e (by simp [Shape.inorder, mem])
    have here := same a (by simp [Shape.inorder])
    simp only [Shape.map, left, right, here]

theorem Frame.map_congr {f g : α → β} {fs : List (Frame α)} (same : ∀ e, OnPath fs e → f e = g e) :
    fs.map (Frame.map f) = fs.map (Frame.map g) := by
  induction fs with
  | nil => rfl
  | cons frame fs ih =>
    have above := ih fun e mem => same e (onPath_cons.mpr (.inr (.inr mem)))
    have here := same frame.elem (onPath_cons.mpr (.inl rfl))
    have other : frame.other.map f = frame.other.map g :=
      Shape.map_congr fun e mem => same e (onPath_cons.mpr (.inr (.inl mem)))
    simp only [List.map_cons, above, Frame.map, here, other]

theorem Shape.map_map {γ : Type} (f : α → β) (g : β → γ) (s : Shape α) :
    (s.map f).map g = s.map fun e => g (f e) := by
  induction s with
  | leaf => rfl
  | node l a r ihl ihr => simp only [Shape.map, ihl, ihr]

@[simp] theorem Shape.map_id (s : Shape α) : s.map id = s := by
  induction s with
  | leaf => rfl
  | node l a r ihl ihr => simp only [Shape.map, ihl, ihr, id]

theorem Shape.map_fixed {f : α → α} {s : Shape α} (fixed : ∀ e ∈ s.inorder, f e = e) :
    s.map f = s :=
  (Shape.map_congr fixed).trans s.map_id

theorem Frame.map_fixed {f : α → α} {fs : List (Frame α)} (fixed : ∀ e, OnPath fs e → f e = e) :
    fs.map (Frame.map f) = fs := by
  have same : Frame.map (id : α → α) = id :=
    funext fun frame => by rw [Frame.map, Shape.map_id, id, id]
  rw [Frame.map_congr (g := id) fixed, same, List.map_id]

theorem Shape.map_eq_leaf {f : α → β} {s : Shape α} (empty : s.map f = .leaf) : s = .leaf := by
  cases s with
  | leaf => rfl
  | node l a r => cases empty

theorem Shape.map_eq_single {f : α → β} {s : Shape α} {b : β}
    (single : s.map f = .node .leaf b .leaf) : ∃ a, s = .node .leaf a .leaf ∧ f a = b := by
  cases s with
  | leaf => cases single
  | node l a r =>
    simp only [Shape.map, Shape.node.injEq] at single
    obtain ⟨left, here, right⟩ := single
    obtain rfl := Shape.map_eq_leaf left
    obtain rfl := Shape.map_eq_leaf right
    exact ⟨a, rfl, here⟩

/-! ## Balance -/

def RootRed (red : α → Prop) : Shape α → Prop
  | .leaf => False
  | .node _ a _ => red a

/-- No red element has a red child, and every way down passes `n` black elements. -/
inductive Balanced (red : α → Prop) : Nat → Shape α → Prop
  | leaf : Balanced red 0 .leaf
  | red {n : Nat} {l r : Shape α} {a : α} : red a → ¬ RootRed red l → ¬ RootRed red r →
      Balanced red n l → Balanced red n r → Balanced red n (.node l a r)
  | black {n : Nat} {l r : Shape α} {a : α} : ¬ red a → Balanced red n l → Balanced red n r →
      Balanced red (n + 1) (.node l a r)

/-- The path ends in a red element. -/
def TopRed (red : α → Prop) : List (Frame α) → Prop
  | [] => False
  | f :: _ => red f.elem

/-- A balanced shape of height `n` at the end of the path makes a tree of height
`h`, unless its root and the end of the path are both red. -/
def Fits (red : α → Prop) : Nat → List (Frame α) → Nat → Prop
  | n, [], h => n = h
  | n, f :: fs, h =>
    Balanced red n f.other ∧
      (red f.elem ∧ ¬ RootRed red f.other ∧ ¬ TopRed red fs ∧ Fits red n fs h ∨
        ¬ red f.elem ∧ Fits red (n + 1) fs h)

section Rules

variable {red : α → Prop} {n m h k : Nat} {s t near far other : Shape α} {a b c : α} {d : Side}
  {fs : List (Frame α)}

@[simp] theorem rootRed_join : RootRed red (.join d near a far) ↔ red a := by
  cases d <;> exact Iff.rfl

theorem balanced_join : Balanced red n (.join d near a far) ↔
    red a ∧ ¬ RootRed red near ∧ ¬ RootRed red far ∧ Balanced red n near ∧ Balanced red n far ∨
      ¬ red a ∧ ∃ m, n = m + 1 ∧ Balanced red m near ∧ Balanced red m far := by
  constructor
  · intro balanced
    cases d with
    | left =>
      cases balanced with
      | red hot left right bl br => exact .inl ⟨hot, left, right, bl, br⟩
      | black cold bl br => exact .inr ⟨cold, _, rfl, bl, br⟩
    | right =>
      cases balanced with
      | red hot left right bl br => exact .inl ⟨hot, right, left, br, bl⟩
      | black cold bl br => exact .inr ⟨cold, _, rfl, br, bl⟩
  · intro parts
    rcases parts with ⟨hot, nearBlack, farBlack, bn, bf⟩ | ⟨cold, m, rfl, bn, bf⟩
    · cases d
      · exact .red hot nearBlack farBlack bn bf
      · exact .red hot farBlack nearBlack bf bn
    · cases d
      · exact .black cold bn bf
      · exact .black cold bf bn

theorem Balanced.join_red (hot : red a) (nearBlack : ¬ RootRed red near)
    (farBlack : ¬ RootRed red far) (bn : Balanced red n near) (bf : Balanced red n far) :
    Balanced red n (.join d near a far) :=
  balanced_join.mpr (.inl ⟨hot, nearBlack, farBlack, bn, bf⟩)

theorem Balanced.join_black (cold : ¬ red a) (bn : Balanced red n near) (bf : Balanced red n far) :
    Balanced red (n + 1) (.join d near a far) :=
  balanced_join.mpr (.inr ⟨cold, n, rfl, bn, bf⟩)

theorem Balanced.of_red (balanced : Balanced red n (.join d near a far)) (hot : red a) :
    ¬ RootRed red near ∧ ¬ RootRed red far ∧ Balanced red n near ∧ Balanced red n far := by
  rcases balanced_join.mp balanced with ⟨_, rest⟩ | ⟨cold, _⟩
  · exact rest
  · exact absurd hot cold

theorem Balanced.bounds {f : β → α} {s : Shape β} (balanced : Balanced red n (s.map f)) :
    2 ^ n ≤ s.inorder.length + 1 ∧ s.depth ≤ 2 * n + 1 ∧
      (¬ RootRed red (s.map f) → s.depth ≤ 2 * n) := by
  induction s generalizing n with
  | leaf =>
    cases balanced
    simp [Shape.inorder, Shape.depth]
  | node l a r ihl ihr =>
    simp only [Shape.inorder, Shape.depth, List.length_append, List.length_cons]
    cases balanced with
    | red hot left right bl br =>
      obtain ⟨sizeL, -, deepL⟩ := ihl bl
      obtain ⟨sizeR, -, deepR⟩ := ihr br
      have := deepL left
      have := deepR right
      exact ⟨by omega, by omega, fun cold => absurd hot cold⟩
    | black cold bl br =>
      obtain ⟨sizeL, deepL, -⟩ := ihl bl
      obtain ⟨sizeR, deepR, -⟩ := ihr br
      rw [Nat.pow_succ]
      exact ⟨by omega, by omega, fun _ => by omega⟩

theorem Balanced.height_unique (first : Balanced red n s) (second : Balanced red m s) : n = m := by
  induction first generalizing m with
  | leaf =>
    cases second with
    | leaf => rfl
  | red hot _ _ _ _ ihl _ =>
    cases second with
    | red _ _ _ bl _ => exact ihl bl
    | black cold _ _ => exact absurd hot cold
  | black cold _ _ ihl _ =>
    cases second with
    | red hot _ _ _ _ => exact absurd hot cold
    | black _ bl _ => exact congrArg (· + 1) (ihl bl)

theorem Balanced.leaf_of_height_zero (balanced : Balanced red 0 s) (rootBlack : ¬ RootRed red s) :
    s = .leaf := by
  cases balanced with
  | leaf => rfl
  | red hot _ _ _ _ => exact absurd hot rootBlack

theorem balanced_plug : Balanced red h (plug s fs) ↔
    ∃ n, Balanced red n s ∧ Fits red n fs h ∧ ¬ (RootRed red s ∧ TopRed red fs) := by
  induction fs generalizing s with
  | nil =>
    constructor
    · intro balanced
      exact ⟨h, balanced, rfl, fun both => both.2⟩
    · intro parts
      obtain ⟨n, balanced, same, _⟩ := parts
      exact same ▸ balanced
  | cons f fs ih =>
    rw [plug, ih, Frame.close]
    constructor
    · intro parts
      obtain ⟨n, balanced, fits, apart⟩ := parts
      rcases balanced_join.mp balanced with ⟨hot, nearBlack, farBlack, bn, bf⟩ | ⟨cold, m, rfl, bn, bf⟩
      · have above : ¬ TopRed red fs := fun top => apart ⟨rootRed_join.mpr hot, top⟩
        exact ⟨n, bn, ⟨bf, .inl ⟨hot, farBlack, above, fits⟩⟩, fun both => nearBlack both.1⟩
      · exact ⟨m, bn, ⟨bf, .inr ⟨cold, fits⟩⟩, fun both => cold both.2⟩
    · intro parts
      obtain ⟨n, balanced, ⟨bf, rest⟩, apart⟩ := parts
      rcases rest with ⟨hot, farBlack, above, fits⟩ | ⟨cold, fits⟩
      · have nearBlack : ¬ RootRed red s := fun root => apart ⟨root, hot⟩
        exact ⟨n, .join_red hot nearBlack farBlack balanced bf, fits, fun both => above both.2⟩
      · exact ⟨n + 1, .join_black cold balanced bf, fits, fun both => cold (rootRed_join.mp both.1)⟩

theorem Fits.height_unique {f : Frame α} (first : Fits red n (f :: fs) h)
    (second : Fits red m (f :: fs) k) : n = m :=
  first.1.height_unique second.1

theorem Fits.plug (fits : Fits red n fs h) (balanced : Balanced red n s)
    (rootBlack : ¬ RootRed red s) : Balanced red h (plug s fs) :=
  balanced_plug.mpr ⟨n, balanced, fits, fun both => rootBlack both.1⟩

/-! ## Repairs at the end of a path -/

theorem Fits.of_red {f g : Frame α} (fits : Fits red n (f :: g :: fs) h) (hot : red f.elem) :
    Balanced red n f.other ∧ ¬ RootRed red f.other ∧ Balanced red n g.other ∧ ¬ red g.elem ∧
      Fits red (n + 1) fs h := by
  obtain ⟨far, rest⟩ := fits
  rcases rest with ⟨_, farBlack, cold, other, above⟩ | ⟨black, _⟩
  · rcases above with ⟨grandRed, _⟩ | ⟨_, above⟩
    · exact absurd grandRed cold
    · exact ⟨far, farBlack, other, cold, above⟩
  · exact absurd hot black

/-- Parent and uncle become black and the grandparent red: the grandparent is now
the end of the path, two steps up. -/
theorem balanced_recolour {side : Side} {l r : Shape α} {q g u : α} (q' g' u' : α)
    (fits : Fits red n (⟨side, q, far⟩ :: ⟨d, g, .node l u r⟩ :: fs) h) (parentRed : red q)
    (uncleRed : red u) (balanced : Balanced red n s) (parentBlack : ¬ red q') (grandRed : red g')
    (uncleBlack : ¬ red u') :
    Balanced red (n + 1) (.join d (.join side s q' far) g' (.node l u' r)) ∧
      Fits red (n + 1) fs h := by
  obtain ⟨bf, _, bo, _, above⟩ := fits.of_red parentRed
  have uncle : Balanced red n (.join .left l u r) := bo
  obtain ⟨_, _, bl, br⟩ := uncle.of_red uncleRed
  have parentFits : Balanced red (n + 1) (.join side s q' far) := .join_black parentBlack balanced bf
  have uncleFits : Balanced red (n + 1) (.node l u' r) := .black uncleBlack bl br
  exact ⟨.join_red grandRed (by simpa using parentBlack) uncleBlack parentFits uncleFits, above⟩

/-- The parent goes over the grandparent, black over red: the tree is balanced. -/
theorem balanced_lift {q g : α} (q' g' : α)
    (fits : Fits red n (⟨d, q, far⟩ :: ⟨d, g, other⟩ :: fs) h) (parentRed : red q)
    (uncleBlack : ¬ RootRed red other) (balanced : Balanced red n s) (parentBlack : ¬ red q')
    (grandRed : red g') : Balanced red h (plug s (⟨d, q', .join d.opp other g' far⟩ :: fs)) := by
  obtain ⟨bf, farBlack, bo, _, above⟩ := fits.of_red parentRed
  have lowered : Balanced red n (.join d.opp other g' far) :=
    .join_red grandRed uncleBlack farBlack bo bf
  have rootBlack : ¬ RootRed red (.join d s q' (.join d.opp other g' far)) := by
    rwa [rootRed_join]
  exact above.plug (.join_black parentBlack balanced lowered) rootBlack

theorem balanced_straighten {x q : α} {f : Frame α}
    (fits : Fits red n (⟨d.opp, q, other⟩ :: f :: fs) h) (parentRed : red q)
    (balanced : Balanced red n (.join d near x far)) (nodeRed : red x) :
    Balanced red n (.join d other q near) ∧ Fits red n (⟨d, x, far⟩ :: f :: fs) h := by
  obtain ⟨bo, rest⟩ := fits
  obtain ⟨nearBlack, farBlack, bn, bf⟩ := balanced.of_red nodeRed
  rcases rest with ⟨_, otherBlack, top, above⟩ | ⟨cold, _⟩
  · exact ⟨.join_red parentRed otherBlack nearBlack bo bn,
      bf, .inl ⟨nodeRed, farBlack, top, above⟩⟩
  · exact absurd parentRed cold

theorem balanced_lone_child (balanced : Balanced red h (plug (.join d s a .leaf) fs)) :
    red a ∧ s = .leaf ∧ Fits red 0 fs h ∨
      ¬ red a ∧ Fits red 1 fs h ∧ (s = .leaf ∨ ∃ e, s = .node .leaf e .leaf ∧ red e) := by
  obtain ⟨n, below, fits, _⟩ := balanced_plug.mp balanced
  rcases balanced_join.mp below with ⟨hot, rootBlack, _, child, empty⟩ | ⟨cold, m, rfl, child, empty⟩
  · cases empty
    exact .inl ⟨hot, child.leaf_of_height_zero rootBlack, fits⟩
  · cases empty
    refine .inr ⟨cold, fits, ?_⟩
    cases child with
    | leaf => exact .inl rfl
    | red hot left right bl br =>
      obtain rfl := bl.leaf_of_height_zero left
      obtain rfl := br.leaf_of_height_zero right
      exact .inr ⟨_, rfl, hot⟩

theorem Fits.not_balanced {f : Frame α} (fits : Fits red n (f :: fs) h)
    (balanced : Balanced red m s) (other : m ≠ n) (k : Nat) :
    ¬ Balanced red k (LinkedTree.plug s (f :: fs)) := by
  intro whole
  obtain ⟨n', below, fits', _⟩ := balanced_plug.mp whole
  apply other
  rw [balanced.height_unique below, fits'.height_unique fits]

end Rules

end Pjsip.Base.LinkedTree
