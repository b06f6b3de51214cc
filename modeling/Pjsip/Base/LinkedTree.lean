import Mathlib.Data.List.Basic
import Mathlib.Data.List.Nodup
import Mathlib.Tactic.Cases

/-!
# Binary trees linked in memory

Nodes that point to their two children and to their parent, with a distinguished null node. `Sub`
says that the links below a node have a given shape, `Hangs` that the links above it have a given
path, and `Focus` puts the two together: the shape of a tree around one of its nodes. Moving the
focus changes neither links nor tree; an update of the links near the focus is judged there and
keeps the rest by congruence.
-/

namespace Pjsip.Base.LinkedTree

inductive Side where
  | left
  | right
  deriving DecidableEq, Repr

def Side.opp : Side → Side
  | .left => .right
  | .right => .left

@[simp] theorem Side.opp_opp (d : Side) : d.opp.opp = d := by
  cases d <;> rfl

@[simp] theorem Side.opp_ne (d : Side) : d.opp ≠ d := by
  cases d <;> decide

@[simp] theorem Side.ne_opp (d : Side) : d ≠ d.opp := by
  cases d <;> decide

theorem Side.eq_or_opp (d d' : Side) : d' = d ∨ d' = d.opp := by
  cases d <;> cases d' <;> decide

/-- A pointer to a node: the null node, or an element. -/
inductive Ref (α : Type) where
  | null
  | elem (a : α)
  deriving DecidableEq, Repr

variable {α : Type}

structure Links (α : Type) where
  parent : Ref α → Ref α
  child : Side → Ref α → Ref α
  root : Ref α

/-! ## Shapes and paths -/

inductive Shape (α : Type) where
  | leaf
  | node (l : Shape α) (a : α) (r : Shape α)

def Shape.inorder : Shape α → List α
  | .leaf => []
  | .node l a r => l.inorder ++ a :: r.inorder

def Shape.depth : Shape α → Nat
  | .leaf => 0
  | .node l _ r => max l.depth r.depth + 1

theorem Shape.depth_le (s : Shape α) : s.depth ≤ s.inorder.length := by
  induction s with
  | leaf => exact Nat.le_refl _
  | node l a r ihl ihr =>
    simp only [depth, inorder, List.length_append, List.length_cons]
    omega

/-- The tree with `near` on side `d` and `far` on the other. -/
def Shape.join : Side → Shape α → α → Shape α → Shape α
  | .left, near, a, far => .node near a far
  | .right, near, a, far => .node far a near

/-- One step of a path to the root: the parent, the side on which the path came
up, and what hangs on the other side. -/
structure Frame (α : Type) where
  side : Side
  elem : α
  other : Shape α

def Frame.close (f : Frame α) (s : Shape α) : Shape α := .join f.side s f.elem f.other

/-- The whole tree that a path leads up to. -/
def plug : Shape α → List (Frame α) → Shape α
  | s, [] => s
  | s, f :: fs => plug (f.close s) fs

/-- The elements before and after the focus, in order. -/
def before : List (Frame α) → List α
  | [] => []
  | f :: fs =>
    before fs ++ (match f.side with
      | .left => []
      | .right => f.other.inorder ++ [f.elem])

def after : List (Frame α) → List α
  | [] => []
  | f :: fs =>
    (match f.side with
      | .left => f.elem :: f.other.inorder
      | .right => []) ++ after fs

theorem plug_inorder (s : Shape α) (fs : List (Frame α)) :
    (plug s fs).inorder = before fs ++ s.inorder ++ after fs := by
  induction fs generalizing s with
  | nil => simp [plug, before, after]
  | cons f fs ih =>
    obtain ⟨side, a, other⟩ := f
    rw [plug, ih]
    cases side <;> simp [Frame.close, Shape.join, Shape.inorder, before, after]

theorem join_opp (d : Side) (near : Shape α) (a : α) (far : Shape α) :
    Shape.join d.opp near a far = .join d far a near := by
  cases d <;> rfl

theorem exists_join (d : Side) (l : Shape α) (a : α) (r : Shape α) :
    ∃ near far, Shape.node l a r = .join d near a far := by
  cases d
  · exact ⟨l, r, rfl⟩
  · exact ⟨r, l, rfl⟩

variable {near far : Shape α}

theorem mem_join {d : Side} {a e : α} :
    e ∈ (Shape.join d near a far).inorder ↔ e ∈ near.inorder ∨ e = a ∨ e ∈ far.inorder := by
  cases d
  · simp [Shape.join, Shape.inorder]
  · simp only [Shape.join, Shape.inorder, List.mem_append, List.mem_cons]
    tauto

variable {a : α}

theorem nodup_join {d : Side}
    (nodup : (Shape.join d near a far).inorder.Nodup) :
    near.inorder.Nodup ∧ far.inorder.Nodup ∧ a ∉ near.inorder ∧ a ∉ far.inorder ∧
      ∀ e ∈ near.inorder, e ∉ far.inorder := by
  cases d
  · simp only [Shape.join, Shape.inorder, List.nodup_append', List.nodup_cons] at nodup
    obtain ⟨first, ⟨fresh, last⟩, apart⟩ := nodup
    exact ⟨first, last, fun mem => apart mem (by simp), fresh,
      fun e mem mem' => apart mem (by simp [mem'])⟩
  · simp only [Shape.join, Shape.inorder, List.nodup_append', List.nodup_cons] at nodup
    obtain ⟨first, ⟨fresh, last⟩, apart⟩ := nodup
    exact ⟨last, first, fresh, fun mem => apart mem (by simp),
      fun e mem mem' => apart mem' (by simp [mem])⟩

def OnPath (fs : List (Frame α)) (e : α) : Prop := e ∈ before fs ∨ e ∈ after fs

variable {e : α}

theorem onPath_cons {f : Frame α} {fs : List (Frame α)} :
    OnPath (f :: fs) e ↔ e = f.elem ∨ e ∈ f.other.inorder ∨ OnPath fs e := by
  obtain ⟨side, a, other⟩ := f
  cases side
  · simp only [OnPath, before, after, List.append_nil, List.mem_append, List.mem_cons]
    tauto
  · simp only [OnPath, before, after, List.nil_append, List.mem_append, List.mem_singleton]
    tauto

theorem mem_plug {s : Shape α} {fs : List (Frame α)} :
    e ∈ (plug s fs).inorder ↔ e ∈ s.inorder ∨ OnPath fs e := by
  rw [plug_inorder, List.mem_append, List.mem_append, OnPath]
  tauto

theorem plug_perm (a b : Shape α) (x : α) (fs : List (Frame α)) :
    (plug (.node a x b) fs).inorder.Perm
      (x :: (before fs ++ (a.inorder ++ (b.inorder ++ after fs)))) := by
  rw [plug_inorder]
  simp only [Shape.inorder, List.append_assoc, List.cons_append]
  exact (List.perm_middle.append_left _).trans List.perm_middle

theorem plug_nodup {a b : Shape α} {x : α} {fs : List (Frame α)}
    (nodup : (plug (.node a x b) fs).inorder.Nodup) :
    x ∉ a.inorder ∧ x ∉ b.inorder ∧ ¬ OnPath fs x := by
  have fresh := (List.nodup_cons.mp ((plug_perm a b x fs).nodup_iff.mp nodup)).1
  simp only [List.mem_append, not_or] at fresh
  exact ⟨fresh.2.1, fresh.2.2.1, fun onPath => onPath.elim fresh.1 fresh.2.2.2⟩

theorem length_le_elements (fs : List (Frame α)) : fs.length ≤ (before fs ++ after fs).length := by
  induction fs with
  | nil => exact Nat.le_refl 0
  | cons f fs ih =>
    obtain ⟨side, a, other⟩ := f
    simp only [List.length_append] at ih
    cases side <;> simp [before, after] <;> omega

/-! ## The links below and above a node -/

/-- The links from `r`, a child of `p`, have shape `s`. -/
def Sub (L : Links α) : Ref α → Ref α → Shape α → Prop
  | _, r, .leaf => r = .null
  | p, r, .node l a r' =>
    r = .elem a ∧ L.parent (.elem a) = p ∧ Sub L (.elem a) (L.child .left (.elem a)) l ∧
      Sub L (.elem a) (L.child .right (.elem a)) r'

/-- The links from `r`, hanging under `p`, up to the root follow a path. -/
def Hangs (L : Links α) : Ref α → Ref α → List (Frame α) → Prop
  | r, p, [] => L.root = r ∧ p = .null
  | r, p, f :: fs =>
    p = .elem f.elem ∧ L.child f.side p = r ∧ Sub L p (L.child f.side.opp p) f.other ∧
      Hangs L p (L.parent p) fs

theorem sub_join {L : Links α} {p r : Ref α} {d : Side} :
    Sub L p r (.join d near a far) ↔
      r = .elem a ∧ L.parent (.elem a) = p ∧ Sub L (.elem a) (L.child d (.elem a)) near ∧
        Sub L (.elem a) (L.child d.opp (.elem a)) far := by
  cases d
  · exact Iff.rfl
  · simp only [Shape.join, Sub, Side.opp]
    tauto

def NullLeaf (L : Links α) : Prop := ∀ d, L.child d .null = .null

/-- The shape of a tree around one of its nodes, or an empty place. -/
structure Focus (L : Links α) (r p : Ref α) (s : Shape α) (fs : List (Frame α)) : Prop where
  sub : Sub L p r s
  hangs : Hangs L r p fs
  nodup : (plug s fs).inorder.Nodup
  nullLeaf : NullLeaf L

/-- The links of a tree of shape `s`. -/
def Tree (L : Links α) (s : Shape α) : Prop := Focus L L.root .null s []

section Moving

variable {L : Links α} {r p : Ref α} {s : Shape α} {fs : List (Frame α)} {f : Frame α}

theorem Focus.up (focus : Focus L r p s (f :: fs)) : Focus L p (L.parent p) (f.close s) fs := by
  obtain ⟨sub, ⟨rfl, here, other, hangs⟩, nodup, nullLeaf⟩ := focus
  refine ⟨sub_join.mpr ⟨rfl, rfl, ?_, other⟩, hangs, nodup, nullLeaf⟩
  rw [here]
  exact sub

theorem Focus.down {d : Side}
    (focus : Focus L r p (.join d near a far) fs) :
    Focus L (L.child d (.elem a)) (.elem a) near (⟨d, a, far⟩ :: fs) := by
  obtain ⟨sub, hangs, nodup, nullLeaf⟩ := focus
  obtain ⟨rfl, parent, sub, other⟩ := sub_join.mp sub
  refine ⟨sub, ⟨rfl, rfl, other, ?_⟩, nodup, nullLeaf⟩
  rw [parent]
  exact hangs

theorem Focus.tree (focus : Focus L r p s fs) : Tree L (plug s fs) := by
  induction fs generalizing r p s with
  | nil =>
    obtain ⟨rfl, rfl⟩ := focus.hangs
    exact focus
  | cons f fs ih => exact ih focus.up

theorem Focus.locate (focus : Focus L r p s fs) (mem : a ∈ s.inorder) :
    ∃ p' near far fs', Focus L (.elem a) p' (.node near a far) fs' ∧
      plug (.node near a far) fs' = plug s fs := by
  induction s generalizing r p fs with
  | leaf => exact absurd mem (by simp [Shape.inorder])
  | node l b r' ihl ihr =>
    have split : a ∈ l.inorder ∨ a = b ∨ a ∈ r'.inorder := by
      simpa [Shape.inorder] using mem
    rcases split with inLeft | rfl | inRight
    · have moved : Focus L r p (.join .left l b r') fs := focus
      obtain ⟨p', near, far, fs', found, same⟩ := ihl moved.down inLeft
      exact ⟨p', near, far, fs', found, same⟩
    · obtain ⟨rfl, _⟩ := focus.sub
      exact ⟨p, l, r', fs, focus, rfl⟩
    · have moved : Focus L r p (.join .right r' b l) fs := focus
      obtain ⟨p', near, far, fs', found, same⟩ := ihr moved.down inRight
      exact ⟨p', near, far, fs', found, same⟩

theorem Tree.locate (tree : Tree L s) (mem : a ∈ s.inorder) :
    ∃ p near far fs, Focus L (.elem a) p (.node near a far) fs ∧ plug (.node near a far) fs = s :=
  Focus.locate tree mem

theorem Focus.disjoint (focus : Focus L r p s fs) (mem : e ∈ s.inorder) : ¬ OnPath fs e := by
  have nodup := focus.nodup
  rw [plug_inorder, List.append_assoc, List.nodup_append'] at nodup
  obtain ⟨_, rest, apart⟩ := nodup
  rw [List.nodup_append'] at rest
  rintro (first | last)
  · exact apart first (List.mem_append_left _ mem)
  · exact rest.2.2 mem last

theorem Focus.shape_nodup (focus : Focus L r p s fs) : s.inorder.Nodup := by
  have nodup := focus.nodup
  rw [plug_inorder, List.append_assoc, List.nodup_append'] at nodup
  exact (List.nodup_append'.mp nodup.2.1).1

theorem Focus.place {x : α} {a b : Shape α} {pre post : List α}
    (focus : Focus L r p (.node a x b) fs)
    (here : (plug (.node a x b) fs).inorder = pre ++ x :: post) :
    before fs ++ a.inorder = pre ∧ b.inorder ++ after fs = post := by
  have shape : (plug (.node a x b) fs).inorder =
      (before fs ++ a.inorder) ++ x :: (b.inorder ++ after fs) := by
    simp [plug_inorder, Shape.inorder]
  have nodup := focus.nodup
  rw [here] at nodup shape
  obtain ⟨_, tail, across⟩ := List.nodup_append'.mp nodup
  have apart : x ∉ pre ∧ x ∉ post := ⟨fun mem => across mem (by simp), (List.nodup_cons.mp tail).1⟩
  obtain ⟨first, _, last⟩ := (List.append_cons_inj_of_notMem apart.1 apart.2).mp shape
  exact ⟨first.symm, last.symm⟩

theorem Focus.parent_cases (focus : Focus L r p s fs) :
    p = .null ∧ fs = [] ∨ ∃ f fs', fs = f :: fs' ∧ p = .elem f.elem := by
  cases fs with
  | nil => exact .inl ⟨focus.hangs.2, rfl⟩
  | cons f fs => exact .inr ⟨f, fs, rfl, focus.hangs.1⟩

theorem Focus.parent_onPath (focus : Focus L r p s fs) (here : p = .elem e) :
    OnPath fs e := by
  rcases focus.parent_cases with ⟨null, _⟩ | ⟨f, fs', rfl, same⟩
  · rw [here] at null
    cases null
  · rw [here] at same
    cases same
    exact onPath_cons.mpr (.inl rfl)

end Moving

/-! ## Updates -/

def Links.setRoot (L : Links α) (r : Ref α) : Links α := { L with root := r }

@[simp] theorem setRoot_parent (L : Links α) (r : Ref α) : (L.setRoot r).parent = L.parent := rfl

@[simp] theorem setRoot_child (L : Links α) (r : Ref α) : (L.setRoot r).child = L.child := rfl

@[simp] theorem setRoot_root (L : Links α) (r : Ref α) : (L.setRoot r).root = r := rfl

section Updates

variable [DecidableEq α]

def Links.setParent (L : Links α) (x v : Ref α) : Links α :=
  { L with parent := fun y => if y = x then v else L.parent y }

def Links.setChild (L : Links α) (d : Side) (x v : Ref α) : Links α :=
  { L with child := fun d' y => if d' = d ∧ y = x then v else L.child d' y }

@[simp] theorem setParent_parent (L : Links α) (x v y : Ref α) :
    (L.setParent x v).parent y = if y = x then v else L.parent y := rfl

@[simp] theorem setParent_child (L : Links α) (x v : Ref α) : (L.setParent x v).child = L.child :=
  rfl

@[simp] theorem setParent_root (L : Links α) (x v : Ref α) : (L.setParent x v).root = L.root := rfl

@[simp] theorem setChild_child (L : Links α) (d d' : Side) (x v y : Ref α) :
    (L.setChild d x v).child d' y = if d' = d ∧ y = x then v else L.child d' y := rfl

@[simp] theorem setChild_parent (L : Links α) (d : Side) (x v : Ref α) :
    (L.setChild d x v).parent = L.parent := rfl

@[simp] theorem setChild_root (L : Links α) (d : Side) (x v : Ref α) :
    (L.setChild d x v).root = L.root := rfl

/-- The child link of `p` that led to `old` leads to `new`. -/
def Links.relinkChild (L : Links α) (p old new : Ref α) : Links α :=
  if L.child .left p = old then L.setChild .left p new else L.setChild .right p new

/-- The link that led to `old`, from its parent `p` or as the root, leads to `new`. -/
def Links.relink (L : Links α) (p old new : Ref α) : Links α :=
  if p ≠ .null then L.relinkChild p old new else L.setRoot new

end Updates

/-! ## Congruence -/

/-- Two sets of links agree at an element. -/
def Agree (L L' : Links α) (e : α) : Prop :=
  L'.parent (.elem e) = L.parent (.elem e) ∧ ∀ d, L'.child d (.elem e) = L.child d (.elem e)

section Congr

variable {L L' : Links α} {r p : Ref α} {s : Shape α} {fs : List (Frame α)}

theorem Sub.congr (sub : Sub L p r s) (agree : ∀ e ∈ s.inorder, Agree L L' e) : Sub L' p r s := by
  induction s generalizing p r with
  | leaf => exact sub
  | node l a r' ihl ihr =>
    obtain ⟨rfl, parent, left, right⟩ := sub
    have here : Agree L L' a := agree a (by simp [Shape.inorder])
    refine ⟨rfl, here.1.trans parent, ?_, ?_⟩
    · rw [here.2]
      exact ihl left fun e mem => agree e (by simp [Shape.inorder, mem])
    · rw [here.2]
      exact ihr right fun e mem => agree e (by simp [Shape.inorder, mem])

theorem Hangs.congr (hangs : Hangs L r p fs) (root : L'.root = L.root)
    (agree : ∀ e, OnPath fs e → Agree L L' e) : Hangs L' r p fs := by
  induction fs generalizing r p with
  | nil => exact ⟨root.trans hangs.1, hangs.2⟩
  | cons f fs ih =>
    obtain ⟨rfl, here, other, above⟩ := hangs
    have at_parent : Agree L L' f.elem := agree _ (onPath_cons.mpr (.inl rfl))
    refine ⟨rfl, (at_parent.2 _).trans here, ?_, ?_⟩
    · rw [at_parent.2]
      exact other.congr fun e mem => agree e (onPath_cons.mpr (.inr (.inl mem)))
    · rw [at_parent.1]
      exact ih above fun e mem => agree e (onPath_cons.mpr (.inr (.inr mem)))

theorem Hangs.root_onPath {f : Frame α} (hangs : Hangs L r p (f :: fs)) :
    ∃ e, OnPath (f :: fs) e ∧ L.root = .elem e := by
  induction fs generalizing r p f with
  | nil => exact ⟨f.elem, onPath_cons.mpr (.inl rfl), hangs.2.2.2.1.trans hangs.1⟩
  | cons f' fs ih =>
    obtain ⟨e, mem, root⟩ := ih hangs.2.2.2
    exact ⟨e, onPath_cons.mpr (.inr (.inr mem)), root⟩

theorem Hangs.root_unique {r' p' : Ref α} {f : Frame α} (hangs : Hangs L r p (f :: fs))
    (hangs' : Hangs L' r' p' (f :: fs)) : L'.root = L.root := by
  induction fs generalizing r p r' p' f with
  | nil =>
    rw [hangs.2.2.2.1, hangs'.2.2.2.1, hangs.1, hangs'.1]
  | cons f' fs ih => exact ih hangs.2.2.2 hangs'.2.2.2

theorem Sub.reparent {p' : Ref α} (sub : Sub L p r s) (nodup : s.inorder.Nodup)
    (root : ∀ a, r = .elem a → L'.parent r = p' ∧ ∀ d, L'.child d r = L.child d r)
    (agree : ∀ e ∈ s.inorder, r ≠ .elem e → Agree L L' e) : Sub L' p' r s := by
  cases s with
  | leaf => exact sub
  | node l a r' =>
    obtain ⟨rfl, _, left, right⟩ := sub
    obtain ⟨parent, child⟩ := root a rfl
    have joined : (Shape.join .left l a r').inorder.Nodup := nodup
    obtain ⟨_, _, notLeft, notRight, _⟩ := nodup_join joined
    refine ⟨rfl, parent, ?_, ?_⟩
    · rw [child]
      refine left.congr fun e mem => agree e (by simp [Shape.inorder, mem]) ?_
      rintro same
      cases same
      exact notLeft mem
    · rw [child]
      refine right.congr fun e mem => agree e (by simp [Shape.inorder, mem]) ?_
      rintro same
      cases same
      exact notRight mem

theorem Sub.root_cases (sub : Sub L p r s) :
    r = .null ∧ s = .leaf ∨ ∃ a ∈ s.inorder, r = .elem a := by
  cases s with
  | leaf => exact .inl ⟨sub, rfl⟩
  | node l a r' => exact .inr ⟨a, by simp [Shape.inorder], sub.1⟩

theorem Sub.root_unique {r' p' : Ref α} (sub : Sub L p r s) (sub' : Sub L' p' r' s) : r = r' := by
  cases s with
  | leaf => exact Eq.trans sub (Eq.symm sub')
  | node l a t => exact sub.1.trans sub'.1.symm

theorem Sub.shape_unique {t : Shape α} {p' : Ref α} (sub : Sub L p r s) (sub' : Sub L p' r t) :
    s = t := by
  induction s generalizing p p' r t with
  | leaf =>
    rcases sub'.root_cases with ⟨_, leaf⟩ | ⟨a, _, root⟩
    · exact leaf.symm
    · have null : r = .null := sub
      rw [root] at null
      cases null
  | node l a r' ihl ihr =>
    obtain ⟨rfl, _, left, right⟩ := sub
    cases t with
    | leaf => cases sub'
    | node l' b t' =>
      obtain ⟨same, _, left', right'⟩ := sub'
      cases same
      rw [ihl left left', ihr right right']

theorem Sub.root_mem (sub : Sub L p r s) (here : r = .elem e) : e ∈ s.inorder := by
  rcases sub.root_cases with ⟨null, _⟩ | ⟨a, mem, root⟩
  · rw [here] at null
    cases null
  · rw [here] at root
    cases root
    exact mem

end Congr

/-! ## Hanging another node -/

def Distinct (fs : List (Frame α)) : Prop := (before fs ++ after fs).Nodup

theorem Focus.distinct {L : Links α} {r p : Ref α} {s : Shape α} {fs : List (Frame α)}
    (focus : Focus L r p s fs) : Distinct fs := by
  have nodup := focus.nodup
  rw [plug_inorder, List.append_assoc] at nodup
  exact nodup.sublist ((List.Sublist.refl _).append (List.sublist_append_right _ _))

theorem Distinct.cons {f : Frame α} {fs : List (Frame α)} (distinct : Distinct (f :: fs)) :
    Distinct fs ∧ ¬ OnPath fs f.elem ∧ f.elem ∉ f.other.inorder ∧
      ∀ e ∈ f.other.inorder, ¬ OnPath fs e := by
  obtain ⟨side, a, other⟩ := f
  cases side
  · simp only [Distinct, before, after, List.append_nil] at distinct
    have parts : (before fs ++ ((a :: other.inorder) ++ after fs)).Nodup := distinct
    rw [List.nodup_append', List.nodup_append'] at parts
    obtain ⟨first, ⟨mid, last, apart⟩, outer⟩ := parts
    refine ⟨?_, ?_, (List.nodup_cons.mp mid).1, ?_⟩
    · exact distinct.sublist ((List.Sublist.refl _).append (List.sublist_append_right _ _))
    · rintro (inBefore | inAfter)
      · exact outer inBefore (by simp)
      · exact apart (by simp) inAfter
    · rintro e mem (inBefore | inAfter)
      · exact outer inBefore (by simp [mem])
      · exact apart (by simp [mem]) inAfter
  · simp only [Distinct, before, after, List.nil_append] at distinct
    have parts := distinct
    rw [List.append_assoc, List.nodup_append', List.nodup_append'] at parts
    obtain ⟨first, ⟨mid, last, apart⟩, outer⟩ := parts
    refine ⟨?_, ?_, ?_, ?_⟩
    · exact distinct.sublist ((List.sublist_append_left _ _).append (List.Sublist.refl _))
    · rintro (inBefore | inAfter)
      · exact outer inBefore (by simp)
      · exact apart (by simp) inAfter
    · rw [List.nodup_append'] at mid
      intro mem
      exact mid.2.2 mem (by simp)
    · rintro e mem (inBefore | inAfter)
      · exact outer inBefore (by simp [mem])
      · exact apart (by simp [mem]) inAfter

theorem Focus.sibling_ne_root {L : Links α} {r p : Ref α} {s : Shape α} {f : Frame α}
    {fs : List (Frame α)} (focus : Focus L r p s (f :: fs)) (notParent : L.root ≠ p) :
    L.root ≠ L.child f.side.opp p := by
  cases fs with
  | nil => exact absurd focus.up.hangs.1 notParent
  | cons g fs =>
    obtain ⟨e, onPath, root⟩ := focus.up.hangs.root_onPath
    intro same
    have inOther : e ∈ f.other.inorder := focus.hangs.2.2.1.root_mem (same.symm.trans root)
    exact focus.distinct.cons.2.2.2 e inOther onPath

/-! ## Ends and neighbours -/

/-- The outermost element of a list on one side. -/
def endOf : Side → List α → Option α
  | .left, xs => xs.head?
  | .right, xs => xs.getLast?

theorem endOf_join (d : Side) (near : Shape α) (a : α) (far : Shape α) :
    endOf d (Shape.join d near a far).inorder = (endOf d near.inorder).or (some a) := by
  cases d
  · simp [endOf, Shape.join, Shape.inorder]
  · simp only [endOf, Shape.join, Shape.inorder]
    rw [List.append_cons, List.getLast?_append, List.getLast?_append]
    rfl

/-- What lies beyond the focus on one side. -/
def beyond : Side → List (Frame α) → List α
  | .left, fs => before fs
  | .right, fs => after fs

theorem beyond_cons (d : Side) (f : Frame α) (fs : List (Frame α)) :
    endOf d.opp (beyond d (f :: fs)) =
      if f.side = d then endOf d.opp (beyond d fs) else some f.elem := by
  obtain ⟨side, a, other⟩ := f
  cases d <;> cases side <;> simp [endOf, beyond, before, after, Side.opp]

/-- The nodes that child links lead to from the root. -/
inductive Reach (L : Links α) : Ref α → Prop
  | root : Reach L L.root
  | child (d : Side) {r : Ref α} : Reach L r → Reach L (L.child d r)

theorem Focus.reach {L : Links α} {r p : Ref α} {s : Shape α} {fs : List (Frame α)}
    (focus : Focus L r p s fs) : Reach L r := by
  induction fs generalizing r p s with
  | nil =>
    rw [← focus.hangs.1]
    exact .root
  | cons f fs ih =>
    rw [← focus.hangs.2.1]
    exact .child f.side (ih focus.up)

section Hanging

variable [DecidableEq α] {L : Links α} {r p : Ref α} {f : Frame α} {fs : List (Frame α)}

theorem Hangs.setChild (hangs : Hangs L r p (f :: fs)) (distinct : Distinct (f :: fs))
    (new : Ref α) : Hangs (L.setChild f.side p new) new p (f :: fs) := by
  obtain ⟨rfl, here, other, above⟩ := hangs
  obtain ⟨_, fresh, notOther, _⟩ := distinct.cons
  have agree : ∀ e, e ≠ f.elem → Agree L (L.setChild f.side (.elem f.elem) new) e := by
    intro e away
    simp [Agree, away]
  refine ⟨rfl, by simp, ?_, ?_⟩
  · have kept := other.congr fun e mem => agree e (by rintro rfl; exact notOther mem)
    simpa using kept
  · exact above.congr rfl fun e mem => agree e (by rintro rfl; exact fresh mem)

theorem Hangs.relink {x : α} (hangs : Hangs L (.elem x) p fs) (distinct : Distinct fs)
    (away : ¬ OnPath fs x) (new : Ref α) : Hangs (L.relink p (.elem x) new) new p fs := by
  cases fs with
  | nil =>
    obtain ⟨_, rfl⟩ := hangs
    exact ⟨rfl, rfl⟩
  | cons f fs =>
    have moved := hangs.setChild distinct new
    obtain ⟨rfl, here, other, _⟩ := hangs
    have side : L.relink (.elem f.elem) (.elem x) new = L.setChild f.side (.elem f.elem) new := by
      unfold Links.relink Links.relinkChild
      rw [if_pos (by simp)]
      obtain ⟨side, a, rest⟩ := f
      cases side
      · rw [if_pos here]
      · have notLeft : L.child .left (.elem a) ≠ .elem x := by
          intro same
          rcases other.root_cases with ⟨null, _⟩ | ⟨b, mem, root⟩
          · exact absurd (null.symm.trans same) (by simp)
          · have same' : Ref.elem b = .elem x := root.symm.trans same
            cases same'
            exact away (onPath_cons.mpr (.inr (.inl mem)))
        rw [if_neg notLeft]
    rw [side]
    exact moved

@[simp] theorem relink_parent (L : Links α) (p old new : Ref α) :
    (L.relink p old new).parent = L.parent := by
  unfold Links.relink Links.relinkChild
  split_ifs <;> rfl

theorem relink_root (L : Links α) (p old new : Ref α) :
    (L.relink p old new).root = if p = .null then new else L.root := by
  unfold Links.relink Links.relinkChild
  split_ifs <;> simp_all

theorem relink_agree (L : Links α) {p : Ref α} (old new : Ref α) (away : p ≠ .elem e) :
    Agree L (L.relink p old new) e := by
  unfold Links.relink Links.relinkChild
  split_ifs <;> simp [Agree, away.symm]

theorem setParent_nullLeaf (nullLeaf : NullLeaf L) (x v : Ref α) : NullLeaf (L.setParent x v) :=
  nullLeaf

theorem setChild_nullLeaf (nullLeaf : NullLeaf L) (d : Side) (a : α) (v : Ref α) :
    NullLeaf (L.setChild d (.elem a) v) := by
  intro d'
  simp [nullLeaf d']

theorem relink_nullLeaf (nullLeaf : NullLeaf L) (p old new : Ref α) :
    NullLeaf (L.relink p old new) := by
  intro d
  unfold Links.relink Links.relinkChild
  split_ifs with occupied
  · simp [nullLeaf d, occupied.symm]
  · simp [nullLeaf d, occupied.symm]
  · exact nullLeaf d

end Hanging

end Pjsip.Base.LinkedTree
