import Pjsip.Pjlib.Rbtree.EraseBalance
import Pjsip.Pjlib.Rbtree.OrderedSet

/-!
# When the tree is a red-black tree

The tree that insertions build is a red-black tree. Removals keep it one as long as
none of them unlinks a black node for which nothing red can stand in.
-/

namespace Pjsip.Pjlib.Rbtree

open Pjsip.Base Pjsip.Base.LinkedTree

variable {α κ : Type}

/-- A way down from a node to the null node, with the black nodes it passes. -/
inductive Descent (tree : PjRbtree α κ) : Ref α → Nat → Prop
  | null : Descent tree .null 0
  | red {a : α} {n : Nat} (d : Side) : tree.color (.elem a) = .red →
      Descent tree (tree.links.child d (.elem a)) n → Descent tree (.elem a) n
  | black {a : α} {n : Nat} (d : Side) : tree.color (.elem a) = .black →
      Descent tree (tree.links.child d (.elem a)) n → Descent tree (.elem a) (n + 1)

structure RedBlack (tree : PjRbtree α κ) : Prop where
  root : tree.color tree.links.root = .black
  /-- No red node has a red child. -/
  red : ∀ a d b, Reach tree.links (.elem a) → tree.links.child d (.elem a) = .elem b →
    tree.color (.elem a) = .red → tree.color (.elem b) = .black
  heights : ∀ m n, Descent tree tree.links.root m → Descent tree tree.links.root n → m = n

variable {tree : PjRbtree α κ}

theorem not_isRed {e : α} : ¬ IsRed (tree.hue e) ↔ tree.color (.elem e) = .black := by
  show ¬ tree.color (.elem e) = .red ↔ _
  cases tree.color (.elem e) <;> simp

theorem Descent.height {p r : Ref α} {s : Shape α} {n m : Nat} (sub : Sub tree.links p r s)
    (balanced : Balanced IsRed n (s.map tree.hue)) (descent : Descent tree r m) : m = n := by
  induction s generalizing p r n m with
  | leaf =>
    cases balanced
    have null : r = .null := sub
    subst null
    cases descent
    rfl
  | node l a t ihl ihr =>
    obtain ⟨rfl, _, left, right⟩ := sub
    have children : ∀ {d k j}, Descent tree (tree.links.child d (.elem a)) k →
        Balanced IsRed j (l.map tree.hue) → Balanced IsRed j (t.map tree.hue) → k = j := by
      intro d k j below bl br
      cases d with
      | left => exact ihl left bl below
      | right => exact ihr right br below
    cases balanced with
    | red hot _ _ bl br =>
      cases descent with
      | red _ _ below => exact children below bl br
      | black _ black _ => exact absurd hot (not_isRed.mpr black)
    | black cold bl br =>
      cases descent with
      | red _ red _ => exact absurd red cold
      | black _ _ below => exact congrArg (· + 1) (children below bl br)

theorem exists_descent {p r : Ref α} {s : Shape α} (sub : Sub tree.links p r s) :
    ∃ m, Descent tree r m := by
  induction s generalizing p r with
  | leaf =>
    have null : r = .null := sub
    exact ⟨0, null ▸ .null⟩
  | node l a t ihl _ =>
    obtain ⟨rfl, _, left, _⟩ := sub
    obtain ⟨m, below⟩ := ihl left
    cases color : tree.color (.elem a) with
    | red => exact ⟨m, .red .left color below⟩
    | black => exact ⟨m + 1, .black .left color below⟩

theorem balanced_of_descents {p r : Ref α} {s : Shape α} (sub : Sub tree.links p r s)
    (red : ∀ a ∈ s.inorder, ∀ d b, tree.links.child d (.elem a) = .elem b →
      tree.color (.elem a) = .red → tree.color (.elem b) = .black)
    (heights : ∀ m n, Descent tree r m → Descent tree r n → m = n) :
    ∃ n, Balanced IsRed n (s.map tree.hue) := by
  induction s generalizing p r with
  | leaf => exact ⟨0, .leaf⟩
  | node l a t ihl ihr =>
    obtain ⟨rfl, _, left, right⟩ := sub
    have down : ∀ {d d' m n}, Descent tree (tree.links.child d (.elem a)) m →
        Descent tree (tree.links.child d' (.elem a)) n → m = n := by
      intro d d' m n first second
      cases color : tree.color (.elem a) with
      | red => exact heights m n (.red d color first) (.red d' color second)
      | black =>
        exact Nat.succ_inj.mp (heights _ _ (.black d color first) (.black d' color second))
    obtain ⟨n, bl⟩ := ihl left (fun e mem => red e (by simp [Shape.inorder, mem]))
      fun _ _ first second => down first second
    obtain ⟨n', br⟩ := ihr right (fun e mem => red e (by simp [Shape.inorder, mem]))
      fun _ _ first second => down first second
    -- both sides have the height of a way down
    obtain ⟨m, first⟩ := exists_descent left
    obtain ⟨m', second⟩ := exists_descent right
    have same : n' = n := by
      rw [← first.height left bl, ← second.height right br]
      exact down second first
    subst same
    by_cases hot : IsRed (tree.hue a)
    · have child : ∀ {d s'}, Sub tree.links (.elem a) (tree.links.child d (.elem a)) s' →
          ¬ RootRed IsRed (s'.map tree.hue) := by
        intro d s' sub
        cases s' with
        | leaf => exact id
        | node l' b r' =>
          exact not_isRed.mpr (red a (by simp [Shape.inorder]) d b sub.1 hot)
      exact ⟨n', .red hot (child left) (child right) bl br⟩
    · exact ⟨n' + 1, .black hot bl br⟩

variable [LinearOrder κ] {comp : κ → κ → Int} {xs : List α}

theorem redBlack_iff (ok : SearchTree tree xs) : RedBlack tree ↔ InBalance tree := by
  constructor
  · intro redBlack
    obtain ⟨t, inTree, rfl⟩ := ok.order
    have order : InOrder tree.links t.inorder := ⟨t, inTree, rfl⟩
    obtain ⟨n, balanced⟩ := balanced_of_descents inTree.sub
      (fun a mem d b => redBlack.red a d b ((order.reach_iff a).mpr mem)) redBlack.heights
    exact ⟨t, n, inTree, balanced⟩
  · intro balance
    refine ⟨ok.rootBlack, ?_, ?_⟩
    · intro a d b reach child red
      obtain ⟨p, l, r, fs, focus, _⟩ := ok.order.locate ((ok.order.reach_iff a).mp reach)
      obtain ⟨near, far, shape⟩ := exists_join d l a r
      rw [shape] at focus
      obtain ⟨n, h, balanced, _⟩ := balance.fits focus
      rw [map_join] at balanced
      obtain ⟨nearBlack, _⟩ := balanced.of_red red
      obtain ⟨_, _, below, _⟩ := sub_join.mp focus.sub
      rw [child] at below
      cases near with
      | leaf => cases below
      | node l' b' r' =>
        obtain ⟨same, _⟩ := below
        cases same
        exact not_isRed.mp nearBlack
    · intro m n first second
      obtain ⟨t, h, inTree, balanced⟩ := balance
      rw [first.height inTree.sub balanced, second.height inTree.sub balanced]

/-- In a red-black tree a search ends within two steps for each bit of the size. -/
def FindsFast (comp : κ → κ → Int) (tree : PjRbtree α κ) : Prop :=
  RedBlack tree → ∀ key,
    findLoop comp tree key (2 * Nat.log2 (tree.size + 1)) tree.links.root
      = pjRbtreeFind comp tree key

theorem SearchTree.findsFast (compares : Compares comp) (ok : SearchTree tree xs) :
    FindsFast comp tree := by
  intro redBlack key
  obtain ⟨t, inTree, rfl⟩ := ok.order
  obtain ⟨_, n, inTree', balanced⟩ := (redBlack_iff ok).1 redBlack
  obtain rfl := inTree.sub.shape_unique inTree'.sub
  have cold : ¬ RootRed IsRed (t.map tree.hue) := by
    cases t with
    | leaf => exact id
    | node l a r => exact not_isRed.mpr (inTree.sub.1 ▸ redBlack.root)
  obtain ⟨wide, -, deep⟩ := balanced.bounds
  have high : n ≤ Nat.log2 (tree.size + 1) := (Nat.le_log2 (by omega)).2 (ok.size ▸ wide)
  obtain ⟨found, search, spec⟩ := findLoop_spec (k := key) compares inTree.sub ok.increasing
    ((deep cold).trans (Nat.mul_le_mul_left 2 high))
  obtain ⟨found', search', spec'⟩ := pjRbtreeFind_spec compares ok key
  rw [search, search', Option.ext fun e => (spec e).trans (spec' e).symm]

variable [DecidableEq α]

/-- The removals of a run that keep the balance. -/
def BalancedOp (s : PjRbtree α κ × Finset α) : Op α κ → Prop
  | .erase node =>
    ∃ succ, spliced s.1 (.elem node) = some succ ∧ KeepsBalance s.1 (.elem node) succ
  | _ => True

theorem balancedOp_iff (compares : Compares comp) {s s' : PjRbtree α κ × Finset α} {op : Op α κ}
    {answer : Answer α} (held : Held s) (redBlack : RedBlack s.1) (legal : Legal s op)
    (taken : stepHeld comp s op = some (s', answer)) (held' : Held s') :
    RedBlack s'.1 ↔ BalancedOp s op := by
  obtain ⟨xs, ok, same⟩ := held
  obtain ⟨xs', ok', _⟩ := held'
  rw [redBlack_iff ok']
  have balance := (redBlack_iff ok).mp redBlack
  simp only [stepHeld, Option.map_eq_some_iff] at taken
  obtain ⟨⟨tree', answer'⟩, stepped, rfl, rfl⟩ := taken
  cases op with
  | insert element key =>
    simp only [step, Option.map_eq_some_iff, Prod.mk.injEq] at stepped
    obtain ⟨⟨fixed, rv⟩, returned, rfl, _⟩ := stepped
    have ready := ok.setKey fun mem => legal ((same element).mp mem)
    have balance' : InBalance (s.1.setKey element key) := balance.congr rfl rfl
    exact iff_of_true (pjRbtreeInsert_balance compares ready balance' returned) trivial
  | erase node =>
    simp only [step, Option.map_eq_some_iff, Prod.mk.injEq] at stepped
    obtain ⟨fixed, returned, rfl, _⟩ := stepped
    have mem := (same node).mpr legal
    obtain ⟨succ, found, keeps⟩ := pjRbtreeErase_balance ok mem balance returned
    rw [keeps, BalancedOp]
    constructor
    · intro kept
      exact ⟨succ, found, kept⟩
    · intro parts
      obtain ⟨succ', found', kept⟩ := parts
      rw [found] at found'
      cases found'
      exact kept
  | find key =>
    simp only [step, Option.map_eq_some_iff, Prod.mk.injEq] at stepped
    obtain ⟨_, _, rfl, _⟩ := stepped
    exact iff_of_true balance trivial

/-- A legal run stays with red-black trees exactly when its removals keep the
balance. -/
theorem rbtree_redBlack_iff (compares : Compares comp) (memory : PjRbtree α κ)
    (ops : List (Op α κ)) (legal : Along (stepHeld comp) Legal (pjRbtreeInit memory, ∅) ops) :
    Throughout (stepHeld comp) (fun s => RedBlack s.1) (pjRbtreeInit memory, ∅) ops ↔
      Along (stepHeld comp) BalancedOp (pjRbtreeInit memory, ∅) ops := by
  have start : Held (pjRbtreeInit memory, (∅ : Finset α)) :=
    ⟨[], searchTree_init memory, by simp⟩
  have redBlack : RedBlack (pjRbtreeInit memory) := by
    rw [redBlack_iff (searchTree_init memory)]
    obtain ⟨t, inTree, empty⟩ := (searchTree_init memory).order
    cases t with
    | leaf => exact ⟨.leaf, 0, inTree, .leaf⟩
    | node l a r => simp [Shape.inorder] at empty
  have same : ∀ (s : PjRbtree α κ × Finset α) op s' answer, Held s → RedBlack s.1 → Legal s op →
      stepHeld comp s op = some (s', answer) → (RedBlack s'.1 ↔ BalancedOp s op) := by
    intro s op s' answer held now legal taken
    obtain ⟨s₁, answer₁, taken₁, held'⟩ := held_step compares s op held legal
    rw [taken] at taken₁
    cases taken₁
    exact balancedOp_iff compares held now legal taken held'
  exact legal.throughout_iff (held_step compares) same start redBlack

theorem rbtree_findsFast (compares : Compares comp) (memory : PjRbtree α κ)
    (ops : List (Op α κ)) (legal : Along (stepHeld comp) Legal (pjRbtreeInit memory, ∅) ops) :
    Throughout (stepHeld comp) (fun s => FindsFast comp s.1) (pjRbtreeInit memory, ∅) ops := by
  have start : Held (pjRbtreeInit memory, (∅ : Finset α)) :=
    ⟨[], searchTree_init memory, by simp⟩
  exact (legal.throughout (held_step compares) start).imp fun _ ⟨_, ok, _⟩ => ok.findsFast compares

theorem rbtree_findsFast_three : Throughout (stepHeld fun a b : Int => a - b)
      (fun s : PjRbtree Nat Int × Finset Nat => FindsFast (fun a b => a - b) s.1)
      (pjRbtreeInit usedMemory, ∅) [.insert 0 1, .insert 1 2, .insert 2 3] :=
  rbtree_findsFast ⟨fun a b => by omega, fun a b => by omega⟩ usedMemory _ (by decide +kernel)

/-- The removal of a red node, of three. -/
theorem rbtree_redBlack_iff_three : Throughout (stepHeld fun a b : Int => a - b)
        (fun s : PjRbtree Nat Int × Finset Nat => RedBlack s.1) (pjRbtreeInit usedMemory, ∅)
        [.insert 0 1, .insert 1 2, .insert 2 3, .erase 2] ↔
      Along (stepHeld fun a b : Int => a - b) BalancedOp (pjRbtreeInit usedMemory, ∅)
        [.insert 0 1, .insert 1 2, .insert 2 3, .erase 2] :=
  rbtree_redBlack_iff ⟨fun a b => by omega, fun a b => by omega⟩ usedMemory _ (by decide +kernel)

/-- Four nodes, and the smallest removed: a black leaf goes without a repair. -/
def blackLeafErased : List (Op Nat Int) :=
  [.insert 0 1, .insert 1 2, .insert 2 3, .insert 3 4, .erase 0]

/-- The root, its children and the left child of the right one, with their colours. -/
def nearRoot (s : PjRbtree Nat Int × Finset Nat) : List (Ref Nat × Color) :=
  [s.1.links.root, s.1.links.child .left (.elem 1), s.1.links.child .right (.elem 1),
    s.1.links.child .left (.elem 2)].map fun r => (r, s.1.color r)

theorem rbtree_redBlack_fails :
    Along (stepHeld fun a b : Int => a - b) Legal (pjRbtreeInit usedMemory, ∅) blackLeafErased ∧
      ¬ Throughout (stepHeld fun a b : Int => a - b)
        (fun s : PjRbtree Nat Int × Finset Nat => RedBlack s.1) (pjRbtreeInit usedMemory, ∅)
        blackLeafErased := by
  refine ⟨by decide +kernel, ?_⟩
  intro holds
  obtain ⟨s, ran, redBlack⟩ := holds.last
  have seen : (exec (stepHeld fun a b : Int => a - b) (pjRbtreeInit usedMemory, ∅)
      blackLeafErased).map nearRoot =
        some [(.elem 1, .black), (.null, .black), (.elem 2, .black), (.null, .black)] := by
    decide +kernel
  rw [ran, Option.map_some, Option.some.injEq] at seen
  simp only [nearRoot, List.map_cons, List.map_nil, List.cons.injEq, Prod.mk.injEq] at seen
  obtain ⟨⟨root, rootBlack⟩, ⟨left, _⟩, ⟨right, rightBlack⟩, ⟨inner, _⟩, _⟩ := seen
  rw [root] at rootBlack
  rw [right] at rightBlack
  -- one black node on the left of the root, two on its right
  have short : Descent s.1 (.elem 1) 1 := .black .left rootBlack (left ▸ .null)
  have below : Descent s.1 (.elem 2) 1 := .black .left rightBlack (inner ▸ .null)
  have long : Descent s.1 (.elem 1) 2 := .black .right rootBlack (right ▸ below)
  have same := redBlack.heights 1 2 (root ▸ short) (root ▸ long)
  omega

end Pjsip.Pjlib.Rbtree
