import Mathlib.Data.Finset.Card
import Pjsip.Base.Run
import Pjsip.Pjlib.Rbtree.Erase

/-!
# The tree is an ordered set

Along every run of insertions, removals and searches the tree holds what was
inserted and not removed since, and the functions that read it show it in order.
-/

namespace Pjsip.Pjlib.Rbtree

open Pjsip.Base Pjsip.Base.LinkedTree

variable {α κ : Type} [DecidableEq α]

/-- The elements inserted with answer 0 and not removed since. -/
def heldAfter (held : Finset α) : Op α κ → Answer α → Finset α
  | .insert element _, .rv rv => if rv = 0 then insert element held else held
  | .erase node, _ => held.erase node
  | _, _ => held

/-- One call, with the elements held. -/
def stepHeld (comp : κ → κ → Int) (s : PjRbtree α κ × Finset α) (op : Op α κ) :
    Option ((PjRbtree α κ × Finset α) × Answer α) :=
  (step comp s.1 op).map fun next => ((next.1, heldAfter s.2 op next.2), next.2)

/-- What a caller may do: only nodes in the tree are removed, and a node in the tree
keeps its key. -/
def Legal (s : PjRbtree α κ × Finset α) : Op α κ → Prop
  | .insert element key => element ∈ s.2 → s.1.key element = key
  | .erase node => node ∈ s.2
  | .find _ => True

instance [DecidableEq κ] (s : PjRbtree α κ × Finset α) : (op : Op α κ) → Decidable (Legal s op)
  | .insert element key => inferInstanceAs (Decidable (element ∈ s.2 → s.1.key element = key))
  | .erase node => inferInstanceAs (Decidable (node ∈ s.2))
  | .find _ => .isTrue trivial

/-- The tree holds exactly `held`, in search order, and every function says so. -/
structure OrderedSet [LinearOrder κ] (comp : κ → κ → Int) (s : PjRbtree α κ × Finset α) : Prop where
  /-- The nodes hang in search order, each under its parent. -/
  shape : ∃ t, Tree s.1.links t ∧ Increasing s.1.key t.inorder
  reach : ∀ e, Reach s.1.links (.elem e) ↔ e ∈ s.2
  size : s.1.size = s.2.card
  find : ∀ key, ∃ found, pjRbtreeFind comp s.1 key = some found ∧
    ∀ e, found = some e ↔ e ∈ s.2 ∧ s.1.key e = key
  /-- An insertion answers -1 and changes nothing, or it answers 0, by the key. -/
  insert : ∀ element key, Legal s (.insert element key) → ((∃ e ∈ s.2, s.1.key e = key) →
      pjRbtreeInsert comp (s.1.setKey element key) element = some (s.1.setKey element key, -1)) ∧
    ((∀ e ∈ s.2, s.1.key e ≠ key) →
      ∃ tree, pjRbtreeInsert comp (s.1.setKey element key) element = some (tree, 0))
  /-- First and next list the elements by increasing keys, last and previous the
  other way round. -/
  walks : ∃ xs : List α, (∀ e, e ∈ xs ↔ e ∈ s.2) ∧ Increasing s.1.key xs ∧
    (pjRbtreeFirst s.1).bind (enumerate .right s.1 s.1.size) = some xs ∧
    (pjRbtreeLast s.1).bind (enumerate .left s.1 s.1.size) = some xs.reverse

theorem stepHeld_of_step {comp : κ → κ → Int} {s : PjRbtree α κ × Finset α} {op : Op α κ}
    {tree' : PjRbtree α κ} {answer : Answer α} (taken : step comp s.1 op = some (tree', answer)) :
    stepHeld comp s op = some ((tree', heldAfter s.2 op answer), answer) := by
  simp only [stepHeld, taken, Option.map_some]

variable [LinearOrder κ] {comp : κ → κ → Int} {tree : PjRbtree α κ} {xs : List α}

theorem SearchTree.setKey (ok : SearchTree tree xs) {element : α} {key : κ}
    (kept : element ∈ xs → tree.key element = key) : SearchTree (tree.setKey element key) xs := by
  obtain ⟨order, increasing, size, rootBlack, nullBlack⟩ := ok
  have same : ∀ e ∈ xs, (tree.setKey element key).key e = tree.key e := by
    intro e mem
    by_cases here : e = element
    · subst here
      simp [PjRbtree.setKey, kept mem]
    · simp [PjRbtree.setKey, here]
  refine ⟨order, ?_, size, rootBlack, nullBlack⟩
  refine List.Pairwise.imp_of_mem ?_ increasing
  intro a b memA memB less
  rw [same a memA, same b memB]
  exact less

theorem searchTree_init (memory : PjRbtree α κ) : SearchTree (pjRbtreeInit memory) [] := by
  refine ⟨⟨.leaf, ⟨rfl, ⟨rfl, rfl⟩, by simp [plug, Shape.inorder], ?_⟩, rfl⟩, .nil, rfl, ?_, ?_⟩
  · intro d
    simp [pjRbtreeInit]
  · simp [pjRbtreeInit]
  · simp [pjRbtreeInit]

/-- The invariant of the runs: some list of the elements is in search order. -/
def Held (s : PjRbtree α κ × Finset α) : Prop :=
  ∃ xs, SearchTree s.1 xs ∧ ∀ e, e ∈ xs ↔ e ∈ s.2

theorem held_step (compares : Compares comp) (s : PjRbtree α κ × Finset α) (op : Op α κ)
    (held : Held s) (legal : Legal s op) :
    ∃ s' answer, stepHeld comp s op = some (s', answer) ∧ Held s' := by
  obtain ⟨xs, ok, same⟩ := held
  have taken : ∀ tree' answer, step comp s.1 op = some (tree', answer) →
      Held (tree', heldAfter s.2 op answer) →
        ∃ s' answer, stepHeld comp s op = some (s', answer) ∧ Held s' :=
    fun tree' answer taken held' => ⟨_, _, stepHeld_of_step taken, held'⟩
  cases op with
  | insert element key =>
    have ready := ok.setKey fun mem => legal ((same element).mp mem)
    rcases pjRbtreeInsert_spec compares ready element with
      ⟨refused, _⟩ | ⟨tree', pre, post, accepted, rfl, _, _, ok'⟩
    · exact taken (s.1.setKey element key) (.rv (-1))
        (by simp only [step, refused, Option.map_some])
        ⟨xs, ready, by simpa [heldAfter] using same⟩
    · refine taken _ (.rv 0) (by simp only [step, accepted, Option.map_some]) ⟨_, ok', fun e => ?_⟩
      have here := same e
      simp only [heldAfter, if_true, Finset.mem_insert, List.mem_append, List.mem_cons, ← here]
      tauto
  | erase node =>
    have mem := (same node).mpr legal
    obtain ⟨tree', erased, _, ok'⟩ := pjRbtreeErase_spec ok mem
    refine taken _ (.node (some node)) (by simp only [step, erased, Option.map_some])
      ⟨_, ok', fun e => ?_⟩
    simp only [heldAfter, Finset.mem_erase, ← same]
    exact ok.increasing.nodup.mem_erase_iff
  | find key =>
    obtain ⟨found, search, _⟩ := pjRbtreeFind_spec compares ok key
    exact taken _ (.node found) (by simp only [step, search, Option.map_some]) ⟨xs, ok, same⟩

theorem Held.orderedSet (compares : Compares comp) {s : PjRbtree α κ × Finset α} (held : Held s) :
    OrderedSet comp s := by
  obtain ⟨xs, ok, same⟩ := held
  have nodup := ok.increasing.nodup
  refine ⟨?_, ?_, ?_, ?_, ?_, xs, same, ok.increasing, ?_, ?_⟩
  · obtain ⟨t, inTree, rfl⟩ := ok.order
    exact ⟨t, inTree, ok.increasing⟩
  · intro e
    rw [ok.order.reach_iff, same]
  · have all : xs.toFinset = s.2 := by
      ext e
      rw [List.mem_toFinset, same]
    rw [ok.size, ← all, List.toFinset_card_of_nodup nodup]
  · intro key
    obtain ⟨found, search, spec⟩ := pjRbtreeFind_spec compares ok key
    exact ⟨found, search, fun e => by rw [spec, same]⟩
  · intro element key legal
    have ready := ok.setKey fun mem => legal ((same element).mp mem)
    have keys : ∀ e ∈ s.2, e ∈ xs ∧ ((s.1.setKey element key).key e = key ↔ s.1.key e = key) := by
      intro e mem
      refine ⟨(same e).mpr mem, ?_⟩
      by_cases here : e = element
      · subst here
        simp [PjRbtree.setKey, legal mem]
      · simp [PjRbtree.setKey, here]
    have own : (s.1.setKey element key).key element = key := by
      simp [PjRbtree.setKey]
    rcases pjRbtreeInsert_spec compares ready element with
      ⟨refused, e, mem, equal⟩ | ⟨tree', _, _, accepted, _, _, unequal, _⟩
    · rw [own] at equal
      have inHeld := (same e).mp mem
      exact ⟨fun _ => refused, fun unequal => absurd ((keys e inHeld).2.mp equal) (unequal e inHeld)⟩
    · rw [own] at unequal
      refine ⟨?_, fun _ => ⟨tree', accepted⟩⟩
      rintro ⟨e, mem, equal⟩
      exact absurd ((keys e mem).2.mpr equal) (unequal e (keys e mem).1)
  · have first : pjRbtreeFirst s.1 = some xs.head? := outermost_spec ok.order ok.size .right
    rw [first, Option.bind_some]
    have whole : towards .right xs = [] ++ xs := rfl
    exact enumerate_spec ok.order ok.size whole (Nat.le_of_eq ok.size.symm)
  · have last : pjRbtreeLast s.1 = some xs.reverse.head? := outermost_spec ok.order ok.size .left
    rw [last, Option.bind_some]
    have whole : towards .left xs = [] ++ xs.reverse := rfl
    exact enumerate_spec ok.order ok.size whole (by simp [ok.size])

/-- The tree is an ordered set along every legal run. -/
theorem rbtree_orderedSet (compares : Compares comp) (memory : PjRbtree α κ)
    (ops : List (Op α κ)) (legal : Along (stepHeld comp) Legal (pjRbtreeInit memory, ∅) ops) :
    Throughout (stepHeld comp) (OrderedSet comp) (pjRbtreeInit memory, ∅) ops := by
  have start : Held (pjRbtreeInit memory, (∅ : Finset α)) :=
    ⟨[], searchTree_init memory, by simp⟩
  have runs := legal.throughout (held_step compares) start
  exact runs.imp fun _ held => held.orderedSet compares

/-- Three nodes whose memory holds whatever it held. -/
def usedMemory : PjRbtree Nat Int :=
  { links := { parent := fun _ => .elem 7, child := fun _ _ => .elem 7, root := .elem 7 }
    color := fun _ => .red
    key := fun _ => 0
    size := 9 }

theorem rbtree_orderedSet_three :
    Throughout (stepHeld fun a b : Int => a - b) (OrderedSet fun a b : Int => a - b)
      (pjRbtreeInit usedMemory, ∅)
      [.insert 0 5, .insert 1 8, .insert 2 5, .erase 0, .find 8] := by
  refine rbtree_orderedSet ⟨fun a b => by omega, fun a b => by omega⟩ usedMemory _ ?_
  refine .cons (fun mem => absurd mem (by decide)) rfl ?_
  refine .cons (fun mem => absurd mem (by decide)) rfl ?_
  refine .cons (fun mem => absurd mem (by decide)) rfl ?_
  refine .cons (show (0 : Nat) ∈ _ by decide) rfl ?_
  exact .cons trivial rfl trivial

end Pjsip.Pjlib.Rbtree
