import Mathlib.Data.List.Basic
import Mathlib.Logic.Function.Basic

/-!
# Hash tables with chaining

Keys are compared by an equivalence that the row of a key respects. A table keeps in each
row a chain of entries; in its type is that every entry stands in the row of its key and
that no two entries have the same key, so that removing the first entry found removes the
key.
-/

namespace Pjsip.Base

/-- How the keys of a table are compared, and where they are kept. -/
structure Hashing (κ : Type*) where
  same : κ → κ → Bool
  row : κ → Nat
  refl : ∀ k, same k k = true
  symm : ∀ {k k'}, same k k' = true → same k' k = true
  trans : ∀ {k k' k''}, same k k' = true → same k' k'' = true → same k k'' = true
  row_same : ∀ {k k'}, same k k' = true → row k = row k'

structure Entry (κ υ : Type*) where
  key : κ
  value : υ
  deriving Repr

variable {κ υ : Type*}

variable {e : Entry κ υ} {value : υ}

namespace Chain

section Walk

variable (same : κ → κ → Bool)

/-- The value of the first entry with the key `k`. -/
def get (k : κ) : List (Entry κ υ) → Option υ
  | [] => none
  | e :: rest => if same e.key k then some e.value else get k rest

/-- The first entry with the key `k` gets a new value; if there is none, one is appended. -/
def put (k : κ) (value : υ) : List (Entry κ υ) → List (Entry κ υ)
  | [] => [⟨k, value⟩]
  | e :: rest => if same e.key k then { e with value } :: rest else e :: put k value rest

/-- The first entry with the key `k` is taken out. -/
def erase (k : κ) : List (Entry κ υ) → List (Entry κ υ)
  | [] => []
  | e :: rest => if same e.key k then rest else e :: erase k rest

def Distinct (chain : List (Entry κ υ)) : Prop :=
  chain.Pairwise fun e e' => same e.key e'.key = false

end Walk

section Rules

variable {same : κ → κ → Bool} {k k' : κ} {chain : List (Entry κ υ)}

theorem put_keys (mem : e ∈ put same k value chain) :
    e.key = k ∨ ∃ e' ∈ chain, e'.key = e.key := by
  induction chain with
  | nil =>
    rw [put, List.mem_singleton] at mem
    exact .inl (by rw [mem])
  | cons head rest ih =>
    rw [put] at mem
    split at mem
    · cases List.mem_cons.1 mem with
      | inl first => exact .inr ⟨head, List.mem_cons_self, by rw [first]⟩
      | inr later => exact .inr ⟨e, List.mem_cons_of_mem _ later, rfl⟩
    · cases List.mem_cons.1 mem with
      | inl first => exact .inr ⟨e, first ▸ List.mem_cons_self, rfl⟩
      | inr later =>
        exact (ih later).imp_right fun ⟨e', mem', key⟩ => ⟨e', List.mem_cons_of_mem _ mem', key⟩

/-- An entry after a `put` is the new one, an old one with the new value, or was there. -/
theorem put_mem (mem : e ∈ put same k value chain) :
    e = ⟨k, value⟩ ∨ (∃ e' ∈ chain, same e'.key k = true ∧ e = { e' with value }) ∨ e ∈ chain := by
  induction chain with
  | nil =>
    rw [put, List.mem_singleton] at mem
    exact .inl mem
  | cons head rest ih =>
    rw [put] at mem
    split at mem
    · next found =>
      cases List.mem_cons.1 mem with
      | inl first => exact .inr (.inl ⟨head, List.mem_cons_self, found, first⟩)
      | inr later => exact .inr (.inr (List.mem_cons_of_mem _ later))
    · cases List.mem_cons.1 mem with
      | inl first => exact .inr (.inr (first ▸ List.mem_cons_self))
      | inr later =>
        rcases ih later with new | ⟨e', mem', rest⟩ | old
        · exact .inl new
        · exact .inr (.inl ⟨e', List.mem_cons_of_mem _ mem', rest⟩)
        · exact .inr (.inr (List.mem_cons_of_mem _ old))

theorem erase_sublist : (erase same k chain).Sublist chain := by
  induction chain with
  | nil => exact .slnil
  | cons head rest ih =>
    rw [erase]
    split
    · exact List.sublist_cons_self head rest
    · exact ih.cons_cons head

theorem get_eq_none (absent : ∀ e ∈ chain, same e.key k = false) : get same k chain = none := by
  induction chain with
  | nil => rfl
  | cons head rest ih =>
    rw [get, absent head List.mem_cons_self]
    exact ih fun e mem => absent e (List.mem_cons_of_mem _ mem)

theorem get_mem (found : get same k chain = some value) :
    ∃ e ∈ chain, same e.key k = true ∧ e.value = value := by
  induction chain with
  | nil => cases found
  | cons head rest ih =>
    rw [get] at found
    split at found
    · next eq => exact ⟨head, List.mem_cons_self, eq, Option.some.inj found⟩
    · obtain ⟨e, mem, rest⟩ := ih found
      exact ⟨e, List.mem_cons_of_mem _ mem, rest⟩

end Rules

end Chain

variable {H : Hashing κ}

theorem Hashing.same_congr (H : Hashing κ) {k k' : κ} (eq : H.same k k' = true) (l : κ) :
    H.same l k = H.same l k' := by
  apply Bool.eq_iff_iff.2
  exact ⟨fun first => H.trans first eq, fun second => H.trans second (H.symm eq)⟩

namespace Chain

variable {k k' : κ} {chain : List (Entry κ υ)}

theorem same_apart {k'' : κ} (found : H.same k k' = true) (other : H.same k' k'' = false) :
    H.same k k'' = false := by
  rw [← Bool.not_eq_true] at other ⊢
  exact fun eq => other (H.trans (H.symm found) eq)

theorem get_congr (eq : H.same k k' = true) : get H.same k chain = get H.same k' chain := by
  induction chain with
  | nil => rfl
  | cons head rest ih => rw [get, get, H.same_congr eq, ih]

theorem get_put_same (value : υ) : get H.same k (put H.same k value chain) = some value := by
  induction chain with
  | nil => rw [put, get, if_pos (H.refl k)]
  | cons head rest ih =>
    rw [put]
    split
    · next found => rw [get, if_pos found]
    · next other => rw [get, if_neg other, ih]

theorem get_put_other (value : υ) (other : H.same k k' = false) :
    get H.same k' (put H.same k value chain) = get H.same k' chain := by
  induction chain with
  | nil => simp only [put, get, other, Bool.false_eq_true, if_false]
  | cons head rest ih =>
    rw [put]
    split
    · next found =>
      have apart := same_apart found other
      simp only [get, apart, Bool.false_eq_true, if_false]
    · rw [get, get, ih]

theorem get_erase_other (other : H.same k k' = false) :
    get H.same k' (erase H.same k chain) = get H.same k' chain := by
  induction chain with
  | nil => rfl
  | cons head rest ih =>
    rw [erase]
    split
    · next found =>
      have apart := same_apart found other
      rw [get, apart]
      rfl
    · rw [get, get, ih]

theorem get_erase_same (distinct : Distinct H.same chain) :
    get H.same k (erase H.same k chain) = none := by
  induction chain with
  | nil => rfl
  | cons head rest ih =>
    obtain ⟨first, others⟩ := List.pairwise_cons.1 distinct
    rw [erase]
    split
    · next found =>
      refine get_eq_none fun e mem => ?_
      have apart := first e mem
      rw [← Bool.not_eq_true] at apart ⊢
      exact fun eq => apart (H.trans found (H.symm eq))
    · next other => rw [get, if_neg other, ih others]

theorem get_of_mem (distinct : Distinct H.same chain) (mem : e ∈ chain) :
    get H.same e.key chain = some e.value := by
  induction chain with
  | nil => cases mem
  | cons head rest ih =>
    obtain ⟨first, others⟩ := List.pairwise_cons.1 distinct
    rw [get]
    cases List.mem_cons.1 mem with
    | inl here =>
      subst here
      rw [if_pos (H.refl _)]
    | inr later =>
      rw [first e later, if_neg Bool.false_ne_true]
      exact ih others later

/-- An entry that is left after an `erase` has another key. -/
theorem erase_mem (distinct : Distinct H.same chain)
    (mem : e ∈ erase H.same k chain) : e ∈ chain ∧ H.same e.key k = false := by
  refine ⟨erase_sublist.subset mem, ?_⟩
  rw [← Bool.not_eq_true]
  intro same
  have present := get_of_mem (distinct.sublist erase_sublist) mem
  rw [get_congr same, get_erase_same distinct] at present
  cases present

theorem put_distinct (distinct : Distinct H.same chain) :
    Distinct H.same (put H.same k value chain) := by
  induction chain with
  | nil => exact List.pairwise_singleton _ _
  | cons head rest ih =>
    obtain ⟨first, others⟩ := List.pairwise_cons.1 distinct
    rw [put]
    split
    · exact List.pairwise_cons.2 ⟨first, others⟩
    · next other =>
      refine List.pairwise_cons.2 ⟨fun e mem => ?_, ih others⟩
      rcases put_keys mem with new | ⟨e', mem', key⟩
      · rw [new]
        exact Bool.not_eq_true _ ▸ other
      · rw [← key]
        exact first e' mem'

end Chain

namespace Chain

section Places

variable {same : κ → κ → Bool} {k : κ} {chain : List (Entry κ υ)}

/-- The place of the first entry with the key `k`, or the end of the chain. -/
def find (same : κ → κ → Bool) (k : κ) (chain : List (Entry κ υ)) : Nat :=
  chain.findIdx fun e => same e.key k

theorem find_cons (head : Entry κ υ) :
    find same k (head :: chain) = if same head.key k then 0 else find same k chain + 1 := by
  rw [find, List.findIdx_cons]
  cases same head.key k <;> rfl

theorem get_eq_find : get same k chain = (chain[find same k chain]?).map (·.value) := by
  induction chain with
  | nil => rfl
  | cons head rest ih =>
    rw [get, find_cons]
    split
    · rfl
    · rw [ih, List.getElem?_cons_succ]

theorem put_eq_find (value : υ) : put same k value chain = match chain[find same k chain]? with
      | some e => chain.set (find same k chain) { e with value }
      | none => chain ++ [⟨k, value⟩] := by
  induction chain with
  | nil => rfl
  | cons head rest ih =>
    rw [put, find_cons]
    split
    · rfl
    · rw [ih, List.getElem?_cons_succ]
      cases rest[find same k rest]? <;> rfl

theorem erase_eq_find : erase same k chain = chain.eraseIdx (find same k chain) := by
  induction chain with
  | nil => rfl
  | cons head rest ih =>
    rw [erase, find_cons]
    split
    · rfl
    · rw [ih, List.eraseIdx_cons_succ]

end Places

end Chain

/-- A table: every entry in the row of its key, no two entries with the same key. -/
structure ChainedTable (H : Hashing κ) (υ : Type*) where
  rows : Nat → List (Entry κ υ)
  placed : ∀ i, ∀ e ∈ rows i, H.row e.key = i
  distinct : ∀ i, Chain.Distinct H.same (rows i)

namespace ChainedTable

def empty : ChainedTable H υ where
  rows _ := []
  placed _ _ mem := absurd mem List.not_mem_nil
  distinct _ := List.Pairwise.nil

def get (t : ChainedTable H υ) (k : κ) : Option υ := Chain.get H.same k (t.rows (H.row k))

def put (t : ChainedTable H υ) (k : κ) (value : υ) : ChainedTable H υ where
  rows := Function.update t.rows (H.row k) (Chain.put H.same k value (t.rows (H.row k)))
  placed := by
    intro i e mem
    by_cases here : i = H.row k
    · subst here
      rw [Function.update_self] at mem
      rcases Chain.put_keys mem with new | ⟨e', mem', key⟩
      · rw [new]
      · rw [← key]
        exact t.placed _ e' mem'
    · rw [Function.update_of_ne here] at mem
      exact t.placed i e mem
  distinct := by
    intro i
    by_cases here : i = H.row k
    · subst here
      rw [Function.update_self]
      exact Chain.put_distinct (t.distinct _)
    · rw [Function.update_of_ne here]
      exact t.distinct i

def erase (t : ChainedTable H υ) (k : κ) : ChainedTable H υ where
  rows := Function.update t.rows (H.row k) (Chain.erase H.same k (t.rows (H.row k)))
  placed := by
    intro i e mem
    by_cases here : i = H.row k
    · subst here
      rw [Function.update_self] at mem
      exact t.placed _ e (Chain.erase_sublist.subset mem)
    · rw [Function.update_of_ne here] at mem
      exact t.placed i e mem
  distinct := by
    intro i
    by_cases here : i = H.row k
    · subst here
      rw [Function.update_self]
      exact (t.distinct _).sublist Chain.erase_sublist
    · rw [Function.update_of_ne here]
      exact t.distinct i

def Holds (t : ChainedTable H υ) (e : Entry κ υ) : Prop := ∃ i, e ∈ t.rows i

variable {t : ChainedTable H υ} {k k' : κ}

theorem get_congr (eq : H.same k k' = true) : t.get k = t.get k' := by
  rw [get, get, H.row_same eq]
  exact Chain.get_congr eq

theorem get_holds (found : t.get k = some value) :
    ∃ e, t.Holds e ∧ H.same e.key k = true ∧ e.value = value := by
  obtain ⟨e, mem, rest⟩ := Chain.get_mem found
  exact ⟨e, ⟨_, mem⟩, rest⟩

@[simp] theorem get_put_self (value : υ) : (t.put k value).get k = some value := by
  simp only [get, put, Function.update_self]
  exact Chain.get_put_same value

theorem get_put_same (value : υ) (eq : H.same k k' = true) :
    (t.put k value).get k' = some value := by
  rw [← get_congr eq, get_put_self]

theorem get_put_other (value : υ) (other : H.same k k' = false) :
    (t.put k value).get k' = t.get k' := by
  simp only [get, put]
  by_cases row : H.row k' = H.row k
  · rw [row, Function.update_self]
    exact Chain.get_put_other value other
  · rw [Function.update_of_ne row]

theorem get_erase_same (eq : H.same k k' = true) : (t.erase k).get k' = none := by
  rw [← get_congr eq]
  simp only [get, erase, Function.update_self]
  exact Chain.get_erase_same (t.distinct _)

theorem get_erase_other (other : H.same k k' = false) : (t.erase k).get k' = t.get k' := by
  simp only [get, erase]
  by_cases row : H.row k' = H.row k
  · rw [row, Function.update_self]
    exact Chain.get_erase_other other
  · rw [Function.update_of_ne row]

theorem Holds.get (held : t.Holds e) : t.get e.key = some e.value := by
  obtain ⟨i, mem⟩ := held
  have placed := t.placed i e mem
  subst placed
  exact Chain.get_of_mem (t.distinct _) mem

/-- What a table holds after a `put` is the new entry, or one of before, perhaps with the new
value. -/
theorem Holds.of_put (held : (t.put k value).Holds e) :
    e = ⟨k, value⟩ ∨ (∃ e', t.Holds e' ∧ H.same e'.key k = true ∧ e = { e' with value })
      ∨ t.Holds e := by
  obtain ⟨i, mem⟩ := held
  simp only [put] at mem
  by_cases here : i = H.row k
  · subst here
    rw [Function.update_self] at mem
    rcases Chain.put_mem mem with new | ⟨e', mem', rest⟩ | old
    · exact .inl new
    · exact .inr (.inl ⟨e', ⟨_, mem'⟩, rest⟩)
    · exact .inr (.inr ⟨_, old⟩)
  · rw [Function.update_of_ne here] at mem
    exact .inr (.inr ⟨i, mem⟩)

/-- What a table holds after an `erase` was held before, under another key. -/
theorem Holds.of_erase (held : (t.erase k).Holds e) :
    t.Holds e ∧ H.same e.key k = false := by
  obtain ⟨i, mem⟩ := held
  simp only [erase] at mem
  by_cases here : i = H.row k
  · subst here
    rw [Function.update_self] at mem
    obtain ⟨old, other⟩ := Chain.erase_mem (t.distinct _) mem
    exact ⟨⟨_, old⟩, other⟩
  · rw [Function.update_of_ne here] at mem
    refine ⟨⟨i, mem⟩, ?_⟩
    rw [← Bool.not_eq_true]
    exact fun same => here ((t.placed i e mem).symm.trans (H.row_same same))

end ChainedTable

end Pjsip.Base
