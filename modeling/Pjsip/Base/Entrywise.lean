import Mathlib.Data.List.Forall2
import Mathlib.Logic.Relation

/-!
# Lists that change entry by entry

No entry is added, dropped or moved; each of them has gone through some changes, or none.
-/

namespace Pjsip.Base

variable {α : Type*} {R S : α → α → Prop} {l l' l'' : List α}

/-- Every entry has become what it is now by changes `R`. -/
def Entrywise (R : α → α → Prop) (l l' : List α) : Prop :=
  List.Forall₂ (Relation.ReflTransGen R) l l'

@[refl] theorem Entrywise.refl (l : List α) : Entrywise R l l :=
  List.forall₂_same.2 fun _ _ => .refl

theorem Entrywise.trans (first : Entrywise R l l') (second : Entrywise R l' l'') :
    Entrywise R l l'' := by
  induction first generalizing l'' with
  | nil => exact second
  | cons change _ ih =>
    cases second with
    | cons change' rest => exact .cons (change.trans change') (ih rest)

theorem Entrywise.length_eq (changed : Entrywise R l l') : l'.length = l.length :=
  (List.Forall₂.length_eq changed).symm

theorem Entrywise.mono (sub : ∀ a b, R a b → S a b) (changed : Entrywise R l l') :
    Entrywise S l l' :=
  List.Forall₂.imp (fun _ _ change => Relation.ReflTransGen.mono sub _ _ change) changed

variable {f : α → α}

theorem Entrywise.map (change : ∀ a ∈ l, f a = a ∨ R a (f a)) :
    Entrywise R l (l.map f) := by
  induction l with
  | nil => exact .nil
  | cons a rest ih =>
    refine .cons ?_ (ih fun b mem => change b (List.mem_cons_of_mem a mem))
    rcases change a List.mem_cons_self with same | changed
    · rw [same]
    · exact .single changed

theorem Entrywise.modify {i : Nat} (change : ∀ a, l[i]? = some a → R a (f a)) :
    Entrywise R l (l.modify i f) := by
  induction l generalizing i with
  | nil =>
    rw [List.modify_nil]
  | cons a rest ih =>
    cases i with
    | zero =>
      rw [List.modify_zero_cons]
      exact .cons (.single (change a rfl)) (Entrywise.refl rest)
    | succ i =>
      rw [List.modify_succ_cons]
      exact .cons .refl (ih fun b at_ => change b at_)

theorem Entrywise.entry (changed : Entrywise R l l') {i : Nat} {a : α} (at_ : l[i]? = some a) :
    ∃ a', l'[i]? = some a' ∧ Relation.ReflTransGen R a a' := by
  induction changed generalizing i with
  | nil => nomatch at_
  | @cons b b' rest rest' change _ ih =>
    cases i with
    | zero =>
      cases at_
      exact ⟨b', rfl, change⟩
    | succ i => exact ih at_

theorem forall₂_origin {R : α → α → Prop} (related : List.Forall₂ R l l') {b : α} (mem : b ∈ l') :
    ∃ a ∈ l, R a b := by
  induction related with
  | nil => cases mem
  | @cons c c' rest rest' here _ ih =>
    rcases List.mem_cons.1 mem with rfl | mem
    · exact ⟨c, List.mem_cons_self, here⟩
    · obtain ⟨a, there, become⟩ := ih mem
      exact ⟨a, List.mem_cons_of_mem c there, become⟩

theorem forall₂_map_eq {β : Type*} {f : α → β} {R : α → α → Prop} (related : List.Forall₂ R l l')
    (same : ∀ a b, R a b → f b = f a) : l'.map f = l.map f := by
  induction related with
  | nil => rfl
  | cons here _ ih => rw [List.map_cons, List.map_cons, same _ _ here, ih]

theorem mem_modify {i : Nat} {a : α} (mem : a ∈ l.modify i f) :
    ∃ b ∈ l, a = b ∨ l[i]? = some b ∧ a = f b := by
  obtain ⟨j, at_⟩ := List.mem_iff_getElem?.1 mem
  rw [List.getElem?_modify, Option.map_eq_map, Option.map_eq_some_iff] at at_
  obtain ⟨b, there, rfl⟩ := at_
  refine ⟨b, List.mem_of_getElem? there, ?_⟩
  split
  · next own => exact .inr ⟨own ▸ there, rfl⟩
  · exact .inl rfl

theorem forall_mem_concat {P : α → Prop} {b : α} (before : ∀ a ∈ l, P a) (last : P b) :
    ∀ a ∈ l ++ [b], P a :=
  List.forall_mem_append.2 ⟨before, List.forall_mem_singleton.2 last⟩

theorem forall_mem_modify {P : α → Prop} {i : Nat} (before : ∀ a ∈ l, P a)
    (keeps : ∀ a, P a → P (f a)) : ∀ a ∈ l.modify i f, P a := by
  intro a mem
  obtain ⟨b, there, rfl | ⟨_, rfl⟩⟩ := mem_modify mem
  · exact before a there
  · exact keeps b (before b there)

end Pjsip.Base
