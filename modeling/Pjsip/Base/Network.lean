import Mathlib.Logic.Function.Basic
import Mathlib.Logic.Relation

/-!
# Parties that exchange messages

A channel may lose, duplicate, delay and reorder: whatever a party has ever sent may reach its
destination at any time, any number of times, or never. A configuration is the state of each party
with all that it has sent, and a step is one party acting by itself or receiving what was sent to
it.
-/

namespace Pjsip.Base

variable {π σ μ : Type}

structure Config (π σ μ : Type) where
  node : π → σ
  /-- What each party has sent, and to whom. -/
  outbox : π → List (π × μ)

/-- What a party may do: the next state, and the messages sent. -/
structure Protocol (π σ μ : Type) where
  act : π → σ → σ → List (π × μ) → Prop
  recv : π → σ → π → μ → σ → List (π × μ) → Prop

section Put

variable [DecidableEq π]

/-- The party `p` goes to state `s` and sends `out`. -/
def Config.put (c : Config π σ μ) (p : π) (s : σ) (out : List (π × μ)) : Config π σ μ :=
  { node := Function.update c.node p s
    outbox := Function.update c.outbox p (out ++ c.outbox p) }

variable (c : Config π σ μ) (p : π) (s : σ) (out : List (π × μ))

@[simp] theorem put_node (q : π) : (c.put p s out).node q = if q = p then s else c.node q := by
  simp [Config.put, Function.update_apply]

@[simp] theorem put_outbox (q : π) :
    (c.put p s out).outbox q = if q = p then out ++ c.outbox p else c.outbox q := by
  simp [Config.put, Function.update_apply]

theorem mem_put_of_mem {q : π} {m : π × μ} (mem : m ∈ c.outbox q) :
    m ∈ (c.put p s out).outbox q := by
  rw [put_outbox]
  split
  · rename_i same
    subst same
    exact List.mem_append_right _ mem
  · exact mem

/-- What has been sent is new and from `p`, or it was sent before. -/
theorem mem_put {q : π} {m : π × μ} (mem : m ∈ (c.put p s out).outbox q) :
    q = p ∧ m ∈ out ∨ m ∈ c.outbox q := by
  rw [put_outbox] at mem
  split at mem
  · rename_i same
    subst same
    rcases List.mem_append.mp mem with new | old
    · exact .inl ⟨rfl, new⟩
    · exact .inr old
  · exact .inr mem

theorem put_put (s' : σ) (out' : List (π × μ)) :
    (c.put p s out).put p s' out' = c.put p s' (out' ++ out) := by
  unfold Config.put
  simp

inductive Protocol.Step (P : Protocol π σ μ) : Config π σ μ → Config π σ μ → Prop
  | act {c : Config π σ μ} {p : π} {s : σ} {out : List (π × μ)} :
      P.act p (c.node p) s out → P.Step c (c.put p s out)
  | deliver {c : Config π σ μ} {p q : π} {m : μ} {s : σ} {out : List (π × μ)} :
      (p, m) ∈ c.outbox q → P.recv p (c.node p) q m s out → P.Step c (c.put p s out)

/-- `c'` is reached from `c`, in whatever order the steps come. -/
def Protocol.Reaches (P : Protocol π σ μ) : Config π σ μ → Config π σ μ → Prop :=
  Relation.ReflTransGen P.Step

end Put

theorem Protocol.Reaches.invariant [DecidableEq π] {P : Protocol π σ μ}
    {Inv : Config π σ μ → Prop} (keeps : ∀ c c', Inv c → P.Step c c' → Inv c')
    {c c' : Config π σ μ} (reaches : P.Reaches c c') (start : Inv c) : Inv c' := by
  induction reaches with
  | refl => exact start
  | tail _ step ih => exact keeps _ _ ih step

end Pjsip.Base
