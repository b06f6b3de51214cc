import Mathlib.Data.List.Infix
import Mathlib.Logic.Basic

/-!
# Programs that call back

A program runs scripts while it is being executed: its callbacks, and whatever else happens
meanwhile. All of them write what they do to one log. A discipline says which entries are as they
should be; an invariant is kept by every script whose entries are, and so is the part of the state
that each script puts back.
-/

namespace Pjsip.Base

universe u v

/-- What is written down, and what is kept by scripts that behave. -/
structure Discipline (σ : Type u) (ε : Type v) where
  log : σ → List ε
  careful : ε → Prop
  /-- What is left alone in any case. -/
  always : σ → σ → Prop
  good : σ → Prop
  kept : σ → σ → Prop
  always_trans : ∀ {s s' s'' : σ}, always s s' → always s' s'' → always s s''
  kept_trans : ∀ {s s' s'' : σ}, kept s s' → kept s' s'' → kept s s''

namespace Discipline

variable {σ : Type u} {ε : Type v} {D : Discipline σ ε}

def Careful (D : Discipline σ ε) (s : σ) : Prop := ∀ event ∈ D.log s, D.careful event

/-- The program gets from `s` to `s'`, provided that `P`: it only adds to the log, and keeps
what is to be kept if all entries are as they should be. -/
def Leads (D : Discipline σ ε) (P : Prop) (s s' : σ) : Prop :=
  (D.log s <:+ D.log s' ∧ D.always s s') ∧ (D.Careful s' → D.good s → P → D.good s' ∧ D.kept s s')

def Safe (D : Discipline σ ε) (script : σ → σ) : Prop := ∀ s, D.Leads True s (script s)

variable {P Q : Prop} {s s' s'' : σ} {script : σ → σ}

theorem Careful.suffix (careful : D.Careful s') (adds : D.log s <:+ D.log s') : D.Careful s :=
  fun event mem => careful event (adds.subset mem)

theorem Leads.weaken (leads : D.Leads P s s') (given : Q → P) : D.Leads Q s s' :=
  ⟨leads.1, fun careful good known => leads.2 careful good (given known)⟩

theorem Leads.granted (leads : D.Leads P s s') (given : D.good s → Q → P) : D.Leads Q s s' :=
  ⟨leads.1, fun careful good known => leads.2 careful good (given good known)⟩

theorem Leads.trans' (first : D.Leads P s s') (second : D.Leads Q s' s'')
    (known : P → D.kept s s' → Q) : D.Leads P s s'' := by
  refine ⟨⟨first.1.1.trans second.1.1, D.always_trans first.1.2 second.1.2⟩,
    fun careful good given => ?_⟩
  obtain ⟨good', kept⟩ := first.2 (careful.suffix second.1.1) good given
  obtain ⟨good'', kept'⟩ := second.2 careful good' (known given kept)
  exact ⟨good'', D.kept_trans kept kept'⟩

theorem Leads.trans (first : D.Leads P s s') (second : D.Leads True s' s'') : D.Leads P s s'' :=
  first.trans' second fun _ _ => trivial

theorem Leads.informed {event : ε} (first : D.Leads P s s') (mem : event ∈ D.log s')
    (asks : P → D.careful event → Q) (rest : D.Leads Q s' s'') : D.Leads P s s'' := by
  refine ⟨⟨first.1.1.trans rest.1.1, D.always_trans first.1.2 rest.1.2⟩,
    fun careful good given => ?_⟩
  have seen : D.careful event := careful event (rest.1.1.subset mem)
  exact (first.trans' rest fun given _ => asks given seen).2 careful good given

theorem Safe.leads (safe : D.Safe script) : D.Leads P s (script s) :=
  (safe s).weaken fun _ => trivial

end Discipline

end Pjsip.Base
