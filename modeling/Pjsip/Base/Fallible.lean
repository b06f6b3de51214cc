import Mathlib.Logic.Basic

/-!
# Computations on a state that may fail

A computation ends with a value or with an error, and leaves a state behind either way
(`EStateM`). What is known about the end is a condition for each of the two.
-/

namespace Pjsip.Base

variable {ε σ α β : Type}

/-- How a computation ends. -/
def Ends (ok : α → σ → Prop) (error : ε → σ → Prop) : EStateM.Result ε σ α → Prop
  | .ok a s => ok a s
  | .error e s => error e s

instance {ok : α → σ → Prop} {error : ε → σ → Prop} [∀ a s, Decidable (ok a s)]
    [∀ e s, Decidable (error e s)] (r : EStateM.Result ε σ α) : Decidable (Ends ok error r) :=
  match r with
  | .ok a s => inferInstanceAs (Decidable (ok a s))
  | .error e s => inferInstanceAs (Decidable (error e s))

section Ends

variable {ok ok' : α → σ → Prop} {error error' : ε → σ → Prop}

theorem Ends.bind {x : EStateM ε σ α} {next : α → EStateM ε σ β} {s : σ}
    {okNext : β → σ → Prop} (first : Ends ok error (x.run s))
    (then_ : ∀ a s', ok a s' → Ends okNext error ((next a).run s')) :
    Ends okNext error ((x >>= next).run s) := by
  rw [EStateM.run_bind]
  cases ran : x.run s with
  | ok a s' =>
    rw [ran] at first
    exact then_ a s' first
  | error e s' =>
    rw [ran] at first
    exact first

theorem Ends.bind_ran {x : EStateM ε σ α} {next : α → EStateM ε σ β} {s s' : σ} {a : α}
    {okNext : β → σ → Prop} (ran : x.run s = .ok a s')
    (then_ : Ends okNext error ((next a).run s')) : Ends okNext error ((x >>= next).run s) := by
  rwa [EStateM.run_bind, ran]

theorem Ends.mono {r : EStateM.Result ε σ α} (ends : Ends ok error r)
    (okMono : ∀ a s, ok a s → ok' a s) (errorMono : ∀ e s, error e s → error' e s) :
    Ends ok' error' r := by
  cases r with
  | ok a s => exact okMono a s ends
  | error e s => exact errorMono e s ends

end Ends

section Run

variable {x : EStateM ε σ α} {next : α → EStateM ε σ β} {s s' : σ}

theorem bind_run_ok {a : α} (ran : x.run s = .ok a s') : (x >>= next).run s = (next a).run s' := by
  rw [EStateM.run_bind, ran]

theorem bind_run_error {e : ε} (ran : x.run s = .error e s') :
    (x >>= next).run s = .error e s' := by
  rw [EStateM.run_bind, ran]

end Run

theorem bind_ok {x : EStateM ε σ α} {next : α → EStateM ε σ β} {s s'' : σ} {b : β} :
    (x >>= next).run s = .ok b s'' ↔ ∃ a s', x.run s = .ok a s' ∧ (next a).run s' = .ok b s'' := by
  rw [EStateM.run_bind]
  cases x.run s with
  | ok a s' =>
    constructor
    · intro ran
      exact ⟨a, s', rfl, ran⟩
    · intro split
      obtain ⟨_, _, same, ran⟩ := split
      cases same
      exact ran
  | error e s' => simp

theorem except_bind_ok {x : Except ε α} {next : α → Except ε β} {b : β} :
    x >>= next = .ok b ↔ ∃ a, x = .ok a ∧ next a = .ok b := by
  cases x with
  | ok a =>
    constructor
    · intro ran
      exact ⟨a, rfl, ran⟩
    · rintro ⟨_, same, ran⟩
      cases same
      exact ran
  | error e =>
    constructor
    · intro ran
      cases ran
    · rintro ⟨_, same, _⟩
      cases same

end Pjsip.Base
