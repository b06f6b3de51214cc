import Mathlib.Logic.Basic
import Mathlib.Data.List.Basic

/-!
# Runs of a deterministic machine

A machine is a step function `step : σ → α → Option (σ × ω)`: an operation
applied to a state either delivers the next state and an answer, or (`none`)
never returns. `Run` is the set of finite runs with their labels; an invariant
proved for one step is carried to every run here, once.
-/

namespace Pjsip.Base

variable {σ α ω : Type*}

/-- The finite runs of `step`, labelled by operation and answer. -/
inductive Run (step : σ → α → Option (σ × ω)) : σ → List (α × ω) → σ → Prop
  | nil (s : σ) : Run step s [] s
  | cons {s s₁ s₂ : σ} {a : α} {o : ω} {tr : List (α × ω)} :
      step s a = some (s₁, o) → Run step s₁ tr s₂ → Run step s ((a, o) :: tr) s₂

/-- `P` holds of the state before each operation of `ops`, run from `s`. -/
def Along (step : σ → α → Option (σ × ω)) (P : σ → α → Prop) : σ → List α → Prop
  | _, [] => True
  | s, a :: ops => P s a ∧ ∀ s' o, step s a = some (s', o) → Along step P s' ops

/-- `Q` holds of every state that running `ops` from `s` passes, the first and
the last included, and every operation returns. -/
def Throughout (step : σ → α → Option (σ × ω)) (Q : σ → Prop) : σ → List α → Prop
  | s, [] => Q s
  | s, a :: ops => Q s ∧ ∃ s' o, step s a = some (s', o) ∧ Throughout step Q s' ops

/-- Every operation of `ops`, run from `s`, returns, and `Q` relates the state before
it to the state after it and to the answer. -/
def Stepwise (step : σ → α → Option (σ × ω)) (Q : σ → α → σ → ω → Prop) : σ → List α → Prop
  | _, [] => True
  | s, a :: ops => ∃ s' o, step s a = some (s', o) ∧ Q s a s' o ∧ Stepwise step Q s' ops

/-- The state after `ops`, if each of them returns. -/
def exec (step : σ → α → Option (σ × ω)) : σ → List α → Option σ
  | s, [] => some s
  | s, a :: ops => (step s a).bind fun next => exec step next.1 ops

/-- The labels of the run of `ops`, if each of them returns. -/
def trace (step : σ → α → Option (σ × ω)) : σ → List α → Option (List (α × ω))
  | _, [] => some []
  | s, a :: ops =>
    (step s a).bind fun next => (trace step next.1 ops).map ((a, next.2) :: ·)

section Rules

variable {step : σ → α → Option (σ × ω)}

theorem Run.append {s s₁ s₂ : σ} {tr₁ tr₂ : List (α × ω)}
    (first : Run step s tr₁ s₁) (second : Run step s₁ tr₂ s₂) :
    Run step s (tr₁ ++ tr₂) s₂ := by
  induction first with
  | nil => exact second
  | cons taken _ ih => exact .cons taken (ih second)

variable {tr : List (α × ω)}

theorem Run.snoc {s s₁ s₂ : σ} {a : α} {o : ω}
    (run : Run step s tr s₁) (taken : step s₁ a = some (s₂, o)) :
    Run step s (tr ++ [(a, o)]) s₂ :=
  run.append (.cons taken (.nil s₂))

theorem Run.split {s s₂ : σ} {tr₁ tr₂ : List (α × ω)} (run : Run step s (tr₁ ++ tr₂) s₂) :
    ∃ s₁, Run step s tr₁ s₁ ∧ Run step s₁ tr₂ s₂ := by
  induction tr₁ generalizing s with
  | nil => exact ⟨s, .nil s, run⟩
  | cons label rest ih =>
    cases run with
    | cons taken tail =>
      obtain ⟨s₁, left, right⟩ := ih tail
      exact ⟨s₁, .cons taken left, right⟩

variable {ops : List α} {s : σ}

theorem Run.of_trace
    (traced : trace step s ops = some tr) : ∃ s', tr.map Prod.fst = ops ∧ Run step s tr s' := by
  induction ops generalizing s tr with
  | nil =>
    cases traced
    exact ⟨s, rfl, .nil s⟩
  | cons a ops ih =>
    simp only [trace, Option.bind_eq_some_iff, Option.map_eq_some_iff] at traced
    obtain ⟨⟨s₁, o⟩, taken, rest, traced, rfl⟩ := traced
    obtain ⟨s', labels, run⟩ := ih traced
    exact ⟨s', by rw [List.map_cons, labels], .cons taken run⟩

theorem Run.of_exec {s s' : σ} (executed : exec step s ops = some s') :
    ∃ tr : List (α × ω), tr.map Prod.fst = ops ∧ Run step s tr s' := by
  induction ops generalizing s with
  | nil =>
    cases executed
    exact ⟨[], rfl, .nil _⟩
  | cons a ops ih =>
    obtain ⟨next, taken, rest⟩ := Option.bind_eq_some_iff.1 executed
    obtain ⟨tr, labels, run⟩ := ih rest
    exact ⟨(a, next.2) :: tr, by rw [List.map_cons, labels], .cons taken run⟩

theorem Along.always (s : σ) (ops : List α) : Along step (fun _ _ => True) s ops := by
  induction ops generalizing s with
  | nil => trivial
  | cons a ops ih => exact ⟨trivial, fun s' _ _ => ih s'⟩

variable {P : σ → α → Prop}

theorem Run.traced_along {Inv : List (α × ω) → σ → Prop}
    (keeps : ∀ tr s a s' o, Inv tr s → P s a → step s a = some (s', o) → Inv (tr ++ [(a, o)]) s')
    {s s' : σ} (run : Run step s tr s')
    (allowed : Along step P s (tr.map Prod.fst)) (start : Inv [] s) : Inv tr s' := by
  have onwards : ∀ before, Inv before s → Inv (before ++ tr) s' := by
    clear start
    induction run with
    | nil =>
      intro before now
      rwa [List.append_nil]
    | @cons s s₁ s₂ a o tr taken _ ih =>
      intro before now
      have next := ih (allowed.2 s₁ o taken) _ (keeps before s a s₁ o now allowed.1 taken)
      rwa [List.append_assoc] at next
  exact onwards [] start

theorem Run.traced {Inv : List (α × ω) → σ → Prop}
    (keeps : ∀ tr s a s' o, Inv tr s → step s a = some (s', o) → Inv (tr ++ [(a, o)]) s')
    {s s' : σ} (run : Run step s tr s') (start : Inv [] s) : Inv tr s' :=
  run.traced_along (fun tr s a s' o inv _ => keeps tr s a s' o inv) (Along.always s _) start

variable {Inv : σ → Prop}

theorem Run.invariant
    (keeps : ∀ s a s' o, Inv s → step s a = some (s', o) → Inv s')
    {s s' : σ} (run : Run step s tr s') (start : Inv s) : Inv s' := by
  induction run with
  | nil => exact start
  | cons taken _ ih => exact ih (keeps _ _ _ _ start taken)

theorem Run.invariant_along
    (keeps : ∀ s a s' o, Inv s → P s a → step s a = some (s', o) → Inv s')
    {s s' : σ} (run : Run step s tr s')
    (allowed : Along step P s (tr.map Prod.fst)) (start : Inv s) : Inv s' :=
  run.traced_along (fun _ s a s' o => keeps s a s' o) allowed start

theorem Along.after {s s₁ : σ}
    (run : Run step s tr s₁) (allowed : Along step P s (tr.map Prod.fst ++ ops)) :
    Along step P s₁ ops := by
  induction run with
  | nil => exact allowed
  | cons taken _ ih => exact ih (allowed.2 _ _ taken)

theorem Along.before {first second : List α}
    (allowed : Along step P s (first ++ second)) : Along step P s first := by
  induction first generalizing s with
  | nil => trivial
  | cons a first ih => exact ⟨allowed.1, fun s' o taken => ih (allowed.2 s' o taken)⟩

theorem Run.visit {s s' : σ} {pre post : List (α × ω)} {label : α × ω}
    (run : Run step s (pre ++ label :: post) s')
    (allowed : Along step P s ((pre ++ label :: post).map Prod.fst)) :
    ∃ s₁ s₂, Run step s pre s₁ ∧ Along step P s (pre.map Prod.fst) ∧
      step s₁ label.1 = some (s₂, label.2) ∧ P s₁ label.1 ∧ Run step s₂ post s' := by
  obtain ⟨s₁, first, second⟩ := run.split
  rw [List.map_append] at allowed
  cases second with
  | cons taken rest => exact ⟨s₁, _, first, allowed.before, taken, (allowed.after first).1, rest⟩

theorem Along.cons {s s' : σ} {a : α} {o : ω} (here : P s a)
    (taken : step s a = some (s', o)) (rest : Along step P s' ops) : Along step P s (a :: ops) := by
  refine ⟨here, fun s₁ o₁ taken₁ => ?_⟩
  rw [taken] at taken₁
  cases taken₁
  exact rest

/-- What is allowed of a run can be checked by running it. -/
instance Along.decidable {P : σ → α → Prop} [∀ s a, Decidable (P s a)] :
    (s : σ) → (ops : List α) → Decidable (Along step P s ops)
  | _, [] => .isTrue trivial
  | s, a :: ops =>
    match h : step s a with
    | none =>
      decidable_of_iff (P s a)
        ⟨fun here => ⟨here, fun _ _ taken => absurd (h.symm.trans taken) (by simp)⟩, And.left⟩
    | some (s', o) =>
      have := Along.decidable (P := P) s' ops
      decidable_of_iff (P s a ∧ Along step P s' ops)
        ⟨fun both => .cons both.1 h both.2, fun along => ⟨along.1, along.2 s' o h⟩⟩

theorem Along.both {P Q : σ → α → Prop} (first : Along step P s ops)
    (second : Along step Q s ops) : Along step (fun s a => P s a ∧ Q s a) s ops := by
  induction ops generalizing s with
  | nil => trivial
  | cons a ops ih =>
    exact ⟨⟨first.1, second.1⟩, fun s' o taken => ih (first.2 s' o taken) (second.2 s' o taken)⟩

variable {Q : σ → α → σ → ω → Prop}

/-- If an allowed operation keeps `I` and does what `Q` says, so do all operations
of an allowed run. -/
theorem Along.stepwise {I : σ → Prop}
    (keeps : ∀ s a, I s → P s a → ∃ s' o, step s a = some (s', o) ∧ Q s a s' o ∧ I s')
    (allowed : Along step P s ops) (start : I s) :
    Stepwise step Q s ops := by
  induction ops generalizing s with
  | nil => trivial
  | cons a ops ih =>
    obtain ⟨s', o, taken, here, next⟩ := keeps s a start allowed.1
    exact ⟨s', o, taken, here, ih (allowed.2 s' o taken) next⟩

theorem throughout_iff_stepwise {R : σ → Prop} :
    Throughout step R s ops ↔ R s ∧ Stepwise step (fun _ _ s' _ => R s') s ops := by
  induction ops generalizing s with
  | nil => exact (and_iff_left trivial).symm
  | cons a ops ih =>
    refine and_congr_right fun _ => exists_congr fun s' => exists_congr fun o => ?_
    exact and_congr_right fun _ => ih

/-- If the operations keep `Inv` wherever `P` allows them, a run allowed
throughout satisfies `Inv` throughout, and each of its operations returns. -/
theorem Along.throughout
    (keeps : ∀ s a, Inv s → P s a → ∃ s' o, step s a = some (s', o) ∧ Inv s')
    (allowed : Along step P s ops) (start : Inv s) :
    Throughout step Inv s ops := by
  refine throughout_iff_stepwise.2 ⟨start, allowed.stepwise (fun s a now may => ?_) start⟩
  obtain ⟨s', o, taken, next⟩ := keeps s a now may
  exact ⟨s', o, taken, next, next⟩

/-- If each step of a run does what `Q` says exactly when its operation satisfies `P`, all of
them do exactly when all operations of the run satisfy `P`. -/
theorem Run.stepwise_iff
    (keeps : ∀ s a s' o, Inv s → step s a = some (s', o) → Inv s')
    (same : ∀ s a s' o, Inv s → step s a = some (s', o) → (Q s a s' o ↔ P s a))
    {s s' : σ} (run : Run step s tr s') (start : Inv s) :
    Stepwise step Q s (tr.map Prod.fst) ↔ Along step P s (tr.map Prod.fst) := by
  induction run with
  | nil => exact Iff.rfl
  | @cons s s₁ s₂ a o tr taken _ ih =>
    have here := same s a s₁ o start taken
    have rest := ih (keeps s a s₁ o start taken)
    constructor
    · rintro ⟨s', o', taken', now, later⟩
      rw [taken] at taken'
      cases taken'
      exact .cons (here.mp now) taken (rest.mp later)
    · intro along
      exact ⟨s₁, o, taken, here.mpr along.1, rest.mpr (along.2 s₁ o taken)⟩

/-- If the allowed operations that satisfy `P` do what `Q` says and keep an invariant, and the
others do not, all operations of an allowed run do exactly when all of them satisfy `P`. -/
theorem Along.stepwise_iff_breaks {D P : σ → α → Prop} {I : σ → Prop}
    (keeps : ∀ s a, I s → D s a → P s a → ∃ s' o, step s a = some (s', o) ∧ Q s a s' o ∧ I s')
    (breaks : ∀ s a s' o, I s → D s a → ¬ P s a → step s a = some (s', o) → ¬ Q s a s' o)
    (allowed : Along step D s ops) (inv : I s) :
    Stepwise step Q s ops ↔ Along step P s ops := by
  induction ops generalizing s with
  | nil => exact Iff.rfl
  | cons a ops ih =>
    by_cases good : P s a
    · obtain ⟨s', o, taken, here, inv'⟩ := keeps s a inv allowed.1 good
      have rest := ih (allowed.2 s' o taken) inv'
      constructor
      · rintro ⟨s₁, o₁, taken₁, -, later⟩
        rw [taken] at taken₁
        cases taken₁
        exact .cons good taken (rest.mp later)
      · intro along
        exact ⟨s', o, taken, here, rest.mpr (along.2 s' o taken)⟩
    · refine iff_of_false ?_ fun along => good along.1
      rintro ⟨s', o, taken, here, -⟩
      exact breaks s a s' o inv allowed.1 good taken here

/-- If the allowed operations that satisfy `Q` keep an invariant that implies `R`, and each of
the others leaves `R`, an allowed run satisfies `R` throughout exactly when all its operations
satisfy `Q`. -/
theorem Along.throughout_iff_breaks {P Q : σ → α → Prop} {Inv R : σ → Prop}
    (holds : ∀ s, Inv s → R s)
    (keeps : ∀ s a, Inv s → P s a → Q s a → ∃ s' o, step s a = some (s', o) ∧ Inv s')
    (breaks : ∀ s a s' o, Inv s → P s a → ¬ Q s a → step s a = some (s', o) → ¬ R s')
    (allowed : Along step P s ops) (inv : Inv s) :
    Throughout step R s ops ↔ Along step Q s ops := by
  rw [throughout_iff_stepwise, and_iff_right (holds s inv)]
  refine allowed.stepwise_iff_breaks (fun s a inv may good => ?_) (fun s a s' o => breaks s a s' o) inv
  obtain ⟨s', o, taken, inv'⟩ := keeps s a inv may good
  exact ⟨s', o, taken, holds s' inv', inv'⟩

/-- If each allowed operation keeps `R` exactly when it satisfies `Q`, an allowed run
satisfies `R` throughout exactly when all its operations satisfy `Q`. -/
theorem Along.throughout_iff {P Q : σ → α → Prop} {Inv R : σ → Prop}
    (keeps : ∀ s a, Inv s → P s a → ∃ s' o, step s a = some (s', o) ∧ Inv s')
    (same : ∀ s a s' o, Inv s → R s → P s a → step s a = some (s', o) → (R s' ↔ Q s a))
    (allowed : Along step P s ops) (inv : Inv s) (now : R s) :
    Throughout step R s ops ↔ Along step Q s ops := by
  let Both s := Inv s ∧ R s
  have both : Both s := ⟨inv, now⟩
  refine Along.throughout_iff_breaks ?_ ?_ ?_ allowed both
  · exact fun s both => both.2
  · intro s a both may good
    obtain ⟨s', o, taken, inv'⟩ := keeps s a both.1 may
    exact ⟨s', o, taken, inv', (same s a s' o both.1 both.2 may taken).2 good⟩
  · intro s a s' o both may bad taken
    exact mt (same s a s' o both.1 both.2 may taken).1 bad

theorem Stepwise.after {s s₁ : σ} {first ops : List α}
    (each : Stepwise step Q s (first ++ ops)) (done : exec step s first = some s₁) :
    Stepwise step Q s₁ ops := by
  induction first generalizing s with
  | nil =>
    cases done
    exact each
  | cons a first ih =>
    obtain ⟨s', o, taken, -, later⟩ := each
    rw [exec, taken, Option.bind_some] at done
    exact ih later done

theorem Throughout.last {Q : σ → Prop} (holds : Throughout step Q s ops) :
    ∃ s', exec step s ops = some s' ∧ Q s' := by
  induction ops generalizing s with
  | nil => exact ⟨s, rfl, holds⟩
  | cons a ops ih =>
    obtain ⟨_, s', o, taken, later⟩ := holds
    simpa only [exec, taken, Option.bind_some] using ih later

theorem Throughout.imp {Q Q' : σ → Prop} (weaken : ∀ s, Q s → Q' s)
    (holds : Throughout step Q s ops) : Throughout step Q' s ops := by
  induction ops generalizing s with
  | nil => exact weaken s holds
  | cons a ops ih =>
    obtain ⟨now, s', o, taken, later⟩ := holds
    exact ⟨weaken s now, s', o, taken, ih later⟩

end Rules

end Pjsip.Base
