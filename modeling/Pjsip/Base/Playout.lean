import Mathlib.Data.List.Basic
import Mathlib.Logic.Function.Basic
import Mathlib.Tactic.Cases

/-!
# Numbered playout

A store of items under integer numbers: items are put in, played from, and may be dropped at any
time; a floor rises over the numbers already played. A step may be marked as a break, and a put that
is one may shift the numbers of everything held. Each play then comes from a put of its own, under
the put's number unless a break lies between, and between breaks the numbers played rise.
-/

namespace Pjsip.Base.Playout

variable {β : Type*}

structure Store (β : Type*) where
  held : Int → Option β
  floor : Int

inductive Event (β : Type*) where
  | put (n : Int) (item : β)
  | play (n : Int) (item : β)
  | other

/-- What one step may do to the store; the flag marks a break. -/
def Moves (s : Store β) : Event β → Bool → Store β → Prop
  | .put n item, isBreak, s' =>
    ∃ shift : Int, (isBreak = false → shift = 0 ∧ s.floor ≤ s'.floor) ∧ ∀ m x, s'.held m = some x →
        m = n ∧ x = item ∨ m ≠ n ∧ s.held (m + shift) = some x
  | .play n item, isBreak, s' =>
    s.held n = some item ∧ s.floor ≤ n ∧ n < s'.floor ∧ isBreak = false ∧
      ∀ m x, s'.held m = some x → s'.floor ≤ m ∧ s.held m = some x
  | .other, isBreak, s' =>
    (isBreak = false → s.floor ≤ s'.floor) ∧ ∀ m x, s'.held m = some x → s.held m = some x

/-- The traces of the store from `s₀`. -/
inductive Trace (s₀ : Store β) : List (Event β × Bool) → Store β → Prop
  | nil : Trace s₀ [] s₀
  | snoc {tr : List (Event β × Bool)} {s s' : Store β} {e : Event β} {isBreak : Bool} :
      Trace s₀ tr s → Moves s e isBreak s' → Trace s₀ (tr ++ [(e, isBreak)]) s'

/-- No break strictly between the positions `i` and `j`. -/
def Quiet (tr : List (Event β × Bool)) (i j : Nat) : Prop :=
  ∀ k e isBreak, i < k → k < j → tr[k]? = some (e, isBreak) → isBreak = false

def PutAt (tr : List (Event β × Bool)) (k : Nat) (n : Int) (item : β) : Prop :=
  ∃ isBreak, tr[k]? = some (.put n item, isBreak)

def PlayAt (tr : List (Event β × Bool)) (g : Nat) (n : Int) (item : β) : Prop :=
  ∃ isBreak, tr[g]? = some (.play n item, isBreak)

section Append

variable {tr : List (Event β × Bool)} {e : Event β} {isBreak : Bool} {i j k g : Nat} {n : Int}
  {item : β}

theorem getElem?_lt {entry : Event β × Bool} (here : tr[k]? = some entry) : k < tr.length := by
  obtain ⟨inside, _⟩ := List.getElem?_eq_some_iff.mp here
  exact inside

theorem PutAt.append (put : PutAt tr k n item) : PutAt (tr ++ [(e, isBreak)]) k n item := by
  obtain ⟨b, here⟩ := put
  exact ⟨b, by rw [List.getElem?_append_left (getElem?_lt here), here]⟩

theorem PutAt.lt (put : PutAt tr k n item) : k < tr.length :=
  getElem?_lt put.choose_spec

theorem PlayAt.lt (play : PlayAt tr g n item) : g < tr.length :=
  getElem?_lt play.choose_spec

theorem PlayAt.of_append (play : PlayAt (tr ++ [(e, isBreak)]) g n item) :
    PlayAt tr g n item ∨ g = tr.length ∧ e = .play n item := by
  obtain ⟨b, here⟩ := play
  by_cases inside : g < tr.length
  · rw [List.getElem?_append_left inside] at here
    exact .inl ⟨b, here⟩
  · have last := getElem?_lt here
    simp only [List.length_append, List.length_cons, List.length_nil] at last
    have here' : g = tr.length := by omega
    subst here'
    simp only [List.getElem?_concat_length, Option.some.injEq, Prod.mk.injEq] at here
    exact .inr ⟨rfl, here.1⟩

theorem Quiet.of_append (quiet : Quiet (tr ++ [(e, isBreak)]) i j) : Quiet tr i j := by
  intro k e' b low high here
  refine quiet k e' b low high ?_
  rw [List.getElem?_append_left (getElem?_lt here), here]

theorem Quiet.last (quiet : Quiet (tr ++ [(e, isBreak)]) i (tr ++ [(e, isBreak)]).length)
    (below : i < tr.length) : isBreak = false :=
  quiet tr.length e isBreak below (by simp) (by simp)

theorem Quiet.mono {j' : Nat} (quiet : Quiet tr i j') (le : j ≤ j') : Quiet tr i j :=
  fun k e b low high here => quiet k e b low (Nat.lt_of_lt_of_le high le) here

end Append

/-- Where the items held and those played come from: `stored n` is the position
of the put of the item held under `n`, `source g` that of the item played at `g`. -/
structure Provenance (tr : List (Event β × Bool)) (s : Store β) (stored : Int → Nat)
    (source : Nat → Nat) : Prop where
  live : ∀ n item, s.held n = some item → ∃ n₀, PutAt tr (stored n) n₀ item ∧
    (Quiet tr (stored n) tr.length → n = n₀)
  apart : ∀ n₁ n₂ x₁ x₂, s.held n₁ = some x₁ → s.held n₂ = some x₂ → stored n₁ = stored n₂ → n₁ = n₂
  played : ∀ g n item, PlayAt tr g n item → source g < g ∧
    ∃ n₀, PutAt tr (source g) n₀ item ∧ (Quiet tr (source g) g → n = n₀)
  unplayed : ∀ g n item m x, PlayAt tr g n item → s.held m = some x → source g ≠ stored m
  once : ∀ g₁ g₂ n₁ n₂ x₁ x₂, PlayAt tr g₁ n₁ x₁ → PlayAt tr g₂ n₂ x₂ →
    source g₁ = source g₂ → g₁ = g₂
  behind : ∀ g n item, PlayAt tr g n item → Quiet tr g tr.length → n < s.floor
  rising : ∀ g₁ g₂ n₁ n₂ x₁ x₂, g₁ < g₂ → PlayAt tr g₁ n₁ x₁ → PlayAt tr g₂ n₂ x₂ →
    Quiet tr g₁ g₂ → n₁ < n₂

section Steps

variable {tr : List (Event β × Bool)} {s s' : Store β} {stored : Int → Nat} {source : Nat → Nat}
  {isBreak : Bool}

theorem Provenance.start (floor : Int) :
    Provenance [] ({ held := fun _ => none, floor := floor } : Store β) (fun _ => 0) fun _ => 0 := by
  constructor
  all_goals
    intros
    simp_all [PlayAt]

theorem Provenance.other (prov : Provenance tr s stored source)
    (moves : Moves s .other isBreak s') :
    Provenance (tr ++ [(.other, isBreak)]) s' stored source := by
  obtain ⟨rises, fewer⟩ := moves
  have old : ∀ {g n} {item : β}, PlayAt (tr ++ [(.other, isBreak)]) g n item →
      PlayAt tr g n item := by
    intro g n item play
    rcases play.of_append with before | ⟨_, same⟩
    · exact before
    · cases same
  constructor
  · intro n item here
    obtain ⟨n₀, put, same⟩ := prov.live n item (fewer n item here)
    exact ⟨n₀, put.append, fun quiet => same (quiet.of_append.mono (by simp))⟩
  · intro n₁ n₂ x₁ x₂ here₁ here₂
    exact prov.apart n₁ n₂ x₁ x₂ (fewer _ _ here₁) (fewer _ _ here₂)
  · intro g n item play
    obtain ⟨before, n₀, put, same⟩ := prov.played g n item (old play)
    exact ⟨before, n₀, put.append, fun quiet => same quiet.of_append⟩
  · intro g n item m x play here
    exact prov.unplayed g n item m x (old play) (fewer _ _ here)
  · intro g₁ g₂ n₁ n₂ x₁ x₂ play₁ play₂
    exact prov.once g₁ g₂ n₁ n₂ x₁ x₂ (old play₁) (old play₂)
  · intro g n item play quiet
    have low := prov.behind g n item (old play) (quiet.of_append.mono (by simp))
    have := rises (quiet.last (old play).lt)
    omega
  · intro g₁ g₂ n₁ n₂ x₁ x₂ lt play₁ play₂ quiet
    exact prov.rising g₁ g₂ n₁ n₂ x₁ x₂ lt (old play₁) (old play₂) quiet.of_append

/-- A put is the source of what is then held under its number; a break may have
shifted the others. -/
theorem Provenance.put {n : Int} {item : β} (prov : Provenance tr s stored source)
    (moves : Moves s (.put n item) isBreak s') :
    ∃ stored', Provenance (tr ++ [(.put n item, isBreak)]) s' stored' source := by
  obtain ⟨shift, quietly, origin⟩ := moves
  have old : ∀ {g m} {x : β}, PlayAt (tr ++ [(.put n item, isBreak)]) g m x → PlayAt tr g m x := by
    intro g m x play
    rcases play.of_append with before | ⟨_, same⟩
    · exact before
    · cases same
  have storedLt : ∀ {m x}, s.held m = some x → stored m < tr.length := by
    intro m x here
    obtain ⟨n₀, put, _⟩ := prov.live m x here
    exact put.lt
  refine ⟨fun m => if m = n then tr.length else stored (m + shift), ?_⟩
  constructor
  · intro m x here
    rcases origin m x here with ⟨rfl, rfl⟩ | ⟨other, before⟩
    · refine ⟨m, ⟨isBreak, ?_⟩, fun _ => rfl⟩
      rw [if_pos rfl, List.getElem?_concat_length]
    · obtain ⟨n₀, put, same⟩ := prov.live _ x before
      rw [if_neg other]
      refine ⟨n₀, put.append, fun quiet => ?_⟩
      have unshifted := (quietly (quiet.last put.lt)).1
      have := same (quiet.of_append.mono (by simp))
      omega
  · intro n₁ n₂ x₁ x₂ here₁ here₂ same
    rcases origin n₁ x₁ here₁ with ⟨rfl, _⟩ | ⟨other₁, before₁⟩
    · rcases origin n₂ x₂ here₂ with ⟨rfl, _⟩ | ⟨other₂, before₂⟩
      · rfl
      · simp only [if_true, if_neg other₂] at same
        have := storedLt before₂
        omega
    · rcases origin n₂ x₂ here₂ with ⟨rfl, _⟩ | ⟨other₂, before₂⟩
      · simp only [if_true, if_neg other₁] at same
        have := storedLt before₁
        omega
      · simp only [if_neg other₁, if_neg other₂] at same
        have := prov.apart _ _ _ _ before₁ before₂ same
        omega
  · intro g m x play
    obtain ⟨before, n₀, put, same⟩ := prov.played g m x (old play)
    exact ⟨before, n₀, put.append, fun quiet => same quiet.of_append⟩
  · intro g n₁ x₁ m x play here
    have before := (prov.played g n₁ x₁ (old play)).1
    have inside := (old play).lt
    rcases origin m x here with ⟨rfl, _⟩ | ⟨other, held⟩
    · simp only [if_true]
      omega
    · simp only [if_neg other]
      exact prov.unplayed g n₁ x₁ _ x (old play) held
  · intro g₁ g₂ n₁ n₂ x₁ x₂ play₁ play₂
    exact prov.once g₁ g₂ n₁ n₂ x₁ x₂ (old play₁) (old play₂)
  · intro g m x play quiet
    have low := prov.behind g m x (old play) (quiet.of_append.mono (by simp))
    have := (quietly (quiet.last (old play).lt)).2
    omega
  · intro g₁ g₂ n₁ n₂ x₁ x₂ lt play₁ play₂ quiet
    exact prov.rising g₁ g₂ n₁ n₂ x₁ x₂ lt (old play₁) (old play₂) quiet.of_append

theorem Provenance.play {n : Int} {item : β} (prov : Provenance tr s stored source)
    (moves : Moves s (.play n item) isBreak s') :
    Provenance (tr ++ [(.play n item, isBreak)]) s' stored
      (Function.update source tr.length (stored n)) := by
  obtain ⟨held, floor, passed, quietly, fewer⟩ := moves
  obtain ⟨n₀, putAt, sameNumber⟩ := prov.live n item held
  have here : ∀ {g m x}, PlayAt (tr ++ [(.play n item, isBreak)]) g m x →
      PlayAt tr g m x ∧ Function.update source tr.length (stored n) g = source g ∨
        (g = tr.length ∧ m = n ∧ x = item) ∧
          Function.update source tr.length (stored n) g = stored n := by
    intro g m x play
    rcases play.of_append with before | ⟨rfl, same⟩
    · exact .inl ⟨before, Function.update_of_ne (Nat.ne_of_lt before.lt) _ _⟩
    · cases same
      exact .inr ⟨⟨rfl, rfl, rfl⟩, Function.update_self _ _ _⟩
  constructor
  · intro m x still
    obtain ⟨m₀, put, same⟩ := prov.live m x (fewer m x still).2
    exact ⟨m₀, put.append, fun quiet => same (quiet.of_append.mono (by simp))⟩
  · intro n₁ n₂ x₁ x₂ here₁ here₂
    exact prov.apart n₁ n₂ x₁ x₂ (fewer _ _ here₁).2 (fewer _ _ here₂).2
  · intro g m x play
    rcases here play with ⟨before, sourceEq⟩ | ⟨⟨rfl, rfl, rfl⟩, sourceEq⟩
    · obtain ⟨lt, m₀, put, same⟩ := prov.played g m x before
      rw [sourceEq]
      exact ⟨lt, m₀, put.append, fun quiet => same quiet.of_append⟩
    · rw [sourceEq]
      exact ⟨putAt.lt, n₀, putAt.append, fun quiet => sameNumber quiet.of_append⟩
  · intro g n₁ x₁ m x play still
    rcases here play with ⟨before, sourceEq⟩ | ⟨_, sourceEq⟩
    · rw [sourceEq]
      exact prov.unplayed g n₁ x₁ m x before (fewer _ _ still).2
    · -- the number just played is below the floor, so it is not held any more
      rw [sourceEq]
      intro same
      have := prov.apart n m item x held (fewer _ _ still).2 same
      have := (fewer _ _ still).1
      omega
  · intro g₁ g₂ n₁ n₂ x₁ x₂ play₁ play₂ same
    rcases here play₁ with ⟨before₁, source₁⟩ | ⟨⟨rfl, _, _⟩, source₁⟩
    · rcases here play₂ with ⟨before₂, source₂⟩ | ⟨_, source₂⟩
      · rw [source₁, source₂] at same
        exact prov.once g₁ g₂ n₁ n₂ x₁ x₂ before₁ before₂ same
      · rw [source₁, source₂] at same
        exact absurd same (prov.unplayed g₁ n₁ x₁ n item before₁ held)
    · rcases here play₂ with ⟨before₂, source₂⟩ | ⟨⟨rfl, _, _⟩, _⟩
      · rw [source₁, source₂] at same
        exact absurd same.symm (prov.unplayed g₂ n₂ x₂ n item before₂ held)
      · rfl
  · intro g m x play quiet
    rcases here play with ⟨before, _⟩ | ⟨⟨_, rfl, _⟩, _⟩
    · have := prov.behind g m x before (quiet.of_append.mono (by simp))
      omega
    · exact passed
  · intro g₁ g₂ n₁ n₂ x₁ x₂ lt play₁ play₂ quiet
    rcases here play₁ with ⟨before₁, _⟩ | ⟨⟨rfl, _, _⟩, _⟩
    · rcases here play₂ with ⟨before₂, _⟩ | ⟨⟨rfl, rfl, _⟩, _⟩
      · exact prov.rising g₁ g₂ n₁ n₂ x₁ x₂ lt before₁ before₂ quiet.of_append
      · have := prov.behind g₁ n₁ x₁ before₁ quiet.of_append
        omega
    · have := play₂.lt
      simp only [List.length_append, List.length_cons, List.length_nil] at this
      omega

end Steps

theorem Trace.provenance {tr : List (Event β × Bool)} {floor : Int} {s : Store β}
    (trace : Trace { held := fun _ => none, floor := floor } tr s) :
    ∃ stored source, Provenance tr s stored source := by
  induction trace with
  | nil => exact ⟨_, _, .start floor⟩
  | @snoc _ _ _ e _ _ moves ih =>
    obtain ⟨stored, source, prov⟩ := ih
    cases e with
    | put n item =>
      obtain ⟨stored', prov'⟩ := prov.put moves
      exact ⟨stored', source, prov'⟩
    | play n item => exact ⟨stored, _, prov.play moves⟩
    | other => exact ⟨stored, source, prov.other moves⟩

end Pjsip.Base.Playout
