import Mathlib.Data.Nat.Notation
import Mathlib.Logic.Basic

/-!
# Machines and guarded runs

A `Machine` is an executable transition system: `step s a` is the state after
the action `a`, or `none` where `a` is not enabled. `Reach M guard` are the
states that runs of `M` visit whose every step satisfies `guard`; with the
guard that always holds these are all the reachable states.

* `Reach.invariant`: the induction over the steps of a run.
* `exec_cons_eq_some`: a list of actions, performed step by step.
* `exists_exec_of_rounds`, `exists_exec_of_measure`: runs that come to an end.
* `exists_reach_of_exec`: an explicit list of actions, evaluated by the step
  function, ends in a reachable state.
* `Reach.simulation`: a map that sends initial states to initial states and
  every guarded step to a step (or to no step) sends reachable states to
  reachable states.
* `exec_simulation`: a map along which every guarded step is matched by a run
  sends runs to runs with the same visible actions.
-/

namespace PgBouncerK8s

/-- An executable labelled transition system. -/
structure Machine (σ α : Type) where
  init : σ → Prop
  step : σ → α → Option σ

namespace Machine

variable {σ α τ β : Type}

/-- The states visited by runs whose steps all satisfy `guard`. -/
inductive Reach (M : Machine σ α) (guard : σ → α → Prop) : σ → Prop
  | init {s : σ} : M.init s → Reach M guard s
  | step {s s' : σ} {a : α} : Reach M guard s → guard s a → M.step s a = some s' →
      Reach M guard s'

/-- The guard that restricts nothing. -/
def always : σ → α → Prop := fun _ _ => True

instance (s : σ) (a : α) : Decidable (always s a) := .isTrue trivial

/-- Perform a list of actions; `none` if one of them is not enabled or violates
    the guard. -/
def exec (M : Machine σ α) (guard : σ → α → Prop) [∀ s a, Decidable (guard s a)] (s : σ)
    (l : List α) : Option σ :=
  l.foldlM (fun s a => if guard s a then M.step s a else none) s

variable {M : Machine σ α} {N : Machine τ β} {guard : σ → α → Prop}

/-- What holds initially and is preserved by every guarded step holds in every
    state of every guarded run. -/
theorem Reach.invariant {I : σ → Prop} (hinit : ∀ s, M.init s → I s)
    (hstep : ∀ s a s', M.Reach guard s → I s → guard s a → M.step s a = some s' → I s')
    {s : σ} (h : M.Reach guard s) : I s := by
  induction h with
  | init h => exact hinit _ h
  | step hs hg ha ih => exact hstep _ _ _ hs ih hg ha

/-- A stricter guard reaches no more. -/
theorem Reach.mono {guard' : σ → α → Prop} (hg : ∀ s a, guard s a → guard' s a) {s : σ}
    (h : M.Reach guard s) : M.Reach guard' s := by
  induction h with
  | init h => exact .init h
  | step _ hguard hs ih => exact .step ih (hg _ _ hguard) hs

section Exec

variable [∀ s a, Decidable (guard s a)]

theorem exec_nil (s : σ) : M.exec guard s [] = some s := rfl

/-- A run begins with a step that satisfies the guard. -/
theorem exec_cons_eq_some {s s' : σ} {a : α} {l : List α} :
    M.exec guard s (a :: l) = some s' ↔
      ∃ t, guard s a ∧ M.step s a = some t ∧ M.exec guard t l = some s' := by
  simp only [exec, List.foldlM_cons, Option.bind_eq_bind, Option.bind_eq_some_iff,
    Option.ite_none_right_eq_some, and_assoc]

theorem Reach.exec {s s' : σ} {l : List α} (hs : M.Reach guard s)
    (h : M.exec guard s l = some s') : M.Reach guard s' := by
  induction l generalizing s with
  | nil =>
    obtain rfl : s = s' := by simpa [exec_nil] using h
    exact hs
  | cons a l ih =>
    obtain ⟨t, hg, ht, hl⟩ := exec_cons_eq_some.mp h
    exact ih (.step hs hg ht) hl

/-- What every guarded step preserves holds at the end of a run if it holds at
    its beginning. -/
theorem exec_invariant {I : σ → Prop}
    (hstep : ∀ s a s', I s → guard s a → M.step s a = some s' → I s') {l : List α} {s s' : σ}
    (hs : I s) (h : M.exec guard s l = some s') : I s' := by
  induction l generalizing s with
  | nil =>
    obtain rfl : s = s' := by simpa [exec_nil] using h
    exact hs
  | cons a l ih =>
    obtain ⟨t, hg, ht, hl⟩ := exec_cons_eq_some.mp h
    exact ih (hstep s a t hs hg ht) hl

/-- A measure that some of the actions raise is at least the number of these. -/
theorem exec_countP {I : σ → Prop} {μ : σ → ℕ} {p : α → Bool}
    (hstep : ∀ s a s', I s → guard s a → M.step s a = some s' →
      I s' ∧ μ s + (if p a then 1 else 0) ≤ μ s') {l : List α} {s s' : σ}
    (hs : I s) (h : M.exec guard s l = some s') : I s' ∧ μ s + l.countP p ≤ μ s' := by
  induction l generalizing s with
  | nil =>
    obtain rfl : s = s' := by simpa [exec_nil] using h
    exact ⟨hs, Nat.le_refl _⟩
  | cons a l ih =>
    obtain ⟨t, hg, ht, hl⟩ := exec_cons_eq_some.mp h
    obtain ⟨hI, hμ⟩ := hstep s a t hs hg ht
    obtain ⟨hI', hl⟩ := ih hI hl
    refine ⟨hI', ?_⟩
    rw [List.countP_cons]
    omega

theorem exec_append {s t s' : σ} {l l' : List α} (h : M.exec guard s l = some t)
    (h' : M.exec guard t l' = some s') : M.exec guard s (l ++ l') = some s' := by
  induction l generalizing s with
  | nil =>
    obtain rfl : s = t := by simpa [exec_nil] using h
    exact h'
  | cons a l ih =>
    obtain ⟨r, hg, hr, hl⟩ := exec_cons_eq_some.mp h
    exact exec_cons_eq_some.mpr ⟨r, hg, hr, ih hl⟩

/-- Forward simulation of runs along a function. A guarded step is matched by a
    run of the other machine with the same visible actions, of which a step has
    at most one. -/
theorem exec_simulation {γ : Type} {f : σ → τ} {I : σ → Prop} {label : α → Option γ}
    {visible : β → Option γ}
    (hstep : ∀ s a s', I s → guard s a → M.step s a = some s' →
      I s' ∧ ∃ bs, N.exec always (f s) bs = some (f s') ∧
        bs.filterMap visible = (label a).toList)
    {l : List α} {s s' : σ} (hs : I s) (h : M.exec guard s l = some s') :
    ∃ bs, N.exec always (f s) bs = some (f s') ∧
      bs.filterMap visible = l.filterMap label := by
  induction l generalizing s with
  | nil =>
    obtain rfl : s = s' := by simpa [exec_nil] using h
    exact ⟨[], rfl, rfl⟩
  | cons a l ih =>
    obtain ⟨t, hg, ht, hl⟩ := exec_cons_eq_some.mp h
    obtain ⟨hI, bs, hbs, hvisible⟩ := hstep s a t hs hg ht
    obtain ⟨bs', hbs', hvisible'⟩ := ih hI hl
    refine ⟨bs ++ bs', exec_append hbs hbs', ?_⟩
    rw [List.filterMap_append, hvisible, hvisible', List.filterMap_cons]
    cases label a <;> rfl

/-- If outside of the settled states some guarded run brings a measure down, a
    guarded run reaches a settled state. -/
theorem exists_exec_of_rounds (I settled : σ → Prop) (μ : σ → ℕ)
    (hround : ∀ s, I s → ¬ settled s →
      ∃ l s', M.exec guard s l = some s' ∧ I s' ∧ μ s' < μ s)
    (s : σ) (hs : I s) : ∃ l s', M.exec guard s l = some s' ∧ I s' ∧ settled s' := by
  induction hn : μ s using Nat.strongRecOn generalizing s with
  | ind n ih =>
    by_cases hset : settled s
    · exact ⟨[], s, rfl, hs, hset⟩
    · obtain ⟨l, t, hl, hI, hlt⟩ := hround s hs hset
      obtain ⟨l', s', hrun, hI', hset'⟩ := ih (μ t) (hn ▸ hlt) t hI rfl
      exact ⟨l ++ l', s', exec_append hl hrun, hI', hset'⟩

/-- If outside of the settled states some action brings a measure down, a run
    reaches a settled state. -/
theorem exists_exec_of_measure (I settled : σ → Prop) (μ : σ → ℕ)
    (hstep : ∀ s, I s → ¬ settled s → ∃ a s', M.step s a = some s' ∧ I s' ∧ μ s' < μ s)
    (s : σ) (hs : I s) : ∃ l s', M.exec always s l = some s' ∧ I s' ∧ settled s' := by
  induction hn : μ s using Nat.strongRecOn generalizing s with
  | ind n ih =>
    by_cases hset : settled s
    · exact ⟨[], s, rfl, hs, hset⟩
    · obtain ⟨a, t, ht, hI, hlt⟩ := hstep s hs hset
      obtain ⟨l, s', hrun, hI', hset'⟩ := ih (μ t) (hn ▸ hlt) t hI rfl
      exact ⟨a :: l, s', exec_cons_eq_some.mpr ⟨t, trivial, ht, hrun⟩, hI', hset'⟩

end Exec

/-- A list of actions that can be performed and ends in a state with `p`. -/
theorem exists_reach_of_exec (M : Machine σ α) (guard : σ → α → Prop)
    [∀ s a, Decidable (guard s a)] (s : σ) (l : List α) (p : σ → Bool) (hs : M.init s)
    (h : (M.exec guard s l).any p = true) : ∃ s', M.Reach guard s' ∧ p s' = true := by
  obtain ⟨s', hs', hp⟩ := (Option.any_eq_true _ _).mp h
  exact ⟨s', Reach.exec (.init hs) hs', hp⟩

/-- Forward simulation along a function, with stuttering. -/
theorem Reach.simulation (f : σ → τ) (hinit : ∀ s, M.init s → N.init (f s))
    (hstep : ∀ s a s', M.Reach guard s → guard s a → M.step s a = some s' →
      f s' = f s ∨ ∃ b, N.step (f s) b = some (f s'))
    {s : σ} (h : M.Reach guard s) : N.Reach always (f s) := by
  induction h with
  | init h => exact .init (hinit _ h)
  | step hs hg ha ih =>
    rcases hstep _ _ _ hs hg ha with he | ⟨b, hb⟩
    · rwa [he]
    · exact .step ih trivial hb

end Machine

end PgBouncerK8s
