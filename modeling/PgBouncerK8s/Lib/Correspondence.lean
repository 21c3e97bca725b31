import PgBouncerK8s.Lib.Action

/-!
# Two actions in step

Pre- and postconditions for two actions on different states, which may have
different errors: from related states both return or both fail, and end in
related states. There is a rule for each construct that both have.

* `Corresponds.bind`, `Corresponds.tryCatch`: the rules of the sequence and of
  caught errors.
* `Corresponds.forEach`: the rule of the loop; the relation may name the elements
  that are still to come.
-/

namespace PgBouncerK8s.Action

variable {ε φ σ τ α β γ δ κ : Type}

/-- From states with `P` both actions return, with `Q`, or both fail, with
    `E`. -/
def Corresponds (P : σ → τ → Prop) (m : Action ε σ α) (m' : Action φ τ β)
    (Q : α → β → σ → τ → Prop) (E : ε → φ → σ → τ → Prop) : Prop :=
  ∀ s t, P s t →
    match m.run s, m'.run t with
    | (.ok a, s'), (.ok b, t') => Q a b s' t'
    | (.error e, s'), (.error f, t') => E e f s' t'
    | _, _ => False

variable {P P' : σ → τ → Prop} {Q Q' : α → β → σ → τ → Prop} {R : γ → δ → σ → τ → Prop}
  {E E' : ε → φ → σ → τ → Prop} {m m₁ : Action ε σ α} {m' m₁' : Action φ τ β}

/-- Where the first action returns, the second does. -/
theorem Corresponds.exists_ok {s s' : σ} {t : τ} {a : α} (h : Corresponds P m m' Q E)
    (hp : P s t) (hr : m.run s = (.ok a, s')) :
    ∃ b t', m'.run t = (.ok b, t') ∧ Q a b s' t' := by
  have hm := h s t hp
  rw [hr] at hm
  rcases hr' : m'.run t with ⟨f | b, t'⟩
  · rw [hr'] at hm
    exact hm.elim
  · rw [hr'] at hm
    exact ⟨b, t', rfl, hm⟩

/-- Where the first action fails, the second does. -/
theorem Corresponds.exists_error {s s' : σ} {t : τ} {e : ε} (h : Corresponds P m m' Q E)
    (hp : P s t) (hr : m.run s = (.error e, s')) :
    ∃ f t', m'.run t = (.error f, t') ∧ E e f s' t' := by
  have hm := h s t hp
  rw [hr] at hm
  rcases hr' : m'.run t with ⟨f | b, t'⟩
  · rw [hr'] at hm
    exact ⟨f, t', rfl, hm⟩
  · rw [hr'] at hm
    exact hm.elim

/-- It is enough to look at the outcomes. -/
theorem Corresponds.of_run
    (hok : ∀ s t a s', P s t → m.run s = (.ok a, s') → ∃ b t', m'.run t = (.ok b, t') ∧ Q a b s' t')
    (herror : ∀ s t e s', P s t → m.run s = (.error e, s') →
      ∃ f t', m'.run t = (.error f, t') ∧ E e f s' t') : Corresponds P m m' Q E := by
  intro s t hp
  rcases hr : m.run s with ⟨e | a, s'⟩
  · obtain ⟨f, t', hr', he⟩ := herror s t e s' hp hr
    rw [hr']
    exact he
  · obtain ⟨b, t', hr', hq⟩ := hok s t a s' hp hr
    rw [hr']
    exact hq

theorem Corresponds.conseq (h : Corresponds P' m m' Q' E') (hP : ∀ s t, P s t → P' s t)
    (hQ : ∀ a b s t, Q' a b s t → Q a b s t) (hE : ∀ e f s t, E' e f s t → E e f s t) :
    Corresponds P m m' Q E := by
  apply Corresponds.of_run
  · intro s t a s' hp hr
    obtain ⟨b, t', hr', hq⟩ := h.exists_ok (hP s t hp) hr
    exact ⟨b, t', hr', hQ a b s' t' hq⟩
  · intro s t e s' hp hr
    obtain ⟨f, t', hr', he⟩ := h.exists_error (hP s t hp) hr
    exact ⟨f, t', hr', hE e f s' t' he⟩

theorem Corresponds.bind {k : α → Action ε σ γ} {k' : β → Action φ τ δ}
    (hm : Corresponds P m m' Q E) (hk : ∀ a b, Corresponds (Q a b) (k a) (k' b) R E) :
    Corresponds P (m >>= k) (m' >>= k') R E := by
  intro s t hp
  have h := hm s t hp
  rw [run_bind, run_bind]
  rcases hr : m.run s with ⟨e | a, s'⟩ <;> rcases hr' : m'.run t with ⟨f | b, t'⟩
  · rw [hr, hr'] at h
    exact h
  · rw [hr, hr'] at h
    exact h.elim
  · rw [hr, hr'] at h
    exact h.elim
  · rw [hr, hr'] at h
    exact hk a b s' t' h

theorem Corresponds.ite {c c' : Prop} [Decidable c] [Decidable c'] (hc : ∀ s t, P s t → (c ↔ c'))
    (hm : c → c' → Corresponds P m m' Q E) (hm₁ : ¬ c → ¬ c' → Corresponds P m₁ m₁' Q E) :
    Corresponds P (if c then m else m₁) (if c' then m' else m₁') Q E := by
  intro s t hp
  have hcc := hc s t hp
  by_cases h : c
  · rw [if_pos h, if_pos (hcc.mp h)]
    exact hm h (hcc.mp h) s t hp
  · rw [if_neg h, if_neg fun h' => h (hcc.mpr h')]
    exact hm₁ h (fun h' => h (hcc.mpr h')) s t hp

theorem Corresponds.when {c c' : Prop} [Decidable c] [Decidable c'] {m : Action ε σ Unit}
    {m' : Action φ τ Unit} {Q : Unit → Unit → σ → τ → Prop} (hc : ∀ s t, P s t → (c ↔ c'))
    (hm : c → c' → Corresponds P m m' Q E) (hq : ∀ s t, P s t → ¬ c → Q () () s t) :
    Corresponds P (when c m) (when c' m') Q E :=
  Corresponds.ite hc hm fun h _ s t hp => hq s t hp h

theorem Corresponds.tryCatch {k : ε → Action ε σ α} {k' : φ → Action φ τ β}
    (hm : Corresponds P m m' Q E') (hk : ∀ e f, Corresponds (E' e f) (k e) (k' f) Q E) :
    Corresponds P (tryCatch m k) (tryCatch m' k') Q E := by
  intro s t hp
  have h := hm s t hp
  rw [run_tryCatch, run_tryCatch]
  rcases hr : m.run s with ⟨e | a, s'⟩ <;> rcases hr' : m'.run t with ⟨f | b, t'⟩
  · rw [hr, hr'] at h
    exact hk e f s' t' h
  · rw [hr, hr'] at h
    exact h.elim
  · rw [hr, hr'] at h
    exact h.elim
  · rw [hr, hr'] at h
    exact h

/-- Two loops over one list; `I` names the elements that are still to come. -/
theorem Corresponds.forEach {I : List κ → σ → τ → Prop} {g : κ → Action ε σ Unit}
    {g' : κ → Action φ τ Unit}
    (h : ∀ b l, Corresponds (I (b :: l)) (g b) (g' b) (fun _ _ => I l) E) (l : List κ) :
    Corresponds (I l) (forEach g l) (forEach g' l) (fun _ _ => I []) E := by
  induction l with
  | nil => exact fun _ _ hp => hp
  | cons b l ih => exact Corresponds.bind (h b l) fun _ _ => ih

end PgBouncerK8s.Action
