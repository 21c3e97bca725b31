import Mathlib.Logic.Basic
import Mathlib.Tactic.SplitIfs

/-!
# Actions on a state that may fail

An `Action ε σ α` updates a state in `σ` and returns a value in `α` or fails
with an error in `ε`. What it did to the state before it failed is kept, as for
exceptions of an imperative language.

* `Meets P m Q E`: from every state with `P`, the action `m` returns with `Q`
  or fails with `E`. There is one rule for each construct; `Meets.forEach` is
  the rule of the loop, with its invariant.
* `Within I S m`: the action keeps the invariant `I` and fails only with errors
  in `S`. The rules compose along the text of an action.
* `Returns m s`: the action does not fail from `s`; `returns_bind` is the rule of
  the sequence.
-/

namespace PgBouncerK8s

/-- A computation that updates a state and may fail. -/
def Action (ε σ α : Type) : Type := σ → Except ε α × σ

namespace Action

variable {ε σ α β : Type}

/-- The result of an action and the state it leaves. -/
def run (m : Action ε σ α) (s : σ) : Except ε α × σ := m s

instance : Monad (Action ε σ) where
  pure a := fun s => (.ok a, s)
  bind m f := fun s =>
    match m.run s with
    | (.ok a, t) => (f a).run t
    | (.error e, t) => (.error e, t)

/-- Fail with an error. -/
def fail (e : ε) : Action ε σ α := fun s => (.error e, s)

/-- Read the state. -/
def get : Action ε σ σ := fun s => (.ok s, s)

/-- Update the state. -/
def modify (f : σ → σ) : Action ε σ Unit := fun s => (.ok (), f s)

/-- Run `handler` on the error of a failed action. -/
def tryCatch (m : Action ε σ α) (handler : ε → Action ε σ α) : Action ε σ α := fun s =>
  match m.run s with
  | (.ok a, t) => (.ok a, t)
  | (.error e, t) => (handler e).run t

/-- Perform an action if the condition holds. -/
def when (c : Prop) [Decidable c] (m : Action ε σ Unit) : Action ε σ Unit :=
  if c then m else pure ()

/-- Perform an action for each element of a list, in order. -/
def forEach (f : β → Action ε σ Unit) : List β → Action ε σ Unit
  | [] => pure ()
  | b :: l => do
    f b
    forEach f l

/-! ## Evaluation -/

@[simp] theorem run_pure (a : α) (s : σ) : (pure a : Action ε σ α).run s = (.ok a, s) := rfl

theorem run_bind (m : Action ε σ α) (f : α → Action ε σ β) (s : σ) :
    (m >>= f).run s =
      match m.run s with
      | (.ok a, t) => (f a).run t
      | (.error e, t) => (.error e, t) := rfl

theorem run_bind_ok {m : Action ε σ α} {a : α} {s t : σ} (h : m.run s = (.ok a, t))
    (f : α → Action ε σ β) : (m >>= f).run s = (f a).run t := by
  rw [run_bind, h]

theorem run_bind_error {m : Action ε σ α} {e : ε} {s t : σ} (h : m.run s = (.error e, t))
    (f : α → Action ε σ β) : (m >>= f).run s = (.error e, t) := by
  rw [run_bind, h]

/-- A sequence that returns has returned at each step. -/
theorem run_bind_eq_ok {m : Action ε σ α} {f : α → Action ε σ β} {b : β} {s u : σ}
    (h : (m >>= f).run s = (.ok b, u)) :
    ∃ a t, m.run s = (.ok a, t) ∧ (f a).run t = (.ok b, u) := by
  rw [run_bind] at h
  rcases hr : m.run s with ⟨e | a, t⟩
  · rw [hr] at h
    cases h
  · rw [hr] at h
    exact ⟨a, t, rfl, h⟩

theorem run_bind_assoc {γ : Type} (m : Action ε σ α) (f : α → Action ε σ β)
    (g : β → Action ε σ γ) (s : σ) :
    (m >>= fun a => f a >>= g).run s = ((m >>= f) >>= g).run s := by
  rw [run_bind, run_bind, run_bind]
  rcases m.run s with ⟨_ | _, _⟩ <;> rfl

/-- Returning something else leaves the same state. -/
theorem run_bind_pure_snd (m : Action ε σ α) (f : α → β) (s : σ) :
    ((m >>= fun a => pure (f a)).run s).2 = (m.run s).2 := by
  rw [run_bind]
  rcases m.run s with ⟨_ | _, _⟩ <;> rfl

@[simp] theorem run_fail (e : ε) (s : σ) : (fail e : Action ε σ α).run s = (.error e, s) := rfl

@[simp] theorem run_get (s : σ) : (get : Action ε σ σ).run s = (.ok s, s) := rfl

@[simp] theorem run_modify (f : σ → σ) (s : σ) :
    (modify f : Action ε σ Unit).run s = (.ok (), f s) := rfl

@[simp] theorem run_get_bind (f : σ → Action ε σ β) (s : σ) : (get >>= f).run s = (f s).run s :=
  rfl

@[simp] theorem run_pure_bind (a : α) (f : α → Action ε σ β) (s : σ) :
    (pure a >>= f).run s = (f a).run s := rfl

@[simp] theorem run_modify_bind (g : σ → σ) (f : Unit → Action ε σ β) (s : σ) :
    (modify g >>= f).run s = (f ()).run (g s) := rfl

@[simp] theorem run_fail_bind (e : ε) (f : α → Action ε σ β) (s : σ) :
    (fail e >>= f).run s = (.error e, s) := rfl

theorem run_tryCatch (m : Action ε σ α) (handler : ε → Action ε σ α) (s : σ) :
    (tryCatch m handler).run s =
      match m.run s with
      | (.ok a, t) => (.ok a, t)
      | (.error e, t) => (handler e).run t := rfl

/-- A handler that fails again catches nothing. -/
theorem run_tryCatch_eq_ok {m : Action ε σ α} {handler : ε → Action ε σ α} {a : α} {s t : σ}
    (hh : ∀ e u, ((handler e).run u).1 ≠ .ok a) (h : (tryCatch m handler).run s = (.ok a, t)) :
    m.run s = (.ok a, t) := by
  rw [run_tryCatch] at h
  rcases hr : m.run s with ⟨e | b, u⟩
  · rw [hr] at h
    exact absurd (congrArg Prod.fst h) (hh e u)
  · rw [hr] at h
    exact h

theorem run_ite (c : Prop) [Decidable c] (m m' : Action ε σ α) (s : σ) :
    (if c then m else m').run s = if c then m.run s else m'.run s := by
  split_ifs <;> rfl

theorem run_when (c : Prop) [Decidable c] (m : Action ε σ Unit) (s : σ) :
    (when c m).run s = if c then m.run s else (.ok (), s) := by
  unfold when
  split_ifs <;> rfl

theorem run_when_eq_ok {c : Prop} [Decidable c] {m : Action ε σ Unit} {a : Unit} {s t : σ}
    (h : (when c m).run s = (.ok a, t)) : c ∧ m.run s = (.ok a, t) ∨ ¬ c ∧ t = s := by
  rw [run_when] at h
  by_cases hc : c
  · rw [if_pos hc] at h
    exact .inl ⟨hc, h⟩
  · rw [if_neg hc] at h
    cases h
    exact .inr ⟨hc, rfl⟩

/-- A loop whose body only tests. -/
theorem run_forEach_of_test {g : β → Action ε σ Unit} {test : β → Bool} {e : ε} {s : σ} {l : List β}
    (h : ∀ b ∈ l, (g b).run s = (if test b = true then .ok () else .error e, s)) :
    (forEach g l).run s = (if l.all test = true then .ok () else .error e, s) := by
  induction l with
  | nil => rfl
  | cons b l ih =>
    unfold forEach
    rw [run_bind, h b List.mem_cons_self, List.all_cons]
    cases test b with
    | true => exact ih fun b' hb' => h b' (List.mem_cons_of_mem b hb')
    | false => rfl

/-! ## Pre- and postconditions -/

/-- From a state with `P` the action returns with `Q` or fails with `E`. -/
def Meets (P : σ → Prop) (m : Action ε σ α) (Q : α → σ → Prop) (E : ε → σ → Prop) : Prop :=
  ∀ s, P s →
    match m.run s with
    | (.ok a, t) => Q a t
    | (.error e, t) => E e t

variable {P P' I : σ → Prop} {Q Q' : α → σ → Prop} {R : β → σ → Prop} {E E' : ε → σ → Prop}
  {m m' : Action ε σ α} {f : α → Action ε σ β} {s t : σ}

theorem Meets.ok {a : α} (h : Meets P m Q E) (hs : P s) (hr : m.run s = (.ok a, t)) : Q a t := by
  have hm := h s hs
  rwa [hr] at hm

theorem Meets.error {e : ε} (h : Meets P m Q E) (hs : P s) (hr : m.run s = (.error e, t)) :
    E e t := by
  have hm := h s hs
  rwa [hr] at hm

theorem Meets.conseq (h : Meets P' m Q' E') (hP : ∀ s, P s → P' s) (hQ : ∀ a s, Q' a s → Q a s)
    (hE : ∀ e s, E' e s → E e s) : Meets P m Q E := by
  intro s hs
  have hm := h s (hP s hs)
  rcases hr : m.run s with ⟨_ | _, t⟩
  · rw [hr] at hm
    exact hE _ _ hm
  · rw [hr] at hm
    exact hQ _ _ hm

theorem Meets.bind (hm : Meets P m Q E) (hf : ∀ a, Meets (Q a) (f a) R E) :
    Meets P (m >>= f) R E := by
  intro s hs
  have h := hm s hs
  rw [run_bind]
  rcases hr : m.run s with ⟨_ | a, t⟩
  · rw [hr] at h
    exact h
  · rw [hr] at h
    exact hf a t h

/-- Behind a read the state is the one that has been read. -/
theorem Meets.get_bind {f : σ → Action ε σ β} (h : ∀ s, P s → Meets (fun t => t = s) (f s) R E) :
    Meets P (get >>= f) R E := fun s hs => h s hs s rfl

theorem Meets.ite {c : Prop} [Decidable c] (hm : c → Meets P m Q E) (hm' : ¬ c → Meets P m' Q E) :
    Meets P (if c then m else m') Q E := by
  split_ifs with hc
  · exact hm hc
  · exact hm' hc

theorem Meets.tryCatch {handler : ε → Action ε σ α} (hm : Meets P m Q E')
    (hh : ∀ e, Meets (E' e) (handler e) Q E) : Meets P (tryCatch m handler) Q E := by
  intro s hs
  have h := hm s hs
  rw [run_tryCatch]
  rcases hr : m.run s with ⟨e | a, t⟩
  · rw [hr] at h
    exact hh e t h
  · rw [hr] at h
    exact h

/-- A loop keeps what its body keeps. -/
theorem Meets.forEach {g : β → Action ε σ Unit} {l : List β}
    (h : ∀ b ∈ l, Meets I (g b) (fun _ => I) E) : Meets I (forEach g l) (fun _ => I) E := by
  induction l with
  | nil => exact fun s hs => hs
  | cons b l ih =>
    apply Meets.bind (h b List.mem_cons_self)
    intro _
    exact ih fun b' hb' => h b' (List.mem_cons_of_mem b hb')

/-! ## Invariants and errors -/

/-- The action keeps `I` and fails only with errors in `S`. -/
def Within (I : σ → Prop) (S : ε → Prop) (m : Action ε σ α) : Prop :=
  Meets I m (fun _ => I) fun e s => S e ∧ I s

variable {S T : ε → Prop}

theorem Within.pure (a : α) : Within I S (pure a : Action ε σ α) := fun _ hs => hs

theorem Within.fail {e : ε} (he : S e) : Within I S (fail e : Action ε σ α) := fun _ hs => ⟨he, hs⟩

theorem Within.modify {g : σ → σ} (h : ∀ s, I s → I (g s)) :
    Within I S (modify g : Action ε σ Unit) := fun s hs => h s hs

theorem Within.bind (hm : Within I S m) (hf : ∀ a, Within I S (f a)) : Within I S (m >>= f) :=
  Meets.bind hm hf

/-- A state that has been read satisfies the invariant. -/
theorem Within.get_bind {f : σ → Action ε σ β} (h : ∀ s, I s → Within I S (f s)) :
    Within I S (get >>= f) := fun s hs => h s hs s hs

theorem Within.ite {c : Prop} [Decidable c] (hm : c → Within I S m) (hm' : ¬ c → Within I S m') :
    Within I S (if c then m else m') := Meets.ite hm hm'

theorem Within.when {c : Prop} [Decidable c] {m : Action ε σ Unit} (hm : c → Within I S m) :
    Within I S (when c m) := Meets.ite hm fun _ => Within.pure ()

theorem Within.tryCatch {handler : ε → Action ε σ α} (hm : Within I T m)
    (hh : ∀ e, T e → Within I S (handler e)) : Within I S (tryCatch m handler) := by
  apply Meets.tryCatch hm
  intro e s hs
  exact hh e hs.1 s hs.2

theorem Within.forEach {g : β → Action ε σ Unit} {l : List β} (h : ∀ b ∈ l, Within I S (g b)) :
    Within I S (forEach g l) := by
  apply Meets.conseq (Meets.forEach (E := fun e s => S e ∧ I s) h)
  · exact fun _ hs => hs
  · exact fun _ _ hs => hs
  · exact fun _ _ hs => hs

theorem Within.mono (hm : Within I S m) (h : ∀ e, S e → T e) : Within I T m :=
  Meets.conseq hm (fun _ hs => hs) (fun _ _ hs => hs) fun e _ hs => ⟨h e hs.1, hs.2⟩

/-- The invariant holds behind the action, whether it returns or fails. -/
theorem Within.state (hm : Within I S m) (hs : I s) : I (m.run s).2 := by
  rcases hr : m.run s with ⟨e | a, t⟩
  · exact (hm.error hs hr).2
  · exact hm.ok hs hr

/-- An action that cannot fail returns, with the invariant. -/
theorem Within.run_ok (hm : Within I S m) (hS : ∀ e, ¬ S e) (hs : I s) :
    ∃ a t, m.run s = (.ok a, t) ∧ I t := by
  rcases hr : m.run s with ⟨e | a, t⟩
  · exact absurd (hm.error hs hr).1 (hS e)
  · exact ⟨a, t, rfl, hm.ok hs hr⟩

/-- An action whose errors are all in `S` does not fail with one outside. -/
theorem Within.run_ne {e : ε} (hm : Within I S m) (hs : I s) (he : ¬ S e) :
    (m.run s).1 ≠ .error e := by
  intro hr
  apply he
  exact (hm.error hs (Prod.ext hr rfl)).1

/-! ## Returning -/

/-- The action does not fail from the state. -/
def Returns (m : Action ε σ α) (s : σ) : Prop := ∃ a, (m.run s).1 = .ok a

theorem returns_of_ok {a : α} (h : m.run s = (.ok a, t)) : Returns m s := ⟨a, by rw [h]⟩

theorem not_returns_of_error {e : ε} (h : m.run s = (.error e, t)) : ¬ Returns m s := by
  rintro ⟨a, ha⟩
  rw [h] at ha
  cases ha

theorem returns_fail {e : ε} : ¬ Returns (fail e : Action ε σ α) s :=
  not_returns_of_error (run_fail e s)

theorem returns_bind_of_ok {a : α} (h : m.run s = (.ok a, t)) :
    Returns (m >>= f) s ↔ Returns (f a) t := by
  unfold Returns
  rw [run_bind_ok h]

/-- A sequence returns if its first part does, and behind each of its results
    the second. -/
theorem returns_bind {p : Prop} (h : ∀ a t, m.run s = (.ok a, t) → (Returns (f a) t ↔ p)) :
    Returns (m >>= f) s ↔ Returns m s ∧ p := by
  rcases hr : m.run s with ⟨e | a, t⟩
  · exact iff_of_false (not_returns_of_error (run_bind_error hr f))
      fun hm => not_returns_of_error hr hm.1
  · rw [returns_bind_of_ok hr, h a t hr]
    exact (and_iff_right (returns_of_ok hr)).symm

theorem returns_bind_pure (g : α → β) : Returns (m >>= fun a => pure (g a)) s ↔ Returns m s := by
  rw [returns_bind fun a t _ => iff_true_intro (returns_of_ok (run_pure (g a) t)), and_true]

theorem returns_ite {c : Prop} [Decidable c] :
    Returns (if c then m else m') s ↔ if c then Returns m s else Returns m' s := by
  split_ifs <;> rfl

theorem returns_when {c : Prop} [Decidable c] {m : Action ε σ Unit} :
    Returns (when c m) s ↔ (c → Returns m s) := by
  unfold when
  split_ifs with hc
  · exact ⟨fun h _ => h, fun h => h hc⟩
  · exact iff_of_true (returns_of_ok (run_pure () s)) fun h => absurd h hc

end Action

end PgBouncerK8s
