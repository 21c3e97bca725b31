import Mathlib.Logic.Function.Basic
import Mathlib.Logic.Relation
import Mathlib.Order.Monotone.Basic

/-!
# Pipelines of registers

A chain of registers in which each register is a copy, possibly an old one, of
its predecessor, and the source only grows: writes that become visible with a
delay, replicas that are read by other replicas, acknowledgements on the way
back. A `Pipeline` is the sequence of its registers, register 0 the source.

* `Runs.antitone`: in every run, every register is below all earlier ones. A
  reader of a late register may therefore rely on all registers before it.
-/

namespace PgBouncerK8s

/-- The contents of the registers. -/
abbrev Pipeline (α : Type) := ℕ → α

namespace Pipeline

variable {α : Type}

/-- Write `a` to the source. -/
def push (p : Pipeline α) (a : α) : Pipeline α := Function.update p 0 a

/-- Copy register `i` to its successor. -/
def pass (p : Pipeline α) (i : ℕ) : Pipeline α := Function.update p (i + 1) (p i)

variable [Preorder α]

/-- The source grows, or a register is copied. -/
inductive Step (p : Pipeline α) : Pipeline α → Prop
  | push {a : α} : p 0 ≤ a → Step p (p.push a)
  | pass (i : ℕ) : Step p (p.pass i)

/-- Any number of steps. -/
abbrev Runs : Pipeline α → Pipeline α → Prop := Relation.ReflTransGen Step

variable {p q : Pipeline α}

theorem Step.antitone (hp : Antitone p) (h : Step p q) : Antitone q := by
  apply antitone_nat_of_succ_le
  intro n
  have hn : p (n + 1) ≤ p n := hp (Nat.le_succ n)
  cases h with
  | push ha =>
    unfold Pipeline.push
    rw [Function.update_of_ne (Nat.succ_ne_zero n)]
    by_cases h0 : n = 0
    · subst h0
      rw [Function.update_self]
      exact hn.trans ha
    · rwa [Function.update_of_ne h0]
  | pass i =>
    unfold Pipeline.pass
    by_cases h1 : n = i
    · subst h1
      rw [Function.update_self, Function.update_of_ne (by omega)]
    · rw [Function.update_of_ne (by omega : n + 1 ≠ i + 1)]
      by_cases h2 : n = i + 1
      · subst h2
        rw [Function.update_self]
        exact hn.trans (hp (Nat.le_succ i))
      · rwa [Function.update_of_ne h2]

theorem Runs.of_eq (h : q = p) : Runs p q := h ▸ .refl

theorem Runs.of_pass (i : ℕ) (h : q = p.pass i) : Runs p q := .single (h ▸ .pass i)

theorem Runs.of_push {a : α} (ha : p 0 ≤ a) (h : q = p.push a) : Runs p q := .single (h ▸ .push ha)

theorem Runs.antitone (hp : Antitone p) (h : Runs p q) : Antitone q := by
  induction h with
  | refl => exact hp
  | tail _ hs ih => exact hs.antitone ih

end Pipeline

end PgBouncerK8s
