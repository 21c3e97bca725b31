import Mathlib.Data.List.Basic
import Mathlib.Data.List.Nodup

/-!
# Removal during iteration

`for x in l: if p(x): l.remove(x)` in Python walks by index over the list it
shrinks, so that it never looks at the element after one it has removed.

* `removeLoop_eq_skip`: on distinct elements the loop removes what it looks at.
* `removeLoop_eq_filter`: it removes everything it should where no two elements
  are to be removed.
-/

namespace PgBouncerK8s

variable {α : Type}

/-- Removal of the elements that satisfy `p`, up to those that follow a removed one. -/
def skip (p : α → Bool) : List α → List α
  | [] => []
  | x :: l => if p x then match l with
      | [] => []
      | y :: l => y :: skip p l
    else x :: skip p l

theorem skip_cons_of_neg {p : α → Bool} {x : α} (h : ¬p x = true) (l : List α) :
    skip p (x :: l) = x :: skip p l := by
  cases l <;> simp [skip, h]

theorem skip_eq_filter {p : α → Bool} {l : List α}
    (h : l.Pairwise fun x y => p x = true → p y = false) : skip p l = l.filter fun x => !p x := by
  induction l using skip.induct (p := p) with
  | case1 => rfl
  | case2 x hp => simp [skip, hp]
  | case3 x hp y l ih =>
    obtain ⟨hx, hl⟩ := List.pairwise_cons.mp h
    have hy : p y = false := hx y List.mem_cons_self hp
    have hrest := ih (List.pairwise_cons.mp hl).2
    simp [skip, hp, hy, hrest]
  | case4 x l hp ih =>
    have hrest := ih (List.pairwise_cons.mp h).2
    simp [skip_cons_of_neg hp, hp, hrest]

variable [DecidableEq α]

/-- One turn of the loop, at index `i`. -/
def removeStep (p : α → Bool) (l : List α) (i : ℕ) : List α :=
  match l[i]? with
  | some x => if p x then l.erase x else l
  | none => l

/-- The loop over a list that becomes no longer. -/
def removeLoop (p : α → Bool) (l : List α) : List α :=
  (List.range l.length).foldl (removeStep p) l

theorem removeStep_append (p : α → Bool) {pre l : List α} {x : α} (h : x ∉ pre) :
    removeStep p (pre ++ x :: l) pre.length = if p x then pre ++ l else pre ++ x :: l := by
  have hget : (pre ++ x :: l)[pre.length]? = some x := by simp
  unfold removeStep
  rw [hget]
  simp only [List.erase_append_right _ h, List.erase_cons_head]

theorem foldl_removeStep_of_length_le (p : α → Bool) (l : List α) {i : ℕ} (h : l.length ≤ i)
    (k : ℕ) : (List.range' i k).foldl (removeStep p) l = l := by
  induction k generalizing i with
  | zero => rfl
  | succ k ih =>
    have hstep : removeStep p l i = l := by
      unfold removeStep
      rw [List.getElem?_eq_none h]
    rw [List.range'_succ, List.foldl_cons, hstep]
    exact ih (Nat.le_succ_of_le h)

/-- The loop has come to the end of `pre`. -/
theorem foldl_removeStep (p : α → Bool) (k : ℕ) {pre l : List α} (hk : l.length ≤ k)
    (h : (pre ++ l).Nodup) :
    (List.range' pre.length k).foldl (removeStep p) (pre ++ l) = pre ++ skip p l := by
  induction k generalizing pre l with
  | zero =>
    obtain rfl := List.length_eq_zero_iff.mp (Nat.le_zero.mp hk)
    simp [skip]
  | succ k ih =>
    cases l with
    | nil => simpa [skip] using foldl_removeStep_of_length_le p pre (Nat.le_refl _) (k + 1)
    | cons x l =>
      have hnot : x ∉ pre := fun hx =>
        (List.nodup_append.mp h).2.2 x hx x List.mem_cons_self rfl
      rw [List.range'_succ, List.foldl_cons, removeStep_append p hnot]
      -- the loop goes on behind `x`, or behind the element that has come to its place
      by_cases hp : p x = true
      · rw [if_pos hp]
        cases l with
        | nil =>
          rw [List.append_nil, foldl_removeStep_of_length_le p pre (Nat.le_succ _)]
          simp [skip, hp]
        | cons y l =>
          have hnodup : (pre ++ y :: l).Nodup :=
            h.sublist ((List.sublist_cons_self x (y :: l)).append_left pre)
          have hlen : l.length ≤ k := by
            simp only [List.length_cons] at hk
            omega
          have hrest := @ih (pre ++ [y]) l hlen (by simpa using hnodup)
          simpa [skip, hp] using hrest
      · rw [if_neg hp]
        have hrest := @ih (pre ++ [x]) l (Nat.succ_le_succ_iff.mp hk) (by simpa using h)
        simpa [skip_cons_of_neg hp] using hrest

theorem removeLoop_eq_skip (p : α → Bool) {l : List α} (h : l.Nodup) :
    removeLoop p l = skip p l := by
  have hloop := foldl_removeStep p l.length (Nat.le_refl _) (List.nil_append l ▸ h)
  simpa [removeLoop, List.range_eq_range'] using hloop

/-- Where at most one element is to be removed, the loop is right. -/
theorem removeLoop_eq_filter {p : α → Bool} {l : List α} (h : l.Nodup)
    (hp : l.Pairwise fun x y => p x = true → p y = false) :
    removeLoop p l = l.filter fun x => !p x := by
  rw [removeLoop_eq_skip p h, skip_eq_filter hp]

/-- In particular an element. -/
theorem removeLoop_eq {a : α} {l : List α} (h : l.Nodup) :
    removeLoop (· = a) l = l.filter (· ≠ a) := by
  have hpair : l.Pairwise fun x y => decide (x = a) = true → decide (y = a) = false :=
    h.imp fun hne hx => decide_eq_false fun hy => hne ((of_decide_eq_true hx).trans hy.symm)
  rw [removeLoop_eq_filter h hpair]
  simp

/-- Or what a field tells apart. -/
theorem removeLoop_map_eq {β : Type} [DecidableEq β] (f : α → β) {b : β} {l : List α}
    (h : (l.map f).Nodup) : removeLoop (fun x => f x = b) l = l.filter fun x => f x ≠ b := by
  have hpair : l.Pairwise fun x y => decide (f x = b) = true → decide (f y = b) = false :=
    (List.pairwise_map.mp h).imp fun hne hx =>
      decide_eq_false fun hy => hne ((of_decide_eq_true hx).trans hy.symm)
  rw [removeLoop_eq_filter h.of_map hpair]
  simp

end PgBouncerK8s
