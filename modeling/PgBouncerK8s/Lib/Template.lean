import Mathlib.Algebra.GroupWithZero.Nat
import Mathlib.Data.List.Basic
import Mathlib.Data.Nat.Notation

/-!
# Texts with holes

A template is a list of texts and holes, which are all filled with the same
value.

* `fill_inj`: a template with a hole determines the value it was filled with.
-/

namespace PgBouncerK8s

/-- A text with holes; `none` is a hole. -/
abbrev Template := List (Option String)

namespace Template

/-- The text with `x` in every hole. -/
def fill (x : String) : Template → String
  | [] => ""
  | seg :: t => seg.getD x ++ fill x t

/-- The number of holes. -/
def holes (t : Template) : ℕ := t.count none

/-- The length of the text around the holes. -/
def fixedLength (t : Template) : ℕ := (t.map fun seg => (seg.getD "").length).sum

variable {t t' : Template} {x y : String}

@[simp] theorem fill_nil : fill x [] = "" := rfl

@[simp] theorem fill_cons (x : String) (seg : Option String) (t : Template) :
    fill x (seg :: t) = seg.getD x ++ fill x t := rfl

theorem fill_append (x : String) (t t' : Template) : fill x (t ++ t') = fill x t ++ fill x t' := by
  induction t with
  | nil => simp
  | cons seg t ih => rw [List.cons_append, fill_cons, fill_cons, ih, String.append_assoc]

theorem fill_flatten (x : String) (l : List Template) :
    fill x l.flatten = (l.map (fill x)).foldr (· ++ ·) "" := by
  induction l with
  | nil => rfl
  | cons t l ih => rw [List.flatten_cons, fill_append, ih, List.map_cons, List.foldr_cons]

/-- Without holes the value does not matter. -/
theorem fill_of_not_mem (h : none ∉ t) : fill x t = fill y t := by
  induction t with
  | nil => rfl
  | cons seg t ih =>
    rw [List.mem_cons, not_or] at h
    rw [fill_cons, fill_cons, ih h.2]
    cases seg with
    | none => exact absurd rfl h.1
    | some s => rfl

theorem length_fill (x : String) (t : Template) :
    (fill x t).length = t.fixedLength + t.holes * x.length := by
  induction t with
  | nil => simp [fixedLength, holes]
  | cons seg t ih =>
    rw [fill_cons, String.length_append, ih]
    unfold fixedLength holes
    cases seg with
    | none =>
      simp only [Option.getD_none, List.map_cons, List.sum_cons, List.count_cons_self,
        String.length_empty]
      rw [Nat.add_mul]
      omega
    | some s =>
      simp only [Option.getD_some, List.map_cons, List.sum_cons, reduceCtorEq, not_false_eq_true,
        List.count_cons_of_ne, ne_eq]
      omega

theorem append_inj_of_length {a b c d : String} (h : a ++ b = c ++ d) (hl : a.length = c.length) :
    a = c ∧ b = d := by
  have htl : a.toList ++ b.toList = c.toList ++ d.toList := by
    rw [← String.toList_append, ← String.toList_append, h]
  have hlen : a.toList.length = c.toList.length := by
    rwa [String.length_toList, String.length_toList]
  obtain ⟨hac, hbd⟩ := List.append_inj htl hlen
  exact ⟨String.toList_injective hac, String.toList_injective hbd⟩

theorem fill_inj_of_length (hl : x.length = y.length) (h : none ∈ t)
    (he : fill x t = fill y t) : x = y := by
  induction t with
  | nil => cases h
  | cons seg t ih =>
    rw [fill_cons, fill_cons] at he
    cases seg with
    | none => exact (append_inj_of_length he hl).1
    | some s =>
      have ht : none ∈ t := by simpa using h
      exact ih ht (append_inj_of_length he rfl).2

/-- A template with a hole determines the value. -/
theorem fill_inj (h : none ∈ t) (he : fill x t = fill y t) : x = y := by
  have hpos : 0 < t.holes := List.count_pos_iff.mpr h
  have hlen : t.holes * x.length = t.holes * y.length := by
    have hx := length_fill x t
    have hy := length_fill y t
    rw [he] at hx
    omega
  exact fill_inj_of_length (Nat.eq_of_mul_eq_mul_left hpos hlen) h he

end Template

end PgBouncerK8s
