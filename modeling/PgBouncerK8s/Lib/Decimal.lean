import Mathlib.Algebra.Order.Monoid.NatCast
import Mathlib.Tactic.Ring
import PgBouncerK8s.Lib.Text

/-!
# The text order of decimal numbers

Texts are ordered by the first code point in which they differ. Decimal texts
are then ordered as the fractions that have them behind the point, so `9` comes
after `14`.

* `append_cons_lt_iff`: texts of two parts, with a separator below all
  characters of the first.
* `str_lt_str_iff`: the text order as an order of fractions.
* `str_lt_iff_iff`: where it differs from the order of numbers, for a bound of
  two digits.
-/

namespace PgBouncerK8s.Text

/-! ## Parts -/

/-- Lists with a separator that is below all elements in front of it are
    ordered part by part. -/
theorem append_cons_lt_iff {α : Type} [LinearOrder α] {sep : α} {l l' x y : List α}
    (hl : ∀ c ∈ l, sep < c) (hl' : ∀ c ∈ l', sep < c) :
    l ++ sep :: x < l' ++ sep :: y ↔ l < l' ∨ l = l' ∧ x < y := by
  induction l generalizing l' with
  | nil =>
    cases l' with
    | nil => simp
    | cons c' l' => simp [List.cons_lt_cons_iff, hl' c' List.mem_cons_self]
  | cons c l ih =>
    have hc := hl c List.mem_cons_self
    cases l' with
    | nil => simp [List.cons_lt_cons_iff, hc.not_gt, hc.ne']
    | cons c' l' =>
      have ih : l ++ sep :: x < l' ++ sep :: y ↔ l < l' ∨ l = l' ∧ x < y :=
        ih (fun d hd => hl d (List.mem_cons_of_mem _ hd)) fun d hd =>
          hl' d (List.mem_cons_of_mem _ hd)
      rw [List.cons_append, List.cons_append, List.cons_lt_cons_iff, List.cons_lt_cons_iff, ih,
        List.cons.injEq]
      tauto

/-! ## Digits -/

/-- The number a list of digits stands for. -/
def value (l : List Char) : ℕ := Nat.ofDigitChars 10 l 0

/-- The value of one digit. -/
def digit (c : Char) : ℕ := c.toNat - '0'.toNat

theorem value_cons (c : Char) (l : List Char) :
    value (c :: l) = 10 ^ l.length * digit c + value l := by
  rw [value, Nat.ofDigitChars_cons, Nat.ofDigitChars_eq_ofDigitChars_zero, Nat.mul_zero,
    Nat.zero_add]
  rfl

theorem digit_lt {c : Char} (hc : c.isDigit = true) : digit c < 10 := by
  simp only [Char.isDigit, Bool.and_eq_true, decide_eq_true_eq] at hc
  have hle : c.toNat ≤ 57 := hc.2
  have hzero : '0'.toNat = 48 := rfl
  unfold digit
  omega

theorem lt_iff_digit_lt {c d : Char} (hc : c.isDigit = true) (hd : d.isDigit = true) :
    c < d ↔ digit c < digit d := by
  simp only [Char.isDigit, Bool.and_eq_true, decide_eq_true_eq] at hc hd
  have hc : 48 ≤ c.toNat := hc.1
  have hd : 48 ≤ d.toNat := hd.1
  have hlt : c < d ↔ c.toNat < d.toNat := Iff.rfl
  have hzero : '0'.toNat = 48 := rfl
  rw [hlt, digit, digit, hzero]
  omega

theorem digit_inj {c d : Char} (hc : c.isDigit = true) (hd : d.isDigit = true) :
    digit c = digit d ↔ c = d := by
  constructor
  · intro h
    apply le_antisymm
    · exact not_lt.mp fun hlt => ((lt_iff_digit_lt hd hc).mp hlt).ne' h
    · exact not_lt.mp fun hlt => ((lt_iff_digit_lt hc hd).mp hlt).ne h
  · rintro rfl
    rfl

theorem value_lt {l : List Char} (hl : ∀ c ∈ l, c.isDigit = true) :
    value l < 10 ^ l.length := by
  induction l with
  | nil => decide
  | cons c l ih =>
    have hc := digit_lt (hl c List.mem_cons_self)
    have ih := ih fun d hd => hl d (List.mem_cons_of_mem _ hd)
    have hmul := Nat.mul_le_mul_left (10 ^ l.length) (Nat.le_of_lt_succ hc)
    rw [value_cons, List.length_cons, Nat.pow_succ]
    omega

/-- Comparing two numbers by their quotients first. -/
theorem mul_add_lt_iff {m x y : ℕ} (hx : x < m) (hy : y < m) (d e : ℕ) :
    m * d + x < m * e + y ↔ d < e ∨ d = e ∧ x < y := by
  rcases Nat.lt_trichotomy d e with h | rfl | h
  · have hmul := Nat.mul_le_mul_left m (Nat.succ_le_of_lt h)
    rw [Nat.mul_succ] at hmul
    omega
  · omega
  · have hmul := Nat.mul_le_mul_left m (Nat.succ_le_of_lt h)
    rw [Nat.mul_succ] at hmul
    omega

/-- The order of lists of digits is that of the fractions behind the point; of
    two that stand for the same fraction the shorter one comes first. -/
theorem digits_lt_iff {l l' : List Char} (hl : ∀ c ∈ l, c.isDigit = true)
    (hl' : ∀ c ∈ l', c.isDigit = true) :
    l < l' ↔ value l * 10 ^ l'.length < value l' * 10 ^ l.length ∨
      value l * 10 ^ l'.length = value l' * 10 ^ l.length ∧ l.length < l'.length := by
  induction l generalizing l' with
  | nil =>
    have hnil : value [] = 0 := rfl
    cases l' with
    | nil => simp [hnil]
    | cons c' l' => simp [hnil, Nat.pos_iff_ne_zero, em', eq_comm]
  | cons c l ih =>
    have hc := hl c List.mem_cons_self
    cases l' with
    | nil => simp [value]
    | cons c' l' =>
      have hc' := hl' c' List.mem_cons_self
      have htail : ∀ d ∈ l, d.isDigit = true := fun d hd => hl d (List.mem_cons_of_mem _ hd)
      have htail' : ∀ d ∈ l', d.isDigit = true := fun d hd => hl' d (List.mem_cons_of_mem _ hd)
      have hpos : ∀ n, 0 < 10 ^ n := fun n => Nat.pow_pos (by decide)
      have hv := Nat.mul_lt_mul_of_pos_right (value_lt htail) (hpos l'.length)
      have hv' := Nat.mul_lt_mul_of_pos_right (value_lt htail') (hpos l.length)
      rw [Nat.mul_comm (10 ^ l'.length)] at hv'
      -- both sides over the common denominator
      have hleft : value (c :: l) * 10 ^ (c' :: l').length =
          10 * (10 ^ l.length * 10 ^ l'.length * digit c + value l * 10 ^ l'.length) := by
        rw [value_cons, List.length_cons]
        ring
      have hright : value (c' :: l') * 10 ^ (c :: l).length =
          10 * (10 ^ l.length * 10 ^ l'.length * digit c' + value l' * 10 ^ l.length) := by
        rw [value_cons, List.length_cons]
        ring
      have hlt := mul_add_lt_iff hv hv' (digit c) (digit c')
      have hgt := mul_add_lt_iff hv' hv (digit c') (digit c)
      rw [List.cons_lt_cons_iff, ih htail htail', lt_iff_digit_lt hc hc', ← digit_inj hc hc',
        hleft, hright, List.length_cons, List.length_cons]
      omega

/-! ## Numbers -/

theorem value_str (n : ℕ) : value (str n).toList = n := by
  rw [str, Nat.toList_repr, value, Nat.ofDigitChars_ten_toDigits]

/-- The length of a text with `k + 1` digits. -/
theorem length_str_eq_iff {n k : ℕ} (hk : 0 < k) :
    (str n).length = k + 1 ↔ 10 ^ k ≤ n ∧ n < 10 ^ (k + 1) := by
  have hle : (str n).length ≤ k ↔ n < 10 ^ k := Nat.length_repr_le_iff hk
  have hle' : (str n).length ≤ k + 1 ↔ n < 10 ^ (k + 1) := Nat.length_repr_le_iff k.succ_pos
  omega

theorem length_str_eq_one_iff {n : ℕ} : (str n).length = 1 ↔ n < 10 := by
  have hle : (str n).length ≤ 1 ↔ n < 10 ^ 1 := Nat.length_repr_le_iff Nat.one_pos
  have hpos : 0 < (str n).length := Nat.length_repr_pos
  omega

/-- The text order of numbers is that of the fractions with their digits. -/
theorem str_lt_str_iff (m n : ℕ) :
    str m < str n ↔ m * 10 ^ (str n).length < n * 10 ^ (str m).length ∨
      m * 10 ^ (str n).length = n * 10 ^ (str m).length ∧ (str m).length < (str n).length := by
  have h := digits_lt_iff (fun _ => isDigit_of_mem_str (n := m))
    fun _ => isDigit_of_mem_str (n := n)
  rwa [value_str, value_str, String.length_toList, String.length_toList] at h

/-! ## Bounds of two digits -/

/-- The text of `n` is on the other side of that of `bound` than `n` of `bound`:
    one digit that comes after the first of `bound`, or three digits or more
    whose first two are below `bound`. -/
def Misordered (bound n : ℕ) : Prop :=
  bound < 10 * n ∧ n < 10 ∨ ∃ e, 0 < e ∧ 10 ^ (e + 1) ≤ n ∧ n < bound * 10 ^ e

theorem not_misordered {bound n : ℕ} (hlo : 10 ≤ n) (hhi : n < 100) : ¬ Misordered bound n := by
  rintro (⟨-, hlt⟩ | ⟨e, he, hle, -⟩)
  · omega
  · have hpow := Nat.pow_le_pow_right (by decide : 0 < 10) (Nat.succ_le_succ he)
    omega

/-- The exponent is that of the number's own length. -/
theorem exists_exponent_iff {bound n e : ℕ} (hb : bound < 100) (hlo : 10 ^ (e + 1) ≤ n)
    (hhi : n < 10 ^ (e + 2)) :
    (∃ e, 0 < e ∧ 10 ^ (e + 1) ≤ n ∧ n < bound * 10 ^ e) ↔ 0 < e ∧ n < bound * 10 ^ e := by
  constructor
  · rintro ⟨x, hx, hle, hlt⟩
    have hpow : bound * 10 ^ x ≤ 10 ^ (x + 2) := by
      rw [Nat.pow_add, Nat.mul_comm]
      exact Nat.mul_le_mul_left _ (by omega)
    have h₁ : x + 1 < e + 2 := (Nat.pow_lt_pow_iff_right (by decide)).mp (hle.trans_lt hhi)
    have h₂ : e + 1 < x + 2 :=
      (Nat.pow_lt_pow_iff_right (by decide)).mp (hlo.trans_lt (hlt.trans_le hpow))
    obtain rfl : x = e := by omega
    exact ⟨hx, hlt⟩
  · exact fun ⟨he, hlt⟩ => ⟨e, he, hlo, hlt⟩

/-- The two orders agree on all other numbers. -/
theorem str_lt_iff_iff {bound : ℕ} (hb : 10 ≤ bound) (hb' : bound < 100) (n : ℕ) :
    (str n < str bound ↔ n < bound) ↔ ¬ Misordered bound n := by
  have hbound : (str bound).length = 2 := (length_str_eq_iff (by decide)).mpr ⟨hb, hb'⟩
  rw [str_lt_str_iff, hbound]
  unfold Misordered
  by_cases h : n < 10
  · have hnone : ¬ ∃ e, 0 < e ∧ 10 ^ (e + 1) ≤ n ∧ n < bound * 10 ^ e := by
      rintro ⟨e, -, hle, -⟩
      have hself := Nat.le_self_pow e.succ_ne_zero 10
      omega
    rw [length_str_eq_one_iff.mpr h, or_iff_left hnone]
    omega
  · obtain ⟨e, hlen⟩ : ∃ e, (str n).length = e + 2 := by
      have hpos : 0 < (str n).length := Nat.length_repr_pos
      have hone := mt length_str_eq_one_iff.mp h
      exact Nat.exists_eq_add_of_le' (by omega)
    obtain ⟨hlo, hhi⟩ := (length_str_eq_iff e.succ_pos).mp hlen
    have hscale : bound * 10 ^ (e + 2) = bound * 10 ^ e * 10 ^ 2 := by
      rw [Nat.pow_add, Nat.mul_assoc]
    rw [exists_exponent_iff hb' hlo hhi, hlen, hscale]
    cases e with
    | zero => omega
    | succ e =>
      have hn : 10 ^ 2 ≤ n := (Nat.pow_le_pow_right (by decide) (by omega)).trans hlo
      omega

end PgBouncerK8s.Text
