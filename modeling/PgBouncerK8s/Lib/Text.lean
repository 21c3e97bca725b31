import Mathlib.Data.List.Dedup
import Mathlib.Data.List.Sort
import Mathlib.Data.Nat.Notation
import Mathlib.Logic.Function.Defs
import Mathlib.Data.String.Basic

/-!
# Python string operations

The `str` methods the charm uses, on `String` seen as its list of code points.

* `split_join`: splitting what was joined on the separator.
* `split_append`: a part put behind a separator.
* `eq_of_replace`, `strip_eq_self`: when `replace` and `strip` change nothing.
* `str_injective`, `str_ne`: the decimal text of a natural number determines
  it and contains digits only.
-/

namespace PgBouncerK8s.Text

/-- `s.split(sep)` for a one-character separator. -/
def split (sep : Char) (s : String) : List String := (s.toList.splitOn sep).map String.ofList

/-- `sep.join(l)` for a one-character separator. -/
def join (sep : Char) (l : List String) : String :=
  String.ofList ([sep].intercalate (l.map String.toList))

/-- `s.replace(a, b)` for single characters. -/
def replace (a b : Char) (s : String) : String :=
  String.ofList (s.toList.map fun c => if c = a then b else c)

/-- `s.strip(c)` for a single character. -/
def strip (c : Char) (s : String) : String :=
  String.ofList ((s.toList.dropWhile (· = c)).reverse.dropWhile (· = c)).reverse

/-- `c.isspace()`. -/
def isSpace (c : Char) : Bool :=
  [0x20, 0x85, 0xA0, 0x1680, 0x2028, 0x2029, 0x202F, 0x205F, 0x3000].contains c.val ||
    (0x09 ≤ c.val && c.val ≤ 0x0D) || (0x1C ≤ c.val && c.val ≤ 0x1F) ||
    (0x2000 ≤ c.val && c.val ≤ 0x200A)

/-- `s.strip()`. -/
def stripSpace (s : String) : String :=
  String.ofList ((s.toList.dropWhile isSpace).reverse.dropWhile isSpace).reverse

/-- `s.startswith(p)`. -/
def startswith (s p : String) : Bool := p.toList.isPrefixOf s.toList

/-- `s.endswith(p)`. -/
def endswith (s p : String) : Bool := p.toList.isSuffixOf s.toList

/-- `str(n)` for a natural number. -/
def str (n : ℕ) : String := n.repr

/-- `int(s)` for decimal digits; `none` where it raises `ValueError`. -/
def int (s : String) : Option ℕ :=
  if s.toList ≠ [] ∧ s.toList.all Char.isDigit = true then
    some (Nat.ofDigitChars 10 s.toList 0)
  else none

/-- `sorted(set(l))`. -/
def sortedSet (l : List String) : List String := l.dedup.insertionSort (· ≤ ·)

/-- `s.lower()` on ASCII text. -/
def asciiLower (s : String) : String := String.ofList (s.toList.map Char.toLower)

/-! ## `split` and `join` -/

/-- Splitting what was joined gives the parts back. -/
theorem split_join {sep : Char} {l : List String} (hl : l ≠ [])
    (h : ∀ s ∈ l, sep ∉ s.toList) : split sep (join sep l) = l := by
  have hmap : (l.map String.toList).map String.ofList = l := by
    rw [List.map_map]
    exact (List.map_congr_left fun _ _ => String.ofList_toList).trans (List.map_id l)
  rw [split, join, String.toList_ofList, List.splitOn_intercalate, hmap]
  · intro cs hcs
    obtain ⟨s, hs, rfl⟩ := List.mem_map.mp hcs
    exact h s hs
  · simpa using hl

@[simp] theorem join_nil (sep : Char) : join sep [] = "" := by
  simp [join]

@[simp] theorem join_singleton (sep : Char) (s : String) : join sep [s] = s := by
  simp [join]

theorem split_ne_nil (sep : Char) (s : String) : split sep s ≠ [] := by
  simp [split, List.splitOn, List.splitOnP_ne_nil]

/-- A text without the separator is one part. -/
theorem split_of_not_mem {sep : Char} {s : String} (h : sep ∉ s.toList) : split sep s = [s] := by
  rw [split, List.splitOn_eq_singleton h, List.map_singleton, String.ofList_toList]

/-- A part put behind a separator is the last part. -/
theorem split_append {sep : Char} (s : String) {t l : String} (ht : t.toList = [sep])
    (hl : sep ∉ l.toList) : split sep (s ++ t ++ l) = split sep s ++ [l] := by
  rw [← split_of_not_mem hl, split, split, split, String.toList_append, String.toList_append, ht,
    List.append_assoc, List.singleton_append,
    List.splitOn_append_cons_of_beq _ _ (beq_self_eq_true sep), List.map_append]

theorem join_split (sep : Char) (s : String) : join sep (split sep s) = s := by
  have hmap : ((s.toList.splitOn sep).map String.ofList).map String.toList =
      s.toList.splitOn sep := by
    rw [List.map_map]
    exact (List.map_congr_left fun _ _ => String.toList_ofList).trans (List.map_id _)
  rw [join, split, hmap, List.intercalate_splitOn, String.ofList_toList]

/-! ## `replace` and `strip` -/

theorem toList_replace (a b : Char) (s : String) :
    (replace a b s).toList = s.toList.map fun c => if c = a then b else c :=
  String.toList_ofList

theorem not_mem_replace {a b : Char} (h : a ≠ b) (s : String) : a ∉ (replace a b s).toList := by
  rw [toList_replace, List.mem_map]
  rintro ⟨c, -, hc⟩
  split_ifs at hc with hca
  · exact h hc.symm
  · exact hca hc

theorem replace_of_not_mem {a b : Char} {s : String} (h : a ∉ s.toList) : replace a b s = s := by
  have hmap : (s.toList.map fun c => if c = a then b else c) = s.toList := by
    rw [List.map_congr_left (g := id), List.map_id]
    rintro c hc
    have hne : c ≠ a := fun he => h (he ▸ hc)
    exact if_neg hne
  rw [replace, hmap, String.ofList_toList]

/-- A replacement that does not show has not replaced anything. -/
theorem eq_of_replace {a b : Char} {s : String} (h : b ∉ (replace a b s).toList) :
    replace a b s = s := by
  apply replace_of_not_mem
  intro ha
  rw [toList_replace, List.mem_map] at h
  exact h ⟨a, ha, if_pos rfl⟩

/-- A text that neither starts nor ends with the character. -/
theorem strip_eq_self {c : Char} {s : String} (hhead : s.toList.head? ≠ some c)
    (hlast : s.toList.getLast? ≠ some c) : strip c s = s := by
  have hdrop : ∀ l : List Char, l.head? ≠ some c → l.dropWhile (· = c) = l := by
    intro l hl
    cases l with
    | nil => rfl
    | cons d l =>
      rw [List.dropWhile_cons_of_neg]
      simpa using hl
  rw [strip, hdrop _ hhead, hdrop _ (by rwa [List.head?_reverse]), List.reverse_reverse,
    String.ofList_toList]

/-- Texts stripped of white space are made of their own characters. -/
theorem mem_of_mem_stripSpace {s : String} {c : Char} (h : c ∈ (stripSpace s).toList) :
    c ∈ s.toList := by
  rw [stripSpace, String.toList_ofList, List.mem_reverse] at h
  have hsub := List.dropWhile_sublist (l := (s.toList.dropWhile isSpace).reverse) isSpace
  have hsub' := List.dropWhile_sublist (l := s.toList) isSpace
  exact hsub'.subset (List.mem_reverse.mp (hsub.subset h))

/-- Texts that do not start alike differ. -/
theorem append_ne {p q : String} (h : ¬ p.toList <+: q.toList) (x : String) : p ++ x ≠ q := by
  intro he
  apply h
  rw [← he, String.toList_append]
  exact List.prefix_append _ _

/-! ## Sorted texts -/

@[simp] theorem mem_sortedSet {l : List String} {s : String} : s ∈ sortedSet l ↔ s ∈ l := by
  rw [sortedSet, (List.perm_insertionSort _ _).mem_iff, List.mem_dedup]

theorem sortedSet_eq_nil {l : List String} : sortedSet l = [] ↔ l = [] := by
  rw [List.eq_nil_iff_forall_not_mem, List.eq_nil_iff_forall_not_mem]
  simp

@[simp] theorem sortedSet_nil : sortedSet [] = [] := rfl

@[simp] theorem sortedSet_singleton (s : String) : sortedSet [s] = [s] := by
  simp [sortedSet]

/-- The sorted list depends on the set only. -/
theorem sortedSet_congr {l l' : List String} (h : ∀ s, s ∈ l ↔ s ∈ l') :
    sortedSet l = sortedSet l' := by
  apply List.Perm.eq_of_pairwise' (r := (· ≤ ·))
  · exact List.pairwise_insertionSort _ _
  · exact List.pairwise_insertionSort _ _
  · have hsorted : ∀ m : List String, (m.insertionSort (· ≤ ·)).Perm m :=
      fun m => List.perm_insertionSort _ m
    refine (hsorted _).trans (List.Perm.trans ?_ (hsorted _).symm)
    rw [List.perm_ext_iff_of_nodup (List.nodup_dedup l) (List.nodup_dedup l')]
    simpa using h

/-- Sorted lists of texts that are not empty and do not have the separator are
    joined to the same text exactly when they have the same elements. -/
theorem join_sortedSet_inj {sep : Char} {l l' : List String}
    (h : ∀ s ∈ l, s ≠ "" ∧ sep ∉ s.toList) (h' : ∀ s ∈ l', s ≠ "" ∧ sep ∉ s.toList) :
    join sep (sortedSet l) = join sep (sortedSet l') ↔ ∀ s, s ∈ l ↔ s ∈ l' := by
  refine ⟨fun he => ?_, fun hmem => by rw [sortedSet_congr hmem]⟩
  -- only the empty list is joined to the empty text
  have hempty : split sep "" = [""] := by
    rw [split_of_not_mem (by simp)]
  have hnil : ∀ m : List String, (∀ s ∈ m, s ≠ "" ∧ sep ∉ s.toList) →
      join sep (sortedSet m) = "" → m = [] := by
    intro m hm hj
    by_contra hne
    have hsplit : split sep (join sep (sortedSet m)) = sortedSet m :=
      split_join (sortedSet_eq_nil.not.mpr hne) fun s hs => (hm s (mem_sortedSet.mp hs)).2
    rw [hj, hempty] at hsplit
    exact (hm "" (mem_sortedSet.mp (hsplit ▸ List.mem_singleton_self ""))).1 rfl
  by_cases hl : l = []
  · subst hl
    rw [hnil l' h' (by rw [← he]; rfl)]
    simp
  · have hl' : l' ≠ [] := by
      rintro rfl
      exact hl (hnil l h (by rw [he]; rfl))
    have hsplit : split sep (join sep (sortedSet l)) = sortedSet l :=
      split_join (sortedSet_eq_nil.not.mpr hl) fun s hs => (h s (mem_sortedSet.mp hs)).2
    rw [he, split_join (sortedSet_eq_nil.not.mpr hl') fun s hs => (h' s (mem_sortedSet.mp hs)).2]
      at hsplit
    intro s
    rw [← mem_sortedSet, ← hsplit, mem_sortedSet]

/-! ## Decimal texts -/

theorem str_injective : Function.Injective str := by
  intro m n h
  have hd : Nat.toDigits 10 m = Nat.toDigits 10 n := by
    rw [← Nat.toList_repr, ← Nat.toList_repr]
    exact congrArg String.toList h
  have := congrArg (Nat.ofDigitChars 10 · 0) hd
  simpa using this

theorem isDigit_of_mem_str {n : ℕ} {c : Char} (h : c ∈ (str n).toList) : c.isDigit = true := by
  rw [str, Nat.toList_repr] at h
  exact Nat.isDigit_of_mem_toDigits (by decide) (by decide) h

theorem int_str (n : ℕ) : int (str n) = some n := by
  have hne : (str n).toList ≠ [] := by
    rw [str, Nat.toList_repr]
    exact Nat.toDigits_ne_nil
  have hall : (str n).toList.all Char.isDigit = true :=
    List.all_eq_true.mpr fun _ => isDigit_of_mem_str
  rw [int, if_pos ⟨hne, hall⟩, str, Nat.toList_repr]
  simp

/-- A text with a character that is not a digit is not the text of a number. -/
theorem str_ne {s : String} {c : Char} (hc : c ∈ s.toList) (hd : c.isDigit = false) (n : ℕ) :
    str n ≠ s := by
  rintro rfl
  simp [isDigit_of_mem_str hc] at hd

end PgBouncerK8s.Text
