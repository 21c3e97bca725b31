import Mathlib.Data.List.Basic
import Mathlib.Data.List.Nodup

/-!
# Insertion-ordered dictionaries

A `Dict κ ν` is a finite map that remembers the order in which its keys were
first set, as a Python `dict` does: assigning to a key that is present keeps
its position, assigning to a new key appends it. The keys are pairwise
distinct by construction.

Results:
* `get?_set`, `get?_erase`, `get?_modify`: how each operation reads back.
* `get?_setAll_of_mem`, `get?_setAll_last`: what a list of assignments leaves
  under a key.
* `read_foldl`: what operations on single keys leave, performed for all entries.
* `mapValues_setAll`: the values can be mapped before the assignments.
-/

namespace PgBouncerK8s

/-- A finite map in insertion order. -/
@[ext]
structure Dict (κ ν : Type) where
  items : List (κ × ν)
  nodup : (items.map Prod.fst).Nodup

namespace Dict

variable {κ ν : Type} [DecidableEq κ]

instance [DecidableEq ν] : DecidableEq (Dict κ ν) := fun d d' =>
  decidable_of_iff (d.items = d'.items) Dict.ext_iff.symm

/-- `{}`. -/
def empty : Dict κ ν := ⟨[], List.nodup_nil⟩

/-- `d.keys()`. -/
def keys (d : Dict κ ν) : List κ := d.items.map Prod.fst

/-- `d.values()`. -/
def values (d : Dict κ ν) : List ν := d.items.map Prod.snd

/-- `d.get(k)`. -/
def get? (d : Dict κ ν) (k : κ) : Option ν := d.items.lookup k

/-- `k in d`. -/
def contains (d : Dict κ ν) (k : κ) : Bool := (d.get? k).isSome

/-! ## Assignment -/

/-- `d[k] = v` on the list of items. -/
def setItems (k : κ) (v : ν) : List (κ × ν) → List (κ × ν)
  | [] => [(k, v)]
  | p :: l => if p.1 = k then (k, v) :: l else p :: setItems k v l

theorem map_fst_setItems (k : κ) (v : ν) (l : List (κ × ν)) :
    (setItems k v l).map Prod.fst =
      if k ∈ l.map Prod.fst then l.map Prod.fst else l.map Prod.fst ++ [k] := by
  induction l with
  | nil => simp [setItems]
  | cons p l ih =>
    by_cases h : p.1 = k
    · simp [setItems, h]
    · have hk : ¬ k = p.1 := fun e => h e.symm
      simp only [setItems, if_neg h, List.map_cons, ih, List.mem_cons, hk, false_or]
      split_ifs <;> simp

theorem nodup_setItems {k : κ} {v : ν} {l : List (κ × ν)} (h : (l.map Prod.fst).Nodup) :
    ((setItems k v l).map Prod.fst).Nodup := by
  rw [map_fst_setItems]
  split_ifs with hk
  · exact h
  · rw [← List.concat_eq_append]
    exact h.concat hk

theorem lookup_setItems (k k' : κ) (v : ν) (l : List (κ × ν)) :
    (setItems k v l).lookup k' = if k' = k then some v else l.lookup k' := by
  induction l with
  | nil => by_cases h : k' = k <;> simp [setItems, List.lookup_cons, h, beq_eq_false_iff_ne.mpr]
  | cons p l ih =>
    obtain ⟨a, b⟩ := p
    by_cases ha : a = k
    · subst ha
      by_cases h : k' = a <;> simp [setItems, List.lookup_cons, h, beq_eq_false_iff_ne.mpr]
    · by_cases h : k' = a
      · subst h
        simp [setItems, ha]
      · simp [setItems, ha, List.lookup_cons, beq_eq_false_iff_ne.mpr h, ih]

/-- `d[k] = v`. -/
def set (d : Dict κ ν) (k : κ) (v : ν) : Dict κ ν :=
  ⟨setItems k v d.items, nodup_setItems d.nodup⟩

/-! ## Removal and update in place -/

/-- `d.pop(k, None)`. -/
def erase (d : Dict κ ν) (k : κ) : Dict κ ν :=
  ⟨d.items.filter (fun p => p.1 ≠ k), (d.items.filter_sublist.map Prod.fst).nodup d.nodup⟩

/-- Apply `f` to the value stored under `k`, if there is one. -/
def modify (d : Dict κ ν) (k : κ) (f : ν → ν) : Dict κ ν :=
  ⟨d.items.map (fun p => if p.1 = k then (p.1, f p.2) else p), by
    have h : (Prod.fst ∘ fun p : κ × ν => if p.1 = k then (p.1, f p.2) else p) = Prod.fst := by
      funext p
      by_cases h : p.1 = k <;> simp [h]
    rw [List.map_map, h]
    exact d.nodup⟩

/-- Apply `f` to every value. -/
def mapValues {ν' : Type} (d : Dict κ ν) (f : ν → ν') : Dict κ ν' :=
  ⟨d.items.map fun p => (p.1, f p.2), by
    have h : (Prod.fst ∘ fun p : κ × ν => (p.1, f p.2)) = Prod.fst := rfl
    rw [List.map_map, h]
    exact d.nodup⟩

/-- Perform a list of assignments from left to right. -/
def setAll (d : Dict κ ν) (l : List (κ × ν)) : Dict κ ν :=
  l.foldl (fun d p => d.set p.1 p.2) d

/-! ## Reading back -/

@[simp] theorem get?_empty (k : κ) : (empty : Dict κ ν).get? k = none := rfl

theorem get?_set (d : Dict κ ν) (k k' : κ) (v : ν) :
    (d.set k v).get? k' = if k' = k then some v else d.get? k' :=
  lookup_setItems k k' v d.items

@[simp] theorem get?_set_self (d : Dict κ ν) (k : κ) (v : ν) : (d.set k v).get? k = some v := by
  simp [get?_set]

theorem get?_set_of_ne (d : Dict κ ν) {k k' : κ} (h : k' ≠ k) (v : ν) :
    (d.set k v).get? k' = d.get? k' := by
  simp [get?_set, h]

/-- What holds of the entries still does when it holds of the new one. -/
theorem forall_get?_set {P : κ → ν → Prop} {d : Dict κ ν} {k : κ} {v : ν} (hself : P k v)
    (hother : ∀ k' v', k' ≠ k → d.get? k' = some v' → P k' v') :
    ∀ k' v', (d.set k v).get? k' = some v' → P k' v' := by
  intro k' v' h
  rw [get?_set] at h
  split_ifs at h with hk
  · cases h
    exact hk ▸ hself
  · exact hother k' v' hk h

theorem get?_eq_some_iff (d : Dict κ ν) (k : κ) (v : ν) : d.get? k = some v ↔ (k, v) ∈ d.items := by
  obtain ⟨l, hl⟩ := d
  simp only [get?]
  induction l with
  | nil => simp
  | cons p l ih =>
    obtain ⟨a, b⟩ := p
    simp only [List.map_cons, List.nodup_cons] at hl
    by_cases h : k = a
    · subst h
      have hk : (k, v) ∉ l := fun hm => hl.1 (List.mem_map.mpr ⟨_, hm, rfl⟩)
      simp [hk, eq_comm]
    · simp [List.lookup_cons, beq_eq_false_iff_ne.mpr h, h, ih hl.2]

theorem get?_isSome_iff (d : Dict κ ν) (k : κ) : (d.get? k).isSome ↔ k ∈ d.keys := by
  simp only [Option.isSome_iff_exists, get?_eq_some_iff, keys, List.mem_map, Prod.exists,
    exists_and_right, exists_eq_right]

theorem get?_eq_none_iff (d : Dict κ ν) (k : κ) : d.get? k = none ↔ k ∉ d.keys := by
  rw [← get?_isSome_iff, Bool.not_eq_true, Option.isSome_eq_false_iff, Option.isNone_iff_eq_none]

theorem items_ne_nil {d : Dict κ ν} {k : κ} {v : ν} (h : d.get? k = some v) : d.items ≠ [] :=
  List.ne_nil_of_mem ((get?_eq_some_iff d k v).mp h)

theorem mem_values_iff (d : Dict κ ν) (v : ν) : v ∈ d.values ↔ ∃ k, d.get? k = some v := by
  simp only [values, List.mem_map, Prod.exists, get?_eq_some_iff]
  exact ⟨fun ⟨k, _, h, rfl⟩ => ⟨k, h⟩, fun ⟨k, h⟩ => ⟨k, v, h, rfl⟩⟩

theorem get?_erase (d : Dict κ ν) (k k' : κ) :
    (d.erase k).get? k' = if k' = k then none else d.get? k' := by
  by_cases h : k' = k
  · subst h
    rw [if_pos rfl, get?_eq_none_iff]
    simp [keys, erase]
  · rw [if_neg h]
    ext v
    rw [get?_eq_some_iff, get?_eq_some_iff]
    simp [erase, h]

theorem get?_modify (d : Dict κ ν) (k k' : κ) (f : ν → ν) :
    (d.modify k f).get? k' = if k' = k then (d.get? k').map f else d.get? k' := by
  ext v
  rw [get?_eq_some_iff]
  simp only [modify, List.mem_map, Prod.exists]
  constructor
  · rintro ⟨a, b, hab, he⟩
    have hb := (get?_eq_some_iff d a b).mpr hab
    by_cases h : a = k
    · obtain ⟨rfl, rfl⟩ : a = k' ∧ f b = v := by simpa [h] using he
      simp [h, h ▸ hb]
    · obtain ⟨rfl, rfl⟩ : a = k' ∧ b = v := by simpa [h] using he
      simp [h, hb]
  · intro hv
    by_cases h : k' = k
    · subst h
      rw [if_pos rfl, Option.map_eq_some_iff] at hv
      obtain ⟨b, hb, rfl⟩ := hv
      exact ⟨k', b, (get?_eq_some_iff d k' b).mp hb, by simp⟩
    · rw [if_neg h] at hv
      exact ⟨k', v, (get?_eq_some_iff d k' v).mp hv, by simp [h]⟩

/-- An update only depends on what it does to the stored value. -/
theorem modify_congr {d : Dict κ ν} {k : κ} {f g : ν → ν}
    (h : ∀ v, d.get? k = some v → f v = g v) : d.modify k f = d.modify k g := by
  ext1
  simp only [modify]
  refine List.map_congr_left ?_
  rintro ⟨a, b⟩ hp
  by_cases ha : a = k
  · subst ha
    rw [if_pos rfl, if_pos rfl, h b ((get?_eq_some_iff d a b).mpr hp)]
  · rw [if_neg ha, if_neg ha]

/-- An update that leaves the stored value as it is changes nothing. -/
theorem modify_eq_self {d : Dict κ ν} {k : κ} {f : ν → ν} (h : ∀ v, d.get? k = some v → f v = v) :
    d.modify k f = d := by
  rw [modify_congr (g := id) h]
  ext1
  simp [modify]

theorem contains_modify (d : Dict κ ν) (k k' : κ) (f : ν → ν) :
    (d.modify k f).contains k' = d.contains k' := by
  unfold contains
  rw [get?_modify]
  split_ifs
  · rw [Option.isSome_map]
  · rfl

/-- A dictionary without items is one that holds nothing under any key. -/
theorem items_eq_nil_iff (d : Dict κ ν) : d.items = [] ↔ ∀ k, d.get? k = none := by
  constructor
  · intro h k
    simp [get?, h]
  · intro h
    refine List.eq_nil_iff_forall_not_mem.mpr ?_
    rintro ⟨k, v⟩ hp
    rw [← get?_eq_some_iff, h k] at hp
    cases hp

/-! ## Lists of assignments -/

/-- Dictionaries with the same keys are both empty or both not. -/
theorem items_eq_nil_congr {ν' : Type} {d : Dict κ ν} {d' : Dict κ ν'}
    (h : ∀ k, (d.get? k).isSome = (d'.get? k).isSome) : d.items = [] ↔ d'.items = [] := by
  rw [items_eq_nil_iff, items_eq_nil_iff]
  refine forall_congr' fun k => ?_
  rw [← Option.not_isSome_iff_eq_none, ← Option.not_isSome_iff_eq_none, h]

@[simp] theorem setAll_nil (d : Dict κ ν) : d.setAll [] = d := rfl

theorem setAll_cons (d : Dict κ ν) (p : κ × ν) (l : List (κ × ν)) :
    d.setAll (p :: l) = (d.set p.1 p.2).setAll l := rfl

theorem setAll_append (d : Dict κ ν) (l l' : List (κ × ν)) :
    d.setAll (l ++ l') = (d.setAll l).setAll l' := List.foldl_append

theorem get?_setAll_of_not_mem (d : Dict κ ν) {l : List (κ × ν)} {k : κ}
    (h : ∀ p ∈ l, p.1 ≠ k) : (d.setAll l).get? k = d.get? k := by
  induction l generalizing d with
  | nil => rfl
  | cons p l ih =>
    rw [setAll_cons, ih _ fun q hq => h q (List.mem_cons_of_mem _ hq),
      get?_set_of_ne _ (h p List.mem_cons_self).symm]

/-- A key that is assigned has one of the values assigned to it. -/
theorem get?_setAll_of_mem (d : Dict κ ν) {l : List (κ × ν)} {k : κ} {v : ν} (hm : (k, v) ∈ l) :
    ∃ v', (k, v') ∈ l ∧ (d.setAll l).get? k = some v' := by
  induction l generalizing d v with
  | nil => cases hm
  | cons p l ih =>
    rw [setAll_cons]
    by_cases hk : ∃ v', (k, v') ∈ l
    · obtain ⟨w, hw⟩ := hk
      obtain ⟨v', hv', hget⟩ := ih (d.set p.1 p.2) hw
      exact ⟨v', List.mem_cons_of_mem _ hv', hget⟩
    · have hne : ∀ q ∈ l, q.1 ≠ k := by
        rintro ⟨a, b⟩ hq rfl
        exact hk ⟨b, hq⟩
      obtain rfl : (k, v) = p := by
        rcases List.mem_cons.mp hm with h | h
        · exact h
        · exact absurd ⟨v, h⟩ hk
      exact ⟨v, hm, by rw [get?_setAll_of_not_mem _ hne, get?_set_self]⟩

/-- An assignment that no later one overwrites is what is read back. -/
theorem get?_setAll_last (d : Dict κ ν) {l l' : List (κ × ν)} {k : κ} {v : ν}
    (h : ∀ p ∈ l', p.1 ≠ k) : (d.setAll (l ++ (k, v) :: l')).get? k = some v := by
  rw [setAll_append, setAll_cons, get?_setAll_of_not_mem _ h, get?_set_self]

/-- What is read back from a list of assignments is one of them. -/
theorem mem_of_get?_setAll_empty {l : List (κ × ν)} {k : κ} {v : ν}
    (h : (empty.setAll l).get? k = some v) : (k, v) ∈ l := by
  by_cases hk : ∃ w, (k, w) ∈ l
  · obtain ⟨w, hw⟩ := hk
    obtain ⟨v', hv', hget⟩ := get?_setAll_of_mem empty hw
    rw [hget, Option.some_inj] at h
    exact h ▸ hv'
  · rw [get?_setAll_of_not_mem, get?_empty] at h
    · cases h
    · rintro ⟨k', w⟩ hp rfl
      exact hk ⟨w, hp⟩

/-- Assigning the items of a dictionary gives what it holds. -/
theorem get?_setAll_items (d : Dict κ ν) (k : κ) : (empty.setAll d.items).get? k = d.get? k := by
  ext v
  rw [get?_eq_some_iff d]
  refine ⟨mem_of_get?_setAll_empty, fun hm => ?_⟩
  obtain ⟨v', hm', hget⟩ := get?_setAll_of_mem empty hm
  rw [← get?_eq_some_iff] at hm hm'
  rw [hget, ← hm', hm]

/-- The keys of a list of assignments. -/
theorem contains_setAll_empty (l : List (κ × ν)) (k : κ) :
    (empty.setAll l).contains k = true ↔ ∃ v, (k, v) ∈ l := by
  constructor
  · intro h
    obtain ⟨v, hv⟩ := Option.isSome_iff_exists.mp h
    exact ⟨v, mem_of_get?_setAll_empty hv⟩
  · rintro ⟨v, hv⟩
    obtain ⟨w, -, hw⟩ := get?_setAll_of_mem empty hv
    simp [contains, hw]

/-! ## Entries -/

/-- The entries whose keys satisfy `p`. -/
def filter (d : Dict κ ν) (p : κ → Bool) : Dict κ ν :=
  ⟨d.items.filter fun q => p q.1, (d.items.filter_sublist.map Prod.fst).nodup d.nodup⟩

theorem get?_filter (d : Dict κ ν) (p : κ → Bool) (k : κ) :
    (d.filter p).get? k = if p k = true then d.get? k else none := by
  ext v
  rw [get?_eq_some_iff]
  by_cases h : p k = true
  · rw [if_pos h, get?_eq_some_iff]
    simp [filter, h]
  · rw [if_neg h]
    simp [filter, h]

/-- Operations that each concern one key, performed for the entries of a
    dictionary. -/
theorem read_foldl {β : Type} {op : β → κ × ν → β} {read : β → κ → Option ν} {g : ν → Option ν}
    (h : ∀ b p k, read (op b p) k = if k = p.1 then g p.2 else read b k) (b : β)
    (d : Dict κ ν) (k : κ) :
    read (d.items.foldl op b) k = (d.get? k).elim (read b k) g := by
  obtain ⟨l, hl⟩ := d
  show read (l.foldl op b) k = (l.lookup k).elim (read b k) g
  induction l generalizing b with
  | nil => rfl
  | cons p l ih =>
    obtain ⟨a, v⟩ := p
    rw [List.map_cons, List.nodup_cons] at hl
    rw [List.foldl_cons, ih (op b (a, v)) hl.2, h]
    by_cases hk : k = a
    · subst hk
      have hnone : l.lookup k = none := by
        have hget := get?_eq_none_iff ⟨l, hl.2⟩ k
        exact hget.mpr hl.1
      rw [hnone, if_pos rfl, List.lookup_cons_self]
      rfl
    · rw [if_neg hk, List.lookup_cons, beq_eq_false_iff_ne.mpr hk]

theorem get?_setAll_dict (d d' : Dict κ ν) (k : κ) :
    (d.setAll d'.items).get? k = (d'.get? k).or (d.get? k) := by
  have h := read_foldl (fun d p k => get?_set d p.1 k p.2) d d' k
  rw [setAll]
  refine h.trans ?_
  cases d'.get? k <;> rfl

/-! ## Mapped values -/

section MapValues

variable {ν' : Type} (f : ν → ν')

theorem mapValues_set (d : Dict κ ν) (k : κ) (v : ν) :
    (d.set k v).mapValues f = (d.mapValues f).set k (f v) := by
  have h : ∀ l : List (κ × ν), (setItems k v l).map (fun p => (p.1, f p.2)) =
      setItems k (f v) (l.map fun p => (p.1, f p.2)) := by
    intro l
    induction l with
    | nil => rfl
    | cons p l ih =>
      unfold setItems
      by_cases hp : p.1 = k
      · simp [hp]
      · simp [hp, ih]
  ext1
  exact h d.items

theorem mapValues_setAll (d : Dict κ ν) (l : List (κ × ν)) :
    (d.setAll l).mapValues f = (d.mapValues f).setAll (l.map fun p => (p.1, f p.2)) := by
  induction l generalizing d with
  | nil => rfl
  | cons p l ih => rw [setAll_cons, ih, mapValues_set, List.map_cons, setAll_cons]

theorem get?_mapValues (d : Dict κ ν) (k : κ) : (d.mapValues f).get? k = (d.get? k).map f := by
  have h : ∀ l : List (κ × ν),
      (l.map fun p => (p.1, f p.2)).lookup k = (l.lookup k).map f := by
    intro l
    induction l with
    | nil => rfl
    | cons p l ih =>
      obtain ⟨a, b⟩ := p
      by_cases h : k = a
      · simp [h]
      · simp [List.lookup_cons, beq_eq_false_iff_ne.mpr h, ih]
  exact h d.items

end MapValues

end Dict

end PgBouncerK8s
