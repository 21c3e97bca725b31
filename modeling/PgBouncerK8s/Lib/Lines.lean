import Mathlib.Data.List.Forall2
import Mathlib.Data.List.TakeDrop

/-!
# Texts as lines

A text is a list over any alphabet; `sep` separates its lines and `space` tells
the symbols that a line may have and still count as blank.

* `infix_intercalate`: a pattern without the separator lies within one part.
* `content_append`: the lines of two texts with a separator between them.
* `forall₂_content_iff`: a list of entries is one line an entry exactly when no
  entry has a separator.
-/

namespace PgBouncerK8s.Lines

/-! ## Parts -/

section Split

variable {α : Type} [DecidableEq α] {sep : α} {l : List α}

/-- A symbol other than the separator is in one of the parts. -/
theorem exists_mem_splitOn {c : α} (hc : c ∈ l) (hne : c ≠ sep) :
    ∃ part ∈ l.splitOn sep, c ∈ part := by
  induction l with
  | nil => cases hc
  | cons x l ih =>
    rw [List.splitOn_cons_eq_if_modifyHead]
    split_ifs with hx
    · have hcl : c ∈ l := by
        rcases List.mem_cons.mp hc with rfl | hcl
        · exact absurd (eq_of_beq hx) hne
        · exact hcl
      obtain ⟨part, hs, hcs⟩ := ih hcl
      exact ⟨part, List.mem_cons_of_mem _ hs, hcs⟩
    · obtain ⟨first, rest, hsplit⟩ := List.exists_cons_of_ne_nil (List.splitOn_ne_nil sep l)
      rw [hsplit] at ih ⊢
      rw [List.modifyHead_cons]
      rcases List.mem_cons.mp hc with rfl | hcl
      · exact ⟨c :: first, List.mem_cons_self, List.mem_cons_self⟩
      · obtain ⟨part, hs, hcs⟩ := ih hcl
        rcases List.mem_cons.mp hs with rfl | hs
        · exact ⟨x :: part, List.mem_cons_self, List.mem_cons_of_mem _ hcs⟩
        · exact ⟨part, List.mem_cons_of_mem _ hs, hcs⟩

/-- No part has the separator. -/
theorem not_mem_of_mem_splitOn {part : List α} (h : part ∈ l.splitOn sep) : sep ∉ part := by
  induction l generalizing part with
  | nil =>
    rw [List.splitOn_nil, List.mem_singleton] at h
    simp [h]
  | cons x l ih =>
    rw [List.splitOn_cons_eq_if_modifyHead] at h
    obtain ⟨first, rest, hsplit⟩ := List.exists_cons_of_ne_nil (List.splitOn_ne_nil sep l)
    rw [hsplit] at ih
    split_ifs at h with hx
    · rcases List.mem_cons.mp h with rfl | h
      · simp
      · rw [hsplit] at h
        exact ih h
    · rw [hsplit, List.modifyHead_cons] at h
      rcases List.mem_cons.mp h with rfl | h
      · have hne : sep ≠ x := fun he => hx (beq_iff_eq.mpr he.symm)
        simp [hne, ih List.mem_cons_self]
      · exact ih (List.mem_cons_of_mem _ h)

/-- The first part is what stands in front of the first separator. -/
theorem headD_splitOn (sep : α) (l : List α) :
    (l.splitOn sep).headD [] = l.takeWhile (· ≠ sep) := by
  induction l with
  | nil => rw [List.splitOn_nil, List.headD_cons, List.takeWhile_nil]
  | cons x l ih =>
    obtain ⟨first, rest, hsplit⟩ := List.exists_cons_of_ne_nil (List.splitOn_ne_nil sep l)
    rw [hsplit, List.headD_cons] at ih
    rw [List.splitOn_cons_eq_if_modifyHead, hsplit]
    split_ifs with hx
    · simp [eq_of_beq hx]
    · have hx : x ≠ sep := fun h => hx (beq_iff_eq.mpr h)
      simp [hx, ih]

/-- The parts are made of symbols of the text. -/
theorem subset_of_mem_splitOn {part : List α} (h : part ∈ l.splitOn sep) : part ⊆ l := by
  induction l generalizing part with
  | nil =>
    rw [List.splitOn_nil, List.mem_singleton] at h
    simp [h]
  | cons x l ih =>
    rw [List.splitOn_cons_eq_if_modifyHead] at h
    obtain ⟨first, rest, hsplit⟩ := List.exists_cons_of_ne_nil (List.splitOn_ne_nil sep l)
    rw [hsplit] at ih h
    split_ifs at h with hx
    · rcases List.mem_cons.mp h with rfl | h
      · simp
      · exact List.subset_cons_of_subset x (ih h)
    · rw [List.modifyHead_cons] at h
      rcases List.mem_cons.mp h with rfl | h
      · exact List.cons_subset_cons x (ih List.mem_cons_self)
      · exact List.subset_cons_of_subset x (ih (List.mem_cons_of_mem _ h))

end Split

/-! ## Texts without the separator -/

section Visible

variable {α : Type} {sep : α} {space : α → Bool} {a b l start stop text : List α}

theorem mem_intercalate {c : α} {sep : List α} {parts : List (List α)}
    (h : c ∈ sep.intercalate parts) : c ∈ sep ∨ ∃ part ∈ parts, c ∈ part := by
  induction parts with
  | nil => cases h
  | cons part parts ih =>
    cases parts with
    | nil => exact .inr ⟨part, List.mem_cons_self, by simpa using h⟩
    | cons part' parts =>
      rw [List.intercalate_cons_cons, List.mem_append, List.mem_append] at h
      rcases h with (h | h) | h
      · exact .inr ⟨part, List.mem_cons_self, h⟩
      · exact .inl h
      · exact (ih h).imp_right fun ⟨p, hp, hc⟩ => ⟨p, List.mem_cons_of_mem _ hp, hc⟩

/-- A text with a symbol that does not count as blank. -/
def Visible (space : α → Bool) (l : List α) : Prop := ∃ c ∈ l, space c = false

theorem Visible.not_all (h : Visible space l) : (!l.all space) = true := by
  obtain ⟨c, hc, hspace⟩ := h
  rw [Bool.not_eq_true', List.all_eq_false]
  exact ⟨c, hc, by simp [hspace]⟩

theorem Visible.mono (h : Visible space a) (hab : a ⊆ l) : Visible space l := by
  obtain ⟨c, hc, hspace⟩ := h
  exact ⟨c, hab hc, hspace⟩

/-- A beginning without the separator ends in front of it. -/
theorem prefix_of_not_mem (h : start <+: a ++ sep :: b) (hsep : sep ∉ start) : start <+: a := by
  rcases Nat.lt_or_ge a.length start.length with hlt | hle
  · have hcut : a ++ [sep] <+: start := by
      refine List.prefix_of_prefix_length_le ⟨b, List.append_cons a sep b ▸ rfl⟩ h ?_
      rw [List.length_append]
      exact hlt
    exact absurd (hcut.subset (by simp)) hsep
  · exact List.prefix_of_prefix_length_le h (List.prefix_append a _) hle

/-- An end without the separator begins behind it. -/
theorem suffix_of_not_mem (h : stop <:+ a ++ sep :: b) (hsep : sep ∉ stop) : stop <:+ b := by
  rcases Nat.lt_or_ge b.length stop.length with hlt | hle
  · have hcut : sep :: b <:+ stop := by
      refine List.suffix_of_suffix_length_le (List.suffix_append a _) h ?_
      rw [List.length_cons]
      exact hlt
    exact absurd (hcut.subset List.mem_cons_self) hsep
  · exact List.suffix_of_suffix_length_le h ⟨a ++ [sep], by simp⟩ hle

/-- A pattern without the separator does not reach over one. -/
theorem infix_append_cons {p : List α} (h : p <:+: a ++ sep :: b) (hp : sep ∉ p) :
    p <:+: a ∨ p <:+: b := by
  induction a with
  | nil =>
    rcases List.infix_cons_iff.mp h with h | h
    · have hnil := prefix_of_not_mem (a := []) h hp
      exact .inl hnil.isInfix
    · exact .inr h
  | cons x a ih =>
    rcases List.infix_cons_iff.mp h with h | h
    · have hpre : p <+: x :: a := prefix_of_not_mem h hp
      exact .inl hpre.isInfix
    · exact (ih h).imp_left List.infix_cons

/-- A pattern without the separator is found within one of the parts. -/
theorem infix_intercalate {p : List α} {parts : List (List α)} (hne : p ≠ []) (hp : sep ∉ p)
    (h : p <:+: [sep].intercalate parts) : ∃ part ∈ parts, p <:+: part := by
  induction parts with
  | nil => exact absurd (List.infix_nil.mp (by simpa using h)) hne
  | cons part parts ih =>
    cases parts with
    | nil => exact ⟨part, List.mem_cons_self, by simpa using h⟩
    | cons part' parts =>
      rw [List.intercalate_cons_cons, List.append_assoc, List.singleton_append] at h
      rcases infix_append_cons h hp with h | h
      · exact ⟨part, List.mem_cons_self, h⟩
      · obtain ⟨q, hq, hpq⟩ := ih h
        exact ⟨q, List.mem_cons_of_mem _ hq, hpq⟩

/-- An entry starts with `start` and ends with `stop`; neither is blank, and
    there is no separator in `stop`. -/
structure Entry (sep : α) (space : α → Bool) (start stop text : List α) : Prop where
  starts : start <+: text
  visibleStart : Visible space start
  stops : stop <:+ text
  visibleStop : Visible space stop
  plain : sep ∉ stop

theorem Entry.visible (h : Entry sep space start stop text) : Visible space text :=
  h.visibleStart.mono h.starts.subset

end Visible

/-! ## Lines that are not blank -/

section Content

variable {α : Type} [DecidableEq α] {sep : α} {space : α → Bool} {l line start stop text : List α}

/-- The lines of a text that are not blank. -/
def content (sep : α) (space : α → Bool) (l : List α) : List (List α) :=
  (l.splitOn sep).filter fun line => !line.all space

theorem content_append (a b : List α) :
    content sep space (a ++ sep :: b) = content sep space a ++ content sep space b := by
  unfold content
  rw [List.splitOn_append_cons_self, List.filter_append]

theorem content_of_not_mem (h : sep ∉ l) (hv : Visible space l) : content sep space l = [l] := by
  unfold content
  rw [List.splitOn_eq_singleton h, List.filter_singleton, hv.not_all]
  rfl

@[simp] theorem content_nil : content sep space [] = [] := by
  simp [content]

theorem not_mem_of_mem_content (h : line ∈ content sep space l) : sep ∉ line :=
  not_mem_of_mem_splitOn (List.mem_filter.mp h).1

theorem content_ne_nil (hsep : space sep = true) (h : Visible space l) :
    content sep space l ≠ [] := by
  obtain ⟨c, hc, hspace⟩ := h
  have hne : c ≠ sep := by
    rintro rfl
    rw [hsep] at hspace
    cases hspace
  obtain ⟨part, hpart, hcp⟩ := exists_mem_splitOn hc hne
  exact List.ne_nil_of_mem (List.mem_filter.mpr ⟨hpart, Visible.not_all ⟨c, hcp, hspace⟩⟩)

/-! ## Entries -/

/-- An entry that is one line, which begins as the entry does, has no
    separator: there would be a line on either side of it. -/
theorem Entry.not_mem_of_content (h : Entry sep space start stop text)
    (hsep : space sep = true) (hline : content sep space text = [line]) (hstart : start <+: line) :
    sep ∉ text := by
  intro hmem
  have hplain : sep ∉ start := fun hs =>
    not_mem_of_mem_content (hline ▸ List.mem_singleton_self line) (hstart.subset hs)
  obtain ⟨first, rest, rfl, -⟩ := List.eq_append_cons_of_mem hmem
  have hfirst := content_ne_nil hsep
    (h.visibleStart.mono (prefix_of_not_mem h.starts hplain).subset)
  have hrest := content_ne_nil hsep
    (h.visibleStop.mono (suffix_of_not_mem h.stops h.plain).subset)
  rw [content_append] at hline
  rcases List.append_eq_singleton_iff.mp hline with ⟨he, -⟩ | ⟨-, he⟩
  · exact hfirst he
  · exact hrest he

end Content

/-! ## Lists of entries -/

section Count

variable {β γ : Type} {f : β → List γ} {R : β → γ → Prop}

/-- As many values as arguments, and one at least for each: one for each. -/
theorem length_eq_one_of_flatMap {l : List β} (hne : ∀ x ∈ l, f x ≠ [])
    (h : (l.flatMap f).length = l.length) : ∀ x ∈ l, (f x).length = 1 := by
  have hle : ∀ l : List β, (∀ x ∈ l, f x ≠ []) → l.length ≤ (l.flatMap f).length := by
    intro l
    induction l with
    | nil => simp
    | cons x l ih =>
      intro hne
      have hx := List.length_pos_iff.mpr (hne x List.mem_cons_self)
      have hl := ih fun y hy => hne y (List.mem_cons_of_mem _ hy)
      rw [List.flatMap_cons, List.length_append, List.length_cons]
      omega
  induction l with
  | nil => simp
  | cons x l ih =>
    have hne' : ∀ y ∈ l, f y ≠ [] := fun y hy => hne y (List.mem_cons_of_mem _ hy)
    have hx := List.length_pos_iff.mpr (hne x List.mem_cons_self)
    have hl := hle l hne'
    rw [List.flatMap_cons, List.length_append, List.length_cons] at h
    intro y hy
    rcases List.mem_cons.mp hy with rfl | hy
    · omega
    · exact ih hne' (by omega) y hy

theorem forall₂_flatMap_iff {l : List β} (hne : ∀ x ∈ l, f x ≠ []) :
    List.Forall₂ R l (l.flatMap f) ↔ ∀ x ∈ l, ∃ y, f x = [y] ∧ R x y := by
  constructor
  · intro h
    have hone := length_eq_one_of_flatMap hne h.length_eq.symm
    clear hne
    induction l with
    | nil => simp
    | cons x l ih =>
      obtain ⟨y, hy⟩ := List.length_eq_one_iff.mp (hone x List.mem_cons_self)
      rw [List.flatMap_cons, hy, List.singleton_append] at h
      cases h with
      | cons hxy h =>
        intro z hz
        rcases List.mem_cons.mp hz with rfl | hz
        · exact ⟨y, hy, hxy⟩
        · exact ih h (fun w hw => hone w (List.mem_cons_of_mem _ hw)) z hz
  · intro h
    clear hne
    induction l with
    | nil => exact .nil
    | cons x l ih =>
      obtain ⟨y, hy, hxy⟩ := h x List.mem_cons_self
      rw [List.flatMap_cons, hy]
      exact .cons hxy (ih fun z hz => h z (List.mem_cons_of_mem _ hz))

end Count

section Entries

variable {α β : Type} [DecidableEq α] {sep : α} {space : α → Bool} {start stop text : β → List α}

theorem content_flatMap (text : β → List α) (l : List β) (rest : List α) :
    content sep space (l.flatMap (fun x => text x ++ [sep]) ++ rest) =
      l.flatMap (fun x => content sep space (text x)) ++ content sep space rest := by
  induction l with
  | nil => simp
  | cons x l ih =>
    rw [List.flatMap_cons, List.flatMap_cons, List.append_assoc, List.append_assoc,
      List.singleton_append, content_append, ih, List.append_assoc]

/-- The entries are one line each, which begins as the entry does, exactly when
    no entry has a separator. -/
theorem forall₂_content_iff {l : List β} (hsep : space sep = true)
    (h : ∀ x ∈ l, Entry sep space (start x) (stop x) (text x)) :
    List.Forall₂ (fun x line => start x <+: line) l
        (l.flatMap fun x => content sep space (text x)) ↔ ∀ x ∈ l, sep ∉ text x := by
  rw [forall₂_flatMap_iff fun x hx => content_ne_nil hsep (h x hx).visible]
  constructor
  · intro hone x hx
    obtain ⟨line, hline, hstart⟩ := hone x hx
    exact (h x hx).not_mem_of_content hsep hline hstart
  · intro hplain x hx
    exact ⟨text x, content_of_not_mem (hplain x hx) (h x hx).visible, (h x hx).starts⟩

end Entries

end PgBouncerK8s.Lines
