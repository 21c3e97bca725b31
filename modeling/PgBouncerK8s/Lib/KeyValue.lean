import PgBouncerK8s.Lib.Dict
import PgBouncerK8s.Lib.Lines
import PgBouncerK8s.Lib.Text

/-!
# Key-value texts

A dictionary of texts written as its pairs, with one character between key and
value and one between the pairs, and nothing quoted.

* `clean_of_parse`: what is read has neither of the two characters.
* `roundTrips_iff`: a dictionary is read back exactly when its keys and values
  have neither of them.
-/

namespace PgBouncerK8s.KeyValue

/-! ## Writing and reading -/

section Model

variable (sep mid : Char)

def encodePair (p : String × String) : String := p.1 ++ String.singleton mid ++ p.2

/-- The pairs in the order of the dictionary. -/
def encode (d : Dict String String) : String := Text.join sep (d.items.map (encodePair mid))

/-- One pair; `none` where there are not two parts. -/
def parsePair (pair : String) : Option (String × String) :=
  match Text.split mid pair with
  | [key, value] => some (key, value)
  | _ => none

/-- The pairs assigned one after the other; `none` where one cannot be read. -/
def parse (s : String) : Option (Dict String String) :=
  (Text.split sep s).foldlM (fun d pair => (parsePair mid pair).map fun p => d.set p.1 p.2) .empty

/-- The text has neither of the two characters. -/
def Clean (s : String) : Prop := sep ∉ s.toList ∧ mid ∉ s.toList

instance (s : String) : Decidable (Clean sep mid s) :=
  inferInstanceAs (Decidable (sep ∉ s.toList ∧ mid ∉ s.toList))

/-- The dictionary is read back from its text. -/
def RoundTrips (d : Dict String String) : Prop :=
  ∃ d', parse sep mid (encode sep mid d) = some d' ∧ ∀ k, d'.get? k = d.get? k

end Model

variable {sep mid : Char} {s : String} {d : Dict String String}

/-- The assignments can wait until all pairs are read. -/
theorem parse_eq (s : String) :
    parse sep mid s = ((Text.split sep s).mapM (parsePair mid)).map Dict.empty.setAll := by
  have hfold : ∀ (l : List String) (d : Dict String String),
      l.foldlM (fun d pair => (parsePair mid pair).map fun p => d.set p.1 p.2) d =
        (l.mapM (parsePair mid)).map d.setAll := by
    intro l
    induction l with
    | nil => exact fun _ => rfl
    | cons pair l ih =>
      intro d
      rw [List.foldlM_cons, List.mapM_cons]
      cases parsePair mid pair with
      | none => rfl
      | some p =>
        change l.foldlM _ (d.set p.1 p.2) = _
        rw [ih]
        cases l.mapM (parsePair mid) <;> rfl
  exact hfold _ _

/-! ## What is read -/

theorem clean_of_parsePair {pair : String} {p : String × String}
    (hpair : pair ∈ Text.split sep s) (h : parsePair mid pair = some p) :
    Clean sep mid p.1 ∧ Clean sep mid p.2 := by
  obtain ⟨l, hl, rfl⟩ := List.mem_map.mp hpair
  have hpart : ∀ part ∈ Text.split mid (String.ofList l), Clean sep mid part := by
    intro part hp
    obtain ⟨m, hm, rfl⟩ := List.mem_map.mp hp
    rw [String.toList_ofList] at hm
    unfold Clean
    rw [String.toList_ofList]
    exact ⟨fun hsep => Lines.not_mem_of_mem_splitOn hl (Lines.subset_of_mem_splitOn hm hsep),
      Lines.not_mem_of_mem_splitOn hm⟩
  unfold parsePair at h
  split at h
  case h_1 key value hsplit =>
    cases h
    rw [hsplit] at hpart
    exact ⟨hpart key (by simp), hpart value (by simp)⟩
  case h_2 => cases h

theorem mem_of_mapM {α β : Type} {f : α → Option β} {l : List α} {l' : List β}
    (h : l.mapM f = some l') {b : β} (hb : b ∈ l') : ∃ a ∈ l, f a = some b := by
  induction l generalizing l' with
  | nil =>
    cases h
    cases hb
  | cons a l ih =>
    rw [List.mapM_cons] at h
    obtain ⟨c, hc, h⟩ := Option.bind_eq_some_iff.mp h
    obtain ⟨m, hm, h⟩ := Option.bind_eq_some_iff.mp h
    cases h
    rcases List.mem_cons.mp hb with rfl | hb
    · exact ⟨a, List.mem_cons_self, hc⟩
    · obtain ⟨x, hx, hfx⟩ := ih hm hb
      exact ⟨x, List.mem_cons_of_mem _ hx, hfx⟩

/-- Keys and values that are read have neither of the two characters. -/
theorem clean_of_parse (h : parse sep mid s = some d) {k v : String} (hget : d.get? k = some v) :
    Clean sep mid k ∧ Clean sep mid v := by
  rw [parse_eq] at h
  obtain ⟨pairs, hpairs, rfl⟩ := Option.map_eq_some_iff.mp h
  obtain ⟨pair, hpair, hp⟩ := mem_of_mapM hpairs (Dict.mem_of_get?_setAll_empty hget)
  exact clean_of_parsePair hpair hp

/-! ## Reading back -/

theorem parsePair_encodePair {p : String × String} (hk : Clean sep mid p.1)
    (hv : Clean sep mid p.2) : parsePair mid (encodePair mid p) = some p := by
  have hsplit : Text.split mid (encodePair mid p) = [p.1, p.2] := by
    rw [encodePair, Text.split_append p.1 (String.toList_singleton mid) hv.2,
      Text.split_of_not_mem hk.2]
    rfl
  rw [parsePair, hsplit]

theorem sep_not_mem_encodePair (hne : sep ≠ mid) {p : String × String} (hk : Clean sep mid p.1)
    (hv : Clean sep mid p.2) : sep ∉ (encodePair mid p).toList := by
  simp only [encodePair, String.toList_append, List.mem_append, String.toList_singleton,
    List.mem_singleton, not_or]
  exact ⟨⟨hk.1, hne⟩, hv.1⟩

/-- Reading a text with clean keys and values. -/
theorem parse_encode (hne : sep ≠ mid) (hd : d.items ≠ [])
    (hclean : ∀ p ∈ d.items, Clean sep mid p.1 ∧ Clean sep mid p.2) :
    parse sep mid (encode sep mid d) = some (Dict.empty.setAll d.items) := by
  have hsplit : Text.split sep (encode sep mid d) = d.items.map (encodePair mid) := by
    refine Text.split_join (by simpa using hd) fun s hs => ?_
    obtain ⟨p, hp, rfl⟩ := List.mem_map.mp hs
    exact sep_not_mem_encodePair hne (hclean p hp).1 (hclean p hp).2
  have hpairs : ∀ l : List (String × String), (∀ p ∈ l, Clean sep mid p.1 ∧ Clean sep mid p.2) →
      (l.map (encodePair mid)).mapM (parsePair mid) = some l := by
    intro l hl
    induction l with
    | nil => rfl
    | cons p l ih =>
      obtain ⟨hk, hv⟩ := hl p List.mem_cons_self
      rw [List.map_cons, List.mapM_cons, parsePair_encodePair hk hv,
        ih fun q hq => hl q (List.mem_cons_of_mem _ hq)]
      rfl
  rw [parse_eq, hsplit, hpairs d.items hclean]
  rfl

/-- A dictionary with an item is read back exactly when its keys and values
    have neither of the two characters. -/
theorem roundTrips_iff (hne : sep ≠ mid) (hd : d.items ≠ []) :
    RoundTrips sep mid d ↔ ∀ p ∈ d.items, Clean sep mid p.1 ∧ Clean sep mid p.2 := by
  constructor
  · rintro ⟨d', hparse, hget⟩ p hp
    exact clean_of_parse hparse ((hget p.1).trans ((d.get?_eq_some_iff _ _).mpr hp))
  · intro hclean
    exact ⟨_, parse_encode hne hd hclean, d.get?_setAll_items⟩

end PgBouncerK8s.KeyValue
