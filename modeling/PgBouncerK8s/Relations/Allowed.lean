import PgBouncerK8s.Lib.Lines
import PgBouncerK8s.Lib.Text
import PgBouncerK8s.Model.Databag

/-!
# Who is allowed in

Models of `get_allowed_subnets` and `get_allowed_units` (`relations/db.py`,
lines 528–554). The first takes a unit for a local one if its name begins with
the name of the application, the second if it is of the application.

* `getAllowedSubnets_eq_iff`: the subnets are those of the allowed units exactly
  when the units with such a name have no subnet of their own.
* `subnets_missing`: a client whose name begins with the name of the application.
-/

namespace PgBouncerK8s.Allowed

open Text (str)

/-! ## Model -/

/-- A unit of an application. -/
structure JujuUnit where
  app : String
  number : ℕ
  deriving DecidableEq

/-- `unit.name`. -/
def JujuUnit.name (unit : JujuUnit) : String := unit.app ++ "/" ++ str unit.number

/-- The units in `relation.data`, with their databags. -/
abbrev RelationData := List (JujuUnit × Databag)

/-- `_comma_split` (`relations/db.py`, lines 531–536). -/
def commaSplit (string : String) : List String :=
  if string = "" then []
  else ((Text.split ',' string).map Text.stripSpace).filter (· ≠ "")

/-- The subnets of a unit. -/
def subnets (reldata : Databag) : List String :=
  commaSplit ((reldata.get "egress-subnets").getD "")

/-- `get_allowed_subnets` (`relations/db.py`, lines 528–544). -/
def getAllowedSubnets (appName : String) (data : RelationData) : String :=
  Text.join ',' (Text.sortedSet (data.flatMap fun (unit, reldata) =>
    if Text.startswith unit.name appName then [] else subnets reldata))

/-- The units of the list in `get_allowed_units`. -/
def allowedUnits (appName : String) (data : RelationData) : RelationData :=
  data.filter fun (unit, _) => unit.app ≠ appName

/-- `get_allowed_units` (`relations/db.py`, lines 546–554). -/
def getAllowedUnits (appName : String) (data : RelationData) : String :=
  Text.join ','
    (((allowedUnits appName data).map fun (unit, _) => unit.name).insertionSort (· ≤ ·))

/-! ## Subnets -/

variable {appName : String} {data : RelationData} {unit : JujuUnit} {reldata : Databag} {s : String}

/-- A subnet is a text without commas, and not empty. -/
theorem ok_of_mem_subnets (h : s ∈ subnets reldata) : s ≠ "" ∧ ',' ∉ s.toList := by
  unfold subnets commaSplit at h
  split_ifs at h
  · cases h
  · obtain ⟨h, hne⟩ := List.mem_filter.mp h
    obtain ⟨part, hp, rfl⟩ := List.mem_map.mp h
    obtain ⟨chars, hc, rfl⟩ := List.mem_map.mp hp
    refine ⟨by simpa using hne, fun hcomma => ?_⟩
    have hmem := Text.mem_of_mem_stripSpace hcomma
    rw [String.toList_ofList] at hmem
    exact Lines.not_mem_of_mem_splitOn hc hmem

theorem ok_of_mem_flatMap (data : RelationData) :
    ∀ s ∈ data.flatMap fun p => subnets p.2, s ≠ "" ∧ ',' ∉ s.toList := by
  intro s hs
  obtain ⟨p, -, hs⟩ := List.mem_flatMap.mp hs
  exact ok_of_mem_subnets hs

/-- The name of a unit begins with that of its application. -/
theorem startswith_name (unit : JujuUnit) : Text.startswith unit.name unit.app = true := by
  rw [Text.startswith, List.isPrefixOf_iff_prefix, JujuUnit.name, String.toList_append,
    String.toList_append, List.append_assoc]
  exact List.prefix_append _ _

/-- The units whose subnets are collected. -/
def countedUnits (appName : String) (data : RelationData) : RelationData :=
  data.filter fun (unit, _) => !Text.startswith unit.name appName

theorem getAllowedSubnets_eq (appName : String) (data : RelationData) :
    getAllowedSubnets appName data = Text.join ',' (Text.sortedSet
      ((countedUnits appName data).flatMap fun p => subnets p.2)) := by
  unfold getAllowedSubnets countedUnits
  congr 2
  induction data with
  | nil => rfl
  | cons p data ih =>
    rw [List.flatMap_cons, ih]
    cases hp : Text.startswith p.1.name appName with
    | true => simp [hp]
    | false => simp [hp]

theorem mem_countedUnits {p : JujuUnit × Databag} : p ∈ countedUnits appName data ↔
    p ∈ data ∧ Text.startswith p.1.name appName = false := by
  simp [countedUnits]

theorem mem_allowedUnits {p : JujuUnit × Databag} : p ∈ allowedUnits appName data ↔
    p ∈ data ∧ p.1.app ≠ appName := by
  simp [allowedUnits]

/-- A unit whose subnets are collected is an allowed one. -/
theorem countedUnits_subset : countedUnits appName data ⊆ allowedUnits appName data := by
  intro p hp
  obtain ⟨hmem, hname⟩ := mem_countedUnits.mp hp
  refine mem_allowedUnits.mpr ⟨hmem, ?_⟩
  rintro rfl
  rw [startswith_name] at hname
  cases hname

/-- The allowed subnets are those of the allowed units exactly when every subnet
    of an allowed unit whose name begins with the name of the application is one
    of an allowed unit with another name, too. -/
theorem getAllowedSubnets_eq_iff (appName : String) (data : RelationData) :
    getAllowedSubnets appName data = Text.join ',' (Text.sortedSet
        ((allowedUnits appName data).flatMap fun p => subnets p.2)) ↔
      ∀ p ∈ data, p.1.app ≠ appName → Text.startswith p.1.name appName = true →
        ∀ s ∈ subnets p.2, ∃ q ∈ data, Text.startswith q.1.name appName = false ∧
          s ∈ subnets q.2 := by
  rw [getAllowedSubnets_eq, Text.join_sortedSet_inj (ok_of_mem_flatMap _) (ok_of_mem_flatMap _)]
  simp only [List.mem_flatMap]
  constructor
  · intro h p hp happ hname s hs
    obtain ⟨q, hq, hqs⟩ := (h s).mpr ⟨p, mem_allowedUnits.mpr ⟨hp, happ⟩, hs⟩
    obtain ⟨hq, hqname⟩ := mem_countedUnits.mp hq
    exact ⟨q, hq, hqname, hqs⟩
  · intro h s
    constructor
    · rintro ⟨p, hp, hs⟩
      exact ⟨p, countedUnits_subset hp, hs⟩
    · rintro ⟨p, hp, hs⟩
      obtain ⟨hp, happ⟩ := mem_allowedUnits.mp hp
      cases hname : Text.startswith p.1.name appName with
      | false => exact ⟨p, mem_countedUnits.mpr ⟨hp, hname⟩, hs⟩
      | true =>
        obtain ⟨q, hq, hqname, hqs⟩ := h p hp happ hname s hs
        exact ⟨q, mem_countedUnits.mpr ⟨hq, hqname⟩, hqs⟩

/-- The application `pgb` and its client `pgb-client`. -/
def prefixed : RelationData :=
  [(⟨"pgb", 0⟩, .empty), (⟨"pgb-client", 0⟩, Databag.empty.set "egress-subnets" "10.0.0.1/32")]

/-- The client is an allowed unit, its subnet is not an allowed subnet. -/
theorem subnets_missing :
    getAllowedUnits "pgb" prefixed = "pgb-client/0" ∧ getAllowedSubnets "pgb" prefixed = "" ∧
      getAllowedSubnets "pgb" prefixed ≠ Text.join ',' (Text.sortedSet
        ((allowedUnits "pgb" prefixed).flatMap fun p => subnets p.2)) := by
  decide

end PgBouncerK8s.Allowed
