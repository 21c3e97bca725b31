import Mathlib.Logic.Function.Basic

/-!
# Juju databags

A databag maps strings to strings. Juju stores no empty value: writing `""`
under a key removes the key. The structure carries this as a field, so a value
read from a databag is never the empty string, and Python's truth test on it
is the test for presence.
-/

namespace PgBouncerK8s

/-- A databag; `get k` is `databag.get(k)`. -/
@[ext]
structure Databag where
  get : String → Option String
  get_ne : ∀ k, get k ≠ some ""

namespace Databag

/-- A databag without entries. -/
def empty : Databag := ⟨fun _ => none, fun _ => by simp⟩

/-- `databag[k] = v`. -/
def set (b : Databag) (k v : String) : Databag where
  get k' := if k' = k then (if v = "" then none else some v) else b.get k'
  get_ne k' := by
    by_cases h : k' = k
    · by_cases hv : v = "" <;> simp [h, hv]
    · simpa [h] using b.get_ne k'

/-- `databag.update(kvs)`. -/
def update (b : Databag) (kvs : List (String × String)) : Databag :=
  kvs.foldl (fun b p => b.set p.1 p.2) b

/-- `databag.pop(k, None)`. -/
def pop (b : Databag) (k : String) : Databag where
  get k' := if k' = k then none else b.get k'
  get_ne k' := by
    by_cases h : k' = k
    · simp [h]
    · simpa [h] using b.get_ne k'

/-- `k in databag`. -/
def contains (b : Databag) (k : String) : Bool := (b.get k).isSome

theorem get_set (b : Databag) (k v k' : String) :
    (b.set k v).get k' = if k' = k then (if v = "" then none else some v) else b.get k' := rfl

theorem get_set_of_ne (b : Databag) {k k' : String} (h : k' ≠ k) (v : String) :
    (b.set k v).get k' = b.get k' := by
  simp [get_set, h]

theorem ne_empty_of_get {b : Databag} {k v : String} (h : b.get k = some v) : v ≠ "" := by
  rintro rfl
  exact b.get_ne k h

/-- Keys that an update does not name keep their value. -/
theorem get_update_of_ne (b : Databag) {kvs : List (String × String)} {k : String}
    (h : ∀ p ∈ kvs, p.1 ≠ k) : (b.update kvs).get k = b.get k := by
  induction kvs generalizing b with
  | nil => rfl
  | cons p kvs ih =>
    rw [update, List.foldl_cons, ← update, ih _ fun q hq => h q (List.mem_cons_of_mem _ hq),
      get_set_of_ne _ (h p List.mem_cons_self).symm]

/-- What three credentials written under `key`, `password` and `database` read
    back as. -/
theorem get_update_credentials (b : Databag) (key : String) {user password database : String}
    (hu : user ≠ "") (hpw : password ≠ "") (hdb : database ≠ "") (k : String) :
    (b.update [(key, user), ("password", password), ("database", database)]).get k =
      if k = "database" then some database
      else if k = "password" then some password
      else if k = key then some user
      else b.get k := by
  simp only [update, List.foldl_cons, List.foldl_nil, get_set, hu, hpw, hdb, if_false]

end Databag

end PgBouncerK8s
