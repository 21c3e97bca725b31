import Mathlib.Data.List.Sort
import PgBouncerK8s.Routing.Databases

/-!
# The `[databases]` dictionary

Model of `_get_relation_config` (`charm.py`, lines 957–1009). The set that
`get_read_only_endpoints` returns is iterated in an order that Python does not
fix; `iter` is that order.

All names share one dictionary: a database is written under its own name and,
right after, under its aliases `<name>_readonly` and (legacy relations)
`<name>_standby`. The order of the map decides which write is kept.

* `routesToPrimary_iff_not_shadowed`: the entry of a database name points to
  the primary under that name exactly when no entry after the last one with
  that name has the name as an alias.
* `relationConfig_shadowed`: with the databases `app_readonly` and `app`, in
  this order, the clients of `app_readonly` are sent to `app`.
* `contains_relationConfig`: every database of the map is a key.
-/

namespace PgBouncerK8s

/-! ## Model -/

/-- The backend relation as `_get_relation_config` reads it: whether there is
    one, its databag, and `self.backend.auth_user`. -/
structure BackendData where
  related : Bool
  databag : Databag
  authUser : Option String

/-- One value of the dictionary; the wildcard has `auth_dbname` in the place
    of `dbname`. -/
structure PgbDb where
  host : String
  dbname : Option String
  port : String
  authUser : Option String
  authDbname : Option String
  deriving DecidableEq

/-- `get_read_only_endpoints` (`backend_database.py`, lines 533–538), in the
    order in which the set is iterated. -/
def getReadOnlyEndpoints (iter : List String → List String) (b : BackendData) : List String :=
  match b.databag.get "read-only-endpoints" with
  | none => []
  | some eps => iter (Text.split ',' eps).dedup

/-- `r_hosts` and `r_port` (`charm.py`, lines 968–978); `none` where
    `r_host.split(":")[1]` raises `IndexError`. -/
def readOnlyHostsPort (readOnlyEndpoints : List String) (host port : String) :
    Option (String × String) :=
  let sortedRhosts :=
    (readOnlyEndpoints.map fun rHost => (Text.split ':' rHost).headD "").insertionSort (· ≤ ·)
  let rHosts := Text.join ',' sortedRhosts
  if rHosts ≠ "" then
    match readOnlyEndpoints with
    | [] => some (rHosts, port)
    | rHost :: _ => (Text.split ':' rHost)[1]?.map fun rPort => (rHosts, rPort)
  else some (host, port)

/-- The body of the loop over the databases (`charm.py`, lines 982–1001). -/
def configStep (primary readOnly : String → PgbDb) (pgbDbs : Dict String PgbDb) (d : DbEntry) :
    Dict String PgbDb :=
  if d.name = "*" then pgbDbs
  else
    let pgbDbs := pgbDbs.set d.name (primary d.name)
    let pgbDbs :=
      if (d.name ++ "_readonly").length < 64 then
        pgbDbs.set (d.name ++ "_readonly") (readOnly d.name)
      else pgbDbs
    if d.legacy && (d.name ++ "_standby").length < 64 then
      pgbDbs.set (d.name ++ "_standby") (readOnly d.name)
    else pgbDbs

/-- The dictionary once the backend data has been read (`charm.py`,
    lines 980–1009). -/
def buildConfig (primary readOnly : String → PgbDb) (wildcard : Option String → PgbDb)
    (databases : Dbs) : Dict String PgbDb :=
  let pgbDbs := databases.values.foldl (configStep primary readOnly) .empty
  match databases.get? "*" with
  | some d => pgbDbs.set "*" (wildcard d.authDbname)
  | none => pgbDbs

/-- `_get_relation_config` (`charm.py`, lines 957–1009) on the map
    `databases`; `none` where it raises. -/
def getRelationConfig (iter : List String → List String) (b : BackendData) (databases : Dbs) :
    Option (Dict String PgbDb) :=
  if !b.related || databases.items.isEmpty then some .empty
  else
    match b.databag.get "endpoints" with
    | none => some .empty
    | some endpoint =>
      match Text.split ':' endpoint with
      | [host, port] =>
        (readOnlyHostsPort (getReadOnlyEndpoints iter b) host port).map fun r =>
          buildConfig (fun name => ⟨host, some name, port, b.authUser, none⟩)
            (fun name => ⟨r.1, some name, r.2, b.authUser, none⟩)
            (fun authDbname => ⟨host, none, port, b.authUser, authDbname⟩) databases
      | _ => none

/-! ## The writes of one database -/

/-- The alias names written for a database. -/
def DbEntry.aliases (d : DbEntry) : List String :=
  if d.name = "*" then []
  else
    (if (d.name ++ "_readonly").length < 64 then [d.name ++ "_readonly"] else []) ++
      if d.legacy && (d.name ++ "_standby").length < 64 then [d.name ++ "_standby"] else []

theorem ne_append_of_ne_empty (s : String) {t : String} (h : t ≠ "") : s ++ t ≠ s := by
  intro he
  have hl := congrArg String.length he
  rw [String.length_append] at hl
  exact h (String.length_eq_zero_iff.mp (by omega))

theorem DbEntry.ne_of_mem_aliases {d : DbEntry} {n : String} (h : n ∈ d.aliases) : n ≠ d.name := by
  have hr : d.name ++ "_readonly" ≠ d.name := ne_append_of_ne_empty _ (by decide)
  have hs : d.name ++ "_standby" ≠ d.name := ne_append_of_ne_empty _ (by decide)
  unfold aliases at h
  split_ifs at h <;> simp at h
  · rcases h with rfl | rfl <;> assumption
  · rwa [h]
  · rwa [h]

section Writes

variable (primary readOnly : String → PgbDb)

/-- The writes the loop body makes for a database, in order. -/
def DbEntry.writes (d : DbEntry) : List (String × PgbDb) :=
  if d.name = "*" then []
  else (d.name, primary d.name) :: d.aliases.map fun n => (n, readOnly d.name)

theorem configStep_eq (pgbDbs : Dict String PgbDb) (d : DbEntry) :
    configStep primary readOnly pgbDbs d = pgbDbs.setAll (d.writes primary readOnly) := by
  unfold configStep DbEntry.writes DbEntry.aliases
  split_ifs <;> simp [Dict.setAll]

theorem foldl_configStep (l : List DbEntry) (pgbDbs : Dict String PgbDb) :
    l.foldl (configStep primary readOnly) pgbDbs =
      pgbDbs.setAll (l.flatMap (DbEntry.writes primary readOnly)) := by
  induction l generalizing pgbDbs with
  | nil => rfl
  | cons d l ih =>
    rw [List.foldl_cons, ih, configStep_eq, List.flatMap_cons, Dict.setAll_append]

theorem get?_buildConfig_of_ne (wildcard : Option String → PgbDb) (databases : Dbs) {n : String}
    (hn : n ≠ "*") :
    (buildConfig primary readOnly wildcard databases).get? n =
      (Dict.empty.setAll (databases.values.flatMap (DbEntry.writes primary readOnly))).get? n := by
  unfold buildConfig
  rw [foldl_configStep]
  cases databases.get? "*" with
  | none => rfl
  | some d => exact Dict.get?_set_of_ne _ hn _

theorem mem_writes_iff (d : DbEntry) (n : String) (p : PgbDb) :
    (n, p) ∈ d.writes primary readOnly ↔
      d.name ≠ "*" ∧ (n = d.name ∧ p = primary d.name ∨
        n ∈ d.aliases ∧ p = readOnly d.name) := by
  unfold DbEntry.writes
  by_cases h : d.name = "*"
  · simp [h]
  · rw [if_neg h, List.mem_cons, Prod.mk.injEq, List.mem_map]
    simp only [Prod.mk.injEq]
    constructor
    · rintro (⟨rfl, rfl⟩ | ⟨a, ha, rfl, rfl⟩)
      · exact ⟨h, .inl ⟨rfl, rfl⟩⟩
      · exact ⟨h, .inr ⟨ha, rfl⟩⟩
    · rintro ⟨-, ⟨rfl, rfl⟩ | ⟨ha, rfl⟩⟩
      · exact .inl ⟨rfl, rfl⟩
      · exact .inr ⟨n, ha, rfl, rfl⟩

end Writes

/-! ## Routing isolation -/

/-- The entry of `n` is the database `n` itself on the primary. -/
def RoutesToPrimary (cfg : Dict String PgbDb) (n host port : String) : Prop :=
  ∃ p, cfg.get? n = some p ∧ p.dbname = some n ∧ p.host = host ∧ p.port = port

/-- Some database that comes after the last one named `n` has `n` as an alias. -/
def Shadowed (l : List DbEntry) (n : String) : Prop :=
  ∃ pre d post, l = pre ++ d :: post ∧ n ∈ d.aliases ∧ ∀ e ∈ post, e.name ≠ n

theorem DbEntry.name_ne_star_of_mem_aliases {d : DbEntry} {n : String} (h : n ∈ d.aliases) :
    d.name ≠ "*" := by
  intro he
  simp [aliases, he] at h

/-- A list that has an element has a last one. -/
theorem exists_last {α : Type} {l : List α} {q : α → Prop} (h : ∃ a ∈ l, q a) :
    ∃ pre a post, l = pre ++ a :: post ∧ q a ∧ ∀ b ∈ post, ¬ q b := by
  classical
  induction l with
  | nil =>
    obtain ⟨a, ha, -⟩ := h
    cases ha
  | cons x l ih =>
    by_cases hl : ∃ a ∈ l, q a
    · obtain ⟨pre, a, post, rfl, ha, hpost⟩ := ih hl
      exact ⟨x :: pre, a, post, rfl, ha, hpost⟩
    · obtain ⟨a, ha, hq⟩ := h
      rcases List.mem_cons.mp ha with rfl | ha
      · exact ⟨[], a, l, rfl, hq, fun b hb hqb => hl ⟨b, hb, hqb⟩⟩
      · exact absurd ⟨a, ha, hq⟩ hl

section Isolation

variable {primary readOnly : String → PgbDb}

/-- Where the name is shadowed, the last write to it comes from another
    database. -/
theorem get?_of_shadowed {l : List DbEntry} {n : String} (h : Shadowed l n) :
    ∃ d : DbEntry, d.name ≠ n ∧
      (Dict.empty.setAll (l.flatMap (DbEntry.writes primary readOnly))).get? n =
        some (readOnly d.name) := by
  obtain ⟨pre, d, post, rfl, hd, hpost⟩ := h
  have hmem : (n, readOnly d.name) ∈
      (d :: post).flatMap (DbEntry.writes primary readOnly) := by
    rw [List.mem_flatMap]
    exact ⟨d, List.mem_cons_self, (mem_writes_iff primary readOnly d n _).mpr
      ⟨DbEntry.name_ne_star_of_mem_aliases hd, .inr ⟨hd, rfl⟩⟩⟩
  rw [List.flatMap_append, Dict.setAll_append]
  obtain ⟨p, hp, hget⟩ := Dict.get?_setAll_of_mem
    (Dict.empty.setAll (pre.flatMap (DbEntry.writes primary readOnly))) hmem
  obtain ⟨e, he, hw⟩ := List.mem_flatMap.mp hp
  have hname : e.name ≠ n := by
    rcases List.mem_cons.mp he with rfl | he
    · exact (DbEntry.ne_of_mem_aliases hd).symm
    · exact hpost e he
  obtain ⟨-, ⟨rfl, -⟩ | ⟨-, rfl⟩⟩ := (mem_writes_iff primary readOnly e n p).mp hw
  · exact absurd rfl hname
  · exact ⟨e, hname, hget⟩

/-- Where the name is not shadowed, the last write to it is the database's own. -/
theorem get?_of_not_shadowed {l : List DbEntry} {n : String} (h : ¬ Shadowed l n)
    (hn : n ≠ "*") (hmem : ∃ d ∈ l, d.name = n) :
    (Dict.empty.setAll (l.flatMap (DbEntry.writes primary readOnly))).get? n =
      some (primary n) := by
  obtain ⟨pre, d, post, rfl, rfl, hpost⟩ := exists_last hmem
  have halias : ∀ e ∈ post, d.name ∉ e.aliases := by
    intro e he hal
    obtain ⟨p, e', p', rfl, he', hp'⟩ := exists_last (q := fun e => d.name ∈ e.aliases) ⟨e, he, hal⟩
    refine h ⟨pre ++ d :: p, e', p', by simp, he', fun x hx => hpost x ?_⟩
    simp [hx]
  have hwrites : d.writes primary readOnly =
      (d.name, primary d.name) :: d.aliases.map fun n => (n, readOnly d.name) := by
    simp [DbEntry.writes, hn]
  rw [List.flatMap_append, List.flatMap_cons, hwrites, List.cons_append]
  apply Dict.get?_setAll_last
  rintro ⟨k, p⟩ hk rfl
  rcases List.mem_append.mp hk with hk | hk
  · obtain ⟨a, ha, he⟩ := List.mem_map.mp hk
    obtain ⟨rfl, -⟩ : a = d.name ∧ _ := by simpa using he
    exact DbEntry.ne_of_mem_aliases ha rfl
  · obtain ⟨e, he, hw⟩ := List.mem_flatMap.mp hk
    obtain ⟨-, ⟨hname, -⟩ | ⟨hal, -⟩⟩ := (mem_writes_iff primary readOnly e _ p).mp hw
    · exact hpost e he hname.symm
    · exact halias e he hal

end Isolation

variable {iter : List String → List String} {b : BackendData} {databases : Dbs}
  {cfg : Dict String PgbDb} {endpoint host port : String}

/-- With a backend endpoint, the dictionary is the one `buildConfig` makes of
    the primary's host and port and of some read-only host and port. -/
theorem getRelationConfig_eq (hrel : b.related = true)
    (hep : b.databag.get "endpoints" = some endpoint)
    (hsplit : Text.split ':' endpoint = [host, port]) (hne : databases.items ≠ [])
    (hcfg : getRelationConfig iter b databases = some cfg) :
    ∃ r : String × String,
      cfg = buildConfig (fun name => ⟨host, some name, port, b.authUser, none⟩)
        (fun name => ⟨r.1, some name, r.2, b.authUser, none⟩)
        (fun authDbname => ⟨host, none, port, b.authUser, authDbname⟩) databases := by
  unfold getRelationConfig at hcfg
  simp only [hrel, Bool.not_true, Bool.false_or, List.isEmpty_iff, hne, if_false, hep, hsplit,
    Option.map_eq_some_iff] at hcfg
  obtain ⟨r, -, rfl⟩ := hcfg
  exact ⟨r, rfl⟩

/-- The entry of a database name is that database on the primary iff no
    database after the last one of that name has it as an alias. -/
theorem routesToPrimary_iff_not_shadowed (hrel : b.related = true)
    (hep : b.databag.get "endpoints" = some endpoint)
    (hsplit : Text.split ':' endpoint = [host, port])
    (hcfg : getRelationConfig iter b databases = some cfg) {k : String} {d : DbEntry}
    (hd : databases.get? k = some d) (hstar : d.name ≠ "*") :
    RoutesToPrimary cfg d.name host port ↔ ¬ Shadowed databases.values d.name := by
  have hmem : d ∈ databases.values := (Dict.mem_values_iff databases d).mpr ⟨k, hd⟩
  have hne : databases.items ≠ [] := Dict.items_ne_nil hd
  obtain ⟨r, rfl⟩ := getRelationConfig_eq hrel hep hsplit hne hcfg
  unfold RoutesToPrimary
  rw [get?_buildConfig_of_ne _ _ _ _ hstar]
  constructor
  · rintro ⟨p, hp, hdb, -, -⟩ hs
    obtain ⟨e, hname, hget⟩ := get?_of_shadowed hs
    rw [hget, Option.some_inj] at hp
    rw [← hp, Option.some_inj] at hdb
    exact hname hdb
  · intro hs
    exact ⟨_, get?_of_not_shadowed hs hstar ⟨d, hmem, rfl⟩, rfl, rfl, rfl⟩

/-- A backend with one endpoint. -/
def sampleBackend : BackendData :=
  ⟨true, Databag.empty.set "endpoints" "h:5432", some "pgbouncer"⟩

/-- Two client relations: the first asked for `app_readonly`, the second for `app`. -/
def clashing : Dbs :=
  (Dict.empty.set "1" ⟨"app_readonly", false, none⟩).set "2" ⟨"app", false, none⟩

/-- The entry `app_readonly` of relation 1 is replaced by the alias of relation 2. -/
theorem relationConfig_shadowed :
    ∃ cfg, getRelationConfig id sampleBackend clashing = some cfg ∧
      clashing.get? "1" = some ⟨"app_readonly", false, none⟩ ∧
      (cfg.get? "app_readonly").map PgbDb.dbname = some (some "app") ∧
      ¬ RoutesToPrimary cfg "app_readonly" "h" "5432" := by
  have hname : ((getRelationConfig id sampleBackend clashing).bind fun cfg =>
      (cfg.get? "app_readonly").map PgbDb.dbname) = some (some "app") := by decide
  obtain ⟨cfg, hcfg, hname⟩ := Option.bind_eq_some_iff.mp hname
  refine ⟨cfg, hcfg, by decide, hname, ?_⟩
  rintro ⟨p, hp, hdb, -, -⟩
  simp [hp, hdb] at hname

theorem not_shadowed_clashing : ¬ Shadowed clashing.values "app" := by
  rintro ⟨pre, d, post, hl, hd, -⟩
  have hmem : d ∈ clashing.values := by
    rw [hl]
    simp
  have hall : ∀ d ∈ clashing.values, "app" ∉ d.aliases := by decide
  exact hall d hmem hd

/-- Relation 2 of the same map is routed to its own database. -/
theorem routesToPrimary_clashing :
    ∃ cfg, getRelationConfig id sampleBackend clashing = some cfg ∧
      RoutesToPrimary cfg "app" "h" "5432" := by
  obtain ⟨cfg, hcfg⟩ : ∃ cfg, getRelationConfig id sampleBackend clashing = some cfg :=
    Option.isSome_iff_exists.mp (by decide)
  have hep : sampleBackend.databag.get "endpoints" = some "h:5432" := by decide
  refine ⟨cfg, hcfg, (routesToPrimary_iff_not_shadowed (b := sampleBackend) rfl hep (by decide)
    hcfg (k := "2") (d := ⟨"app", false, none⟩) (by decide) (by decide)).mpr ?_⟩
  exact not_shadowed_clashing

/-- Every database of the map other than `*` is a key of the dictionary. -/
theorem contains_relationConfig (hrel : b.related = true)
    (hep : b.databag.get "endpoints" = some endpoint)
    (hsplit : Text.split ':' endpoint = [host, port])
    (hcfg : getRelationConfig iter b databases = some cfg) {k : String} {d : DbEntry}
    (hd : databases.get? k = some d) (hstar : d.name ≠ "*") : cfg.contains d.name = true := by
  have hmem : d ∈ databases.values := (Dict.mem_values_iff databases d).mpr ⟨k, hd⟩
  have hne : databases.items ≠ [] := Dict.items_ne_nil hd
  obtain ⟨r, rfl⟩ := getRelationConfig_eq hrel hep hsplit hne hcfg
  unfold Dict.contains
  rw [get?_buildConfig_of_ne _ _ _ _ hstar]
  by_cases hs : Shadowed databases.values d.name
  · obtain ⟨e, -, hget⟩ := get?_of_shadowed hs
    rw [hget]; rfl
  · rw [get?_of_not_shadowed hs hstar ⟨d, hmem, rfl⟩]; rfl

end PgBouncerK8s
