import PgBouncerK8s.Model.App

/-!
# The relation-database map

Models of `get_relation_databases` and `generate_relation_databases`
(`charm.py`, lines 877–955) and of `sanitize_extra_roles`
(`pgbouncer_provider.py`, lines 93–99). `str.lower` is the parameter `lower`.

Results, for the map the leader `u` rebuilds:

* `get?_generate_str`: the entry of a relation is the one `rebuildEntry` reads,
  from `relation.data[u]` for a legacy relation and from the client's databag
  for a client relation.
* `contains_generate_star`: the wildcard is there iff some relation passes the
  test `rebuildAdmin` of the rebuild.
* `generate_keys`: every key is a relation id or `*`.
-/

namespace PgBouncerK8s

open Text (str)

variable (lower : String → String)

/-! ## Model -/

/-- `sanitize_extra_roles` (`pgbouncer_provider.py`, lines 93–99). -/
def sanitizeExtraRoles (extraRoles : Option String) : List String :=
  match extraRoles with
  | none => []
  | some roles => (Text.split ',' roles).map lower

/-- The roles `generate_relation_databases` tests for (`charm.py`,
    lines 939–948); `PERMISSIONS_GROUP_ADMIN` is `admin`. -/
def rebuildRoles : List String :=
  ["admin", "superuser", "createdb", "charmed_databases_owner", "charmed_dba", "charmed_dml",
    "charmed_read", "charmed_stats"]

/-- The roles `_on_database_requested` tests for (`pgbouncer_provider.py`,
    lines 132–143). -/
def requestRoles : List String :=
  ["admin", "superuser", "createdb", "charmed_admin", "charmed_backup",
    "charmed_databases_owner", "charmed_dba", "charmed_dml", "charmed_read", "charmed_stats"]

/-- One of `names` is among the roles. -/
def anyRole (names roles : List String) : Bool := names.any fun name => roles.contains name

/-- The loop over the names of the old `[databases]` section (`charm.py`,
    lines 892–898), `i` being the next number. -/
def legacyDatabases (i : ℕ) (result : Dbs) : List String → Dbs
  | [] => result
  | database :: l =>
    if Text.endswith database "_standby" || Text.endswith database "_readonly" then
      legacyDatabases i result l
    else legacyDatabases (i + 1) (result.set (str i) ⟨database, false, none⟩) l

/-- `get_relation_databases` (`charm.py`, lines 877–902). -/
def getRelationDatabases (s : App) (u : UnitId) : Dbs :=
  match s.pgbDbsConfig with
  | some dbs => dbs
  | none =>
    if u ≠ s.leader then
      match s.cfgDatabases with
      | some names => legacyDatabases 1 .empty names
      | none => .empty
    else .empty

/-- The local variables of `generate_relation_databases`; `database` is the
    loop variable, which all three loops assign. -/
structure Rebuild where
  databases : Dbs
  addWildcard : Bool
  database : Option String

/-- The body of the loops over `db` and `db-admin` (`charm.py`,
    lines 911–926): the databag is `get_databags(relation)[0]`, that is
    `relation.data[self.unit]`. -/
def rebuildLegacy (u : UnitId) (admin : Bool) (g : Rebuild) (p : RelId × Relation) : Rebuild :=
  match (p.2.unit u).get "database" with
  | some database =>
    { databases := g.databases.set (str p.1) ⟨database, true, none⟩
      addWildcard := g.addWildcard || admin
      database := some database }
  | none => { g with database := none }

/-- The body of the loop over `database` (`charm.py`, lines 928–949). -/
def rebuildClient (g : Rebuild) (p : RelId × Relation) : Rebuild :=
  let database := p.2.remote.get "database"
  let extraUserRoles := sanitizeExtraRoles lower (p.2.remote.get "extra-user-roles")
  { databases :=
      match database with
      | some name => g.databases.set (str p.1) ⟨name, false, none⟩
      | none => g.databases
    addWildcard := g.addWildcard || anyRole rebuildRoles extraUserRoles
    database := database }

/-- `self.model.relations[endpoint]`. -/
def App.relationsOf (s : App) (ep : Endpoint) : List (RelId × Relation) :=
  s.relations.items.filter fun p => p.2.endpoint = ep

/-- The three loops of `generate_relation_databases`. -/
def rebuild (s : App) (u : UnitId) : Rebuild :=
  let g := (s.relationsOf .db).foldl (rebuildLegacy u false) ⟨.empty, false, none⟩
  let g := (s.relationsOf .dbAdmin).foldl (rebuildLegacy u true) g
  (s.relationsOf .database).foldl (rebuildClient lower) g

/-- `generate_relation_databases` (`charm.py`, lines 904–955) on unit `u`. -/
def generateRelationDatabases (s : App) (u : UnitId) : App × Dbs :=
  if u ≠ s.leader then (s, .empty)
  else
    let g := rebuild lower s u
    let databases :=
      if g.addWildcard then g.databases.set "*" ⟨"*", false, g.database⟩ else g.databases
    (s.setRelationDatabases databases, databases)

/-! ## What the rebuild reads from one relation -/

/-- The entry the rebuild on unit `u` makes for a relation. -/
def rebuildEntry (u : UnitId) (r : Relation) : Option DbEntry :=
  if r.endpoint.legacy then ((r.unit u).get "database").map fun d => ⟨d, true, none⟩
  else (r.remote.get "database").map fun d => ⟨d, false, none⟩

/-- Whether the rebuild on unit `u` adds the wildcard for a relation. -/
def rebuildAdmin (u : UnitId) (r : Relation) : Bool :=
  match r.endpoint with
  | .db => false
  | .dbAdmin => (r.unit u).contains "database"
  | .database =>
    anyRole rebuildRoles (sanitizeExtraRoles lower (r.remote.get "extra-user-roles"))

/-- The assignments the rebuild makes for a list of relations. -/
def rebuildAssignments (u : UnitId) (l : List (RelId × Relation)) : List (String × DbEntry) :=
  l.filterMap fun p => (rebuildEntry u p.2).map fun e => (str p.1, e)

theorem rebuildAssignments_cons (u : UnitId) (p : RelId × Relation) (l : List (RelId × Relation)) :
    rebuildAssignments u (p :: l) =
      ((rebuildEntry u p.2).map fun e => (str p.1, e)).toList ++ rebuildAssignments u l := by
  unfold rebuildAssignments
  cases h : rebuildEntry u p.2 <;> simp [h]

theorem foldl_rebuild {u : UnitId} {f : Rebuild → RelId × Relation → Rebuild}
    {l : List (RelId × Relation)}
    (hdb : ∀ g, ∀ p ∈ l, (f g p).databases =
      g.databases.setAll ((rebuildEntry u p.2).map fun e => (str p.1, e)).toList)
    (hadmin : ∀ g, ∀ p ∈ l, (f g p).addWildcard = (g.addWildcard || rebuildAdmin lower u p.2))
    (g : Rebuild) :
    (l.foldl f g).databases = g.databases.setAll (rebuildAssignments u l) ∧
      (l.foldl f g).addWildcard = (g.addWildcard || l.any fun p => rebuildAdmin lower u p.2) := by
  induction l generalizing g with
  | nil => simp [rebuildAssignments]
  | cons p l ih =>
    obtain ⟨h1, h2⟩ := ih (fun g q hq => hdb g q (List.mem_cons_of_mem _ hq))
      (fun g q hq => hadmin g q (List.mem_cons_of_mem _ hq)) (f g p)
    rw [List.foldl_cons, h1, h2, hdb g p List.mem_cons_self, hadmin g p List.mem_cons_self,
      rebuildAssignments_cons, Dict.setAll_append, List.any_cons, Bool.or_assoc]
    exact ⟨rfl, rfl⟩

theorem foldl_rebuildLegacy_db (s : App) (u : UnitId) (g : Rebuild) :
    ((s.relationsOf .db).foldl (rebuildLegacy u false) g).databases =
        g.databases.setAll (rebuildAssignments u (s.relationsOf .db)) ∧
      ((s.relationsOf .db).foldl (rebuildLegacy u false) g).addWildcard =
        (g.addWildcard || (s.relationsOf .db).any fun p => rebuildAdmin lower u p.2) := by
  apply foldl_rebuild
  all_goals
    intro g p hp
    have hep : p.2.endpoint = .db := by simpa using (List.mem_filter.mp hp).2
    unfold rebuildLegacy
    cases h : (p.2.unit u).get "database" <;>
      simp [rebuildEntry, rebuildAdmin, hep, Endpoint.legacy, h, Dict.setAll]

theorem foldl_rebuildLegacy_dbAdmin (s : App) (u : UnitId) (g : Rebuild) :
    ((s.relationsOf .dbAdmin).foldl (rebuildLegacy u true) g).databases =
        g.databases.setAll (rebuildAssignments u (s.relationsOf .dbAdmin)) ∧
      ((s.relationsOf .dbAdmin).foldl (rebuildLegacy u true) g).addWildcard =
        (g.addWildcard || (s.relationsOf .dbAdmin).any fun p => rebuildAdmin lower u p.2) := by
  apply foldl_rebuild
  all_goals
    intro g p hp
    have hep : p.2.endpoint = .dbAdmin := by simpa using (List.mem_filter.mp hp).2
    unfold rebuildLegacy
    cases h : (p.2.unit u).get "database" <;>
      simp [rebuildEntry, rebuildAdmin, hep, Endpoint.legacy, h, Dict.setAll, Databag.contains]

theorem foldl_rebuildClient (s : App) (u : UnitId) (g : Rebuild) :
    ((s.relationsOf .database).foldl (rebuildClient lower) g).databases =
        g.databases.setAll (rebuildAssignments u (s.relationsOf .database)) ∧
      ((s.relationsOf .database).foldl (rebuildClient lower) g).addWildcard =
        (g.addWildcard || (s.relationsOf .database).any fun p => rebuildAdmin lower u p.2) := by
  apply foldl_rebuild
  all_goals
    intro g p hp
    have hep : p.2.endpoint = .database := by simpa using (List.mem_filter.mp hp).2
    unfold rebuildClient
    cases h : p.2.remote.get "database" <;>
      simp [rebuildEntry, rebuildAdmin, hep, Endpoint.legacy, h, Dict.setAll]

/-! ## The rebuilt map -/

/-- The live relations in the order in which the rebuild visits them. -/
def App.visited (s : App) : List (RelId × Relation) :=
  s.relationsOf .db ++ s.relationsOf .dbAdmin ++ s.relationsOf .database

theorem mem_visited (s : App) (rid : RelId) (r : Relation) :
    (rid, r) ∈ s.visited ↔ s.relations.get? rid = some r := by
  rw [Dict.get?_eq_some_iff]
  simp only [App.visited, App.relationsOf, List.mem_append, List.mem_filter, decide_eq_true_eq]
  cases r.endpoint <;> simp

theorem rebuild_databases (s : App) (u : UnitId) :
    (rebuild lower s u).databases = Dict.empty.setAll (rebuildAssignments u s.visited) := by
  unfold rebuild App.visited
  rw [(foldl_rebuildClient lower s u _).1, (foldl_rebuildLegacy_dbAdmin lower s u _).1,
    (foldl_rebuildLegacy_db lower s u _).1, ← Dict.setAll_append, ← Dict.setAll_append]
  simp [rebuildAssignments]

theorem rebuild_addWildcard (s : App) (u : UnitId) :
    (rebuild lower s u).addWildcard = s.visited.any fun p => rebuildAdmin lower u p.2 := by
  unfold rebuild App.visited
  rw [(foldl_rebuildClient lower s u _).2, (foldl_rebuildLegacy_dbAdmin lower s u _).2,
    (foldl_rebuildLegacy_db lower s u _).2, List.any_append, List.any_append]
  rfl

theorem mem_rebuildAssignments (s : App) (u : UnitId) (k : String) (e : DbEntry) :
    (k, e) ∈ rebuildAssignments u s.visited ↔
      ∃ rid r, k = str rid ∧ s.relations.get? rid = some r ∧ rebuildEntry u r = some e := by
  simp only [rebuildAssignments, List.mem_filterMap, Option.map_eq_some_iff, Prod.exists,
    mem_visited, Prod.mk.injEq]
  constructor
  · rintro ⟨rid, r, hr, e', he, rfl, rfl⟩
    exact ⟨rid, r, rfl, hr, he⟩
  · rintro ⟨rid, r, rfl, hr, he⟩
    exact ⟨rid, r, hr, e, he, rfl, rfl⟩

theorem rebuild_get?_str (s : App) (u : UnitId) (rid : RelId) :
    (rebuild lower s u).databases.get? (str rid) =
      (s.relations.get? rid).bind (rebuildEntry u) := by
  rw [rebuild_databases]
  have hiff : ∀ e, (str rid, e) ∈ rebuildAssignments u s.visited ↔
      (s.relations.get? rid).bind (rebuildEntry u) = some e := by
    intro e
    rw [mem_rebuildAssignments, Option.bind_eq_some_iff]
    constructor
    · rintro ⟨rid', r, hk, hr, he⟩
      obtain rfl := Text.str_injective hk
      exact ⟨r, hr, he⟩
    · rintro ⟨r, hr, he⟩
      exact ⟨rid, r, rfl, hr, he⟩
  cases h : (s.relations.get? rid).bind (rebuildEntry u) with
  | none =>
    rw [Dict.get?_setAll_of_not_mem]
    · rfl
    · rintro ⟨k, e⟩ hp rfl
      rw [hiff, h] at hp
      cases hp
  | some e =>
    obtain ⟨e', he', hget⟩ := Dict.get?_setAll_of_mem Dict.empty ((hiff e).mpr h)
    rw [hiff, h, Option.some_inj] at he'
    rw [hget, he']

theorem str_ne_star (rid : RelId) : str rid ≠ "*" :=
  Text.str_ne (c := '*') (by decide) (by decide) rid

theorem rebuild_get?_of_ne_str (s : App) (u : UnitId) {k : String} (hk : ∀ rid, k ≠ str rid) :
    (rebuild lower s u).databases.get? k = none := by
  rw [rebuild_databases, Dict.get?_setAll_of_not_mem]
  · rfl
  · rintro ⟨k', e⟩ hp rfl
    obtain ⟨rid, -, hrid, -⟩ := (mem_rebuildAssignments s u _ e).mp hp
    exact hk rid hrid

/-! ## The map of `generate_relation_databases` -/

variable {lower} {s : App} {u : UnitId}

theorem get?_generate_str (hu : u = s.leader) (rid : RelId) :
    (generateRelationDatabases lower s u).2.get? (str rid) =
      (s.relations.get? rid).bind (rebuildEntry u) := by
  rw [← rebuild_get?_str lower s u rid]
  unfold generateRelationDatabases
  rw [if_neg (not_not.mpr hu)]
  by_cases h : (rebuild lower s u).addWildcard
  · simp [h, Dict.get?_set_of_ne _ (str_ne_star rid)]
  · simp [h]

theorem contains_generate_star (hu : u = s.leader) :
    (generateRelationDatabases lower s u).2.contains "*" = true ↔
      ∃ rid r, s.relations.get? rid = some r ∧ rebuildAdmin lower u r = true := by
  have hany : (rebuild lower s u).addWildcard = true ↔
      ∃ rid r, s.relations.get? rid = some r ∧ rebuildAdmin lower u r = true := by
    rw [rebuild_addWildcard, List.any_eq_true]
    simp only [Prod.exists, mem_visited]
  have hnone : (rebuild lower s u).databases.get? "*" = none :=
    rebuild_get?_of_ne_str lower s u fun rid => (str_ne_star rid).symm
  rw [← hany]
  unfold generateRelationDatabases Dict.contains
  rw [if_neg (not_not.mpr hu)]
  by_cases h : (rebuild lower s u).addWildcard <;> simp [h, hnone]

theorem generate_keys (hu : u = s.leader) {k : String} {e : DbEntry}
    (h : (generateRelationDatabases lower s u).2.get? k = some e) (hk : k ≠ "*") :
    ∃ rid r, k = str rid ∧ s.relations.get? rid = some r ∧ rebuildEntry u r = some e := by
  by_cases hs : ∃ rid, k = str rid
  · obtain ⟨rid, rfl⟩ := hs
    rw [get?_generate_str hu, Option.bind_eq_some_iff] at h
    obtain ⟨r, hr, he⟩ := h
    exact ⟨rid, r, rfl, hr, he⟩
  · have hnone := rebuild_get?_of_ne_str lower s u (k := k) fun rid hrid => hs ⟨rid, hrid⟩
    unfold generateRelationDatabases at h
    rw [if_neg (not_not.mpr hu)] at h
    by_cases hw : (rebuild lower s u).addWildcard <;>
      simp [hw, Dict.get?_set_of_ne _ hk, hnone] at h

/-- The rebuilt map with the entry of one relation and, for an admin, the
    wildcard put on top, as both request handlers store it. -/
theorem get?_requested_str (lower : String → String) (s : App) (hu : u = s.leader)
    (rid x : RelId) (e star : DbEntry) (admin : Bool) :
    (if admin then ((generateRelationDatabases lower s u).2.set (str rid) e).set "*" star
      else (generateRelationDatabases lower s u).2.set (str rid) e).get? (str x) =
        if x = rid then some e else (s.relations.get? x).bind (rebuildEntry u) := by
  have hset : ((generateRelationDatabases lower s u).2.set (str rid) e).get? (str x) =
      if x = rid then some e else (s.relations.get? x).bind (rebuildEntry u) := by
    rw [Dict.get?_set, get?_generate_str hu]
    simp only [Text.str_injective.eq_iff]
  cases admin
  · exact hset
  · rw [if_pos rfl, Dict.get?_set_of_ne _ (str_ne_star x), hset]

/-- The keys of that map are relation ids and the wildcard. -/
theorem requested_keys (lower : String → String) (s : App) (hu : u = s.leader) (rid : RelId)
    (e star : DbEntry) (admin : Bool) {k : String} {d : DbEntry} (hk : k ≠ "*")
    (hd : (if admin then ((generateRelationDatabases lower s u).2.set (str rid) e).set "*" star
      else (generateRelationDatabases lower s u).2.set (str rid) e).get? k = some d) :
    ∃ x, k = str x := by
  have hset : ((generateRelationDatabases lower s u).2.set (str rid) e).get? k = some d := by
    cases admin
    · exact hd
    · rwa [if_pos rfl, Dict.get?_set_of_ne _ hk] at hd
  by_cases hrid : k = str rid
  · exact ⟨rid, hrid⟩
  · rw [Dict.get?_set_of_ne _ hrid] at hset
    obtain ⟨x, -, hx, -⟩ := generate_keys hu hset hk
    exact ⟨x, hx⟩

theorem contains_requested_star (lower : String → String) (s : App) (hu : u = s.leader)
    (rid : RelId) (e star : DbEntry) (admin : Bool) :
    (if admin then ((generateRelationDatabases lower s u).2.set (str rid) e).set "*" star
      else (generateRelationDatabases lower s u).2.set (str rid) e).contains "*" = true ↔
        admin = true ∨ ∃ x r, s.relations.get? x = some r ∧ rebuildAdmin lower u r = true := by
  rw [← contains_generate_star hu]
  cases admin
  · simp [Dict.contains, Dict.get?_set_of_ne _ (str_ne_star rid).symm]
  · simp [Dict.contains]

end PgBouncerK8s
