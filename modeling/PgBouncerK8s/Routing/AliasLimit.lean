import PgBouncerK8s.Routing.Emitted

/-!
# The length of the aliases

PostgreSQL cuts names at 63 characters. `_get_relation_config` (`charm.py`,
lines 982–1001) writes an alias if it has fewer than 64;
`_get_readonly_dbs` (lines 467–488) appends `_readonly` to every database that
has been collected.

* `length_lt_of_relationConfig`: the aliases of the map are short enough.
* `aliasesShort_iff`: the section has short aliases only exactly when it lists
  no collected database, or none with a long name.
* `not_aliasesShort_long`: a database with a name of 55 characters.
-/

namespace PgBouncerK8s.Emitted

/-! ## Model -/

/-- The key is an alias of the database it leads to. -/
def IsAlias (p : String × PgbDb) : Prop :=
  ∃ name, p.2.dbname = some name ∧ (p.1 = name ++ "_readonly" ∨ p.1 = name ++ "_standby")

/-- Every alias that is rendered from the map `dbs` is shorter than 64. -/
def AliasesShort (iter : List String → List String) (sh : Shared) (dbs : Dbs) : Prop :=
  ∀ databases readonlyDatabases, getRelationConfig iter sh.backend dbs = some databases →
    getReadonlyDbs iter sh.backend sh.readonlyDbs databases = some readonlyDatabases →
    ∀ p ∈ databases.items ++ readonlyDatabases.items, IsAlias p → p.1.length < 64

/-- The collected databases are listed: there are a backend with read-only
    hosts, the first with a port, and a wildcard. -/
def ListsReadonly (iter : List String → List String) (b : BackendData) (dbs : Dbs) : Prop :=
  (∃ host port, Reads b dbs host port) ∧ dbs.contains "*" = true ∧
    readOnlyHosts (getReadOnlyEndpoints iter b) ≠ "" ∧
    ((getReadOnlyEndpoints iter b).head?.bind portOf).isSome = true

/-! ## The map -/

variable {iter : List String → List String} {sh : Shared} {b : BackendData} {dbs : Dbs}
  {databases readonlyDatabases : Dict String PgbDb} {p : String × PgbDb}

theorem not_isAlias_self {name : String}
    (h : name = name ++ "_readonly" ∨ name = name ++ "_standby") : False := by
  rcases h with h | h
  · exact ne_append_of_ne_empty name (by decide) h.symm
  · exact ne_append_of_ne_empty name (by decide) h.symm

theorem length_lt_of_routes {d : DbEntry} {x : Hosts} {rPort n : String} {route : Route}
    (h : (n, route) ∈ d.routes) (halias : IsAlias (n, route.toDb x rPort)) : n.length < 64 := by
  obtain ⟨name, hname, halias⟩ := halias
  unfold DbEntry.routes at h
  split_ifs at h
  · cases h
  rcases List.mem_cons.mp h with h | h
  · obtain ⟨rfl, rfl⟩ := Prod.mk.inj h
    obtain rfl := Option.some_inj.mp hname
    exact (not_isAlias_self halias).elim
  · obtain ⟨a, ha, h⟩ := List.mem_map.mp h
    obtain ⟨rfl, rfl⟩ := Prod.mk.inj h
    rcases ((mem_aliases_iff d a).mp ha).2 with ⟨hlen, rfl⟩ | ⟨-, hlen, rfl⟩
    · exact hlen
    · exact hlen

/-- The aliases of the map are shorter than 64. -/
theorem length_lt_of_relationConfig (hcfg : getRelationConfig iter b dbs = some databases)
    (hp : p ∈ databases.items) (halias : IsAlias p) : p.1.length < 64 := by
  rcases getRelationConfig_cases hcfg with rfl | ⟨host, port, r, -, -, rfl⟩
  · cases hp
  · obtain ⟨⟨n, route⟩, hroute, rfl⟩ := List.mem_map.mp hp
    have hget := (Dict.get?_eq_some_iff _ _ _).mpr hroute
    by_cases hstar : n = "*"
    · subst hstar
      rw [get?_routes_star] at hget
      obtain ⟨d, -, rfl⟩ := Option.map_eq_some_iff.mp hget
      obtain ⟨name, hname, -⟩ := halias
      cases hname
    · have hmem : (n, route) ∈ dbs.values.flatMap DbEntry.routes := by
        refine Dict.mem_of_get?_setAll_empty ?_
        unfold routes at hget
        cases hd : dbs.get? "*" with
        | none => simpa [hd] using hget
        | some d => simpa [hd, Dict.get?_set_of_ne _ hstar] using hget
      obtain ⟨d, -, hd⟩ := List.mem_flatMap.mp hmem
      exact length_lt_of_routes hd halias

/-! ## The collected databases -/

/-- What is listed beside the map are collected databases. -/
theorem listsReadonly_of_mem (hcfg : getRelationConfig iter sh.backend dbs = some databases)
    (hro : getReadonlyDbs iter sh.backend sh.readonlyDbs databases = some readonlyDatabases)
    (hp : p ∈ readonlyDatabases.items) :
    ListsReadonly iter sh.backend dbs ∧
      ∃ listed ∈ sh.readonlyDbs.getD [], p.1 = listed ++ "_readonly" := by
  obtain ⟨hstar, hlisted⟩ := getReadonlyDbs_keys hro (List.mem_map_of_mem hp)
  refine ⟨?_, hlisted⟩
  rcases getRelationConfig_cases hcfg with rfl | ⟨host, port, r, hreads, -, rfl⟩
  · cases hstar
  obtain ⟨star, hget⟩ := Option.isSome_iff_exists.mp hstar
  rw [getReadonlyDbs_eq hreads.related iter _ _ hget] at hro
  rw [get?_star_mapValues] at hget
  obtain ⟨d, hd, -⟩ := Option.map_eq_some_iff.mp hget
  have hcontains : dbs.contains "*" = true := by rw [Dict.contains, hd]; rfl
  split_ifs at hro with hhosts
  · obtain rfl := Option.some_inj.mp hro
    cases hp
  · obtain ⟨rPort, hport, -⟩ := Option.map_eq_some_iff.mp hro
    exact ⟨⟨host, port, hreads⟩, hcontains, hhosts, by rw [hport]; rfl⟩

theorem get?_readonlyNames {readonlyDbs : Option (List String)} {listed : String}
    (h : listed ∈ readonlyDbs.getD []) :
    (readonlyNames readonlyDbs).get? (listed ++ "_readonly") = some listed := by
  obtain ⟨name, hmem, hget⟩ := Dict.get?_setAll_of_mem Dict.empty
    (List.mem_map_of_mem (f := fun name => (name ++ "_readonly", name)) h)
  obtain ⟨name', -, hpair⟩ := List.mem_map.mp hmem
  obtain ⟨hkey, rfl⟩ := Prod.mk.inj hpair
  obtain rfl := append_right_injective hkey
  exact hget

/-- Where the collected databases are listed, each has its alias in the file. -/
theorem exists_alias_of_listsReadonly (sh : Shared) (h : ListsReadonly iter sh.backend dbs) :
    ∃ databases readonlyDatabases, getRelationConfig iter sh.backend dbs = some databases ∧
      getReadonlyDbs iter sh.backend sh.readonlyDbs databases = some readonlyDatabases ∧
      ∀ listed ∈ sh.readonlyDbs.getD [], ∃ p ∈ readonlyDatabases.items,
        p.2.dbname = some listed ∧ p.1 = listed ++ "_readonly" := by
  obtain ⟨⟨host, port, hreads⟩, hstar, hhosts, hport⟩ := h
  obtain ⟨rPort, hport⟩ := Option.isSome_iff_exists.mp hport
  obtain ⟨star, hget⟩ := Option.isSome_iff_exists.mp hstar
  have hcfg := getRelationConfig_of_reads hreads iter
  rw [readOnlyHostsPort_eq, if_neg hhosts, hport, Option.map_some, Option.map_some] at hcfg
  have hro : ∀ f : Route → PgbDb,
      getReadonlyDbs iter sh.backend sh.readonlyDbs ((routes dbs).mapValues f) =
        some ((readonlyNames sh.readonlyDbs).mapValues (readonlyDb
          ⟨"", "", readOnlyHosts (getReadOnlyEndpoints iter sh.backend), sh.backend.authUser⟩ rPort
          (f (.wildcard star.authDbname)).authDbname)) := by
    intro f
    rw [getReadonlyDbs_eq hreads.related iter _ _ (by rw [get?_star_mapValues, hget]; rfl),
      if_neg hhosts, hport, Option.map_some]
  refine ⟨_, _, hcfg, hro _, fun listed hlisted => ?_⟩
  have hmem := (Dict.get?_eq_some_iff _ _ _).mp (get?_readonlyNames hlisted)
  exact ⟨_, List.mem_map_of_mem hmem, rfl, rfl⟩

/-- Every alias in the section is shorter than 64 exactly when the collected
    databases are not listed or their names leave room for `_readonly`. -/
theorem aliasesShort_iff (iter : List String → List String) (sh : Shared) (dbs : Dbs) :
    AliasesShort iter sh dbs ↔ (ListsReadonly iter sh.backend dbs →
      ∀ listed ∈ sh.readonlyDbs.getD [], (listed ++ "_readonly").length < 64) := by
  constructor
  · intro h hlists listed hlisted
    obtain ⟨databases, readonlyDatabases, hcfg, hro, hall⟩ :=
      exists_alias_of_listsReadonly sh hlists
    obtain ⟨p, hp, hname, hkey⟩ := hall listed hlisted
    rw [← hkey]
    exact h _ _ hcfg hro p (List.mem_append_right _ hp) ⟨listed, hname, .inl hkey⟩
  · intro h databases readonlyDatabases hcfg hro p hp halias
    rcases List.mem_append.mp hp with hp | hp
    · exact length_lt_of_relationConfig hcfg hp halias
    · obtain ⟨hlists, listed, hlisted, hkey⟩ := listsReadonly_of_mem hcfg hro hp
      rw [hkey]
      exact h hlists listed hlisted

/-- A name of 55 characters. -/
def longName : String := String.ofList (List.replicate 55 'a')

/-- The map with the wildcard of an admin client. -/
def wildcardMap : Dbs :=
  (Dict.empty.set "1" ⟨"app", false, none⟩).set "*" ⟨"*", false, some "app"⟩

/-- A database with a long name that no relation has asked for gets an alias of
    64 characters. -/
theorem not_aliasesShort_long :
    ¬ AliasesShort id { sampleShared oneReplica with readonlyDbs := some [longName] }
      wildcardMap := by
  intro h
  have hlists : ListsReadonly id oneReplica wildcardMap :=
    ⟨⟨"h", "5432", rfl, by decide, "h:5432", by decide, by decide⟩, by decide, by decide,
      by decide⟩
  obtain ⟨databases, readonlyDatabases, hcfg, hro, hall⟩ := exists_alias_of_listsReadonly
    { sampleShared oneReplica with readonlyDbs := some [longName] } hlists
  obtain ⟨p, hp, hname, hkey⟩ := hall longName (by decide)
  have hlen := h _ _ hcfg hro p (List.mem_append_right _ hp) ⟨longName, hname, .inl hkey⟩
  rw [hkey] at hlen
  revert hlen
  decide

end PgBouncerK8s.Emitted
