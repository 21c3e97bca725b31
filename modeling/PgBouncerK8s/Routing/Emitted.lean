import PgBouncerK8s.Routing.Lifecycle
import PgBouncerK8s.Routing.SameConfig

/-!
# The names of the `[databases]` section

The section lists the keys of `_get_relation_config` and then those of
`_get_readonly_dbs`. The first come from the stored map, the second from the
list of databases that the leader has collected at an earlier `update-status`,
under the condition that the map has a wildcard. Both add `_readonly` to a name.

* `distinct_iff`: when no name is listed twice, on any unit and for any data of
  the backend.
* `distinct_of_reach`: runs in which every stored map and every collected list
  fits the other.
-/

namespace PgBouncerK8s

open Text (str)

namespace Emitted

open Lifecycle (State)

/-! ## Names -/

/-- The names of the section on unit `u`; `none` where rendering raises. -/
def emittedNames (iter : List String → List String) (b : BackendData) (s : State) (u : UnitId) :
    Option (List String) :=
  (getRelationConfig iter b (getRelationDatabases s.app u)).bind fun databases =>
    (getReadonlyDbs iter b s.readonlyDbs databases).map fun readonlyDatabases =>
      databases.keys ++ readonlyDatabases.keys

/-- No unit lists a name twice, whatever the backend's databag and the order of
    its set. -/
def Distinct (s : State) : Prop :=
  ∀ iter b u names, IsSetOrder iter → emittedNames iter b s u = some names → names.Nodup

/-- A database of the map is written under the name `listed_readonly`, itself
    or through its alias. -/
def Clashes (name listed : String) : Prop :=
  name ≠ "*" ∧
    (name = listed ++ "_readonly" ∨ name = listed ∧ (listed ++ "_readonly").length < 64)

instance (name listed : String) : Decidable (Clashes name listed) :=
  inferInstanceAs (Decidable (_ ∧ _))

/-- The map has a wildcard and a database that clashes with a listed one. -/
def Clash (dbs : Dbs) (l : List String) : Prop :=
  dbs.contains "*" = true ∧ ∃ listed ∈ l, ∃ d ∈ dbs.values, Clashes d.name listed

variable {s : State} {dbs : Dbs} {l : List String} {b : BackendData}
  {iter : List String → List String}

theorem standby_ne_readonly (s t : String) : s ++ "_standby" ≠ t ++ "_readonly" := by
  intro he
  have hl := congrArg (fun x => x.toList.reverse.take 2) he
  simp only [String.toList_append, List.reverse_append] at hl
  have hs : ("_standby".toList.reverse ++ s.toList.reverse).take 2 = ['y', 'b'] := rfl
  have ht : ("_readonly".toList.reverse ++ t.toList.reverse).take 2 = ['y', 'l'] := rfl
  rw [hs, ht] at hl
  exact absurd hl (by decide)

theorem append_right_injective {s t x : String} (he : s ++ x = t ++ x) : s = t := by
  have hl := congrArg String.length he
  rw [String.length_append, String.length_append] at hl
  exact (Template.append_inj_of_length he (by omega)).1

theorem mem_aliases_iff (d : DbEntry) (n : String) :
    n ∈ d.aliases ↔ d.name ≠ "*" ∧
      ((d.name ++ "_readonly").length < 64 ∧ n = d.name ++ "_readonly" ∨
        d.legacy = true ∧ (d.name ++ "_standby").length < 64 ∧ n = d.name ++ "_standby") := by
  have hite : ∀ (p : Prop) [Decidable p] (x : String),
      (n ∈ if p then [x] else []) ↔ p ∧ n = x := by
    intro p _ x
    by_cases hp : p <;> simp [hp]
  unfold DbEntry.aliases
  by_cases hname : d.name = "*"
  · rw [if_pos hname]
    simp [hname]
  · rw [if_neg hname, List.mem_append, hite, hite, Bool.and_eq_true, decide_eq_true_eq, and_assoc]
    simp only [ne_eq, hname, not_false_eq_true, true_and]

theorem readonly_ne_star (listed : String) : listed ++ "_readonly" ≠ "*" := by
  intro he
  have hl := congrArg String.length he
  have hr : "_readonly".length = 9 := by decide
  have hs : "*".length = 1 := by decide
  rw [String.length_append] at hl
  omega

/-- The routes have a key `listed_readonly` exactly when a database clashes. -/
theorem routes_contains_readonly_iff (listed : String) :
    (routes dbs).contains (listed ++ "_readonly") = true ↔
      ∃ d ∈ dbs.values, Clashes d.name listed := by
  have hkeys : (routes dbs).contains (listed ++ "_readonly") = true ↔
      ∃ v, (listed ++ "_readonly", v) ∈ dbs.values.flatMap DbEntry.routes := by
    rw [← Dict.contains_setAll_empty]
    unfold routes Dict.contains
    cases dbs.get? "*" with
    | none => rfl
    | some d => simp only [Dict.get?_set_of_ne _ (readonly_ne_star listed)]
  have hroutes : ∀ d : DbEntry, (∃ v, (listed ++ "_readonly", v) ∈ d.routes) ↔
      Clashes d.name listed := by
    intro d
    unfold DbEntry.routes Clashes
    by_cases hname : d.name = "*"
    · simp [hname]
    rw [if_neg hname]
    simp only [List.mem_cons, List.mem_map, Prod.mk.injEq, mem_aliases_iff, ne_eq, hname,
      not_false_eq_true, true_and]
    constructor
    · rintro ⟨v, ⟨he, -⟩ | ⟨n, ⟨hlen, rfl⟩ | ⟨-, -, rfl⟩, he, -⟩⟩
      · exact .inl he.symm
      · obtain rfl := append_right_injective he
        exact .inr ⟨rfl, hlen⟩
      · exact absurd he (standby_ne_readonly _ _)
    · rintro (he | ⟨rfl, hlen⟩)
      · exact ⟨_, .inl ⟨he.symm, rfl⟩⟩
      · exact ⟨_, .inr ⟨_, .inl ⟨hlen, rfl⟩, rfl, rfl⟩⟩
  rw [hkeys]
  simp only [List.mem_flatMap]
  constructor
  · rintro ⟨v, d, hd, hv⟩
    exact ⟨d, hd, (hroutes d).mp ⟨v, hv⟩⟩
  · rintro ⟨d, hd, hc⟩
    obtain ⟨v, hv⟩ := (hroutes d).mpr hc
    exact ⟨v, d, hd, hv⟩

/-! ## One state -/

theorem keys_mapValues {ν ν' : Type} (d : Dict String ν) (f : ν → ν') :
    (d.mapValues f).keys = d.keys := by
  unfold Dict.keys Dict.mapValues
  rw [List.map_map]
  rfl

theorem mem_keys_iff {ν : Type} (d : Dict String ν) (k : String) :
    k ∈ d.keys ↔ d.contains k = true := (Dict.get?_isSome_iff d k).symm

/-- What the keys of `_get_readonly_dbs` are. -/
theorem mem_readonlyNames_iff (readonlyDbs : Option (List String)) (n : String) :
    n ∈ (readonlyNames readonlyDbs).keys ↔
      ∃ listed ∈ readonlyDbs.getD [], n = listed ++ "_readonly" := by
  rw [mem_keys_iff, readonlyNames, Dict.contains_setAll_empty]
  simp [eq_comm]

/-- A reachable deployment without the wildcard lists nothing in the second
    loop; the map of the old file has none. -/
theorem getRelationDatabases_cases (s : App) (u : UnitId) :
    getRelationDatabases s u = s.databases ∨ (getRelationDatabases s u).get? "*" = none := by
  cases hs : s.pgbDbsConfig with
  | some dbs =>
    refine .inl ?_
    unfold getRelationDatabases App.databases
    rw [hs]
    rfl
  | none =>
    refine .inr ?_
    by_cases hu : u = s.leader
    · rw [hu, getRelationDatabases_leader_of_none hs]
      rfl
    · exact (getRelationDatabases_old hs hu).2

/-- The config that is listed first is made of the routes, or is empty. -/
theorem getRelationConfig_cases {databases : Dict String PgbDb}
    (hcfg : getRelationConfig iter b dbs = some databases) :
    databases = .empty ∨ ∃ host port r, Reads b dbs host port ∧
      readOnlyHostsPort (getReadOnlyEndpoints iter b) host port = some r ∧
      databases = (routes dbs).mapValues (Route.toDb ⟨host, port, r.1, b.authUser⟩ r.2) := by
  by_cases hu : Unused b dbs
  · rw [getRelationConfig_of_unused hu] at hcfg
    exact .inl (Option.some_inj.mp hcfg).symm
  · obtain ⟨host, port, hreads⟩ := reads_of_relationConfig hu hcfg
    rw [getRelationConfig_of_reads hreads] at hcfg
    obtain ⟨r, hr, rfl⟩ := Option.map_eq_some_iff.mp hcfg
    exact .inr ⟨host, port, r, hreads, hr, rfl⟩

/-- The second loop lists nothing without the wildcard, and else names that end
    in `_readonly`. -/
theorem getReadonlyDbs_keys {readonlyDbs : Option (List String)} {databases ro : Dict String PgbDb}
    (hro : getReadonlyDbs iter b readonlyDbs databases = some ro) {n : String} (hn : n ∈ ro.keys) :
    databases.contains "*" = true ∧
      ∃ listed ∈ readonlyDbs.getD [], n = listed ++ "_readonly" := by
  have hempty : n ∉ (Dict.empty : Dict String PgbDb).keys := List.not_mem_nil
  cases hstar : databases.get? "*" with
  | none =>
    rw [getReadonlyDbs_of_no_star iter b readonlyDbs hstar, Option.some_inj] at hro
    exact absurd (hro ▸ hn) hempty
  | some star =>
    refine ⟨by rw [Dict.contains, hstar]; rfl, ?_⟩
    cases hrel : b.related with
    | false =>
      have hnone : getReadonlyDbs iter b readonlyDbs databases = some .empty := by
        unfold getReadonlyDbs
        rw [hrel]
      rw [hnone, Option.some_inj] at hro
      exact absurd (hro ▸ hn) hempty
    | true =>
      rw [getReadonlyDbs_eq hrel iter readonlyDbs databases hstar] at hro
      split_ifs at hro
      · exact absurd ((Option.some_inj.mp hro) ▸ hn) hempty
      · obtain ⟨rPort, -, rfl⟩ := Option.map_eq_some_iff.mp hro
        rw [keys_mapValues] at hn
        exact (mem_readonlyNames_iff readonlyDbs n).mp hn

theorem distinct_of_not_clash (h : ¬ Clash s.app.databases (s.readonlyDbs.getD [])) :
    Distinct s := by
  intro iter b u names _ hnames
  obtain ⟨databases, hcfg, hnames⟩ := Option.bind_eq_some_iff.mp hnames
  obtain ⟨ro, hro, rfl⟩ := Option.map_eq_some_iff.mp hnames
  refine List.nodup_append.mpr ⟨databases.nodup, ro.nodup, ?_⟩
  rintro n hn m hm rfl
  obtain ⟨hstar, listed, hlisted, rfl⟩ := getReadonlyDbs_keys hro hm
  rcases getRelationConfig_cases hcfg with rfl | ⟨_, _, _, -, -, rfl⟩
  · cases hn
  rw [keys_mapValues, mem_keys_iff, routes_contains_readonly_iff] at hn
  have hcontains : (getRelationDatabases s.app u).contains "*" = true := by
    unfold Dict.contains at hstar ⊢
    rw [Dict.get?_mapValues, get?_routes_star] at hstar
    simpa using hstar
  rcases getRelationDatabases_cases s.app u with hmap | hnone
  · rw [hmap] at hn hcontains
    exact h ⟨hcontains, listed, hlisted, hn⟩
  · unfold Dict.contains at hcontains
    rw [hnone] at hcontains
    cases hcontains

/-- A backend with one endpoint and one replica. -/
def oneReplica : BackendData :=
  { sampleBackend with databag := sampleBackend.databag.set "read-only-endpoints" "r:5432" }

/-- No unit can list a name twice exactly when the map and the list do not
    clash. -/
theorem distinct_iff (s : State) :
    Distinct s ↔ ¬ Clash s.app.databases (s.readonlyDbs.getD []) := by
  refine ⟨fun hd => ?_, distinct_of_not_clash⟩
  rintro ⟨hstar, listed, hlisted, hclash⟩
  have hmap : getRelationDatabases s.app s.app.leader = s.app.databases := by
    unfold getRelationDatabases App.databases
    cases s.app.pgbDbsConfig <;> simp
  have hne : s.app.databases.items ≠ [] := by
    intro hnil
    rw [Dict.contains, (Dict.items_eq_nil_iff _).mp hnil] at hstar
    cases hstar
  have hreads : Reads oneReplica s.app.databases "h" "5432" :=
    ⟨rfl, hne, "h:5432", by decide, by decide⟩
  have hset : getReadOnlyEndpoints id oneReplica = ["r:5432"] := by decide
  have hport : readOnlyHostsPort ["r:5432"] "h" "5432" = some ("r", "5432") := by decide
  obtain ⟨f, hf⟩ : ∃ f, getRelationConfig id oneReplica s.app.databases =
      some ((routes s.app.databases).mapValues f) :=
    ⟨_, by rw [getRelationConfig_of_reads hreads, hset, hport]; rfl⟩
  obtain ⟨star, hget⟩ := Option.isSome_iff_exists.mp hstar
  have hro : getReadonlyDbs id oneReplica s.readonlyDbs ((routes s.app.databases).mapValues f) =
      some ((readonlyNames s.readonlyDbs).mapValues (readonlyDb ⟨"", "", "r", oneReplica.authUser⟩
        "5432" (f (.wildcard star.authDbname)).authDbname)) := by
    rw [getReadonlyDbs_eq rfl id _ _ (by rw [get?_star_mapValues, hget]; rfl), hset]
    rfl
  have hnames := hd id oneReplica s.app.leader _ isSetOrder_id (by
    unfold emittedNames
    rw [hmap, hf, Option.bind_some, hro, Option.map_some])
  rw [keys_mapValues, keys_mapValues, List.nodup_append] at hnames
  have hfirst : (routes s.app.databases).contains (listed ++ "_readonly") = true :=
    (routes_contains_readonly_iff listed).mpr hclash
  exact hnames.2.2 _ ((mem_keys_iff _ _).mpr hfirst) _
    ((mem_readonlyNames_iff _ _).mpr ⟨listed, hlisted, rfl⟩) rfl

/-! ## Runs -/

variable {lower : String → String}

/-- The rebuilt map for a request on relation `rid` fits the list: if it gets a
    wildcard, neither the requested database nor that of another relation
    clashes with a listed one. -/
def RebuildFits (lower : String → String) (s : State) (u : UnitId) (rid : RelId) (admin : Bool)
    (database : String) : Prop :=
  (admin = true ∨ ∃ x q, s.app.relations.get? x = some q ∧ rebuildAdmin lower u q = true) →
    ∀ listed ∈ s.readonlyDbs.getD [], ¬ Clashes database listed ∧
      ∀ x q e, x ≠ rid → s.app.relations.get? x = some q → rebuildEntry u q = some e →
        ¬ Clashes e.name listed

/-- The databases that are collected fit the map: if it has a wildcard, none of
    those that are not in it has, with `_readonly`, the name of one that is. -/
def CollectionFits (s : State) (results : List String) : Prop :=
  s.app.databases.contains "*" = true →
    ∀ listed ∈ results, listed ∉ s.app.databases.values.map DbEntry.name →
      listed ∉ ["postgres", "pgbouncer"] →
        ∀ d ∈ s.app.databases.values, d.name ≠ "*" → d.name ≠ listed ++ "_readonly"

/-- The steps that store a map or a list store one that fits the other. -/
def Fits (lower : String → String) (s : State) : Lifecycle.Action → Prop
  | .setup (.joined h rid) => Setup.Rebuilds s.app (.joined h rid) →
      ∀ r database, s.app.relations.get? rid = some r → r.remote.get "database" = some database →
        RebuildFits lower s h.unit rid (r.endpoint = .dbAdmin) database
  | .setup (.requested h rid) => Setup.Rebuilds s.app (.requested h rid) →
      ∀ r database, s.app.relations.get? rid = some r → r.remote.get "database" = some database →
        RebuildFits lower s h.unit rid
          (anyRole requestRoles (PgBouncerProvider.requestedRoles lower r)) database
  | .collect u (some results) => u = s.app.leader → CollectionFits s results
  | _ => True

theorem clash_iff : Clash dbs l ↔ dbs.contains "*" = true ∧
    ∃ listed ∈ l, ∃ k d, dbs.get? k = some d ∧ Clashes d.name listed := by
  unfold Clash
  simp only [Dict.mem_values_iff]
  constructor
  · rintro ⟨hstar, listed, hl, d, ⟨k, hk⟩, hc⟩
    exact ⟨hstar, listed, hl, k, d, hk, hc⟩
  · rintro ⟨hstar, listed, hl, k, d, hk, hc⟩
    exact ⟨hstar, listed, hl, d, ⟨k, hk⟩, hc⟩

/-- Removing an entry makes no clash. -/
theorem clash_of_erase {k : String} (h : Clash (dbs.erase k) l) : Clash dbs l := by
  rw [clash_iff] at h ⊢
  obtain ⟨hstar, listed, hl, k', d, hd, hc⟩ := h
  rw [Dict.get?_erase] at hd
  split_ifs at hd
  unfold Dict.contains at hstar ⊢
  rw [Dict.get?_erase] at hstar
  split_ifs at hstar with hk
  · cases hstar
  · exact ⟨hstar, listed, hl, k', d, hd, hc⟩

theorem name_generate_star {a : App} {u : UnitId} (hu : u = a.leader) {d : DbEntry}
    (hd : (generateRelationDatabases lower a u).2.get? "*" = some d) : d.name = "*" := by
  unfold generateRelationDatabases at hd
  rw [if_neg (not_not.mpr hu)] at hd
  simp only at hd
  split_ifs at hd
  · rw [Dict.get?_set_self, Option.some_inj] at hd
    rw [← hd]
  · rw [rebuild_get?_of_ne_str lower a u fun rid => (str_ne_star rid).symm] at hd
    cases hd

/-- The map both request handlers store, made from the state `a` in which the
    data of relation `rid` may have changed, fits the list. -/
theorem not_clash_requested {a : App} {u : UnitId} {rid : RelId} {admin : Bool}
    {database : String} (legacy : Bool) (star : DbEntry) (hu : u = a.leader)
    (hstar : star.name = "*")
    (hadmin : ∀ x q, a.relations.get? x = some q → rebuildAdmin lower u q = true →
      admin = true ∨ ∃ x q, s.app.relations.get? x = some q ∧ rebuildAdmin lower u q = true)
    (hother : ∀ x, x ≠ rid → a.relations.get? x = s.app.relations.get? x)
    (h : RebuildFits lower s u rid admin database) :
    ¬ Clash (if admin then
        ((generateRelationDatabases lower a u).2.set (str rid) ⟨database, legacy, none⟩).set "*" star
      else (generateRelationDatabases lower a u).2.set (str rid) ⟨database, legacy, none⟩)
      (s.readonlyDbs.getD []) := by
  rw [clash_iff, contains_requested_star lower a hu]
  rintro ⟨hcontains, listed, hl, k, d, hd, hc⟩
  have hwild : admin = true ∨ ∃ x q, s.app.relations.get? x = some q ∧
      rebuildAdmin lower u q = true := by
    rcases hcontains with hadm | ⟨x, q, hq, hadm⟩
    · exact .inl hadm
    · exact hadmin x q hq hadm
  obtain ⟨hdatabase, hrest⟩ := h hwild listed hl
  have hk : k ≠ "*" := by
    rintro rfl
    refine hc.1 ?_
    split_ifs at hd
    · rw [Dict.get?_set_self, Option.some_inj] at hd
      rw [← hd, hstar]
    · rw [Dict.get?_set_of_ne _ (str_ne_star rid).symm] at hd
      exact name_generate_star hu hd
  obtain ⟨x, rfl⟩ := requested_keys lower a hu rid _ star admin hk hd
  rw [get?_requested_str lower a hu rid x] at hd
  split_ifs at hd with hx
  · rw [Option.some_inj] at hd
    rw [← hd] at hc
    exact hdatabase hc
  · obtain ⟨q, hq, he⟩ := Option.bind_eq_some_iff.mp hd
    rw [hother x hx] at hq
    exact hrest x q d hx hq he hc

variable {h : Hook} {rid : RelId} {r : Relation} {database : String} {s' : State}

/-- The joins that store a map. -/
theorem not_clash_joined (hr : s.app.relations.get? rid = some r) (hleg : r.endpoint.legacy = true)
    (hi : ¬ Clash s.app.databases (s.readonlyDbs.getD []))
    (hfits : Fits lower s (.setup (.joined h rid))) :
    ¬ Clash (DbProvides.onRelationJoined lower h s.app rid r).app.databases
      (s.readonlyDbs.getD []) := by
  have hstored : ∀ r' database, h.unit = s.app.leader → h.ready = true →
      DbProvides.blockOnExtensions h true r = (r', false) → DbProvides.CopiesExtensions r r' →
      r.remote.get "database" = some database →
      ¬ Clash (DbProvides.joinDatabases lower (s.app.putRelation rid r') h.unit rid r.endpoint
        database) (s.readonlyDbs.getD []) := by
    intro r' database hu hready hb hc hdb
    have hrebuild := hfits (Setup.rebuilds_joined hr hu hready hb hdb) r database hr hdb
    have hclash := not_clash_requested (a := s.app.putRelation rid r') true
      ⟨"*", false, some database⟩ hu rfl (fun x q hq hadm => ?_) (fun x hx => ?_) hrebuild
    · unfold DbProvides.joinDatabases
      simpa only [decide_eq_true_eq] using hclash
    · rw [App.get?_putRelation hr] at hq
      split_ifs at hq with hx
      · obtain rfl : r' = q := by simpa using hq
        refine .inl ?_
        unfold rebuildAdmin at hadm
        rw [hc.endpoint] at hadm
        cases hep : r.endpoint with
        | db => simp [hep] at hadm
        | dbAdmin => rfl
        | database => simp [hep, Endpoint.legacy] at hleg
      · exact .inr ⟨x, q, hq, hadm⟩
    · rw [App.get?_putRelation hr, if_neg hx]
  have he := DbProvides.joined_effect lower h s.app rid r
  generalize DbProvides.onRelationJoined lower h s.app rid r = res at he
  cases he with
  | follower _ => exact hi
  | notReady _ _ => exact hi
  | blocked _ _ _ _ => exact hi
  | noDatabase _ _ _ _ _ => exact hi
  | unsynced hu hready hb hc hdb _ => exact hstored _ _ hu hready hb hc hdb
  | served hu hready hb hc hdb _ =>
    rw [Setup.databases_publishAndCreate]
    exact hstored _ _ hu hready hb hc hdb

/-- The requests that store a map. -/
theorem not_clash_asked (hr : s.app.relations.get? rid = some r)
    (hdb : r.remote.get "database" = some database)
    (hi : ¬ Clash s.app.databases (s.readonlyDbs.getD []))
    (hfits : Fits lower s (.setup (.requested h rid))) :
    ¬ Clash (PgBouncerProvider.onDatabaseRequested lower h s.app rid r database).app.databases
      (s.readonlyDbs.getD []) := by
  have hstored : h.unit = s.app.leader → h.ready = true → h.readWriteEndpoints ≠ "" →
      ¬ Clash (PgBouncerProvider.requestDatabases lower s.app h.unit rid r database)
        (s.readonlyDbs.getD []) := by
    intro hu hready heps
    have hrebuild := hfits ⟨hu, hready, heps⟩ r database hr hdb
    exact not_clash_requested (a := s.app) false ⟨"*", false, some database⟩ hu rfl
      (fun x q hq hadm => .inr ⟨x, q, hq, hadm⟩) (fun x _ => rfl) hrebuild
  have he := PgBouncerProvider.requested_effect lower h s.app rid r database
  generalize PgBouncerProvider.onDatabaseRequested lower h s.app rid r database = res at he
  cases he with
  | follower _ => exact hi
  | notReady _ _ => exact hi
  | unsynced hu hready heps _ => exact hstored hu hready heps
  | served hu hready heps _ =>
    rw [Setup.databases_createAndPublish]
    exact hstored hu hready heps

theorem not_clash_broken {res : Result} (hi : ¬ Clash s.app.databases l)
    (hres : Setup.onBroken h s.app rid r = some res) : ¬ Clash res.app.databases l := by
  unfold Setup.onBroken at hres
  split_ifs at hres
  · have he := Lifecycle.broken_effect h s.app rid r
    rw [hres] at he
    cases he with
    | flagged _ => exact hi
    | notOwned _ _ => exact hi
    | done _ _ _ _ _ => exact fun hc => hi (clash_of_erase hc)
  · have he := Lifecycle.clientBroken_effect h s.app rid r
    rw [hres] at he
    cases he with
    | skipped _ => exact hi
    | departing _ _ => exact hi
    | done _ _ _ => exact fun hc => hi (clash_of_erase hc)

theorem not_clash_collect {u : UnitId} {results : Option (List String)}
    (hi : ¬ Clash s.app.databases (s.readonlyDbs.getD []))
    (hfits : Fits lower s (.collect u results)) :
    ¬ Clash (Lifecycle.collectReadonlyDbs s u results).app.databases
      ((Lifecycle.collectReadonlyDbs s u results).readonlyDbs.getD []) := by
  unfold Lifecycle.collectReadonlyDbs
  split_ifs with hu
  swap
  · exact hi
  cases results with
  | none => exact hi
  | some results =>
    have hmap : getRelationDatabases s.app u = s.app.databases := by
      unfold getRelationDatabases App.databases
      cases s.app.pgbDbsConfig <;> simp [hu]
    rintro ⟨hstar, listed, hl, d, hd, hname, hc⟩
    rw [hmap, Option.getD_some, List.mem_insertionSort] at hl
    obtain ⟨hmem, hnot⟩ := List.mem_filter.mp hl
    obtain ⟨hfresh, hsystem⟩ : listed ∉ s.app.databases.values.map DbEntry.name ∧
        listed ∉ ["postgres", "pgbouncer"] := by
      simpa only [decide_eq_true_eq, List.mem_append, not_or] using hnot
    rcases hc with hc | ⟨hc, -⟩
    · exact hfits hu hstar listed hmem hfresh hsystem d hd hname hc
    · exact hfresh (List.mem_map.mpr ⟨d, hd, hc⟩)

theorem not_clash_step {a : Lifecycle.Action}
    (hi : ¬ Clash s.app.databases (s.readonlyDbs.getD [])) (hfits : Fits lower s a)
    (ha : Lifecycle.step lower s a = some s') :
    ¬ Clash s'.app.databases (s'.readonlyDbs.getD []) := by
  cases a with
  | setup a =>
    obtain ⟨app, happ, rfl⟩ := Option.map_eq_some_iff.mp ha
    cases Setup.step_effect lower happ with
    | relate _ => exact hi
    | write _ _ => exact hi
    | elect => exact hi
    | joined hr hleg => exact not_clash_joined hr hleg hi hfits
    | changed hr =>
      simp only
      rw [Setup.databases_onChanged]
      exact hi
    | requested hr _ hdb => exact not_clash_asked hr hdb hi hfits
  | departed u rid =>
    obtain ⟨r, -, rfl⟩ := Option.map_eq_some_iff.mp ha
    exact hi
  | broken h rid =>
    obtain ⟨r, -, ha⟩ := Option.bind_eq_some_iff.mp ha
    obtain ⟨res, hres, rfl⟩ := Option.map_eq_some_iff.mp ha
    exact not_clash_broken hi hres
  | gone rid =>
    cases ha
    exact hi
  | collect u results =>
    cases ha
    exact not_clash_collect hi hfits

/-- In every run of joins, requests, removals, leadership changes and
    collections whose stored maps and collected lists fit each other, no unit
    ever lists a name twice. -/
theorem distinct_of_reach (hs : (Lifecycle.machine lower).Reach (Fits lower) s) : Distinct s := by
  apply distinct_of_not_clash
  refine hs.invariant (I := fun s => ¬ Clash s.app.databases (s.readonlyDbs.getD []))
    (fun s hs => ?_) fun s a s' _ hi hfits ha => not_clash_step hi hfits ha
  rw [hs.2]
  rintro ⟨-, listed, hl, -⟩
  cases hl

/-- What a client writes that asks for a database as an admin. -/
def askingAsAdmin (database : String) : Databag :=
  (Setup.asking database).set "extra-user-roles" "admin"

/-- The backend also holds `b`, which is collected, and then a client asks for
    it: `b_readonly` is listed for the client and for the collected database. -/
theorem listed_twice :
    ∃ s names, (Lifecycle.machine Text.asciiLower).Reach Machine.always s ∧
      emittedNames id oneReplica s 0 = some names ∧
      names = ["a", "a_readonly", "b", "b_readonly", "*", "b_readonly"] ∧ ¬ Distinct s := by
  obtain ⟨s, hs, hp⟩ := Machine.exists_reach_of_exec (Lifecycle.machine Text.asciiLower)
    Machine.always ⟨Setup.sampleApp, none⟩
    [.setup (.relate 1 .database), .setup (.write 1 (askingAsAdmin "a")),
      .setup (.requested (Setup.sampleHook 0) 1), .collect 0 (some ["postgres", "b", "a"]),
      .setup (.relate 2 .database), .setup (.write 2 (Setup.asking "b")),
      .setup (.requested (Setup.sampleHook 0) 2)]
    (fun s => emittedNames id oneReplica s 0 ==
      some ["a", "a_readonly", "b", "b_readonly", "*", "b_readonly"]) ⟨rfl, rfl⟩ (by decide)
  rw [beq_iff_eq] at hp
  refine ⟨s, _, hs, hp, rfl, fun hd => ?_⟩
  exact absurd (hd id oneReplica 0 _ isSetOrder_id hp) (by decide)

theorem rebuildFits_of_items {u : UnitId} {admin : Bool}
    (h : ∀ listed ∈ s.readonlyDbs.getD [], ¬ Clashes database listed ∧
      ∀ p ∈ s.app.relations.items, p.1 ≠ rid → ∀ e ∈ rebuildEntry u p.2, ¬ Clashes e.name listed) :
    RebuildFits lower s u rid admin database := by
  intro _ listed hl
  obtain ⟨hdatabase, hrest⟩ := h listed hl
  exact ⟨hdatabase, fun x q e hx hq he =>
    hrest (x, q) ((Dict.get?_eq_some_iff _ _ _).mp hq) hx e he⟩

/-- With the wildcard of an admin in the map, `b` is collected; a later request
    for `c` fits, and `b_readonly` is listed once. -/
theorem distinct_with_wildcard :
    ∃ s : State, s.readonlyDbs = some ["b"] ∧
      emittedNames id oneReplica s 0 =
        some ["a", "a_readonly", "c", "c_readonly", "*", "b_readonly"] ∧ Distinct s := by
  have h₀ : (Lifecycle.machine Text.asciiLower).Reach (Fits Text.asciiLower)
      ⟨Setup.sampleApp, none⟩ := .init ⟨rfl, rfl⟩
  have h₁ := h₀.step (a := Lifecycle.Action.setup (.relate 1 .database)) trivial rfl
  have h₂ := h₁.step (a := Lifecycle.Action.setup (.write 1 (askingAsAdmin "a"))) trivial rfl
  have h₃ := h₂.step (a := Lifecycle.Action.setup (.requested (Setup.sampleHook 0) 1))
    (fun _ _ _ _ _ => rebuildFits_of_items fun _ hl => absurd hl List.not_mem_nil) rfl
  have h₄ := h₃.step (a := Lifecycle.Action.collect 0 (some ["postgres", "b", "a"]))
    (fun _ => by unfold CollectionFits; decide) rfl
  have h₅ := h₄.step (a := Lifecycle.Action.setup (.relate 2 .database)) trivial rfl
  have h₆ := h₅.step (a := Lifecycle.Action.setup (.write 2 (Setup.asking "c"))) trivial rfl
  have h₇ := h₆.step (a := Lifecycle.Action.setup (.requested (Setup.sampleHook 0) 2))
    (fun _ r database hr hdb => by
      cases hr
      obtain rfl : "c" = database := Option.some.inj hdb
      exact rebuildFits_of_items (by decide)) rfl
  exact ⟨_, by decide, by decide, distinct_of_reach h₇⟩

end Emitted

end PgBouncerK8s
