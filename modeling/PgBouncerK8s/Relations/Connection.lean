import PgBouncerK8s.Relations.Endpoints
import PgBouncerK8s.Routing.Emitted

/-!
# The database names the clients are given

Model of `DbProvides.update_connection_info` (`relations/db.py`, lines 361–409).
A legacy client gets two connection strings, `master` and `standbys`; a client
of the `database` endpoint gets the URIs of `update_endpoints`. Each of the two
functions decides on its own whether an alias is too long to be listed, as
`_get_relation_config` does where it writes the dictionary.

* `contains_of_mem_aliases`: the aliases of every database are keys.
* `published_mem_relationConfig`: whatever else the map holds, every database
  name a client is given is a key of the dictionary.
-/

namespace PgBouncerK8s

open Text (str)

/-! ## Model -/

/-- A connection string before it is written out: `master_dbconnstr`. -/
structure Connection where
  host : String
  dbname : String
  port : String
  user : String
  password : String
  fallbackApplicationName : String

/-- `parse_dict_to_kv_string` (`pgb.py`, lines 64–74) of the dictionary. -/
def Connection.text (c : Connection) : String :=
  Text.join ' ' ["host=" ++ c.host, "dbname=" ++ c.dbname, "port=" ++ c.port, "user=" ++ c.user,
    "password=" ++ c.password, "fallback_application_name=" ++ c.fallbackApplicationName]

namespace DbProvides

/-- The `dbname` of the standby (lines 402–405). -/
def standbyDatabase (database : String) : String :=
  if (database ++ "_standby").length < 64 then database ++ "_standby" else database

/-- `connection_updates`. -/
structure ConnectionInfo where
  master : Connection
  port : String
  host : String
  standbys : Connection

/-- What unit `u` publishes for a legacy relation; `none` where the relation is
    not fully initialised (lines 369–377). `split` has a last element always, so
    the test for read-only hosts does not fail. -/
def connectionInfo (o : Offer) (listenPort port : ℕ) (externalApp : String) (u : UnitId)
    (r : Relation) : Option ConnectionInfo :=
  let port := if port = 0 then listenPort else port
  match (r.unit u).get "database", (r.unit u).get "user", (r.unit u).get "password" with
  | some database, some user, some password =>
    let readWriteHost :=
      (Text.split ':' ((Text.split ',' o.readWriteEndpoints).headD "")).headD ""
    let readOnlyHosts :=
      (Text.split ',' o.readOnlyEndpoints).map fun host => (Text.split ':' host).headD ""
    let master : Connection := ⟨readWriteHost, database, str port, user, password, externalApp⟩
    some {
      master := master
      port := str port
      host := readWriteHost
      standbys :=
        { master with
          host := readOnlyHosts.getLastD ""
          dbname := standbyDatabase database } }
  | _, _, _ => none

/-- The entries of `connection_updates`. -/
def ConnectionInfo.fields (i : ConnectionInfo) : List (String × String) :=
  [("master", i.master.text), ("port", i.port), ("host", i.host), ("standbys", i.standbys.text)]

/-- `update_connection_info` (`relations/db.py`, lines 361–409) on unit `u`;
    `configured` is `configuration_check()`. -/
def updateConnectionInfo (o : Offer) (configured : Bool) (listenPort port : ℕ)
    (externalApp : String) (u : UnitId) (leader : Bool) (r : Relation) : Relation :=
  if !configured then r
  else
    match connectionInfo o listenPort port externalApp u r with
    | some info => r.updateDatabags u leader info.fields
    | none => r

end DbProvides

/-- The database of a relation, as the function that publishes its connection
    information reads it on unit `u`. -/
def Relation.database (u : UnitId) (r : Relation) : Option String :=
  if r.endpoint.legacy then (r.unit u).get "database" else r.remote.get "database"

/-- The database names that unit `u` hands to the client of the relation `rid`:
    the `dbname` of `master` and `standbys`, or the database part of the URIs. -/
def Relation.publishedNames (o : Offer) (listenPort port : ℕ) (externalApp : String) (u : UnitId)
    (rid : RelId) (r : Relation) : List String :=
  if r.endpoint.legacy then
    match DbProvides.connectionInfo o listenPort port externalApp u r with
    | some info => [info.master.dbname, info.standbys.dbname]
    | none => []
  else
    match PgBouncerProvider.endpointData o rid r with
    | some d => d.uris.database :: d.readOnlyUris.toList.map Uri.database
    | none => []

/-! ## Names and aliases -/

/-- The names under which `_get_relation_config` writes a database. -/
def DbEntry.names (d : DbEntry) : List String := d.name :: d.aliases

section Published

variable {o : Offer} {listenPort port : ℕ} {externalApp : String} {u : UnitId} {rid : RelId}
  {r : Relation} {d : DbEntry}

theorem standbyDatabase_mem_names (hstar : d.name ≠ "*") (hl : d.legacy = true) :
    DbProvides.standbyDatabase d.name ∈ d.names := by
  unfold DbProvides.standbyDatabase DbEntry.names
  split_ifs with h
  · exact List.mem_cons_of_mem _ ((Emitted.mem_aliases_iff d _).mpr ⟨hstar, .inr ⟨hl, h, rfl⟩⟩)
  · exact List.mem_cons_self

theorem readonlyDatabase_mem_names (hstar : d.name ≠ "*") :
    PgBouncerProvider.readonlyDatabase d.name ∈ d.names := by
  unfold PgBouncerProvider.readonlyDatabase DbEntry.names
  split_ifs with h
  · exact List.mem_cons_of_mem _ ((Emitted.mem_aliases_iff d _).mpr ⟨hstar, .inl ⟨h, rfl⟩⟩)
  · exact List.mem_cons_self

/-- The names in the connection strings of a legacy relation. -/
theorem dbname_of_connectionInfo {database : String} {info : DbProvides.ConnectionInfo}
    (hdb : (r.unit u).get "database" = some database)
    (hinfo : DbProvides.connectionInfo o listenPort port externalApp u r = some info) :
    info.master.dbname = database ∧ info.standbys.dbname = DbProvides.standbyDatabase database := by
  unfold DbProvides.connectionInfo at hinfo
  rw [hdb] at hinfo
  cases hu : (r.unit u).get "user" with
  | none => simp [hu] at hinfo
  | some user =>
    cases hpw : (r.unit u).get "password" with
    | none => simp [hu, hpw] at hinfo
    | some password =>
      simp only [hu, hpw, Option.some_inj] at hinfo
      rw [← hinfo]
      exact ⟨rfl, rfl⟩

/-- The names in the URIs of a client relation. -/
theorem database_of_endpointData {database : String} {d : PgBouncerProvider.EndpointData}
    (hdb : r.remote.get "database" = some database)
    (hd : PgBouncerProvider.endpointData o rid r = some d) :
    d.uris.database = database ∧
      ∀ uri, d.readOnlyUris = some uri →
        uri.database = PgBouncerProvider.readonlyDatabase database := by
  unfold PgBouncerProvider.endpointData at hd
  rw [hdb] at hd
  cases hpw : r.app.get "password" with
  | none => simp [hpw] at hd
  | some password =>
    simp only [hpw, Option.some_inj] at hd
    rw [← hd]
    refine ⟨rfl, fun uri huri => ?_⟩
    split_ifs at huri
    rw [← Option.some_inj.mp huri]

/-- A client is given names under which an entry of its database and of its
    kind is written. -/
theorem mem_names_of_published (hname : r.database u = some d.name) (hstar : d.name ≠ "*")
    (hkind : d.legacy = r.endpoint.legacy) {n : String}
    (hn : n ∈ r.publishedNames o listenPort port externalApp u rid) : n ∈ d.names := by
  unfold Relation.publishedNames at hn
  unfold Relation.database at hname
  cases hl : r.endpoint.legacy with
  | true =>
    rw [hl, if_pos rfl] at hn hname
    cases hinfo : DbProvides.connectionInfo o listenPort port externalApp u r with
    | none => simp [hinfo] at hn
    | some info =>
      obtain ⟨hmaster, hstandbys⟩ := dbname_of_connectionInfo hname hinfo
      simp only [hinfo, hmaster, hstandbys, List.mem_cons, List.not_mem_nil, or_false] at hn
      rcases hn with rfl | rfl
      · exact List.mem_cons_self
      · exact standbyDatabase_mem_names hstar (hkind.trans hl)
  | false =>
    rw [hl, if_neg Bool.false_ne_true] at hn hname
    cases hdata : PgBouncerProvider.endpointData o rid r with
    | none => simp [hdata] at hn
    | some data =>
      obtain ⟨huris, hro⟩ := database_of_endpointData hname hdata
      simp only [hdata, huris, List.mem_cons, List.mem_map, Option.mem_toList] at hn
      rcases hn with rfl | ⟨uri, huri, rfl⟩
      · exact List.mem_cons_self
      · rw [hro uri huri]
        exact readonlyDatabase_mem_names hstar

end Published

/-! ## The dictionary -/

section Rendered

variable {iter : List String → List String} {b : BackendData} {databases : Dbs}
  {cfg : Dict String PgbDb}

theorem ne_star_of_mem_names {d : DbEntry} (hstar : d.name ≠ "*") {n : String} (hn : n ∈ d.names) :
    n ≠ "*" := by
  have hsuffix : ∀ t : String, 1 < t.length → d.name ++ t ≠ "*" := by
    intro t ht he
    have hl := congrArg String.length he
    rw [String.length_append] at hl
    have hone : "*".length = 1 := by decide
    omega
  rcases List.mem_cons.mp hn with rfl | hn
  · exact hstar
  · obtain ⟨-, ⟨-, rfl⟩ | ⟨-, -, rfl⟩⟩ := (Emitted.mem_aliases_iff d n).mp hn
    · exact hsuffix _ (by decide)
    · exact hsuffix _ (by decide)

/-- The endpoint is a host and a port where the function does not raise. -/
theorem exists_split_of_relationConfig (hrel : b.related = true) {endpoint : String}
    (hep : b.databag.get "endpoints" = some endpoint) (hne : databases.items ≠ [])
    (hcfg : getRelationConfig iter b databases = some cfg) :
    ∃ host port, Text.split ':' endpoint = [host, port] := by
  unfold getRelationConfig at hcfg
  simp only [hrel, Bool.not_true, Bool.false_or, List.isEmpty_iff, hne, if_false, hep] at hcfg
  split at hcfg
  · exact ⟨_, _, ‹_›⟩
  · cases hcfg

/-- Every name of every database of the map is a key of the dictionary. -/
theorem contains_of_mem_names (hrel : b.related = true) {endpoint : String}
    (hep : b.databag.get "endpoints" = some endpoint)
    (hcfg : getRelationConfig iter b databases = some cfg) {k : String} {d : DbEntry}
    (hd : databases.get? k = some d) (hstar : d.name ≠ "*") {n : String} (hn : n ∈ d.names) :
    cfg.contains n = true := by
  have hmem : d ∈ databases.values := (Dict.mem_values_iff databases d).mpr ⟨k, hd⟩
  have hne : databases.items ≠ [] := Dict.items_ne_nil hd
  obtain ⟨host, port, hsplit⟩ := exists_split_of_relationConfig hrel hep hne hcfg
  rcases List.mem_cons.mp hn with rfl | hn'
  · exact contains_relationConfig hrel hep hsplit hcfg hd hstar
  · obtain ⟨r, rfl⟩ := getRelationConfig_eq hrel hep hsplit hne hcfg
    unfold Dict.contains
    rw [get?_buildConfig_of_ne _ _ _ _ (ne_star_of_mem_names hstar hn)]
    refine (Dict.contains_setAll_empty _ n).mpr
      ⟨⟨r.1, some d.name, r.2, b.authUser, none⟩, List.mem_flatMap.mpr ⟨d, hmem, ?_⟩⟩
    exact (mem_writes_iff _ _ d n _).mpr ⟨hstar, .inr ⟨hn', rfl⟩⟩

/-- Every database name handed to the client of a relation is a key of the
    dictionary, for every map with an entry for that relation. -/
theorem published_mem_relationConfig (hrel : b.related = true) {endpoint : String}
    (hep : b.databag.get "endpoints" = some endpoint)
    (hcfg : getRelationConfig iter b databases = some cfg) {rid : RelId} {r : Relation}
    {u : UnitId} {d : DbEntry} (hd : databases.get? (str rid) = some d) (hstar : d.name ≠ "*")
    (hkind : d.legacy = r.endpoint.legacy) (hname : r.database u = some d.name)
    (o : Offer) (listenPort port : ℕ) (externalApp : String) :
    ∀ n ∈ r.publishedNames o listenPort port externalApp u rid, cfg.contains n = true := by
  intro n hn
  exact contains_of_mem_names hrel hep hcfg hd hstar (mem_names_of_published hname hstar hkind hn)

end Rendered

/-- A legacy relation with the database `app` and complete credentials. -/
def legacyClient : Relation where
  endpoint := .db
  remote := Databag.empty.set "database" "app"
  app := .empty
  unit _ := ((Databag.empty.set "database" "app").set "user" "u").set "password" "pw"
  diffData := .empty

/-- The legacy client of `app` is given `app` and `app_standby`. -/
theorem published_mem_relationConfig_legacyClient :
    ∃ cfg, getRelationConfig id sampleBackend (Dict.empty.set "3" ⟨"app", true, none⟩) = some cfg ∧
      legacyClient.publishedNames plainOffer 6432 6432 "client" 0 3 = ["app", "app_standby"] ∧
      ∀ n ∈ legacyClient.publishedNames plainOffer 6432 6432 "client" 0 3,
        cfg.contains n = true := by
  have hnames : legacyClient.publishedNames plainOffer 6432 6432 "client" 0 3 =
      ["app", "app_standby"] := by decide
  obtain ⟨cfg, hcfg⟩ : ∃ cfg, getRelationConfig id sampleBackend
      (Dict.empty.set "3" ⟨"app", true, none⟩) = some cfg :=
    Option.isSome_iff_exists.mp (by decide)
  have hep : sampleBackend.databag.get "endpoints" = some "h:5432" := by decide
  refine ⟨cfg, hcfg, hnames, ?_⟩
  exact published_mem_relationConfig (b := sampleBackend) (r := legacyClient) (u := 0) rfl hep hcfg
    (d := ⟨"app", true, none⟩) (by decide) (by decide) rfl (by decide) plainOffer 6432 6432 "client"

end PgBouncerK8s
