import Mathlib.Data.List.Infix
import PgBouncerK8s.Lib.Template
import PgBouncerK8s.Model.CharmConfig
import PgBouncerK8s.Routing.Config

/-!
# Rendering `pgbouncer.ini`

Models of `_get_readonly_dbs` and of the files `render_pgb_config` pushes
(`charm.py`, lines 467–488 and 1011–1079), with the text of
`templates/pgb_config.j2`. Jinja writes `None` for a value that is `None`,
nothing for an attribute that is missing, and drops the line break behind a tag
that ends with a minus sign.

The dictionary of `_get_relation_config` is seen as a dictionary of routes
that is filled in with hosts and ports, and the file as a template with the
read-only port in its holes.

* `relationConfig_routes`: the routes do not depend on hosts and ports.
* `ini_of_reads`: the port of the endpoint that the set yields first is all a
  file depends on beyond the data the units share.
-/

namespace PgBouncerK8s

open Text (str)

/-! ## Model -/

/-- `_get_readonly_dbs` (`charm.py`, lines 467–488); `none` where
    `r_host.split(":")[1]` raises `IndexError`. -/
def getReadonlyDbs (iter : List String → List String) (b : BackendData)
    (readonlyDbs : Option (List String)) (databases : Dict String PgbDb) :
    Option (Dict String PgbDb) :=
  match b.related, databases.get? "*" with
  | true, some star =>
    let readOnlyEndpoints := getReadOnlyEndpoints iter b
    let sortedRhosts :=
      (readOnlyEndpoints.map fun rHost => (Text.split ':' rHost).headD "").insertionSort (· ≤ ·)
    let rHosts := Text.join ',' sortedRhosts
    if rHosts ≠ "" then
      match readOnlyEndpoints with
      | [] => some .empty
      | rHost :: _ =>
        (Text.split ':' rHost)[1]?.map fun rPort =>
          Dict.empty.setAll ((readonlyDbs.getD []).map fun name =>
            (name ++ "_readonly", ⟨rHosts, some name, rPort, b.authUser, star.authDbname⟩))
    else some .empty
  | _, _ => some .empty

/-- What all units of the application see: the databags and secrets, the charm
    configuration, the number of processors and whether there are TLS files. -/
structure Shared where
  appName : String
  backend : BackendData
  userlist : Option String
  readonlyDbs : Option (List String)
  config : CharmConfig
  cpuCount : ℕ
  enableTls : Bool

namespace Shared

variable (sh : Shared)

/-- `_cores` (`charm.py`, line 162). -/
def cores : ℕ := max (min sh.cpuCount 4) 2

/-- `stats_user` (`backend_database.py`, lines 177–182). -/
def statsUser : String :=
  if sh.backend.related then Text.replace '-' '_' ("pgbouncer_stats_" ++ sh.appName) else ""

/-- `admin_user` (`backend_database.py`, lines 184–189). -/
def adminUser : String :=
  if sh.backend.related then Text.replace '-' '_' ("pgbouncer_admin_" ++ sh.appName) else ""

/-- `auth_query` (`backend_database.py`, lines 191–197). -/
def authQuery : String :=
  if sh.backend.related then
    "SELECT username, password FROM " ++ sh.backend.authUser.getD "None" ++ ".get_auth($1)"
  else ""

/-- `auth_type` (`charm.py`, lines 1032–1035). -/
def authType : String :=
  if ("\"" ++ sh.statsUser ++ "\" \"md5").toList <:+: (sh.userlist.getD "").toList then "md5"
  else "scram-sha-256"

/-- `default_pool_size`, `min_pool_size` and `reserve_pool_size` (`charm.py`,
    lines 1037–1046); Python divides floating-point numbers, which is exact
    enough for counts below `2^53`. -/
def poolSizes : ℕ × ℕ × ℕ :=
  let ceilDiv (n : ℕ) := (sh.config.maxDbConnections + (n * sh.cores - 1)) / (n * sh.cores)
  if sh.config.maxDbConnections = 0 then (20, 10, 10) else (ceilDiv 2, ceilDiv 4, ceilDiv 4)

end Shared

/-- The texts one after the other. -/
def concat (l : List String) : String := l.foldr (· ++ ·) ""

/-- `dbname=…` or, where there is no name, `auth_dbname=…`. -/
def PgbDb.target (d : PgbDb) : String :=
  match d.dbname with
  | some name => if name = "" then "auth_dbname=" else "dbname=" ++ name
  | none => "auth_dbname=" ++ d.authDbname.getD "None"

/-- A line of the first loop of `[databases]` (`pgb_config.j2`, line 3). -/
def databaseLine (p : String × PgbDb) : String :=
  p.1 ++ " = host=" ++ p.2.host ++ " " ++ p.2.target ++ " port=" ++ p.2.port ++
    " auth_user=" ++ p.2.authUser.getD "None" ++ "\n"

/-- A line of the second loop of `[databases]` (`pgb_config.j2`, line 6). -/
def readonlyLine (p : String × PgbDb) : String :=
  p.1 ++ " = host=" ++ p.2.host ++ " dbname=" ++ p.2.dbname.getD "None" ++ " auth_dbname=" ++
    p.2.authDbname.getD "None" ++ " port=" ++ p.2.port ++ " auth_user=" ++
    p.2.authUser.getD "None" ++ "\n"

/-- A line of `[peers]` (`pgb_config.j2`, line 11); `base_socket_dir` is not
    passed. -/
def peerLine (listenPort peer : ℕ) : String :=
  str (peer + 1) ++ " = host=" ++ str peer ++ " port=" ++ str listenPort ++ "\n"

/-- The template from `[peers]` on, for the instance `id`. -/
def pgbouncerSection (sh : Shared) (authFile : String) (id : ℕ) : String :=
  "\n\n[peers]\n" ++ concat ((List.range sh.cores).map (peerLine sh.config.listenPort)) ++
  "\n\n[pgbouncer]\n" ++
  "peer_id = " ++ str (id + 1) ++ "\nlisten_addr = *\n" ++
  "listen_port = " ++ str sh.config.listenPort ++
  "\nlogfile = /var/log/pgbouncer/instance_" ++ str id ++ "/pgbouncer.log" ++
  "\npidfile = /var/lib/pgbouncer/instance_" ++ str id ++ "/pgbouncer.pid" ++
  "\nadmin_users = " ++ sh.adminUser ++ "\nstats_users = " ++ sh.statsUser ++
  "\nauth_type = " ++ sh.authType ++
  "\nuser = postgres\nmax_client_conn = 10000\n" ++
  "ignore_startup_parameters = extra_float_digits,options\n" ++
  "server_tls_sslmode = prefer\nso_reuseport = 1\n" ++
  "unix_socket_dir = /var/lib/pgbouncer/instance_" ++ str id ++
  "\npool_mode = " ++ sh.config.poolMode ++
  "\nmax_db_connections = " ++ str sh.config.maxDbConnections ++
  "\nmax_prepared_statements = " ++ str sh.config.maxPreparedStatements ++
  "\ndefault_pool_size = " ++ str sh.poolSizes.1 ++
  "\nmin_pool_size = " ++ str sh.poolSizes.2.1 ++
  "\nreserve_pool_size = " ++ str sh.poolSizes.2.2 ++
  "\nauth_query = " ++ sh.authQuery ++ "\nauth_file = " ++ authFile ++ "\n" ++
  (if sh.enableTls then
    "\nclient_tls_key_file = /var/lib/pgbouncer/key.pem" ++
    "\nclient_tls_ca_file = /var/lib/pgbouncer/ca.pem" ++
    "\nclient_tls_cert_file = /var/lib/pgbouncer/cert.pem" ++
    "\nclient_tls_sslmode = prefer\n"
  else "") ++
  "\nserver_reset_query = DISCARD ALL; LOAD 'login_hook';\nserver_reset_query_always = 1"

/-- `template.render` for the instance `id`. -/
def render (sh : Shared) (databases readonlyDatabases : Dict String PgbDb) (authFile : String)
    (id : ℕ) : String :=
  "[databases]\n" ++ (concat (databases.items.map databaseLine) ++ ("\n" ++
    (concat (readonlyDatabases.items.map readonlyLine) ++ pgbouncerSection sh authFile id)))

/-- The file of the instance `id` on a unit that reads the map `dbs` and
    iterates sets in the order `iter`; `none` where rendering raises. -/
def ini (iter : List String → List String) (sh : Shared) (dbs : Dbs) (authFile : String)
    (id : ℕ) : Option String :=
  (getRelationConfig iter sh.backend dbs).bind fun databases =>
    (getReadonlyDbs iter sh.backend sh.readonlyDbs databases).map fun readonlyDatabases =>
      render sh databases readonlyDatabases authFile id

/-- The files `render_pgb_config` pushes (`charm.py`, lines 1047–1079), for a
    container that can be reached. -/
def renderPgbConfig (iter : List String → List String) (sh : Shared) (dbs : Dbs)
    (authFile : String) : List (String × Option String) :=
  (List.range sh.cores).map fun id =>
    ("/var/lib/pgbouncer/instance_" ++ str id ++ "/pgbouncer.ini", ini iter sh dbs authFile id)

/-! ## Routes -/

/-- What a key of the dictionary stands for: a database on the primary, a
    database on the read-only hosts, or the wildcard. -/
inductive Route
  | primary (name : String)
  | readOnly (name : String)
  | wildcard (authDbname : Option String)
  deriving DecidableEq

/-- The hosts and ports the routes are filled in with. -/
structure Hosts where
  host : String
  port : String
  rHosts : String
  authUser : Option String

/-- The value of the dictionary for a route, with the read-only port `rPort`. -/
def Route.toDb (x : Hosts) (rPort : String) : Route → PgbDb
  | .primary name => ⟨x.host, some name, x.port, x.authUser, none⟩
  | .readOnly name => ⟨x.rHosts, some name, rPort, x.authUser, none⟩
  | .wildcard authDbname => ⟨x.host, none, x.port, x.authUser, authDbname⟩

/-- The writes of one database, as routes. -/
def DbEntry.routes (d : DbEntry) : List (String × Route) :=
  if d.name = "*" then []
  else (d.name, .primary d.name) :: d.aliases.map fun n => (n, .readOnly d.name)

/-- The dictionary as routes. -/
def routes (databases : Dbs) : Dict String Route :=
  let routes := Dict.empty.setAll (databases.values.flatMap DbEntry.routes)
  match databases.get? "*" with
  | some d => routes.set "*" (.wildcard d.authDbname)
  | none => routes

theorem writes_eq_routes (f : Route → PgbDb) (d : DbEntry) :
    d.writes (fun n => f (.primary n)) (fun n => f (.readOnly n)) =
      d.routes.map fun p => (p.1, f p.2) := by
  unfold DbEntry.writes DbEntry.routes
  split_ifs
  · rfl
  · simp

/-- The dictionary is that of the routes, whatever they are filled in with. -/
theorem buildConfig_eq_routes (f : Route → PgbDb) (databases : Dbs) :
    buildConfig (fun n => f (.primary n)) (fun n => f (.readOnly n)) (fun a => f (.wildcard a))
      databases = (routes databases).mapValues f := by
  have hfold : databases.values.foldl
      (configStep (fun n => f (.primary n)) fun n => f (.readOnly n)) .empty =
      (Dict.empty.setAll (databases.values.flatMap DbEntry.routes)).mapValues f := by
    rw [foldl_configStep, Dict.mapValues_setAll, List.map_flatMap]
    congr 1
    exact List.flatMap_congr fun d _ => writes_eq_routes f d
  unfold buildConfig routes
  cases databases.get? "*" with
  | none => exact hfold
  | some d => rw [hfold, Dict.mapValues_set]

/-! ## Which keys lead to the read-only hosts -/

variable {dbs : Dbs}

theorem ne_star_of_mem_aliases {d : DbEntry} {n : String} (h : n ∈ d.aliases) : n ≠ "*" := by
  rintro rfl
  unfold DbEntry.aliases at h
  have hlen : ∀ t : String, 1 < t.length → "*" ≠ d.name ++ t := by
    intro t ht he
    have hl := congrArg String.length he
    have hone : "*".length = 1 := by decide
    rw [String.length_append] at hl
    omega
  have hr := hlen "_readonly" (by decide)
  have hs := hlen "_standby" (by decide)
  split_ifs at h <;> simp [hr, hs] at h

theorem ne_star_of_mem_routes {d : DbEntry} {p : String × Route} (h : p ∈ d.routes) :
    p.1 ≠ "*" := by
  unfold DbEntry.routes at h
  split_ifs at h with hd
  · cases h
  · rcases List.mem_cons.mp h with rfl | h
    · exact hd
    · obtain ⟨n, hn, rfl⟩ := List.mem_map.mp h
      exact ne_star_of_mem_aliases hn

theorem get?_routes_star : (routes dbs).get? "*" =
    (dbs.get? "*").map fun d => .wildcard d.authDbname := by
  unfold routes
  cases dbs.get? "*" with
  | some d => exact Dict.get?_set_self _ _ _
  | none =>
    refine Dict.get?_setAll_of_not_mem _ fun p hp => ?_
    obtain ⟨d, -, hd⟩ := List.mem_flatMap.mp hp
    exact ne_star_of_mem_routes hd

theorem get?_routes_of_ne (dbs : Dbs) {n : String} (hn : n ≠ "*") (f : Route → PgbDb) :
    ((routes dbs).get? n).map f = (Dict.empty.setAll (dbs.values.flatMap
      (DbEntry.writes (fun n => f (.primary n)) fun n => f (.readOnly n)))).get? n := by
  rw [← Dict.get?_mapValues, ← buildConfig_eq_routes, get?_buildConfig_of_ne _ _ _ _ hn]

/-- Some key leads to the read-only hosts exactly when some database shadows a
    name. -/
theorem exists_readOnly_iff :
    (∃ n name, (routes dbs).get? n = some (.readOnly name)) ↔ ∃ n, Shadowed dbs.values n := by
  -- a filling in which the port tells the two kinds of routes apart
  have hport : ∀ (route : Route) (name : String), route.toDb ⟨"", "", "", none⟩ "r" =
      Route.toDb ⟨"", "", "", none⟩ "r" (.readOnly name) → route = .readOnly name := by
    rintro (m | m | m) name he
    · simp [Route.toDb] at he
    · simpa [Route.toDb] using he
    · simp [Route.toDb] at he
  constructor
  · rintro ⟨n, name, hget⟩
    have hn : n ≠ "*" := by
      rintro rfl
      rw [get?_routes_star] at hget
      simp at hget
    by_contra hs
    have hshadow : ¬ Shadowed dbs.values n := fun h => hs ⟨n, h⟩
    have hmap := get?_routes_of_ne dbs hn (Route.toDb ⟨"", "", "", none⟩ "r")
    rw [hget, Option.map_some] at hmap
    by_cases hd : ∃ d ∈ dbs.values, d.name = n
    · rw [get?_of_not_shadowed hshadow hn hd, Option.some_inj] at hmap
      have hne := hport _ _ hmap.symm
      cases hne
    · obtain ⟨p, hp, hw⟩ : ∃ d ∈ dbs.values, n ∈ d.aliases := by
        by_contra hno
        rw [Dict.get?_setAll_of_not_mem] at hmap
        · cases hmap
        · rintro ⟨k, v⟩ hmem rfl
          obtain ⟨d, hdmem, hw⟩ := List.mem_flatMap.mp hmem
          obtain ⟨-, ⟨hname, -⟩ | ⟨hal, -⟩⟩ := (mem_writes_iff _ _ d k v).mp hw
          · exact hd ⟨d, hdmem, hname.symm⟩
          · exact hno ⟨d, hdmem, hal⟩
      obtain ⟨pre, d, post, hl, hal, -⟩ := exists_last (q := fun d => n ∈ d.aliases) ⟨p, hp, hw⟩
      refine hshadow ⟨pre, d, post, hl, hal, fun e he hname => hd ⟨e, ?_, hname⟩⟩
      rw [hl]
      simp [he]
  · rintro ⟨n, hs⟩
    obtain ⟨pre, e, post, hl, hal, -⟩ := id hs
    have hshadow : ∃ d : DbEntry, d.name ≠ n ∧ ((routes dbs).get? n).map
        (Route.toDb ⟨"", "", "", none⟩ "r") =
          some (Route.toDb ⟨"", "", "", none⟩ "r" (.readOnly d.name)) := by
      rw [get?_routes_of_ne dbs (ne_star_of_mem_aliases hal)]
      exact get?_of_shadowed hs
    obtain ⟨d, -, hget⟩ := hshadow
    obtain ⟨route, hroute, he⟩ := Option.map_eq_some_iff.mp hget
    exact ⟨n, d.name, by rw [hroute, hport _ _ he]⟩

/-- No key exactly when every database is named `*` and there is no wildcard. -/
theorem routes_eq_empty_iff :
    (routes dbs).items = [] ↔ (∀ d ∈ dbs.values, d.name = "*") ∧ dbs.get? "*" = none := by
  rw [Dict.items_eq_nil_iff]
  constructor
  · intro h
    have hstar : dbs.get? "*" = none := by
      have hs := h "*"
      rw [get?_routes_star] at hs
      simpa using hs
    refine ⟨fun d hd => ?_, hstar⟩
    by_contra hname
    have hmem : (d.name, Route.primary d.name) ∈ dbs.values.flatMap DbEntry.routes := by
      rw [List.mem_flatMap]
      refine ⟨d, hd, ?_⟩
      simp [DbEntry.routes, hname]
    obtain ⟨v, -, hv⟩ := Dict.get?_setAll_of_mem Dict.empty hmem
    have hnone := h d.name
    unfold routes at hnone
    simp only [hstar] at hnone
    rw [hv] at hnone
    cases hnone
  · rintro ⟨hall, hstar⟩ k
    unfold routes
    simp only [hstar]
    refine Dict.get?_setAll_of_not_mem _ fun p hp => ?_
    obtain ⟨d, hd, hp⟩ := List.mem_flatMap.mp hp
    simp [DbEntry.routes, hall d hd] at hp

/-! ## The file as a template -/

section Template

variable (sh : Shared) (x : Hosts) (rPort : String)

/-- A line of the first loop, with the read-only port as a hole. -/
def routeLine (p : String × Route) : Template :=
  match p.2 with
  | .readOnly name =>
    [some (p.1 ++ " = host=" ++ x.rHosts ++ " " ++
      (if name = "" then "auth_dbname=" else "dbname=" ++ name) ++ " port="), none,
      some (" auth_user=" ++ x.authUser.getD "None" ++ "\n")]
  | route => [some (databaseLine (p.1, route.toDb x ""))]

theorem fill_routeLine (p : String × Route) :
    (routeLine x p).fill rPort = databaseLine (p.1, p.2.toDb x rPort) := by
  obtain ⟨n, m | m | m⟩ := p
  · simp [routeLine, Route.toDb]
  · simp [routeLine, Route.toDb, databaseLine, PgbDb.target, String.append_assoc]
  · simp [routeLine, Route.toDb]

/-- The databases of `_get_readonly_dbs`, under their names in the file. -/
def readonlyNames (readonlyDbs : Option (List String)) : Dict String String :=
  Dict.empty.setAll ((readonlyDbs.getD []).map fun name => (name ++ "_readonly", name))

/-- The entry of `_get_readonly_dbs` for a database. -/
def readonlyDb (authDbname : Option String) (name : String) : PgbDb :=
  ⟨x.rHosts, some name, rPort, x.authUser, authDbname⟩

/-- A line of the second loop, with the read-only port as a hole. -/
def readonlyLineTemplate (authDbname : Option String) (p : String × String) : Template :=
  [some (p.1 ++ " = host=" ++ x.rHosts ++ " dbname=" ++ p.2 ++ " auth_dbname=" ++
    authDbname.getD "None" ++ " port="), none,
    some (" auth_user=" ++ x.authUser.getD "None" ++ "\n")]

theorem fill_readonlyLineTemplate (authDbname : Option String) (p : String × String) :
    (readonlyLineTemplate x authDbname p).fill rPort =
      readonlyLine (p.1, readonlyDb x rPort authDbname p.2) := by
  simp [readonlyLineTemplate, readonlyLine, readonlyDb, String.append_assoc]

/-- The second loop. -/
def readonlyTemplate (readonlyDbs : Option (List String)) (dbs : Dbs) : Template :=
  match dbs.get? "*" with
  | some d => ((readonlyNames readonlyDbs).items.map (readonlyLineTemplate x d.authDbname)).flatten
  | none => []

/-- The file around a second loop. -/
def iniTemplate (dbs : Dbs) (readonly : Template) (authFile : String) (id : ℕ) : Template :=
  some "[databases]\n" :: (((routes dbs).items.map (routeLine x)).flatten ++
    (some "\n" :: (readonly ++ [some (pgbouncerSection sh authFile id)])))

theorem concat_lines {α β : Type} (t : α → Template) (g : α → β) (line : β → String)
    (h : ∀ a, (t a).fill rPort = line (g a)) (l : List α) :
    Template.fill rPort (l.map t).flatten = concat ((l.map g).map line) := by
  rw [Template.fill_flatten, concat, List.map_map, List.map_map]
  congr 1
  exact List.map_congr_left fun a _ => h a

/-- The rendered file is the template with the port filled in. -/
theorem render_eq_fill (dbs : Dbs) (readonly : Dict String PgbDb) (t : Template)
    (ht : t.fill rPort = concat (readonly.items.map readonlyLine)) (authFile : String) (id : ℕ) :
    render sh ((routes dbs).mapValues (Route.toDb x rPort)) readonly authFile id =
      (iniTemplate sh x dbs t authFile id).fill rPort := by
  have hfirst := concat_lines rPort (routeLine x)
    (fun p : String × Route => (p.1, p.2.toDb x rPort)) databaseLine
    (fill_routeLine x rPort) (routes dbs).items
  unfold render iniTemplate
  simp only [Template.fill_cons, Template.fill_append, Template.fill_nil, Option.getD_some,
    hfirst, ht, String.append_empty]
  rfl

theorem fill_readonlyTemplate (readonlyDbs : Option (List String)) {dbs : Dbs} {d : DbEntry}
    (hd : dbs.get? "*" = some d) :
    (readonlyTemplate x readonlyDbs dbs).fill rPort = concat
      (((readonlyNames readonlyDbs).mapValues (readonlyDb x rPort d.authDbname)).items.map
        readonlyLine) := by
  unfold readonlyTemplate
  rw [hd]
  exact concat_lines rPort (readonlyLineTemplate x d.authDbname)
    (fun p : String × String => (p.1, readonlyDb x rPort d.authDbname p.2)) readonlyLine
    (fill_readonlyLineTemplate x rPort d.authDbname) (readonlyNames readonlyDbs).items

end Template

end PgBouncerK8s
