import PgBouncerK8s.Lib.Lines
import PgBouncerK8s.Routing.SameConfig

/-!
# Names that write configuration

The template writes names as they are. The client chooses the name of its
database, and the SQL statements quote it, but nothing keeps a line break out
of the file.

* `isolated_iff`: when the `[databases]` section is one line for each entry and
  the rest of the file is what it is without databases.
* `settings_injected`: a database name that ends with settings of `[pgbouncer]`.
-/

namespace PgBouncerK8s

namespace Injection

/-! ## Lines of the file -/

/-- The lines of a file that are not blank. -/
def contentLines (text : String) : List (List Char) :=
  Lines.content '\n' Char.isWhitespace text.toList

/-- The names of the `[databases]` section; `none` where rendering raises. -/
def sectionNames (iter : List String → List String) (sh : Shared) (dbs : Dbs) :
    Option (List String) :=
  (getRelationConfig iter sh.backend dbs).bind fun databases =>
    (getReadonlyDbs iter sh.backend sh.readonlyDbs databases).map fun readonlyDatabases =>
      databases.keys ++ readonlyDatabases.keys

/-- The file `text` has one line for each name, behind the header and in front
    of the lines that the file `bare` has behind its header. -/
def Isolated (names : List String) (bare text : String) : Prop :=
  ∃ entries rest, contentLines bare = "[databases]".toList :: rest ∧
    contentLines text = "[databases]".toList :: (entries ++ rest) ∧
    List.Forall₂ (fun name line => (name ++ " = host=").toList <+: line) names entries

/-- A text on one line. -/
def Plain (s : String) : Prop := '\n' ∉ s.toList

instance (s : String) : Decidable (Plain s) := inferInstanceAs (Decidable ('\n' ∉ s.toList))

/-- What PostgreSQL publishes is on one line. -/
structure PlainBackend (b : BackendData) : Prop where
  endpoints : ∀ e, b.databag.get "endpoints" = some e → Plain e
  readOnlyEndpoints : ∀ e, b.databag.get "read-only-endpoints" = some e → Plain e
  authUser : ∀ u, b.authUser = some u → Plain u

/-- The names that are written are on one line: those of the map, the database
    behind the wildcard, and those listed where there are read-only hosts. -/
structure PlainNames (sh : Shared) (dbs : Dbs) : Prop where
  names : ∀ d ∈ dbs.values, Plain d.name
  authDbname : ∀ d a, dbs.get? "*" = some d → d.authDbname = some a → Plain a
  listed : dbs.contains "*" = true → readOnlyHosts sh.backend.readOnlySet ≠ "" →
    ∀ name ∈ sh.readonlyDbs.getD [], Plain name

/-! ## Entries -/

/-- A line of the first loop without its line break. -/
def databaseEntry (p : String × PgbDb) : String :=
  p.1 ++ " = host=" ++ p.2.host ++ " " ++ p.2.target ++ " port=" ++ p.2.port ++
    " auth_user=" ++ p.2.authUser.getD "None"

/-- A line of the second loop without its line break. -/
def readonlyEntry (p : String × PgbDb) : String :=
  p.1 ++ " = host=" ++ p.2.host ++ " dbname=" ++ p.2.dbname.getD "None" ++ " auth_dbname=" ++
    p.2.authDbname.getD "None" ++ " port=" ++ p.2.port ++ " auth_user=" ++
    p.2.authUser.getD "None"

/-- The entries of the section with their names. -/
def sectionEntries (databases readonlyDatabases : Dict String PgbDb) : List (String × String) :=
  databases.items.map (fun p => (p.1, databaseEntry p)) ++
    readonlyDatabases.items.map fun p => (p.1, readonlyEntry p)

theorem map_fst_sectionEntries (databases readonlyDatabases : Dict String PgbDb) :
    (sectionEntries databases readonlyDatabases).map Prod.fst =
      databases.keys ++ readonlyDatabases.keys := by
  simp [sectionEntries, Dict.keys, Function.comp_def]

theorem toList_concat (l : List String) : (concat l).toList = l.flatMap String.toList := by
  induction l with
  | nil => rfl
  | cons s l ih =>
    change (s ++ concat l).toList = _
    rw [String.toList_append, ih, List.flatMap_cons]

theorem databaseLine_eq (p : String × PgbDb) : databaseLine p = databaseEntry p ++ "\n" := rfl

theorem readonlyLine_eq (p : String × PgbDb) : readonlyLine p = readonlyEntry p ++ "\n" := rfl

section File

variable {iter : List String → List String} {sh : Shared} {dbs : Dbs} {authFile : String} {id : ℕ}
  {databases readonlyDatabases : Dict String PgbDb}

/-- The lines of a rendered file. -/
theorem contentLines_render (sh : Shared) (databases readonlyDatabases : Dict String PgbDb)
    (authFile : String) (id : ℕ) :
    contentLines (render sh databases readonlyDatabases authFile id) = "[databases]".toList ::
      ((sectionEntries databases readonlyDatabases).flatMap (fun p => contentLines p.2) ++
        contentLines (pgbouncerSection sh authFile id)) := by
  have htext : (render sh databases readonlyDatabases authFile id).toList =
      "[databases]".toList ++ '\n' ::
        (databases.items.flatMap (fun p => (databaseEntry p).toList ++ ['\n']) ++ ([] ++ '\n' ::
          (readonlyDatabases.items.flatMap (fun p => (readonlyEntry p).toList ++ ['\n']) ++
            (pgbouncerSection sh authFile id).toList))) := by
    simp only [render, String.toList_append, toList_concat, List.flatMap_map, databaseLine_eq,
      readonlyLine_eq]
    rfl
  have hheader : Lines.content '\n' Char.isWhitespace "[databases]".toList =
      ["[databases]".toList] :=
    Lines.content_of_not_mem (by decide) ⟨'[', by decide, by decide⟩
  unfold contentLines
  rw [htext, Lines.content_append, hheader, Lines.content_flatMap, Lines.content_append,
    Lines.content_nil, Lines.content_flatMap, sectionEntries, List.flatMap_append,
    List.flatMap_map, List.flatMap_map]
  simp only [List.singleton_append, List.nil_append, List.append_assoc]

theorem contentLines_bare (sh : Shared) (authFile : String) (id : ℕ) :
    contentLines (render sh .empty .empty authFile id) =
      "[databases]".toList :: contentLines (pgbouncerSection sh authFile id) := by
  have hnone : sectionEntries .empty .empty = [] := rfl
  rw [contentLines_render, hnone, List.flatMap_nil, List.nil_append]

/-- What every entry begins with and ends with. -/
theorem entry_of_mem {user : Option String} (hu : Plain (user.getD "None"))
    (hd : ∀ p ∈ databases.items, p.2.authUser = user)
    (hr : ∀ p ∈ readonlyDatabases.items, p.2.authUser = user) {p : String × String}
    (hp : p ∈ sectionEntries databases readonlyDatabases) :
    Lines.Entry '\n' Char.isWhitespace (p.1 ++ " = host=").toList
      (" auth_user=" ++ user.getD "None").toList p.2.toList := by
  have hstart : Lines.Visible Char.isWhitespace (p.1 ++ " = host=").toList :=
    ⟨'=', by simp [String.toList_append], by decide⟩
  have hstop : Lines.Visible Char.isWhitespace (" auth_user=" ++ user.getD "None").toList :=
    ⟨'=', by simp [String.toList_append], by decide⟩
  have hplain : '\n' ∉ (" auth_user=" ++ user.getD "None").toList := by
    simp only [String.toList_append, List.mem_append, not_or]
    exact ⟨by decide, hu⟩
  rcases List.mem_append.mp hp with hp | hp
  · obtain ⟨q, hq, rfl⟩ := List.mem_map.mp hp
    refine ⟨?_, hstart, ?_, hstop, hplain⟩
    · simp only [databaseEntry, String.toList_append, List.append_assoc]
      exact ⟨_, by simp only [List.append_assoc]; rfl⟩
    · rw [← hd q hq]
      simp only [databaseEntry, String.toList_append]
      exact ⟨_, by simp only [← List.append_assoc]; rfl⟩
  · obtain ⟨q, hq, rfl⟩ := List.mem_map.mp hp
    refine ⟨?_, hstart, ?_, hstop, hplain⟩
    · simp only [readonlyEntry, String.toList_append, List.append_assoc]
      exact ⟨_, by simp only [List.append_assoc]; rfl⟩
    · rw [← hr q hq]
      simp only [readonlyEntry, String.toList_append]
      exact ⟨_, by simp only [← List.append_assoc]; rfl⟩

/-- A rendered file is isolated exactly when its entries are on one line. -/
theorem isolated_render_iff {user : Option String} (hu : Plain (user.getD "None"))
    (hd : ∀ p ∈ databases.items, p.2.authUser = user)
    (hr : ∀ p ∈ readonlyDatabases.items, p.2.authUser = user) :
    Isolated (databases.keys ++ readonlyDatabases.keys) (render sh .empty .empty authFile id)
        (render sh databases readonlyDatabases authFile id) ↔
      ∀ p ∈ sectionEntries databases readonlyDatabases, Plain p.2 := by
  have hlines := Lines.forall₂_content_iff (l := sectionEntries databases readonlyDatabases)
    (by decide) fun _ => entry_of_mem hu hd hr
  unfold Plain
  rw [← hlines, ← map_fst_sectionEntries]
  unfold Isolated
  rw [contentLines_bare, contentLines_render]
  constructor
  · rintro ⟨entries, rest, hbare, htext, hentries⟩
    rw [List.cons_inj_right] at hbare htext
    rw [← hbare, List.append_left_inj] at htext
    rw [← htext, List.forall₂_map_left_iff] at hentries
    exact hentries
  · intro hentries
    exact ⟨_, _, rfl, rfl, List.forall₂_map_left_iff.mpr hentries⟩

/-! ## Texts on one line -/

@[simp] theorem plain_append (s t : String) : Plain (s ++ t) ↔ Plain s ∧ Plain t := by
  simp [Plain, String.toList_append]

theorem plain_split {c : Char} {s t : String} (hs : Plain s) (ht : t ∈ Text.split c s) :
    Plain t := by
  obtain ⟨part, hpart, rfl⟩ := List.mem_map.mp ht
  intro hm
  rw [String.toList_ofList] at hm
  exact hs (Lines.subset_of_mem_splitOn hpart hm)

theorem plain_join {c : Char} {l : List String} (hc : c ≠ '\n') (h : ∀ s ∈ l, Plain s) :
    Plain (Text.join c l) := by
  intro hm
  rw [Text.join, String.toList_ofList] at hm
  rcases Lines.mem_intercalate hm with hm | ⟨part, hpart, hm⟩
  · exact hc (List.mem_singleton.mp hm).symm
  · obtain ⟨s, hs, rfl⟩ := List.mem_map.mp hpart
    exact h s hs hm

theorem plain_readOnlyHosts {l : List String} (h : ∀ e ∈ l, Plain e) : Plain (readOnlyHosts l) := by
  refine plain_join (by decide) fun s hs => ?_
  rw [List.mem_insertionSort, List.mem_map] at hs
  obtain ⟨e, he, rfl⟩ := hs
  cases hsplit : Text.split ':' e with
  | nil => exact absurd hsplit (Text.split_ne_nil ':' e)
  | cons t l => exact plain_split (h e he) (by rw [hsplit]; exact List.mem_cons_self)

theorem plain_portOf {e port : String} (h : Plain e) (hp : portOf e = some port) : Plain port :=
  plain_split h (List.mem_of_getElem? hp)

theorem plain_readOnlySet {b : BackendData} (hb : PlainBackend b) :
    ∀ e ∈ b.readOnlySet, Plain e := by
  intro e he
  unfold BackendData.readOnlySet getReadOnlyEndpoints at he
  cases hget : b.databag.get "read-only-endpoints" with
  | none => simp [hget] at he
  | some endpoints =>
    rw [hget] at he
    exact plain_split (hb.readOnlyEndpoints endpoints hget) (List.mem_dedup.mp he)

theorem plain_authUser {b : BackendData} (hb : PlainBackend b) :
    Plain (b.authUser.getD "None") := by
  cases hu : b.authUser with
  | none => decide
  | some u => exact hb.authUser u hu

/-! ## Which entries are written -/

/-- The hosts and ports are on one line. -/
structure PlainHosts (x : Hosts) (rPort : String) : Prop where
  host : Plain x.host
  port : Plain x.port
  rHosts : Plain x.rHosts
  rPort : Plain rPort
  authUser : Plain (x.authUser.getD "None")

/-- The name in a route is on one line. -/
def PlainRoute : Route → Prop
  | .primary name => Plain name
  | .readOnly name => Plain name
  | .wildcard authDbname => ∀ name, authDbname = some name → Plain name

variable {x : Hosts} {rPort : String}

theorem plain_target_iff (name : String) (d : PgbDb) (hd : d.dbname = some name) :
    Plain d.target ↔ Plain name := by
  unfold PgbDb.target
  rw [hd]
  by_cases hname : name = ""
  · simp only [hname, if_true]
    decide
  · have hdb : Plain "dbname=" := by decide
    simp [hname, hdb]

theorem plain_getD_iff (name : Option String) :
    Plain (name.getD "None") ↔ ∀ n, name = some n → Plain n := by
  cases name with
  | none =>
    have hnone : Plain "None" := by decide
    simp [hnone]
  | some n => simp

theorem plain_databaseEntry_iff (hx : PlainHosts x rPort) (n : String) (route : Route) :
    Plain (databaseEntry (n, route.toDb x rPort)) ↔ Plain n ∧ PlainRoute route := by
  have hliterals : Plain " = host=" ∧ Plain " " ∧ Plain " port=" ∧ Plain " auth_user=" := by decide
  have htarget : Plain (route.toDb x rPort).target ↔ PlainRoute route := by
    cases route with
    | primary name => exact plain_target_iff name _ rfl
    | readOnly name => exact plain_target_iff name _ rfl
    | wildcard authDbname =>
      have hauth : Plain "auth_dbname=" := by decide
      change Plain ("auth_dbname=" ++ authDbname.getD "None") ↔ _
      rw [plain_append, plain_getD_iff, PlainRoute, and_iff_right hauth]
  have hhost : Plain (route.toDb x rPort).host := by
    cases route <;> simp [Route.toDb, hx.host, hx.rHosts]
  have hport : Plain (route.toDb x rPort).port := by
    cases route <;> simp [Route.toDb, hx.port, hx.rPort]
  have huser : Plain ((route.toDb x rPort).authUser.getD "None") := by
    cases route <;> exact hx.authUser
  simp only [databaseEntry, plain_append, htarget, hhost, hport, huser, hliterals, and_true]

theorem plain_readonlyEntry_iff (hx : PlainHosts x rPort) (n name : String)
    (authDbname : Option String) :
    Plain (readonlyEntry (n, readonlyDb x rPort authDbname name)) ↔
      Plain n ∧ Plain name ∧ ∀ a, authDbname = some a → Plain a := by
  have hliterals : Plain " = host=" ∧ Plain " dbname=" ∧ Plain " auth_dbname=" ∧ Plain " port=" ∧
      Plain " auth_user=" := by decide
  rw [← plain_getD_iff]
  simp only [readonlyEntry, readonlyDb, plain_append, hx.rHosts, hx.rPort, hx.authUser, hliterals,
    Option.getD_some, and_true, and_assoc]

theorem mem_routes_cases {n : String} {route : Route} (h : (n, route) ∈ (routes dbs).items) :
    (∃ d ∈ dbs.values, (n, route) ∈ d.routes) ∨
      n = "*" ∧ ∃ d, dbs.get? "*" = some d ∧ route = .wildcard d.authDbname := by
  rw [← Dict.get?_eq_some_iff] at h
  by_cases hn : n = "*"
  · rw [hn, get?_routes_star] at h
    obtain ⟨d, hd, rfl⟩ := Option.map_eq_some_iff.mp h
    exact .inr ⟨hn, d, hd, rfl⟩
  · have hget : (Dict.empty.setAll (dbs.values.flatMap DbEntry.routes)).get? n = some route := by
      unfold routes at h
      cases hstar : dbs.get? "*" with
      | none => simpa only [hstar] using h
      | some d => simpa only [hstar, Dict.get?_set_of_ne _ hn] using h
    exact .inl (List.mem_flatMap.mp (Dict.mem_of_get?_setAll_empty hget))

theorem exists_route_of_mem {d : DbEntry} (hd : d ∈ dbs.values) (hname : d.name ≠ "*") :
    ∃ route, (d.name, route) ∈ (routes dbs).items := by
  have hmem : (d.name, Route.primary d.name) ∈ dbs.values.flatMap DbEntry.routes :=
    List.mem_flatMap.mpr ⟨d, hd, by simp [DbEntry.routes, hname]⟩
  obtain ⟨route, -, hget⟩ := Dict.get?_setAll_of_mem Dict.empty hmem
  refine ⟨route, (Dict.get?_eq_some_iff _ _ _).mp ?_⟩
  unfold routes
  cases dbs.get? "*" with
  | none => exact hget
  | some _ => simpa only [Dict.get?_set_of_ne _ hname] using hget

theorem plain_of_mem_routes {d : DbEntry} (hd : Plain d.name) {p : String × Route}
    (hp : p ∈ d.routes) : Plain p.1 ∧ PlainRoute p.2 := by
  unfold DbEntry.routes at hp
  split_ifs at hp
  · cases hp
  · rcases List.mem_cons.mp hp with rfl | hp
    · exact ⟨hd, hd⟩
    · obtain ⟨n, hn, rfl⟩ := List.mem_map.mp hp
      refine ⟨?_, hd⟩
      have hsuffix : Plain "_readonly" ∧ Plain "_standby" := by decide
      unfold DbEntry.aliases at hn
      split_ifs at hn <;> simp only [List.cons_append, List.nil_append, List.append_nil,
        List.mem_cons, List.not_mem_nil, or_false] at hn
      · rcases hn with rfl | rfl <;> simp [hd, hsuffix]
      · simp [hn, hd, hsuffix]
      · simp [hn, hd, hsuffix]

/-- The routes are on one line exactly when the names of the map are. -/
theorem plain_routes_iff (dbs : Dbs) :
    (∀ p ∈ (routes dbs).items, Plain p.1 ∧ PlainRoute p.2) ↔
      (∀ d ∈ dbs.values, Plain d.name) ∧
        ∀ d a, dbs.get? "*" = some d → d.authDbname = some a → Plain a := by
  constructor
  · refine fun h => ⟨fun d hd => ?_, fun d a hd ha => ?_⟩
    · by_cases hname : d.name = "*"
      · rw [hname]
        decide
      · obtain ⟨route, hroute⟩ := exists_route_of_mem hd hname
        exact (h _ hroute).1
    · have hstar : ("*", Route.wildcard d.authDbname) ∈ (routes dbs).items := by
        rw [← Dict.get?_eq_some_iff, get?_routes_star, hd]
        rfl
      exact (h _ hstar).2 a ha
  · rintro ⟨hnames, hauth⟩ ⟨n, route⟩ hp
    rcases mem_routes_cases hp with ⟨d, hd, hr⟩ | ⟨rfl, d, hd, rfl⟩
    · exact plain_of_mem_routes (hnames d hd) hr
    · exact ⟨show Plain "*" by decide, fun a ha => hauth d a hd ha⟩

theorem plain_readonlyNames_iff (readonlyDbs : Option (List String)) :
    (∀ p ∈ (readonlyNames readonlyDbs).items, Plain p.1 ∧ Plain p.2) ↔
      ∀ name ∈ readonlyDbs.getD [], Plain name := by
  have hsuffix : Plain "_readonly" := by decide
  constructor
  · intro h name hname
    have hmem : (name ++ "_readonly", name) ∈
        (readonlyDbs.getD []).map fun name => (name ++ "_readonly", name) :=
      List.mem_map.mpr ⟨name, hname, rfl⟩
    obtain ⟨v, -, hget⟩ := Dict.get?_setAll_of_mem Dict.empty hmem
    have hplain := (h _ ((Dict.get?_eq_some_iff _ _ _).mp hget)).1
    exact ((plain_append _ _).mp hplain).1
  · rintro h ⟨n, name⟩ hp
    rw [← Dict.get?_eq_some_iff] at hp
    obtain ⟨m, hm, he⟩ := List.mem_map.mp (Dict.mem_of_get?_setAll_empty hp)
    obtain ⟨rfl, rfl⟩ := Prod.mk.inj he
    exact ⟨(plain_append _ _).mpr ⟨h m hm, hsuffix⟩, h m hm⟩

/-! ## The two dictionaries -/

variable {host port : String}

/-- The first dictionary, with the hosts and ports it is filled in with. -/
theorem databases_of_reads (h : Reads sh.backend dbs host port) (hi : IsSetOrder iter)
    (hb : PlainBackend sh.backend) (hcfg : getRelationConfig iter sh.backend dbs = some databases) :
    ∃ x rPort, PlainHosts x rPort ∧ x.authUser = sh.backend.authUser ∧
      databases = (routes dbs).mapValues (Route.toDb x rPort) := by
  obtain ⟨endpoint, hep, hsplit⟩ := h.endpoint
  have hendpoint := hb.endpoints endpoint hep
  have hhost : Plain host := plain_split hendpoint (by rw [hsplit]; exact List.mem_cons_self)
  have hport : Plain port := plain_split hendpoint (by rw [hsplit]; simp)
  have hset : ∀ e ∈ getReadOnlyEndpoints iter sh.backend, Plain e := by
    rw [getReadOnlyEndpoints_eq hi]
    exact fun e he => plain_readOnlySet hb e ((hi _).subset he)
  rw [getRelationConfig_of_reads h, readOnlyHostsPort_eq] at hcfg
  split_ifs at hcfg with hh
  · rw [Option.map_some, Option.some_inj] at hcfg
    exact ⟨_, port, ⟨hhost, hport, hhost, hport, plain_authUser hb⟩, rfl, hcfg.symm⟩
  · rw [Option.map_map] at hcfg
    obtain ⟨rPort, hfirst, rfl⟩ := Option.map_eq_some_iff.mp hcfg
    obtain ⟨e, he, hrPort⟩ := Option.bind_eq_some_iff.mp hfirst
    have hplain : Plain rPort := plain_portOf (hset e (List.mem_of_head? he)) hrPort
    have hrHosts := plain_readOnlyHosts hset
    exact ⟨⟨host, port, _, sh.backend.authUser⟩, rPort,
      ⟨hhost, hport, hrHosts, hplain, plain_authUser hb⟩, rfl, rfl⟩

/-- The second dictionary: empty, or the listed databases on the read-only
    hosts. -/
theorem readonlyDatabases_of_reads (hrel : sh.backend.related = true) (hi : IsSetOrder iter)
    (hb : PlainBackend sh.backend) {star : Option PgbDb} (hstar : databases.get? "*" = star)
    (hro : getReadonlyDbs iter sh.backend sh.readonlyDbs databases = some readonlyDatabases) :
    (star = none ∨ readOnlyHosts sh.backend.readOnlySet = "") ∧ readonlyDatabases = .empty ∨
      ∃ d x rPort, star = some d ∧ readOnlyHosts sh.backend.readOnlySet ≠ "" ∧
        PlainHosts x rPort ∧ x.authUser = sh.backend.authUser ∧ readonlyDatabases =
          (readonlyNames sh.readonlyDbs).mapValues (readonlyDb x rPort d.authDbname) := by
  cases star with
  | none =>
    rw [getReadonlyDbs_of_no_star _ _ _ hstar, Option.some_inj] at hro
    exact .inl ⟨.inl rfl, hro.symm⟩
  | some d =>
    have hset : ∀ e ∈ iter sh.backend.readOnlySet, Plain e :=
      fun e he => plain_readOnlySet hb e ((hi _).subset he)
    rw [getReadonlyDbs_eq hrel iter _ _ hstar, getReadOnlyEndpoints_eq hi,
      readOnlyHosts_perm (hi _)] at hro
    split_ifs at hro with hh
    · exact .inl ⟨.inr hh, (Option.some_inj.mp hro).symm⟩
    · obtain ⟨rPort, hfirst, rfl⟩ := Option.map_eq_some_iff.mp hro
      obtain ⟨e, he, hrPort⟩ := Option.bind_eq_some_iff.mp hfirst
      have hempty : Plain "" := by decide
      have hplain : Plain rPort := plain_portOf (hset e (List.mem_of_head? he)) hrPort
      have hrHosts := plain_readOnlyHosts (plain_readOnlySet hb)
      exact .inr ⟨d, ⟨"", "", _, sh.backend.authUser⟩, rPort, rfl, hh,
        ⟨hempty, hempty, hrHosts, hplain, plain_authUser hb⟩, rfl, rfl⟩

/-! ## Files -/

theorem authUser_of_mem_databases {p : String × PgbDb}
    (hp : p ∈ ((routes dbs).mapValues (Route.toDb x rPort)).items) : p.2.authUser = x.authUser := by
  obtain ⟨⟨n, route⟩, -, rfl⟩ := List.mem_map.mp hp
  cases route <;> rfl

theorem authUser_of_mem_readonly {l : Option (List String)} {authDbname : Option String}
    {p : String × PgbDb}
    (hp : p ∈ ((readonlyNames l).mapValues (readonlyDb x rPort authDbname)).items) :
    p.2.authUser = x.authUser := by
  obtain ⟨q, -, rfl⟩ := List.mem_map.mp hp
  rfl

theorem plain_databases_iff (hx : PlainHosts x rPort) (dbs : Dbs) :
    (∀ p ∈ ((routes dbs).mapValues (Route.toDb x rPort)).items, Plain (databaseEntry p)) ↔
      (∀ d ∈ dbs.values, Plain d.name) ∧
        ∀ d a, dbs.get? "*" = some d → d.authDbname = some a → Plain a := by
  rw [← plain_routes_iff]
  unfold Dict.mapValues
  simp only [List.forall_mem_map, plain_databaseEntry_iff hx]

theorem plain_readonly_iff (hx : PlainHosts x rPort) {authDbname : Option String}
    (hauth : ∀ a, authDbname = some a → Plain a) (l : Option (List String)) :
    (∀ p ∈ ((readonlyNames l).mapValues (readonlyDb x rPort authDbname)).items,
        Plain (readonlyEntry p)) ↔ ∀ name ∈ l.getD [], Plain name := by
  rw [← plain_readonlyNames_iff]
  unfold Dict.mapValues
  simp only [List.forall_mem_map, plain_readonlyEntry_iff hx]
  exact forall₂_congr fun p _ => by rw [and_iff_left hauth]

variable {names : List String} {bare text : String}

theorem isolated_of_reads (h : Reads sh.backend dbs host port) (hi : IsSetOrder iter)
    (hb : PlainBackend sh.backend) (hcfg : getRelationConfig iter sh.backend dbs = some databases)
    (hro : getReadonlyDbs iter sh.backend sh.readonlyDbs databases = some readonlyDatabases) :
    Isolated (databases.keys ++ readonlyDatabases.keys) (render sh .empty .empty authFile id)
        (render sh databases readonlyDatabases authFile id) ↔ PlainNames sh dbs := by
  obtain ⟨x, rPort, hx, hxu, rfl⟩ := databases_of_reads h hi hb hcfg
  have hstar : ((routes dbs).mapValues (Route.toDb x rPort)).get? "*" = _ :=
    get?_star_mapValues _
  have hd : ∀ p ∈ ((routes dbs).mapValues (Route.toDb x rPort)).items,
      p.2.authUser = sh.backend.authUser := fun p hp => (authUser_of_mem_databases hp).trans hxu
  have hsplit : ∀ readonlyDatabases : Dict String PgbDb,
      (∀ p ∈ sectionEntries ((routes dbs).mapValues (Route.toDb x rPort)) readonlyDatabases,
          Plain p.2) ↔
        ((∀ d ∈ dbs.values, Plain d.name) ∧
          ∀ d a, dbs.get? "*" = some d → d.authDbname = some a → Plain a) ∧
        ∀ p ∈ readonlyDatabases.items, Plain (readonlyEntry p) := by
    intro readonlyDatabases
    rw [sectionEntries, List.forall_mem_append, List.forall_mem_map, List.forall_mem_map,
      plain_databases_iff hx]
  rcases readonlyDatabases_of_reads h.related hi hb hstar hro with
    ⟨hnone, rfl⟩ | ⟨d, x', rPort', hget, hh, hx', hxu', rfl⟩
  · rw [isolated_render_iff (plain_authUser hb) hd (by intro p hp; cases hp), hsplit]
    constructor
    · rintro ⟨⟨hnames, hauth⟩, -⟩
      refine ⟨hnames, hauth, fun hcontains hh => ?_⟩
      rcases hnone with hnone | hnone
      · simp [Dict.contains, Option.map_eq_none_iff.mp hnone] at hcontains
      · exact absurd hnone hh
    · exact fun hp => ⟨⟨hp.names, hp.authDbname⟩, by intro p hp; cases hp⟩
  · obtain ⟨e, he, rfl⟩ := Option.map_eq_some_iff.mp hget
    have hcontains : dbs.contains "*" = true := by simp [Dict.contains, he]
    rw [isolated_render_iff (plain_authUser hb) hd
      (fun p hp => (authUser_of_mem_readonly hp).trans hxu'), hsplit]
    constructor
    · rintro ⟨⟨hnames, hauth⟩, hro⟩
      exact ⟨hnames, hauth, fun _ _ =>
        (plain_readonly_iff hx' (fun a ha => hauth e a he ha) _).mp hro⟩
    · intro hp
      exact ⟨⟨hp.names, hp.authDbname⟩, (plain_readonly_iff hx'
        (fun a ha => hp.authDbname e a he ha) _).mpr (hp.listed hcontains hh)⟩

theorem sectionNames_eq (hcfg : getRelationConfig iter sh.backend dbs = some databases)
    (hro : getReadonlyDbs iter sh.backend sh.readonlyDbs databases = some readonlyDatabases) :
    sectionNames iter sh dbs = some (databases.keys ++ readonlyDatabases.keys) := by
  rw [sectionNames, hcfg, Option.bind_some, hro, Option.map_some]

theorem ini_eq (hcfg : getRelationConfig iter sh.backend dbs = some databases)
    (hro : getReadonlyDbs iter sh.backend sh.readonlyDbs databases = some readonlyDatabases) :
    ini iter sh dbs authFile id = some (render sh databases readonlyDatabases authFile id) := by
  rw [ini, hcfg, Option.bind_some, hro, Option.map_some]

/-- A file is isolated exactly when nothing is rendered for the databases or
    the names that are rendered are on one line. -/
theorem isolated_iff (hi : IsSetOrder iter) (hb : PlainBackend sh.backend)
    (hnames : sectionNames iter sh dbs = some names)
    (hbare : ini iter sh .empty authFile id = some bare)
    (htext : ini iter sh dbs authFile id = some text) :
    Isolated names bare text ↔ Unused sh.backend dbs ∨ PlainNames sh dbs := by
  rw [ini_of_unused (.inr (.inl rfl)), Option.some_inj] at hbare
  obtain ⟨databases, hcfg, hnames⟩ := Option.bind_eq_some_iff.mp hnames
  obtain ⟨readonlyDatabases, hro, rfl⟩ := Option.map_eq_some_iff.mp hnames
  have hrender : ini iter sh dbs authFile id = _ := ini_eq hcfg hro
  rw [hrender, Option.some_inj] at htext
  subst hbare htext
  by_cases hu : Unused sh.backend dbs
  · obtain ⟨rfl, rfl⟩ := sections_of_unused hu hcfg hro
    refine iff_of_true ((isolated_render_iff (plain_authUser hb) ?_ ?_).mpr ?_) (.inl hu)
    all_goals intro p hp; cases hp
  · obtain ⟨host, port, h⟩ := reads_of_relationConfig hu hcfg
    rw [isolated_of_reads h hi hb hcfg hro, or_iff_right hu]

end File

/-! ## Two maps -/

/-- A client relation that asks for this database. -/
def asking (database : String) : Dbs := Dict.empty.set "1" ⟨database, false, none⟩

theorem plainBackend_sample : PlainBackend sampleBackend where
  endpoints e he := by
    obtain rfl : "h:5432" = e := Option.some_inj.mp he
    decide
  readOnlyEndpoints e he := by cases he
  authUser u hu := by
    obtain rfl : "pgbouncer" = u := Option.some_inj.mp hu
    decide

theorem reads_asking (database : String) :
    Reads (sampleShared sampleBackend).backend (asking database) "h" "5432" :=
  ⟨rfl, by simp [asking, Dict.set, Dict.empty, Dict.setItems], "h:5432", rfl, by decide⟩

/-- A name with line breaks: behind it there is a section header and a setting
    of `[pgbouncer]`. -/
def injectedName : String :=
  "a = host=h\n[pgbouncer]\nauth_type = any\n[databases]\nb"

theorem no_star_asking {database : String} {databases : Dict String PgbDb}
    (hcfg : getRelationConfig id sampleBackend (asking database) = some databases) :
    databases.get? "*" = none := by
  obtain ⟨x, rPort, -, -, rfl⟩ :=
    databases_of_reads (reads_asking database) isSetOrder_id plainBackend_sample hcfg
  rw [get?_star_mapValues]
  rfl

/-- The setting is a line of its own. -/
theorem settings_injected :
    ∃ names bare text,
      sectionNames id (sampleShared sampleBackend) (asking injectedName) = some names ∧
      ini id (sampleShared sampleBackend) .empty "auth" 0 = some bare ∧
      ini id (sampleShared sampleBackend) (asking injectedName) "auth" 0 = some text ∧
      "auth_type = any".toList ∈ contentLines text ∧ ¬ Isolated names bare text := by
  have hentries : (getRelationConfig id sampleBackend (asking injectedName)).any (fun databases =>
      (sectionEntries databases .empty).any fun p =>
        decide ("auth_type = any".toList ∈ contentLines p.2)) = true := by decide +kernel
  obtain ⟨databases, hcfg, hline⟩ := (Option.any_eq_true _ _).mp hentries
  obtain ⟨p, hp, hline⟩ := List.any_eq_true.mp hline
  have hro := getReadonlyDbs_of_no_star id sampleBackend none (no_star_asking hcfg)
  refine ⟨_, _, _, sectionNames_eq hcfg hro, ini_of_unused (.inr (.inl rfl)) id "auth" 0,
    ini_eq hcfg hro, ?_, ?_⟩
  · rw [contentLines_render]
    exact List.mem_cons_of_mem _ (List.mem_append_left _
      (List.mem_flatMap.mpr ⟨p, hp, of_decide_eq_true hline⟩))
  · rw [isolated_of_reads (reads_asking injectedName) isSetOrder_id plainBackend_sample hcfg hro]
    intro hplain
    exact absurd (hplain.names ⟨injectedName, false, none⟩ (by decide)) (by decide)

/-- A name on one line. -/
theorem isolated_asking :
    ∃ names bare text,
      sectionNames id (sampleShared sampleBackend) (asking "app") = some names ∧
      ini id (sampleShared sampleBackend) .empty "auth" 0 = some bare ∧
      ini id (sampleShared sampleBackend) (asking "app") "auth" 0 = some text ∧
      Isolated names bare text := by
  obtain ⟨databases, hcfg⟩ : ∃ databases,
      getRelationConfig id sampleBackend (asking "app") = some databases :=
    Option.isSome_iff_exists.mp (by decide)
  have hro := getReadonlyDbs_of_no_star id sampleBackend none (no_star_asking hcfg)
  have hnames : sectionNames id (sampleShared sampleBackend) (asking "app") = some _ :=
    sectionNames_eq hcfg hro
  have hbare : ini id (sampleShared sampleBackend) .empty "auth" 0 = some _ :=
    ini_of_unused (.inr (.inl rfl)) id "auth" 0
  have htext : ini id (sampleShared sampleBackend) (asking "app") "auth" 0 = some _ :=
    ini_eq hcfg hro
  have hplain : PlainNames (sampleShared sampleBackend) (asking "app") := by
    refine ⟨by decide, fun d a hd => ?_, fun h => ?_⟩
    · cases hd
    · cases h
  exact ⟨_, _, _, hnames, hbare, htext,
    (isolated_iff isSetOrder_id plainBackend_sample hnames hbare htext).mpr (.inr hplain)⟩

end Injection

end PgBouncerK8s
