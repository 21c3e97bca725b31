import Mathlib.Data.List.Dedup
import PgBouncerK8s.Routing.Render

/-!
# The same configuration on every unit

Two units of the application render from the same databags, secrets and
options. What differs is the order in which they iterate a set, and the map
they read where the peer databag has only the old `cfg_file`: the leader does
not read that.

* `ini_of_reads`: the port of the endpoint that the set yields first is all
  the iteration order decides.
* `sameFiles_iff`: when the order of the set does not show.
* `sameIni_iff`: when all units render the same files.
-/

namespace PgBouncerK8s

open Text (str)

/-! ## The read-only endpoints -/

/-- An order in which sets are iterated. -/
def IsSetOrder (iter : List String → List String) : Prop := ∀ l, (iter l).Perm l

/-- `get_read_only_endpoints`, as an unordered set. -/
def BackendData.readOnlySet (b : BackendData) : List String := getReadOnlyEndpoints id b

/-- `r_host.split(":")[1]`. -/
def portOf (rHost : String) : Option String := (Text.split ':' rHost)[1]?

/-- `r_hosts`. -/
def readOnlyHosts (readOnlyEndpoints : List String) : String :=
  Text.join ',' ((readOnlyEndpoints.map fun rHost =>
    (Text.split ':' rHost).headD "").insertionSort (· ≤ ·))

variable {iter iter' : List String → List String} {b : BackendData} {l l' : List String}

theorem getReadOnlyEndpoints_eq (hi : IsSetOrder iter) (b : BackendData) :
    getReadOnlyEndpoints iter b = iter b.readOnlySet := by
  unfold BackendData.readOnlySet getReadOnlyEndpoints
  cases b.databag.get "read-only-endpoints" with
  | none => exact (List.Perm.eq_nil (hi [])).symm
  | some eps => rfl

/-- The hosts are sorted, so their order in the set does not matter. -/
theorem readOnlyHosts_perm (h : l.Perm l') : readOnlyHosts l = readOnlyHosts l' := by
  unfold readOnlyHosts
  congr 1
  apply List.Perm.eq_of_pairwise' (r := (· ≤ ·))
  · exact List.pairwise_insertionSort _ _
  · exact List.pairwise_insertionSort _ _
  · exact (List.perm_insertionSort _ _).trans
      ((h.map _).trans (List.perm_insertionSort _ _).symm)

theorem readOnlyHosts_nil : readOnlyHosts [] = "" := rfl

/-- Two endpoints give a text that is not empty. -/
theorem readOnlyHosts_ne {l : List String} (h : 2 ≤ l.length) : readOnlyHosts l ≠ "" := by
  unfold readOnlyHosts
  have hlen : (l.map fun rHost => (Text.split ':' rHost).headD "").length =
      ((l.map fun rHost => (Text.split ':' rHost).headD "").insertionSort (· ≤ ·)).length :=
    (List.length_insertionSort _ _).symm
  rw [List.length_map] at hlen
  generalize (l.map fun rHost => (Text.split ':' rHost).headD "").insertionSort (· ≤ ·) = hosts
    at hlen
  match hosts, hlen with
  | [], hlen => simp only [List.length_nil] at hlen; omega
  | [_], hlen => simp only [List.length_cons, List.length_nil] at hlen; omega
  | a :: c :: hosts, _ =>
    intro he
    have hl := congrArg (fun s => s.toList) he
    simp [Text.join, List.intercalate] at hl

/-- `readOnlyHostsPort`, by the first endpoint. -/
theorem readOnlyHostsPort_eq (l : List String) (host port : String) :
    readOnlyHostsPort l host port =
      if readOnlyHosts l = "" then some (host, port)
      else (l.head?.bind portOf).map fun rPort => (readOnlyHosts l, rPort) := by
  unfold readOnlyHostsPort
  change (if readOnlyHosts l ≠ "" then _ else _) = _
  by_cases h : readOnlyHosts l = ""
  · rw [if_neg (not_not.mpr h), if_pos h]
  · rw [if_pos h, if_neg h]
    cases l with
    | nil => exact absurd readOnlyHosts_nil h
    | cons e l => rfl

/-! ## What a file depends on -/

variable {sh : Shared} {dbs : Dbs} {endpoint host port : String}

/-- The backend has an endpoint with a host and a port, and there are databases
    to route to it. -/
structure Reads (b : BackendData) (dbs : Dbs) (host port : String) : Prop where
  related : b.related = true
  nonempty : dbs.items ≠ []
  endpoint : ∃ endpoint, b.databag.get "endpoints" = some endpoint ∧
    Text.split ':' endpoint = [host, port]

/-- The hosts and ports of a file. -/
def BackendData.hosts (b : BackendData) (host port : String) : Hosts :=
  ⟨host, port, readOnlyHosts b.readOnlySet, b.authUser⟩

/-- The file with the read-only port as a hole. -/
def holedIni (sh : Shared) (dbs : Dbs) (host port authFile : String) (id : ℕ) : Template :=
  iniTemplate sh (sh.backend.hosts host port) dbs
    (readonlyTemplate (sh.backend.hosts host port) sh.readonlyDbs dbs) authFile id

/-- The file where the read-only endpoints have no hosts: the primary serves
    the read-only databases, and no others are listed. -/
def primaryIni (sh : Shared) (dbs : Dbs) (host port authFile : String) (id : ℕ) : String :=
  Template.fill port
    (iniTemplate sh ⟨host, port, host, sh.backend.authUser⟩ dbs [] authFile id)

theorem getRelationConfig_of_reads (h : Reads b dbs host port)
    (iter : List String → List String) :
    getRelationConfig iter b dbs = (readOnlyHostsPort (getReadOnlyEndpoints iter b) host port).map
      fun r => (routes dbs).mapValues (Route.toDb ⟨host, port, r.1, b.authUser⟩ r.2) := by
  obtain ⟨endpoint, hep, hsplit⟩ := h.endpoint
  unfold getRelationConfig
  simp only [h.related, Bool.not_true, Bool.false_or, List.isEmpty_iff, h.nonempty, if_false, hep,
    hsplit]
  congr 1
  funext r
  exact buildConfig_eq_routes (Route.toDb ⟨host, port, r.1, b.authUser⟩ r.2) dbs

theorem get?_star_mapValues (f : Route → PgbDb) :
    ((routes dbs).mapValues f).get? "*" =
      (dbs.get? "*").map fun d => f (.wildcard d.authDbname) := by
  rw [Dict.get?_mapValues, get?_routes_star, Option.map_map]
  rfl

/-- `_get_readonly_dbs`, by the first endpoint. -/
theorem getReadonlyDbs_eq (hrel : b.related = true) (iter : List String → List String)
    (readonlyDbs : Option (List String)) (databases : Dict String PgbDb) {star : PgbDb}
    (hstar : databases.get? "*" = some star) :
    getReadonlyDbs iter b readonlyDbs databases =
      if readOnlyHosts (getReadOnlyEndpoints iter b) = "" then some .empty
      else ((getReadOnlyEndpoints iter b).head?.bind portOf).map fun rPort =>
        (readonlyNames readonlyDbs).mapValues
          (readonlyDb ⟨"", "", readOnlyHosts (getReadOnlyEndpoints iter b), b.authUser⟩ rPort
            star.authDbname) := by
  unfold getReadonlyDbs
  simp only [hrel, hstar]
  change (if readOnlyHosts (getReadOnlyEndpoints iter b) ≠ "" then _ else _) = _
  by_cases h : readOnlyHosts (getReadOnlyEndpoints iter b) = ""
  · rw [if_neg (not_not.mpr h), if_pos h]
  · rw [if_pos h, if_neg h]
    cases hl : getReadOnlyEndpoints iter b with
    | nil =>
      rw [hl] at h
      exact absurd readOnlyHosts_nil h
    | cons e l =>
      simp only [List.head?_cons, Option.bind_some, portOf]
      congr 1
      funext rPort
      rw [readonlyNames, Dict.mapValues_setAll, List.map_map]
      rfl

theorem getReadonlyDbs_of_no_star (iter : List String → List String) (b : BackendData)
    (readonlyDbs : Option (List String)) {databases : Dict String PgbDb}
    (hstar : databases.get? "*" = none) :
    getReadonlyDbs iter b readonlyDbs databases = some .empty := by
  unfold getReadonlyDbs
  rw [hstar]
  cases b.related <;> rfl

/-- Where the read-only endpoints have no hosts. -/
theorem ini_of_no_hosts (h : Reads sh.backend dbs host port) (hi : IsSetOrder iter)
    (hh : readOnlyHosts sh.backend.readOnlySet = "") (authFile : String) (id : ℕ) :
    ini iter sh dbs authFile id = some (primaryIni sh dbs host port authFile id) := by
  have hiter : readOnlyHosts (getReadOnlyEndpoints iter sh.backend) = "" := by
    rw [getReadOnlyEndpoints_eq hi, readOnlyHosts_perm (hi _), hh]
  have hro : getReadonlyDbs iter sh.backend sh.readonlyDbs ((routes dbs).mapValues
      (Route.toDb ⟨host, port, host, sh.backend.authUser⟩ port)) = some .empty := by
    cases hd : dbs.get? "*" with
    | none =>
      apply getReadonlyDbs_of_no_star
      rw [get?_star_mapValues, hd]
      rfl
    | some d =>
      rw [getReadonlyDbs_eq h.related iter _ _ (by rw [get?_star_mapValues, hd]; rfl),
        if_pos hiter]
  unfold ini
  rw [getRelationConfig_of_reads h, readOnlyHostsPort_eq, if_pos hiter, Option.map_some,
    Option.bind_some, hro, Option.map_some, render_eq_fill sh _ port dbs .empty [] rfl]
  rfl

/-- Where they have hosts. -/
theorem ini_of_hosts (h : Reads sh.backend dbs host port) (hi : IsSetOrder iter)
    (hh : readOnlyHosts sh.backend.readOnlySet ≠ "") (authFile : String) (id : ℕ) :
    ini iter sh dbs authFile id =
      ((iter sh.backend.readOnlySet).head?.bind portOf).map fun rPort =>
        Template.fill rPort (holedIni sh dbs host port authFile id) := by
  have hset := getReadOnlyEndpoints_eq hi sh.backend
  have hhosts := readOnlyHosts_perm (hi sh.backend.readOnlySet)
  have hne : ¬ readOnlyHosts (iter sh.backend.readOnlySet) = "" := by rwa [hhosts]
  unfold ini
  rw [getRelationConfig_of_reads h, readOnlyHostsPort_eq, hset, if_neg hne]
  cases hfirst : (iter sh.backend.readOnlySet).head?.bind portOf with
  | none => rfl
  | some rPort =>
    simp only [Option.map_some, Option.bind_some, hhosts]
    unfold holedIni
    cases hd : dbs.get? "*" with
    | none =>
      rw [getReadonlyDbs_of_no_star iter _ _ (by rw [get?_star_mapValues, hd]; rfl),
        Option.map_some]
      have ht : readonlyTemplate (sh.backend.hosts host port) sh.readonlyDbs dbs = [] := by
        unfold readonlyTemplate
        rw [hd]
      rw [ht, ← render_eq_fill sh _ rPort dbs .empty [] rfl]
      rfl
    | some d =>
      rw [getReadonlyDbs_eq h.related iter _ _ (by rw [get?_star_mapValues, hd]; rfl), hset,
        if_neg hne, hfirst, Option.map_some, Option.map_some, hhosts,
        ← render_eq_fill sh _ rPort dbs _ _ (fill_readonlyTemplate _ rPort sh.readonlyDbs hd)]
      rfl

/-- There is no backend endpoint, or there are no databases. -/
def Unused (b : BackendData) (dbs : Dbs) : Prop :=
  b.related = false ∨ dbs.items = [] ∨ b.databag.get "endpoints" = none

/-- The backend endpoint is not a host and a port. -/
def Malformed (b : BackendData) : Prop :=
  ∃ endpoint, b.databag.get "endpoints" = some endpoint ∧
    ∀ host port, Text.split ':' endpoint ≠ [host, port]

theorem getRelationConfig_of_unused (h : Unused b dbs) (iter : List String → List String) :
    getRelationConfig iter b dbs = some .empty := by
  unfold getRelationConfig
  rcases h with h | h | h
  · simp [h]
  · simp [h]
  · simp [h]

theorem ini_of_unused (h : Unused sh.backend dbs) (iter : List String → List String)
    (authFile : String) (id : ℕ) :
    ini iter sh dbs authFile id = some (render sh .empty .empty authFile id) := by
  unfold ini
  rw [getRelationConfig_of_unused h, Option.bind_some, getReadonlyDbs_of_no_star iter _ _ rfl,
    Option.map_some]

/-- The sections of a file without a backend. -/
theorem sections_of_unused {readonlyDbs : Option (List String)}
    {databases readonlyDatabases : Dict String PgbDb} (h : Unused b dbs)
    (hcfg : getRelationConfig iter b dbs = some databases)
    (hro : getReadonlyDbs iter b readonlyDbs databases = some readonlyDatabases) :
    databases = .empty ∧ readonlyDatabases = .empty := by
  rw [getRelationConfig_of_unused h, Option.some_inj] at hcfg
  subst hcfg
  rw [getReadonlyDbs_of_no_star _ _ _ rfl, Option.some_inj] at hro
  exact ⟨rfl, hro.symm⟩

/-- With such an endpoint the config raises. -/
theorem getRelationConfig_of_malformed (hu : ¬ Unused b dbs) (h : Malformed b)
    (iter : List String → List String) : getRelationConfig iter b dbs = none := by
  obtain ⟨endpoint, hep, hsplit⟩ := h
  obtain ⟨hrel, hne, -⟩ : ¬ b.related = false ∧ ¬ dbs.items = [] ∧
      ¬ b.databag.get "endpoints" = none := by
    simpa only [Unused, not_or] using hu
  have hrel : b.related = true := by simpa using hrel
  unfold getRelationConfig
  simp only [hrel, Bool.not_true, Bool.false_or, List.isEmpty_iff, hne, if_false, hep]

theorem ini_of_malformed (hu : ¬ Unused sh.backend dbs) (h : Malformed sh.backend)
    (iter : List String → List String) (authFile : String) (id : ℕ) :
    ini iter sh dbs authFile id = none := by
  unfold ini
  rw [getRelationConfig_of_malformed hu h]
  rfl

theorem reads_of_not_malformed (hu : ¬ Unused b dbs) (hm : ¬ Malformed b) :
    ∃ host port, Reads b dbs host port := by
  obtain ⟨hrel, hne, hep⟩ : ¬ b.related = false ∧ ¬ dbs.items = [] ∧
      ¬ b.databag.get "endpoints" = none := by
    simpa only [Unused, not_or] using hu
  obtain ⟨endpoint, hep⟩ := Option.ne_none_iff_exists'.mp hep
  by_contra hno
  refine hm ⟨endpoint, hep, fun host port hsplit => hno ⟨host, port, ?_⟩⟩
  exact ⟨by simpa using hrel, hne, endpoint, hep, hsplit⟩

theorem reads_of_relationConfig {databases : Dict String PgbDb} (hu : ¬ Unused b dbs)
    (hcfg : getRelationConfig iter b dbs = some databases) :
    ∃ host port, Reads b dbs host port := by
  refine reads_of_not_malformed hu fun hm => ?_
  rw [getRelationConfig_of_malformed hu hm] at hcfg
  cases hcfg

/-! ## Where the port shows -/

/-- A read-only port is written somewhere in the file: some alias is not
    replaced by a database of its name, or databases are listed beside the
    wildcard. -/
def Shown (sh : Shared) (dbs : Dbs) : Prop :=
  (∃ n, Shadowed dbs.values n) ∨ (dbs.contains "*" = true ∧ sh.readonlyDbs.getD [] ≠ [])

theorem none_mem_routeLine (x : Hosts) (p : String × Route) :
    none ∈ routeLine x p ↔ ∃ name, p.2 = .readOnly name := by
  obtain ⟨n, m | m | m⟩ := p <;> simp [routeLine]

theorem readonlyNames_eq_nil_iff (readonlyDbs : Option (List String)) :
    (readonlyNames readonlyDbs).items = [] ↔ readonlyDbs.getD [] = [] := by
  rw [Dict.items_eq_nil_iff]
  unfold readonlyNames
  constructor
  · intro h
    cases hl : readonlyDbs.getD [] with
    | nil => rfl
    | cons name l =>
      rw [hl] at h
      obtain ⟨v, -, hv⟩ := Dict.get?_setAll_of_mem Dict.empty
        (l := (name :: l).map fun name => (name ++ "_readonly", name))
        (k := name ++ "_readonly") (v := name) (by simp)
      rw [h] at hv
      cases hv
  · intro h k
    rw [h]
    rfl

theorem none_mem_readonlyTemplate (x : Hosts) (readonlyDbs : Option (List String)) (dbs : Dbs) :
    none ∈ readonlyTemplate x readonlyDbs dbs ↔
      dbs.contains "*" = true ∧ readonlyDbs.getD [] ≠ [] := by
  unfold readonlyTemplate Dict.contains
  cases dbs.get? "*" with
  | none => simp
  | some d =>
    simp only [List.mem_flatten, List.mem_map, Option.isSome_some, true_and]
    rw [ne_eq, ← readonlyNames_eq_nil_iff]
    constructor
    · rintro ⟨-, ⟨p, hp, rfl⟩, -⟩ hnil
      rw [hnil] at hp
      cases hp
    · intro hne
      obtain ⟨p, hp⟩ := List.exists_mem_of_ne_nil _ hne
      exact ⟨_, ⟨p, hp, rfl⟩, by simp [readonlyLineTemplate]⟩

theorem none_mem_holedIni (host port authFile : String) (id : ℕ) :
    none ∈ holedIni sh dbs host port authFile id ↔ Shown sh dbs := by
  unfold holedIni iniTemplate Shown
  rw [← exists_readOnly_iff, ← none_mem_readonlyTemplate (sh.backend.hosts host port)]
  simp only [List.mem_cons, List.mem_append, List.mem_flatten, List.mem_map, reduceCtorEq,
    List.not_mem_nil, false_or, or_false]
  refine or_congr ⟨?_, ?_⟩ Iff.rfl
  · rintro ⟨-, ⟨p, hp, rfl⟩, hnone⟩
    obtain ⟨name, hname⟩ := (none_mem_routeLine _ p).mp hnone
    exact ⟨p.1, name, (Dict.get?_eq_some_iff _ _ _).mpr (by rw [← hname]; exact hp)⟩
  · rintro ⟨n, name, hget⟩
    exact ⟨_, ⟨(n, .readOnly name), (Dict.get?_eq_some_iff _ _ _).mp hget, rfl⟩,
      (none_mem_routeLine _ _).mpr ⟨name, rfl⟩⟩

/-! ## One map on two units -/

/-- Two units that read the maps `dbs` and `dbs'` push the same files, but for
    the path of the auth file, whatever the orders in which they iterate
    sets. -/
def SameFiles (sh : Shared) (dbs dbs' : Dbs) : Prop :=
  ∀ iter iter' : List String → List String, IsSetOrder iter → IsSetOrder iter' →
    ∀ authFile, renderPgbConfig iter sh dbs authFile = renderPgbConfig iter' sh dbs' authFile

theorem cores_pos (sh : Shared) : 0 < sh.cores := by
  unfold Shared.cores
  omega

theorem renderPgbConfig_eq_iff {dbs' : Dbs} {authFile : String} :
    renderPgbConfig iter sh dbs authFile = renderPgbConfig iter' sh dbs' authFile ↔
      ∀ id < sh.cores, ini iter sh dbs authFile id = ini iter' sh dbs' authFile id := by
  unfold renderPgbConfig
  rw [List.map_inj_left]
  simp

/-- The read-only endpoints have one port, or none of them has one. -/
def OnePort (b : BackendData) : Prop :=
  ∀ e ∈ b.readOnlySet, ∀ e' ∈ b.readOnlySet, portOf e = portOf e'

/-- Every read-only endpoint has a port. -/
def HavePorts (b : BackendData) : Prop := ∀ e ∈ b.readOnlySet, (portOf e).isSome = true

/-- The order that yields `e` first. -/
def yieldFirst (e : String) (l : List String) : List String := if e ∈ l then e :: l.erase e else l

theorem isSetOrder_yieldFirst (e : String) : IsSetOrder (yieldFirst e) := by
  intro l
  unfold yieldFirst
  split_ifs with h
  · exact (List.perm_cons_erase h).symm
  · rfl

theorem head?_yieldFirst {e : String} {l : List String} (h : e ∈ l) :
    (yieldFirst e l).head? = some e := by
  unfold yieldFirst
  rw [if_pos h, List.head?_cons]

theorem isSetOrder_id : IsSetOrder id := fun l => .refl l

/-- The endpoint that the set yields first. -/
theorem exists_head (hi : IsSetOrder iter) (hh : readOnlyHosts b.readOnlySet ≠ "") :
    ∃ e ∈ b.readOnlySet, (iter b.readOnlySet).head? = some e := by
  have hne : iter b.readOnlySet ≠ [] := by
    intro he
    have hperm := hi b.readOnlySet
    rw [he] at hperm
    rw [hperm.symm.eq_nil] at hh
    exact hh readOnlyHosts_nil
  obtain ⟨e, l, he⟩ := List.exists_cons_of_ne_nil hne
  refine ⟨e, (hi b.readOnlySet).subset ?_, ?_⟩
  · rw [he]
    exact List.mem_cons_self
  · rw [he, List.head?_cons]

/-- Two endpoints with different ports have hosts. -/
theorem readOnlyHosts_ne_of_ports {e e' : String} (he : e ∈ b.readOnlySet)
    (he' : e' ∈ b.readOnlySet) (hne : portOf e ≠ portOf e') :
    readOnlyHosts b.readOnlySet ≠ "" := by
  apply readOnlyHosts_ne
  have hsub : [e, e'].Nodup := by
    simp only [List.nodup_cons, List.mem_singleton, List.not_mem_nil, not_false_eq_true,
      List.nodup_nil, and_true]
    rintro rfl
    exact hne rfl
  have hsubset : [e, e'] ⊆ b.readOnlySet := by
    simp [he, he']
  have hle := (List.subperm_of_subset hsub hsubset).length_le
  simpa using hle

/-- The file where `e` is the first endpoint. -/
theorem ini_yieldFirst (h : Reads sh.backend dbs host port)
    (hh : readOnlyHosts sh.backend.readOnlySet ≠ "") {e : String}
    (he : e ∈ sh.backend.readOnlySet) (authFile : String) (id : ℕ) :
    ini (yieldFirst e) sh dbs authFile id = (portOf e).map fun rPort =>
      Template.fill rPort (holedIni sh dbs host port authFile id) := by
  rw [ini_of_hosts h (isSetOrder_yieldFirst e) hh, head?_yieldFirst he, Option.bind_some]

/-- The order of the set shows exactly when the ports of the endpoints differ
    and one of them is read in vain or shows in the file. -/
theorem sameFiles_of_reads (h : Reads sh.backend dbs host port) :
    SameFiles sh dbs dbs ↔ OnePort sh.backend ∨ HavePorts sh.backend ∧ ¬ Shown sh dbs := by
  constructor
  · intro hs
    by_cases hone : OnePort sh.backend
    · exact .inl hone
    obtain ⟨e, he, e', he', hne⟩ : ∃ e ∈ sh.backend.readOnlySet, ∃ e' ∈ sh.backend.readOnlySet,
        portOf e ≠ portOf e' := by
      simpa only [OnePort, not_forall, exists_prop] using hone
    have hh := readOnlyHosts_ne_of_ports he he' hne
    have hsame : ∀ x ∈ sh.backend.readOnlySet, ∀ y ∈ sh.backend.readOnlySet,
        ((portOf x).map fun rPort => Template.fill rPort (holedIni sh dbs host port "" 0)) =
          (portOf y).map fun rPort => Template.fill rPort (holedIni sh dbs host port "" 0) := by
      intro x hx y hy
      rw [← ini_yieldFirst h hh hx, ← ini_yieldFirst h hh hy]
      have hxy := hs _ _ (isSetOrder_yieldFirst x) (isSetOrder_yieldFirst y) ""
      exact renderPgbConfig_eq_iff.mp hxy 0 (cores_pos sh)
    have hports : HavePorts sh.backend := by
      intro x hx
      by_contra hx'
      have hnone : ∀ y ∈ sh.backend.readOnlySet, portOf y = none := by
        intro y hy
        have hxy := hsame x hx y hy
        rw [Option.not_isSome_iff_eq_none.mp hx', Option.map_none] at hxy
        exact Option.map_eq_none_iff.mp hxy.symm
      rw [hnone e he, hnone e' he'] at hne
      exact hne rfl
    refine .inr ⟨hports, fun hshown => hne ?_⟩
    obtain ⟨p, hp⟩ := Option.isSome_iff_exists.mp (hports e he)
    obtain ⟨p', hp'⟩ := Option.isSome_iff_exists.mp (hports e' he')
    have hfill := hsame e he e' he'
    rw [hp, hp', Option.map_some, Option.map_some, Option.some_inj] at hfill
    rw [hp, hp', Template.fill_inj ((none_mem_holedIni host port "" 0).mpr hshown) hfill]
  · intro hor iter iter' hi hi' authFile
    refine renderPgbConfig_eq_iff.mpr fun id _ => ?_
    by_cases hh : readOnlyHosts sh.backend.readOnlySet = ""
    · rw [ini_of_no_hosts h hi hh, ini_of_no_hosts h hi' hh]
    obtain ⟨e, he, hhead⟩ := exists_head hi hh
    obtain ⟨e', he', hhead'⟩ := exists_head hi' hh
    rw [ini_of_hosts h hi hh, ini_of_hosts h hi' hh, hhead, hhead', Option.bind_some,
      Option.bind_some]
    rcases hor with hone | ⟨hports, hshown⟩
    · rw [hone e he e' he']
    · obtain ⟨p, hp⟩ := Option.isSome_iff_exists.mp (hports e he)
      obtain ⟨p', hp'⟩ := Option.isSome_iff_exists.mp (hports e' he')
      have hhole : none ∉ holedIni sh dbs host port authFile id := fun hn =>
        hshown ((none_mem_holedIni host port authFile id).mp hn)
      rw [hp, hp', Option.map_some, Option.map_some, Template.fill_of_not_mem hhole]

theorem sameFiles_iff (sh : Shared) (dbs : Dbs) :
    SameFiles sh dbs dbs ↔ Unused sh.backend dbs ∨ Malformed sh.backend ∨ OnePort sh.backend ∨
      HavePorts sh.backend ∧ ¬ Shown sh dbs := by
  by_cases hu : Unused sh.backend dbs
  · refine iff_of_true (fun iter iter' _ _ authFile => ?_) (.inl hu)
    exact renderPgbConfig_eq_iff.mpr fun id _ => by rw [ini_of_unused hu, ini_of_unused hu]
  by_cases hm : Malformed sh.backend
  · refine iff_of_true (fun iter iter' _ _ authFile => ?_) (.inr (.inl hm))
    exact renderPgbConfig_eq_iff.mpr fun id _ => by
      rw [ini_of_malformed hu hm, ini_of_malformed hu hm]
  · obtain ⟨host, port, h⟩ := reads_of_not_malformed hu hm
    rw [sameFiles_of_reads h]
    simp only [hu, hm, false_or]

/-! ## The map of the old file -/

/-- The databases a follower takes from the old `cfg_file`: the names that are
    no aliases. -/
def oldDatabases (s : App) : List String :=
  (s.cfgDatabases.getD []).filter fun name =>
    !(Text.endswith name "_standby" || Text.endswith name "_readonly")

theorem items_set_of_not_contains {d : Dbs} {k : String} (hk : d.get? k = none) (v : DbEntry) :
    (d.set k v).items = d.items ++ [(k, v)] := by
  have hset : ∀ l : List (String × DbEntry), (∀ p ∈ l, p.1 ≠ k) →
      Dict.setItems k v l = l ++ [(k, v)] := by
    intro l hl
    induction l with
    | nil => rfl
    | cons p l ih =>
      rw [Dict.setItems, if_neg (hl p List.mem_cons_self), List.cons_append,
        ih fun q hq => hl q (List.mem_cons_of_mem _ hq)]
  refine hset d.items ?_
  rintro ⟨k', v'⟩ hp rfl
  rw [← Dict.get?_eq_some_iff, hk] at hp
  cases hp

/-- The keys of the map count up, and its values are the names of the list. -/
theorem legacyDatabases_spec (l : List String) (i : ℕ) (d : Dbs)
    (hd : ∀ k, d.contains k = true → ∃ j < i, k = str j) :
    (legacyDatabases i d l).values.map DbEntry.name = d.values.map DbEntry.name ++
      (l.filter fun name =>
        !(Text.endswith name "_standby" || Text.endswith name "_readonly")) ∧
      ∀ k, (legacyDatabases i d l).contains k = true → ∃ j, k = str j := by
  induction l generalizing i d with
  | nil =>
    refine ⟨by simp [legacyDatabases], fun k hk => ?_⟩
    obtain ⟨j, -, hj⟩ := hd k hk
    exact ⟨j, hj⟩
  | cons name l ih =>
    unfold legacyDatabases
    by_cases hsuffix : (Text.endswith name "_standby" || Text.endswith name "_readonly") = true
    · rw [if_pos hsuffix, List.filter_cons_of_neg (by simp [hsuffix])]
      exact ih i d hd
    · rw [if_neg hsuffix, List.filter_cons_of_pos (by simp [hsuffix])]
      have hnew : d.get? (str i) = none := by
        by_contra hc
        obtain ⟨j, hj, he⟩ := hd (str i) (Option.isSome_iff_ne_none.mpr hc)
        have hij := Text.str_injective he
        omega
      obtain ⟨hvalues, hkeys⟩ := ih (i + 1) (d.set (str i) ⟨name, false, none⟩) fun k hk => by
        unfold Dict.contains at hk
        rw [Dict.get?_set] at hk
        split_ifs at hk with he
        · exact ⟨i, by omega, he⟩
        · obtain ⟨j, hj, he⟩ := hd k hk
          exact ⟨j, by omega, he⟩
      refine ⟨?_, hkeys⟩
      rw [hvalues, Dict.values, Dict.values, items_set_of_not_contains hnew]
      simp

variable {s : App} {u : UnitId}

theorem getRelationDatabases_old (hs : s.pgbDbsConfig = none) (hu : u ≠ s.leader) :
    (getRelationDatabases s u).values.map DbEntry.name = oldDatabases s ∧
      (getRelationDatabases s u).get? "*" = none := by
  unfold getRelationDatabases oldDatabases
  rw [hs]
  simp only [if_pos hu]
  cases s.cfgDatabases with
  | none => exact ⟨rfl, rfl⟩
  | some names =>
    obtain ⟨hvalues, hkeys⟩ := legacyDatabases_spec names 1 .empty fun k hk => by
      simp [Dict.contains] at hk
    refine ⟨hvalues, ?_⟩
    by_contra hstar
    obtain ⟨j, hj⟩ := hkeys "*" (Option.isSome_iff_ne_none.mpr hstar)
    exact Text.str_ne (c := '*') (by decide) (by decide) j hj.symm

theorem getRelationDatabases_leader_of_none (hs : s.pgbDbsConfig = none) :
    getRelationDatabases s s.leader = .empty := by
  unfold getRelationDatabases
  simp [hs]

/-- Without a wildcard only the first loop writes lines. -/
theorem ini_of_no_star (h : Reads sh.backend dbs host port) (hi : IsSetOrder iter)
    (hstar : dbs.get? "*" = none) (authFile : String) (id : ℕ) :
    ini iter sh dbs authFile id =
      if readOnlyHosts sh.backend.readOnlySet = "" then
        some (render sh ((routes dbs).mapValues
          (Route.toDb ⟨host, port, host, sh.backend.authUser⟩ port)) .empty authFile id)
      else ((iter sh.backend.readOnlySet).head?.bind portOf).map fun rPort =>
        render sh ((routes dbs).mapValues (Route.toDb (sh.backend.hosts host port) rPort)) .empty
          authFile id := by
  by_cases hh : readOnlyHosts sh.backend.readOnlySet = ""
  · rw [if_pos hh, ini_of_no_hosts h hi hh, render_eq_fill sh _ port dbs .empty [] rfl]
    rfl
  · rw [if_neg hh, ini_of_hosts h hi hh]
    congr 1
    funext rPort
    have ht : readonlyTemplate (sh.backend.hosts host port) sh.readonlyDbs dbs = [] := by
      unfold readonlyTemplate
      rw [hstar]
    rw [holedIni, ht, render_eq_fill sh _ rPort dbs .empty [] rfl]

/-- A file without lines under `[databases]` is shorter than one with lines. -/
theorem render_eq_empty_iff (databases : Dict String PgbDb) (authFile : String) (id : ℕ) :
    render sh databases .empty authFile id = render sh .empty .empty authFile id ↔
      databases.items = [] := by
  constructor
  · intro he
    have hl := congrArg String.length he
    unfold render at hl
    simp only [String.length_append] at hl
    cases hitems : databases.items with
    | nil => rfl
    | cons p l =>
      have hline : 0 < (databaseLine p).length := by
        unfold databaseLine
        simp only [String.length_append]
        have hn : "\n".length = 1 := by decide
        omega
      rw [hitems] at hl
      simp only [concat, List.map_cons, List.foldr_cons, String.length_append, Dict.empty,
        List.map_nil, List.foldr_nil, String.length_empty] at hl
      omega
  · intro hitems
    unfold render
    rw [hitems]
    rfl

theorem items_mapValues_eq_nil_iff {ν ν' : Type} (d : Dict String ν) (f : ν → ν') :
    (d.mapValues f).items = [] ↔ d.items = [] := by
  simp [Dict.mapValues]

/-! ## Every two units -/

/-- Every two units push the same files. -/
def SameIni (sh : Shared) (s : App) : Prop :=
  ∀ u v : UnitId, SameFiles sh (getRelationDatabases s u) (getRelationDatabases s v)

/-- A stored map: the ports of the read-only endpoints do not tell the orders
    of the set apart. -/
def PortsAgree (sh : Shared) (dbs : Dbs) : Prop :=
  Unused sh.backend dbs ∨ Malformed sh.backend ∨ OnePort sh.backend ∨
    HavePorts sh.backend ∧ ¬ Shown sh dbs

/-- No stored map: the followers find no database in the old file, or they have
    nothing to route it to, and finding that does not raise. -/
def NothingOld (sh : Shared) (s : App) : Prop :=
  sh.backend.related = false ∨ oldDatabases s = [] ∨
    sh.backend.databag.get "endpoints" = none ∨
    ¬ Malformed sh.backend ∧
      (readOnlyHosts sh.backend.readOnlySet = "" ∨ HavePorts sh.backend) ∧
      ∀ name ∈ oldDatabases s, name = "*"

theorem sameIni_of_stored (hs : s.pgbDbsConfig = some dbs) :
    SameIni sh s ↔ PortsAgree sh dbs := by
  have hmap : ∀ u, getRelationDatabases s u = dbs := by
    intro u
    unfold getRelationDatabases
    rw [hs]
  unfold SameIni PortsAgree
  rw [← sameFiles_iff]
  simp only [hmap]
  exact ⟨fun h => h 0 0, fun h _ _ => h⟩

theorem unused_empty (b : BackendData) : Unused b .empty := .inr (.inl rfl)

/-- For one order of the set: the file has no lines under `[databases]`. -/
theorem ini_eq_empty_iff (hreads : Reads sh.backend dbs host port) (hi : IsSetOrder iter)
    (hstar : dbs.get? "*" = none) (authFile : String) (id : ℕ) :
    ini iter sh dbs authFile id = some (render sh .empty .empty authFile id) ↔
      (readOnlyHosts sh.backend.readOnlySet = "" ∨
        ((iter sh.backend.readOnlySet).head?.bind portOf).isSome = true) ∧
      (routes dbs).items = [] := by
  rw [ini_of_no_star hreads hi hstar]
  by_cases hh : readOnlyHosts sh.backend.readOnlySet = ""
  · rw [if_pos hh, Option.some_inj, render_eq_empty_iff, items_mapValues_eq_nil_iff]
    exact (and_iff_right (.inl hh)).symm
  · rw [if_neg hh]
    cases (iter sh.backend.readOnlySet).head?.bind portOf with
    | none => simp [hh]
    | some rPort =>
      rw [Option.map_some, Option.some_inj, render_eq_empty_iff, items_mapValues_eq_nil_iff]
      exact (and_iff_right (.inr rfl)).symm

/-- For all orders of the set. -/
theorem all_ini_eq_empty_iff (hreads : Reads sh.backend dbs host port)
    (hstar : dbs.get? "*" = none) :
    (∀ iter, IsSetOrder iter → ∀ authFile, ∀ id < sh.cores,
      ini iter sh dbs authFile id = some (render sh .empty .empty authFile id)) ↔
        (readOnlyHosts sh.backend.readOnlySet = "" ∨ HavePorts sh.backend) ∧
        (routes dbs).items = [] := by
  constructor
  · intro h
    refine ⟨?_, ((ini_eq_empty_iff hreads isSetOrder_id hstar "" 0).mp
      (h id isSetOrder_id "" 0 (cores_pos sh))).2⟩
    by_cases hh : readOnlyHosts sh.backend.readOnlySet = ""
    · exact .inl hh
    · refine .inr fun e he => ?_
      -- The order that yields `e` first reads its port.
      have hports := ((ini_eq_empty_iff hreads (isSetOrder_yieldFirst e) hstar "" 0).mp
        (h _ (isSetOrder_yieldFirst e) "" 0 (cores_pos sh))).1.resolve_left hh
      rwa [head?_yieldFirst he, Option.bind_some] at hports
  · rintro ⟨hports, hempty⟩ iter hi authFile id -
    refine (ini_eq_empty_iff hreads hi hstar authFile id).mpr ⟨?_, hempty⟩
    by_cases hh : readOnlyHosts sh.backend.readOnlySet = ""
    · exact .inl hh
    · obtain ⟨e, he, hhead⟩ := exists_head hi hh
      rw [hhead, Option.bind_some]
      exact .inr (hports.resolve_left hh e he)

/-- On a follower, and without a stored map, the file has no databases. -/
theorem ini_old_iff (hs : s.pgbDbsConfig = none) (hu : u ≠ s.leader) :
    (∀ iter, IsSetOrder iter → ∀ authFile, ∀ id < sh.cores,
      ini iter sh (getRelationDatabases s u) authFile id =
        some (render sh .empty .empty authFile id)) ↔ NothingOld sh s := by
  obtain ⟨hnames, hstar⟩ := getRelationDatabases_old hs hu
  generalize getRelationDatabases s u = dbs at hnames hstar
  have hnil : dbs.items = [] ↔ oldDatabases s = [] := by
    rw [← hnames]
    simp [Dict.values]
  have hroutes : (routes dbs).items = [] ↔ ∀ name ∈ oldDatabases s, name = "*" := by
    rw [routes_eq_empty_iff, ← hnames]
    simp [hstar]
  by_cases hu : Unused sh.backend dbs
  · refine iff_of_true (fun iter _ authFile id _ => ini_of_unused hu iter authFile id) ?_
    rcases hu with h | h | h
    · exact .inl h
    · exact .inr (.inl (hnil.mp h))
    · exact .inr (.inr (.inl h))
  have hother : NothingOld sh s ↔ ¬ Malformed sh.backend ∧
      (readOnlyHosts sh.backend.readOnlySet = "" ∨ HavePorts sh.backend) ∧
      ∀ name ∈ oldDatabases s, name = "*" := by
    simp only [Unused, not_or] at hu
    unfold NothingOld
    simp only [hu.1, hu.2.2, hnil.not.mp hu.2.1, reduceCtorEq, false_or]
  rw [hother]
  by_cases hm : Malformed sh.backend
  · constructor
    · intro h
      have hnone := h id isSetOrder_id "" 0 (cores_pos sh)
      rw [ini_of_malformed hu hm] at hnone
      cases hnone
    · exact fun h => absurd hm h.1
  · obtain ⟨host, port, hreads⟩ := reads_of_not_malformed hu hm
    rw [all_ini_eq_empty_iff hreads hstar, hroutes]
    exact (and_iff_right hm).symm

theorem sameIni_of_old (hs : s.pgbDbsConfig = none) : SameIni sh s ↔ NothingOld sh s := by
  have hleader : ∀ iter authFile id, ini iter sh (getRelationDatabases s s.leader) authFile id =
      some (render sh .empty .empty authFile id) := by
    intro iter authFile id
    rw [getRelationDatabases_leader_of_none hs]
    exact ini_of_unused (unused_empty _) iter authFile id
  have hfollower : s.leader + 1 ≠ s.leader := Nat.succ_ne_self _
  constructor
  · intro h
    refine (ini_old_iff hs hfollower).mp fun iter hi authFile id hid => ?_
    have hsame := h (s.leader + 1) s.leader iter _ hi isSetOrder_id authFile
    rw [renderPgbConfig_eq_iff.mp hsame id hid, hleader]
  · intro h u v iter iter' hi hi' authFile
    have hall : ∀ w iter, IsSetOrder iter → ∀ id < sh.cores,
        ini iter sh (getRelationDatabases s w) authFile id =
          some (render sh .empty .empty authFile id) := by
      intro w iter hi id hid
      by_cases hw : w = s.leader
      · rw [hw, hleader]
      · exact (ini_old_iff hs hw).mpr h iter hi authFile id hid
    exact renderPgbConfig_eq_iff.mpr fun id hid => by
      rw [hall u iter hi id hid, hall v iter' hi' id hid]

/-- Every two units push the same files, but for the path of the auth file and
    for any iteration orders, exactly when the map is stored and the ports of
    the read-only endpoints do not differ visibly, or when it is not stored and
    the followers route nothing from the old `cfg_file`. -/
theorem sameIni_iff (sh : Shared) (s : App) :
    SameIni sh s ↔ (∃ dbs, s.pgbDbsConfig = some dbs ∧ PortsAgree sh dbs) ∨
      s.pgbDbsConfig = none ∧ NothingOld sh s := by
  cases hs : s.pgbDbsConfig with
  | none =>
    rw [sameIni_of_old hs]
    simp
  | some dbs =>
    rw [sameIni_of_stored hs]
    simp

/-! ## Two deployments -/

/-- The default configuration on four processors, without TLS. -/
def sampleShared (b : BackendData) : Shared :=
  ⟨"pgbouncer-k8s", b, none, none,
    ⟨6432, "session", 100, 100, .clusterIP, "", by decide⟩, 4, false⟩

/-- Peer data with the old `cfg_file` only, before the first leader has stored
    a map. -/
def oldPeerData : App :=
  ⟨"pgbouncer-k8s", "dev", 0, .empty, none, some ["a", "a_readonly"], fun _ => .empty,
    ⟨fun _ => none, [], []⟩⟩

/-- Peer data with a stored map of one database. -/
def newPeerData : App :=
  { oldPeerData with pgbDbsConfig := some (Dict.empty.set "1" ⟨"a", false, none⟩) }

/-- A backend with two replicas on different ports. -/
def twoPorts : BackendData :=
  { sampleBackend with
    databag := sampleBackend.databag.set "read-only-endpoints" "r:5432,s:5433" }

theorem not_nothingOld : ¬ NothingOld (sampleShared sampleBackend) oldPeerData := by
  rintro (h | h | h | ⟨-, -, h⟩)
  · cases h
  · exact absurd h (by decide)
  · exact absurd h (by decide)
  · exact absurd (h "a" (by decide)) (by decide)

theorem not_portsAgree :
    ¬ PortsAgree (sampleShared twoPorts) (Dict.empty.set "1" ⟨"a", false, none⟩) := by
  have hshown : Shown (sampleShared twoPorts) (Dict.empty.set "1" ⟨"a", false, none⟩) :=
    .inl ⟨"a_readonly", [], ⟨"a", false, none⟩, [], rfl, by decide, by simp⟩
  rintro ((h | h | h) | ⟨endpoint, hep, hsplit⟩ | h | ⟨-, h⟩)
  · cases h
  · cases h
  · exact absurd h (by decide)
  · obtain rfl : "h:5432" = endpoint := by
      have hget : twoPorts.databag.get "endpoints" = some "h:5432" := by decide
      exact Option.some_inj.mp (hget.symm.trans hep)
    exact hsplit "h" "5432" (by decide)
  · exact absurd (h "r:5432" (by decide) "s:5433" (by decide)) (by decide)
  · exact h hshown

/-- With the old file the leader lists no database and a follower does. With
    replicas on two ports the port of `a_readonly` is that of the endpoint the
    set yields first. -/
theorem files_differ :
    ¬ SameIni (sampleShared sampleBackend) oldPeerData ∧
      ¬ SameIni (sampleShared twoPorts) newPeerData := by
  constructor
  · rw [sameIni_of_old rfl]
    exact not_nothingOld
  · rw [sameIni_of_stored rfl]
    exact not_portsAgree

end PgBouncerK8s
