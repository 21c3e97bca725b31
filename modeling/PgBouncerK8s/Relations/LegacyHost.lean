import PgBouncerK8s.Relations.Connection
import PgBouncerK8s.Workload.HostsPorts

/-!
# The host of a legacy client

`DbProvides.update_connection_info` (`relations/db.py`, lines 361–409) takes the
hosts of `master` and `standbys` out of the endpoint string. An empty string
still has one part, and the test for read-only hosts is a test for parts.

* `head_split_eq_empty_iff`: when the text in front of the first colon is empty.
* `hostsPublished_iff`: a relation is given hosts that are not empty exactly
  when there is an endpoint, and the first and the last do not begin with a
  colon.
* `not_hostsPublished_missing`: there is no service yet.
-/

namespace PgBouncerK8s.HostsPorts

/-! ## Model -/

/-- The endpoint properties (`charm.py`, lines 587–595). -/
def offer (text : String) : Offer := ⟨none, none, none, text, text⟩

/-- The relation has a database, a user and a password. -/
def Initialised (u : UnitId) (r : Relation) : Prop :=
  ∃ database user password, (r.unit u).get "database" = some database ∧
    (r.unit u).get "user" = some user ∧ (r.unit u).get "password" = some password

namespace Cluster

variable (w : Cluster) (configured : Bool) (port : ℕ) (externalApp : String) (u : UnitId)
  (leader : Bool) (r : Relation)

/-- `connection_updates`, where the call gets to write it. -/
def connectionUpdates : Option DbProvides.ConnectionInfo :=
  if !configured then none
  else w.getHostsPorts.bind fun text =>
    DbProvides.connectionInfo (offer text) w.listenPort port externalApp u r

/-- `update_connection_info` (`relations/db.py`, lines 361–409) for an
    initialised relation; `none` where an endpoint property raises. -/
def updateConnectionInfo : Option Relation :=
  if !configured then some r
  else w.getHostsPorts.map fun text =>
    DbProvides.updateConnectionInfo (offer text) configured w.listenPort port externalApp u leader r

/-- No empty host is written, and without an endpoint nothing is. -/
structure HostsPublished : Prop where
  hosts : ∀ info, w.connectionUpdates configured port externalApp u r = some info →
    info.master.host ≠ "" ∧ info.host ≠ "" ∧ info.standbys.host ≠ ""
  unchanged : w.endpoints = [] → ∀ r',
    w.updateConnectionInfo configured port externalApp u leader r = some r' →
    ∀ key ∈ ["master", "host", "port", "standbys"],
      (r'.unit u).get key = (r.unit u).get key ∧ r'.app.get key = r.app.get key

/-- The endpoints in the order in which they are published. -/
def published : List String := Text.sortedSet (w.endpoints.map HostPort.text)

/-- There is an endpoint, and neither the first nor the last begins with a
    colon. -/
def Hosted : Prop :=
  ∃ first last, w.published.head? = some first ∧ w.published.getLast? = some last ∧
    first.toList.head? ≠ some ':' ∧ last.toList.head? ≠ some ':'

end Cluster

/-! ## The host of an endpoint -/

/-- `endpoint.split(":")[0]`. -/
def hostOf (endpoint : String) : String := (Text.split ':' endpoint).headD ""

theorem hostOf_empty : hostOf "" = "" := by decide

theorem head_split_eq_empty_iff {endpoint : String} (hne : endpoint ≠ "") :
    hostOf endpoint = "" ↔ endpoint.toList.head? = some ':' := by
  have htext : endpoint = String.ofList endpoint.toList := String.ofList_toList.symm
  unfold hostOf Text.split
  cases hl : endpoint.toList with
  | nil =>
    rw [hl] at htext
    exact absurd htext hne
  | cons c l =>
    obtain ⟨first, rest, hsplit⟩ := List.exists_cons_of_ne_nil (List.splitOn_ne_nil ':' l)
    rw [List.splitOn_cons_eq_if_modifyHead, hsplit]
    split_ifs with hc
    · simp [beq_iff_eq.mp hc]
    · have hc : c ≠ ':' := fun h => hc (beq_iff_eq.mpr h)
      simp [hc]

/-! ## What is written -/

variable {w : Cluster} {configured : Bool} {port : ℕ} {externalApp : String} {u : UnitId}
  {leader : Bool} {r : Relation}

/-- The hosts are those of the first and the last part of the text. -/
theorem connectionInfo_hosts (h : Initialised u r) (text : String) (listenPort port : ℕ)
    (externalApp : String) :
    ∃ info, DbProvides.connectionInfo (offer text) listenPort port externalApp u r = some info ∧
      info.master.host = hostOf ((Text.split ',' text).headD "") ∧
      info.host = hostOf ((Text.split ',' text).headD "") ∧
      info.standbys.host = hostOf ((Text.split ',' text).getLastD "") := by
  obtain ⟨database, user, password, hdb, huser, hpw⟩ := h
  unfold DbProvides.connectionInfo
  rw [hdb, huser, hpw]
  refine ⟨_, rfl, rfl, rfl, ?_⟩
  have hlast := List.getLastD_map (f := hostOf) (l := Text.split ',' text) (a := "")
  rw [hostOf_empty] at hlast
  exact hlast

theorem published_ne_nil : w.published ≠ [] ↔ w.endpoints ≠ [] := by
  rw [Cluster.published, ne_eq, Text.sortedSet_eq_nil, List.map_eq_nil_iff]

theorem published_ne_empty {endpoint : String} (h : endpoint ∈ w.published) : endpoint ≠ "" := by
  obtain ⟨e, -, rfl⟩ := List.mem_map.mp (Text.mem_sortedSet.mp h)
  exact text_ne_empty e

/-- The hosts of a text with endpoints. -/
theorem hosted_iff {first last : String} (hfirst : w.published.head? = some first)
    (hlast : w.published.getLast? = some last) :
    w.Hosted ↔ hostOf first ≠ "" ∧ hostOf last ≠ "" := by
  have hf := published_ne_empty (List.mem_of_mem_head? hfirst)
  have hl := published_ne_empty (List.mem_of_getLast? hlast)
  unfold Cluster.Hosted
  rw [hfirst, hlast]
  simp [head_split_eq_empty_iff hf, head_split_eq_empty_iff hl]

/-- An initialised relation is given hosts that are not empty exactly when the
    call writes nothing, because the configuration is invalid or an endpoint
    property raises, or there is an endpoint and neither the first nor the last
    begins with a colon. -/
theorem hostsPublished_iff (hinit : Initialised u r) :
    w.HostsPublished configured port externalApp u leader r ↔
      (configured = true → w.getHostsPorts ≠ none → w.Hosted) := by
  cases configured with
  | false =>
    constructor
    · exact fun _ h => by cases h
    · refine fun _ => ⟨fun info h => (by cases h), fun _ r' h key _ => ?_⟩
      cases h
      exact ⟨rfl, rfl⟩
  | true =>
    cases htext : w.getHostsPorts with
    | none =>
      constructor
      · exact fun _ _ h => absurd rfl h
      · refine fun _ => ⟨fun info h => ?_, fun _ r' h => ?_⟩
        · simp [Cluster.connectionUpdates, htext] at h
        · simp [Cluster.updateConnectionInfo, htext] at h
    | some text =>
      obtain ⟨info, hinfo, hmaster, hhost, hstandby⟩ :=
        connectionInfo_hosts hinit text w.listenPort port externalApp
      have hupdates : w.connectionUpdates true port externalApp u r = some info := by
        simp [Cluster.connectionUpdates, htext, hinfo]
      by_cases hne : w.endpoints = []
      · obtain rfl := (Cluster.getHostsPorts_eq_empty_iff htext).mpr hne
        constructor
        · intro h
          exact absurd hhost (h.hosts info hupdates).2.1
        · intro h
          obtain ⟨first, -, hfirst, -⟩ := h rfl (by simp)
          have hmem := List.ne_nil_of_mem (List.mem_of_mem_head? hfirst)
          exact absurd hne (published_ne_nil.mp hmem)
      · -- the parts of the text are the endpoints
        have hsplit : Text.split ',' text = w.published :=
          Cluster.split_getHostsPorts htext hne
        obtain ⟨first, rest, hpub⟩ := List.exists_cons_of_ne_nil (published_ne_nil.mpr hne)
        obtain ⟨last, hlast⟩ : ∃ last, w.published.getLast? = some last := by
          rw [← Option.isSome_iff_exists, List.getLast?_isSome]
          exact published_ne_nil.mpr hne
        have hfirst : w.published.head? = some first := by rw [hpub, List.head?_cons]
        rw [hsplit, hpub, List.headD_cons] at hmaster hhost
        rw [hsplit, List.getLastD_eq_getLast?, hlast, Option.getD_some] at hstandby
        rw [hosted_iff hfirst hlast]
        constructor
        · intro h _ _
          obtain ⟨-, h₁, h₂⟩ := h.hosts info hupdates
          rw [hhost] at h₁
          rw [hstandby] at h₂
          exact ⟨h₁, h₂⟩
        · intro h
          obtain ⟨h₁, h₂⟩ := h rfl (by simp)
          refine ⟨fun info' hinfo' => ?_, fun hnil => absurd hnil hne⟩
          obtain rfl := Option.some_inj.mp (hupdates.symm.trans hinfo')
          rw [hmaster, hhost, hstandby]
          exact ⟨h₁, h₁, h₂⟩

/-- A relation for `app` that has its credentials. -/
def served : Relation :=
  { Relation.new .db with
    unit := fun _ => ((Databag.empty.set "database" "app").set "user" "u").set "password" "p" }

/-- There is no service yet. -/
def missing : Cluster where
  appName := ⟨"pgbouncer", by decide⟩
  modelName := ⟨"clients", by decide⟩
  listenPort := 6432
  nodes := some []
  service := none

/-- The host of `master` is empty. -/
theorem not_hostsPublished_missing :
    ¬ missing.HostsPublished true 6432 "client" 0 true served := by
  intro h
  exact (h.hosts _ rfl).2.1 rfl

/-- Behind a `ClusterIP` service there is a host. -/
theorem hostsPublished_iff_clusterIP :
    { missing with service := some ⟨.clusterIP, [], []⟩ : Cluster }.HostsPublished true 6432
      "client" 0 true served :=
  (hostsPublished_iff ⟨"app", "u", "p", rfl, rfl, rfl⟩).mpr fun _ _ =>
    ⟨_, _, rfl, rfl, by decide, by decide⟩

end PgBouncerK8s.HostsPorts
