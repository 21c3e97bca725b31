import PgBouncerK8s.Lib.Pipeline
import PgBouncerK8s.Relations.Setup
import PgBouncerK8s.Routing.Config

/-!
# The peer synchronisation barrier

Before it publishes credentials the leader waits until every other unit has
acknowledged the map it has just stored. The parties are the leader and any
number of followers: the leader's writes to the peer application databag become
visible when its hook ends, a follower sees them later, renders its ini from
what it sees and writes the hash of it to its own databag, which the leader
again sees later.

A map, an acknowledgement and what lies between are one pipeline for each
follower: stored, committed, seen by the follower, rendered, acknowledged, seen
by the leader. As long as the stored map only grows, an old acknowledgement is
below what the follower renders now.

* `step_refines`: every orderly step is a run of each follower's pipeline.
* `barrier_of_reach`: in orderly runs the barrier holds.
* `published_too_early`: two pending joins overwrite each other's entry, and an
  acknowledgement of the older map lets the first of them pass.
-/

namespace PgBouncerK8s

open Text (str)

/-- A map is below another if all its entries of relations are in the other. -/
instance : Preorder Dbs where
  le m m' := ∀ k, k ≠ "*" → ∀ d, m.get? k = some d → m'.get? k = some d
  le_refl _ _ _ _ h := h
  le_trans _ _ _ h h' k hk d hd := h' k hk d (h k hk d hd)

namespace Sync

variable (lower : String → String)

/-! ## The parties -/

/-- The deployment. `app` is the state as the leader's current hook has it,
    `committed` the key `pgb_dbs_config` as of the leader's last finished hook,
    `view u` the key as unit `u` sees it, `ini u` the `[databases]` section unit
    `u` has rendered last and `rendered u` the map it had then, `ack u` what it
    has written as `pgb_dbs`, and `seen u` what the leader sees of that. A hash
    is the map it was taken of. -/
structure World where
  app : App
  followers : List UnitId
  committed : Option Dbs
  view : UnitId → Option Dbs
  ini : UnitId → Dict String PgbDb
  rendered : UnitId → Dbs
  ack : UnitId → Option Dbs
  seen : UnitId → Option Dbs

/-- What a hook meets that renders the ini of a follower. -/
structure RenderInput where
  containerReady : Bool
  configValid : Bool
  iter : List String → List String
  backend : BackendData

/-- `setup` is a step of the leader or of a client, `commit` the end of the
    leader's hook, `deliver` and `deliverAck` make a databag write visible,
    `peerChanged` is `Peers._on_changed` and `render` any other handler that
    renders the ini. -/
inductive Action
  | setup (a : Setup.Action)
  | commit
  | deliver (u : UnitId)
  | peerChanged (u : UnitId) (i : RenderInput)
  | render (u : UnitId) (i : RenderInput)
  | deliverAck (u : UnitId)

/-- The hook of a handler that runs on the leader now. -/
def World.atLeader (w : World) (h : Hook) : Hook :=
  { h with unit := w.app.leader, otherUnits := w.followers, ack := w.seen }

/-- The step of the application, with handlers running on the leader, which
    does not change. -/
def World.leaderAction (w : World) : Setup.Action → Option Setup.Action
  | .relate rid ep => some (.relate rid ep)
  | .write rid data => some (.write rid data)
  | .elect _ => none
  | .joined h rid => some (.joined (w.atLeader h) rid)
  | .changed h rid => some (.changed (w.atLeader h) rid)
  | .requested h rid => some (.requested (w.atLeader h) rid)

/-- `render_pgb_config` on unit `u`; `none` where it raises. -/
def renderPgbConfig (w : World) (u : UnitId) (i : RenderInput) : Option World :=
  if !i.configValid then some w
  else
    (getRelationConfig i.iter i.backend
      (getRelationDatabases { w.app with pgbDbsConfig := w.view u } u)).map fun cfg =>
        { w with
          ini := Function.update w.ini u cfg
          rendered := Function.update w.rendered u ((w.view u).getD .empty) }

/-- `Peers._on_changed` (`relations/peers.py`, lines 116–142) on unit `u`; `none`
    where it raises. -/
def onPeerChanged (w : World) (u : UnitId) (i : RenderInput) : Option World :=
  if !i.containerReady then some w
  else
    let pgbDbsHash := (w.view u).getD .empty
    (renderPgbConfig w u i).map fun w => { w with ack := Function.update w.ack u (some pgbDbsHash) }

def step (w : World) : Action → Option World
  | .setup a =>
    (w.leaderAction a).bind fun a => (Setup.step lower w.app a).map fun s => { w with app := s }
  | .commit => some { w with committed := w.app.pgbDbsConfig }
  | .deliver u => some { w with view := Function.update w.view u w.committed }
  | .peerChanged u i => onPeerChanged w u i
  | .render u i => renderPgbConfig w u i
  | .deliverAck u => some { w with seen := Function.update w.seen u (w.ack u) }

/-- Runs start without relations and before the first map is stored. -/
def machine : Machine World Action where
  init w := w.app.relations = .empty ∧ w.app.pgbDbsConfig = none ∧ w.committed = none ∧
    (∀ u, w.view u = none) ∧ (∀ u, w.rendered u = .empty) ∧ (∀ u, w.ack u = none) ∧
    ∀ u, w.seen u = none
  step := step lower

/-! ## The property and the condition -/

/-- The step publishes credentials for relation `rid`, which wants `database`. -/
def Publishes (w : World) (a : Action) (rid : RelId) (database : String) : Prop :=
  match a with
  | .setup (.joined h x) => x = rid ∧ ∃ r, w.app.relations.get? rid = some r ∧
      r.endpoint.legacy = true ∧ Setup.Publishes lower (w.atLeader h) w.app rid r database
  | .setup (.requested h x) => x = rid ∧ ∃ r, w.app.relations.get? rid = some r ∧
      r.endpoint.legacy = false ∧ Setup.PublishesRequest lower (w.atLeader h) w.app rid r database
  | _ => False

/-- Every other legacy relation that has an entry in the stored map has its
    database in the leader's databag, so that the rebuild finds it. -/
def RebuildKeeps (s : App) (rid : RelId) : Prop :=
  ∀ x q, s.relations.get? x = some q → x ≠ rid → q.endpoint.legacy = true →
    s.databases.contains (str x) = true → (q.unit s.leader).contains "database" = true

instance (s : App) (rid : RelId) : Decidable (RebuildKeeps s rid) :=
  decidable_of_iff (∀ p ∈ s.relations.items, p.1 ≠ rid → p.2.endpoint.legacy = true →
    s.databases.contains (str p.1) = true → (p.2.unit s.leader).contains "database" = true) <| by
    simp only [RebuildKeeps, Dict.get?_eq_some_iff, Prod.forall]

/-- The backend relation is there and has one well-formed endpoint. -/
def HasEndpoint (b : BackendData) : Prop :=
  b.related = true ∧
    ((b.databag.get "endpoints").any fun endpoint => (Text.split ':' endpoint).length = 2) = true

instance (b : BackendData) : Decidable (HasEndpoint b) := inferInstanceAs (Decidable (_ ∧ _))

/-- The steps in order: a rebuild keeps the entries of the map, a follower that
    acknowledges renders, a follower that renders has the backend's endpoint,
    and no client asks for a database called `*`. -/
def Orderly (w : World) : Action → Prop
  | .setup (.joined h rid) => Setup.Rebuilds w.app (.joined (w.atLeader h) rid) →
      RebuildKeeps w.app rid
  | .setup (.requested h rid) => Setup.Rebuilds w.app (.requested (w.atLeader h) rid) →
      RebuildKeeps w.app rid
  | .setup (.write _ data) => data.get "database" ≠ some "*"
  | .peerChanged _ i => i.containerReady = true → i.configValid = true ∧ HasEndpoint i.backend
  | .render _ i => i.configValid = true → HasEndpoint i.backend
  | _ => True

instance (w : World) : (a : Action) → Decidable (Orderly w a)
  | .setup (.joined _ _) => inferInstanceAs (Decidable (_ → _))
  | .setup (.requested _ _) => inferInstanceAs (Decidable (_ → _))
  | .setup (.write _ _) => inferInstanceAs (Decidable (_ ≠ _))
  | .setup (.relate _ _) => .isTrue trivial
  | .setup (.elect _) => .isTrue trivial
  | .setup (.changed _ _) => .isTrue trivial
  | .peerChanged _ _ => inferInstanceAs (Decidable (_ → _ ∧ _))
  | .render _ _ => inferInstanceAs (Decidable (_ → _))
  | .commit => .isTrue trivial
  | .deliver _ => .isTrue trivial
  | .deliverAck _ => .isTrue trivial

/-! ## One step of the application -/

open Setup

section Application

variable {lower} {s s' : App} {a : Setup.Action} {h : Hook} {rid : RelId} {r r' : Relation}
  {database : String}

/-- A step creates a relation, or works on one and leaves its endpoint and what
    the client wrote, which only the client's own step extends. -/
theorem relations_step (ha : Setup.step lower s a = some s') :
    (∃ rid ep, s.relations.get? rid = none ∧
      s'.relations = s.relations.set rid (Relation.new ep)) ∨
    s'.relations = s.relations ∨
    ∃ rid r r', s.relations.get? rid = some r ∧ Touches s s' rid r' ∧ r'.endpoint = r.endpoint ∧
      (r'.remote = r.remote ∨ a = .write rid r'.remote ∧
        ∀ n, r.remote.get "database" = some n → r'.remote.get "database" = some n) := by
  cases step_effect lower ha with
  | @relate rid ep hnone => exact .inl ⟨rid, ep, hnone, rfl⟩
  | write hr hw => exact .inr (.inr ⟨_, _, _, hr, .put hr _, rfl, .inr ⟨rfl, hw⟩⟩)
  | elect => exact .inr (.inl rfl)
  | @joined h rid r hr _ =>
    obtain ⟨r'', r', hc, ht, rfl | ⟨_, -, rfl⟩⟩ := touches_joined lower h hr
    · exact .inr (.inr ⟨rid, r, _, hr, ht, hc.endpoint, .inl hc.remote⟩)
    · exact .inr (.inr ⟨rid, r, _, hr, ht, hc.endpoint, .inl hc.remote⟩)
  | @changed h rid r hr =>
    obtain ⟨r', ht, rfl | rfl | ⟨_, _, _, -, -, -, -, rfl⟩⟩ := touches_changed h hr
    all_goals exact .inr (.inr ⟨rid, _, _, hr, ht, rfl, .inl rfl⟩)
  | @requested h rid r database hr _ _ =>
    obtain ⟨r', ht, rfl | rfl⟩ := touches_requested lower h hr database
    all_goals exact .inr (.inr ⟨rid, _, _, hr, ht, rfl, .inl rfl⟩)

/-- The database of a request stays as long as the relation. -/
theorem asked_step (ha : Setup.step lower s a = some s') {x : RelId} {q : Relation} {n : String}
    (hq : s.relations.get? x = some q) (hn : q.remote.get "database" = some n) :
    ∃ q', s'.relations.get? x = some q' ∧ q'.endpoint = q.endpoint ∧
      q'.remote.get "database" = some n := by
  rcases relations_step ha with ⟨rid, ep, hnone, he⟩ | he | ⟨rid, r, r', hr, ht, hep, hrem⟩
  · refine ⟨q, ?_, rfl, hn⟩
    rw [he, Dict.get?_set_of_ne _ _, hq]
    rintro rfl
    rw [hnone] at hq
    cases hq
  · exact ⟨q, by rw [he, hq], rfl, hn⟩
  · by_cases hx : x = rid
    · subst hx
      obtain rfl : r = q := by simpa [hr] using hq
      refine ⟨r', ht.self, hep, ?_⟩
      rcases hrem with hrem | ⟨-, hrem⟩
      · rwa [hrem]
      · exact hrem n hn
    · exact ⟨q, by rw [ht.get?, if_neg hx, hq], rfl, hn⟩

/-- The handler of relation `rid` stores the rebuilt map with the relation's own
    entry. -/
structure Stores (s : App) (rid : RelId) (r : Relation) (database : String) (dbs : Dbs) :
    Prop where
  live : s.relations.get? rid = some r
  remote : r.remote.get "database" = some database
  get? : ∀ x, dbs.get? (str x) = if x = rid then some ⟨database, r.endpoint.legacy, none⟩
    else (s.relations.get? x).bind (rebuildEntry s.leader)
  keys : ∀ k, k ≠ "*" → ∀ d, dbs.get? k = some d → ∃ x, k = str x

theorem stores_join (hr : s.relations.get? rid = some r) (hu : h.unit = s.leader)
    (hleg : r.endpoint.legacy = true) (hdb : r.remote.get "database" = some database) :
    Stores s rid r database
      (DbProvides.joinDatabases lower (s.putRelation rid r') h.unit rid r.endpoint database) where
  live := hr
  remote := hdb
  get? x := by rw [get?_joinDatabases hr hu, hleg, hu]
  keys k hk d hd := by
    refine requested_keys lower (s.putRelation rid r') hu rid ⟨database, true, none⟩
      ⟨"*", false, some database⟩ (decide (r.endpoint = .dbAdmin)) hk (d := d) ?_
    simpa [DbProvides.joinDatabases] using hd

theorem stores_request (hr : s.relations.get? rid = some r) (hu : h.unit = s.leader)
    (hleg : r.endpoint.legacy = false) (hdb : r.remote.get "database" = some database) :
    Stores s rid r database
      (PgBouncerProvider.requestDatabases lower s h.unit rid r database) where
  live := hr
  remote := hdb
  get? x := by rw [get?_requestDatabases hu, hleg, hu]
  keys _ hk _ hd := requested_keys lower s hu rid _ _ _ hk hd

theorem joined_databases (lower : String → String) (h : Hook)
    (hr : s.relations.get? rid = some r) (hleg : r.endpoint.legacy = true) :
    (DbProvides.onRelationJoined lower h s rid r).app.databases = s.databases ∨
      Rebuilds s (.joined h rid) ∧ ∃ database,
        Stores s rid r database (DbProvides.onRelationJoined lower h s rid r).app.databases := by
  have he := DbProvides.joined_effect lower h s rid r
  generalize DbProvides.onRelationJoined lower h s rid r = res at he
  cases he with
  | follower _ => exact .inl rfl
  | notReady _ _ => exact .inl rfl
  | blocked _ _ _ _ => exact .inl rfl
  | noDatabase _ _ _ _ _ => exact .inl rfl
  | unsynced hu hready hb _ hdb _ =>
    exact .inr ⟨rebuilds_joined hr hu hready hb hdb, _, stores_join hr hu hleg hdb⟩
  | served hu hready hb _ hdb _ =>
    rw [databases_publishAndCreate]
    exact .inr ⟨rebuilds_joined hr hu hready hb hdb, _, stores_join hr hu hleg hdb⟩

theorem requested_databases (lower : String → String) (h : Hook)
    (hr : s.relations.get? rid = some r) (hleg : r.endpoint.legacy = false)
    (hdb : r.remote.get "database" = some database) :
    (PgBouncerProvider.onDatabaseRequested lower h s rid r database).app.databases = s.databases ∨
      Rebuilds s (.requested h rid) ∧ Stores s rid r database
        (PgBouncerProvider.onDatabaseRequested lower h s rid r database).app.databases := by
  have he := PgBouncerProvider.requested_effect lower h s rid r database
  generalize PgBouncerProvider.onDatabaseRequested lower h s rid r database = res at he
  cases he with
  | follower _ => exact .inl rfl
  | notReady _ _ => exact .inl rfl
  | unsynced hu hready heps _ => exact .inr ⟨⟨hu, hready, heps⟩, stores_request hr hu hleg hdb⟩
  | served hu hready heps _ =>
    rw [databases_createAndPublish]
    exact .inr ⟨⟨hu, hready, heps⟩, stores_request hr hu hleg hdb⟩

end Application

/-! ## The stored map only grows -/

section Entries

variable {s s' : App} {a : Setup.Action} {rid : RelId} {r : Relation} {database : String}

/-- Every entry of a relation names the database its client has asked for, and
    none of these is called `*`. -/
structure Entries (s : App) : Prop where
  entry : ∀ k, k ≠ "*" → ∀ d, s.databases.get? k = some d → ∃ x q n, k = str x ∧
    s.relations.get? x = some q ∧ q.remote.get "database" = some n ∧
      d = ⟨n, q.endpoint.legacy, none⟩
  plain : ∀ x q, s.relations.get? x = some q → q.remote.get "database" ≠ some "*"

/-- What the rebuild reads from a relation is what its client has asked for. -/
theorem rebuildEntry_kept (hk : AllKept s) {x : RelId} {q : Relation} {d : DbEntry} (u : UnitId)
    (hq : s.relations.get? x = some q) (hd : rebuildEntry u q = some d) :
    ∃ n, q.remote.get "database" = some n ∧ d = ⟨n, q.endpoint.legacy, none⟩ := by
  unfold rebuildEntry at hd
  by_cases hleg : q.endpoint.legacy = true
  · rw [if_pos hleg, Option.map_eq_some_iff] at hd
    obtain ⟨n, hn, rfl⟩ := hd
    exact ⟨n, (hk x q hq).unit_database u n hn, by rw [hleg]⟩
  · rw [if_neg hleg, Option.map_eq_some_iff] at hd
    obtain ⟨n, hn, rfl⟩ := hd
    exact ⟨n, hn, by rw [eq_false_of_ne_true hleg]⟩

/-- With the entries of the other legacy relations kept, the new map is above
    the old one. -/
theorem Stores.le {dbs : Dbs} (hs : Stores s rid r database dbs) (hk : AllKept s)
    (he : Entries s) (hkeep : RebuildKeeps s rid) : s.databases ≤ dbs := by
  intro k hkey d hd
  obtain ⟨x, q, n, rfl, hq, hn, rfl⟩ := he.entry k hkey d hd
  rw [hs.get?]
  by_cases hx : x = rid
  · subst hx
    obtain rfl : q = r := by simpa [hq] using hs.live
    obtain rfl : n = database := by simpa [hn] using hs.remote
    rw [if_pos rfl]
  · rw [if_neg hx, hq, Option.bind_some]
    unfold rebuildEntry
    by_cases hleg : q.endpoint.legacy = true
    · have hc : (q.unit s.leader).contains "database" = true :=
        hkeep x q hq hx hleg (by simp [Dict.contains, hd])
      obtain ⟨m, hm⟩ := Option.isSome_iff_exists.mp hc
      obtain rfl : m = n := by simpa [hn] using ((hk x q hq).unit_database _ m hm).symm
      rw [if_pos hleg, hm, hleg]
      rfl
    · rw [if_neg hleg, hn, eq_false_of_ne_true hleg]
      rfl

theorem Stores.entry {dbs : Dbs} (hs : Stores s rid r database dbs) (hk : AllKept s) {k : String}
    (hkey : k ≠ "*") {d : DbEntry} (hd : dbs.get? k = some d) :
    ∃ x q n, k = str x ∧ s.relations.get? x = some q ∧ q.remote.get "database" = some n ∧
      d = ⟨n, q.endpoint.legacy, none⟩ := by
  obtain ⟨x, rfl⟩ := hs.keys k hkey d hd
  rw [hs.get?] at hd
  by_cases hx : x = rid
  · rw [if_pos hx, Option.some_inj] at hd
    exact ⟨x, r, database, rfl, by rw [hx, hs.live], hs.remote, hd.symm⟩
  · rw [if_neg hx, Option.bind_eq_some_iff] at hd
    obtain ⟨q, hq, hd⟩ := hd
    obtain ⟨n, hn, he⟩ := rebuildEntry_kept hk _ hq hd
    exact ⟨x, q, n, rfl, hq, hn, he⟩

variable {lower : String → String}

/-- A step keeps the map or stores it anew for one relation. -/
theorem databases_step (ha : Setup.step lower s a = some s') :
    s'.databases = s.databases ∨ Rebuilds s a ∧ ∃ h rid r database,
      (a = .joined h rid ∨ a = .requested h rid) ∧ Stores s rid r database s'.databases := by
  cases step_effect lower ha with
  | relate _ => exact .inl rfl
  | write _ _ => exact .inl rfl
  | elect => exact .inl rfl
  | @joined h rid r hr hleg =>
    rcases joined_databases lower h hr hleg with he | ⟨hg, database, hs⟩
    · exact .inl he
    · exact .inr ⟨hg, h, rid, r, database, .inl rfl, hs⟩
  | changed _ => exact .inl (databases_onChanged _ _ _)
  | @requested h rid r database hr hleg hdb =>
    rcases requested_databases lower h hr hleg hdb with he | ⟨hg, hs⟩
    · exact .inl he
    · exact .inr ⟨hg, h, rid, r, database, .inr rfl, hs⟩

theorem entries_step (hk : AllKept s) (he : Entries s)
    (hw : ∀ rid data, a = .write rid data → data.get "database" ≠ some "*")
    (ha : Setup.step lower s a = some s') : Entries s' where
  entry k hkey d hd := by
    have hold : ∃ x q n, k = str x ∧ s.relations.get? x = some q ∧
        q.remote.get "database" = some n ∧ d = ⟨n, q.endpoint.legacy, none⟩ := by
      rcases databases_step ha with hdbs | ⟨-, h, rid, r, database, -, hs⟩
      · exact he.entry k hkey d (by rwa [hdbs] at hd)
      · exact hs.entry hk hkey hd
    obtain ⟨x, q, n, rfl, hq, hn, rfl⟩ := hold
    obtain ⟨q', hq', hep, hn'⟩ := asked_step ha hq hn
    exact ⟨x, q', n, rfl, hq', hn', by rw [hep]⟩
  plain x q hq := by
    revert x q
    rcases relations_step ha with ⟨rid, ep, -, hrel⟩ | hrel | ⟨rid, r, r', hr, ht, -, hrem⟩
    · rw [hrel]
      refine Dict.forall_get?_set (fun h => ?_) fun x q _ hq => he.plain x q hq
      cases h
    · rw [hrel]
      exact he.plain
    · refine ht.forall_relations ?_ fun x q _ hq => he.plain x q hq
      rcases hrem with hrem | ⟨hact, -⟩
      · rw [hrem]
        exact he.plain rid r hr
      · exact hw _ _ hact

end Entries

/-! ## Pipelines -/

section Pipelines

variable {lower} {w w' : World} {a : Action} {i : RenderInput} {u f : UnitId}

/-- The maps on the way from the leader to follower `f` and, as an
    acknowledgement, back. -/
def World.pipeline (w : World) (f : UnitId) : Pipeline Dbs
  | 0 => w.app.databases
  | 1 => w.committed.getD .empty
  | 2 => (w.view f).getD .empty
  | 3 => w.rendered f
  | 4 => (w.ack f).getD .empty
  | 5 => (w.seen f).getD .empty
  | _ => .empty

/-- Where the ini is rendered, it has the databases of the map the unit sees. -/
theorem renderPgbConfig_cases (ha : renderPgbConfig w u i = some w') :
    i.configValid = false ∧ w' = w ∨ i.configValid = true ∧ ∃ cfg,
      getRelationConfig i.iter i.backend
        (getRelationDatabases { w.app with pgbDbsConfig := w.view u } u) = some cfg ∧
      w' = { w with
        ini := Function.update w.ini u cfg
        rendered := Function.update w.rendered u ((w.view u).getD .empty) } := by
  unfold renderPgbConfig at ha
  cases hv : i.configValid with
  | false =>
    left
    simpa [hv, eq_comm] using ha
  | true =>
    right
    simp only [hv, Bool.not_true, Bool.false_eq_true, if_false, Option.map_eq_some_iff] at ha
    obtain ⟨cfg, hcfg, rfl⟩ := ha
    exact ⟨rfl, cfg, hcfg, rfl⟩

theorem pipeline_congr (h₀ : w'.app.databases = w.app.databases)
    (h₁ : w'.committed = w.committed) (h₂ : w'.view f = w.view f)
    (h₃ : w'.rendered f = w.rendered f) (h₄ : w'.ack f = w.ack f) (h₅ : w'.seen f = w.seen f) :
    w'.pipeline f = w.pipeline f := by
  funext n
  rcases n with _ | _ | _ | _ | _ | _ | n <;> simp only [World.pipeline, *]

theorem runs_commit (w : World) (f : UnitId) :
    Pipeline.Runs (w.pipeline f) ({ w with committed := w.app.pgbDbsConfig }.pipeline f) := by
  apply Pipeline.Runs.of_pass 0
  funext n
  rcases n with _ | _ | _ | _ | _ | _ | n <;>
    simp [World.pipeline, Pipeline.pass, Function.update, App.databases]

theorem runs_deliver (w : World) (u f : UnitId) :
    Pipeline.Runs (w.pipeline f)
      ({ w with view := Function.update w.view u w.committed }.pipeline f) := by
  by_cases hf : f = u
  · subst hf
    apply Pipeline.Runs.of_pass 1
    funext n
    rcases n with _ | _ | _ | _ | _ | _ | n <;>
      simp [World.pipeline, Pipeline.pass, Function.update]
  · exact .of_eq (pipeline_congr rfl rfl (Function.update_of_ne hf _ _) rfl rfl rfl)

theorem runs_render (w : World) (u f : UnitId) (ini : UnitId → Dict String PgbDb) :
    Pipeline.Runs (w.pipeline f)
      ({ w with
        ini := ini
        rendered := Function.update w.rendered u ((w.view u).getD .empty) }.pipeline f) := by
  by_cases hf : f = u
  · subst hf
    apply Pipeline.Runs.of_pass 2
    funext n
    rcases n with _ | _ | _ | _ | _ | _ | n <;>
      simp [World.pipeline, Pipeline.pass, Function.update]
  · exact .of_eq (pipeline_congr rfl rfl rfl (Function.update_of_ne hf _ _) rfl rfl)

/-- The acknowledgement is of the map that has been rendered. -/
theorem runs_ack (w : World) (u f : UnitId) :
    Pipeline.Runs (w.pipeline f)
      ({ w with ack := Function.update w.ack u (some (w.rendered u)) }.pipeline f) := by
  by_cases hf : f = u
  · subst hf
    apply Pipeline.Runs.of_pass 3
    funext n
    rcases n with _ | _ | _ | _ | _ | _ | n <;>
      simp [World.pipeline, Pipeline.pass, Function.update]
  · exact .of_eq (pipeline_congr rfl rfl rfl rfl (Function.update_of_ne hf _ _) rfl)

theorem runs_deliverAck (w : World) (u f : UnitId) :
    Pipeline.Runs (w.pipeline f)
      ({ w with seen := Function.update w.seen u (w.ack u) }.pipeline f) := by
  by_cases hf : f = u
  · subst hf
    apply Pipeline.Runs.of_pass 4
    funext n
    rcases n with _ | _ | _ | _ | _ | _ | n <;>
      simp [World.pipeline, Pipeline.pass, Function.update]
  · exact .of_eq (pipeline_congr rfl rfl rfl rfl rfl (Function.update_of_ne hf _ _))

/-- Replacing the application by one with a larger map. -/
theorem runs_push (w : World) (f : UnitId) {s : App} (hs : w.app.databases ≤ s.databases) :
    Pipeline.Runs (w.pipeline f) ({ w with app := s }.pipeline f) := by
  apply Pipeline.Runs.of_push hs
  funext n
  rcases n with _ | _ | _ | _ | _ | _ | n <;>
    simp [World.pipeline, Pipeline.push, Function.update]

theorem setup_cases {a : Setup.Action} (ha : step lower w (.setup a) = some w') :
    ∃ b s, w.leaderAction a = some b ∧ Setup.step lower w.app b = some s ∧
      w' = { w with app := s } := by
  simp only [step, Option.bind_eq_some_iff, Option.map_eq_some_iff] at ha
  obtain ⟨b, hb, s, hs, rfl⟩ := ha
  exact ⟨b, s, hb, hs, rfl⟩

/-- An acknowledging follower has just rendered. -/
theorem peerChanged_cases (hg : Orderly w (.peerChanged u i))
    (ha : step lower w (.peerChanged u i) = some w') :
    w' = w ∨ HasEndpoint i.backend ∧ ∃ w₁, renderPgbConfig w u i = some w₁ ∧
      w₁.rendered u = (w.view u).getD .empty ∧
      w' = { w₁ with ack := Function.update w₁.ack u (some (w₁.rendered u)) } := by
  simp only [step, onPeerChanged] at ha
  cases hc : i.containerReady with
  | false =>
    left
    simpa [hc, eq_comm] using ha
  | true =>
    right
    obtain ⟨hvalid, hep⟩ := hg hc
    simp only [hc, Bool.not_true, Bool.false_eq_true, if_false, Option.map_eq_some_iff] at ha
    obtain ⟨w₁, hw₁, rfl⟩ := ha
    have hview : w₁.rendered u = (w.view u).getD .empty := by
      rcases renderPgbConfig_cases hw₁ with ⟨hv, -⟩ | ⟨-, cfg, -, rfl⟩
      · rw [hvalid] at hv
        cases hv
      · exact Function.update_self _ _ _
    exact ⟨hep, w₁, hw₁, hview, by rw [hview]⟩

theorem runs_renderPgbConfig (ha : renderPgbConfig w u i = some w') (f : UnitId) :
    Pipeline.Runs (w.pipeline f) (w'.pipeline f) := by
  rcases renderPgbConfig_cases ha with ⟨-, rfl⟩ | ⟨-, cfg, -, rfl⟩
  · exact .refl
  · exact runs_render w u f _

/-- The leader's steps only add entries of relations to the stored map. -/
theorem databases_le (hk : AllKept w.app) (he : Entries w.app) {a b : Setup.Action}
    (hg : Orderly w (.setup a)) (hb : w.leaderAction a = some b) {s : App}
    (hs : Setup.step lower w.app b = some s) : w.app.databases ≤ s.databases := by
  rcases databases_step hs with hdbs | ⟨hr, h, rid, r, database, hact, hst⟩
  · rw [hdbs]
  · refine hst.le hk he ?_
    cases a with
    | joined h' rid' =>
      cases hb
      rcases hact with hact | hact <;> cases hact
      exact hg hr
    | requested h' rid' =>
      cases hb
      rcases hact with hact | hact <;> cases hact
      exact hg hr
    | relate _ _ => cases hb; rcases hact with hact | hact <;> cases hact
    | write _ _ => cases hb; rcases hact with hact | hact <;> cases hact
    | elect _ => cases hb
    | changed _ _ => cases hb; rcases hact with hact | hact <;> cases hact

/-- Every orderly step is a run of the pipeline of each follower. -/
theorem step_refines (hk : AllKept w.app) (he : Entries w.app) (hg : Orderly w a)
    (ha : step lower w a = some w') (f : UnitId) :
    Pipeline.Runs (w.pipeline f) (w'.pipeline f) := by
  cases a with
  | setup a =>
    obtain ⟨b, s, hb, hs, rfl⟩ := setup_cases ha
    exact runs_push w f (databases_le hk he hg hb hs)
  | commit =>
    cases ha
    exact runs_commit w f
  | deliver u =>
    cases ha
    exact runs_deliver w u f
  | peerChanged u i =>
    rcases peerChanged_cases hg ha with rfl | ⟨-, w₁, hw₁, -, rfl⟩
    · exact .refl
    · exact (runs_renderPgbConfig hw₁ f).trans (runs_ack w₁ u f)
  | render u i => exact runs_renderPgbConfig ha f
  | deliverAck u =>
    cases ha
    exact runs_deliverAck w u f

end Pipelines

/-! ## The barrier -/

section Barrier

variable {lower} {w w' : World} {a : Action} {i : RenderInput} {u : UnitId} {rid : RelId}
  {database : String}

/-- Every follower has the databases of the map it has rendered. -/
structure Inv (w : World) : Prop where
  entries : Entries w.app
  antitone : ∀ f, Antitone (w.pipeline f)
  rendered : ∀ f k, k ≠ "*" → ∀ d, (w.rendered f).get? k = some d →
    (w.ini f).contains d.name = true

/-- Only the leader's own steps change the application. -/
theorem app_step (ha : step lower w a = some w') :
    w'.app = w.app ∨ ∃ c b, a = .setup c ∧ w.leaderAction c = some b ∧
      Setup.step lower w.app b = some w'.app := by
  cases a with
  | setup c =>
    obtain ⟨b, s, hb, hs, rfl⟩ := setup_cases ha
    exact .inr ⟨c, b, rfl, hb, hs⟩
  | commit => cases ha; exact .inl rfl
  | deliver u => cases ha; exact .inl rfl
  | peerChanged u i =>
    left
    simp only [step, onPeerChanged] at ha
    split_ifs at ha
    · cases ha
      rfl
    · obtain ⟨w₁, hw₁, rfl⟩ := Option.map_eq_some_iff.mp ha
      rcases renderPgbConfig_cases hw₁ with ⟨-, rfl⟩ | ⟨-, cfg, -, rfl⟩ <;> rfl
  | render u i =>
    left
    rcases renderPgbConfig_cases ha with ⟨-, rfl⟩ | ⟨-, cfg, -, rfl⟩ <;> rfl
  | deliverAck u => cases ha; exact .inl rfl

/-- The application of the deployment runs as the machine of the leader alone. -/
theorem allKept_of_reach (hw : (machine lower).Reach Orderly w) : AllKept w.app := by
  have hsim : (Setup.machine lower).Reach Machine.always w.app := by
    refine hw.simulation World.app ?_ ?_
    · rintro w ⟨h, -⟩
      exact h
    · intro w a w' _ _ ha
      rcases app_step ha with he | ⟨_, b, -, -, hs⟩
      · exact .inl he
      · exact .inr ⟨b, hs⟩
  exact kept_of_reach hsim

/-- No map on the way names a database `*`. -/
theorem Inv.name_ne (hi : Inv w) {f : UnitId} {n : ℕ} {k : String} (hk : k ≠ "*") {d : DbEntry}
    (hd : (w.pipeline f n).get? k = some d) : d.name ≠ "*" := by
  have hle : w.pipeline f n ≤ w.app.databases := hi.antitone f (Nat.zero_le n)
  obtain ⟨x, q, m, -, hq, hm, rfl⟩ := hi.entries.entry k hk d (hle k hk d hd)
  rintro rfl
  exact hi.entries.plain x q hq hm

/-- Rendering the ini on one follower. -/
theorem Inv.render (hi : Inv w) (hep : i.configValid = true → HasEndpoint i.backend)
    (ha : renderPgbConfig w u i = some w') (f : UnitId) (k : String) (hk : k ≠ "*") (d : DbEntry)
    (hd : (w'.rendered f).get? k = some d) : (w'.ini f).contains d.name = true := by
  rcases renderPgbConfig_cases ha with ⟨-, rfl⟩ | ⟨hvalid, cfg, hcfg, rfl⟩
  · exact hi.rendered f k hk d hd
  · by_cases hf : f = u
    · subst hf
      obtain ⟨hrel, hany⟩ := hep hvalid
      obtain ⟨endpoint, hend, hlen⟩ := (Option.any_eq_true _ _).mp hany
      obtain ⟨host, port, hsplit⟩ := List.length_eq_two.mp (of_decide_eq_true hlen)
      simp only [Function.update_self] at hd ⊢
      have hne : d.name ≠ "*" := hi.name_ne (n := 2) hk hd
      cases hview : w.view f with
      | none =>
        rw [hview] at hd
        cases hd
      | some dbs =>
        rw [hview] at hd hcfg
        exact contains_relationConfig hrel hend hsplit hcfg hd hne
    · simp only [Function.update_of_ne hf] at hd ⊢
      exact hi.rendered f k hk d hd

theorem inv_init (hw : (machine lower).init w) : Inv w := by
  obtain ⟨hrel, hdbs, hcom, hview, hren, hack, hseen⟩ := hw
  have hempty : w.app.databases = .empty := by rw [App.databases, hdbs]; rfl
  refine ⟨⟨?_, Setup.forall_of_empty hrel⟩, ?_, ?_⟩
  · intro k _ d hd
    rw [hempty] at hd
    cases hd
  · intro f
    have hp : w.pipeline f = fun _ => .empty := by
      funext n
      rcases n with _ | _ | _ | _ | _ | _ | n <;>
        simp [World.pipeline, hempty, hcom, hview, hren, hack, hseen]
    rw [hp]
    exact antitone_const
  · intro f k _ d hd
    rw [hren] at hd
    cases hd

theorem inv_step (hk : AllKept w.app) (hi : Inv w) (hg : Orderly w a)
    (ha : step lower w a = some w') : Inv w' where
  antitone f := (step_refines hk hi.entries hg ha f).antitone (hi.antitone f)
  entries := by
    rcases app_step ha with he | ⟨c, b, rfl, hb, hs⟩
    · rw [he]
      exact hi.entries
    · refine entries_step hk hi.entries ?_ hs
      rintro rid data rfl
      cases c <;> cases hb
      exact hg
  rendered := by
    cases a with
    | setup a =>
      obtain ⟨b, s, -, -, rfl⟩ := setup_cases ha
      exact hi.rendered
    | commit => cases ha; exact hi.rendered
    | deliver u => cases ha; exact hi.rendered
    | peerChanged u i =>
      rcases peerChanged_cases hg ha with rfl | ⟨hep, w₁, hw₁, -, rfl⟩
      · exact hi.rendered
      · intro f
        exact hi.render (fun _ => hep) hw₁ f
    | render u i => exact hi.render hg ha
    | deliverAck u => cases ha; exact hi.rendered

theorem inv_of_reach (hw : (machine lower).Reach Orderly w) : Inv w :=
  hw.invariant (fun _ => inv_init) fun _ _ _ hr hi hg ha => inv_step (allKept_of_reach hr) hi hg ha

/-- Whoever the leader sees to have acknowledged a map has its databases. -/
theorem Inv.barrier (hi : Inv w) {h : Hook} {dbs : Dbs} {k : String} {d : DbEntry}
    (hs : (w.atLeader h).synced dbs = true) (hk : k ≠ "*") (hd : dbs.get? k = some d) {f : UnitId}
    (hf : f ∈ w.followers) : (w.ini f).contains d.name = true := by
  have hseen : w.seen f = some dbs := of_decide_eq_true (List.all_eq_true.mp hs f hf)
  have hle : (w.seen f).getD .empty ≤ w.rendered f := hi.antitone f (by decide : 3 ≤ 5)
  rw [hseen] at hle
  exact hi.rendered f k hk d (hle k hk d hd)

/-- In orderly runs the leader publishes credentials for a relation only when
    the ini of every follower has the relation's database. -/
theorem barrier_of_reach (hw : (machine lower).Reach Orderly w)
    (hp : Publishes lower w a rid database) :
    ∀ f ∈ w.followers, (w.ini f).contains database = true := by
  intro f hf
  have hi := inv_of_reach hw
  cases a with
  | setup a =>
    cases a with
    | joined h x =>
      obtain ⟨rfl, r, hr, -, hu, -, -, -, hs⟩ := hp
      exact hi.barrier (d := ⟨database, true, none⟩) hs (str_ne_star x)
        (by rw [get?_joinDatabases hr hu, if_pos rfl]) hf
    | requested h x =>
      obtain ⟨rfl, r, hr, -, hu, -, -, -, hs, -⟩ := hp
      exact hi.barrier (d := ⟨database, false, none⟩) hs (str_ne_star x)
        (by rw [get?_requestDatabases hu, if_pos rfl]) hf
    | relate _ _ => cases hp
    | write _ _ => cases hp
    | elect _ => cases hp
    | changed _ _ => cases hp
  | commit => cases hp
  | deliver _ => cases hp
  | peerChanged _ _ => cases hp
  | render _ _ => cases hp
  | deliverAck _ => cases hp

end Barrier

/-! ## Two runs -/

/-- Nothing has happened yet; unit 0 leads, unit 1 follows. -/
def sampleWorld : World :=
  ⟨sampleApp, [1], none, fun _ => none, fun _ => .empty, fun _ => .empty, fun _ => none,
    fun _ => none⟩

/-- A hook in which unit 1 renders. -/
def sampleRender : RenderInput := ⟨true, true, id, sampleBackend⟩

theorem init_sampleWorld : (machine Text.asciiLower).init sampleWorld :=
  ⟨rfl, rfl, rfl, fun _ => rfl, fun _ => rfl, fun _ => rfl, fun _ => rfl⟩

/-- Relation 1 asks for `a` and relation 2 for `b`. The join of relation 1 is
    deferred, its map reaches unit 1 and is acknowledged. The next hook of the
    leader re-emits the join before it sees the acknowledgement and then handles
    the join of relation 2, whose rebuilt map has no entry for relation 1. Unit 1
    renders that map. -/
def overwritten : List Action :=
  [.setup (.relate 1 .db), .setup (.write 1 (asking "a")), .setup (.relate 2 .db),
    .setup (.write 2 (asking "b")), .setup (.joined (sampleHook 0) 1), .commit, .deliver 1,
    .peerChanged 1 sampleRender, .setup (.joined (sampleHook 0) 1),
    .setup (.joined (sampleHook 0) 2), .commit, .deliver 1, .deliverAck 1,
    .peerChanged 1 sampleRender]

instance (lower : String → String) (h : Hook) (s : App) (rid : RelId) (r : Relation)
    (database : String) : Decidable (Setup.Publishes lower h s rid r database) :=
  inferInstanceAs (Decidable (_ ∧ _ ∧ _ ∧ _ ∧ _))

/-- The leader now publishes the credentials of relation 1 although the ini of
    unit 1 has `b` only. -/
theorem published_too_early :
    ∃ w h, (machine Text.asciiLower).Reach Machine.always w ∧
      Publishes Text.asciiLower w (.setup (.joined h 1)) 1 "a" ∧ 1 ∈ w.followers ∧
      (w.ini 1).contains "b" = true ∧ (w.ini 1).contains "a" = false := by
  obtain ⟨w, hw, hp⟩ := Machine.exists_reach_of_exec (machine Text.asciiLower) Machine.always
    sampleWorld overwritten
    (fun w => w.followers == [1] && (w.ini 1).contains "b" && !(w.ini 1).contains "a" &&
      (w.app.relations.get? 1).any fun r => r.endpoint.legacy &&
        decide (Setup.Publishes Text.asciiLower (w.atLeader (sampleHook 0)) w.app 1 r "a"))
    init_sampleWorld (by decide)
  simp only [Bool.and_eq_true, Option.any_eq_true, beq_iff_eq, Bool.not_eq_true',
    decide_eq_true_eq] at hp
  obtain ⟨⟨⟨hfol, hb⟩, hna⟩, r, hr, hleg, hpub⟩ := hp
  exact ⟨w, sampleHook 0, hw, ⟨rfl, r, hr, hleg, hpub⟩, by simp [hfol], hb, hna⟩

/-- Relation 1 alone: unit 1 has `a` when the leader publishes. -/
theorem published_in_order :
    ∃ w h, (machine Text.asciiLower).Reach Orderly w ∧
      Publishes Text.asciiLower w (.setup (.joined h 1)) 1 "a" ∧ 1 ∈ w.followers ∧
      ∀ f ∈ w.followers, (w.ini f).contains "a" = true := by
  obtain ⟨w, hw, hp⟩ := Machine.exists_reach_of_exec (machine Text.asciiLower) Orderly
    sampleWorld [.setup (.relate 1 .db), .setup (.write 1 (asking "a")),
      .setup (.joined (sampleHook 0) 1), .commit, .deliver 1, .peerChanged 1 sampleRender,
      .deliverAck 1]
    (fun w => w.followers == [1] && (w.app.relations.get? 1).any fun r => r.endpoint.legacy &&
      decide (Setup.Publishes Text.asciiLower (w.atLeader (sampleHook 0)) w.app 1 r "a"))
    init_sampleWorld (by decide)
  simp only [Bool.and_eq_true, Option.any_eq_true, beq_iff_eq, decide_eq_true_eq] at hp
  obtain ⟨hfol, r, hr, hleg, hpub⟩ := hp
  have hpub : Publishes Text.asciiLower w (.setup (.joined (sampleHook 0) 1)) 1 "a" :=
    ⟨rfl, r, hr, hleg, hpub⟩
  exact ⟨w, _, hw, hpub, by simp [hfol], barrier_of_reach hw hpub⟩

end Sync

end PgBouncerK8s
