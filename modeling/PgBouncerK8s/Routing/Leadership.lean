import PgBouncerK8s.Relations.Setup

/-!
# The map across changes of leadership

`generate_relation_databases` reads the database of a legacy relation from
`relation.data[self.unit]`. Only the unit that led when the relation was joined
has it there, so the map a later leader rebuilds has no entry for it.

* `routed_of_reach`: in every run in which the unit that rebuilds the map has
  the databases of the other published legacy relations in its own databags,
  every published relation keeps its entry.
* `entry_lost_on_election`: a run in which it does not.
-/

namespace PgBouncerK8s

open Text (str)

namespace Setup

variable {lower : String → String} {h : Hook} {s s' : App} {rid : RelId} {r r' : Relation}
  {database : String}

/-- Every relation with published credentials has its entry in the map. -/
def Routed (s : App) : Prop :=
  ∀ rid r, s.relations.get? rid = some r → r.published = true →
    ∃ d, r.remote.get "database" = some d ∧
      s.databases.get? (str rid) = some ⟨d, r.endpoint.legacy, none⟩

/-- Unit `u` has the databases of the published legacy relations other than
    `rid` in its own databags. -/
def OwnsPublished (s : App) (u : UnitId) (rid : RelId) : Prop :=
  ∀ x r, s.relations.get? x = some r → x ≠ rid → r.endpoint.legacy = true →
    r.published = true → (r.unit u).contains "database" = true

instance (s : App) (u : UnitId) (rid : RelId) : Decidable (OwnsPublished s u rid) :=
  decidable_of_iff (∀ p ∈ s.relations.items, p.1 ≠ rid → p.2.endpoint.legacy = true →
      p.2.published = true → (p.2.unit u).contains "database" = true)
    ⟨fun hp x r hr => hp (x, r) ((Dict.get?_eq_some_iff _ x r).mp hr),
      fun ho p hp => ho p.1 p.2 ((Dict.get?_eq_some_iff _ p.1 p.2).mpr hp)⟩

/-- Where the step rebuilds the map, its unit owns what it has to read. -/
def OwnerRebuilds (s : App) : Action → Prop
  | .joined h rid => Rebuilds s (.joined h rid) → OwnsPublished s h.unit rid
  | .requested h rid => Rebuilds s (.requested h rid) → OwnsPublished s h.unit rid
  | _ => True

instance (s : App) : (a : Action) → Decidable (OwnerRebuilds s a)
  | .relate _ _ => inferInstanceAs (Decidable True)
  | .write _ _ => inferInstanceAs (Decidable True)
  | .elect _ => inferInstanceAs (Decidable True)
  | .joined _ _ => inferInstanceAs (Decidable (_ → _))
  | .changed _ _ => inferInstanceAs (Decidable True)
  | .requested _ _ => inferInstanceAs (Decidable (_ → _))

/-- A step that leaves the map and the publication of the relation alone. -/
theorem Routed.keep (hi : Routed s) (hr : s.relations.get? rid = some r)
    (ht : Touches s s' rid r') (hdbs : s'.databases = s.databases)
    (hep : r'.endpoint = r.endpoint)
    (hremote : ∀ d, r.remote.get "database" = some d → r'.remote.get "database" = some d)
    (hpub : r'.published = true → r.published = true) : Routed s' := by
  refine ht.forall_relations (fun hqp => ?_) fun x q _ hq hqp => ?_
  · obtain ⟨d, hd, he⟩ := hi rid r hr (hpub hqp)
    exact ⟨d, hremote d hd, by rw [hdbs, he, hep]⟩
  · rw [hdbs]
    exact hi x q hq hqp

/-- A step that rebuilds the map, on a unit that owns what it reads. -/
theorem Routed.rebuilt (hk : AllKept s) (ht : Touches s s' rid r')
    (hown : OwnsPublished s h.unit rid)
    (hmap : ∀ x, s'.databases.get? (str x) =
      if x = rid then some ⟨database, r'.endpoint.legacy, none⟩
      else (s.relations.get? x).bind (rebuildEntry h.unit))
    (hdb : r'.remote.get "database" = some database) : Routed s' := by
  refine ht.forall_relations (fun _ => ?_) fun x q hx hq hqp => ?_
  · exact ⟨database, hdb, by rw [hmap, if_pos rfl]⟩
  · have hkq := hk x q hq
    rw [hmap, if_neg hx, hq, Option.bind_some]
    unfold rebuildEntry
    cases hleg : q.endpoint.legacy with
    | true =>
      obtain ⟨d, hd⟩ := Option.isSome_iff_exists.mp (hown x q hq hx hleg hqp)
      exact ⟨d, hkq.unit_database _ d hd, by simp [hd]⟩
    | false =>
      obtain ⟨d, hd⟩ := Option.isSome_iff_exists.mp (hkq.app_together hqp)
      have hremote := hkq.app_database d hd
      exact ⟨d, hremote, by simp [hremote]⟩

theorem Routed.joined (hk : AllKept s) (hi : Routed s) (hr : s.relations.get? rid = some r)
    (hleg : r.endpoint.legacy = true) (hg : OwnerRebuilds s (.joined h rid)) :
    Routed (DbProvides.onRelationJoined lower h s rid r).app := by
  have he := DbProvides.joined_effect lower h s rid r
  generalize DbProvides.onRelationJoined lower h s rid r = res at he
  cases he with
  | follower _ => exact hi
  | notReady _ _ => exact hi
  | blocked _ _ _ hc =>
    exact hi.keep hr (.put hr _) rfl hc.endpoint (fun d hd => by rwa [hc.remote])
      fun hp => by rwa [published_copies hc] at hp
  | noDatabase _ _ _ hc _ =>
    exact hi.keep hr (.put hr _) rfl hc.endpoint (fun d hd => by rwa [hc.remote])
      fun hp => by rwa [published_copies hc] at hp
  | unsynced hl hready hb hc hdb _ =>
    have hown := hg (rebuilds_joined hr hl hready hb hdb)
    refine Routed.rebuilt hk ((Touches.put hr _).setDatabases _) hown (fun x => ?_)
      (by rwa [hc.remote])
    rw [App.databases_setRelationDatabases, get?_joinDatabases hr hl, hc.endpoint, hleg]
  | served hl hready hb hc hdb _ =>
    have hown := hg (rebuilds_joined hr hl hready hb hdb)
    refine Routed.rebuilt hk
      (touches_publishAndCreate ((Touches.put hr _).setDatabases _) _ _ _) hown (fun x => ?_)
      (by simpa [hc.remote] using hdb)
    rw [databases_publishAndCreate, App.databases_setRelationDatabases, get?_joinDatabases hr hl,
      Relation.updateDatabags_endpoint, hc.endpoint, hleg]

theorem Routed.requested (hk : AllKept s) (hi : Routed s) (hr : s.relations.get? rid = some r)
    (hleg : r.endpoint.legacy = false) (hdb : r.remote.get "database" = some database)
    (hg : OwnerRebuilds s (.requested h rid)) :
    Routed (PgBouncerProvider.onDatabaseRequested lower h s rid r database).app := by
  have he := PgBouncerProvider.requested_effect lower h s rid r database
  generalize hres : PgBouncerProvider.onDatabaseRequested lower h s rid r database = res at he
  obtain ⟨r', ht, hr'⟩ := touches_requested lower h hr database
  rw [hres] at ht
  have hep : r'.endpoint = r.endpoint := by rcases hr' with rfl | rfl <;> rfl
  have hremote : r'.remote = r.remote := by rcases hr' with rfl | rfl <;> rfl
  cases he with
  | follower _ => exact hi
  | notReady _ _ => exact hi
  | unsynced hl hready heps _ =>
    refine Routed.rebuilt hk ht (hg ⟨hl, hready, heps⟩) (fun x => ?_) (by rwa [hremote])
    rw [App.databases_setRelationDatabases, get?_requestDatabases hl, hep, hleg]
  | served hl hready heps _ =>
    refine Routed.rebuilt hk ht (hg ⟨hl, hready, heps⟩) (fun x => ?_) (by rwa [hremote])
    rw [databases_createAndPublish, App.databases_setRelationDatabases, get?_requestDatabases hl,
      hep, hleg]

theorem Routed.changed (hk : AllKept s) (hi : Routed s) (hr : s.relations.get? rid = some r) :
    Routed (onChanged h s rid r) := by
  obtain ⟨r', ht, hcases⟩ := touches_changed h hr
  rcases hcases with rfl | rfl | ⟨_, _, _, _, _, hp, _, rfl⟩
  · exact hi.keep hr ht (databases_onChanged s rid _) rfl (fun _ hd => hd) id
  · exact hi.keep hr ht (databases_onChanged s rid r) rfl (fun _ hd => hd) id
  · refine hi.keep hr ht (databases_onChanged s rid r) rfl (fun _ hd => hd) fun _ => ?_
    exact ((hk rid r hr).unit_together h.unit (by simp [Databag.contains, hp])).2.2

theorem routed_step (lower : String → String) {a : Action} (hk : AllKept s) (hi : Routed s)
    (hg : OwnerRebuilds s a)
    (ha : step lower s a = some s') : Routed s' := by
  cases step_effect lower ha with
  | relate hnone =>
    refine Dict.forall_get?_set (fun hqp => ?_) fun x q _ hq => hi x q hq
    simp [Relation.published, Relation.new, Databag.contains, Databag.empty] at hqp
  | write hr hw => exact hi.keep hr (.put hr _) rfl rfl hw id
  | elect => exact hi
  | joined hr hleg => exact hi.joined hk hr hleg hg
  | changed hr => exact hi.changed hk hr
  | requested hr hleg hdb => exact hi.requested hk hr hleg hdb hg

/-- In every run whose rebuilds all happen on a unit that owns the databases of
    the other published legacy relations, no published relation is ever without
    its entry. -/
theorem routed_of_reach (hs : (machine lower).Reach OwnerRebuilds s) : Routed s := by
  exact hs.invariant (I := Routed) (fun s hs => forall_of_empty hs) fun s a s' hreach hi hg ha =>
    routed_step lower (kept_of_reach hreach) hi hg ha

/-- Two `db` relations, the second joined after leadership has moved to unit 1. -/
def electionTrace : List Action :=
  [.relate 1 .db, .write 1 (asking "a"), .joined (sampleHook 0) 1, .elect 1,
    .relate 2 .db, .write 2 (asking "b"), .joined (sampleHook 1) 2]

/-- Relation 1 has its credentials and its client still wants `a`, but the map
    has no entry for it. -/
theorem entry_lost_on_election :
    ∃ s r, (machine Text.asciiLower).Reach Machine.always s ∧ s.relations.get? 1 = some r ∧
      r.published = true ∧ r.remote.get "database" = some "a" ∧
      s.databases.get? (str 1) = none ∧ ¬ Routed s := by
  obtain ⟨s, hs, hp⟩ := Machine.exists_reach_of_exec (machine Text.asciiLower)
    Machine.always sampleApp electionTrace
    (fun s => (s.databases.get? (str 1)).isNone && (s.relations.get? 1).any fun r =>
      r.published && r.remote.get "database" == some "a") rfl (by decide)
  simp only [Bool.and_eq_true, Option.isNone_iff_eq_none, Option.any_eq_true, beq_iff_eq] at hp
  obtain ⟨hnone, r, hr, hpub, hdb⟩ := hp
  refine ⟨s, r, hs, hr, hpub, hdb, hnone, fun hi => ?_⟩
  obtain ⟨d, -, he⟩ := hi 1 r hr hpub
  rw [hnone] at he
  cases he

/-- The same relations joined one after the other by unit 0. -/
theorem routed_without_election :
    ∃ s r, (machine Text.asciiLower).Reach OwnerRebuilds s ∧ s.relations.get? 1 = some r ∧
      r.published = true ∧ Routed s := by
  obtain ⟨s, hs, hp⟩ := Machine.exists_reach_of_exec (machine Text.asciiLower)
    OwnerRebuilds sampleApp
    [.relate 1 .db, .write 1 (asking "a"), .joined (sampleHook 0) 1, .relate 2 .db,
      .write 2 (asking "b"), .joined (sampleHook 0) 2]
    (fun s => (s.relations.get? 1).any fun r => r.published) rfl (by decide)
  obtain ⟨r, hr, hpub⟩ := (Option.any_eq_true _ _).mp hp
  exact ⟨s, r, hs, hr, hpub, routed_of_reach hs⟩

end Setup

end PgBouncerK8s
