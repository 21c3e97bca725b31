import PgBouncerK8s.Relations.Setup

/-!
# Who gets the wildcard

The decision is written three times: `_on_relation_joined` gives the wildcard
to `db-admin`, `_on_database_requested` tests for ten roles, and
`generate_relation_databases`, which rebuilds the map for every other relation,
tests for eight of them. `charmed_admin` and `charmed_backup` are missing there.

* `contains_star_iff`: the wildcard after a relation has been handled comes from
  that relation, or from an earlier one that passes the test of the rebuild.
* `wildcard_agrees_iff`: when this is what the request path promises.
* `wildcard_withdrawn`: a client without roles takes the wildcard of a
  `charmed_admin` client away.
* `usableWildcard_iff`: when the rebuilt wildcard names a database of the map to
  authenticate against.
-/

namespace PgBouncerK8s

open Text (str)

variable (lower : String → String)

/-- An admin relation: `db-admin`, or a client whose roles pass the test of
    `_on_database_requested`. -/
def Relation.admin (r : Relation) : Bool :=
  match r.endpoint with
  | .db => false
  | .dbAdmin => true
  | .database => anyRole requestRoles (PgBouncerProvider.requestedRoles lower r)

/-- A relation for which the rebuild keeps the wildcard: `db-admin`, or a client
    with one of the eight roles `generate_relation_databases` tests for. -/
def Relation.keepsWildcard (r : Relation) : Bool :=
  match r.endpoint with
  | .db => false
  | .dbAdmin => true
  | .database => anyRole rebuildRoles (sanitizeExtraRoles lower (r.remote.get "extra-user-roles"))

namespace Setup

/-! ## Relations handled one after the other -/

/-- The event that asks for the database of a relation: `relation-joined` of a
    legacy relation, `database_requested` of a client relation. -/
def handle (h : Hook) (s : App) (rid : RelId) : Option Result :=
  (s.relations.get? rid).bind fun r =>
    if r.endpoint.legacy then some (DbProvides.onRelationJoined lower h s rid r)
    else (r.remote.get "database").map fun database =>
      PgBouncerProvider.onDatabaseRequested lower h s rid r database

/-- The leader handles the event of relation `rid` until it is not deferred any
    more; nothing fails. -/
inductive Completes (rid : RelId) : App → App → Prop
  | done {h : Hook} {s s' : App} : h.unit = s.leader →
      handle lower h s rid = some ⟨s', .returned⟩ → Completes rid s s'
  | retry {h : Hook} {s s₁ s' : App} : h.unit = s.leader →
      handle lower h s rid = some ⟨s₁, .deferred⟩ → Completes rid s₁ s' → Completes rid s s'

/-- A relation on which the client has written its data and nothing has been
    handled yet. -/
def written (ep : Endpoint) (data : Databag) : Relation := { Relation.new ep with remote := data }

/-- The relations of the list, the latest first, have been handled to
    completion, each before the data of the next one appeared. -/
inductive Handled : List RelId → App → Prop
  | start {s : App} : s.relations = .empty → Handled [] s
  | relate {l : List RelId} {s : App} {rid : RelId} (ep : Endpoint) : Handled l s →
      s.relations.get? rid = none →
      Handled l { s with relations := s.relations.set rid (Relation.new ep) }
  | serve {l : List RelId} {s s' : App} {rid : RelId} {ep : Endpoint} (data : Databag) :
      Handled l s → s.relations.get? rid = some (Relation.new ep) →
      data.contains "database" = true →
      Completes lower rid (s.putRelation rid (written ep data)) s' →
      Handled (rid :: l) s'

/-! ## The two tests -/

variable {lower} {h : Hook} {s s' : App} {rid : RelId} {r r' : Relation} {u : UnitId}
  {l : List RelId}

theorem anyRole_eq_true {names roles : List String} :
    anyRole names roles = true ↔ ∃ name ∈ names, name ∈ roles := by
  simp [anyRole]

theorem rebuildRoles_subset : rebuildRoles ⊆ requestRoles := by decide

/-- The role that is appended to the requested ones is not among those tested. -/
theorem anyRole_requestedRoles :
    anyRole requestRoles (PgBouncerProvider.requestedRoles lower r) =
      anyRole requestRoles (sanitizeExtraRoles lower (r.remote.get "extra-user-roles")) := by
  have hnot : ∀ name ∈ requestRoles, name ≠ "relation_access" := by decide
  rw [Bool.eq_iff_iff, anyRole_eq_true, anyRole_eq_true]
  unfold PgBouncerProvider.requestedRoles
  constructor
  · rintro ⟨name, hn, hm⟩
    rcases List.mem_append.mp hm with hm | hm
    · exact ⟨name, hn, hm⟩
    · exact absurd (List.mem_singleton.mp hm) (hnot name hn)
  · rintro ⟨name, hn, hm⟩
    exact ⟨name, hn, List.mem_append_left _ hm⟩

theorem keepsWildcard_of_rebuildAdmin (hr : rebuildAdmin lower u r = true) :
    r.keepsWildcard lower = true := by
  unfold rebuildAdmin at hr
  unfold Relation.keepsWildcard
  cases hep : r.endpoint <;> simp_all

theorem admin_of_keepsWildcard (hr : r.keepsWildcard lower = true) : r.admin lower = true := by
  unfold Relation.keepsWildcard at hr
  unfold Relation.admin
  cases hep : r.endpoint with
  | db => simp [hep] at hr
  | dbAdmin => rfl
  | database =>
    simp only [hep] at hr ⊢
    rw [anyRole_requestedRoles]
    obtain ⟨name, hn, hm⟩ := anyRole_eq_true.mp hr
    exact anyRole_eq_true.mpr ⟨name, rebuildRoles_subset hn, hm⟩

/-! ## One event -/

theorem publishAndCreate_ne_deferred (s : App) (rid : RelId) (r : Relation)
    (user password database : String) :
    (DbProvides.publishAndCreate h s rid r user password database).outcome ≠ .deferred := by
  unfold DbProvides.publishAndCreate
  simp only
  split_ifs <;> simp

theorem createAndPublish_ne_deferred (s : App) (rid : RelId) (r : Relation) (database : String) :
    (PgBouncerProvider.createAndPublish h s rid r database).outcome ≠ .deferred := by
  unfold PgBouncerProvider.createAndPublish
  simp only
  split_ifs <;> simp

/-- The wildcard after the map has been rebuilt for relation `rid` and the
    relation's own entries have been put on top. -/
theorem contains_star_of_rebuilt (hr : s.relations.get? rid = some r)
    (hep : r'.endpoint = r.endpoint) (hremote : r'.remote = r.remote) {admin : Bool}
    (hadmin : admin = r.admin lower) {dbs : Dbs}
    (hdbs : dbs.contains "*" = true ↔ admin = true ∨
      ∃ x q, (s.putRelation rid r').relations.get? x = some q ∧ rebuildAdmin lower u q = true) :
    dbs.contains "*" = true ↔ r.admin lower = true ∨
      ∃ x q, x ≠ rid ∧ s.relations.get? x = some q ∧ rebuildAdmin lower u q = true := by
  rw [hdbs, hadmin]
  constructor
  · rintro (ha | ⟨x, q, hq, hq'⟩)
    · exact .inl ha
    · rw [App.get?_putRelation hr] at hq
      split_ifs at hq with hx
      · obtain rfl : r' = q := by simpa using hq
        have hkeep := keepsWildcard_of_rebuildAdmin hq'
        unfold Relation.keepsWildcard at hkeep
        rw [hep, hremote] at hkeep
        exact .inl (admin_of_keepsWildcard hkeep)
      · exact .inr ⟨x, q, hx, hq, hq'⟩
  · rintro (ha | ⟨x, q, hx, hq, hq'⟩)
    · exact .inl ha
    · exact .inr ⟨x, q, by rwa [App.get?_putRelation hr, if_neg hx], hq'⟩

theorem joined_admin (hleg : r.endpoint.legacy = true) :
    decide (r.endpoint = .dbAdmin) = r.admin lower := by
  unfold Relation.admin
  cases hep : r.endpoint with
  | database => simp [hep, Endpoint.legacy] at hleg
  | db => rfl
  | dbAdmin => rfl

theorem requested_admin (hleg : r.endpoint.legacy = false) :
    anyRole requestRoles (PgBouncerProvider.requestedRoles lower r) = r.admin lower := by
  unfold Relation.admin
  cases hep : r.endpoint with
  | database => rfl
  | db => simp [hep, Endpoint.legacy] at hleg
  | dbAdmin => simp [hep, Endpoint.legacy] at hleg

/-- A deferred event leaves the relations as they were, but for copied
    extensions. -/
theorem handle_deferred (hr : s.relations.get? rid = some r)
    (hres : handle lower h s rid = some ⟨s', .deferred⟩) :
    ∃ r', Touches s s' rid r' ∧ DbProvides.CopiesExtensions r r' := by
  rw [handle, hr, Option.bind_some] at hres
  split_ifs at hres with hleg
  · have he := DbProvides.joined_effect lower h s rid r
    rw [Option.some_inj] at hres
    generalize DbProvides.onRelationJoined lower h s rid r = res at he hres
    cases he with
    | follower _ => cases hres
    | notReady _ _ =>
      cases hres
      exact ⟨r, .refl hr, .refl r⟩
    | blocked _ _ _ _ => cases hres
    | noDatabase _ _ _ hc _ =>
      cases hres
      exact ⟨_, .put hr _, hc⟩
    | unsynced _ _ _ hc _ _ =>
      cases hres
      exact ⟨_, (Touches.put hr _).setDatabases _, hc⟩
    | served _ _ _ _ _ _ =>
      exact absurd (congrArg Result.outcome hres) (publishAndCreate_ne_deferred _ _ _ _ _ _)
  · obtain ⟨database, -, hres⟩ := Option.map_eq_some_iff.mp hres
    have he := PgBouncerProvider.requested_effect lower h s rid r database
    generalize PgBouncerProvider.onDatabaseRequested lower h s rid r database = res at he hres
    cases he with
    | follower _ => cases hres
    | notReady _ _ =>
      cases hres
      exact ⟨r, .refl hr, .refl r⟩
    | unsynced _ _ _ _ =>
      cases hres
      exact ⟨r, (Touches.refl hr).setDatabases _, .refl r⟩
    | served _ _ _ _ =>
      exact absurd (congrArg Result.outcome hres) (createAndPublish_ne_deferred _ _ _ _)

/-- An event that the leader completes leaves the map just rebuilt. -/
theorem handle_returned (hu : h.unit = s.leader) (hr : s.relations.get? rid = some r)
    (hres : handle lower h s rid = some ⟨s', .returned⟩) :
    (∃ r', Touches s s' rid r' ∧ r'.endpoint = r.endpoint ∧ r'.remote = r.remote ∧
        (r.endpoint.legacy = true → (r'.unit h.unit).contains "database" = true)) ∧
      (s'.databases.contains "*" = true ↔ r.admin lower = true ∨
        ∃ x q, x ≠ rid ∧ s.relations.get? x = some q ∧ rebuildAdmin lower h.unit q = true) := by
  rw [handle, hr, Option.bind_some] at hres
  split_ifs at hres with hleg
  · have he := DbProvides.joined_effect lower h s rid r
    rw [Option.some_inj] at hres
    obtain rfl : (DbProvides.onRelationJoined lower h s rid r).app = s' := by rw [hres]
    generalize DbProvides.onRelationJoined lower h s rid r = res at he hres
    cases he with
    | follower hne => exact absurd hu hne
    | notReady _ _ => cases hres
    | blocked _ _ _ _ => cases hres
    | noDatabase _ _ _ _ _ => cases hres
    | unsynced _ _ _ _ _ _ => cases hres
    | @served r'' database _ _ _ hc hdb _ =>
      refine ⟨⟨_, touches_publishAndCreate ((Touches.put hr _).setDatabases _) _ _ _,
        hc.endpoint, hc.remote, fun _ => ?_⟩, ?_⟩
      · rw [Relation.updateDatabags_unit, if_pos rfl, Databag.contains,
          Databag.get_update_credentials _ _ (generateUsername_ne s rid) (joinPassword_ne h _)
            (Databag.ne_empty_of_get hdb), if_pos rfl]
        rfl
      · rw [databases_publishAndCreate, App.databases_setRelationDatabases]
        refine contains_star_of_rebuilt hr hc.endpoint hc.remote (joined_admin hleg) ?_
        have hstar := contains_requested_star lower (s.putRelation rid r'') hu rid
          ⟨database, true, none⟩ ⟨"*", false, some database⟩ (decide (r.endpoint = .dbAdmin))
        simpa [DbProvides.joinDatabases] using hstar
  · obtain ⟨database, hdb, hres⟩ := Option.map_eq_some_iff.mp hres
    have he := PgBouncerProvider.requested_effect lower h s rid r database
    obtain ⟨r', ht, hr'⟩ := touches_requested lower h hr database
    obtain rfl : (PgBouncerProvider.onDatabaseRequested lower h s rid r database).app = s' := by
      rw [hres]
    generalize PgBouncerProvider.onDatabaseRequested lower h s rid r database = res at he hres ht
    refine ⟨⟨r', ht, by rcases hr' with rfl | rfl <;> rfl, by rcases hr' with rfl | rfl <;> rfl,
      fun hl => absurd hl hleg⟩, ?_⟩
    cases he with
    | follower hne => exact absurd hu hne
    | notReady _ _ => cases hres
    | unsynced _ _ _ _ => cases hres
    | served _ _ _ _ =>
      rw [databases_createAndPublish, App.databases_setRelationDatabases]
      have hself : ∀ x, (s.putRelation rid r).relations.get? x = s.relations.get? x := by
        intro x
        rw [App.get?_putRelation hr]
        split_ifs with hx
        · rw [hx, hr]
        · rfl
      refine contains_star_of_rebuilt hr rfl rfl (requested_admin (by simpa using hleg)) ?_
      simp only [hself]
      exact contains_requested_star lower s hu rid _ _ _

/-! ## A completed relation -/

theorem admin_congr (hep : r'.endpoint = r.endpoint) (hremote : r'.remote = r.remote) :
    r'.admin lower = r.admin lower := by
  unfold Relation.admin PgBouncerProvider.requestedRoles
  rw [hep, hremote]

theorem completes_spec (hc : Completes lower rid s s') (hr : s.relations.get? rid = some r) :
    (∃ r', Touches s s' rid r' ∧ r'.endpoint = r.endpoint ∧ r'.remote = r.remote ∧
        (r.endpoint.legacy = true → (r'.unit s.leader).contains "database" = true)) ∧
      (s'.databases.contains "*" = true ↔ r.admin lower = true ∨
        ∃ x q, x ≠ rid ∧ s.relations.get? x = some q ∧ rebuildAdmin lower s.leader q = true) := by
  induction hc generalizing r with
  | @done h s s' hu hres =>
    rw [← hu]
    exact handle_returned hu hr hres
  | @retry h s s₁ s' hu hres _ ih =>
    obtain ⟨r₁, ht₁, hc₁⟩ := handle_deferred hr hres
    obtain ⟨⟨r', ht, hep, hremote, hown⟩, hstar⟩ := ih ht₁.self
    rw [ht₁.leader] at hown hstar
    refine ⟨⟨r', ht₁.trans ht, by rw [hep, hc₁.endpoint], by rw [hremote, hc₁.remote], ?_⟩, ?_⟩
    · rwa [hc₁.endpoint] at hown
    · rw [hstar, admin_congr hc₁.endpoint hc₁.remote]
      have hrest : ∀ x q, (x ≠ rid ∧ s₁.relations.get? x = some q ∧
          rebuildAdmin lower s.leader q = true) ↔ (x ≠ rid ∧ s.relations.get? x = some q ∧
          rebuildAdmin lower s.leader q = true) := by
        intro x q
        refine and_congr_right fun hx => ?_
        rw [ht₁.get?, if_neg hx]
      simp only [hrest]

/-! ## All relations -/

/-- Relation `x` is live and admin. -/
def AdminAt (lower : String → String) (s : App) (x : RelId) : Prop :=
  ∃ r, s.relations.get? x = some r ∧ r.admin lower = true

/-- Relation `x` is live and the rebuild keeps the wildcard for it. -/
def KeepsAt (lower : String → String) (s : App) (x : RelId) : Prop :=
  ∃ r, s.relations.get? x = some r ∧ r.keepsWildcard lower = true

/-- What holds after the relations `l` have been handled. -/
structure HandledInv (lower : String → String) (l : List RelId) (s : App) : Prop where
  fresh : ∀ x r, s.relations.get? x = some r → x ∉ l → ∃ ep, r = Relation.new ep
  owned : ∀ x ∈ l, ∃ r, s.relations.get? x = some r ∧ r.remote.contains "database" = true ∧
    (r.endpoint.legacy = true → (r.unit s.leader).contains "database" = true)
  star : ∀ rid l', l = rid :: l' → (s.databases.contains "*" = true ↔
    AdminAt lower s rid ∨ ∃ x ∈ l', KeepsAt lower s x)

theorem not_rebuildAdmin_new (ep : Endpoint) : rebuildAdmin lower u (Relation.new ep) = false := by
  cases ep with
  | db => rfl
  | dbAdmin => rfl
  | database =>
    simp [rebuildAdmin, Relation.new, Databag.empty, sanitizeExtraRoles, anyRole]

/-- On the unit that joined them, the rebuild keeps the wildcard for all
    relations for which it tests. -/
theorem rebuildAdmin_eq (hown : r.endpoint.legacy = true → (r.unit u).contains "database" = true) :
    rebuildAdmin lower u r = r.keepsWildcard lower := by
  unfold rebuildAdmin Relation.keepsWildcard
  cases hep : r.endpoint with
  | db => rfl
  | dbAdmin => exact hown (by rw [hep]; rfl)
  | database => rfl

theorem HandledInv.relate (hi : HandledInv lower l s) (hnone : s.relations.get? rid = none)
    (ep : Endpoint) :
    HandledInv lower l { s with relations := s.relations.set rid (Relation.new ep) } := by
  have hget : ∀ x, x ∈ l → (s.relations.set rid (Relation.new ep)).get? x = s.relations.get? x := by
    intro x hx
    refine Dict.get?_set_of_ne _ ?_ _
    rintro rfl
    obtain ⟨r, hr, -⟩ := hi.owned x hx
    rw [hnone] at hr
    cases hr
  refine ⟨?_, fun x hx => ?_, fun x l' hl => ?_⟩
  · exact Dict.forall_get?_set (fun _ => ⟨ep, rfl⟩) fun x r _ hr => hi.fresh x r hr
  · simp only [hget x hx]
    exact hi.owned x hx
  · subst hl
    have hiff := hi.star x l' rfl
    unfold AdminAt KeepsAt at hiff ⊢
    simp only [hget x List.mem_cons_self]
    refine hiff.trans (or_congr_right ?_)
    refine exists_congr fun y => and_congr_right fun hy => ?_
    simp only [hget y (List.mem_cons_of_mem _ hy)]

theorem HandledInv.serve {ep : Endpoint} {data : Databag} (hi : HandledInv lower l s)
    (hr : s.relations.get? rid = some (Relation.new ep)) (hdata : data.contains "database" = true)
    (hc : Completes lower rid (s.putRelation rid (written ep data)) s') :
    HandledInv lower (rid :: l) s' := by
  have hnot : rid ∉ l := by
    intro hl
    obtain ⟨r, hr', hasked, -⟩ := hi.owned rid hl
    rw [hr, Option.some_inj] at hr'
    simp [← hr', Relation.new, Databag.contains, Databag.empty] at hasked
  have hput := Touches.put hr (written ep data)
  obtain ⟨⟨r', ht, hep, hremote, hown⟩, hstar⟩ := completes_spec hc hput.self
  rw [hput.leader] at hown hstar
  have htouch := hput.trans ht
  have hrest : ∀ x, x ≠ rid → s'.relations.get? x = s.relations.get? x := fun x hx => by
    rw [htouch.get?, if_neg hx]
  refine ⟨fun x q hq hx => ?_, fun x hx => ?_, fun x l' hl => ?_⟩
  · obtain ⟨hne, hx⟩ := not_or.mp (List.mem_cons.not.mp hx)
    rw [hrest x hne] at hq
    exact hi.fresh x q hq hx
  · rcases List.mem_cons.mp hx with rfl | hxl
    · refine ⟨r', ht.self, by rwa [hremote], fun hleg => ?_⟩
      rw [hep] at hleg
      rw [htouch.leader]
      exact hown hleg
    · have hne : x ≠ rid := by
        rintro rfl
        exact hnot hxl
      rw [hrest x hne, htouch.leader]
      exact hi.owned x hxl
  · obtain ⟨rfl, rfl⟩ : rid = x ∧ l = l' := by simpa using hl
    rw [hstar]
    have hlast : AdminAt lower s' rid ↔
        (written ep data).admin lower = true := by
      unfold AdminAt
      rw [ht.self]
      simp only [Option.some_inj, exists_eq_left', admin_congr hep hremote]
    rw [hlast]
    refine or_congr_right ⟨?_, ?_⟩
    · rintro ⟨x, q, hx, hq, hadmin⟩
      rw [hput.get?, if_neg hx] at hq
      by_cases hxl : x ∈ l
      · exact ⟨x, hxl, q, by rwa [hrest x hx], keepsWildcard_of_rebuildAdmin hadmin⟩
      · obtain ⟨ep', rfl⟩ := hi.fresh x q hq hxl
        rw [not_rebuildAdmin_new] at hadmin
        cases hadmin
    · rintro ⟨x, hxl, q, hq, hkeep⟩
      have hx : x ≠ rid := by
        rintro rfl
        exact hnot hxl
      rw [hrest x hx] at hq
      obtain ⟨q', hq', -, hown'⟩ := hi.owned x hxl
      obtain rfl : q = q' := by simpa [hq] using hq'
      exact ⟨x, q, hx, by rw [hput.get?, if_neg hx, hq], by rw [rebuildAdmin_eq hown', hkeep]⟩

theorem handled_inv (hs : Handled lower l s) : HandledInv lower l s := by
  induction hs with
  | start h =>
    refine ⟨fun x r hr => ?_, fun x hx => absurd hx List.not_mem_nil, fun _ _ hl => by cases hl⟩
    rw [h] at hr
    cases hr
  | relate ep _ hnone ih => exact ih.relate hnone ep
  | serve data _ hr hdata hc ih => exact ih.serve hr hdata hc

/-- The wildcard after a relation has been handled: the relation is admin, or
    the rebuild keeps it for a relation handled before. -/
theorem contains_star_iff (hs : Handled lower (rid :: l) s) :
    s.databases.contains "*" = true ↔ AdminAt lower s rid ∨ ∃ x ∈ l, KeepsAt lower s x :=
  (handled_inv hs).star rid l rfl

theorem AdminAt.of_keeps {x : RelId} (h : KeepsAt lower s x) : AdminAt lower s x := by
  obtain ⟨r, hr, hk⟩ := h
  exact ⟨r, hr, admin_of_keepsWildcard hk⟩

/-- The wildcard is there iff some relation handled so far is admin, exactly
    when none is, or the last one is, or some other one passes the test of the
    rebuild. -/
theorem wildcard_agrees_iff (hs : Handled lower (rid :: l) s) :
    (s.databases.contains "*" = true ↔ ∃ x ∈ rid :: l, AdminAt lower s x) ↔
      ((∃ x ∈ rid :: l, AdminAt lower s x) →
        AdminAt lower s rid ∨ ∃ x ∈ l, KeepsAt lower s x) := by
  rw [contains_star_iff hs]
  refine ⟨fun h => h.mpr, fun h => ⟨?_, h⟩⟩
  rintro (ha | ⟨x, hx, hk⟩)
  · exact ⟨rid, List.mem_cons_self, ha⟩
  · exact ⟨x, List.mem_cons_of_mem _ hx, .of_keeps hk⟩

/-! ## Two clients -/

/-- Handle the relations of the list from right to left, each in one hook
    without failures. -/
def serveAll (lower : String → String) : List (RelId × Endpoint × Databag) → Option App
  | [] => some sampleApp
  | (rid, ep, data) :: l =>
    (serveAll lower l).bind fun s =>
      if s.relations.contains rid = true ∨ data.contains "database" = false then none
      else
        let s : App := { s with relations := s.relations.set rid (Relation.new ep) }
        let s := s.putRelation rid (written ep data)
        (handle lower (sampleHook s.leader) s rid).bind fun res =>
          if res.outcome = .returned then some res.app else none

theorem handled_of_serveAll {l : List (RelId × Endpoint × Databag)}
    (hs : serveAll lower l = some s) : Handled lower (l.map Prod.fst) s := by
  induction l generalizing s with
  | nil =>
    obtain rfl : sampleApp = s := by simpa [serveAll] using hs
    exact .start rfl
  | cons p l ih =>
    obtain ⟨rid, ep, data⟩ := p
    rw [serveAll, Option.bind_eq_some_iff] at hs
    obtain ⟨s₀, hs₀, hs⟩ := hs
    split_ifs at hs with hc
    obtain ⟨hnone, hdata⟩ := not_or.mp hc
    obtain ⟨⟨s', o⟩, hres, hs⟩ := Option.bind_eq_some_iff.mp hs
    split_ifs at hs with ho
    obtain rfl : o = .returned := ho
    obtain rfl : s' = s := by simpa using hs
    have hnone : s₀.relations.get? rid = none := by simpa [Dict.contains] using hnone
    exact .serve data (.relate ep (ih hs₀) hnone) (Dict.get?_set_self _ _ _) (by simpa using hdata)
      (.done (h := sampleHook s₀.leader) rfl hres)

/-- A client that asks for `database` with the given roles. -/
def askingRoles (database roles : String) : Databag :=
  (asking database).set "extra-user-roles" roles

/-- A `charmed_admin` client, and then a client without roles: the wildcard of
    the first is gone. -/
theorem wildcard_withdrawn :
    ∃ s, Handled Text.asciiLower [2, 1] s ∧ AdminAt Text.asciiLower s 1 ∧
      s.databases.contains "*" = false := by
  have hrun : (serveAll Text.asciiLower [(2, .database, asking "b"),
      (1, .database, askingRoles "a" "charmed_admin")]).any (fun s =>
        !s.databases.contains "*" &&
          (s.relations.get? 1).any fun r => r.admin Text.asciiLower) = true := by decide
  obtain ⟨s, hs, hp⟩ := (Option.any_eq_true _ _).mp hrun
  simp only [Bool.and_eq_true, Bool.not_eq_true', Option.any_eq_true] at hp
  obtain ⟨hstar, r, hr, hadmin⟩ := hp
  exact ⟨s, handled_of_serveAll hs, ⟨r, hr, hadmin⟩, hstar⟩

/-- With `admin` in the place of `charmed_admin` the wildcard stays. -/
theorem wildcard_kept :
    ∃ s, Handled Text.asciiLower [2, 1] s ∧
      (s.databases.contains "*" = true ↔ ∃ x ∈ [2, 1], AdminAt Text.asciiLower s x) := by
  have hrun : (serveAll Text.asciiLower [(2, .database, asking "b"),
      (1, .database, askingRoles "a" "admin")]).any (fun s =>
        (s.relations.get? 1).any fun r => r.keepsWildcard Text.asciiLower) = true := by decide
  obtain ⟨s, hs, hp⟩ := (Option.any_eq_true _ _).mp hrun
  obtain ⟨r, hr, hkeep⟩ := (Option.any_eq_true _ _).mp hp
  exact ⟨s, handled_of_serveAll hs, (wildcard_agrees_iff (handled_of_serveAll hs)).mpr
    fun _ => .inr ⟨1, List.mem_cons_self, r, hr, hkeep⟩⟩

end Setup

/-! ## The authentication database -/

/-- Where there is a wildcard, its `auth_dbname` is the database of another
    entry of the map. -/
def UsableWildcard (dbs : Dbs) : Prop :=
  ∀ star, dbs.get? "*" = some star → ∃ name, star.authDbname = some name ∧
    ∃ k e, k ≠ "*" ∧ dbs.get? k = some e ∧ e.name = name

variable {lower} {s : App} {u : UnitId}

/-- A loop that assigns the database of every relation ends with that of the
    last one. -/
theorem foldl_database {f : Rebuild → RelId × Relation → Rebuild} {l : List (RelId × Relation)}
    (hf : ∀ g, ∀ p ∈ l, (f g p).database = (rebuildEntry u p.2).map DbEntry.name) (g : Rebuild) :
    (l.foldl f g).database = match l.getLast? with
      | some p => (rebuildEntry u p.2).map DbEntry.name
      | none => g.database := by
  rcases List.eq_nil_or_concat l with rfl | ⟨l, p, rfl⟩
  · rfl
  · rw [List.concat_eq_append] at hf ⊢
    rw [List.foldl_concat, List.getLast?_concat]
    exact hf _ p (by simp)

/-- The loop variable `database` survives the three loops: it belongs to the
    relation that was enumerated last. -/
theorem rebuild_database (lower : String → String) (s : App) (u : UnitId) :
    (rebuild lower s u).database =
      s.visited.getLast?.bind fun p => (rebuildEntry u p.2).map DbEntry.name := by
  have hlegacy : ∀ (ep : Endpoint) (admin : Bool), ep.legacy = true → ∀ g,
      ∀ p ∈ s.relationsOf ep, (rebuildLegacy u admin g p).database =
        (rebuildEntry u p.2).map DbEntry.name := by
    intro ep admin hep g p hp
    have hp : p.2.endpoint = ep := by simpa using (List.mem_filter.mp hp).2
    unfold rebuildLegacy rebuildEntry
    rw [hp, hep]
    cases (p.2.unit u).get "database" <;> rfl
  have hclient : ∀ g, ∀ p ∈ s.relationsOf .database, (rebuildClient lower g p).database =
      (rebuildEntry u p.2).map DbEntry.name := by
    intro g p hp
    have hp : p.2.endpoint = .database := by simpa using (List.mem_filter.mp hp).2
    unfold rebuildClient rebuildEntry
    rw [hp]
    cases p.2.remote.get "database" <;> rfl
  unfold rebuild App.visited
  rw [foldl_database hclient, foldl_database (hlegacy .dbAdmin true rfl),
    foldl_database (hlegacy .db false rfl), List.getLast?_append, List.getLast?_append]
  cases (s.relationsOf .database).getLast? <;> cases (s.relationsOf .dbAdmin).getLast? <;>
    cases (s.relationsOf .db).getLast? <;> rfl

theorem get?_generate_star (lower : String → String) (s : App) :
    (generateRelationDatabases lower s s.leader).2.get? "*" =
      if (rebuild lower s s.leader).addWildcard then
        some ⟨"*", false, (rebuild lower s s.leader).database⟩
      else none := by
  have hnone : (rebuild lower s s.leader).databases.get? "*" = none :=
    rebuild_get?_of_ne_str lower s s.leader fun rid => (str_ne_star rid).symm
  unfold generateRelationDatabases
  rw [if_neg (not_not.mpr rfl)]
  by_cases hw : (rebuild lower s s.leader).addWildcard = true <;> simp [hw, hnone]

/-- The last relation that the rebuild enumerates has its database set. -/
def LastServed (s : App) (u : UnitId) : Prop :=
  ∀ p, s.visited.getLast? = some p → (rebuildEntry u p.2).isSome = true

/-- The rebuilt wildcard is usable exactly when no relation asks for it or the
    relation enumerated last, whichever it is, has its database set. -/
theorem usableWildcard_iff (lower : String → String) (s : App) :
    UsableWildcard (generateRelationDatabases lower s s.leader).2 ↔
      ((∃ rid r, s.relations.get? rid = some r ∧ rebuildAdmin lower s.leader r = true) →
        LastServed s s.leader) := by
  have hwild : (rebuild lower s s.leader).addWildcard = true ↔
      ∃ rid r, s.relations.get? rid = some r ∧ rebuildAdmin lower s.leader r = true := by
    rw [rebuild_addWildcard, List.any_eq_true]
    simp only [Prod.exists, mem_visited]
  rw [← hwild]
  unfold UsableWildcard
  rw [get?_generate_star]
  constructor
  · intro h hw p hp
    rw [if_pos hw] at h
    obtain ⟨name, hname, -⟩ := h _ rfl
    have hname : (rebuild lower s s.leader).database = some name := hname
    rw [rebuild_database, hp, Option.bind_some, Option.map_eq_some_iff] at hname
    obtain ⟨e, he, -⟩ := hname
    rw [he]
    rfl
  · intro h star hstar
    split_ifs at hstar with hw
    obtain rfl := Option.some_inj.mp hstar
    -- a relation has asked for the wildcard, so there is a last one
    obtain ⟨rid, r, hr, -⟩ := hwild.mp hw
    obtain ⟨p, hp⟩ : ∃ p, s.visited.getLast? = some p := by
      rw [← Option.isSome_iff_exists, List.getLast?_isSome]
      exact List.ne_nil_of_mem ((mem_visited s rid r).mpr hr)
    obtain ⟨e, he⟩ := Option.isSome_iff_exists.mp (h hw p hp)
    refine ⟨e.name, ?_, str p.1, e, str_ne_star p.1, ?_, rfl⟩
    · show (rebuild lower s s.leader).database = some e.name
      rw [rebuild_database, hp, Option.bind_some, he]
      rfl
    · rw [get?_generate_str rfl, (mem_visited s p.1 p.2).mp (List.mem_of_getLast? hp)]
      exact he

/-- A `db-admin` relation that has been set up for `app`, and a client that has
    not asked for a database yet. -/
def unasked : App :=
  { Setup.sampleApp with
    relations := (Dict.empty.set 1 { Relation.new .dbAdmin with
      unit := fun _ => Databag.empty.set "database" "app" }).set 2 (Relation.new .database) }

/-- The wildcard of the `db-admin` relation has no authentication database. -/
theorem not_usableWildcard_unasked :
    ¬ UsableWildcard (generateRelationDatabases Text.asciiLower unasked unasked.leader).2 := by
  have hstar : (generateRelationDatabases Text.asciiLower unasked unasked.leader).2.get? "*" =
      some ⟨"*", false, none⟩ := by decide
  intro h
  obtain ⟨name, hname, -⟩ := h _ hstar
  cases hname

end PgBouncerK8s
