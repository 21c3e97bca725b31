import PgBouncerK8s.Lib.Machine
import PgBouncerK8s.Relations.PgbouncerProvider

/-!
# Setting relations up

The machine of joins, requests and changes over any number of relations, with
leadership passing to any unit at any point. The hooks of a step (readiness,
backend answers, acknowledgements of the peers) are part of the action, so
every behaviour of the surroundings is covered. A client may write its databag
at any time but does not take back or change the database it has asked for.

* `Touches`: a handler changes the data of the relation it runs for only.
* `kept_of_reach`: what the databags of a live relation hold, in every
  reachable state.
-/

namespace PgBouncerK8s

open Text (str)

namespace Setup

/-! ## The machine -/

inductive Action
  | relate (rid : RelId) (ep : Endpoint)
  | write (rid : RelId) (data : Databag)
  | elect (u : UnitId)
  | joined (h : Hook) (rid : RelId)
  | changed (h : Hook) (rid : RelId)
  | requested (h : Hook) (rid : RelId)

variable (lower : String → String)

/-- `relation-changed` on unit `h.unit`, without the emission of
    `database_requested`. -/
def onChanged (h : Hook) (s : App) (rid : RelId) (r : Relation) : App :=
  if r.endpoint.legacy then (DbProvides.onRelationChanged h s rid r).app
  else s.putRelation rid (PgBouncerProvider.onRelationChangedEvent s h.unit r).1

def step (s : App) : Action → Option App
  | .relate rid ep =>
    if s.relations.contains rid then none
    else some { s with relations := s.relations.set rid (Relation.new ep) }
  | .write rid data =>
    (s.relations.get? rid).bind fun r =>
      if r.asked ∧ data.get "database" ≠ r.remote.get "database" then none
      else some (s.putRelation rid { r with remote := data })
  | .elect u => some { s with leader := u }
  | .joined h rid =>
    (s.relations.get? rid).bind fun r =>
      if r.endpoint.legacy then some (DbProvides.onRelationJoined lower h s rid r).app else none
  | .changed h rid => (s.relations.get? rid).map (onChanged h s rid)
  | .requested h rid =>
    (s.relations.get? rid).bind fun r =>
      if r.endpoint.legacy then none
      else (r.remote.get "database").map fun database =>
        (PgBouncerProvider.onDatabaseRequested lower h s rid r database).app

/-- Runs start without relations. -/
def machine : Machine App Action where
  init s := s.relations = .empty
  step := step lower

/-- The steps, with what each of them requires. -/
inductive Effect (s : App) : Action → App → Prop
  | relate {rid : RelId} {ep : Endpoint} : s.relations.get? rid = none →
      Effect s (.relate rid ep) { s with relations := s.relations.set rid (Relation.new ep) }
  | write {rid : RelId} {r : Relation} {data : Databag} : s.relations.get? rid = some r →
      (∀ d, r.remote.get "database" = some d → data.get "database" = some d) →
      Effect s (.write rid data) (s.putRelation rid { r with remote := data })
  | elect {u : UnitId} : Effect s (.elect u) { s with leader := u }
  | joined {h : Hook} {rid : RelId} {r : Relation} : s.relations.get? rid = some r →
      r.endpoint.legacy = true →
      Effect s (.joined h rid) (DbProvides.onRelationJoined lower h s rid r).app
  | changed {h : Hook} {rid : RelId} {r : Relation} : s.relations.get? rid = some r →
      Effect s (.changed h rid) (onChanged h s rid r)
  | requested {h : Hook} {rid : RelId} {r : Relation} {database : String} :
      s.relations.get? rid = some r → r.endpoint.legacy = false →
      r.remote.get "database" = some database →
      Effect s (.requested h rid)
        (PgBouncerProvider.onDatabaseRequested lower h s rid r database).app

theorem step_effect {s s' : App} {a : Action} (ha : step lower s a = some s') :
    Effect lower s a s' := by
  cases a with
  | relate rid ep =>
    simp only [step] at ha
    by_cases hc : s.relations.contains rid = true
    · rw [if_pos hc] at ha
      cases ha
    · rw [if_neg hc] at ha
      cases ha
      exact .relate (by simpa [Dict.contains] using hc)
  | write rid data =>
    simp only [step, Option.bind_eq_some_iff] at ha
    obtain ⟨r, hr, ha⟩ := ha
    split_ifs at ha with hw
    cases ha
    refine .write hr fun d hd => ?_
    have hasked : r.asked = true := by simp [Relation.asked, Databag.contains, hd]
    rw [not_and, not_not] at hw
    rw [hw hasked, hd]
  | elect u =>
    cases ha
    exact .elect
  | joined h rid =>
    simp only [step, Option.bind_eq_some_iff] at ha
    obtain ⟨r, hr, ha⟩ := ha
    split_ifs at ha with hleg
    cases ha
    exact .joined hr hleg
  | changed h rid =>
    simp only [step, Option.map_eq_some_iff] at ha
    obtain ⟨r, hr, rfl⟩ := ha
    exact .changed hr
  | requested h rid =>
    simp only [step, Option.bind_eq_some_iff] at ha
    obtain ⟨r, hr, ha⟩ := ha
    split_ifs at ha with hleg
    obtain ⟨database, hdb, rfl⟩ := Option.map_eq_some_iff.mp ha
    exact .requested hr (by simpa using hleg) hdb

/-! ## What a handler leaves alone -/

/-- `s'` differs from `s` in the data of relation `rid`, which is `r'` now,
    and possibly in the map and in the backend. -/
structure Touches (s s' : App) (rid : RelId) (r' : Relation) : Prop where
  get? : ∀ x, s'.relations.get? x = if x = rid then some r' else s.relations.get? x
  name : s'.name = s.name
  model : s'.model = s.model
  leader : s'.leader = s.leader

variable {lower} {h : Hook} {s s' : App} {rid : RelId} {r r' r'' : Relation}

theorem Touches.refl (hr : s.relations.get? rid = some r) : Touches s s rid r where
  get? x := by
    split_ifs with hx
    · rw [hx, hr]
    · rfl
  name := rfl
  model := rfl
  leader := rfl

theorem Touches.put (hr : s.relations.get? rid = some r) (r' : Relation) :
    Touches s (s.putRelation rid r') rid r' :=
  ⟨fun x => App.get?_putRelation hr r' x, rfl, rfl, rfl⟩

theorem Touches.self (ht : Touches s s' rid r') : s'.relations.get? rid = some r' := by
  rw [ht.get?, if_pos rfl]

/-- What holds of the live relations still does when it holds of the one that is
    touched. -/
theorem Touches.forall_relations {P : RelId → Relation → Prop} (ht : Touches s s' rid r')
    (hself : P rid r') (hother : ∀ x q, x ≠ rid → s.relations.get? x = some q → P x q) :
    ∀ x q, s'.relations.get? x = some q → P x q := by
  intro x q hq
  rw [ht.get?] at hq
  split_ifs at hq with hx
  · cases hq
    exact hx ▸ hself
  · exact hother x q hx hq

theorem forall_of_empty {P : RelId → Relation → Prop} (hs : s.relations = .empty) :
    ∀ x q, s.relations.get? x = some q → P x q := by
  intro x q hq
  rw [hs] at hq
  cases hq

theorem Touches.put_put (ht : Touches s s' rid r') (r'' : Relation) :
    Touches s (s'.putRelation rid r'') rid r'' := by
  refine ⟨fun x => ?_, ht.name, ht.model, ht.leader⟩
  rw [App.get?_putRelation ht.self, ht.get?]
  split_ifs <;> rfl

theorem Touches.trans {t : App} (ht : Touches s s' rid r') (ht' : Touches s' t rid r'') :
    Touches s t rid r'' := by
  refine ⟨fun x => ?_, ht'.name.trans ht.name, ht'.model.trans ht.model,
    ht'.leader.trans ht.leader⟩
  rw [ht'.get?, ht.get?]
  split_ifs <;> rfl

theorem Touches.setDatabases (ht : Touches s s' rid r') (dbs : Dbs) :
    Touches s (s'.setRelationDatabases dbs) rid r' :=
  ⟨ht.get?, ht.name, ht.model, ht.leader⟩

theorem Touches.setBackend (ht : Touches s s' rid r') (b : Backend) :
    Touches s { s' with backend := b } rid r' :=
  ⟨ht.get?, ht.name, ht.model, ht.leader⟩

theorem Touches.generateUsername (ht : Touches s s' rid r') (x : RelId) :
    s'.generateUsername x = s.generateUsername x := by
  unfold App.generateUsername
  rw [ht.name, ht.model]

/-- The credentials `_on_relation_joined` publishes. -/
def joinCredentials (h : Hook) (s : App) (rid : RelId) (r : Relation) (database : String) :
    List (String × String) :=
  [("user", s.generateUsername rid),
    ("password", ((r.unit h.unit).get "password").getD h.newPassword), ("database", database)]

theorem touches_publishAndCreate (ht : Touches s s' rid r') (user password database : String) :
    Touches s (DbProvides.publishAndCreate h s' rid r' user password database).app rid
      (r'.updateDatabags h.unit true
        [("user", user), ("password", password), ("database", database)]) := by
  unfold DbProvides.publishAndCreate
  simp only
  split_ifs <;> exact (ht.put_put _).setBackend _

/-- A join leaves the relation as it was, up to the extensions it copies, or
    publishes on it. -/
theorem touches_joined (lower : String → String) (h : Hook) (hr : s.relations.get? rid = some r) :
    ∃ r'' r', DbProvides.CopiesExtensions r r'' ∧
      Touches s (DbProvides.onRelationJoined lower h s rid r).app rid r' ∧
      (r' = r'' ∨ ∃ database, r.remote.get "database" = some database ∧
        r' = r''.updateDatabags h.unit true (joinCredentials h s rid r database)) := by
  have he := DbProvides.joined_effect lower h s rid r
  generalize DbProvides.onRelationJoined lower h s rid r = res at he
  cases he with
  | follower _ => exact ⟨r, r, .refl r, .refl hr, .inl rfl⟩
  | notReady _ _ => exact ⟨r, r, .refl r, .refl hr, .inl rfl⟩
  | blocked _ _ _ hc => exact ⟨_, _, hc, .put hr _, .inl rfl⟩
  | noDatabase _ _ _ hc _ => exact ⟨_, _, hc, .put hr _, .inl rfl⟩
  | unsynced _ _ _ hc _ _ => exact ⟨_, _, hc, (Touches.put hr _).setDatabases _, .inl rfl⟩
  | served _ _ _ hc hdb _ =>
    exact ⟨_, _, hc, touches_publishAndCreate ((Touches.put hr _).setDatabases _) _ _ _,
      .inr ⟨_, hdb, rfl⟩⟩

/-- A request leaves the relation as it was or publishes on it. -/
theorem touches_requested (lower : String → String) (h : Hook)
    (hr : s.relations.get? rid = some r) (database : String) :
    ∃ r', Touches s (PgBouncerProvider.onDatabaseRequested lower h s rid r database).app rid r' ∧
      (r' = r ∨ r' = PgBouncerProvider.setCredentials (PgBouncerProvider.relationUser rid)
        h.newPassword database r) := by
  have he := PgBouncerProvider.requested_effect lower h s rid r database
  generalize PgBouncerProvider.onDatabaseRequested lower h s rid r database = res at he
  cases he with
  | follower _ => exact ⟨r, .refl hr, .inl rfl⟩
  | notReady _ _ => exact ⟨r, .refl hr, .inl rfl⟩
  | unsynced _ _ _ _ => exact ⟨r, (Touches.refl hr).setDatabases _, .inl rfl⟩
  | served _ _ _ _ =>
    unfold PgBouncerProvider.createAndPublish
    simp only
    split_ifs
    · exact ⟨r, ((Touches.refl hr).setDatabases _).setBackend _, .inl rfl⟩
    · exact ⟨_, (((Touches.refl hr).setDatabases _).setBackend _).put_put _, .inr rfl⟩

/-- A change copies complete credentials of the own databag, or records what
    the client wrote, or does nothing. -/
theorem touches_changed (h : Hook) (hr : s.relations.get? rid = some r) :
    ∃ r', Touches s (onChanged h s rid r) rid r' ∧
      (r' = r ∨ r' = { r with diffData := r.remote } ∨
        ∃ user password database, r.endpoint.legacy = true ∧
          (r.unit h.unit).get "user" = some user ∧
          (r.unit h.unit).get "password" = some password ∧
          (r.unit h.unit).get "database" = some database ∧
          r' = r.updateDatabags h.unit true
            [("user", user), ("password", password), ("database", database)]) := by
  unfold onChanged
  split_ifs with hleg
  · rcases DbProvides.changed_cases h s rid r with
      ⟨o, he⟩ | ⟨user, password, database, -, hu, hp, hd, he⟩
    · rw [he]
      exact ⟨r, .refl hr, .inl rfl⟩
    · rw [he]
      exact ⟨_, .put hr _, .inr (.inr ⟨_, _, _, hleg, hu, hp, hd, rfl⟩)⟩
  · unfold PgBouncerProvider.onRelationChangedEvent
    split_ifs
    · exact ⟨r, .put hr r, .inl rfl⟩
    · exact ⟨_, .put hr _, .inr (.inl rfl)⟩

/-! ## What the databags hold -/

/-- The user name that is published on a relation, `user` being the one
    `_generate_username` makes. -/
def owner (user : String) (rid : RelId) (ep : Endpoint) : String :=
  if ep.legacy then user else PgBouncerProvider.relationUser rid

/-- Every databag of PgBouncer's side of the relation names the relation's own
    user and the database the client asked for, and credentials are written
    together, to the application databag in any case. -/
structure Kept (user : String) (rid : RelId) (r : Relation) : Prop where
  unit_database : ∀ v d, (r.unit v).get "database" = some d → r.remote.get "database" = some d
  app_database : ∀ d, r.app.get "database" = some d → r.remote.get "database" = some d
  unit_user : ∀ v x, (r.unit v).get r.endpoint.userKey = some x → x = owner user rid r.endpoint
  app_user : ∀ x, r.app.get r.endpoint.userKey = some x → x = owner user rid r.endpoint
  unit_together : ∀ v, (r.unit v).contains "password" = true →
    (r.unit v).contains r.endpoint.userKey = true ∧ (r.unit v).contains "database" = true ∧
      r.published = true
  unit_legacy : ∀ v, (r.unit v).contains "password" = true → r.endpoint.legacy = true
  app_together : r.published = true → r.app.contains "database" = true

theorem userKey_ne_password (ep : Endpoint) : ep.userKey ≠ "password" := by
  cases ep <;> decide

theorem userKey_ne_database (ep : Endpoint) : ep.userKey ≠ "database" := by
  cases ep <;> decide

theorem userKey_ne_extensions (ep : Endpoint) : ep.userKey ≠ "extensions" := by
  cases ep <;> decide

theorem generateUsername_ne (s : App) (rid : RelId) : s.generateUsername rid ≠ "" := by
  intro h
  have hl := congrArg String.length h
  unfold App.generateUsername Text.replace at hl
  simp at hl

theorem relationUser_ne (rid : RelId) : PgBouncerProvider.relationUser rid ≠ "" := by
  intro h
  have hl := congrArg String.length h
  simp [PgBouncerProvider.relationUser] at hl

variable {user password database : String}

theorem kept_new (user : String) (rid : RelId) (ep : Endpoint) :
    Kept user rid (Relation.new ep) where
  unit_database _ _ h := by cases h
  app_database _ h := by cases h
  unit_user _ _ h := by cases h
  app_user _ h := by cases h
  unit_together _ h := by cases h
  unit_legacy _ h := by cases h
  app_together h := by
    simp [Relation.published, Relation.new, Databag.contains, Databag.empty] at h

/-- A client that keeps the database it asked for changes nothing of this. -/
theorem Kept.write (hk : Kept user rid r) {data : Databag}
    (hd : ∀ d, r.remote.get "database" = some d → data.get "database" = some d) :
    Kept user rid { r with remote := data } where
  unit_database v d h := hd d (hk.unit_database v d h)
  app_database d h := hd d (hk.app_database d h)
  unit_user := hk.unit_user
  app_user := hk.app_user
  unit_together := hk.unit_together
  unit_legacy := hk.unit_legacy
  app_together := hk.app_together

theorem Kept.diffData (hk : Kept user rid r) (data : Databag) :
    Kept user rid { r with diffData := data } :=
  ⟨hk.unit_database, hk.app_database, hk.unit_user, hk.app_user, hk.unit_together,
    hk.unit_legacy, hk.app_together⟩

theorem published_copies (hc : DbProvides.CopiesExtensions r r') : r'.published = r.published := by
  unfold Relation.published Databag.contains
  rw [hc.endpoint, hc.app _ (userKey_ne_extensions _), hc.app "password" (by decide)]

theorem Kept.copies (hk : Kept user rid r) (hc : DbProvides.CopiesExtensions r r') :
    Kept user rid r' where
  unit_database v d h := by
    rw [hc.unit v _ (by decide)] at h
    rw [hc.remote]
    exact hk.unit_database v d h
  app_database d h := by
    rw [hc.app _ (by decide)] at h
    rw [hc.remote]
    exact hk.app_database d h
  unit_user v x h := by
    rw [hc.endpoint, hc.unit v _ (userKey_ne_extensions _)] at h
    rw [hc.endpoint]
    exact hk.unit_user v x h
  app_user x h := by
    rw [hc.endpoint, hc.app _ (userKey_ne_extensions _)] at h
    rw [hc.endpoint]
    exact hk.app_user x h
  unit_together v h := by
    unfold Databag.contains at h ⊢
    rw [hc.unit v _ (by decide)] at h
    rw [hc.endpoint, hc.unit v _ (userKey_ne_extensions _), hc.unit v _ (by decide),
      published_copies hc]
    exact hk.unit_together v h
  unit_legacy v h := by
    unfold Databag.contains at h
    rw [hc.unit v _ (by decide)] at h
    rw [hc.endpoint]
    exact hk.unit_legacy v h
  app_together h := by
    unfold Databag.contains
    rw [hc.app _ (by decide)]
    exact hk.app_together (by rwa [published_copies hc] at h)

/-- The three keys that are published together. -/
def credentialUpdates (user password database : String) (rid : RelId) (ep : Endpoint) :
    List (String × String) :=
  [(ep.userKey, owner user rid ep), ("password", password), ("database", database)]

theorem owner_ne (hu : user ≠ "") (rid : RelId) (ep : Endpoint) : owner user rid ep ≠ "" := by
  unfold owner
  split_ifs
  · exact hu
  · exact relationUser_ne rid

/-- The three keys read back from a databag. -/
theorem get_credentialUpdates (rid : RelId) (b : Databag) (hu : user ≠ "") (hpw : password ≠ "")
    (hdb : database ≠ "") (ep : Endpoint) (k : String) :
    (b.update (credentialUpdates user password database rid ep)).get k =
      if k = "database" then some database
      else if k = "password" then some password
      else if k = ep.userKey then some (owner user rid ep)
      else b.get k :=
  b.get_update_credentials _ (owner_ne hu rid ep) hpw hdb k

theorem published_of_update (rid : RelId) (hu : user ≠ "") (hpw : password ≠ "")
    (hdb : database ≠ "") (hep : r'.endpoint = r.endpoint)
    (happ : r'.app = r.app.update (credentialUpdates user password database rid r.endpoint)) :
    r'.published = true := by
  have hkp := userKey_ne_password r.endpoint
  have hkd := userKey_ne_database r.endpoint
  simp [Relation.published, Databag.contains, hep, happ, get_credentialUpdates rid _ hu hpw hdb,
    hkp, hkd]

/-- Publishing credentials for the database the client asked for, in the
    application databag and possibly in a unit databag. -/
theorem Kept.publish (hk : Kept user rid r) (hu : user ≠ "") (hpw : password ≠ "")
    (hdb : r.remote.get "database" = some database) (hep : r'.endpoint = r.endpoint)
    (hremote : r'.remote = r.remote)
    (happ : r'.app = r.app.update (credentialUpdates user password database rid r.endpoint))
    (hunit : ∀ v, r'.unit v = r.unit v ∨ r.endpoint.legacy = true ∧
      r'.unit v = (r.unit v).update (credentialUpdates user password database rid r.endpoint)) :
    Kept user rid r' := by
  have hget := fun b : Databag => get_credentialUpdates rid b hu hpw
    (Databag.ne_empty_of_get hdb) r.endpoint
  have hkp := userKey_ne_password r.endpoint
  have hkd := userKey_ne_database r.endpoint
  have hpub := published_of_update rid hu hpw (Databag.ne_empty_of_get hdb) hep happ
  refine ⟨?_, ?_, ?_, ?_, ?_, ?_, ?_⟩
  · intro v d h
    rw [hremote]
    rcases hunit v with he | ⟨hleg, he⟩
    · rw [he] at h
      exact hk.unit_database v d h
    · rw [he, hget, if_pos rfl] at h
      rw [hdb, h]
  · intro d h
    rw [happ, hget, if_pos rfl] at h
    rw [hremote, hdb, h]
  · intro v x h
    rw [hep] at h ⊢
    rcases hunit v with he | ⟨hleg, he⟩
    · rw [he] at h
      exact hk.unit_user v x h
    · rw [he, hget, if_neg hkd, if_neg hkp, if_pos rfl, Option.some_inj] at h
      exact h.symm
  · intro x h
    rw [hep] at h ⊢
    rw [happ, hget, if_neg hkd, if_neg hkp, if_pos rfl, Option.some_inj] at h
    exact h.symm
  · intro v h
    rw [hep]
    rcases hunit v with he | ⟨hleg, he⟩
    · rw [he] at h ⊢
      obtain ⟨h1, h2, -⟩ := hk.unit_together v h
      exact ⟨h1, h2, hpub⟩
    · refine ⟨?_, ?_, hpub⟩
      · simp [Databag.contains, he, hget, hkd, hkp]
      · simp [Databag.contains, he, hget]
  · intro v h
    rw [hep]
    rcases hunit v with he | ⟨hleg, he⟩
    · rw [he] at h
      exact hk.unit_legacy v h
    · exact hleg
  · intro _
    simp [Databag.contains, happ, hget]

theorem userKey_of_legacy {ep : Endpoint} (hleg : ep.legacy = true) : ep.userKey = "user" := by
  cases ep with
  | database => cases hleg
  | db => rfl
  | dbAdmin => rfl

theorem userKey_of_client {ep : Endpoint} (hleg : ep.legacy = false) : ep.userKey = "username" := by
  cases ep with
  | database => rfl
  | db => cases hleg
  | dbAdmin => cases hleg

theorem credentialUpdates_legacy (rid : RelId) {ep : Endpoint} (hleg : ep.legacy = true) :
    credentialUpdates user password database rid ep =
      [("user", user), ("password", password), ("database", database)] := by
  rw [credentialUpdates, userKey_of_legacy hleg, owner, if_pos hleg]

theorem Kept.updateDatabags (hk : Kept user rid r) (hleg : r.endpoint.legacy = true)
    (hu : user ≠ "") (hpw : password ≠ "") (hdb : r.remote.get "database" = some database)
    (u : UnitId) :
    Kept user rid (r.updateDatabags u true
      [("user", user), ("password", password), ("database", database)]) := by
  rw [← credentialUpdates_legacy rid hleg]
  refine hk.publish hu hpw hdb rfl rfl rfl fun v => ?_
  rw [Relation.updateDatabags_unit]
  split_ifs with hv
  · exact .inr ⟨hleg, by rw [hv]⟩
  · exact .inl rfl

theorem Kept.setCredentials (hk : Kept user rid r) (hleg : r.endpoint.legacy = false)
    (hu : user ≠ "") (hpw : password ≠ "") (hdb : r.remote.get "database" = some database) :
    Kept user rid (PgBouncerProvider.setCredentials (PgBouncerProvider.relationUser rid) password
      database r) := by
  refine hk.publish hu hpw hdb rfl rfl ?_ fun v => .inl rfl
  cases hep : r.endpoint with
  | database => rfl
  | db => simp [hep, Endpoint.legacy] at hleg
  | dbAdmin => simp [hep, Endpoint.legacy] at hleg

/-- The databags of all live relations. -/
def AllKept (s : App) : Prop :=
  ∀ rid r, s.relations.get? rid = some r → Kept (s.generateUsername rid) rid r

theorem AllKept.touch (hi : AllKept s) (ht : Touches s s' rid r')
    (hr' : Kept (s.generateUsername rid) rid r') : AllKept s' := by
  refine ht.forall_relations ?_ fun x q _ hq => ?_
  · rwa [ht.generateUsername]
  · rw [ht.generateUsername]
    exact hi x q hq

theorem joinPassword_ne (h : Hook) (b : Databag) : (b.get "password").getD h.newPassword ≠ "" := by
  cases hp : b.get "password" with
  | none => exact h.newPassword_ne
  | some p => exact Databag.ne_empty_of_get hp

theorem allKept_step (lower : String → String) {a : Action} (hi : AllKept s)
    (ha : step lower s a = some s') : AllKept s' := by
  cases step_effect lower ha with
  | relate hnone => exact Dict.forall_get?_set (kept_new _ _ _) fun x q _ hq => hi x q hq
  | write hr hw => exact hi.touch (.put hr _) ((hi _ _ hr).write hw)
  | elect => exact hi
  | @joined h rid r hr hleg =>
    obtain ⟨r'', r', hc, ht, rfl | ⟨database, hdb, rfl⟩⟩ := touches_joined lower h hr
    · exact hi.touch ht ((hi rid r hr).copies hc)
    · exact hi.touch ht (((hi rid r hr).copies hc).updateDatabags (by rwa [hc.endpoint])
        (generateUsername_ne s rid) (joinPassword_ne h _) (by rwa [hc.remote]) h.unit)
  | @changed h rid r hr =>
    obtain ⟨r', ht, rfl | rfl | ⟨user, password, database, hleg, hu, hp, hd, rfl⟩⟩ :=
      touches_changed h hr
    · exact hi.touch ht (hi rid _ hr)
    · exact hi.touch ht ((hi rid r hr).diffData _)
    · have hkept := hi rid r hr
      obtain rfl : user = s.generateUsername rid := by
        rw [← userKey_of_legacy hleg] at hu
        rw [hkept.unit_user h.unit user hu, owner, if_pos hleg]
      exact hi.touch ht (hkept.updateDatabags hleg (generateUsername_ne s rid)
        (Databag.ne_empty_of_get hp) (hkept.unit_database _ _ hd) h.unit)
  | @requested h rid r database hr hleg hdb =>
    obtain ⟨r', ht, rfl | rfl⟩ := touches_requested lower h hr database
    · exact hi.touch ht (hi rid _ hr)
    · exact hi.touch ht ((hi rid r hr).setCredentials hleg (generateUsername_ne s rid)
        h.newPassword_ne hdb)

theorem kept_of_reach {guard : App → Action → Prop} (h : (machine lower).Reach guard s) :
    AllKept s := by
  exact h.invariant (I := AllKept) (fun s hs => forall_of_empty hs)
    fun s a s' _ hi _ ha => allKept_step lower hi ha

/-! ## The stored map -/

theorem get?_joinDatabases (hr : s.relations.get? rid = some r) (hu : h.unit = s.leader)
    (ep : Endpoint) (x : RelId) :
    (DbProvides.joinDatabases lower (s.putRelation rid r') h.unit rid ep database).get? (str x) =
      if x = rid then some ⟨database, true, none⟩
      else (s.relations.get? x).bind (rebuildEntry h.unit) := by
  have hget := get?_requested_str lower (s.putRelation rid r') hu rid x
    ⟨database, true, none⟩ ⟨"*", false, some database⟩ (decide (ep = .dbAdmin))
  rw [App.get?_putRelation hr] at hget
  unfold DbProvides.joinDatabases
  split_ifs at hget ⊢ with hep hx <;> simp_all

theorem get?_requestDatabases (hu : h.unit = s.leader) (x : RelId) :
    (PgBouncerProvider.requestDatabases lower s h.unit rid r database).get? (str x) =
      if x = rid then some ⟨database, false, none⟩
      else (s.relations.get? x).bind (rebuildEntry h.unit) :=
  get?_requested_str lower s hu rid x _ _ _

theorem databases_publishAndCreate (s : App) (rid : RelId) (r : Relation) :
    (DbProvides.publishAndCreate h s rid r user password database).app.databases =
      s.databases := by
  unfold DbProvides.publishAndCreate
  simp only
  split_ifs <;> rfl

theorem databases_createAndPublish (s : App) (rid : RelId) (r : Relation) :
    (PgBouncerProvider.createAndPublish h s rid r database).app.databases = s.databases := by
  unfold PgBouncerProvider.createAndPublish
  simp only
  split_ifs <;> rfl

theorem databases_onChanged (s : App) (rid : RelId) (r : Relation) :
    (onChanged h s rid r).databases = s.databases := by
  unfold onChanged
  split_ifs
  · rcases DbProvides.changed_cases h s rid r with ⟨o, he⟩ | ⟨_, _, _, -, -, -, -, he⟩ <;> rw [he]
    rfl
  · rfl

/-- The step rebuilds the map: the handler runs on the leader and gets past its
    checks. -/
def Rebuilds (s : App) : Action → Prop
  | .joined h rid => h.unit = s.leader ∧ h.ready = true ∧
      ((s.relations.get? rid).any fun r =>
        !(DbProvides.blockOnExtensions h true r).2 && r.asked) = true
  | .requested h _ => h.unit = s.leader ∧ h.ready = true ∧ h.readWriteEndpoints ≠ ""
  | _ => False

instance (s : App) : (a : Action) → Decidable (Rebuilds s a)
  | .relate _ _ => inferInstanceAs (Decidable False)
  | .write _ _ => inferInstanceAs (Decidable False)
  | .elect _ => inferInstanceAs (Decidable False)
  | .joined _ _ => inferInstanceAs (Decidable (_ ∧ _ ∧ _))
  | .changed _ _ => inferInstanceAs (Decidable False)
  | .requested _ _ => inferInstanceAs (Decidable (_ ∧ _ ∧ _))

theorem rebuilds_joined (hr : s.relations.get? rid = some r) (hu : h.unit = s.leader)
    (hready : h.ready = true) (hb : DbProvides.blockOnExtensions h true r = (r', false))
    (hdb : r.remote.get "database" = some database) : Rebuilds s (.joined h rid) := by
  refine ⟨hu, hready, ?_⟩
  simp [hr, hb, Relation.asked, Databag.contains, hdb]

/-- The join gets to the publication. -/
def Publishes (lower : String → String) (h : Hook) (s : App) (rid : RelId) (r : Relation)
    (database : String) : Prop :=
  h.unit = s.leader ∧ h.ready = true ∧ (DbProvides.blockOnExtensions h true r).2 = false ∧
    r.remote.get "database" = some database ∧
    h.synced (DbProvides.joinDatabases lower
      (s.putRelation rid (DbProvides.blockOnExtensions h true r).1) h.unit rid r.endpoint
      database) = true

/-- The request gets to the publication: both create calls return. -/
def PublishesRequest (lower : String → String) (h : Hook) (s : App) (rid : RelId) (r : Relation)
    (database : String) : Prop :=
  h.unit = s.leader ∧ h.ready = true ∧ h.readWriteEndpoints ≠ "" ∧
    r.remote.get "database" = some database ∧
    h.synced (PgBouncerProvider.requestDatabases lower s h.unit rid r database) = true ∧
    (s.backend.provision h (PgBouncerProvider.relationUser rid) h.newPassword database).2 = true

/-! ## A deployment to run -/

/-- A deployment without relations, led by unit 0. -/
def sampleApp : App :=
  ⟨"pgbouncer-k8s", "dev", 0, .empty, none, none, fun _ => .empty, ⟨fun _ => none, [], []⟩⟩

/-- A hook on unit `u` in which nothing fails. -/
def sampleHook (u : UnitId) : Hook where
  unit := u
  ready := true
  readWriteEndpoints := "pgbouncer-k8s:6432"
  pluginEnabled := fun _ => true
  newPassword := "secret"
  newPassword_ne := by decide
  postgresV0 := false
  createUserOk := true
  createDatabaseOk := true
  createMessage := none
  deleteUserOk := true
  otherUnits := []
  ack := fun _ => none

/-- What a client writes that asks for a database. -/
def asking (database : String) : Databag := Databag.empty.set "database" database

end Setup

end PgBouncerK8s
