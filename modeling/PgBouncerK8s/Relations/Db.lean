import PgBouncerK8s.Routing.Databases

/-!
# The legacy relations

Model of the `DbProvides` handlers (`relations/db.py`), which serve the
endpoints `db` and `db-admin`. The status of the unit and the connection
strings of `update_connection_info` are left out; `remove_auth_function`,
`initialise_auth_function` and `sync_hba` return.

* `joined_effect`: everything `_on_relation_joined` can do.
-/

namespace PgBouncerK8s

open Text (str)

/-! ## Databags -/

/-- `update_databags` (`relations/db.py`, lines 487–494) on the databags of
    `get_databags` (lines 503–512): that of this unit and, on the leader, that
    of the application. -/
def Relation.updateDatabags (u : UnitId) (leader : Bool) (updates : List (String × String))
    (r : Relation) : Relation :=
  { r with
    unit := Function.update r.unit u ((r.unit u).update updates)
    app := if leader then r.app.update updates else r.app }

section UpdateDatabags

variable (u : UnitId) (leader : Bool) (updates : List (String × String)) (r : Relation)

@[simp] theorem Relation.updateDatabags_endpoint :
    (r.updateDatabags u leader updates).endpoint = r.endpoint := rfl

@[simp] theorem Relation.updateDatabags_remote :
    (r.updateDatabags u leader updates).remote = r.remote := rfl

theorem Relation.updateDatabags_unit (v : UnitId) :
    (r.updateDatabags u leader updates).unit v =
      if v = u then (r.unit u).update updates else r.unit v := by
  unfold updateDatabags
  by_cases h : v = u
  · simp [h]
  · simp [h]

end UpdateDatabags

/-- `_generate_username` (`relations/db.py`, lines 496–501). -/
def App.generateUsername (s : App) (rid : RelId) : String :=
  Text.replace '-' '_' (s.name ++ "_user_" ++ str rid ++ "_" ++ s.model)

/-- `_depart_flag` (`relations/db.py`, line 142; `pgbouncer_provider.py`,
    line 102). -/
def departFlag (ep : Endpoint) (rid : RelId) : String :=
  ep.relationName ++ "_" ++ str rid ++ "_departing"

namespace DbProvides

/-! ## Extensions -/

/-- `EXTENSIONS_BLOCKING_MESSAGE` (`constants.py`). -/
def extensionsBlockingMessage : String :=
  "bad relation request - remote app requested extensions, which are unsupported. Please remove this relation."

/-- `_check_extensions` (`relations/db.py`, lines 144–150). -/
def checkExtensions (h : Hook) (extensions : List String) : Bool :=
  extensions.all fun extension => h.pluginEnabled ((Text.split ':' extension).headD "")

/-- `_block_on_extensions` (`relations/db.py`, lines 152–171): the relation
    with the requested extensions copied, and whether the charm blocks. -/
def blockOnExtensions (h : Hook) (leader : Bool) (r : Relation) : Relation × Bool :=
  match r.remote.get "extensions" with
  | some extensions =>
    (r.updateDatabags h.unit leader [("extensions", extensions)],
      !checkExtensions h (Text.split ',' extensions))
  | none => (r, false)

/-- `_get_relation_extensions` (`relations/db.py`, lines 173–181). Only the
    leader can read the application databag. -/
def getRelationExtensions (u : UnitId) (leader : Bool) (r : Relation) : List String :=
  match (r.unit u).get "extensions", r.remote.get "extensions", r.app.get "extensions" with
  | some extensions, _, _ => Text.split ',' extensions
  | none, some extensions, _ => Text.split ',' extensions
  | none, none, some extensions => if leader then Text.split ',' extensions else []
  | none, none, none => []

/-! ## Handlers -/

variable (lower : String → String)

/-- The map `_on_relation_joined` stores (`relations/db.py`, lines 242–246). -/
def joinDatabases (s : App) (u : UnitId) (rid : RelId) (ep : Endpoint) (database : String) : Dbs :=
  let dbs := (generateRelationDatabases lower s u).2
  let dbs := dbs.set (str rid) ⟨database, true, none⟩
  if ep = .dbAdmin then dbs.set "*" ⟨"*", false, some database⟩ else dbs

/-- The part of `_on_relation_joined` behind the peer barrier
    (`relations/db.py`, lines 262–306): publish, then create. -/
def publishAndCreate (h : Hook) (s : App) (rid : RelId) (r : Relation)
    (user password database : String) : Result :=
  let s := s.putRelation rid (r.updateDatabags h.unit true
    [("user", user), ("password", password), ("database", database)])
  let (backend, ok) := s.backend.provision h user password database
  if !ok then
    ⟨{ s with backend := backend },
      .blocked ("failed to create database or user for " ++ r.endpoint.relationName)⟩
  else
    let backend := (backend.removeAuthFunction database).initialiseAuthFunction database
    ⟨{ s with backend := backend }, .returned⟩

/-- `_on_relation_joined` (`relations/db.py`, lines 202–306) for the live
    relation `rid` with data `r`. -/
def onRelationJoined (h : Hook) (s : App) (rid : RelId) (r : Relation) : Result :=
  if h.unit ≠ s.leader then ⟨s, .returned⟩
  else if !h.ready then ⟨s, .deferred⟩
  else
    let (r, block) := blockOnExtensions h true r
    let s := s.putRelation rid r
    if block then ⟨s, .blocked extensionsBlockingMessage⟩
    else
      match r.remote.get "database" with
      | none => ⟨s, .deferred⟩
      | some database =>
        let user := s.generateUsername rid
        let password := ((r.unit h.unit).get "password").getD h.newPassword
        let dbs := joinDatabases lower s h.unit rid r.endpoint database
        let s := s.setRelationDatabases dbs
        if !h.synced dbs then ⟨s, .deferred⟩
        else publishAndCreate h s rid r user password database

/-- `_on_relation_changed` (`relations/db.py`, lines 308–359), as far as it
    concerns credentials: the leader copies those of its own databag. -/
def onRelationChanged (h : Hook) (s : App) (rid : RelId) (r : Relation) : Result :=
  if !h.ready then ⟨s, .deferred⟩
  else
    match (r.unit h.unit).get "database", (r.unit h.unit).get "user",
      (r.unit h.unit).get "password" with
    | some database, some user, some password =>
      if h.unit = s.leader then
        ⟨s.putRelation rid (r.updateDatabags h.unit true
          [("user", user), ("password", password), ("database", database)]), .returned⟩
      else ⟨s, .returned⟩
    | _, _, _ => ⟨s, .deferred⟩

/-- `_on_relation_broken` (`relations/db.py`, lines 432–485); `none` where it
    raises: Juju refuses a follower's write to the application databag, and
    `delete_user` may fail. -/
def onRelationBroken (h : Hook) (s : App) (rid : RelId) (r : Relation) : Option Result :=
  let leader : Bool := h.unit = s.leader
  if (s.peerUnit h.unit).contains (departFlag r.endpoint rid) then some ⟨s, .returned⟩
  else
    match h.ready, (r.unit h.unit).get "user", (r.unit h.unit).get "database" with
    | true, some user, some _ =>
      let dbs := getRelationDatabases s h.unit
      let database := (dbs.get? (str rid)).map DbEntry.name
      let dbs := dbs.erase (str rid)
      if !leader || !h.deleteUserOk then none
      else
        let s := s.setRelationDatabases dbs
        let backend := s.backend.deleteUser user
        let backend :=
          match database with
          | some name =>
            if name ≠ "" ∧ name ∉ dbs.values.map DbEntry.name then backend.removeAuthFunction name
            else backend
          | none => backend
        some ⟨{ s with backend := backend }, .returned⟩
    | _, _, _ =>
      if checkExtensions h (getRelationExtensions h.unit leader r) then some ⟨s, .deferred⟩
      else some ⟨s, .returned⟩

/-! ## What a join can do -/

/-- `r'` is `r` but for the key `extensions` of its databags. -/
structure CopiesExtensions (r r' : Relation) : Prop where
  endpoint : r'.endpoint = r.endpoint
  remote : r'.remote = r.remote
  diffData : r'.diffData = r.diffData
  unit : ∀ v k, k ≠ "extensions" → (r'.unit v).get k = (r.unit v).get k
  app : ∀ k, k ≠ "extensions" → r'.app.get k = r.app.get k

theorem CopiesExtensions.refl (r : Relation) : CopiesExtensions r r :=
  ⟨rfl, rfl, rfl, fun _ _ _ => rfl, fun _ _ => rfl⟩

theorem copiesExtensions_block (h : Hook) (leader : Bool) (r : Relation) :
    CopiesExtensions r (blockOnExtensions h leader r).1 := by
  unfold blockOnExtensions
  cases r.remote.get "extensions" with
  | none => exact .refl r
  | some extensions =>
    have hget : ∀ (b : Databag) (k : String), k ≠ "extensions" →
        (b.update [("extensions", extensions)]).get k = b.get k := by
      intro b k hk
      exact b.get_update_of_ne (by simpa using hk.symm)
    refine ⟨rfl, rfl, rfl, ?_, ?_⟩
    · intro v k hk
      rw [Relation.updateDatabags_unit]
      split_ifs with hv
      · rw [hv, hget _ k hk]
      · rfl
    · intro k hk
      cases leader
      · rfl
      · exact hget _ k hk

/-- The results of `_on_relation_joined`, with what led to each. -/
inductive JoinEffect (h : Hook) (s : App) (rid : RelId) (r : Relation) : Result → Prop
  | follower : h.unit ≠ s.leader → JoinEffect h s rid r ⟨s, .returned⟩
  | notReady : h.unit = s.leader → h.ready = false → JoinEffect h s rid r ⟨s, .deferred⟩
  | blocked {r' : Relation} : h.unit = s.leader → h.ready = true →
      blockOnExtensions h true r = (r', true) → CopiesExtensions r r' →
      JoinEffect h s rid r ⟨s.putRelation rid r', .blocked extensionsBlockingMessage⟩
  | noDatabase {r' : Relation} : h.unit = s.leader → h.ready = true →
      blockOnExtensions h true r = (r', false) → CopiesExtensions r r' →
      r.remote.get "database" = none →
      JoinEffect h s rid r ⟨s.putRelation rid r', .deferred⟩
  | unsynced {r' : Relation} {database : String} : h.unit = s.leader → h.ready = true →
      blockOnExtensions h true r = (r', false) → CopiesExtensions r r' →
      r.remote.get "database" = some database →
      h.synced (joinDatabases lower (s.putRelation rid r') h.unit rid r.endpoint database) = false →
      JoinEffect h s rid r
        ⟨(s.putRelation rid r').setRelationDatabases
          (joinDatabases lower (s.putRelation rid r') h.unit rid r.endpoint database), .deferred⟩
  | served {r' : Relation} {database : String} : h.unit = s.leader → h.ready = true →
      blockOnExtensions h true r = (r', false) → CopiesExtensions r r' →
      r.remote.get "database" = some database →
      h.synced (joinDatabases lower (s.putRelation rid r') h.unit rid r.endpoint database) = true →
      JoinEffect h s rid r
        (publishAndCreate h
          ((s.putRelation rid r').setRelationDatabases
            (joinDatabases lower (s.putRelation rid r') h.unit rid r.endpoint database))
          rid r' (s.generateUsername rid) (((r.unit h.unit).get "password").getD h.newPassword)
          database)

theorem joined_effect (h : Hook) (s : App) (rid : RelId) (r : Relation) :
    JoinEffect lower h s rid r (onRelationJoined lower h s rid r) := by
  unfold onRelationJoined
  by_cases hl : h.unit = s.leader
  swap
  · rw [if_pos hl]
    exact .follower hl
  rw [if_neg (not_not.mpr hl)]
  cases hready : h.ready with
  | false => exact .notReady hl hready
  | true =>
    cases hb : blockOnExtensions h true r with
    | mk r' block =>
      have hc : CopiesExtensions r r' := by
        simpa [hb] using copiesExtensions_block h true r
      have hu := hc.unit h.unit "password" (by decide)
      cases block with
      | true => exact .blocked hl hready hb hc
      | false =>
        simp only [Bool.not_true, Bool.false_eq_true, if_false, hc.remote, hc.endpoint, hu]
        cases hdb : r.remote.get "database" with
        | none => exact .noDatabase hl hready hb hc hdb
        | some database =>
          simp only
          split_ifs with hs
          · exact .unsynced hl hready hb hc hdb (by simpa using hs)
          · exact .served hl hready hb hc hdb (by simpa using hs)

/-- `_on_relation_changed` leaves the state as it is, or the leader copies the
    complete credentials of its own databag. -/
theorem changed_cases (h : Hook) (s : App) (rid : RelId) (r : Relation) :
    (∃ o, onRelationChanged h s rid r = ⟨s, o⟩) ∨
      ∃ user password database, h.unit = s.leader ∧ (r.unit h.unit).get "user" = some user ∧
        (r.unit h.unit).get "password" = some password ∧
        (r.unit h.unit).get "database" = some database ∧
        onRelationChanged h s rid r = ⟨s.putRelation rid (r.updateDatabags h.unit true
          [("user", user), ("password", password), ("database", database)]), .returned⟩ := by
  unfold onRelationChanged
  cases h.ready with
  | false => exact .inl ⟨_, rfl⟩
  | true =>
    rcases hd : (r.unit h.unit).get "database" with _ | database
    · exact .inl ⟨_, rfl⟩
    rcases hu : (r.unit h.unit).get "user" with _ | user
    · exact .inl ⟨_, rfl⟩
    rcases hp : (r.unit h.unit).get "password" with _ | password
    · exact .inl ⟨_, rfl⟩
    by_cases hl : h.unit = s.leader
    · exact .inr ⟨_, _, _, hl, rfl, rfl, rfl, by simp [hl]⟩
    · exact .inl ⟨.returned, by simp [hl]⟩

end DbProvides

end PgBouncerK8s
