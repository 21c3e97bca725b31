import PgBouncerK8s.Relations.Db

/-!
# The client relations

Model of the `PgBouncerProvider` handlers (`relations/pgbouncer_provider.py`)
and of the part of `data_interfaces.py` that emits `database_requested`. The
status of the unit and the connection information of `update_connection_info`
are left out; the calls for the auth function and for `pg_hba` return.

* `requested_effect`: everything `_on_database_requested` can do.
-/

namespace PgBouncerK8s

open Text (str)

namespace PgBouncerProvider

variable (lower : String → String)

/-! ## Handlers -/

/-- The roles `_on_database_requested` works with (`pgbouncer_provider.py`,
    lines 127–128). -/
def requestedRoles (r : Relation) : List String :=
  sanitizeExtraRoles lower (r.remote.get "extra-user-roles") ++ ["relation_access"]

/-- The map `_on_database_requested` stores (`pgbouncer_provider.py`,
    lines 130–146). -/
def requestDatabases (s : App) (u : UnitId) (rid : RelId) (r : Relation) (database : String) :
    Dbs :=
  let dbs := (generateRelationDatabases lower s u).2
  let dbs := dbs.set (str rid) ⟨database, false, none⟩
  if anyRole requestRoles (requestedRoles lower r) then
    dbs.set "*" ⟨"*", false, some database⟩
  else dbs

/-- `user` (`pgbouncer_provider.py`, line 163). -/
def relationUser (rid : RelId) : String := "relation_id_" ++ str rid

/-- `set_credentials` and `set_database` of `data_interfaces.py`. -/
def setCredentials (user password database : String) (r : Relation) : Relation :=
  { r with
    app := (r.app.update [("username", user), ("password", password)]).set "database" database }

/-- The part of `_on_database_requested` behind the peer barrier
    (`pgbouncer_provider.py`, lines 162–206): create, then publish. -/
def createAndPublish (h : Hook) (s : App) (rid : RelId) (r : Relation) (database : String) :
    Result :=
  let user := relationUser rid
  let password := h.newPassword
  let (backend, ok) := s.backend.provision h user password database
  if !ok then
    ⟨{ s with backend := backend },
      .blocked (h.createMessage.getD
        ("Failed to initialize relation " ++ r.endpoint.relationName))⟩
  else
    let backend := (backend.removeAuthFunction database).initialiseAuthFunction database
    ⟨({ s with backend := backend } : App).putRelation rid
      (setCredentials user password database r), .returned⟩

/-- `_on_database_requested` (`pgbouncer_provider.py`, lines 107–206) for the
    live relation `rid` with data `r`; `database` is `event.database`. -/
def onDatabaseRequested (h : Hook) (s : App) (rid : RelId) (r : Relation) (database : String) :
    Result :=
  if h.unit ≠ s.leader then ⟨s, .returned⟩
  else if !h.ready || h.readWriteEndpoints == "" then ⟨s, .deferred⟩
  else
    let dbs := requestDatabases lower s h.unit rid r database
    let s := s.setRelationDatabases dbs
    if !h.synced dbs then ⟨s, .deferred⟩
    else createAndPublish h s rid r database

/-- `_on_relation_broken` (`pgbouncer_provider.py`, lines 223–250); `none`
    where `delete_user` raises. -/
def onRelationBroken (h : Hook) (s : App) (rid : RelId) (r : Relation) : Option Result :=
  let flag := departFlag r.endpoint rid
  if !h.ready || h.unit ≠ s.leader then some ⟨s, .returned⟩
  else if (s.peerUnit h.unit).get flag = some "true" then
    some ⟨{ s with
      peerUnit := Function.update s.peerUnit h.unit ((s.peerUnit h.unit).pop flag) }, .returned⟩
  else
    let dbs := getRelationDatabases s h.unit
    let database := (dbs.get? (str rid)).map DbEntry.name
    let dbs := dbs.erase (str rid)
    let s := s.setRelationDatabases dbs
    let backend :=
      match database with
      | some name =>
        if name ≠ "" ∧ name ∉ dbs.values.map DbEntry.name then s.backend.removeAuthFunction name
        else s.backend
      | none => s.backend
    if !h.deleteUserOk then none
    else some ⟨{ s with backend := backend.deleteUser (relationUser rid) }, .returned⟩

/-! ## The emission of `database_requested` -/

/-- The keys of the client's databag that are not in the stored `data`
    (`diff`, `data_interfaces.py`, lines 590–597), as a predicate. -/
def added (r : Relation) (k : String) : Bool := r.remote.contains k && !r.diffData.contains k

/-- `_on_relation_changed_event` (`data_interfaces.py`, lines 3553–3574) on
    unit `u`: the relation with the new `data`, and whether
    `database_requested` is emitted. -/
def onRelationChangedEvent (s : App) (u : UnitId) (r : Relation) : Relation × Bool :=
  if u ≠ s.leader then (r, false)
  else ({ r with diffData := r.remote }, added r "database" && !added r "entity-type")

/-! ## What a request can do -/

/-- The results of `_on_database_requested`, with what led to each. -/
inductive RequestEffect (h : Hook) (s : App) (rid : RelId) (r : Relation) (database : String) :
    Result → Prop
  | follower : h.unit ≠ s.leader → RequestEffect h s rid r database ⟨s, .returned⟩
  | notReady : h.unit = s.leader → (h.ready = false ∨ h.readWriteEndpoints = "") →
      RequestEffect h s rid r database ⟨s, .deferred⟩
  | unsynced : h.unit = s.leader → h.ready = true → h.readWriteEndpoints ≠ "" →
      h.synced (requestDatabases lower s h.unit rid r database) = false →
      RequestEffect h s rid r database
        ⟨s.setRelationDatabases (requestDatabases lower s h.unit rid r database), .deferred⟩
  | served : h.unit = s.leader → h.ready = true → h.readWriteEndpoints ≠ "" →
      h.synced (requestDatabases lower s h.unit rid r database) = true →
      RequestEffect h s rid r database
        (createAndPublish h
          (s.setRelationDatabases (requestDatabases lower s h.unit rid r database)) rid r database)

theorem requested_effect (h : Hook) (s : App) (rid : RelId) (r : Relation) (database : String) :
    RequestEffect lower h s rid r database (onDatabaseRequested lower h s rid r database) := by
  unfold onDatabaseRequested
  by_cases hl : h.unit = s.leader
  swap
  · rw [if_pos hl]
    exact .follower hl
  rw [if_neg (not_not.mpr hl)]
  by_cases hn : h.ready = false ∨ h.readWriteEndpoints = ""
  · rw [if_pos (by simpa using hn)]
    exact .notReady hl hn
  · obtain ⟨hready, heps⟩ := not_or.mp hn
    rw [if_neg (by simpa using hn)]
    have hready : h.ready = true := by simpa using hready
    cases hs : h.synced (requestDatabases lower s h.unit rid r database) with
    | false => simpa [hs] using RequestEffect.unsynced hl hready heps hs
    | true => simpa [hs] using RequestEffect.served hl hready heps hs

end PgBouncerProvider

end PgBouncerK8s
