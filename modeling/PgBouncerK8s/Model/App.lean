import PgBouncerK8s.Lib.Dict
import PgBouncerK8s.Lib.Text
import PgBouncerK8s.Model.Databag

/-!
# The application state

The state shared by the client-facing handlers of `relations/db.py` and
`relations/pgbouncer_provider.py`: the live relations with their databags, the
peer databag, and the PostgreSQL backend.

Juju's visibility rules are part of the data: `Relation.unit u` is
`relation.data[unit]`, which only unit `u` can read and write, `Relation.app`
is `relation.data[app]`, which the leader reads and writes, and
`Relation.remote` is the databag of the related application.

`json.dumps` and `json.loads` are inverse on the maps stored here, so the
databag value `pgb_dbs_config` is modelled by the map it encodes, and the hash
of that text by the map itself: two hashes are equal when the maps are.
-/

namespace PgBouncerK8s

/-- The index of a unit of the application. -/
abbrev UnitId := ℕ

/-- `relation.id`. -/
abbrev RelId := ℕ

/-- The three endpoints that provide databases (`metadata.yaml`). -/
inductive Endpoint
  | db
  | dbAdmin
  | database
  deriving DecidableEq

/-- `self.relation_name`. -/
def Endpoint.relationName : Endpoint → String
  | .db => "db"
  | .dbAdmin => "db-admin"
  | .database => "database"

/-- Whether the endpoint is served by `DbProvides`. -/
def Endpoint.legacy : Endpoint → Bool
  | .db => true
  | .dbAdmin => true
  | .database => false

/-- One live relation. `diffData` is the dictionary that `diff`
    (`data_interfaces.py`, lines 565–607) keeps under the key `data` of the
    application databag. -/
structure Relation where
  endpoint : Endpoint
  remote : Databag
  app : Databag
  unit : UnitId → Databag
  diffData : Databag

/-- A relation as it is created. -/
def Relation.new (ep : Endpoint) : Relation :=
  ⟨ep, .empty, .empty, fun _ => .empty, .empty⟩

/-- The key under which the user name is published: `user` by `DbProvides`,
    `username` by `set_credentials`. -/
def Endpoint.userKey : Endpoint → String
  | .database => "username"
  | _ => "user"

/-- The client has written the database it wants. -/
def Relation.asked (r : Relation) : Bool := r.remote.contains "database"

/-- Credentials have been published in the application databag. -/
def Relation.published (r : Relation) : Bool :=
  r.app.contains r.endpoint.userKey && r.app.contains "password"

/-- A value of the relation-database map. The key `auth_dbname` is present in
    the wildcard entry only; `none` there is JSON's `null`. -/
structure DbEntry where
  name : String
  legacy : Bool
  authDbname : Option String
  deriving DecidableEq

/-- The relation-database map stored under `pgb_dbs_config`. -/
abbrev Dbs := Dict String DbEntry

/-- A call made to PostgreSQL through the backend relation. -/
inductive Call
  | createUser (user password : String)
  | createDatabase (database : String)
  | deleteUser (user : String)
  | removeAuthFunction (database : String)
  | initialiseAuthFunction (database : String)
  deriving DecidableEq

/-- The PostgreSQL backend: the current password of each role, the existing
    databases, and the calls made so far. -/
structure Backend where
  roles : String → Option String
  databases : List String
  calls : List Call

namespace Backend

/-- A `create_user` that returns: the role exists with this password. -/
def createUser (b : Backend) (user password : String) : Backend :=
  { b with
    roles := Function.update b.roles user (some password)
    calls := b.calls ++ [.createUser user password] }

/-- A `create_database` that returns: the database exists. -/
def createDatabase (b : Backend) (database : String) : Backend :=
  { b with
    databases := if database ∈ b.databases then b.databases else b.databases ++ [database]
    calls := b.calls ++ [.createDatabase database] }

/-- A `delete_user` that returns. -/
def deleteUser (b : Backend) (user : String) : Backend :=
  { b with
    roles := Function.update b.roles user none
    calls := b.calls ++ [.deleteUser user] }

/-- `remove_auth_function(dbs=[database])`. -/
def removeAuthFunction (b : Backend) (database : String) : Backend :=
  { b with calls := b.calls ++ [.removeAuthFunction database] }

/-- `initialise_auth_function([database])`. -/
def initialiseAuthFunction (b : Backend) (database : String) : Backend :=
  { b with calls := b.calls ++ [.initialiseAuthFunction database] }

end Backend

/-- The stored state. `name` and `model` are `self.app.name` and
    `self.model.name`; `peerUnit u` is the peer databag of unit `u`;
    `pgbDbsConfig` is the peer application databag's `pgb_dbs_config`;
    `cfgDatabases` are the options of the `[databases]` section of the old
    `cfg_file` secret, where there is one, with `DEFAULT` popped. -/
structure App where
  name : String
  model : String
  leader : UnitId
  relations : Dict RelId Relation
  pgbDbsConfig : Option Dbs
  cfgDatabases : Option (List String)
  peerUnit : UnitId → Databag
  backend : Backend

/-- What one invocation of a handler meets besides the stored state: the unit
    it runs on, the answers of the backend and of Kubernetes, the password
    `generate_password` draws, and the peer units with the `pgb_dbs` they are
    seen to have acknowledged. A create call that does not return raises the
    error the handler catches, with message `createMessage`; a `delete_user`
    that does not return raises the error no handler catches. -/
structure Hook where
  unit : UnitId
  ready : Bool
  readWriteEndpoints : String
  pluginEnabled : String → Bool
  newPassword : String
  newPassword_ne : newPassword ≠ ""
  postgresV0 : Bool
  createUserOk : Bool
  createDatabaseOk : Bool
  createMessage : Option String
  deleteUserOk : Bool
  otherUnits : List UnitId
  ack : UnitId → Option Dbs

/-- How a handler ends: it returns, it defers its event, or it sets
    `BlockedStatus` and returns. -/
inductive Outcome
  | returned
  | deferred
  | blocked (message : String)
  deriving DecidableEq

/-- The result of a handler that ends without an exception: the state it
    leaves and how it ended. After an exception Juju discards the databag
    writes of the hook and runs it again. -/
structure Result where
  app : App
  outcome : Outcome

namespace App

/-- Replace the data of a live relation. -/
def putRelation (s : App) (rid : RelId) (r : Relation) : App :=
  { s with relations := s.relations.modify rid fun _ => r }

/-- `set_relation_databases` (`charm.py`, lines 873–875). -/
def setRelationDatabases (s : App) (dbs : Dbs) : App := { s with pgbDbsConfig := some dbs }

/-- The stored map, `{}` where none has been stored. -/
def databases (s : App) : Dbs := s.pgbDbsConfig.getD .empty

@[simp] theorem databases_setRelationDatabases (s : App) (dbs : Dbs) :
    (s.setRelationDatabases dbs).databases = dbs := rfl

@[simp] theorem relations_setRelationDatabases (s : App) (dbs : Dbs) :
    (s.setRelationDatabases dbs).relations = s.relations := rfl

theorem get?_putRelation {s : App} {rid : RelId} {r : Relation}
    (hr : s.relations.get? rid = some r) (r' : Relation) (rid' : RelId) :
    (s.putRelation rid r').relations.get? rid' =
      if rid' = rid then some r' else s.relations.get? rid' := by
  unfold putRelation
  rw [Dict.get?_modify]
  split_ifs with h
  · rw [h, hr]
    rfl
  · rfl

end App

/-- Credentials in a databag for endpoint `ep`: user, password and database
    are all present. -/
def Databag.credentials (ep : Endpoint) (b : Databag) : Option (String × String × String) :=
  match b.get ep.userKey, b.get "password", b.get "database" with
  | some user, some password, some database => some (user, password, database)
  | _, _, _ => none

/-- All units in `otherUnits` have acknowledged the map `dbs`: no unit makes
    the loops of `pgbouncer_provider.py` (lines 151–160) and `db.py`
    (lines 251–260) defer. -/
def Hook.synced (h : Hook) (dbs : Dbs) : Bool := h.otherUnits.all fun v => h.ack v = some dbs

/-- The two create calls in the order of the backend's version: version 14
    creates the user first, later versions create the database first
    (`db.py`, lines 278–287; `pgbouncer_provider.py`, lines 167–180). Returns
    the backend and whether both calls returned. -/
def Backend.provision (b : Backend) (h : Hook) (user password database : String) :
    Backend × Bool :=
  if h.postgresV0 then
    if !h.createUserOk then (b, false)
    else if !h.createDatabaseOk then (b.createUser user password, false)
    else ((b.createUser user password).createDatabase database, true)
  else
    if !h.createDatabaseOk then (b, false)
    else if !h.createUserOk then (b.createDatabase database, false)
    else ((b.createDatabase database).createUser user password, true)

end PgBouncerK8s
