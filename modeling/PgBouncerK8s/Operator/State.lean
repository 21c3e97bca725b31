import PgBouncerK8s.Auth.Secrets
import PgBouncerK8s.Lib.Action
import PgBouncerK8s.Model.CharmConfig
import PgBouncerK8s.Routing.Lifecycle

/-!
# The operator

The handlers of the charm as actions on what one unit sees: the application
state of `App` and the secrets of `Auth`, the unit's status and the services in
its Pebble plan. A handler may fail with an exception, at any point where the
source can raise one, and may defer its event.

What a hook meets besides the state is an `Env`; it does not change during the
hook; the services, which the handlers restart, are part of the state. The ini
files and the connection strings written to the clients are left out, and so
are calls that only log. The peer relation exists, so that the unit databag is not
`None`; it is never empty, since `relation-created` writes the address.
-/

namespace PgBouncerK8s.Operator

/-! ## State -/

/-- `unit.status`. -/
inductive Status
  | active
  | blocked (message : String)
  | waiting (message : String)
  | maintenance (message : String)
  deriving DecidableEq

/-- `unit.status.message`. -/
def Status.message : Status → String
  | .active => ""
  | .blocked message => message
  | .waiting message => message
  | .maintenance message => message

/-- `ServiceStatus` of Pebble. -/
inductive ServiceStatus
  | active
  | inactive
  | error
  deriving DecidableEq

/-- `str(status)`. -/
def ServiceStatus.text : ServiceStatus → String
  | .active => "ServiceStatus.ACTIVE"
  | .inactive => "ServiceStatus.INACTIVE"
  | .error => "ServiceStatus.ERROR"

/-- The exceptions: `relationDataAccessError` is what ops raises when a unit
    other than the leader writes application data, `valueError` what
    `CharmConfig` raises. `other` are all those no handler names. -/
inductive Failure
  | relationDataAccessError
  | valueError
  | pebbleConnectionError
  | changeError
  | psycopg2Error
  | other
  deriving DecidableEq

/-- What a handler on one unit reads and writes. `services` is the Pebble plan
    with the state of each service; `deferred` says that the handler has
    deferred its event, `completed` that it has written `completed` as the state
    of the unit's upgrade. `causes` and `activations` are not part of the charm:
    they record which message each relation has blocked the unit with, and for
    each `ActiveStatus` that is set whether what `update_status` demands held. -/
structure State where
  app : App
  secrets : Auth.Charm
  readonlyDbs : Option (List String)
  currentPort : Option String
  status : Status
  services : Dict String ServiceStatus
  deferred : Bool
  completed : Bool
  causes : List (RelId × String)
  activations : List Bool

/-- The answer of Kubernetes to `get_service`. -/
inductive ServiceAnswer
  | failed
  | missing
  | found
  deriving DecidableEq

/-- The answer of Kubernetes to `apply`. Between `get_service` and it, the pod
    is fetched and the annotations are parsed with `json.loads`; a failure
    there, which escapes in the same way, is `failed` too. -/
inductive ApplyAnswer
  | failed
  | forbidden
  | applied
  deriving DecidableEq

/-- What a hook meets. In `hook`, `ready` is the answer of the backend to the
    query of `ready`, and `readWriteEndpoints` what `get_hosts_ports` computes
    where there is a service.

    The backend: `connected`, its databag has endpoints and a password;
    `databaseRequested`, the own databag of its relation has a `database`;
    `createErrorCaught`, an error of the create calls is of a class that the
    handler names; `sqlOk`, the statements for the auth function return;
    `connects`, a connection to the database can be opened; `version`, what
    `get_postgresql_version` returns, `none` where it raises; `results`, the
    names the query of `_collect_readonly_dbs` returns; `authUserOk`,
    `create_user` and `delete_user` return for the auth user; `initialiseOk`,
    `initialise_auth_function` returns in `_on_database_created`.

    The workload: `restarts`, Pebble restarts the service; `replans`, it
    replans; `filesOk`, the ini files can be rendered and pushed.

    Kubernetes: `endpointsOk`, the nodes and the ingress of the service can be
    read; `connectivity`, whether its endpoints accept connections, `none`
    where the check raises. -/
structure Env where
  hook : Hook
  options : Options
  connected : Bool
  databaseRequested : Bool
  createErrorCaught : Bool
  sqlOk : String → Bool
  connects : String → Bool
  version : Option String
  results : Option (List String)
  authUserOk : Bool
  initialiseOk : Bool
  secretsAccessible : Bool
  newSystemPassword : Auth.PasswordKey → String
  hashedPassword : Auth.Plain
  hashed : Auth.PasswordKey → Except Auth.Failure Auth.Plain
  rehashed : ℕ → Except Auth.Failure Auth.Plain
  canConnect : Bool
  cores : ℕ
  restarts : String → Bool
  replans : Bool
  filesOk : Bool
  tlsFiles : Bool
  service : ServiceAnswer
  endpointsOk : Bool
  serviceTypeMatches : Bool
  applied : ApplyAnswer
  connectivity : Option Bool
  hasRemoteData : RelId → Bool
  hasUnits : RelId → Bool
  allowedSubnets : RelId → String
  allowedUnits : RelId → String
  hash : Dbs → String
  hostname : String
  nonce : String
  plannedUnits : ℕ
  upgrading : Bool
  invalidExtraUserRole : String

/-- A handler, or a part of one. -/
abbrev Handler (α : Type) := Action Failure State α

variable (env : Env)

/-- `unit.is_leader()`. -/
def isLeader (s : State) : Bool := env.hook.unit = s.app.leader

theorem unit_eq_leader {env : Env} {s : State} (h : isLeader env s = true) :
    env.hook.unit = s.app.leader :=
  of_decide_eq_true h

theorem unit_ne_leader {env : Env} {s : State} (h : isLeader env s = false) :
    env.hook.unit ≠ s.app.leader :=
  of_decide_eq_false h

/-- `backend.postgres is not None` (`backend_database.py`, lines 126–156). -/
def postgres (s : State) : Bool := s.secrets.relation.join.isSome && env.connected

/-- `backend.ready` (`backend_database.py`, lines 215–240). -/
def ready (s : State) : Bool := postgres env s && s.secrets.authFile.isSome && env.hook.ready

/-- `peers.unit_databag`. -/
def unitDatabag (s : State) : Databag := s.app.peerUnit env.hook.unit

/-- `is_container_ready` (`charm.py`, lines 365–370). -/
def isContainerReady (s : State) : Bool :=
  env.canConnect && (unitDatabag env s).contains "container_initialised"

/-! ## Messages -/

/-- `INVALID_DATABASE_NAME_BLOCKING_MESSAGE`. -/
def invalidDatabaseName : String := "invalid database name"

/-- `CONTAINER_UNAVAILABLE_MESSAGE` (`constants.py`). -/
def containerUnavailable : String := "PgBouncer container currently unavailable"

/-- `WAITING_FOR_K8S_SERVICE_MESSAGE` (`constants.py`). -/
def waitingForK8sService : String := "Waiting for K8s service connectivity"

/-- `INSUFFICIENT_PERMISSIONS_MESSAGE` (`charm.py`, lines 189–191). -/
def insufficientPermissions (name : String) : String :=
  "Insufficient permissions, try: `juju trust " ++ name ++ " --scope=cluster`"

/-- The message of `configuration_check`. -/
def configurationError : String := "Configuration Error. Please check the logs"

/-- The messages of `update_status` without the backend, and where it does not
    answer. -/
def noBackend : String := "waiting for backend database relation to initialise"

def backendNotReady : String := "backend database relation not ready"

/-- The message of `update_status` where the service cannot be connected to. -/
def notConnectable : String := "K8s service not connectable"

/-- `pgb_not_running` (`charm.py`, line 720). -/
def pgbNotRunning (service : String) (status : ServiceStatus) : String :=
  "PgBouncer service " ++ service ++ " not running: service status = " ++ status.text

/-- The message of `_on_relation_departed` (`backend_database.py`,
    lines 445–448). -/
def removeAuthFailed : String :=
  "failed to remove auth user when disconnecting from postgres application."

/-- The message of `_on_relation_broken` (`pgbouncer_provider.py`,
    lines 247–249). -/
def deleteUserFailed (ep : Endpoint) : String :=
  "Failed to delete user during " ++ ep.relationName ++ " relation broken event"

/-- The statuses that the charm sets of its own accord: no request of a relation
    is to blame. -/
inductive Status.Own : Status → Prop
  | active : Own .active
  | waiting (message : String) : Own (.waiting message)
  | maintenance (message : String) : Own (.maintenance message)
  | configuration : Own (.blocked configurationError)
  | noBackend : Own (.blocked noBackend)
  | backendNotReady : Own (.blocked backendNotReady)
  | notConnectable : Own (.blocked notConnectable)
  | notRunning (service : String) (status : ServiceStatus) :
      Own (.blocked (pgbNotRunning service status))
  | permissions (name : String) : Own (.blocked (insufficientPermissions name))
  | removeAuth : Own (.blocked removeAuthFailed)
  | deleteUser (ep : Endpoint) : Own (.blocked (deleteUserFailed ep))

/-- The messages `update_status` does not touch (`charm.py`, lines 635–639). -/
def stickyMessages : List String :=
  [DbProvides.extensionsBlockingMessage, invalidDatabaseName, env.invalidExtraUserRole]

/-! ## Effects -/

/-- `self.unit.status = status`. -/
def setStatus (status : Status) : Handler Unit :=
  Action.modify fun s => { s with status := status }

/-- `event.defer()`. -/
def defer : Handler Unit := Action.modify fun s => { s with deferred := true }

/-- `self.unit.status = BlockedStatus(message)` on behalf of a relation. -/
def blockOn (rid : RelId) (message : String) : Handler Unit :=
  Action.modify fun s =>
    { s with status := .blocked message, causes := s.causes ++ [(rid, message)] }

/-- A write to the peer application databag or to an application secret. -/
def writeApplication (f : State → State) : Handler Unit := do
  let s ← Action.get
  if isLeader env s then Action.modify f else Action.fail .relationDataAccessError

/-- The state with other contents of `peers.unit_databag`. -/
def setUnitDatabag (s : State) (b : Databag) : State :=
  { s with app := { s.app with
      peerUnit := Function.update s.app.peerUnit env.hook.unit b } }

@[simp] theorem unitDatabag_setUnitDatabag (s : State) (b : Databag) :
    unitDatabag env (setUnitDatabag env s b) = b := by
  unfold unitDatabag setUnitDatabag
  exact Function.update_self _ _ _

/-- `self.peers.unit_databag[key] = value`. -/
def writeUnit (key value : String) : Handler Unit :=
  Action.modify fun s => setUnitDatabag env s ((unitDatabag env s).set key value)

/-- `self.peers.unit_databag.pop(key, None)`. -/
def popUnit (key : String) : Handler Unit :=
  Action.modify fun s => setUnitDatabag env s ((unitDatabag env s).pop key)

/-- A change of the data of a relation, or of the backend. -/
def modifyApp (f : App → App) : Handler Unit := Action.modify fun s => { s with app := f s.app }

/-- A call to PostgreSQL. -/
def modifyBackend (f : Backend → Backend) : Handler Unit :=
  modifyApp fun a => { a with backend := f a.backend }

/-- `set_relation_databases` (`charm.py`, lines 873–875). -/
def setRelationDatabases (dbs : Dbs) : Handler Unit :=
  writeApplication env fun s => { s with app := s.app.setRelationDatabases dbs }

/-- `self.config`. -/
def config : Handler CharmConfig :=
  match CharmConfig.build env.options with
  | some config => pure config
  | none => Action.fail .valueError

/-- `configuration_check` (`charm.py`, lines 525–533). -/
def configurationCheck : Handler Bool :=
  Action.tryCatch
    (do
      let _ ← config env
      return true)
    fun e =>
      if e = .valueError then do
        setStatus (.blocked configurationError)
        return false
      else Action.fail e

section Configuration

variable {env}

theorem config_valid {c : CharmConfig} (hc : CharmConfig.build env.options = some c) :
    config env = pure c := by
  unfold config
  rw [hc]

theorem config_invalid (hc : CharmConfig.build env.options = none) :
    config env = Action.fail .valueError := by
  unfold config
  rw [hc]

theorem configurationCheck_valid {c : CharmConfig} (hc : CharmConfig.build env.options = some c) :
    configurationCheck env = pure true := by
  unfold configurationCheck
  rw [config_valid hc]
  rfl

theorem configurationCheck_invalid (hc : CharmConfig.build env.options = none) :
    configurationCheck env = do
      setStatus (.blocked configurationError)
      return false := by
  unfold configurationCheck
  rw [config_invalid hc]
  rfl

end Configuration

/-- `check_backend` (`backend_database.py`, lines 540–552). -/
def checkBackend : Handler Bool := do
  let s ← Action.get
  if ready env s then return true
  else
    setStatus (.waiting "waiting for backend-database relation to connect")
    return false

/-- `get_service` (`charm.py`, lines 199–212): whether the service exists. -/
def getService : Handler Bool :=
  match env.service with
  | .failed => Action.fail .other
  | .missing => return false
  | .found => return true

/-- `get_hosts_ports` (`charm.py`, lines 555–585), the same for both types. -/
def getHostsPorts : Handler String := do
  let service ← getService env
  if service then
    let _ ← config env
    if env.endpointsOk then return env.hook.readWriteEndpoints else Action.fail .other
  else return ""

/-- `check_service_connectivity` (`charm.py`, lines 597–631). -/
def checkServiceConnectivity : Handler Bool := do
  let service ← getService env
  if service then
    let endpoints ← getHostsPorts env
    if endpoints = "" then return false
    else
      match env.connectivity with
      | some connected => return connected
      | none => Action.fail .other
  else return false

/-- `restart` of Pebble. -/
def restart (service : String) : Handler Unit :=
  if env.restarts service then
    Action.modify fun s => { s with services := s.services.modify service fun _ => .active }
  else Action.fail .changeError

end PgBouncerK8s.Operator
