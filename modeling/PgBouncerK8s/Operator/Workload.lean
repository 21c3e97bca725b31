import PgBouncerK8s.Operator.State

/-!
# The workload and the status

The part of `charm.py` that all handlers share: the checks and restarts of the
Pebble services, rendering, the status of the unit, and the connection
information of the clients. Where a value is only written to a file or to a
client's databag, what computing it can raise is modelled, not the value.
-/

namespace PgBouncerK8s.Operator

open Text (str)

variable (env : Env)

/-! ## Pebble -/

/-- The names of `self._services` (`charm.py`, lines 162–171). -/
def serviceNames : List String := (List.range env.cores).map fun i => "pgbouncer_" ++ str i

/-- `self._metrics_service`. -/
def metricsService : String := "metrics_server"

/-- The loop of `check_pgb_running` (`charm.py`, lines 714–730). -/
def checkServices : List String → Handler Bool
  | [] => return true
  | service :: services => do
    let s ← Action.get
    match s.services.get? service with
    | none => Action.fail .pebbleConnectionError
    | some status =>
      if status = .active then checkServices services
      else
        Action.when (s.status.message ≠ DbProvides.extensionsBlockingMessage)
          (setStatus (.blocked (pgbNotRunning service status)))
        Action.when (service = metricsService ∧ env.restarts service = true)
          (restart env service)
        return false

/-- `check_pgb_running` (`charm.py`, lines 700–732). -/
def checkPgbRunning : Handler Bool := do
  let s ← Action.get
  if env.canConnect then
    checkServices env (serviceNames env ++ if ready env s then [metricsService] else [])
  else
    Action.when (s.status.message ≠ DbProvides.extensionsBlockingMessage)
      (setStatus (.waiting containerUnavailable))
    return false

/-- The body of the loop over the services in `render_pgb_config` (`charm.py`,
    lines 1088–1096). -/
def reloadService (restarting : Bool) (service : String) : Handler Unit := do
  let s ← Action.get
  match s.services.get? service with
  | none => Action.fail .pebbleConnectionError
  | some status => Action.when (restarting = true ∨ status ≠ .active) (restart env service)

/-- `render_pgb_config` (`charm.py`, lines 1011–1098). -/
def renderPgbConfig (restarting : Bool) : Handler Unit := do
  let valid ← configurationCheck env
  Action.when (valid = true ∧ env.canConnect = true) do
    let _ ← config env
    Action.when (env.filesOk = false) (Action.fail .other)
    let s ← Action.get
    Action.when (s.services.items ≠ []) do
      Action.forEach (reloadService env restarting) (serviceNames env)
      let _ ← checkPgbRunning env
      return ()

/-- `push_file` and `delete_file` (`charm.py`, lines 842–871); `message` is the
    one for a container that is not available. -/
def withContainer (message : String) : Handler Unit :=
  Action.when (env.canConnect = false) (setStatus (.waiting message))

def pushFile : Handler Unit :=
  withContainer env "Unable to push config to container - container unavailable."

def deleteFile : Handler Unit :=
  withContainer env "Unable to delete file from container - container unavailable."

/-- `render_auth_file` (`charm.py`, lines 1100–1104). -/
def renderAuthFile : Handler Unit := do
  let s ← Action.get
  Action.when (s.secrets.authFile.isSome = true) (pushFile env)

/-- `add_layer` with these services: a new one is inactive. -/
def addLayer (names : List String) : Handler Unit :=
  if env.canConnect then
    Action.modify fun s =>
      let addService := fun (d : Dict String ServiceStatus) name =>
        if d.contains name then d else d.set name .inactive
      { s with services := names.foldl addService s.services }
  else Action.fail .pebbleConnectionError

/-- `replan`: the services whose startup is enabled run afterwards, the metrics
    service if `metrics` holds. -/
def replan (metrics : Bool) : Handler Unit :=
  if env.replans then
    Action.modify fun s =>
      let services := s.services.mapValues fun _ => ServiceStatus.active
      { s with services :=
          if metrics then services
          else services.modify metricsService fun _ =>
            (s.services.get? metricsService).getD .inactive }
  else Action.fail .changeError

/-- `_generate_monitoring_service` (`charm.py`, lines 667–685): whether the
    service starts. -/
def generateMonitoringService (enabled : Bool) : Handler Bool := do
  let s ← Action.get
  if enabled && (s.secrets.passwords .monitoring).isSome then
    let _ ← config env
    return true
  else return false

/-- `stop` of the metrics service. -/
def stopMetrics : Handler Unit :=
  Action.modify fun s =>
    { s with services := s.services.modify metricsService fun _ => .inactive }

/-- The layer is applied and the service started or stopped (`charm.py`,
    lines 692–698). -/
def applyMonitoringLayer (enabled startup : Bool) : Handler Unit := do
  addLayer env [metricsService]
  Action.when (enabled = true) (replan env startup)
  Action.when (enabled = false) stopMetrics
  let _ ← checkPgbRunning env
  return ()

/-- `toggle_monitoring_layer` (`charm.py`, lines 687–698). -/
def toggleMonitoringLayer (enabled : Bool) : Handler Unit := do
  let startup ← generateMonitoringService env enabled
  applyMonitoringLayer env enabled startup

/-! ## Status -/

/-- What `update_status` demands before it sets `ActiveStatus` (`charm.py`,
    lines 643–661). -/
def healthy (s : State) : Bool :=
  (CharmConfig.build env.options).isSome && ready env s &&
    (!isLeader env s || ((checkServiceConnectivity env).run s).1.toOption.getD false) &&
    env.canConnect &&
    (serviceNames env ++ [metricsService]).all fun service =>
      s.services.get? service = some .active

/-- The state behind `self.unit.status = ActiveStatus()`. -/
def activated (s : State) : State :=
  { s with status := .active, activations := s.activations ++ [healthy env s] }

/-- `self.unit.status = ActiveStatus()`. -/
def setActive : Handler Unit := Action.modify (activated env)

/-- `self.charm.unit.status = initial_status`: a saved `ActiveStatus` is set
    again. -/
def restoreStatus (status : Status) : Handler Unit :=
  if status = .active then setActive env else setStatus status

/-- The end of `update_status` (`charm.py`, lines 658–665). -/
def updateRunning : Handler Unit :=
  Action.tryCatch
    (do
      let running ← checkPgbRunning env
      Action.when (running = true) (setActive env))
    fun e =>
      if e = .pebbleConnectionError then setStatus (.waiting "pgbouncer not running")
      else Action.fail e

/-- `update_status` (`charm.py`, lines 633–665). -/
def updateStatus : Handler Unit := do
  let s ← Action.get
  Action.when (s.status.message ∉ stickyMessages env) do
    let valid ← configurationCheck env
    Action.when (valid = true) do
      let s ← Action.get
      if !postgres env s then setStatus (.blocked noBackend)
      else if !ready env s then setStatus (.blocked backendNotReady)
      else
        let connectable ← (if isLeader env s then checkServiceConnectivity env else pure true)
        if connectable then updateRunning env
        else
          Action.when (s.status.message ≠ waitingForK8sService)
            (setStatus (.blocked notConnectable))

/-- `reconcile_k8s_service` (`charm.py`, lines 218–277). -/
def reconcileK8sService (portChanged : Bool) : Handler Bool := do
  let _ ← config env
  let exists_ ← getService env
  if !portChanged && exists_ && env.serviceTypeMatches then return true
  else
    match env.applied with
    | .failed => Action.fail .other
    | .forbidden => do
      let s ← Action.get
      setStatus (.blocked (insufficientPermissions s.app.name))
      return false
    | .applied => do
      let s ← Action.get
      Action.when (postgres env s = true) (setStatus (.maintenance waitingForK8sService))
      return true

/-- `_collect_readonly_dbs` (`charm.py`, lines 490–507). -/
def collectReadonlyDbs : Handler Unit := do
  let s ← Action.get
  Action.when (isLeader env s = true ∧ postgres env s = true) do
    Action.when (env.results.isSome = true)
      (writeApplication env fun s =>
        { s with readonlyDbs :=
            (Lifecycle.collectReadonlyDbs ⟨s.app, s.readonlyDbs⟩ env.hook.unit
              env.results).readonlyDbs })

/-! ## Connection information -/

/-- `update_connection_info` of `DbProvides` (`relations/db.py`,
    lines 361–409). -/
def DbProvides.updateConnectionInfo (r : Relation) : Handler Unit := do
  let valid ← configurationCheck env
  Action.when (valid = true) do
    let databag := r.unit env.hook.unit
    Action.when (databag.contains "database" = true ∧ databag.contains "user" = true ∧
        databag.contains "password" = true) do
      let _ ← getHostsPorts env
      return ()

/-- `update_endpoints` (`pgbouncer_provider.py`, lines 268–312): it ends at the
    first relation without database or password. -/
def PgBouncerProvider.updateEndpoints : List (RelId × Relation) → Handler Unit
  | [] => return ()
  | (rid, r) :: relations =>
    if !env.hasRemoteData rid then updateEndpoints relations
    else
      Action.when (r.remote.contains "database" = true ∧ r.app.contains "password" = true) do
        let _ ← getHostsPorts env
        updateEndpoints relations

/-- `update_connection_info` of `PgBouncerProvider` (`pgbouncer_provider.py`,
    lines 252–266). -/
def PgBouncerProvider.updateConnectionInfo (rid : RelId) (r : Relation) : Handler Unit := do
  let s ← Action.get
  Action.when (isLeader env s = true) do
    let valid ← configurationCheck env
    Action.when (valid = true) do
      PgBouncerProvider.updateEndpoints env [(rid, r)]
      Action.when (r.remote.contains "database" = true) do
        let ready ← checkBackend env
        Action.when (ready = true ∧ env.version = none) (Action.fail .other)

/-- `update_client_connection_info` (`charm.py`, lines 1110–1129). -/
def updateClientConnectionInfo : Handler Unit := do
  let s ← Action.get
  Action.when (postgres env s = true ∧ isLeader env s = true) do
    let _ ← config env
    Action.forEach (fun p => DbProvides.updateConnectionInfo env p.2) (s.app.relationsOf .db)
    Action.forEach (fun p => DbProvides.updateConnectionInfo env p.2) (s.app.relationsOf .dbAdmin)
    Action.forEach (fun p => PgBouncerProvider.updateConnectionInfo env p.1 p.2)
      (s.app.relationsOf .database)

end PgBouncerK8s.Operator
