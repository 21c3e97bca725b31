import PgBouncerK8s.Operator.Workload

/-!
# The handlers

One definition for each handler of `charm.py`, `relations/` and `upgrade.py`,
and `handle`, which runs the handler of an event.
-/

namespace PgBouncerK8s.Operator

open Text (str)

variable (env : Env)

/-! ## The charm and its peers -/

/-- `_on_update_status` (`charm.py`, lines 509–523). -/
def onUpdateStatus : Handler Unit := do
  updateStatus env
  collectReadonlyDbs env
  updateClientConnectionInfo env

/-- The part of `_on_config_changed` behind `reconcile_k8s_service` (`charm.py`,
    lines 393–405). -/
def applyConfig (listenPort : ℕ) (portChanged : Bool) : Handler Unit := do
  let s ← Action.get
  Action.when (isContainerReady env s = true)
    (Action.tryCatch (renderPgbConfig env portChanged) fun e =>
      if e = .pebbleConnectionError then defer else Action.fail e)
  Action.when (isLeader env s = true ∧ portChanged = true)
    (writeApplication env fun s => { s with currentPort := some (str listenPort) })
  updateStatus env
  let s ← Action.get
  Action.when (isLeader env s = true ∧ postgres env s = true) do
    let connectable ← checkServiceConnectivity env
    Action.when (connectable = true) (updateClientConnectionInfo env)

/-- `_on_config_changed` (`charm.py`, lines 372–405). -/
def onConfigChanged : Handler Unit := do
  let s ← Action.get
  if isContainerReady env s then
    let valid ← configurationCheck env
    Action.when (valid = true) do
      let config ← config env
      let portChanged : Bool := s.currentPort ≠ some (str config.listenPort)
      let reconciled ←
        (if isLeader env s then reconcileK8sService env portChanged else pure true)
      Action.when (reconciled = true) (applyConfig env config.listenPort portChanged)
  else defer

/-- `_init_config` (`charm.py`, lines 295–322). -/
def initConfig : Handler Unit := do
  Action.when (env.canConnect = false) (Action.fail .pebbleConnectionError)
  Action.when (env.filesOk = false) (Action.fail .other)

/-- `_on_pgbouncer_pebble_ready` (`charm.py`, lines 331–362). -/
def onPebbleReady : Handler Unit := do
  initConfig env
  writeUnit env "userlist_nonce" env.nonce
  renderAuthFile env
  Action.when (env.tlsFiles = true) (pushFile env)
  let s ← Action.get
  let startup ← generateMonitoringService env (postgres env s)
  addLayer env (["logrotate", metricsService] ++ serviceNames env)
  renderPgbConfig env false
  replan env startup
  updateStatus env
  writeUnit env "container_initialised" "True"

/-- `_on_leader_elected` (`relations/peers.py`, lines 149–150). -/
def Peers.onLeaderElected : Handler Unit := updateClientConnectionInfo env

/-- `_on_created` (`relations/peers.py`, lines 108–114). -/
def Peers.onCreated : Handler Unit := writeUnit env "private-address" env.hostname

/-- `_on_changed` (`relations/peers.py`, lines 116–142), which also handles
    `relation-joined` and `secret-changed`. -/
def Peers.onChanged : Handler Unit := do
  writeUnit env "private-address" env.hostname
  let s ← Action.get
  if isContainerReady env s then
    renderPgbConfig env false
    let s ← Action.get
    toggleMonitoringLayer env (ready env s)
    writeUnit env "pgb_dbs" (env.hash s.app.databases)
    let s ← Action.get
    Action.when (isLeader env s = true) do
      let valid ← configurationCheck env
      Action.when (valid = true)
        (PgBouncerProvider.updateEndpoints env (s.app.relationsOf .database))
  else defer

/-- `_on_departed` (`relations/peers.py`, lines 144–147). -/
def Peers.onDeparted : Handler Unit := do
  updateClientConnectionInfo env
  let s ← Action.get
  Action.when (isLeader env s = true)
    (PgBouncerProvider.updateEndpoints env (s.app.relationsOf .database))

/-! ## The backend relation -/

/-- Whose unit departs from a relation: this one, another one of the
    application, or one of the related application. -/
inductive Departing
  | own
  | peer
  | remote
  deriving DecidableEq

/-- `collect_databases` (`backend_database.py`, lines 242–279). -/
def collectDatabases (s : State) : List String :=
  let legacy := fun (p : RelId × Relation) =>
    if env.hasUnits p.1 then (p.2.unit env.hook.unit).get "database" else none
  ["pgbouncer", "postgres"] ++
    (((s.app.relationsOf .db).filterMap legacy ++ (s.app.relationsOf .dbAdmin).filterMap legacy ++
      (s.app.relationsOf .database).filterMap fun p => p.2.remote.get "database").filter
        fun database => env.connects database)

/-- One turn of the loop of `remove_auth_function` (`backend_database.py`,
    lines 519–530); a name of 50 or more characters is skipped on backends
    later than version 14. -/
def removeAuthFunctionFrom (dbname : String) : Handler Unit := do
  modifyBackend fun b => b.removeAuthFunction dbname
  let s ← Action.get
  if (postgres env s && env.hook.postgresV0) || dbname.length < 50 then
    if !postgres env s then Action.fail .other
    else Action.when (env.sqlOk dbname = false) (Action.fail .psycopg2Error)
  else
    Action.when (s.status = .blocked invalidDatabaseName) (setActive env)

/-- `remove_auth_function` (`backend_database.py`, lines 505–531). -/
def removeAuthFunction (dbs : List String) : Handler Unit :=
  Action.forEach (removeAuthFunctionFrom env) dbs

/-- `initialise_auth_function` (`backend_database.py`, lines 482–503) for one
    database. -/
def initialiseAuthFunction (dbname : String) : Handler Unit := do
  modifyBackend fun b => b.initialiseAuthFunction dbname
  Action.when (env.sqlOk dbname = false) (Action.fail .psycopg2Error)

/-- The last lines of both variants of `_on_database_created`. -/
def renderCreated : Handler Unit := do
  renderAuthFile env
  renderPgbConfig env false
  toggleMonitoringLayer env true
  updateStatus env

/-- The answers of PostgreSQL to `_on_database_created`. -/
def Env.created (s : State) : Auth.CreatedHook where
  leader := isLeader env s
  containerReady := isContainerReady env s
  secretsAccessible := env.secretsAccessible
  pgbRunning := true
  connected := env.connected
  databaseRequested := env.databaseRequested
  newPassword := env.newSystemPassword
  hashedPassword := env.hashedPassword
  hashed := env.hashed
  createUserOk := env.authUserOk
  authFunctionOk := env.initialiseOk

/-- `_on_database_created_non_leader` (`backend_database.py`, lines 303–321). -/
def BackendDatabaseRequires.onDatabaseCreatedNonLeader : Handler Unit := do
  let s ← Action.get
  Action.when (isContainerReady env s = true) do
    if env.secretsAccessible && s.secrets.authFile.isSome then renderCreated env
    else defer

/-- `check_pgb_running` in handlers that catch its error. -/
def pgbRunning : Handler Bool :=
  Action.tryCatch (checkPgbRunning env) fun e =>
    if e = .pebbleConnectionError then return false else Action.fail e

/-- `_on_database_created` (`backend_database.py`, lines 323–392). -/
def BackendDatabaseRequires.onDatabaseCreated : Handler Unit := do
  let s ← Action.get
  if isLeader env s then
    setStatus (.maintenance "Initialising backend-database relation")
    let running ← pgbRunning env
    if running then
      let s ← Action.get
      match s.secrets.authUser with
      | none => defer
      | some authUser =>
        if !env.connected || !env.databaseRequested then defer
        else
          match Auth.createUsers (env.created s) s.secrets authUser with
          | none => Action.fail .other
          | some (secrets, created) => do
            writeApplication env fun s => { s with secrets := secrets }
            if created then renderCreated env else defer
    else defer
  else BackendDatabaseRequires.onDatabaseCreatedNonLeader env

/-- `_on_endpoints_changed` (`backend_database.py`, lines 394–396). -/
def BackendDatabaseRequires.onEndpointsChanged : Handler Unit := do
  renderPgbConfig env false
  updateClientConnectionInfo env

/-- `_on_relation_changed` (`backend_database.py`, lines 398–409). -/
def BackendDatabaseRequires.onRelationChanged : Handler Unit := do
  let running ← pgbRunning env
  Action.when (running = true) (BackendDatabaseRequires.onEndpointsChanged env)

/-- The flag for the backend relation `id`. -/
def backendFlag (id : RelId) : String := "backend-database_" ++ str id ++ "_departing"

/-- The removal of the auth user (`backend_database.py`, lines 440–455). -/
def removeAuthUser : Handler Unit := do
  let removed ← Action.tryCatch
    (do
      let s ← Action.get
      removeAuthFunction env (collectDatabases env s)
      return true)
    fun e =>
      if e = .psycopg2Error then do
        setStatus (.blocked removeAuthFailed)
        return false
      else Action.fail e
  Action.when (removed = true ∧ env.authUserOk = false) (Action.fail .other)

/-- `_on_relation_departed` (`backend_database.py`, lines 411–455). -/
def BackendDatabaseRequires.onRelationDeparted (id : RelId) (departing : Departing) :
    Handler Unit := do
  renderPgbConfig env false
  updateClientConnectionInfo env
  let s ← Action.get
  if departing = .own then writeUnit env (backendFlag id) "true"
  else
    Action.when (isLeader env s = true ∧ departing = .peer ∧
      ¬ (env.plannedUnits < env.hook.otherUnits.length ∧ env.plannedUnits ≠ 0))
      (removeAuthUser env)

/-- `_on_relation_broken` (`backend_database.py`, lines 457–480). -/
def BackendDatabaseRequires.onRelationBroken (id : RelId) : Handler Unit := do
  let s ← Action.get
  Action.when ((unitDatabag env s).contains (backendFlag id) = false) do
    toggleMonitoringLayer env false
    deleteFile env
    Action.when (isLeader env s = true)
      (writeApplication env fun s => { s with secrets := { s.secrets with authFile := none } })
    renderPgbConfig env false
    setStatus (.blocked noBackend)

/-! ## The legacy relations -/

/-- `_check_for_blocking_relations` (`relations/db.py`, lines 182–198): the
    extensions of another legacy relation are still not enabled. -/
def blockedByOther (s : State) (rid : RelId) : Bool :=
  (s.app.relationsOf .db ++ s.app.relationsOf .dbAdmin).any fun p =>
    p.1 ≠ rid && !DbProvides.checkExtensions env.hook
      (DbProvides.getRelationExtensions env.hook.unit (isLeader env s) p.2)

/-- `_check_for_blocking_relations` (`relations/db.py`, lines 182–198). -/
def DbProvides.checkForBlockingRelations (rid : RelId) : Handler Unit := do
  let s ← Action.get
  Action.when (s.status = .blocked DbProvides.extensionsBlockingMessage ∧
    blockedByOther env s rid = false) (setActive env)

/-- The creation of user and database (`relations/db.py`, lines 271–306). -/
def DbProvides.create (rid : RelId) (r : Relation) (user password database : String) :
    Handler Unit := do
  let s ← Action.get
  let initialStatus := s.status
  setStatus (.maintenance
    ("initialising database and user for " ++ r.endpoint.relationName ++ " relation"))
  let provisioned := s.app.backend.provision env.hook user password database
  modifyBackend fun _ => provisioned.1
  if provisioned.2 then
    restoreStatus env initialStatus
    updateStatus env
    removeAuthFunction env [database]
    initialiseAuthFunction env database
  else if env.createErrorCaught then
    blockOn rid ("failed to create database or user for " ++ r.endpoint.relationName)
  else Action.fail .other

variable (lower : String → String)

/-- `_on_relation_joined` (`relations/db.py`, lines 200–306). -/
def DbProvides.onRelationJoined (rid : RelId) (r : Relation) : Handler Unit := do
  let s ← Action.get
  Action.when (isLeader env s = true) do
    let ready ← checkBackend env
    if ready then
      let (r', block) := DbProvides.blockOnExtensions env.hook true r
      modifyApp fun a => a.putRelation rid r'
      if block then blockOn rid DbProvides.extensionsBlockingMessage
      else
        let s ← Action.get
        match r'.remote.get "database" with
        | none => defer
        | some database =>
          let user := s.app.generateUsername rid
          let password := ((r'.unit env.hook.unit).get "password").getD env.hook.newPassword
          let dbs := DbProvides.joinDatabases lower s.app env.hook.unit rid r'.endpoint database
          setRelationDatabases env dbs
          if env.hook.synced dbs then
            modifyApp fun a => a.putRelation rid (r'.updateDatabags env.hook.unit true
              [("user", user), ("password", password), ("database", database)])
            DbProvides.create env rid r' user password database
          else defer
    else defer

/-- `_on_relation_changed` (`relations/db.py`, lines 308–359). -/
def DbProvides.onRelationChanged (rid : RelId) (r : Relation) : Handler Unit := do
  let ready ← checkBackend env
  if ready then
    match (r.unit env.hook.unit).get "database", (r.unit env.hook.unit).get "user",
      (r.unit env.hook.unit).get "password" with
    | some database, some user, some password => do
      renderPgbConfig env false
      let s ← Action.get
      Action.when (isLeader env s = true) do
        let _ ← config env
        DbProvides.updateConnectionInfo env r
        match env.version with
        | none => Action.fail .other
        | some version =>
          modifyApp fun a => a.putRelation rid (r.updateDatabags env.hook.unit true
            [("allowed-subnets", env.allowedSubnets rid), ("allowed-units", env.allowedUnits rid),
              ("version", version), ("host", env.hostname), ("user", user),
              ("password", password), ("database", database), ("state", "master")])
    | _, _, _ => defer
  else defer

/-- `_on_relation_departed` (`relations/db.py`, lines 411–437). -/
def DbProvides.onRelationDeparted (rid : RelId) (r : Relation) (departing : Departing) :
    Handler Unit := do
  let s ← Action.get
  if departing = .own then writeUnit env (departFlag r.endpoint rid) "True"
  else
    modifyApp fun a => a.putRelation rid (r.updateDatabags env.hook.unit (isLeader env s)
      [("allowed-units", env.allowedUnits rid)])

/-- What the leader does with a name that no entry of the map uses any more
    (`relations/db.py`, lines 481–483; `pgbouncer_provider.py`,
    lines 237–239). -/
def removeUnused (dbs : Dbs) (database : Option String) : Handler Unit :=
  match database with
  | none => return ()
  | some name =>
    Action.when (name ≠ "" ∧ name ∉ dbs.values.map DbEntry.name) (removeAuthFunction env [name])

/-- `delete_user`. -/
def deleteUser (user : String) : Handler Unit :=
  if env.hook.deleteUserOk then
    modifyBackend fun b => b.deleteUser user
  else Action.fail .other

/-- The part of `_on_relation_broken` for a relation that has been set up
    (`relations/db.py`, lines 476–485). The map is written before the test for
    leadership. -/
def DbProvides.teardown (rid : RelId) (user : String) : Handler Unit := do
  let s ← Action.get
  let dbs := getRelationDatabases s.app env.hook.unit
  let database := (dbs.get? (str rid)).map DbEntry.name
  let dbs := dbs.erase (str rid)
  setRelationDatabases env dbs
  Action.when (isLeader env s = true) do
    deleteUser env user
    removeUnused env dbs database
  DbProvides.checkForBlockingRelations env rid

/-- The part of `_on_relation_broken` for a relation that has not been set up,
    or without the backend (`relations/db.py`, lines 464–474). -/
def DbProvides.abandon (rid : RelId) (r : Relation) : Handler Unit := do
  let s ← Action.get
  if DbProvides.checkExtensions env.hook
      (DbProvides.getRelationExtensions env.hook.unit (isLeader env s) r) then defer
  else DbProvides.checkForBlockingRelations env rid

/-- `_on_relation_broken` (`relations/db.py`, lines 439–485). -/
def DbProvides.onRelationBroken (rid : RelId) (r : Relation) : Handler Unit := do
  let s ← Action.get
  Action.when ((unitDatabag env s).contains (departFlag r.endpoint rid) = false) do
    let databag := r.unit env.hook.unit
    let ready ← checkBackend env
    match databag.get "user", ready && databag.contains "database" with
    | some user, true => DbProvides.teardown env rid user
    | _, _ => DbProvides.abandon env rid r

/-! ## The client relations -/

/-- The creation of user and database (`pgbouncer_provider.py`,
    lines 162–206). -/
def PgBouncerProvider.create (rid : RelId) (r : Relation) (database : String) : Handler Unit := do
  let s ← Action.get
  let user := PgBouncerProvider.relationUser rid
  let password := env.hook.newPassword
  let provisioned := s.app.backend.provision env.hook user password database
  modifyBackend fun _ => provisioned.1
  if provisioned.2 then
    removeAuthFunction env [database]
    initialiseAuthFunction env database
    renderPgbConfig env false
    modifyApp fun a => a.putRelation rid (PgBouncerProvider.setCredentials user password database r)
    PgBouncerProvider.updateConnectionInfo env rid
      (PgBouncerProvider.setCredentials user password database r)
  else if env.createErrorCaught then
    blockOn rid (env.hook.createMessage.getD
      ("Failed to initialize relation " ++ r.endpoint.relationName))
  else Action.fail .other

/-- `_on_database_requested` (`pgbouncer_provider.py`, lines 107–206);
    `database` is `event.database`. -/
def PgBouncerProvider.onDatabaseRequested (rid : RelId) (r : Relation) (database : String) :
    Handler Unit := do
  let s ← Action.get
  Action.when (isLeader env s = true) do
    let ready ← checkBackend env
    if ready then
      let endpoints ← getHostsPorts env
      if endpoints = "" then defer
      else
        let dbs := PgBouncerProvider.requestDatabases lower s.app env.hook.unit rid r database
        setRelationDatabases env dbs
        if env.hook.synced dbs then PgBouncerProvider.create env rid r database
        else defer
    else defer

/-- `_on_relation_departed` (`pgbouncer_provider.py`, lines 208–221). -/
def PgBouncerProvider.onRelationDeparted (rid : RelId) (r : Relation) (departing : Departing) :
    Handler Unit := do
  PgBouncerProvider.updateConnectionInfo env rid r
  Action.when (departing = .own) (writeUnit env (departFlag r.endpoint rid) "true")

/-- The part of `_on_relation_broken` behind `update_connection_info`
    (`pgbouncer_provider.py`, lines 226–250). -/
def PgBouncerProvider.teardown (rid : RelId) (r : Relation) : Handler Unit := do
  let ready ← checkBackend env
  let s ← Action.get
  Action.when (ready = true ∧ isLeader env s = true) do
    let flag := departFlag r.endpoint rid
    if (unitDatabag env s).get flag = some "true" then popUnit env flag
    else
      let dbs := getRelationDatabases s.app env.hook.unit
      let database := (dbs.get? (str rid)).map DbEntry.name
      let dbs := dbs.erase (str rid)
      setRelationDatabases env dbs
      removeUnused env dbs database
      Action.tryCatch (deleteUser env (PgBouncerProvider.relationUser rid)) fun e => do
        setStatus (.blocked (deleteUserFailed r.endpoint))
        Action.fail e

/-- `_on_relation_broken` (`pgbouncer_provider.py`, lines 223–250). -/
def PgBouncerProvider.onRelationBroken (rid : RelId) (r : Relation) : Handler Unit := do
  PgBouncerProvider.updateConnectionInfo env rid r
  PgBouncerProvider.teardown env rid r

/-! ## The upgrade -/

/-- The answers of PostgreSQL to `_on_pgbouncer_pebble_ready` of the
    upgrade. -/
def Env.upgrade (s : State) : Auth.UpgradeHook where
  leader := isLeader env s
  workloadPlanned := true
  upgrading := env.upgrading
  serviceOk := true
  connected := env.connected
  newAdminPassword := env.newSystemPassword .admin
  hashedAdmin := env.hashed .admin
  rehashed := env.rehashed

/-- Store what a function of `upgrade.py` makes of the secrets. -/
def storeSecrets (secrets : Option Auth.Charm) : Handler Unit :=
  match secrets with
  | none => Action.fail .other
  | some secrets => writeApplication env fun s => { s with secrets := secrets }

/-- `_handle_md5_monitoring_auth` (`upgrade.py`, lines 113–141). -/
def PgbouncerUpgrade.handleMd5MonitoringAuth : Handler Unit := do
  let s ← Action.get
  Action.when (isLeader env s = true)
    (storeSecrets env (Auth.handleMd5MonitoringAuth (env.upgrade s) s.secrets))

/-- `_cluster_checks` (`upgrade.py`, lines 64–78): whether they pass. -/
def PgbouncerUpgrade.clusterChecks : Handler Bool := do
  let running ← pgbRunning env
  let s ← Action.get
  return running && !(postgres env s && !ready env s)

/-- `_on_upgrade_changed` (`upgrade.py`, lines 174–184). -/
def PgbouncerUpgrade.onUpgradeChanged : Handler Unit := do
  let running ← pgbRunning env
  Action.when (running = true) (renderPgbConfig env false)

/-- `set_unit_completed` (`data_platform_libs/v0/upgrade.py`, lines 741–759). On
    the leader `upgrade_finished` makes the library emit `relation-changed` at
    once (lines 1039–1048), and `_on_upgrade_changed` runs within the call. What
    the library itself keeps in its relation is left out. -/
def PgbouncerUpgrade.setUnitCompleted : Handler Unit := do
  setStatus (.maintenance "upgrade completed")
  Action.modify fun s => { s with completed := true }
  let s ← Action.get
  Action.when (isLeader env s = true) (PgbouncerUpgrade.onUpgradeChanged env)

/-- `_on_pgbouncer_pebble_ready` (`upgrade.py`, lines 143–172). -/
def PgbouncerUpgrade.onPebbleReady : Handler Unit := do
  let s ← Action.get
  if !env.canConnect then Action.fail .pebbleConnectionError
  else if s.services.items = [] then defer
  else
    Action.when (env.upgrading = true) do
      Action.when (isLeader env s = true) do
        let _ ← reconcileK8sService env false
        Action.forEach (fun p => PgBouncerProvider.updateConnectionInfo env p.1 p.2)
          (s.app.relationsOf .database)
        storeSecrets env (Auth.generateAdminConsoleUser (env.upgrade s) s.secrets)
      PgbouncerUpgrade.handleMd5MonitoringAuth env
      let passed ← PgbouncerUpgrade.clusterChecks env
      if passed then do
        PgbouncerUpgrade.setUnitCompleted env
        updateStatus env
      else defer

/-! ## Events -/

inductive Event
  | updateStatus
  | configChanged
  | pebbleReady
  | leaderElected
  | peerCreated
  | peerChanged
  | secretChanged
  | peerDeparted
  | databaseCreated
  | endpointsChanged
  | backendChanged
  | backendDeparted (id : RelId) (departing : Departing)
  | backendBroken (id : RelId)
  | joined (rid : RelId)
  | changed (rid : RelId)
  | requested (rid : RelId) (database : String)
  | departed (rid : RelId) (departing : Departing)
  | broken (rid : RelId)
  | upgradePebbleReady
  | upgradeChanged
  deriving DecidableEq

/-- Run a handler for a relation, with its data. -/
def withRelation (rid : RelId) (f : Relation → Handler Unit) : Handler Unit := do
  let s ← Action.get
  match s.app.relations.get? rid with
  | none => return ()
  | some r => f r

/-- The handler of an event. The client library handles `relation-changed` of a
    client relation and emits `requested` from it. -/
def handle : Event → Handler Unit
  | .updateStatus => onUpdateStatus env
  | .configChanged => onConfigChanged env
  | .pebbleReady => onPebbleReady env
  | .leaderElected => Peers.onLeaderElected env
  | .peerCreated => Peers.onCreated env
  | .peerChanged => Peers.onChanged env
  | .secretChanged => Peers.onChanged env
  | .peerDeparted => Peers.onDeparted env
  | .databaseCreated => BackendDatabaseRequires.onDatabaseCreated env
  | .endpointsChanged => BackendDatabaseRequires.onEndpointsChanged env
  | .backendChanged => BackendDatabaseRequires.onRelationChanged env
  | .backendDeparted id departing => BackendDatabaseRequires.onRelationDeparted env id departing
  | .backendBroken id => BackendDatabaseRequires.onRelationBroken env id
  | .joined rid => withRelation rid fun r =>
      Action.when (r.endpoint.legacy = true) (DbProvides.onRelationJoined env lower rid r)
  | .changed rid => withRelation rid fun r =>
      Action.when (r.endpoint.legacy = true) (DbProvides.onRelationChanged env rid r)
  | .requested rid database => withRelation rid fun r =>
      Action.when (r.endpoint.legacy = false)
        (PgBouncerProvider.onDatabaseRequested env lower rid r database)
  | .departed rid departing => withRelation rid fun r =>
      if r.endpoint.legacy then DbProvides.onRelationDeparted env rid r departing
      else PgBouncerProvider.onRelationDeparted env rid r departing
  | .broken rid => withRelation rid fun r =>
      if r.endpoint.legacy then DbProvides.onRelationBroken env rid r
      else PgBouncerProvider.onRelationBroken env rid r
  | .upgradePebbleReady => PgbouncerUpgrade.onPebbleReady env
  | .upgradeChanged => PgbouncerUpgrade.onUpgradeChanged env

end PgBouncerK8s.Operator
