import PgBouncerK8s.Operator.Deployment

/-!
# Reading an invalid configuration

`self.config` validates the options every time it is read, and raises
`ValueError` where they are not valid. `configuration_check` catches this, but
`update_client_connection_info`, the monitoring layer and `get_hosts_ports`
read the port without it.

* `valueError_iff`, `returns_iff`: which handlers an invalid configuration makes
  fail, and in which states.
-/

namespace PgBouncerK8s.Operator

open PgBouncerK8s.Action

variable {env : Env} {s : State} {lower : String → String}

/-! ## The condition -/

/-- `update_client_connection_info` goes past its first test. -/
def updatesClients (env : Env) (s : State) : Bool := postgres env s && isLeader env s

/-- `update_endpoints` asks for the endpoints of some relation: the first one
    that has remote data has a database and a password. -/
def asksEndpoints (env : Env) : List (RelId × Relation) → Bool
  | [] => false
  | (rid, r) :: relations =>
    if env.hasRemoteData rid then r.remote.contains "database" && r.app.contains "password"
    else asksEndpoints env relations

/-- The handlers for which it matters whether the configuration is valid, with
    the states in which they read it without `configuration_check`. -/
def readsConfig (env : Env) (s : State) : Event → Bool
  | .updateStatus => updatesClients env s
  | .configChanged => false
  | .leaderElected => updatesClients env s
  | .peerChanged => isContainerReady env s && ready env s &&
      (s.secrets.passwords .monitoring).isSome
  | .secretChanged => isContainerReady env s && ready env s &&
      (s.secrets.passwords .monitoring).isSome
  | .peerDeparted => updatesClients env s ||
      isLeader env s && env.service = .found && asksEndpoints env (s.app.relationsOf .database)
  | .endpointsChanged => updatesClients env s
  | .backendChanged => decide (Running env s) && updatesClients env s
  | .backendDeparted _ _ => updatesClients env s
  | _ => false

/-- The handlers of the charm, of the peer and backend relations, and
    `relation-departed` of the clients. -/
def surveyed : Event → Bool
  | .updateStatus => true
  | .configChanged => true
  | .leaderElected => true
  | .peerChanged => true
  | .secretChanged => true
  | .peerDeparted => true
  | .endpointsChanged => true
  | .backendChanged => true
  | .backendDeparted _ _ => true
  | .departed _ _ => true
  | _ => false

/-! ## Handlers with an invalid configuration -/

/-- Every error but `ValueError`. -/
def NotValueError (e : Failure) : Prop := e ≠ .valueError

theorem ordinary_notValueError : Ordinary NotValueError := ⟨nofun, nofun, nofun, nofun⟩

/-- An action that reads no invalid configuration does not fail with it. -/
theorem ne_valueError {α : Type} {m : Handler α}
    (h : Within (Framed s.app) NotValueError m) : (m.run s).1 ≠ .error .valueError :=
  h.run_ne (.refl s) fun hne => hne rfl

theorem renderPgbConfig_invalid (hc : CharmConfig.build env.options = none) (restarting : Bool) :
    (renderPgbConfig env restarting).run s =
      (.ok (), { s with status := .blocked configurationError }) := by
  unfold renderPgbConfig
  rw [configurationCheck_invalid hc]
  rfl

theorem updateStatus_invalid (hc : CharmConfig.build env.options = none) :
    ∃ status, (updateStatus env).run s = (.ok (), { s with status := status }) := by
  unfold updateStatus
  rw [configurationCheck_invalid hc, run_get_bind, run_when]
  by_cases hm : s.status.message ∉ stickyMessages env
  · rw [if_pos hm]
    exact ⟨.blocked configurationError, rfl⟩
  · rw [if_neg hm]
    exact ⟨s.status, rfl⟩

theorem updateClientConnectionInfo_invalid (hc : CharmConfig.build env.options = none) :
    (updateClientConnectionInfo env).run s =
      if updatesClients env s then (.error .valueError, s) else (.ok (), s) := by
  unfold updateClientConnectionInfo updatesClients
  rw [config_invalid hc, run_get_bind, run_when]
  simp only [Bool.and_eq_true, run_fail_bind]

theorem getHostsPorts_invalid (hc : CharmConfig.build env.options = none) :
    (getHostsPorts env).run s =
      match env.service with
      | .failed => (.error .other, s)
      | .missing => (.ok "", s)
      | .found => (.error .valueError, s) := by
  unfold getHostsPorts getService
  rw [config_invalid hc]
  cases env.service <;> rfl

theorem updateEndpoints_invalid (hc : CharmConfig.build env.options = none)
    (l : List (RelId × Relation)) :
    ((PgBouncerProvider.updateEndpoints env l).run s).1 = .error .valueError ↔
      env.service = .found ∧ asksEndpoints env l = true := by
  induction l with
  | nil => simp [PgBouncerProvider.updateEndpoints, asksEndpoints]
  | cons p l ih =>
    obtain ⟨rid, r⟩ := p
    unfold PgBouncerProvider.updateEndpoints asksEndpoints
    cases env.hasRemoteData rid with
    | false => simpa using ih
    | true =>
      simp only [Bool.not_true, Bool.false_eq_true, if_false, if_true, Bool.and_eq_true, run_when]
      by_cases hd : r.remote.contains "database" = true ∧ r.app.contains "password" = true
      · rw [if_pos hd, run_bind, getHostsPorts_invalid hc]
        cases hs : env.service with
        | failed => simp
        | missing => simp [ih, hs]
        | found => simp [hd]
      · rw [if_neg hd]
        simp [hd]

theorem collectReadonlyDbs_run (env : Env) (s : State) :
    ∃ dbs, (collectReadonlyDbs env).run s = (.ok (), { s with readonlyDbs := dbs }) := by
  unfold collectReadonlyDbs
  rw [run_get_bind, run_when, run_when]
  by_cases h : isLeader env s = true ∧ postgres env s = true
  · rw [if_pos h]
    by_cases hr : env.results.isSome = true
    · rw [if_pos hr, writeApplication_leader h.1]
      exact ⟨_, rfl⟩
    · rw [if_neg hr]
      exact ⟨s.readonlyDbs, rfl⟩
  · rw [if_neg h]
    exact ⟨s.readonlyDbs, rfl⟩

/-- `update_client_connection_info`, followed by parts that do not read the
    configuration. -/
theorem escapes_updateClients (hc : CharmConfig.build env.options = none) {m : Handler Unit}
    (hm : ∀ a, Within (Framed a) NotValueError m) :
    ((do
      updateClientConnectionInfo env
      m : Handler Unit).run s).1 = .error .valueError ↔ updatesClients env s = true := by
  rw [run_bind, updateClientConnectionInfo_invalid hc]
  cases updatesClients env s with
  | true => simp
  | false => simpa using ne_valueError (hm s.app)

theorem onUpdateStatus_invalid (hc : CharmConfig.build env.options = none) :
    ((onUpdateStatus env).run s).1 = .error .valueError ↔ updatesClients env s = true := by
  obtain ⟨status, hu⟩ := updateStatus_invalid (s := s) hc
  obtain ⟨dbs, hd⟩ := collectReadonlyDbs_run env { s with status := status }
  unfold onUpdateStatus
  rw [run_bind_ok hu, run_bind_ok hd, updateClientConnectionInfo_invalid hc]
  show (if updatesClients env s = true then _ else _ : Except Failure Unit × State).1 = _ ↔ _
  cases updatesClients env s <;> simp

theorem onConfigChanged_invalid (hc : CharmConfig.build env.options = none) :
    ((onConfigChanged env).run s).1 = .ok () := by
  unfold onConfigChanged
  rw [configurationCheck_invalid hc, run_get_bind, run_ite]
  cases isContainerReady env s <;> rfl

/-- Writing another key of the unit databag does not make the container ready. -/
theorem isContainerReady_set {key : String} (hk : key ≠ "container_initialised")
    (value : String) :
    isContainerReady env (setUnitDatabag env s ((unitDatabag env s).set key value)) =
      isContainerReady env s := by
  unfold isContainerReady Databag.contains
  rw [unitDatabag_setUnitDatabag, Databag.get_set_of_ne _ hk.symm]

theorem generateMonitoringService_invalid (hc : CharmConfig.build env.options = none)
    (enabled : Bool) :
    (generateMonitoringService env enabled).run s =
      if (enabled && (s.secrets.passwords .monitoring).isSome) = true then
        (.error .valueError, s)
      else (.ok false, s) := by
  unfold generateMonitoringService
  rw [config_invalid hc, run_get_bind, run_ite]
  rfl

/-- `Peers._on_changed` behind `render_pgb_config`. -/
theorem escapes_toggle (hc : CharmConfig.build env.options = none) (enabled : Bool)
    {m : Handler Unit} (hm : ∀ a, Within (Framed a) NotValueError m) :
    ((do
      toggleMonitoringLayer env enabled
      m : Handler Unit).run s).1 = .error .valueError ↔
        (enabled && (s.secrets.passwords .monitoring).isSome) = true := by
  have hg := generateMonitoringService_invalid (s := s) hc enabled
  by_cases h : (enabled && (s.secrets.passwords .monitoring).isSome) = true
  · rw [if_pos h] at hg
    have ht : (toggleMonitoringLayer env enabled).run s = (.error .valueError, s) :=
      run_bind_error hg _
    rw [run_bind_error ht]
    simp [h]
  · rw [if_neg h] at hg
    have ht : (toggleMonitoringLayer env enabled).run s =
        (applyMonitoringLayer env enabled false).run s := run_bind_ok hg _
    refine iff_of_false ?_ h
    rw [run_bind, ht, ← run_bind]
    apply ne_valueError
    exact .bind (within_applyMonitoringLayer ordinary_notValueError _ _) fun _ => hm _

theorem peers_onChanged_invalid (hc : CharmConfig.build env.options = none) :
    ((Peers.onChanged env).run s).1 = .error .valueError ↔
      (isContainerReady env s && ready env s && (s.secrets.passwords .monitoring).isSome) =
        true := by
  unfold Peers.onChanged writeUnit
  rw [run_modify_bind, run_get_bind, isContainerReady_set (by decide)]
  cases isContainerReady env s with
  | false => simp [defer]
  | true =>
    rw [if_pos rfl, run_bind_ok (renderPgbConfig_invalid hc false), run_get_bind, Bool.true_and]
    apply escapes_toggle hc
    intro a
    apply Within.bind (within_writeUnit _ _)
    intro _
    apply Within.get_bind
    intro s _
    apply Within.when
    intro _
    apply within_checked
    intro valid hv
    exact .when fun h => within_updateEndpoints ordinary_notValueError (hv h) _

theorem peers_onDeparted_invalid (hc : CharmConfig.build env.options = none) :
    ((Peers.onDeparted env).run s).1 = .error .valueError ↔
      updatesClients env s = true ∨ isLeader env s = true ∧ env.service = .found ∧
        asksEndpoints env (s.app.relationsOf .database) = true := by
  unfold Peers.onDeparted
  rw [run_bind, updateClientConnectionInfo_invalid hc]
  cases updatesClients env s with
  | true => simp
  | false =>
    simp only [Bool.false_eq_true, if_false, false_or, run_get_bind, run_when]
    cases isLeader env s with
    | true => simpa using updateEndpoints_invalid hc _
    | false => simp

theorem onEndpointsChanged_invalid (hc : CharmConfig.build env.options = none) :
    ((BackendDatabaseRequires.onEndpointsChanged env).run s).1 = .error .valueError ↔
      updatesClients env s = true := by
  unfold BackendDatabaseRequires.onEndpointsChanged
  rw [run_bind_ok (renderPgbConfig_invalid hc false), updateClientConnectionInfo_invalid hc]
  show (if updatesClients env s = true then _ else _ : Except Failure Unit × State).1 = _ ↔ _
  cases updatesClients env s <;> simp

theorem backend_onRelationChanged_invalid (hc : CharmConfig.build env.options = none) :
    ((BackendDatabaseRequires.onRelationChanged env).run s).1 = .error .valueError ↔
      Running env s ∧ updatesClients env s = true := by
  unfold BackendDatabaseRequires.onRelationChanged
  by_cases hr : Running env s
  · rw [run_bind_ok (pgbRunning_of_running hr), run_when, if_pos rfl]
    simpa [hr] using onEndpointsChanged_invalid hc
  · refine iff_of_false ?_ fun h => hr h.1
    obtain ⟨t, hrun, -⟩ := pgbRunning_of_not_running (SameData.refl s) hr
    rw [run_bind_ok hrun]
    simp [run_when]

theorem backend_onRelationDeparted_invalid (hc : CharmConfig.build env.options = none)
    (id : RelId) (departing : Departing) :
    ((BackendDatabaseRequires.onRelationDeparted env id departing).run s).1 =
      .error .valueError ↔ updatesClients env s = true := by
  unfold BackendDatabaseRequires.onRelationDeparted
  rw [run_bind_ok (renderPgbConfig_invalid hc false)]
  apply escapes_updateClients hc
  intro a
  apply Within.get_bind
  intro s _
  apply Within.ite
  · exact fun _ => within_writeUnit _ _
  · exact fun _ => .when fun _ => within_removeAuthUser ordinary_notValueError

theorem departed_ne_valueError (rid : RelId) (departing : Departing) :
    ((handle env lower (.departed rid departing)).run s).1 ≠ .error .valueError := by
  apply ne_valueError
  apply within_withRelation
  intro r
  apply Within.ite
  · exact fun _ => (within_onRelationDeparted ordinary_notValueError rid r departing).1
  · exact fun _ => (within_onRelationDeparted ordinary_notValueError rid r departing).2

/-! ## The theorem -/

/-- With an invalid configuration a handler lets the error escape exactly where
    it reads the configuration without `configuration_check`. -/
theorem valueError_iff (hc : CharmConfig.build env.options = none) {ev : Event}
    (hev : surveyed ev = true) :
    ((handle env lower ev).run s).1 = .error .valueError ↔ readsConfig env s ev = true := by
  cases ev with
  | updateStatus => exact onUpdateStatus_invalid hc
  | configChanged =>
    have hok : ((handle env lower .configChanged).run s).1 = .ok () := onConfigChanged_invalid hc
    simp [hok, readsConfig]
  | leaderElected =>
    show ((updateClientConnectionInfo env).run s).1 = _ ↔ updatesClients env s = true
    rw [updateClientConnectionInfo_invalid hc]
    cases updatesClients env s <;> simp
  | peerChanged => exact peers_onChanged_invalid hc
  | secretChanged => exact peers_onChanged_invalid hc
  | peerDeparted =>
    show ((Peers.onDeparted env).run s).1 = _ ↔ _
    rw [peers_onDeparted_invalid hc]
    simp [readsConfig, and_assoc]
  | endpointsChanged => exact onEndpointsChanged_invalid hc
  | backendChanged =>
    show ((BackendDatabaseRequires.onRelationChanged env).run s).1 = _ ↔ _
    rw [backend_onRelationChanged_invalid hc]
    simp [readsConfig]
  | backendDeparted id departing => exact backend_onRelationDeparted_invalid hc id departing
  | departed rid departing =>
    simpa [readsConfig] using departed_ne_valueError (s := s) rid departing
  | _ => cases hev

/-- Which handlers keep the error of an invalid configuration to themselves:
    those that do not read the port behind `configuration_check`. -/
theorem returns_iff (hc : CharmConfig.build env.options = none) {ev : Event}
    (hev : surveyed ev = true) :
    ((handle env lower ev).run s).1 ≠ .error .valueError ↔ readsConfig env s ev = false := by
  rw [Ne, valueError_iff hc hev, Bool.not_eq_true]

/-- The options with `listen_port` 0. -/
def portZero (u : UnitId) : Env := { sampleEnv u with options := ⟨0, "session", 0, 0, "false", ""⟩ }

/-- `update-status` on a leader with a backend. -/
theorem update_status_escapes :
    CharmConfig.build (portZero 0).options = none ∧
      ((handle (portZero 0) Text.asciiLower .updateStatus).run (sampleDeployment.view 0)).1 =
        .error .valueError := ⟨by decide, rfl⟩

/-- `update-status` on another unit. -/
theorem update_status_returns :
    ((handle (portZero 1) Text.asciiLower .updateStatus).run (sampleDeployment.view 1)).1 ≠
      .error .valueError :=
  (returns_iff (by decide) rfl).mpr (by decide)

end PgBouncerK8s.Operator
