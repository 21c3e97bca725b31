import Mathlib.Logic.Function.Basic
import PgBouncerK8s.Lib.Machine
import PgBouncerK8s.Lib.Text

/-!
# The metrics exporter

Model of the hooks that render the ini files and of those that write the
`metrics_server` service into the Pebble plan: `_generate_monitoring_service` and
`toggle_monitoring_layer` (`charm.py`, lines 667–698) read the configured port
when they run, and `_on_config_changed` (lines 372–405) calls neither.

A peer relation changes for a unit only where there is another unit, since the
unit's own writes do not trigger its hook.

* `exporterPort_run`: the port of the exporter after a run is the one that was
  configured when the unit last rewrote the service, if it was started then.
* `follows_iff`: when the exporter of a unit that has handled a port change
  connects to the port of its ini files.
* `exporter_left_behind`: a single unit whose exporter stays on the old port.
-/

namespace PgBouncerK8s.Metrics

open Text (str)

/-! ## Model -/

/-- The command of the `metrics_server` service. -/
inductive Command
  | exporter (user password : String) (port : ℕ)
  | disabled
  deriving DecidableEq

/-- The text of the command (`charm.py`, lines 669–677); `METRICS_PORT` is 9127. -/
def Command.text : Command → String
  | .exporter user password port =>
    "pgbouncer_exporter --web.listen-address=:9127 --pgBouncer.connectionString=\"postgresql://" ++
      user ++ ":" ++ password ++ "@localhost:" ++ str port ++ "/pgbouncer?sslmode=disable\""
  | .disabled => "true"

/-- What `_generate_monitoring_service` returns, but for its constant entries. -/
structure MonitoringService where
  command : Command
  startup : Bool
  deriving DecidableEq

/-- One unit: whether `container_initialised` is set, the ports in its ini
    files, the metrics service in its Pebble plan, and whether it has handled
    `config-changed` since the last change of the port. -/
structure UnitState where
  initialised : Bool
  iniPorts : List ℕ
  metrics : Option MonitoringService
  handled : Bool

/-- The deployment: `currentPort` is the key of the peer application databag and
    `monitoringPassword` the application secret. -/
structure Deployment where
  units : List ℕ
  leader : ℕ
  cores : ℕ
  statsUser : String
  listenPort : ℕ
  currentPort : Option String
  monitoringPassword : Option String
  unit : ℕ → UnitState

/-- What a hook on a unit meets: `postgres` and `ready` are those of the backend,
    `authFile` tells that the secret can be read, `pgbRunning` is the answer of
    `check_pgb_running`, and `created` that the calls of the leader's
    `database-created` return. -/
structure Hook where
  unit : ℕ
  canConnect : Bool
  configValid : Bool
  reconcileOk : Bool
  postgres : Bool
  ready : Bool
  authFile : Bool
  pgbRunning : Bool
  created : Bool
  newPassword : String

/-- The port the exporter of the unit connects to. -/
def UnitState.exporterPort (s : UnitState) : Option ℕ :=
  match s.metrics with
  | some ⟨.exporter _ _ port, _⟩ => some port
  | _ => none

section Handlers

variable (h : Hook) (w : Deployment)

/-- `is_container_ready` (`charm.py`, lines 364–370). -/
def isContainerReady : Bool := h.canConnect && (w.unit h.unit).initialised

/-- A change of the state of the hook's unit. -/
def Deployment.modifyUnit (f : UnitState → UnitState) : Deployment :=
  { w with unit := Function.update w.unit h.unit (f (w.unit h.unit)) }

/-- `_generate_monitoring_service` (`charm.py`, lines 667–685). -/
def generateMonitoringService (enabled : Bool) : MonitoringService :=
  match enabled, w.monitoringPassword with
  | true, some statsPassword => ⟨.exporter w.statsUser statsPassword w.listenPort, true⟩
  | _, _ => ⟨.disabled, false⟩

/-- `toggle_monitoring_layer` (`charm.py`, lines 687–698). -/
def toggleMonitoringLayer (enabled : Bool) : Deployment :=
  w.modifyUnit h fun s => { s with metrics := some (generateMonitoringService w enabled) }

/-- `render_pgb_config` (`charm.py`, lines 1011–1098), as far as it concerns the
    ini files. -/
def renderPgbConfig : Deployment :=
  if !h.configValid || !h.canConnect then w
  else w.modifyUnit h fun s => { s with iniPorts := List.replicate w.cores w.listenPort }

/-- `_on_config_changed` (`charm.py`, lines 372–405). -/
def onConfigChanged : Deployment :=
  if !isContainerReady h w then w
  else if !h.configValid then w
  else if h.unit = w.leader && !h.reconcileOk then w
  else
    let portChanged : Bool := w.currentPort ≠ some (str w.listenPort)
    let w := (renderPgbConfig h w).modifyUnit h fun s => { s with handled := true }
    if h.unit = w.leader && portChanged then { w with currentPort := some (str w.listenPort) }
    else w

/-- `Peers._on_changed` (`relations/peers.py`, lines 116–142), also the handler
    of `secret-changed`. -/
def onPeerChanged : Deployment :=
  if !isContainerReady h w then w
  else toggleMonitoringLayer h (renderPgbConfig h w) h.ready

/-- `_on_database_created` (`backend_database.py`, lines 304–395): the
    follower's part, and the leader's with `generate_system_user` for the
    monitoring user. -/
def onDatabaseCreated : Deployment :=
  if h.unit ≠ w.leader then
    if !isContainerReady h w then w
    else if !h.authFile then w
    else toggleMonitoringLayer h (renderPgbConfig h w) true
  else if !h.pgbRunning || !h.postgres || !h.created then w
  else
    let w := { w with
      monitoringPassword := some (w.monitoringPassword.getD h.newPassword) }
    toggleMonitoringLayer h (renderPgbConfig h w) true

/-- `_on_pgbouncer_pebble_ready` (`charm.py`, lines 331–362). -/
def onPebbleReady : Deployment :=
  let w := renderPgbConfig h (toggleMonitoringLayer h w h.postgres)
  w.modifyUnit h fun s => { s with initialised := true }

end Handlers

/-! ## The machine -/

inductive Action
  | setPort (port : ℕ)
  | configChanged (h : Hook)
  | peerChanged (h : Hook)
  | secretChanged (h : Hook)
  | databaseCreated (h : Hook)
  | pebbleReady (h : Hook)

def step (w : Deployment) : Action → Option Deployment
  | .setPort port =>
    some { w with listenPort := port, unit := fun u => { w.unit u with handled := false } }
  | .configChanged h => some (onConfigChanged h w)
  | .peerChanged h => if ∃ v ∈ w.units, v ≠ h.unit then some (onPeerChanged h w) else none
  | .secretChanged h => some (onPeerChanged h w)
  | .databaseCreated h => some (onDatabaseCreated h w)
  | .pebbleReady h => some (onPebbleReady h w)

/-- Runs start before any unit has handled the configured port. -/
def machine : Machine Deployment Action where
  init w := ∀ u, (w.unit u).handled = false
  step := step

/-- Nothing fails in the hook. -/
def Hook.Succeeds (h : Hook) : Prop :=
  h.canConnect = true ∧ h.configValid = true ∧ h.reconcileOk = true

/-- The `database-created` of the hook sets the backend up. -/
def Hook.Creates (h : Hook) : Prop :=
  h.postgres = true ∧ h.authFile = true ∧ h.pgbRunning = true ∧ h.created = true

instance (h : Hook) : Decidable h.Succeeds := inferInstanceAs (Decidable (_ ∧ _ ∧ _))

instance (h : Hook) : Decidable h.Creates := inferInstanceAs (Decidable (_ ∧ _ ∧ _ ∧ _))

/-- No hook fails, and only `pebble-ready` runs before the container is
    initialised. -/
def NoFailure (w : Deployment) : Action → Prop
  | .setPort _ => True
  | .pebbleReady h => h.Succeeds
  | .configChanged h => h.Succeeds ∧ (w.unit h.unit).initialised = true
  | .peerChanged h => h.Succeeds ∧ (w.unit h.unit).initialised = true
  | .secretChanged h => h.Succeeds ∧ (w.unit h.unit).initialised = true
  | .databaseCreated h => (h.Succeeds ∧ h.Creates) ∧ (w.unit h.unit).initialised = true

instance (w : Deployment) : (a : Action) → Decidable (NoFailure w a)
  | .setPort _ => inferInstanceAs (Decidable True)
  | .pebbleReady h => inferInstanceAs (Decidable h.Succeeds)
  | .configChanged _ => inferInstanceAs (Decidable (_ ∧ _))
  | .peerChanged _ => inferInstanceAs (Decidable (_ ∧ _))
  | .secretChanged _ => inferInstanceAs (Decidable (_ ∧ _))
  | .databaseCreated _ => inferInstanceAs (Decidable (_ ∧ _))

/-- The exporter of the unit connects to the configured port, which is that of
    all its ini files. -/
def Follows (w : Deployment) (u : ℕ) : Prop :=
  (∀ port ∈ (w.unit u).iniPorts, port = w.listenPort) ∧
    (w.unit u).exporterPort = some w.listenPort

instance (w : Deployment) (u : ℕ) : Decidable (Follows w u) :=
  inferInstanceAs (Decidable ((∀ port ∈ (w.unit u).iniPorts, _) ∧ _))

/-- The unit whose metrics service the action rewrites. -/
def Action.refreshes : Action → Option ℕ
  | .setPort _ => none
  | .configChanged _ => none
  | .peerChanged h => some h.unit
  | .secretChanged h => some h.unit
  | .databaseCreated h => some h.unit
  | .pebbleReady h => some h.unit

/-- The backend that the action finds lets it start the exporter. -/
def Action.enables : Action → Bool
  | .peerChanged h => h.ready
  | .secretChanged h => h.ready
  | .databaseCreated _ => true
  | .pebbleReady h => h.postgres
  | _ => false

/-- What the exporter depends on: the configured port, and whether there is a
    monitoring password. -/
structure Settings where
  port : ℕ
  password : Bool

/-- The settings after the action. -/
def Action.settings (leader : ℕ) (c : Settings) : Action → Settings
  | .setPort port => { c with port := port }
  | .databaseCreated h => { c with password := c.password || h.unit = leader }
  | _ => c

/-- The port of the exporter that the action starts, if it does. -/
def Action.exporterPort (leader : ℕ) (c : Settings) (a : Action) : Option ℕ :=
  if a.enables && (a.settings leader c).password then some c.port else none

/-- The port of the exporter that the unit started when it last rewrote its
    metrics service in the run; `last` is the one before the run. -/
def lastRefresh (leader u : ℕ) : List Action → Settings → Option ℕ → Option ℕ
  | [], _, last => last
  | a :: l, c, last =>
    lastRefresh leader u l (a.settings leader c)
      (if a.refreshes = some u then a.exporterPort leader c else last)

/-- The settings of the deployment. -/
def Deployment.settings (w : Deployment) : Settings := ⟨w.listenPort, w.monitoringPassword.isSome⟩

/-! ## One hook -/

variable {h : Hook} {w w' : Deployment} {u : ℕ} {a : Action} {enabled : Bool}

theorem Deployment.unit_modifyUnit (f : UnitState → UnitState) (v : ℕ) :
    (w.modifyUnit h f).unit v = if v = h.unit then f (w.unit v) else w.unit v := by
  unfold modifyUnit
  by_cases hv : v = h.unit
  · subst hv
    simp
  · simp [hv]

theorem Deployment.modifyUnit_modifyUnit (f g : UnitState → UnitState) :
    (w.modifyUnit h f).modifyUnit h g = w.modifyUnit h fun s => g (f s) := by
  simp [modifyUnit]

/-- The ini files get the configured port. -/
def UnitState.rendered (w : Deployment) (s : UnitState) : UnitState :=
  { s with iniPorts := List.replicate w.cores w.listenPort }

/-- The metrics service is rewritten, too. -/
def UnitState.refreshed (w : Deployment) (enabled : Bool) (s : UnitState) : UnitState :=
  { s.rendered w with metrics := some (generateMonitoringService w enabled) }

theorem exporterPort_refreshed (s : UnitState) : (s.refreshed w enabled).exporterPort =
    if enabled && w.monitoringPassword.isSome then some w.listenPort else none := by
  unfold UnitState.refreshed generateMonitoringService UnitState.exporterPort
  cases enabled <;> cases w.monitoringPassword <;> rfl

theorem renderPgbConfig_eq (hs : h.Succeeds) :
    renderPgbConfig h w = w.modifyUnit h (UnitState.rendered w) := by
  obtain ⟨hconn, hvalid, -⟩ := hs
  unfold renderPgbConfig
  rw [if_neg (by simp [hconn, hvalid])]
  rfl

theorem refresh_eq (hs : h.Succeeds) : toggleMonitoringLayer h (renderPgbConfig h w) enabled =
    w.modifyUnit h (UnitState.refreshed w enabled) := by
  rw [renderPgbConfig_eq hs, toggleMonitoringLayer, Deployment.modifyUnit_modifyUnit]
  rfl

theorem onConfigChanged_eq (hs : h.Succeeds) (hi : (w.unit h.unit).initialised = true) :
    ∃ currentPort, onConfigChanged h w =
      { w.modifyUnit h (fun s => { s.rendered w with handled := true }) with
        currentPort := currentPort } := by
  obtain ⟨hconn, hvalid, hrec⟩ := id hs
  unfold onConfigChanged
  rw [if_neg (by simp [isContainerReady, hconn, hi]), if_neg (by simp [hvalid]),
    if_neg (by simp [hrec]), renderPgbConfig_eq hs, Deployment.modifyUnit_modifyUnit]
  dsimp only
  split_ifs
  · exact ⟨_, rfl⟩
  · exact ⟨w.currentPort, rfl⟩

theorem onPeerChanged_eq (hs : h.Succeeds) (hi : (w.unit h.unit).initialised = true) :
    onPeerChanged h w = w.modifyUnit h (UnitState.refreshed w h.ready) := by
  unfold onPeerChanged
  rw [if_neg (by simp [isContainerReady, hs.1, hi]), refresh_eq hs]

/-- The leader's `database-created` makes sure that there is a password. -/
def Deployment.created (h : Hook) (w : Deployment) : Deployment :=
  { w with monitoringPassword :=
      if h.unit = w.leader then some (w.monitoringPassword.getD h.newPassword)
      else w.monitoringPassword }

theorem onDatabaseCreated_eq (hs : h.Succeeds) (hc : h.Creates)
    (hi : (w.unit h.unit).initialised = true) : onDatabaseCreated h w =
      (w.created h).modifyUnit h (UnitState.refreshed (w.created h) true) := by
  obtain ⟨hpg, hauth, hrun, hcreated⟩ := hc
  rw [← refresh_eq hs]
  unfold onDatabaseCreated Deployment.created
  by_cases hl : h.unit = w.leader
  · rw [if_neg (not_not.mpr hl), if_neg (by simp [hrun, hpg, hcreated]), if_pos hl]
  · rw [if_pos hl, if_neg (by simp [isContainerReady, hs.1, hi]), if_neg (by simp [hauth]),
      if_neg hl]

theorem isSome_created : (w.created h).monitoringPassword.isSome =
    (w.monitoringPassword.isSome || h.unit = w.leader) := by
  unfold Deployment.created
  by_cases hl : h.unit = w.leader <;> simp [hl]

theorem onPebbleReady_eq (hs : h.Succeeds) : onPebbleReady h w = w.modifyUnit h fun s =>
    { s.refreshed w h.postgres with initialised := true } := by
  unfold onPebbleReady
  rw [renderPgbConfig_eq hs, toggleMonitoringLayer, Deployment.modifyUnit_modifyUnit,
    Deployment.modifyUnit_modifyUnit]
  rfl

/-- The unit's part of a hook that rewrites the metrics service, for an exporter
    on this port. -/
structure Refreshes (w : Deployment) (port : Option ℕ) (f : UnitState → UnitState) : Prop where
  exporterPort : ∀ s, (f s).exporterPort = port
  iniPorts : ∀ s, (f s).iniPorts = List.replicate w.cores w.listenPort

/-- What a step without failure does: it changes the option, renders on one
    unit, or renders there and rewrites the metrics service. -/
theorem step_cases (hg : NoFailure w a) (ha : step w a = some w') :
    (∃ port, a = .setPort port ∧ w' = { w with
      listenPort := port, unit := fun u => { w.unit u with handled := false } }) ∨
    (∃ h currentPort, a = .configChanged h ∧ w' =
      { w.modifyUnit h (fun s => { s.rendered w with handled := true }) with
        currentPort := currentPort }) ∨
    ∃ h f password, a.refreshes = some h.unit ∧
      a.settings w.leader w.settings = ⟨w.listenPort, Option.isSome password⟩ ∧
      Refreshes w (a.exporterPort w.leader w.settings) f ∧
      w' = { w.modifyUnit h f with monitoringPassword := password } := by
  cases a with
  | setPort port => exact .inl ⟨port, rfl, (Option.some_inj.mp ha).symm⟩
  | configChanged h =>
    obtain ⟨currentPort, he⟩ := onConfigChanged_eq hg.1 hg.2
    exact .inr (.inl ⟨h, currentPort, rfl, by rw [← he, Option.some_inj.mp ha]⟩)
  | peerChanged h =>
    simp only [step, Option.ite_none_right_eq_some, Option.some_inj] at ha
    refine .inr (.inr ⟨h, UnitState.refreshed w h.ready, w.monitoringPassword, rfl, rfl,
      ⟨exporterPort_refreshed, fun _ => rfl⟩, ?_⟩)
    rw [← ha.2, onPeerChanged_eq hg.1 hg.2]
    rfl
  | secretChanged h =>
    refine .inr (.inr ⟨h, UnitState.refreshed w h.ready, w.monitoringPassword, rfl, rfl,
      ⟨exporterPort_refreshed, fun _ => rfl⟩, ?_⟩)
    rw [← Option.some_inj.mp ha, onPeerChanged_eq hg.1 hg.2]
    rfl
  | databaseCreated h =>
    refine .inr (.inr ⟨h, UnitState.refreshed (w.created h) true,
      (w.created h).monitoringPassword, rfl, ?_, ⟨fun s => ?_, fun _ => rfl⟩, ?_⟩)
    · rw [isSome_created]
      rfl
    · rw [exporterPort_refreshed, isSome_created]
      rfl
    · rw [← Option.some_inj.mp ha, onDatabaseCreated_eq hg.1.1 hg.1.2 hg.2]
      rfl
  | pebbleReady h =>
    refine .inr (.inr ⟨h, fun s => { s.refreshed w h.postgres with initialised := true },
      w.monitoringPassword, rfl, rfl, ⟨exporterPort_refreshed, fun _ => rfl⟩, ?_⟩)
    rw [← Option.some_inj.mp ha, onPebbleReady_eq hg]
    rfl

/-! ## Runs -/

/-- A unit that has handled the configured port has it in all its ini files. -/
def Rendered (w : Deployment) : Prop :=
  ∀ u, (w.unit u).handled = true → ∀ port ∈ (w.unit u).iniPorts, port = w.listenPort

theorem settings_step (hg : NoFailure w a) (ha : step w a = some w') :
    w'.leader = w.leader ∧ w'.settings = a.settings w.leader w.settings := by
  rcases step_cases hg ha with ⟨_, rfl, rfl⟩ | ⟨_, _, rfl, rfl⟩ | ⟨_, _, _, -, hc, -, rfl⟩
  · exact ⟨rfl, rfl⟩
  · exact ⟨rfl, rfl⟩
  · exact ⟨rfl, hc.symm⟩

/-- One step: the exporter moves to the configured port where the service is
    rewritten and started, and stays where it was otherwise. -/
theorem exporterPort_step (hg : NoFailure w a) (ha : step w a = some w') (u : ℕ) :
    (w'.unit u).exporterPort =
      if a.refreshes = some u then a.exporterPort w.leader w.settings
      else (w.unit u).exporterPort := by
  rcases step_cases hg ha with ⟨_, rfl, rfl⟩ | ⟨h, _, rfl, rfl⟩ | ⟨h, f, _, hr, -, hf, rfl⟩
  · rfl
  · simp only [Deployment.unit_modifyUnit, Action.refreshes, reduceCtorEq, if_false]
    split_ifs <;> rfl
  · rw [hr]
    show ((w.modifyUnit h f).unit u).exporterPort = _
    rw [Deployment.unit_modifyUnit]
    by_cases hu : u = h.unit
    · simp [hu, hf.exporterPort]
    · simp [hu, Ne.symm hu]

theorem rendered_step (hi : Rendered w) (hg : NoFailure w a) (ha : step w a = some w') :
    Rendered w' := by
  intro u hu port hp
  rcases step_cases hg ha with ⟨_, rfl, rfl⟩ | ⟨h, _, rfl, rfl⟩ | ⟨h, f, _, -, -, hf, rfl⟩
  · cases hu
  · simp only [Deployment.unit_modifyUnit] at hu hp
    split_ifs at hu hp with hv
    · exact List.eq_of_mem_replicate hp
    · exact hi u hu port hp
  · simp only [Deployment.unit_modifyUnit] at hu hp
    split_ifs at hu hp with hv
    · rw [hf.iniPorts] at hp
      exact List.eq_of_mem_replicate hp
    · exact hi u hu port hp

/-- After a run, the exporter of a unit connects to the port for which the unit
    started it when it last rewrote its metrics service. -/
theorem exporterPort_run {l : List Action} (hrun : machine.exec NoFailure w l = some w') (u : ℕ) :
    (w'.unit u).exporterPort = lastRefresh w.leader u l w.settings (w.unit u).exporterPort := by
  induction l generalizing w with
  | nil =>
    obtain rfl : w = w' := by simpa [Machine.exec_nil] using hrun
    rfl
  | cons a l ih =>
    obtain ⟨t, hg, ha, hl⟩ := Machine.exec_cons_eq_some.mp hrun
    obtain ⟨hleader, hsettings⟩ := settings_step hg ha
    rw [ih hl, lastRefresh, hleader, hsettings, exporterPort_step hg ha]

theorem rendered_run {l : List Action} (hi : Rendered w)
    (hrun : machine.exec NoFailure w l = some w') : Rendered w' := by
  induction l generalizing w with
  | nil =>
    obtain rfl : w = w' := by simpa [Machine.exec_nil] using hrun
    exact hi
  | cons a l ih =>
    obtain ⟨t, hg, ha, hl⟩ := Machine.exec_cons_eq_some.mp hrun
    exact ih (rendered_step hi hg ha) hl

/-- The exporter of a unit that has handled the configured port follows it iff
    the unit last rewrote its metrics service while that port was configured, and
    started it. -/
theorem follows_iff {l : List Action} (hw : machine.init w)
    (hrun : machine.exec NoFailure w l = some w') (hu : (w'.unit u).handled = true) :
    Follows w' u ↔ lastRefresh w.leader u l w.settings (w.unit u).exporterPort =
      some w'.listenPort := by
  have hi : Rendered w := fun v hv => by simp [hw v] at hv
  rw [← exporterPort_run hrun]
  exact ⟨fun hf => hf.2, fun he => ⟨rendered_run hi hrun u hu, he⟩⟩

/-! ## Two runs -/

/-- A deployment with these units and two instances on each, before any hook. -/
def sampleDeployment (units : List ℕ) : Deployment where
  units := units
  leader := 0
  cores := 2
  statsUser := "pgbouncer_stats_pgbouncer_k8s"
  listenPort := 6432
  currentPort := none
  monitoringPassword := none
  unit _ := ⟨false, [], none, false⟩

theorem init_sampleDeployment (units : List ℕ) : machine.init (sampleDeployment units) :=
  fun _ => rfl

/-- A hook on unit `u` in which nothing fails; `related` says that the backend is
    there. -/
def sampleHook (u : ℕ) (related : Bool) : Hook :=
  ⟨u, true, true, true, related, related, related, true, related, "pw"⟩

/-- A single unit sets the backend up, and then its port changes. -/
def portRun : List Action :=
  [.pebbleReady (sampleHook 0 false), .databaseCreated (sampleHook 0 true),
    .configChanged (sampleHook 0 true), .setPort 6433, .configChanged (sampleHook 0 true)]

/-- The ini files follow the port, the exporter does not. -/
theorem exporter_left_behind :
    ∃ w, machine.exec NoFailure (sampleDeployment [0]) portRun = some w ∧
      (w.unit 0).handled = true ∧ (w.unit 0).iniPorts = [6433, 6433] ∧
      (w.unit 0).exporterPort = some 6432 ∧ ¬ Follows w 0 := by
  have hrun : (machine.exec NoFailure (sampleDeployment [0]) portRun).any (fun w =>
      (w.unit 0).handled && decide ((w.unit 0).iniPorts = [6433, 6433]) &&
        decide ((w.unit 0).exporterPort = some 6432) && !decide (Follows w 0)) = true := by
    decide +kernel
  obtain ⟨w, hw, hp⟩ := (Option.any_eq_true _ _).mp hrun
  simp only [Bool.and_eq_true, decide_eq_true_eq, Bool.not_eq_true', decide_eq_false_iff_not] at hp
  exact ⟨w, hw, hp.1.1.1, hp.1.1.2, hp.1.2, hp.2⟩

/-- The leader of two units sets the backend up, and the follower handles a
    change of the port. -/
def followerRun : List Action :=
  [.pebbleReady (sampleHook 0 false), .pebbleReady (sampleHook 1 false),
    .databaseCreated (sampleHook 0 true), .setPort 6433, .configChanged (sampleHook 1 true),
    .peerChanged (sampleHook 1 true)]

/-- A peer hook behind its `config-changed` refreshes the exporter. -/
theorem follows_follower :
    ∃ w, machine.exec NoFailure (sampleDeployment [0, 1]) followerRun = some w ∧
      w.listenPort = 6433 ∧ Follows w 1 := by
  have hrun : (machine.exec NoFailure (sampleDeployment [0, 1]) followerRun).any (fun w =>
      (w.unit 1).handled && decide (w.listenPort = 6433)) = true := by
    decide +kernel
  obtain ⟨w, hw, hp⟩ := (Option.any_eq_true _ _).mp hrun
  simp only [Bool.and_eq_true, decide_eq_true_eq] at hp
  refine ⟨w, hw, hp.2, (follows_iff (init_sampleDeployment _) hw hp.1).mpr ?_⟩
  rw [hp.2]
  decide

end PgBouncerK8s.Metrics
