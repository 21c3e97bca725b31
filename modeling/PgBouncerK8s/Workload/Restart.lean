import PgBouncerK8s.Lib.Action
import PgBouncerK8s.Lib.Dict
import PgBouncerK8s.Lib.Text
import PgBouncerK8s.Model.CharmConfig

/-!
# Restarts that fail half-way

Model of `_on_config_changed` (`charm.py`, lines 372–405) with a Pebble that may
stop answering at any call: every call to it is numbered, and the hook says
what the call meets. `render_pgb_config` (lines 1011–1098) pushes the ini files,
restarts or reloads the processes one by one, and ends with
`check_pgb_running` (lines 700–732). The status of the unit is left out;
Kubernetes and PostgreSQL either answer or raise.

The handler defers its event where rendering raised, and then stores the new
port in `current_port` as if the processes had been restarted.

* `Kept.onConfigChanged`: what rendering, the checks and the rest of the handler
  leave alone.
* `recorded_of_renderRaises`: wherever rendering raises, the port is stored, and
  the deferred event restarts no process that is active.
-/

namespace PgBouncerK8s.Restart

open Text (str)

/-! ## Model -/

/-- What a call to Pebble meets. -/
inductive Answer
  | ok
  | connectionError
  | changeError
  deriving DecidableEq

/-- The exceptions: `other` are those that the handler does not name. -/
inductive Failure
  | pebbleConnectionError
  | changeError
  | other
  deriving DecidableEq

/-- A service of the Pebble plan: whether it is active, the port its process is
    bound to, and how often it has been restarted. -/
structure Process where
  active : Bool
  listening : ℕ
  restarts : ℕ
  deriving DecidableEq

/-- What the handler reads and writes: the Pebble plan, the port in the ini file
    of each service, `current_port` in the peer application databag, and
    whether the event is deferred. `calls` numbers the calls to Pebble. -/
structure State where
  plan : Dict String Process
  iniPorts : Dict String ℕ
  currentPort : Option String
  deferred : Bool
  calls : ℕ

/-- What a hook meets. `config` is `none` where the validation raises;
    `initialised` tells that the unit databag has `container_initialised`;
    `reconciled` is what `reconcile_k8s_service` returns, `none` where it raises;
    `filesOk`, the ini files can be rendered; `checksServices`, `update_status`
    gets to `check_pgb_running`; `answered`, Kubernetes and PostgreSQL answer
    behind it. -/
structure Hook where
  leader : Bool
  config : Option CharmConfig
  initialised : Bool
  cores : ℕ
  pebble : ℕ → Answer
  reconciled : Option Bool
  backendReady : Bool
  filesOk : Bool
  checksServices : Bool
  answered : Bool

/-- A handler, or a part of one. -/
abbrev Handler (α : Type) := Action Failure State α

section Handler

variable (hook : Hook)

/-- One call to Pebble. -/
def answer : Handler Answer := do
  let s ← Action.get
  Action.modify fun s => { s with calls := s.calls + 1 }
  return hook.pebble s.calls

def call : Handler Unit := do
  let a ← answer hook
  match a with
  | .ok => return ()
  | .connectionError => Action.fail .pebbleConnectionError
  | .changeError => Action.fail .changeError

/-- `can_connect()`, which raises nothing. -/
def canConnect : Handler Bool := do
  let a ← answer hook
  return a = .ok

/-- `is_container_ready` (`charm.py`, lines 364–370). -/
def isContainerReady : Handler Bool := do
  let connected ← canConnect hook
  return connected && hook.initialised

/-- The names of `self._services` (`charm.py`, lines 162–171). -/
def serviceNames : List String := (List.range hook.cores).map fun i => "pgbouncer_" ++ str i

/-- `self._metrics_service`. -/
def metricsService : String := "metrics_server"

/-- `push_file` of the ini file of a service (`charm.py`, lines 842–859). -/
def pushIni (listenPort : ℕ) (service : String) : Handler Unit := do
  let connected ← canConnect hook
  Action.when (connected = true) do
    call hook
    Action.modify fun s => { s with iniPorts := s.iniPorts.set service listenPort }

/-- `get_services()`. -/
def getServices : Handler (Dict String Process) := do
  call hook
  let s ← Action.get
  return s.plan

/-- The process of a service is started anew: it binds the port of its ini
    file. -/
def State.restarted (s : State) (service : String) : State :=
  { s with plan := s.plan.modify service fun p =>
      ⟨true, (s.iniPorts.get? service).getD p.listening, p.restarts + 1⟩ }

/-- `restart(service)`. -/
def restart (service : String) : Handler Unit := do
  call hook
  Action.modify fun s => s.restarted service

/-- `send_signal(SIGHUP, service)`: the process reads its ini file and stays
    bound. -/
def sendSignal : Handler Unit := call hook

/-- The loop of `check_pgb_running` (`charm.py`, lines 714–730); the plan is
    read again for each service. -/
def checkServices (services : Dict String Process) : List String → Handler Bool
  | [] => return true
  | service :: l =>
    if !services.contains service then Action.fail .pebbleConnectionError
    else do
      let plan ← getServices hook
      match plan.get? service with
      | none => Action.fail .other
      | some p =>
        if p.active then checkServices services l
        else
          Action.when (service = metricsService)
            (Action.tryCatch (restart hook service) fun e =>
              if e = .changeError then pure () else Action.fail e)
          return false

/-- `check_pgb_running` (`charm.py`, lines 700–732). -/
def checkPgbRunning : Handler Bool := do
  let connected ← canConnect hook
  if connected then
    let services ← getServices hook
    checkServices hook services
      (serviceNames hook ++ if hook.backendReady then [metricsService] else [])
  else return false

/-- The body of the loop over the services in `render_pgb_config` (`charm.py`,
    lines 1088–1096); `services` is the plan as it was before the loop. -/
def reloadService (services : Dict String Process) (restarting : Bool) (service : String) :
    Handler Unit :=
  match services.get? service with
  | none => Action.fail .pebbleConnectionError
  | some p => if restarting || !p.active then restart hook service else sendSignal hook

/-- `render_pgb_config` (`charm.py`, lines 1011–1098). -/
def renderPgbConfig (restarting : Bool) : Handler Unit :=
  match hook.config with
  | none => return ()
  | some config => do
    let connected ← canConnect hook
    Action.when (connected = true) do
      Action.when (hook.filesOk = false) (Action.fail .other)
      Action.forEach (pushIni hook config.listenPort) (serviceNames hook)
      let services ← getServices hook
      Action.when (services.items ≠ []) do
        Action.forEach (reloadService hook services restarting) (serviceNames hook)
        let _ ← checkPgbRunning hook
        return ()

/-- `_on_config_changed` down to the call of `render_pgb_config` (`charm.py`,
    lines 379–393): `none` where it returns before, else `port_changed`, and
    whether the container is still ready. -/
def beforeRender : Handler (Option (Bool × Bool)) := do
  let ready ← isContainerReady hook
  if ready then
    match hook.config with
    | none => return none
    | some config =>
      let s ← Action.get
      let portChanged : Bool := s.currentPort ≠ some (str config.listenPort)
      match if hook.leader then hook.reconciled else some true with
      | none => Action.fail .other
      | some false => return none
      | some true =>
        let ready ← isContainerReady hook
        return some (portChanged, ready)
  else
    Action.modify fun s => { s with deferred := true }
    return none

/-- `current_port` is overwritten (`charm.py`, lines 399–401). -/
def recordPort (portChanged : Bool) : Handler Unit :=
  match hook.config with
  | none => return ()
  | some config =>
    Action.when (hook.leader = true ∧ portChanged = true)
      (Action.modify fun s => { s with currentPort := some (str config.listenPort) })

/-- `update_status` and the connection information of the clients (`charm.py`,
    lines 403–405). -/
def afterwards : Handler Unit := do
  Action.when (hook.checksServices = true)
    (Action.tryCatch (checkPgbRunning hook >>= fun _ => pure ()) fun e =>
      if e = .pebbleConnectionError then pure () else Action.fail e)
  Action.when (hook.answered = false) (Action.fail .other)

/-- `_on_config_changed` from the call of `render_pgb_config` on (`charm.py`,
    lines 393–405). -/
def renderAndRecord (portChanged ready : Bool) : Handler Unit := do
  Action.when (ready = true)
    (Action.tryCatch (renderPgbConfig hook portChanged) fun e =>
      if e = .pebbleConnectionError then Action.modify fun s => { s with deferred := true }
      else Action.fail e)
  recordPort hook portChanged
  afterwards hook

/-- `_on_config_changed` (`charm.py`, lines 372–405). -/
def onConfigChanged : Handler Unit := do
  let reached ← beforeRender hook
  match reached with
  | none => return ()
  | some (portChanged, ready) => renderAndRecord hook portChanged ready

/-- In the hook that starts in `s`, `render_pgb_config` is called and raises
    `PebbleConnectionError`. -/
def RenderRaises (s : State) : Prop :=
  ∃ portChanged t u, (beforeRender hook).run s = (.ok (some (portChanged, true)), t) ∧
    (renderPgbConfig hook portChanged).run t = (.error .pebbleConnectionError, u)

end Handler

/-! ## What the handler leaves alone -/

/-- `I` does not depend on the ini files and the number of calls, and it is kept
    where a service is restarted that a plan with `I` shows as inactive, or any
    service if `restarting`. -/
structure Kept (I : State → Prop) (restarting : Bool) : Prop where
  calls : ∀ s n, I s → I { s with calls := n }
  iniPorts : ∀ s f, I s → I { s with iniPorts := f }
  restart : ∀ s s₀ service p, I s₀ → s₀.plan.get? service = some p →
    (restarting || !p.active) = true → I s → I (s.restarted service)

section Kept

variable {hook : Hook} {I : State → Prop} {restarting : Bool}

/-- Any exception. -/
def anyFailure : Failure → Prop := fun _ => True

open PgBouncerK8s.Action (Within)

theorem Kept.answer (hI : Kept I restarting) : Within I anyFailure (answer hook) := by
  refine Within.get_bind fun s _ =>
    Within.bind (Within.modify fun t ht => ?_) fun _ => Within.pure _
  exact hI.calls t _ ht

theorem Kept.call (hI : Kept I restarting) : Within I anyFailure (call hook) := by
  refine Within.bind hI.answer fun a => ?_
  cases a with
  | ok => exact Within.pure ()
  | connectionError => exact Within.fail trivial
  | changeError => exact Within.fail trivial

theorem Kept.canConnect (hI : Kept I restarting) : Within I anyFailure (canConnect hook) :=
  Within.bind hI.answer fun _ => Within.pure _

theorem Kept.isContainerReady (hI : Kept I restarting) :
    Within I anyFailure (isContainerReady hook) :=
  Within.bind hI.canConnect fun _ => Within.pure _

theorem Kept.pushIni (hI : Kept I restarting) (listenPort : ℕ) (service : String) :
    Within I anyFailure (pushIni hook listenPort service) := by
  refine Within.bind hI.canConnect fun _ => Within.when fun _ => Within.bind hI.call fun _ => ?_
  exact Within.modify fun s hs => hI.iniPorts s _ hs

theorem Kept.restartOf (hI : Kept I restarting) {s₀ : State} {service : String} {p : Process}
    (hs₀ : I s₀) (hp : s₀.plan.get? service = some p) (hr : (restarting || !p.active) = true) :
    Within I anyFailure (Restart.restart hook service) :=
  Within.bind hI.call fun _ => Within.modify fun s hs => hI.restart s s₀ service p hs₀ hp hr hs

/-- What is done with the plan may rely on its coming from a state with `I`. -/
theorem Kept.getServices_bind (hI : Kept I restarting) {α : Type}
    {f : Dict String Process → Handler α}
    (hf : ∀ s₀, I s₀ → Within I anyFailure (f s₀.plan)) :
    Within I anyFailure (getServices hook >>= f) := by
  intro s hs
  have hcall : Within I anyFailure (Restart.call hook) := hI.call
  have hc := hcall s hs
  unfold Restart.getServices
  rw [Action.run_bind, Action.run_bind]
  rcases hr : (Restart.call hook).run s with ⟨_ | _, t⟩
  · rw [hr] at hc
    exact hc
  · rw [hr] at hc
    exact hf t hc t hc

theorem Kept.checkServices (hI : Kept I restarting) (services : Dict String Process)
    (l : List String) : Within I anyFailure (checkServices hook services l) := by
  induction l with
  | nil => exact Within.pure true
  | cons service l ih =>
    refine Within.ite (fun _ => Within.fail trivial) fun _ => ?_
    refine hI.getServices_bind fun s₀ hs₀ => ?_
    cases hp : s₀.plan.get? service with
    | none => exact Within.fail trivial
    | some p =>
      cases ha : p.active with
      | true => simpa [ha] using ih
      | false =>
        simp only [ha, Bool.false_eq_true, if_false]
        refine Within.bind (Within.when fun _ => ?_) fun _ => Within.pure false
        refine Within.tryCatch (hI.restartOf hs₀ hp (by simp [ha])) fun e _ => ?_
        exact Within.ite (fun _ => Within.pure ()) fun _ => Within.fail trivial

theorem Kept.checkPgbRunning (hI : Kept I restarting) :
    Within I anyFailure (checkPgbRunning hook) := by
  refine Within.bind hI.canConnect fun _ => Within.ite (fun _ => ?_) fun _ => Within.pure false
  exact hI.getServices_bind fun s₀ _ => hI.checkServices s₀.plan _

theorem Kept.reloadService (hI : Kept I restarting) {s₀ : State} (hs₀ : I s₀) (service : String) :
    Within I anyFailure (reloadService hook s₀.plan restarting service) := by
  unfold Restart.reloadService
  cases hp : s₀.plan.get? service with
  | none => exact Within.fail trivial
  | some p => exact Within.ite (fun hr => hI.restartOf hs₀ hp hr) fun _ => hI.call

theorem Kept.renderPgbConfig (hI : Kept I restarting) :
    Within I anyFailure (renderPgbConfig hook restarting) := by
  unfold Restart.renderPgbConfig
  cases hook.config with
  | none => exact Within.pure ()
  | some config =>
    refine Within.bind hI.canConnect fun _ => Within.when fun _ => ?_
    refine Within.bind (Within.when fun _ => Within.fail trivial) fun _ => ?_
    refine Within.bind (Within.forEach fun service _ => hI.pushIni _ service) fun _ => ?_
    refine hI.getServices_bind fun s₀ hs₀ => Within.when fun _ => ?_
    refine Within.bind (Within.forEach fun service _ => hI.reloadService hs₀ service) fun _ => ?_
    exact Within.bind hI.checkPgbRunning fun _ => Within.pure ()

theorem Kept.afterwards (hI : Kept I restarting) : Within I anyFailure (afterwards hook) := by
  refine Within.bind (Within.when fun _ => ?_) fun _ => Within.when fun _ => Within.fail trivial
  refine Within.tryCatch (Within.bind hI.checkPgbRunning fun _ => Within.pure ()) fun e _ => ?_
  exact Within.ite (fun _ => Within.pure ()) fun _ => Within.fail trivial

/-- Up to the call of `render_pgb_config`, what does not depend on the deferral
    is kept. -/
theorem Kept.beforeRender (hI : Kept I restarting)
    (hdefer : ∀ s, I s → I { s with deferred := true }) :
    Within I anyFailure (beforeRender hook) := by
  refine Within.bind hI.isContainerReady fun ready => Within.ite (fun _ => ?_) fun _ => ?_
  · cases hook.config with
    | none => exact Within.pure none
    | some config =>
      refine Within.get_bind fun s _ => ?_
      dsimp only
      cases (if hook.leader then hook.reconciled else some true) with
      | none => exact Within.fail trivial
      | some reconciled =>
        cases reconciled with
        | false => exact Within.pure none
        | true => exact Within.bind hI.isContainerReady fun _ => Within.pure _
  · exact Within.bind (Within.modify hdefer) fun _ => Within.pure none

end Kept

/-! ## The failed hook and its retry -/

section Retry

variable {hook : Hook} {config : CharmConfig} {s t u s' : State}

/-- `current_port` and the deferral are written nowhere in rendering. -/
theorem kept_recorded (J : Option String → Bool → Prop) (restarting : Bool) :
    Kept (fun s => J s.currentPort s.deferred) restarting :=
  ⟨fun _ _ h => h, fun _ _ h => h, fun _ _ _ _ _ _ _ h => h⟩

/-- A plain reload leaves an active process alone. -/
theorem kept_active {service : String} {p : Process} (ha : p.active = true) :
    Kept (fun s => s.plan.get? service = some p) false := by
  refine ⟨fun _ _ h => h, fun _ _ h => h, fun s s₀ other q hs₀ hq hr h => ?_⟩
  have hne : service ≠ other := by
    rintro rfl
    rw [hs₀, Option.some_inj] at hq
    simp [← hq, ha] at hr
  simp only [State.restarted, Dict.get?_modify, if_neg hne, h]

/-- Up to the call of `render_pgb_config`, `current_port` is read and not
    written. -/
theorem beforeRender_meets (hc : hook.config = some config) (currentPort : Option String) :
    Action.Meets (fun s => s.currentPort = currentPort) (beforeRender hook)
      (fun reached s => s.currentPort = currentPort ∧ ∀ portChanged ready,
        reached = some (portChanged, ready) →
          portChanged = decide (currentPort ≠ some (str config.listenPort)))
      (fun e s => anyFailure e ∧ s.currentPort = currentPort) := by
  have hready : Action.Within (fun s => s.currentPort = currentPort) anyFailure
      (isContainerReady hook) := (kept_recorded (fun x _ => x = currentPort) true).isContainerReady
  have hreached : ∀ b : Bool, Action.Meets (fun s => s.currentPort = currentPort)
      (isContainerReady hook >>= fun ready => pure (some (b, ready)))
      (fun reached s => s.currentPort = currentPort ∧ ∀ portChanged ready,
        reached = some (portChanged, ready) → portChanged = b)
      (fun e s => anyFailure e ∧ s.currentPort = currentPort) := by
    intro b
    refine Action.Meets.bind hready fun ready t ht => ⟨ht, fun portChanged ready' he => ?_⟩
    rw [Option.some_inj, Prod.mk.injEq] at he
    exact he.1.symm
  refine Action.Meets.bind hready fun ready => Action.Meets.ite (fun _ => ?_) fun _ => ?_
  · simp only [hc]
    intro s hs
    obtain rfl : s.currentPort = currentPort := hs
    rw [Action.run_get_bind]
    cases (if hook.leader then hook.reconciled else some true) with
    | none => exact ⟨trivial, rfl⟩
    | some reconciled =>
      cases reconciled with
      | false => exact ⟨rfl, by simp⟩
      | true => exact hreached _ s rfl
  · exact fun s hs => ⟨hs, by simp⟩

/-- The hook in which rendering raises defers its event and stores the port. -/
theorem recorded_of_run (hlead : hook.leader = true) (hc : hook.config = some config)
    (hchange : s.currentPort ≠ some (str config.listenPort)) (hraise : RenderRaises hook s)
    (hrun : (onConfigChanged hook).run s = (.ok (), s')) :
    s'.deferred = true ∧ s'.currentPort = some (str config.listenPort) := by
  obtain ⟨portChanged, t, u, hbefore, hrender⟩ := hraise
  obtain ⟨-, hport⟩ := (beforeRender_meets hc s.currentPort).ok rfl hbefore
  have hpc : portChanged = true := by
    rw [hport portChanged true rfl]
    exact decide_eq_true hchange
  subst hpc
  rw [onConfigChanged, Action.run_bind_ok hbefore] at hrun
  have hcaught : (Action.when (true = true) (Action.tryCatch (renderPgbConfig hook true) fun e =>
      if e = .pebbleConnectionError then Action.modify fun s => { s with deferred := true }
      else Action.fail e)).run t = (.ok (), { u with deferred := true }) := by
    rw [Action.run_when, if_pos rfl, Action.run_tryCatch, hrender]
    rfl
  have hrecord : (recordPort hook true).run { u with deferred := true } =
      (.ok (), { u with deferred := true, currentPort := some (str config.listenPort) }) := by
    unfold recordPort
    simp only [hc]
    rw [Action.run_when, if_pos ⟨hlead, rfl⟩]
    rfl
  simp only [renderAndRecord] at hrun
  rw [Action.run_bind_ok hcaught, Action.run_bind_ok hrecord] at hrun
  have hrest : Action.Within
      (fun s => s.deferred = true ∧ s.currentPort = some (str config.listenPort)) anyFailure
      (afterwards hook) :=
    (kept_recorded (fun x d => d = true ∧ x = some (str config.listenPort)) true).afterwards
  exact hrest.ok ⟨rfl, rfl⟩ hrun

/-- Behind an unchanged port the handler keeps what a plain reload keeps. -/
theorem Kept.renderAndRecord {I : State → Prop} (hI : Kept I false)
    (hdefer : ∀ s, I s → I { s with deferred := true }) (ready : Bool) :
    Action.Within I anyFailure (renderAndRecord hook false ready) := by
  refine Action.Within.bind (Action.Within.when fun _ => ?_) fun _ =>
    Action.Within.bind ?_ fun _ => hI.afterwards
  · refine Action.Within.tryCatch hI.renderPgbConfig fun e _ => ?_
    exact Action.Within.ite (fun _ => Action.Within.modify hdefer) fun _ =>
      Action.Within.fail trivial
  · unfold recordPort
    cases hook.config with
    | none => exact Action.Within.pure ()
    | some config => exact Action.Within.when fun h => absurd h.2 Bool.false_ne_true

/-- A hook that reads the configured port in `current_port` restarts no process
    that is active. -/
theorem active_untouched (hc : hook.config = some config)
    (hport : s.currentPort = some (str config.listenPort)) {service : String} {p : Process}
    (hp : s.plan.get? service = some p) (ha : p.active = true) :
    ((onConfigChanged hook).run s).2.plan.get? service = some p := by
  have hkept : Kept (fun s => s.plan.get? service = some p) false := kept_active ha
  have hdefer : ∀ s : State, s.plan.get? service = some p →
      ({ s with deferred := true } : State).plan.get? service = some p := fun _ h => h
  have hbefore : Action.Within (fun s => s.plan.get? service = some p) anyFailure
      (beforeRender hook) := hkept.beforeRender hdefer
  rw [onConfigChanged, Action.run_bind]
  rcases hr : (beforeRender hook).run s with ⟨e | reached, t⟩
  · exact (hbefore.error hp hr).2
  · have ht : t.plan.get? service = some p := hbefore.ok hp hr
    rcases reached with _ | ⟨portChanged, ready⟩
    · exact ht
    · obtain ⟨-, hpc⟩ := (beforeRender_meets hc _).ok hport hr
      obtain rfl : portChanged = false := by simpa using hpc portChanged ready rfl
      have hrecord : Action.Within (fun s => s.plan.get? service = some p) anyFailure
          (renderAndRecord hook false ready) := hkept.renderAndRecord hdefer ready
      have hafter := hrecord t ht
      dsimp only
      rcases hr' : (renderAndRecord hook false ready).run t with ⟨e | _, t'⟩
      · rw [hr'] at hafter
        exact hafter.2
      · rw [hr'] at hafter
        exact hafter

/-- Wherever rendering raises in a hook of the leader that returns, the new port
    is stored, and the deferred event leaves every active process as it is. -/
theorem recorded_of_renderRaises (hlead : hook.leader = true) (hc : hook.config = some config)
    (hchange : s.currentPort ≠ some (str config.listenPort)) (hraise : RenderRaises hook s)
    (hrun : (onConfigChanged hook).run s = (.ok (), s')) :
    s'.deferred = true ∧ s'.currentPort ≠ s.currentPort ∧
      ∀ (retry : Hook) (r : State), retry.config = some config → r.currentPort = s'.currentPort →
        ∀ service p, r.plan.get? service = some p → p.active = true →
          ((onConfigChanged retry).run r).2.plan.get? service = some p := by
  obtain ⟨hdeferred, hport⟩ := recorded_of_run hlead hc hchange hraise hrun
  refine ⟨hdeferred, ?_, fun retry r hretry hr service p hp ha => ?_⟩
  · rw [hport]
    exact hchange.symm
  · exact active_untouched hretry (hr.trans hport) hp ha

end Retry

/-! ## One failed hook -/

/-- A hook on the leader with two instances, the port 6433 and this Pebble. -/
def sampleHook (pebble : ℕ → Answer) : Hook where
  leader := true
  config := some ⟨6433, "session", 0, 100, .clusterIP, "", Nat.succ_pos _⟩
  initialised := true
  cores := 2
  pebble := pebble
  reconciled := some true
  backendReady := false
  filesOk := true
  checksServices := true
  answered := true

/-- Two processes bound to 6432, as `current_port` says. -/
def samplePlan : State where
  plan := (Dict.empty.set "pgbouncer_0" ⟨true, 6432, 0⟩).set "pgbouncer_1" ⟨true, 6432, 0⟩
  iniPorts := (Dict.empty.set "pgbouncer_0" 6432).set "pgbouncer_1" 6432
  currentPort := some (str 6432)
  deferred := false
  calls := 0

/-- Pebble stops answering at the second restart, the tenth call. -/
def secondRestart (n : ℕ) : Answer := if n = 9 then .connectionError else .ok

/-- The hook in which the second restart fails, and its retry. -/
def failed : State := ((onConfigChanged (sampleHook secondRestart)).run samplePlan).2

def retried : State := ((onConfigChanged (sampleHook fun _ => .ok)).run failed).2

theorem renderRaises_secondRestart : RenderRaises (sampleHook secondRestart) samplePlan :=
  ⟨true, _, _, Prod.ext (by decide +kernel) rfl, Prod.ext (by decide +kernel) rfl⟩

theorem run_secondRestart :
    (onConfigChanged (sampleHook secondRestart)).run samplePlan = (.ok (), failed) :=
  Prod.ext (by decide +kernel) rfl

/-- The failed hook has stored the new port, and after the retry the second
    process is still bound to the old one. -/
theorem restart_lost :
    RenderRaises (sampleHook secondRestart) samplePlan ∧
      (onConfigChanged (sampleHook secondRestart)).run samplePlan = (.ok (), failed) ∧
      failed.deferred = true ∧ failed.currentPort = some "6433" ∧
      failed.currentPort ≠ samplePlan.currentPort ∧
      retried.plan.get? "pgbouncer_1" = some ⟨true, 6432, 0⟩ :=
  ⟨renderRaises_secondRestart, run_secondRestart, by decide +kernel, by decide +kernel,
    by decide +kernel, by decide +kernel⟩

/-- The theorem at this hook. -/
theorem recorded_secondRestart :
    failed.deferred = true ∧ failed.currentPort ≠ samplePlan.currentPort :=
  have h := recorded_of_renderRaises rfl rfl (by decide +kernel) renderRaises_secondRestart
    run_secondRestart
  ⟨h.1, h.2.1⟩

end PgBouncerK8s.Restart
