import Mathlib.Logic.Function.Basic
import PgBouncerK8s.Lib.Machine
import PgBouncerK8s.Lib.Text

/-!
# The listening port

Model of `_on_config_changed` (`charm.py`, lines 372–405), of the end of
`render_pgb_config` (lines 1058–1098) and of `Peers._on_changed`, as far as they
concern the port. A running PgBouncer binds `listen_port` when it starts; SIGHUP
reloads its ini but does not rebind.

Whether a unit restarts its services depends on `current_port` in the peer
application databag, which the leader overwrites at the end of its own hook. A
follower that sees the new value before its own `config-changed` only reloads.

* `rebound_of_reach`: when the port change reaches every process.
* `port_missed`: a run in which a follower stays on the old port.
-/

namespace PgBouncerK8s.Port

open Text (str)

/-! ## Model -/

/-- One PgBouncer process: whether its service is in the pebble plan and
    active, the port in its ini file, and the port it is bound to. -/
structure Instance where
  planned : Bool
  active : Bool
  iniPort : ℕ
  listening : ℕ
  deriving DecidableEq

/-- One unit: its processes, whether pebble has any services, the `current_port`
    it sees, and whether it has handled `config-changed` since the last change
    of the port. -/
structure UnitState where
  instances : List Instance
  servicesDefined : Bool
  seenPort : Option String
  handled : Bool

/-- The deployment: `listenPort` is the configured port, `currentPort` the key
    of the application databag as the leader reads it. -/
structure Deployment where
  units : List ℕ
  leader : ℕ
  listenPort : ℕ
  currentPort : Option String
  unit : ℕ → UnitState

/-- What a hook on a unit meets. -/
structure Hook where
  unit : ℕ
  canConnect : Bool
  initialised : Bool
  configValid : Bool
  reconcileOk : Bool

/-- `is_container_ready` (`charm.py`, lines 364–370). -/
def Hook.isContainerReady (h : Hook) : Bool := h.canConnect && h.initialised

/-- The loop over the services (`charm.py`, lines 1088–1096); the flag tells
    that it raised `PebbleConnectionError`. -/
def reloadInstances (restart : Bool) : List Instance → List Instance × Bool
  | [] => ([], false)
  | i :: l =>
    if !i.planned then (i :: l, true)
    else
      let i := if restart || !i.active then { i with active := true, listening := i.iniPort } else i
      let (l, raised) := reloadInstances restart l
      (i :: l, raised)

/-- `render_pgb_config` (`charm.py`, lines 1011–1098): the ini files get the
    configured port. -/
def renderPgbConfig (h : Hook) (listenPort : ℕ) (restart : Bool) (s : UnitState) :
    UnitState × Bool :=
  if !h.configValid || !h.canConnect then (s, false)
  else
    let s := { s with instances := s.instances.map fun i => { i with iniPort := listenPort } }
    if !s.servicesDefined then (s, false)
    else
      let (l, raised) := reloadInstances restart s.instances
      ({ s with instances := l }, raised)

/-- The `current_port` that unit `u` reads. -/
def Deployment.readPort (w : Deployment) (u : ℕ) : Option String :=
  if u = w.leader then w.currentPort else (w.unit u).seenPort

/-- `_on_config_changed` (`charm.py`, lines 372–405). It marks the change as
    handled where it neither defers nor returns early. -/
def onConfigChanged (h : Hook) (w : Deployment) : Deployment :=
  if !h.isContainerReady then w
  else if !h.configValid then w
  else
    let oldPort := w.readPort h.unit
    let portChanged : Bool := oldPort ≠ some (str w.listenPort)
    let leader : Bool := h.unit = w.leader
    if leader && !h.reconcileOk then w
    else
      let (s, raised) := renderPgbConfig h w.listenPort portChanged (w.unit h.unit)
      { w with
        unit := Function.update w.unit h.unit { s with handled := s.handled || !raised }
        currentPort := if leader && portChanged then some (str w.listenPort) else w.currentPort }

/-- `Peers._on_changed` (`relations/peers.py`, lines 116–142); `none` where
    `render_pgb_config` raises. -/
def onPeerChanged (h : Hook) (w : Deployment) : Option Deployment :=
  if !h.isContainerReady then some w
  else
    let (s, raised) := renderPgbConfig h w.listenPort false (w.unit h.unit)
    if raised then none else some { w with unit := Function.update w.unit h.unit s }

/-! ## The machine -/

/-- `deliver u` lets unit `u` see the application databag as it is now. -/
inductive Action
  | setPort (port : ℕ)
  | deliver (u : ℕ)
  | configChanged (h : Hook)
  | peerChanged (h : Hook)

def step (w : Deployment) : Action → Option Deployment
  | .setPort port =>
    some { w with listenPort := port, unit := fun u => { w.unit u with handled := false } }
  | .deliver u =>
    some { w with
      unit := Function.update w.unit u { w.unit u with seenPort := w.currentPort } }
  | .configChanged h => some (onConfigChanged h w)
  | .peerChanged h => onPeerChanged h w

/-- All processes of the unit run on the port of their ini file, the configured
    one. -/
def Bound (port : ℕ) (s : UnitState) : Prop :=
  ∀ i ∈ s.instances, i.active = true ∧ i.iniPort = port ∧ i.listening = port

instance (port : ℕ) (s : UnitState) : Decidable (Bound port s) :=
  inferInstanceAs (Decidable (∀ i ∈ s.instances, _))

/-- Runs start with every unit bound to the configured port or about to handle
    `config-changed`. -/
def machine : Machine Deployment Action where
  init w := ∀ u, (w.unit u).handled = true → Bound w.listenPort (w.unit u)
  step := step

/-- Once every unit has handled the change, every process listens on the new
    port. -/
def Rebound (w : Deployment) : Prop :=
  (∀ u ∈ w.units, (w.unit u).handled = true) → ∀ u ∈ w.units, Bound w.listenPort (w.unit u)

/-- Nothing fails in the hook, and all services are in the pebble plan. -/
def NoFailure (w : Deployment) (h : Hook) : Prop :=
  h.isContainerReady = true ∧ h.configValid = true ∧ h.reconcileOk = true ∧
    (w.unit h.unit).servicesDefined = true ∧ ∀ i ∈ (w.unit h.unit).instances, i.planned = true

instance (w : Deployment) (h : Hook) : Decidable (NoFailure w h) :=
  inferInstanceAs (Decidable (_ ∧ _ ∧ _ ∧ _ ∧ _))

/-- No hook fails, and a unit that handles `config-changed` reads another
    `current_port` than the configured one, unless its processes run on that
    port already. -/
def SeesOldPort (w : Deployment) : Action → Prop
  | .configChanged h => NoFailure w h ∧ (w.readPort h.unit ≠ some (str w.listenPort) ∨
      ∀ i ∈ (w.unit h.unit).instances, i.active = true → i.listening = w.listenPort)
  | .peerChanged h => NoFailure w h
  | _ => True

instance (w : Deployment) : (a : Action) → Decidable (SeesOldPort w a)
  | .setPort _ => inferInstanceAs (Decidable True)
  | .deliver _ => inferInstanceAs (Decidable True)
  | .configChanged _ => inferInstanceAs (Decidable (_ ∧ (_ ∨ _)))
  | .peerChanged h => inferInstanceAs (Decidable (NoFailure w h))

/-! ## One hook -/

variable {w w' : Deployment} {h : Hook}

theorem reloadInstances_planned (restart : Bool) {l : List Instance}
    (hp : ∀ i ∈ l, i.planned = true) :
    reloadInstances restart l = (l.map fun i =>
      if restart || !i.active then { i with active := true, listening := i.iniPort } else i,
      false) := by
  induction l with
  | nil => rfl
  | cons i l ih =>
    have hi := hp i List.mem_cons_self
    have ih := ih fun j hj => hp j (List.mem_cons_of_mem _ hj)
    simp [reloadInstances, hi, ih]

/-- Rendering with nothing failing: every process gets the port in its ini file,
    and those that are started or restarted bind to it. -/
theorem renderPgbConfig_instances (hf : NoFailure w h) (port : ℕ) (restart : Bool) :
    renderPgbConfig h port restart (w.unit h.unit) =
      ({ w.unit h.unit with
        instances := (w.unit h.unit).instances.map fun i =>
          if restart || !i.active then { i with active := true, iniPort := port, listening := port }
          else { i with iniPort := port } }, false) := by
  obtain ⟨hready, hvalid, -, hdef, hp⟩ := hf
  have hconn : h.canConnect = true := by
    unfold Hook.isContainerReady at hready
    exact (Bool.and_eq_true_iff.mp hready).1
  unfold renderPgbConfig
  rw [if_neg (by simp [hvalid, hconn])]
  simp only [hdef, Bool.not_true, Bool.false_eq_true, if_false]
  rw [reloadInstances_planned restart (by
    intro i hi
    obtain ⟨j, hj, rfl⟩ := List.mem_map.mp hi
    exact hp j hj)]
  simp only [List.map_map, Prod.mk.injEq, and_true]
  congr 1

theorem bound_render (hf : NoFailure w h) (port : ℕ) (restart : Bool)
    (hb : restart = true ∨
      ∀ i ∈ (w.unit h.unit).instances, i.active = true → i.listening = port) :
    Bound port (renderPgbConfig h port restart (w.unit h.unit)).1 := by
  rw [renderPgbConfig_instances hf]
  intro i hi
  obtain ⟨j, hj, rfl⟩ := List.mem_map.mp hi
  by_cases hr : (restart || !j.active) = true
  · simp [hr]
  · rw [if_neg hr]
    simp only [Bool.or_eq_true, Bool.not_eq_true', not_or, Bool.not_eq_true,
      Bool.not_eq_false] at hr
    refine ⟨hr.2, rfl, ?_⟩
    rcases hb with hb | hb
    · rw [hb] at hr
      cases hr.1
    · exact hb j hj hr.2

/-! ## Runs -/

/-- What the change of the port has reached so far. -/
def Inv (w : Deployment) : Prop := ∀ u, (w.unit u).handled = true → Bound w.listenPort (w.unit u)

theorem inv_configChanged (hi : Inv w) (hg : SeesOldPort w (.configChanged h)) :
    Inv (onConfigChanged h w) := by
  obtain ⟨hf, hold⟩ := hg
  obtain ⟨hready, hvalid, hrec, -, -⟩ := id hf
  unfold onConfigChanged
  rw [if_neg (by simp [hready]), if_neg (by simp [hvalid])]
  simp only [hrec, Bool.not_true, Bool.and_false, Bool.false_eq_true, if_false]
  intro u hu
  by_cases hv : u = h.unit
  · subst hv
    simp only [Function.update_self]
    exact bound_render hf _ _ (hold.imp (fun ho => by simpa using ho) id)
  · simp only [Function.update_of_ne hv] at hu ⊢
    exact hi u hu

theorem inv_peerChanged (hi : Inv w) (hf : NoFailure w h) (ha : onPeerChanged h w = some w') :
    Inv w' := by
  unfold onPeerChanged at ha
  rw [if_neg (by simp [hf.1])] at ha
  cases hren : renderPgbConfig h w.listenPort false (w.unit h.unit) with
  | mk s raised =>
  have hhandled : s.handled = (w.unit h.unit).handled := by
    have := renderPgbConfig_instances hf w.listenPort false
    rw [hren] at this
    exact congrArg (fun p => p.1.handled) this
  rw [hren] at ha
  simp only at ha
  split_ifs at ha
  cases ha
  intro u hu
  by_cases hv : u = h.unit
  · subst hv
    simp only [Function.update_self] at hu ⊢
    have hb := hi h.unit (by rwa [← hhandled])
    have hbound := bound_render hf w.listenPort false
      (.inr fun i hm _ => (hb i hm).2.2)
    rwa [hren] at hbound
  · simp only [Function.update_of_ne hv] at hu ⊢
    exact hi u hu

theorem inv_step {a : Action} (hi : Inv w) (hg : SeesOldPort w a) (ha : step w a = some w') :
    Inv w' := by
  cases a with
  | setPort port =>
    cases ha
    intro u hu
    cases hu
  | deliver u =>
    cases ha
    intro v hv
    by_cases hu : v = u
    · subst hu
      simp only [Function.update_self] at hv ⊢
      exact hi v hv
    · simp only [Function.update_of_ne hu] at hv ⊢
      exact hi v hv
  | configChanged h =>
    cases ha
    exact inv_configChanged hi hg
  | peerChanged h => exact inv_peerChanged hi hg ha

/-- In every run without failures in which a unit that handles `config-changed`
    still reads another port than the configured one, the change reaches every
    process of every unit. -/
theorem rebound_of_reach (hw : machine.Reach SeesOldPort w) : Rebound w := by
  have hi : Inv w := hw.invariant (fun _ hw => hw) fun _ _ _ _ hi hg ha => inv_step hi hg ha
  exact fun hall u hu => hi u (hall u hu)

/-! ## Two runs -/

/-- Two units, each with one process on port 6432. -/
def samplePorts : Deployment :=
  ⟨[0, 1], 0, 6432, some (str 6432),
    fun _ => ⟨[⟨true, true, 6432, 6432⟩], true, some (str 6432), true⟩⟩

theorem bound_samplePorts : machine.init samplePorts := by
  intro u _
  show Bound 6432 ⟨[⟨true, true, 6432, 6432⟩], true, some (str 6432), true⟩
  decide

/-- A hook on unit `u` in which nothing fails. -/
def sampleHook (u : ℕ) : Hook := ⟨u, true, true, true, true⟩

/-- The follower sees the leader's new `current_port` before its own hook. -/
def lateFollower : List Action :=
  [.setPort 6433, .configChanged (sampleHook 0), .deliver 1, .configChanged (sampleHook 1)]

/-- Both units have handled the change, and the process of unit 1 still listens
    on the old port. -/
theorem port_missed :
    ∃ w, machine.Reach Machine.always w ∧ w.listenPort = 6433 ∧
      (∀ u ∈ w.units, (w.unit u).handled = true) ∧
      (w.unit 1).instances = [⟨true, true, 6433, 6432⟩] ∧ ¬ Rebound w := by
  obtain ⟨w, hw, hp⟩ := Machine.exists_reach_of_exec machine Machine.always samplePorts lateFollower
    (fun w => w.listenPort == 6433 && w.units == [0, 1] &&
      (w.units.all fun u => (w.unit u).handled) &&
      (w.unit 1).instances == [⟨true, true, 6433, 6432⟩]) bound_samplePorts (by decide)
  simp only [Bool.and_eq_true, beq_iff_eq, List.all_eq_true] at hp
  obtain ⟨⟨⟨hport, hunits⟩, hall⟩, hinst⟩ := hp
  refine ⟨w, hw, hport, hall, hinst, fun hr => ?_⟩
  have hb := hr hall 1 (by rw [hunits]; decide)
  rw [Bound, hinst, hport] at hb
  simp at hb

/-- The follower's hook runs before the leader's write reaches it. -/
theorem rebound_in_time :
    ∃ w, machine.Reach SeesOldPort w ∧ w.listenPort = 6433 ∧ Rebound w := by
  obtain ⟨w, hw, hp⟩ := Machine.exists_reach_of_exec machine SeesOldPort samplePorts
    [.setPort 6433, .configChanged (sampleHook 0), .configChanged (sampleHook 1), .deliver 1,
      .peerChanged (sampleHook 1)] (fun w => w.listenPort == 6433) bound_samplePorts (by decide)
  exact ⟨w, hw, by simpa using hp, rebound_of_reach hw⟩

end PgBouncerK8s.Port
