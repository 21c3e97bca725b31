import PgBouncerK8s.Operator.Blocked
import PgBouncerK8s.Operator.ConfigChanged
import PgBouncerK8s.Workload.Port

/-!
# The operator seen by the model of the port

`Port` takes the services of a unit as a list of instances, and leaves out the
metrics service, the status and everything that a hook raises. A hook of the
operator that returns does to the instances and to `current_port` what the hook
of `Port` does.

* `reload_port`: the loop of `render_pgb_config`.
* `config_changed_port`: `_on_config_changed`.
-/

namespace PgBouncerK8s.Operator

open PgBouncerK8s.Action
open Text (str)

variable {env : Env} {s t : State} {names : List String} {l : List Port.Instance}

/-- The instance shows the service. -/
def Shows (s : State) (name : String) (i : Port.Instance) : Prop :=
  (s.services.get? name).map (fun status => decide (status = .active)) =
    if i.planned then some i.active else none

theorem Shows.congr {name : String} {i : Port.Instance} (h : Shows s name i)
    (hs : t.services.get? name = s.services.get? name) : Shows t name i := by
  unfold Shows
  rw [hs]
  exact h

theorem shows_congr (h : List.Forall₂ (Shows s) names l)
    (hs : ∀ name ∈ names, t.services.get? name = s.services.get? name) :
    List.Forall₂ (Shows t) names l := by
  induction h with
  | nil => exact .nil
  | cons hi _ ih =>
    exact .cons (hi.congr (hs _ List.mem_cons_self)) (ih fun name hn => hs name
      (List.mem_cons_of_mem _ hn))

/-! ## Rendering -/

/-- An instance that has been restarted, or is left alone. -/
def reloadedInstance (restarting : Bool) (i : Port.Instance) : Port.Instance :=
  if restarting || !i.active then { i with active := true, listening := i.iniPort } else i

theorem reloadInstances_missing {restarting : Bool} {i : Port.Instance} (hi : i.planned = false) :
    Port.reloadInstances restarting (i :: l) = (i :: l, true) := by
  rw [Port.reloadInstances, hi]
  rfl

theorem reloadInstances_planned {restarting : Bool} {i : Port.Instance} (hi : i.planned = true) :
    Port.reloadInstances restarting (i :: l) =
      (reloadedInstance restarting i :: (Port.reloadInstances restarting l).1,
        (Port.reloadInstances restarting l).2) := by
  simp [Port.reloadInstances, reloadedInstance, hi]

/-- The body of the loop, for a service that is in the plan and can be
    restarted. -/
theorem reloadService_port {restarting : Bool} {name : String} {i : Port.Instance}
    (hi : Shows s name i) (hplanned : i.planned = true)
    (hr : (reloadService env restarting name).run s = (.ok (), t)) :
    Shows t name (reloadedInstance restarting i) ∧
      (∀ name', name' ≠ name → t.services.get? name' = s.services.get? name') ∧
      ∀ name', (t.services.get? name').isSome = (s.services.get? name').isSome := by
  unfold Shows at hi
  rw [hplanned, if_pos rfl, Option.map_eq_some_iff] at hi
  obtain ⟨status, hstatus, hactive⟩ := hi
  have hiff : (restarting || !i.active) = true ↔ restarting = true ∨ status ≠ .active := by
    simp [← hactive]
  unfold reloadService at hr
  rw [run_get_bind, hstatus] at hr
  rcases run_when_eq_ok hr with ⟨hre, hrestart⟩ | ⟨hno, rfl⟩
  · unfold restart at hrestart
    rw [run_ite] at hrestart
    split_ifs at hrestart
    · cases hrestart
      unfold reloadedInstance Shows
      rw [if_pos (hiff.mpr hre)]
      refine ⟨?_, fun name' hn => ?_, fun name' => ?_⟩
      · simp [Dict.get?_modify, hstatus, hplanned]
      · rw [Dict.get?_modify, if_neg hn]
      · exact Dict.contains_modify s.services name name' _
    · cases hrestart
  · unfold reloadedInstance Shows
    rw [if_neg (mt hiff.mp hno)]
    exact ⟨by simp [hstatus, hplanned, hactive], fun _ _ => rfl, fun _ => rfl⟩

theorem reloadService_missing {restarting : Bool} {name : String} {i : Port.Instance}
    (hi : Shows s name i) (hmissing : i.planned = false) :
    (reloadService env restarting name).run s = (.error .pebbleConnectionError, s) := by
  unfold Shows at hi
  rw [hmissing, if_neg Bool.false_ne_true, Option.map_eq_none_iff] at hi
  unfold reloadService
  rw [run_get_bind, hi]
  rfl

/-- The only error that is caught is the one for a service that is not in the
    plan. -/
theorem reloadService_raises {restarting : Bool} {name : String} {i : Port.Instance}
    (hi : Shows s name i) (hplanned : i.planned = true)
    (hr : (reloadService env restarting name).run s = (.error .pebbleConnectionError, t)) :
    False := by
  unfold Shows at hi
  rw [hplanned, if_pos rfl, Option.map_eq_some_iff] at hi
  obtain ⟨status, hstatus, -⟩ := hi
  unfold reloadService at hr
  rw [run_get_bind, hstatus] at hr
  have hrun : (Action.when (restarting = true ∨ status ≠ .active) (restart env name)).run s =
      (.error .pebbleConnectionError, t) := hr
  rw [run_when] at hrun
  split_ifs at hrun
  · unfold restart at hrun
    rw [run_ite] at hrun
    split_ifs at hrun
    · cases hrun
    · cases hrun
  · cases hrun

/-- The loop ends, or meets the first service that is not in the plan. -/
theorem reload_port {restarting : Bool} (raised : Bool) (hnodup : names.Nodup)
    (h : List.Forall₂ (Shows s) names l)
    (hr : (Action.forEach (reloadService env restarting) names).run s =
      (if raised = true then .error .pebbleConnectionError else .ok (), t)) :
    (Port.reloadInstances restarting l).2 = raised ∧
      List.Forall₂ (Shows t) names (Port.reloadInstances restarting l).1 ∧
      (∀ name, name ∉ names → t.services.get? name = s.services.get? name) ∧
      ∀ name, (t.services.get? name).isSome = (s.services.get? name).isSome := by
  induction names generalizing s l with
  | nil =>
    cases h
    cases raised with
    | false =>
      cases hr
      exact ⟨rfl, .nil, fun _ _ => rfl, fun _ => rfl⟩
    | true => cases hr
  | cons name names ih =>
    obtain ⟨hname, hnames⟩ := List.nodup_cons.mp hnodup
    cases h with
    | @cons _ i _ l hi hl =>
      unfold Action.forEach at hr
      cases hplanned : i.planned with
      | false =>
        rw [run_bind_error (reloadService_missing hi hplanned)] at hr
        rw [reloadInstances_missing hplanned]
        cases raised with
        | false => cases hr
        | true =>
          cases hr
          exact ⟨rfl, .cons hi hl, fun _ _ => rfl, fun _ => rfl⟩
      | true =>
        rw [reloadInstances_planned hplanned]
        rcases hrun : (reloadService env restarting name).run s with ⟨e | _, u⟩
        · rw [run_bind_error hrun] at hr
          cases raised with
          | false => cases hr
          | true =>
            cases hr
            exact (reloadService_raises hi hplanned hrun).elim
        · rw [run_bind_ok hrun] at hr
          obtain ⟨hself, hother, hnames'⟩ := reloadService_port hi hplanned hrun
          have hl' : List.Forall₂ (Shows u) names l :=
            shows_congr hl fun name' hn => hother name' fun he => hname (he ▸ hn)
          obtain ⟨hraised, hshows, hrest, hrest'⟩ := ih hnames hl' hr
          refine ⟨hraised, .cons (hself.congr (hrest name hname)) hshows, fun name' hn => ?_,
            fun name' => (hrest' name').trans (hnames' name')⟩
          obtain ⟨hne, hnm⟩ := not_or.mp (mt List.mem_cons.mpr hn)
          rw [hrest name' hnm, hother name' hne]

/-- The unit of `Port` shows the services. -/
structure ShowsUnit (env : Env) (s : State) (p : Port.UnitState) : Prop where
  instances : List.Forall₂ (Shows s) (serviceNames env) p.instances
  defined : p.servicesDefined = true ↔ s.services.items ≠ []

variable {p : Port.UnitState}

/-- The health checks leave the instances alone. -/
theorem ShowsUnit.checked (h : ShowsUnit env s p) (hc : Checked s t) : ShowsUnit env t p where
  instances := shows_congr h.instances fun name hn => hc.services name fun he =>
    metricsService_not_mem (he ▸ hn)
  defined := h.defined.trans (not_congr (Dict.items_eq_nil_congr hc.names)).symm

theorem ShowsUnit.iniPort (h : ShowsUnit env s p) (port : ℕ) :
    ShowsUnit env s
      { p with instances := p.instances.map fun i => { i with iniPort := port } } where
  instances := List.forall₂_map_right_iff.mpr h.instances
  defined := h.defined

theorem shows_statusOnly (h : ShowsUnit env s p) (hs : StatusOnly s t) : ShowsUnit env t p :=
  h.checked hs.checked

/-- The end of `render_pgb_config`, where there are services. -/
theorem reloadAndCheck_port {restarting raised : Bool} (hv : ShowsUnit env s p)
    (hr : (do
        Action.forEach (reloadService env restarting) (serviceNames env)
        let _ ← checkPgbRunning env
        return () : Handler Unit).run s =
      (if raised = true then .error .pebbleConnectionError else .ok (), t)) :
    ShowsUnit env t { p with instances := (Port.reloadInstances restarting p.instances).1 } := by
  rcases hloop : (Action.forEach (reloadService env restarting) (serviceNames env)).run s
    with ⟨e | _, u⟩
  · rw [run_bind_error hloop] at hr
    cases raised with
    | false => cases hr
    | true =>
      cases hr
      obtain ⟨-, hshows, -, hnames⟩ := reload_port true (nodup_serviceNames env)
        hv.instances hloop
      exact ⟨hshows, hv.defined.trans (not_congr (Dict.items_eq_nil_congr hnames)).symm⟩
  · obtain ⟨-, hshows, -, hnames⟩ := reload_port false (nodup_serviceNames env)
      hv.instances hloop
    have hu : ShowsUnit env u { p with
        instances := (Port.reloadInstances restarting p.instances).1 } :=
      ⟨hshows, hv.defined.trans (not_congr (Dict.items_eq_nil_congr hnames)).symm⟩
    have hchecked : Checked u ((checkPgbRunning env).run u).2 :=
      checked_checkPgbRunning.state (.refl u)
    rw [run_bind_ok hloop] at hr
    have ht : t = ((checkPgbRunning env).run u).2 := by
      rw [← run_bind_pure_snd _ fun _ => (), hr]
    rw [ht]
    exact hu.checked hchecked

/-- `render_pgb_config`, where it returns or raises the error that is caught. -/
theorem render_port {h : Port.Hook} {restarting raised : Bool}
    (hvalid : h.configValid = (CharmConfig.build env.options).isSome)
    (hcan : h.canConnect = env.canConnect) (hv : ShowsUnit env s p) (port : ℕ)
    (hr : (renderPgbConfig env restarting).run s =
      (if raised = true then .error .pebbleConnectionError else .ok (), t)) :
    ShowsUnit env t (Port.renderPgbConfig h port restarting p).1 := by
  unfold Port.renderPgbConfig
  rw [hvalid, hcan]
  unfold renderPgbConfig at hr
  rcases hc : CharmConfig.build env.options with _ | c
  · rw [configurationCheck_invalid hc] at hr
    have ht : t = { s with status := .blocked configurationError } := (congrArg Prod.snd hr).symm
    rw [ht]
    exact shows_statusOnly hv ⟨_, rfl⟩
  · rw [configurationCheck_valid hc, run_pure_bind, run_when] at hr
    cases hconn : env.canConnect with
    | false =>
      rw [if_neg (by simp [hconn])] at hr
      have ht : t = s := (congrArg Prod.snd hr).symm
      rw [ht]
      exact hv
    | true =>
      rw [if_pos ⟨rfl, hconn⟩, config_valid hc, run_pure_bind, run_bind, run_when] at hr
      cases hfiles : env.filesOk with
      | false =>
        rw [if_pos hfiles] at hr
        cases raised <;> cases hr
      | true =>
        rw [if_neg (by simp [hfiles])] at hr
        have hrun : (Action.when (s.services.items ≠ []) (do
            Action.forEach (reloadService env restarting) (serviceNames env)
            let _ ← checkPgbRunning env
            return ())).run s =
              (if raised = true then .error .pebbleConnectionError else .ok (), t) := hr
        have hini := hv.iniPort port
        rw [run_when] at hrun
        obtain ⟨instances, defined, seenPort, handled⟩ := p
        cases defined with
        | true =>
          rw [if_pos (hv.defined.mp rfl)] at hrun
          exact reloadAndCheck_port hini hrun
        | false =>
          rw [if_neg (mt hv.defined.mpr Bool.false_ne_true)] at hrun
          have ht : t = s := (congrArg Prod.snd hrun).symm
          rw [ht]
          exact hini

/-! ## `config-changed` -/

theorem ShowsUnit.congr (h : ShowsUnit env s p) (hs : t.services = s.services) :
    ShowsUnit env t p where
  instances := shows_congr h.instances fun name _ => by rw [hs]
  defined := by rw [hs]; exact h.defined

/-- Rendering that is followed by the rest of the handler has returned, or its
    error has been caught. -/
theorem render_of_renderAndRecord {listenPort : ℕ} {leader portChanged : Bool}
    (hr : (renderAndRecord env listenPort leader portChanged).run s = (.ok (), t)) :
    ∃ raised u, (renderPgbConfig env portChanged).run s =
      (if raised = true then .error .pebbleConnectionError else .ok (), u) ∧
        t.services = u.services := by
  obtain ⟨_, v, hcaught, hrec⟩ := run_bind_eq_ok hr
  have hservices : t.services = v.services := by
    rcases run_when_eq_ok hrec with ⟨-, hwrite⟩ | ⟨-, rfl⟩
    · rcases hl : isLeader env v with _ | _
      · rw [writeApplication_follower hl] at hwrite
        cases hwrite
      · rw [writeApplication_leader hl] at hwrite
        cases hwrite
        rfl
    · rfl
  rw [run_tryCatch] at hcaught
  rcases hrun : (renderPgbConfig env portChanged).run s with ⟨e | _, u⟩
  · rw [hrun] at hcaught
    by_cases he : e = .pebbleConnectionError
    · subst he
      cases hcaught
      exact ⟨true, u, rfl, hservices⟩
    · simp only [if_neg he] at hcaught
      cases hcaught
  · rw [hrun] at hcaught
    cases hcaught
    exact ⟨false, v, rfl, hservices⟩

/-- The hook and the deployment of `Port` show those of the operator. -/
structure PortView (env : Env) (s : State) (h : Port.Hook) (w : Port.Deployment) : Prop where
  leader : decide (h.unit = w.leader) = isLeader env s
  ready : h.isContainerReady = isContainerReady env s
  canConnect : h.canConnect = env.canConnect
  configValid : h.configValid = (CharmConfig.build env.options).isSome
  reconcileOk : h.reconcileOk = reconciled env s
  listenPort : ∀ c, CharmConfig.build env.options = some c → w.listenPort = c.listenPort
  currentPort : w.readPort h.unit = s.currentPort
  unit : ShowsUnit env s (w.unit h.unit)

section ConfigChanged

variable {h : Port.Hook} {w : Port.Deployment}

theorem PortView.onConfigChanged_skipped (hv : PortView env s h w)
    (hno : reachesRender env s = false) : Port.onConfigChanged h w = w := by
  unfold Port.onConfigChanged
  rw [hv.ready, hv.configValid, hv.leader, hv.reconcileOk]
  unfold reachesRender at hno
  cases hready : isContainerReady env s with
  | false => rfl
  | true =>
    rw [hready, Bool.true_and] at hno
    cases hc : (CharmConfig.build env.options).isSome with
    | false => rfl
    | true =>
      cases hl : isLeader env s with
      | false =>
        rw [reconciled_follower hl hc] at hno
        cases hno
      | true =>
        rw [hno]
        rfl

/-- The unit behind `render_pgb_config`, and `current_port`. -/
theorem PortView.onConfigChanged_reached (hv : PortView env s h w) {c : CharmConfig}
    (hc : CharmConfig.build env.options = some c) (hyes : reachesRender env s = true) :
    ∃ handled, Port.onConfigChanged h w = { w with
      unit := Function.update w.unit h.unit { (Port.renderPgbConfig h c.listenPort (s.portChanged c)
        (w.unit h.unit)).1 with handled := handled }
      currentPort := if isLeader env s && s.portChanged c then some (str c.listenPort)
        else w.currentPort } := by
  obtain ⟨hready, hrec⟩ := Bool.and_eq_true_iff.mp hyes
  unfold Port.onConfigChanged
  rw [hv.ready, hv.configValid, hv.leader, hv.reconcileOk, hv.currentPort, hv.listenPort c hc,
    hready, hrec, hc]
  cases isLeader env s <;> exact ⟨_, rfl⟩

theorem seenPort_renderPgbConfig (h : Port.Hook) (port : ℕ) (restarting : Bool)
    (p : Port.UnitState) : (Port.renderPgbConfig h port restarting p).1.seenPort = p.seenPort := by
  unfold Port.renderPgbConfig
  split_ifs
  · rfl
  · dsimp only
    split_ifs <;> rfl

/-- `_on_config_changed`, where it returns. -/
theorem config_changed_port (hv : PortView env s h w)
    (hr : (onConfigChanged env).run s = (.ok (), t)) :
    ShowsUnit env t ((Port.onConfigChanged h w).unit h.unit) ∧
      (Port.onConfigChanged h w).readPort h.unit = t.currentPort := by
  rcases onConfigChanged_cases hr with ⟨hno, status, ht⟩ | ⟨c, u, v, hyes, -, hc, hs, hrec, ht⟩
  · rw [hv.onConfigChanged_skipped hno, ht]
    exact ⟨hv.unit.congr rfl, hv.currentPort⟩
  · obtain ⟨handled, hport⟩ := hv.onConfigChanged_reached hc hyes
    rw [hport]
    constructor
    · obtain ⟨raised, x, hrender, hservices⟩ := render_of_renderAndRecord hrec
      have hx := render_port hv.configValid hv.canConnect (shows_statusOnly hv.unit hs) c.listenPort
        hrender
      have hunit : ShowsUnit env x { (Port.renderPgbConfig h c.listenPort (s.portChanged c)
          (w.unit h.unit)).1 with handled := handled } := ⟨hx.instances, hx.defined⟩
      simp only [Function.update_self]
      exact (hunit.congr hservices).checked ht
    · have hold := hv.currentPort
      have hl := hv.leader
      rw [currentPort_onConfigChanged hc hr, hyes, Bool.true_and]
      unfold Port.Deployment.readPort at hold ⊢
      simp only [Function.update_self, seenPort_renderPgbConfig]
      rw [← hl]
      by_cases hu : h.unit = w.leader
      · rw [if_pos hu] at hold
        simp [hu, hold]
      · rw [if_neg hu] at hold
        simp [hu, hold]

end ConfigChanged

end PgBouncerK8s.Operator
