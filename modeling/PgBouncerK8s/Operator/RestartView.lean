import PgBouncerK8s.Lib.Correspondence
import PgBouncerK8s.Operator.ConfigChanged
import PgBouncerK8s.Workload.Restart

/-!
# The operator seen by the model of the restarts

`Restart` has its own `render_pgb_config`, `check_pgb_running` and
`_on_config_changed`, with processes that have ports and with a Pebble that
answers call by call; the Pebble of the operator refuses to restart single
services. Where neither happens, a handler of the one does to the plan what that
of the other does, and they raise the same errors.

* `render_restart`: `render_pgb_config` in the two models.
* `config_changed_restart`: `_on_config_changed`.
-/

namespace PgBouncerK8s.Operator

open PgBouncerK8s.Action
open Text (str)

variable {env : Env} {s : State} {t : Restart.State} {service : String}

/-! ## The view -/

/-- The error as `Restart` has it. -/
def Failure.toRestart : Failure → Restart.Failure
  | .pebbleConnectionError => .pebbleConnectionError
  | .changeError => .changeError
  | _ => .other

/-- The hook of `Restart` in this environment; its Pebble answers each call, or
    none where the container cannot be reached. -/
def Env.restartHook (env : Env) (s : State) (reconciled : Option Bool)
    (checksServices answered : Bool) : Restart.Hook where
  leader := isLeader env s
  config := CharmConfig.build env.options
  initialised := (unitDatabag env s).contains "container_initialised"
  cores := env.cores
  pebble := fun _ => if env.canConnect then .ok else .connectionError
  reconciled := reconciled
  backendReady := ready env s
  filesOk := env.filesOk
  checksServices := checksServices
  answered := answered

/-- The two plans have the same services, and the same ones are active. -/
def SamePlans (s : State) (t : Restart.State) : Prop :=
  ∀ name, (t.plan.get? name).map (fun p => p.active) =
    (s.services.get? name).map fun status => decide (status = .active)

/-- What both models have of the state is the same. -/
def SameState (s : State) (t : Restart.State) : Prop :=
  SamePlans s t ∧ t.currentPort = s.currentPort ∧ t.deferred = s.deferred

/-- Every service can be restarted. -/
def Restarts (env : Env) : Prop := ∀ service, env.restarts service = true

/-- What the hook knows of the state, and the state itself. -/
structure RestartView (env : Env) (hook : Restart.Hook) (s : State) (t : Restart.State) :
    Prop where
  leader : hook.leader = isLeader env s
  cores : hook.cores = env.cores
  config : hook.config = CharmConfig.build env.options
  pebble : hook.pebble = fun _ => if env.canConnect then .ok else .connectionError
  filesOk : hook.filesOk = env.filesOk
  backendReady : hook.backendReady = ready env s
  state : SameState s t

/-- The errors that the two models raise together. -/
def SameErrors (P : State → Restart.State → Prop) (e : Failure) (f : Restart.Failure) (s : State)
    (t : Restart.State) : Prop :=
  f = e.toRestart ∧ P s t

theorem RestartView.congr {hook : Restart.Hook} {s' : State} {t' : Restart.State}
    (h : RestartView env hook s t) (hs : s'.secrets = s.secrets) (ha : s'.app = s.app)
    (hst : SameState s' t') : RestartView env hook s' t' where
  leader := by
    rw [h.leader]
    unfold isLeader
    rw [ha]
  cores := h.cores
  config := h.config
  pebble := h.pebble
  filesOk := h.filesOk
  backendReady := by
    rw [h.backendReady]
    unfold ready postgres
    rw [hs]
  state := hst

theorem SamePlans.isSome (h : SamePlans s t) (name : String) :
    (t.plan.get? name).isSome = (s.services.get? name).isSome := by
  simpa using congrArg Option.isSome (h name)

theorem SamePlans.items (h : SamePlans s t) : s.services.items ≠ [] ↔ t.plan.items ≠ [] :=
  not_congr (Dict.items_eq_nil_congr fun name => (h.isSome name).symm)

/-- A service that has been restarted is active in both plans. -/
theorem SamePlans.restarted (h : SamePlans s t) (service : String) :
    SamePlans { s with services := s.services.modify service fun _ => .active }
      (t.restarted service) := by
  intro name
  have hname := h name
  simp only [Restart.State.restarted, Dict.get?_modify]
  by_cases hn : name = service
  · subst hn
    simp only [if_pos]
    cases ht : t.plan.get? name <;> cases hs : s.services.get? name <;> simp_all
  · simp only [if_neg hn, hname]

/-! ## Pebble -/

section Pebble

variable {hook : Restart.Hook}

/-- The number of calls is in no view. -/
theorem RestartView.calls (h : RestartView env hook s t) (n : ℕ) :
    RestartView env hook s { t with calls := n } :=
  h.congr rfl rfl h.state

theorem RestartView.call (h : RestartView env hook s t) (hc : env.canConnect = true) :
    (Restart.call hook).run t = (.ok (), { t with calls := t.calls + 1 }) := by
  unfold Restart.call Restart.answer
  rw [h.pebble, hc]
  rfl

theorem RestartView.canConnect (h : RestartView env hook s t) :
    (Restart.canConnect hook).run t = (.ok env.canConnect, { t with calls := t.calls + 1 }) := by
  unfold Restart.canConnect Restart.answer
  rw [h.pebble]
  cases env.canConnect <;> rfl

theorem RestartView.getServices (h : RestartView env hook s t) (hc : env.canConnect = true) :
    (Restart.getServices hook).run t = (.ok t.plan, { t with calls := t.calls + 1 }) := by
  unfold Restart.getServices
  rw [run_bind_ok (h.call hc)]
  rfl

theorem RestartView.restart (h : RestartView env hook s t) (hc : env.canConnect = true)
    (hr : Restarts env) (service : String) :
    ∃ s' t', (restart env service).run s = (.ok (), s') ∧
      (Restart.restart hook service).run t = (.ok (), t') ∧ RestartView env hook s' t' ∧
        ∀ name, name ≠ service → t'.plan.get? name = t.plan.get? name := by
  refine ⟨{ s with services := s.services.modify service fun _ => .active },
    { t with calls := t.calls + 1 }.restarted service, ?_, ?_, ?_, ?_⟩
  · unfold Operator.restart
    rw [if_pos (hr service)]
    rfl
  · unfold Restart.restart
    rw [run_bind_ok (h.call hc)]
    rfl
  · have hcalls : SameState s { t with calls := t.calls + 1 } := h.state
    exact h.congr rfl rfl ⟨hcalls.1.restarted service, h.state.2⟩
  · intro name hn
    simp only [Restart.State.restarted, Dict.get?_modify, if_neg hn]

theorem RestartView.serviceNames (h : RestartView env hook s t) :
    Restart.serviceNames hook = Operator.serviceNames env := by
  unfold Restart.serviceNames Operator.serviceNames
  rw [h.cores]

/-- In the loop of `render_pgb_config`, the services that are still to come are
    as in the plan that was read before it. -/
structure Reloading (env : Env) (hook : Restart.Hook) (plan : Dict String Restart.Process)
    (names : List String) (s : State) (t : Restart.State) : Prop where
  nodup : names.Nodup
  view : RestartView env hook s t
  unread : ∀ name ∈ names, t.plan.get? name = plan.get? name

theorem reloadService_restart {plan : Dict String Restart.Process} (hc : env.canConnect = true)
    (hr : Restarts env) (restarting : Bool) (service : String) (names : List String) :
    Corresponds (Reloading env hook plan (service :: names)) (reloadService env restarting service)
      (Restart.reloadService hook plan restarting service)
      (fun _ _ => Reloading env hook plan names) (SameErrors (RestartView env hook)) := by
  rintro s t ⟨hnodup, hv, hunread⟩
  obtain ⟨hservice, hnames⟩ := List.nodup_cons.mp hnodup
  have hrest : ∀ t' : Restart.State, (∀ name, name ≠ service → t'.plan.get? name =
      t.plan.get? name) → ∀ name ∈ names, t'.plan.get? name = plan.get? name := by
    intro t' ht' name hn
    rw [ht' name fun he => hservice (he ▸ hn)]
    exact hunread name (List.mem_cons_of_mem _ hn)
  have hsame := hv.state.1 service
  unfold reloadService Restart.reloadService
  rw [run_get_bind, ← hunread service List.mem_cons_self]
  cases hs : s.services.get? service with
  | none =>
    rw [hs, Option.map_none, Option.map_eq_none_iff] at hsame
    rw [hsame]
    exact ⟨rfl, hv⟩
  | some status =>
    rw [hs, Option.map_some, Option.map_eq_some_iff] at hsame
    obtain ⟨p, hp, hactive⟩ := hsame
    rw [hp]
    have hiff : (restarting || !p.active) = true ↔ restarting = true ∨ status ≠ .active := by
      simp [hactive]
    simp only [run_when, run_ite]
    by_cases hre : restarting = true ∨ status ≠ .active
    · obtain ⟨s', t', hrun, hrun', hv', hother⟩ := hv.restart hc hr service
      rw [if_pos hre, if_pos (hiff.mpr hre), hrun, hrun']
      exact ⟨hnames, hv', hrest t' hother⟩
    · rw [if_neg hre, if_neg (mt hiff.mp hre), Restart.sendSignal, hv.call hc]
      exact ⟨hnames, hv.calls _, hrest _ fun _ _ => rfl⟩

/-- In the loop of `check_pgb_running` the plan has the services that it had
    before the loop. -/
structure Checking (env : Env) (hook : Restart.Hook) (plan : Dict String Restart.Process)
    (s : State) (t : Restart.State) : Prop where
  view : RestartView env hook s t
  contains : ∀ name, plan.contains name = (t.plan.get? name).isSome

theorem checkServices_restart {plan : Dict String Restart.Process} (hc : env.canConnect = true)
    (hr : Restarts env) (names : List String) :
    Corresponds (Checking env hook plan) (checkServices env names)
      (Restart.checkServices hook plan names) (fun b b' s t => b' = b ∧ RestartView env hook s t)
      fun e f s t => e = .pebbleConnectionError ∧ SameErrors (RestartView env hook) e f s t := by
  induction names with
  | nil => exact fun s t h => ⟨rfl, h.view⟩
  | cons service names ih =>
    rintro s t ⟨hv, hcontains⟩
    have hsame := hv.state.1 service
    unfold checkServices Restart.checkServices
    rw [run_get_bind, run_ite, hcontains service]
    cases hs : s.services.get? service with
    | none =>
      rw [hs, Option.map_none, Option.map_eq_none_iff] at hsame
      rw [hsame]
      exact ⟨rfl, rfl, hv⟩
    | some status =>
      rw [hs, Option.map_some, Option.map_eq_some_iff] at hsame
      obtain ⟨p, hp, hactive⟩ := hsame
      have hplan : (Restart.getServices hook).run t =
          (.ok t.plan, { t with calls := t.calls + 1 }) := hv.getServices hc
      rw [hp, if_neg (by simp), run_bind_ok hplan, hp]
      by_cases ha : status = .active
      · simp only [hactive, ha, decide_true, if_true]
        exact ih s _ ⟨hv.calls _, hcontains⟩
      · have hinactive : p.active = false := by simp [hactive, ha]
        simp only [hinactive, if_neg ha, Bool.false_eq_true, if_false]
        obtain ⟨u, hreport, hu⟩ : ∃ u, (Action.when
            (s.status.message ≠ DbProvides.extensionsBlockingMessage)
            (setStatus (.blocked (pgbNotRunning service status)))).run s = (.ok (), u) ∧
            RestartView env hook u t := by
          rw [run_when]
          split_ifs
          · exact ⟨_, rfl, hv.congr rfl rfl hv.state⟩
          · exact ⟨_, rfl, hv⟩
        rw [run_bind_ok hreport]
        obtain ⟨u', t', hrun, hrun', hu', -⟩ := (hu.calls (t.calls + 1)).restart hc hr service
        by_cases hm : service = metricsService
        · have hrestart : (Action.when (service = metricsService ∧ env.restarts service = true)
              (restart env service)).run u = (.ok (), u') := by
            rw [run_when, if_pos ⟨hm, hr service⟩, hrun]
          have hcaught : (Action.when (service = Restart.metricsService)
              (Action.tryCatch (Restart.restart hook service) fun e =>
                if e = .changeError then Pure.pure () else Action.fail e)).run
              { t with calls := t.calls + 1 } = (.ok (), t') := by
            rw [run_when, if_pos (show service = Restart.metricsService from hm), run_tryCatch,
              hrun']
          rw [run_bind_ok hrestart, run_bind_ok hcaught]
          exact ⟨rfl, hu'⟩
        · have hskip : (Action.when (service = metricsService ∧ env.restarts service = true)
              (restart env service)).run u = (.ok (), u) := by
            rw [run_when, if_neg fun h => hm h.1]
          have hskip' : (Action.when (service = Restart.metricsService)
              (Action.tryCatch (Restart.restart hook service) fun e =>
                if e = .changeError then Pure.pure () else Action.fail e)).run
              { t with calls := t.calls + 1 } = (.ok (), { t with calls := t.calls + 1 }) := by
            rw [run_when, if_neg (show service ≠ Restart.metricsService from hm)]
          rw [run_bind_ok hskip, run_bind_ok hskip']
          exact ⟨rfl, hu.calls _⟩

theorem checkPgbRunning_restart (hr : Restarts env) :
    Corresponds (RestartView env hook) (checkPgbRunning env) (Restart.checkPgbRunning hook)
      (fun b b' s t => b' = b ∧ RestartView env hook s t)
      fun e f s t => e = .pebbleConnectionError ∧ SameErrors (RestartView env hook) e f s t := by
  intro s t hv
  unfold checkPgbRunning Restart.checkPgbRunning
  rw [run_get_bind, run_ite, run_bind_ok hv.canConnect, run_ite]
  cases hc : env.canConnect with
  | false =>
    simp only [Bool.false_eq_true, if_false]
    rw [run_bind, run_when]
    split_ifs
    · exact ⟨rfl, (hv.calls (t.calls + 1)).congr rfl rfl hv.state⟩
    · exact ⟨rfl, hv.calls _⟩
  | true =>
    have hcalls := hv.calls (t.calls + 1)
    simp only [if_true]
    rw [run_bind_ok (hcalls.getServices hc)]
    have hnames : Restart.serviceNames hook ++
        (if hook.backendReady = true then [Restart.metricsService] else []) =
        serviceNames env ++ if ready env s = true then [metricsService] else [] := by
      rw [hv.backendReady, hv.serviceNames]
      rfl
    rw [hnames]
    exact checkServices_restart hc hr _ s _ ⟨hcalls.calls _, fun _ => rfl⟩

/-! ## `render_pgb_config` -/

theorem pushIni_restart (hc : env.canConnect = true) (listenPort : ℕ) (names : List String)
    (hv : RestartView env hook s t) :
    ∃ t', (Action.forEach (Restart.pushIni hook listenPort) names).run t = (.ok (), t') ∧
      RestartView env hook s t' := by
  induction names generalizing t with
  | nil => exact ⟨t, rfl, hv⟩
  | cons name names ih =>
    obtain ⟨t', ht', hv'⟩ : ∃ t', (Restart.pushIni hook listenPort name).run t = (.ok (), t') ∧
        RestartView env hook s t' := by
      unfold Restart.pushIni
      rw [run_bind_ok hv.canConnect, run_when, if_pos hc,
        run_bind_ok ((hv.calls (t.calls + 1)).call hc)]
      exact ⟨_, rfl, hv.congr rfl rfl hv.state⟩
    obtain ⟨t'', ht'', hv''⟩ := ih hv'
    exact ⟨t'', (run_bind_ok ht' _).trans ht'', hv''⟩

/-- `render_pgb_config` in the two models. -/
theorem render_restart (hr : Restarts env) (restarting : Bool) :
    Corresponds (RestartView env hook) (renderPgbConfig env restarting)
      (Restart.renderPgbConfig hook restarting) (fun _ _ => RestartView env hook)
      (SameErrors (RestartView env hook)) := by
  intro s t hv
  unfold renderPgbConfig Restart.renderPgbConfig
  rw [hv.config]
  cases hcfg : CharmConfig.build env.options with
  | none =>
    rw [configurationCheck_invalid hcfg]
    exact hv.congr rfl rfl hv.state
  | some c =>
    simp only
    rw [configurationCheck_valid hcfg, run_pure_bind, run_when, run_bind_ok hv.canConnect, run_when]
    cases hc : env.canConnect with
    | false =>
      simp only [Bool.false_eq_true, and_false, if_false]
      exact hv.calls _
    | true =>
      simp only [and_self, if_true]
      rw [config_valid hcfg, run_pure_bind, run_bind, run_bind, run_when, run_when, hv.filesOk]
      cases env.filesOk with
      | false => exact ⟨rfl, hv.calls _⟩
      | true =>
        simp only [Bool.true_eq_false, if_false]
        obtain ⟨t', ht', hv'⟩ := pushIni_restart hc c.listenPort (Restart.serviceNames hook)
          (hv.calls (t.calls + 1))
        rw [run_bind_ok ht', run_bind_ok (hv'.getServices hc), run_get_bind]
        refine Corresponds.when (P := Reloading env hook t'.plan (serviceNames env))
          (fun _ _ _ => hv'.state.1.items) (fun _ _ => ?_) (fun _ _ h _ => h.view) s _ ?_
        · rw [hv.serviceNames]
          refine Corresponds.bind (Corresponds.forEach (reloadService_restart hc hr restarting) _)
            fun _ _ => Corresponds.bind (Q := fun _ _ => RestartView env hook) ?_
              fun _ _ _ _ h => h
          refine (checkPgbRunning_restart hr).conseq (fun _ _ h => h.view) (fun _ _ _ _ h => h.2)
            fun _ _ _ _ h => h.2
        · exact ⟨nodup_serviceNames env, hv'.calls _, fun _ _ => rfl⟩

end Pebble

/-! ## `config-changed` -/

/-- Both hooks return, or both fail, and the plans, `current_port` and the
    deferral are the same behind them. -/
def RestartOutcome (r : Except Failure Unit × State)
    (r' : Except Restart.Failure Unit × Restart.State) : Prop :=
  (r.1 = .ok () ↔ r'.1 = .ok ()) ∧ SameState r.2 r'.2

theorem SameState.statusOnly {s' : State} (h : SameState s t) (hs : StatusOnly s s') :
    SameState s' t := by
  obtain ⟨_, rfl⟩ := hs
  exact h

section ConfigChanged

variable {hook : Restart.Hook} {c : CharmConfig}

/-- The part of `update_status` that `Restart` has. -/
def restartStatus (hook : Restart.Hook) : Restart.Handler Unit :=
  Action.when (hook.checksServices = true)
    (Action.tryCatch (Restart.checkPgbRunning hook >>= fun _ => Pure.pure ()) fun e =>
      if e = .pebbleConnectionError then Pure.pure () else Action.fail e)

theorem updateRunning_restart (hr : Restarts env) (hv : RestartView env hook s t)
    (hchecks : hook.checksServices = true) :
    ∃ t', (restartStatus hook).run t = (.ok (), t') ∧
      SameState ((updateRunning env).run s).2 t' := by
  have hboth : Corresponds (RestartView env hook) (updateRunning env) (restartStatus hook)
      (fun _ _ => SameState) fun _ _ _ _ => False := by
    unfold restartStatus
    rw [Action.when, if_pos hchecks]
    refine Corresponds.tryCatch ((checkPgbRunning_restart hr).bind fun b b' => ?_) fun e f => ?_
    · rintro u t' ⟨-, hu⟩
      rw [run_when]
      split_ifs
      · exact hu.state
      · exact hu.state
    · rintro u t' ⟨rfl, rfl, hu⟩
      exact hu.state
  have h := hboth s t hv
  rcases hru : (updateRunning env).run s with ⟨e | _, u⟩
  · rw [hru] at h
    rcases hrt : (restartStatus hook).run t with ⟨f | _, t'⟩
    · rw [hrt] at h
      exact h.elim
    · rw [hrt] at h
      exact h.elim
  · obtain ⟨_, t', hrt, hsame⟩ := hboth.exists_ok hv hru
    exact ⟨t', hrt, hsame⟩

/-- The flag is chosen for what `update_status` does. -/
theorem updateStatus_restart (hr : Restarts env) (hc : CharmConfig.build env.options = some c)
    (s : State) : ∃ checks : Bool, ∀ hook t, RestartView env hook s t →
      hook.checksServices = checks → ∃ t', (restartStatus hook).run t = (.ok (), t') ∧
        SameState ((updateStatus env).run s).2 t' := by
  rcases updateStatus_cases hc s with hrun | hstatus
  · refine ⟨true, fun hook t hv hchecks => ?_⟩
    rw [hrun]
    exact updateRunning_restart hr hv hchecks
  · refine ⟨false, fun hook t hv hchecks => ⟨t, ?_, hv.state.statusOnly hstatus⟩⟩
    unfold restartStatus
    rw [run_when, if_neg (by simp [hchecks])]

theorem afterwards_run {t' : Restart.State} (h : (restartStatus hook).run t = (.ok (), t')) :
    (Restart.afterwards hook).run t =
      (if hook.answered = true then .ok () else .error .other, t') := by
  refine (run_bind_ok h _).trans ?_
  rw [run_when]
  cases hook.answered <;> rfl

/-- The flags are chosen for what `update_status` and the connection information
    do. -/
theorem afterwards_restart (hr : Restarts env) (hc : CharmConfig.build env.options = some c)
    (s : State) : ∃ checks answered : Bool, ∀ hook t, RestartView env hook s t →
      hook.checksServices = checks → hook.answered = answered →
        RestartOutcome ((updateStatus env >>= fun _ => publishConnections env).run s)
          ((Restart.afterwards hook).run t) := by
  obtain ⟨checks, hchecks⟩ := updateStatus_restart hr hc s
  have hbehind := statusOnly_behind hc s
  rcases hrun : (updateStatus env >>= fun _ => publishConnections env).run s with ⟨e | _, u⟩
  · refine ⟨checks, false, fun hook t hv hc' ha => ?_⟩
    obtain ⟨t', ht', hsame⟩ := hchecks hook t hv hc'
    rw [afterwards_run ht', ha]
    rw [hrun] at hbehind
    exact ⟨by simp, hsame.statusOnly hbehind⟩
  · refine ⟨checks, true, fun hook t hv hc' ha => ?_⟩
    obtain ⟨t', ht', hsame⟩ := hchecks hook t hv hc'
    rw [afterwards_run ht', ha]
    rw [hrun] at hbehind
    exact ⟨by simp, hsame.statusOnly hbehind⟩

/-- `renderAndRecord` of `Restart`, for a container that is ready. -/
def restartRecord (hook : Restart.Hook) (portChanged : Bool) : Restart.Handler Unit := do
  Action.tryCatch (Restart.renderPgbConfig hook portChanged) fun e =>
    if e = .pebbleConnectionError then Action.modify fun s => { s with deferred := true }
    else Action.fail e
  Restart.recordPort hook portChanged

theorem restart_renderAndRecord_run (hook : Restart.Hook) (portChanged : Bool)
    (t : Restart.State) : (Restart.renderAndRecord hook portChanged true).run t =
      (restartRecord hook portChanged >>= fun _ => Restart.afterwards hook).run t := by
  unfold Restart.renderAndRecord restartRecord
  rw [← run_bind_assoc, Action.when, if_pos rfl]

theorem renderAndRecord_restart (hook : Restart.Hook) (hr : Restarts env)
    (hc : CharmConfig.build env.options = some c)
    (leader portChanged : Bool) (hl : hook.leader = leader) :
    Corresponds (RestartView env hook) (renderAndRecord env c.listenPort leader portChanged)
      (restartRecord hook portChanged) (fun _ _ => RestartView env hook)
      (SameErrors (RestartView env hook)) := by
  refine Corresponds.bind (Corresponds.tryCatch (render_restart hr portChanged) fun e f => ?_)
    fun _ _ => ?_
  · rintro u t ⟨rfl, hu⟩
    have hiff : e = .pebbleConnectionError ↔ e.toRestart = .pebbleConnectionError := by
      cases e <;> simp [Failure.toRestart]
    rw [run_ite, run_ite]
    by_cases he : e = .pebbleConnectionError
    · rw [if_pos he, if_pos (hiff.mp he)]
      exact hu.congr rfl rfl ⟨hu.state.1, hu.state.2.1, rfl⟩
    · rw [if_neg he, if_neg (mt hiff.mpr he)]
      exact ⟨rfl, hu⟩
  · intro u t hu
    unfold Restart.recordPort
    rw [hu.config, hc]
    simp only
    rw [run_when, run_when, hl]
    by_cases hrec : leader = true ∧ portChanged = true
    · have hul : isLeader env u = true := by rw [← hu.leader, hl, hrec.1]
      rw [if_pos hrec, if_pos hrec, writeApplication_leader hul]
      exact hu.congr rfl rfl ⟨hu.state.1, rfl, hu.state.2.2⟩
    · rw [if_neg hrec, if_neg hrec]
      exact hu

theorem isContainerReady_restart (env : Env) (h : SameState s t) (reconciled : Option Bool)
    (checks answered : Bool) :
    (Restart.isContainerReady (env.restartHook s reconciled checks answered)).run t =
      (.ok (isContainerReady env s), { t with calls := t.calls + 1 }) := by
  have hv : RestartView env (env.restartHook s reconciled checks answered) s t :=
    ⟨rfl, rfl, rfl, rfl, rfl, rfl, h⟩
  exact run_bind_ok hv.canConnect _

/-- Up to `render_pgb_config`, with what `reconcile_k8s_service` returns. -/
theorem beforeRender_restart (hready : isContainerReady env s = true)
    (hc : CharmConfig.build env.options = some c) (h : SameState s t) {reconciled : Option Bool}
    (hfollower : isLeader env s = false → reconciled = some true) (checks answered : Bool) :
    (Restart.beforeRender (env.restartHook s reconciled checks answered)).run t =
      match reconciled with
      | none => (.error .other, { t with calls := t.calls + 1 })
      | some false => (.ok none, { t with calls := t.calls + 1 })
      | some true => (.ok (some (s.portChanged c, true)), { t with calls := t.calls + 1 + 1 }) := by
  have hreconciled : (if isLeader env s = true then reconciled else some true) = reconciled := by
    cases hl : isLeader env s with
    | false => exact (hfollower hl).symm
    | true => rfl
  have hchanged : decide (t.currentPort ≠ some (str c.listenPort)) = s.portChanged c := by
    rw [h.2.1]
    rfl
  rw [Restart.beforeRender, run_bind_ok (isContainerReady_restart env h _ _ _), hready, if_pos rfl]
  simp only [Env.restartHook, hc]
  rw [run_get_bind, hreconciled]
  simp only [hchanged]
  rcases reconciled with _ | _ | _
  · rfl
  · rfl
  · have hsecond := isContainerReady_restart (t := { t with calls := t.calls + 1 }) env h
      (some true) checks answered
    refine (run_bind_ok hsecond _).trans ?_
    rw [hready]
    rfl

/-- From `render_pgb_config` on. -/
theorem applyConfig_restart (hr : Restarts env) (hc : CharmConfig.build env.options = some c)
    (h : SameState s t) (hready : isContainerReady env s = true) {u : State}
    (hs : StatusOnly s u) :
    ∃ checks answered, RestartOutcome ((applyConfig env c.listenPort (s.portChanged c)).run u)
      ((Restart.renderAndRecord (env.restartHook s (some true) checks answered) (s.portChanged c)
        true).run { t with calls := t.calls + 1 + 1 }) := by
  have hview : ∀ checks answered, RestartView env (env.restartHook s (some true) checks answered) u
      { t with calls := t.calls + 1 + 1 } := by
    obtain ⟨_, rfl⟩ := hs
    exact fun _ _ => ⟨rfl, rfl, rfl, rfl, rfl, rfl, h⟩
  have hleader : isLeader env u = isLeader env s := by
    obtain ⟨_, rfl⟩ := hs
    rfl
  have hready' : isContainerReady env u = true := by
    obtain ⟨_, rfl⟩ := hs
    exact hready
  have hrecord := fun checks answered =>
    renderAndRecord_restart (env.restartHook s (some true) checks answered) hr hc
      (isLeader env s) (s.portChanged c) rfl
  rw [applyConfig_run hready', hleader]
  rcases hp : (renderAndRecord env c.listenPort (isLeader env s) (s.portChanged c)).run u
    with ⟨e | _, v⟩
  · obtain ⟨f, t', ht', -, hv⟩ := (hrecord false false).exists_error (hview false false) hp
    refine ⟨false, false, ?_⟩
    rw [restart_renderAndRecord_run, run_bind_error ht', run_bind_error hp]
    exact ⟨by simp, hv.state⟩
  · obtain ⟨checks, answered, hboth⟩ := afterwards_restart hr hc v
    obtain ⟨_, t', ht', hv⟩ := (hrecord checks answered).exists_ok (hview checks answered) hp
    refine ⟨checks, answered, ?_⟩
    rw [restart_renderAndRecord_run, run_bind_ok ht', run_bind_ok hp]
    exact hboth _ _ hv rfl rfl

/-- `_on_config_changed` in the two models: for what Kubernetes and PostgreSQL
    answer the one, there are answers for the other. -/
theorem config_changed_restart (hr : Restarts env) (h : SameState s t) :
    ∃ reconciled checks answered, RestartOutcome ((onConfigChanged env).run s)
      ((Restart.onConfigChanged (env.restartHook s reconciled checks answered)).run t) := by
  rw [onConfigChanged_run]
  by_cases hready : isContainerReady env s = true
  · rw [if_pos hready]
    rcases hc : CharmConfig.build env.options with _ | c
    · refine ⟨none, false, false, ?_⟩
      rw [Restart.onConfigChanged, Restart.beforeRender, run_bind,
        run_bind_ok (isContainerReady_restart env h _ _ _), hready, if_pos rfl, Env.restartHook, hc]
      exact ⟨by simp, h⟩
    · simp only
      have hkeeps := statusOnly_reconcile (s := s) hc (isLeader env s) (s.portChanged c)
      rcases hrec : (reconcile env (isLeader env s) (s.portChanged c)).run s with ⟨e | b, u⟩
      · have hu : SameState u t := h.statusOnly (hkeeps.error (.refl s) hrec).2
        have hleader : isLeader env s = false → (none : Option Bool) = some true := by
          intro hl
          rw [hl] at hrec
          cases hrec
        refine ⟨none, false, false, ?_⟩
        rw [Restart.onConfigChanged,
          run_bind_error (beforeRender_restart hready hc h hleader false false)]
        exact ⟨by simp, hu⟩
      · have hs : StatusOnly s u := hkeeps.ok (.refl s) hrec
        have hleader : isLeader env s = false → some b = some true := by
          intro hl
          rw [hl] at hrec
          cases hrec
          rfl
        cases b with
        | false =>
          refine ⟨some false, false, false, ?_⟩
          rw [Restart.onConfigChanged,
            run_bind_ok (beforeRender_restart hready hc h hleader false false)]
          exact ⟨by simp, h.statusOnly hs⟩
        | true =>
          obtain ⟨checks, answered, hboth⟩ := applyConfig_restart hr hc h hready hs
          refine ⟨some true, checks, answered, ?_⟩
          rw [Restart.onConfigChanged,
            run_bind_ok (beforeRender_restart hready hc h hleader checks answered)]
          exact hboth
  · refine ⟨none, false, false, ?_⟩
    rw [if_neg hready, Restart.onConfigChanged, Restart.beforeRender, run_bind,
      run_bind_ok (isContainerReady_restart env h _ _ _), if_neg hready]
    exact ⟨by simp, h.1, h.2.1, rfl⟩

end ConfigChanged

end PgBouncerK8s.Operator
