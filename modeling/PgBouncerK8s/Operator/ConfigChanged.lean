import PgBouncerK8s.Operator.Errors

/-!
# What `config-changed` does

`_on_config_changed` (`charm.py`, lines 372–405) in parts: the checks up to
`render_pgb_config`, the rendering, `current_port`, and behind it `update_status`
and the connection information, which set the status of the unit and change
nothing else but for the services that `check_pgb_running` restarts.

* `onConfigChanged_run`: the parts in order.
* `updateStatus_cases`: `update_status` gets to `check_pgb_running`, or sets the
  status at most.
-/

namespace PgBouncerK8s.Operator

open PgBouncerK8s.Action
open Text (str)

variable {env : Env} {s t : State} {c : CharmConfig}

/-- Only the status may differ. -/
def StatusOnly (s t : State) : Prop := ∃ status, t = { s with status := status }

theorem StatusOnly.refl (s : State) : StatusOnly s s := ⟨s.status, rfl⟩

theorem StatusOnly.set (h : StatusOnly s t) (status : Status) :
    StatusOnly s { t with status := status } := by
  obtain ⟨_, rfl⟩ := h
  exact ⟨status, rfl⟩

theorem within_set_status {status : Status} :
    Within (StatusOnly s) AnyError (setStatus status) :=
  .modify fun _ h => h.set status

/-! ## The connection information -/

theorem statusOnly_db_connection (hc : CharmConfig.build env.options = some c) (r : Relation) :
    Within (StatusOnly s) AnyError (DbProvides.updateConnectionInfo env r) := by
  unfold DbProvides.updateConnectionInfo
  rw [configurationCheck_valid hc]
  apply Within.bind (.pure true)
  intro _
  apply Within.when
  intro _
  apply Within.when
  intro _
  exact .bind (within_getHostsPorts ordinary_anyError (.inl (by rw [hc]; rfl))) fun _ => .pure ()

theorem statusOnly_connection (hc : CharmConfig.build env.options = some c) (rid : RelId)
    (r : Relation) :
    Within (StatusOnly s) AnyError (PgBouncerProvider.updateConnectionInfo env rid r) := by
  unfold PgBouncerProvider.updateConnectionInfo
  apply Within.get_bind
  intro _ _
  apply Within.when
  intro _
  rw [configurationCheck_valid hc]
  apply Within.bind (.pure true)
  intro _
  apply Within.when
  intro _
  apply Within.bind (within_updateEndpoints ordinary_anyError (.inl (by rw [hc]; rfl)) _)
  intro _
  apply Within.when
  intro _
  unfold checkBackend
  apply Within.bind
  · apply Within.get_bind
    intro _ _
    exact .ite (fun _ => .pure true) fun _ => .bind within_set_status fun _ => .pure false
  · exact fun _ => .when fun _ => .fail trivial

theorem statusOnly_clients (hc : CharmConfig.build env.options = some c) :
    Within (StatusOnly s) AnyError (updateClientConnectionInfo env) := by
  unfold updateClientConnectionInfo
  rw [config_valid hc]
  apply Within.get_bind
  intro _ _
  apply Within.when
  intro _
  apply Within.bind (.pure c)
  intro _
  apply Within.bind (.forEach fun p _ => statusOnly_db_connection hc p.2)
  intro _
  apply Within.bind (.forEach fun p _ => statusOnly_db_connection hc p.2)
  intro _
  exact .forEach fun p _ => statusOnly_connection hc p.1 p.2

/-- The end of `_on_config_changed` (`charm.py`, lines 404–405). -/
def publishConnections (env : Env) : Handler Unit := do
  let s ← Action.get
  Action.when (isLeader env s = true ∧ postgres env s = true) do
    let connectable ← checkServiceConnectivity env
    Action.when (connectable = true) (updateClientConnectionInfo env)

theorem statusOnly_publish (hc : CharmConfig.build env.options = some c) :
    Within (StatusOnly s) AnyError (publishConnections env) := by
  apply Within.get_bind
  intro _ _
  apply Within.when
  intro _
  apply Within.bind (within_checkServiceConnectivity ordinary_anyError (.inl (by rw [hc]; rfl)))
  exact fun _ => .when fun _ => statusOnly_clients hc

/-! ## The status -/

/-- `update_status` gets to `check_pgb_running`, or sets the status at most. -/
theorem updateStatus_cases (hc : CharmConfig.build env.options = some c) (s : State) :
    (updateStatus env).run s = (updateRunning env).run s ∨
      StatusOnly s ((updateStatus env).run s).2 := by
  unfold updateStatus
  rw [run_get_bind, run_when]
  split_ifs with hsticky
  · exact .inr (.refl s)
  · rw [configurationCheck_valid hc, run_pure_bind, run_when, if_pos rfl, run_get_bind, run_ite]
    by_cases hbackend : (!postgres env s) = true
    · rw [if_pos hbackend]
      exact .inr ⟨_, rfl⟩
    rw [if_neg hbackend, run_ite]
    by_cases hready : (!ready env s) = true
    · rw [if_pos hready]
      exact .inr ⟨_, rfl⟩
    rw [if_neg hready]
    have hread : Within (fun t => t = s) AnyError
        (if isLeader env s = true then checkServiceConnectivity env else pure true) :=
      .ite (fun _ => within_checkServiceConnectivity ordinary_anyError (.inl (by rw [hc]; rfl)))
        fun _ => .pure true
    rcases hr : (if isLeader env s = true then checkServiceConnectivity env
        else pure true).run s with ⟨e | connectable, t⟩
    · obtain rfl : t = s := (hread.error rfl hr).2
      rw [run_bind_error hr]
      exact .inr (.refl t)
    · obtain rfl : t = s := hread.ok rfl hr
      rw [run_bind_ok hr, run_ite]
      split_ifs
      · exact .inl rfl
      · rw [run_when]
        split_ifs
        · exact .inr ⟨_, rfl⟩
        · exact .inr (.refl t)

/-- Behind `update_status` the status may change. -/
theorem statusOnly_behind (hc : CharmConfig.build env.options = some c) (s : State) :
    StatusOnly ((updateStatus env).run s).2
      ((updateStatus env >>= fun _ => publishConnections env).run s).2 := by
  rcases hrun : (updateStatus env).run s with ⟨e | _, u⟩
  · rw [run_bind_error hrun]
    exact .refl u
  · rw [run_bind_ok hrun]
    exact (statusOnly_publish hc).state (.refl u)

/-! ## The handler -/

/-- `port_changed` (`charm.py`, lines 387–388). -/
def State.portChanged (s : State) (c : CharmConfig) : Bool :=
  s.currentPort ≠ some (str c.listenPort)

/-- The leader calls `reconcile_k8s_service` (`charm.py`, lines 389–391). -/
def reconcile (env : Env) (leader portChanged : Bool) : Handler Bool :=
  if leader then reconcileK8sService env portChanged else pure true

theorem statusOnly_reconcile (hc : CharmConfig.build env.options = some c)
    (leader portChanged : Bool) :
    Within (StatusOnly s) AnyError (reconcile env leader portChanged) := by
  unfold reconcile reconcileK8sService
  apply Within.ite
  · intro _
    rw [config_valid hc]
    apply Within.bind (.pure c)
    intro _
    apply Within.bind (within_getService ordinary_anyError)
    intro exists_
    apply Within.ite
    · exact fun _ => .pure true
    intro _
    cases env.applied with
    | failed => exact .fail trivial
    | forbidden => exact .get_bind fun _ _ => .bind within_set_status fun _ => .pure false
    | applied =>
      exact .get_bind fun _ _ => .bind (.when fun _ => within_set_status) fun _ => .pure true
  · exact fun _ => .pure true

/-- `_on_config_changed` reaches `render_pgb_config`. -/
theorem onConfigChanged_run (env : Env) (s : State) :
    (onConfigChanged env).run s =
      if isContainerReady env s = true then
        match CharmConfig.build env.options with
        | none => (.ok (), { s with status := .blocked configurationError })
        | some c =>
          match (reconcile env (isLeader env s) (s.portChanged c)).run s with
          | (.error e, t) => (.error e, t)
          | (.ok false, t) => (.ok (), t)
          | (.ok true, t) => (applyConfig env c.listenPort (s.portChanged c)).run t
      else (.ok (), { s with deferred := true }) := by
  unfold onConfigChanged
  rw [run_get_bind, run_ite]
  by_cases hready : isContainerReady env s = true
  · rw [if_pos hready, if_pos hready]
    cases hc : CharmConfig.build env.options with
    | none =>
      rw [configurationCheck_invalid hc]
      rfl
    | some c =>
      rw [configurationCheck_valid hc, run_pure_bind, run_when, if_pos rfl, config_valid hc,
        run_pure_bind]
      rcases hr : (reconcile env (isLeader env s) (s.portChanged c)).run s with ⟨e | b, t⟩
      · simp only [hr]
        exact run_bind_error hr _
      · simp only [hr]
        refine (run_bind_ok hr _).trans ?_
        cases b <;> rfl
  · rw [if_neg hready, if_neg hready]
    rfl

/-- `render_pgb_config` and the new `current_port` in `_on_config_changed`
    (`charm.py`, lines 393–401). -/
def renderAndRecord (env : Env) (listenPort : ℕ) (leader portChanged : Bool) : Handler Unit := do
  Action.tryCatch (renderPgbConfig env portChanged) fun e =>
    if e = .pebbleConnectionError then defer else Action.fail e
  Action.when (leader = true ∧ portChanged = true)
    (writeApplication env fun s => { s with currentPort := some (str listenPort) })

theorem applyConfig_run (hready : isContainerReady env s = true) (listenPort : ℕ)
    (portChanged : Bool) : (applyConfig env listenPort portChanged).run s =
      (renderAndRecord env listenPort (isLeader env s) portChanged >>= fun _ =>
        updateStatus env >>= fun _ => publishConnections env).run s := by
  unfold applyConfig renderAndRecord
  rw [run_get_bind, ← run_bind_assoc, Action.when, if_pos hready]
  rfl

/-! ## What is left of the plan -/

theorem nodup_serviceNames (env : Env) : (serviceNames env).Nodup := by
  unfold serviceNames
  refine List.Nodup.map (fun i j hij => ?_) List.nodup_range
  have hlist := congrArg String.toList hij
  simp only [String.toList_append] at hlist
  exact Text.str_injective (String.toList_injective (List.append_cancel_left hlist))

/-- Only the status and, where it has been restarted, the metrics service may
    differ. -/
structure Checked (s t : State) : Prop where
  app : t.app = s.app
  secrets : t.secrets = s.secrets
  currentPort : t.currentPort = s.currentPort
  deferred : t.deferred = s.deferred
  services : ∀ name, name ≠ metricsService → t.services.get? name = s.services.get? name
  names : ∀ name, (t.services.get? name).isSome = (s.services.get? name).isSome

theorem Checked.refl (s : State) : Checked s s := ⟨rfl, rfl, rfl, rfl, fun _ _ => rfl, fun _ => rfl⟩

theorem Checked.trans {u : State} (h : Checked s t) (h' : Checked t u) : Checked s u where
  app := h'.app.trans h.app
  secrets := h'.secrets.trans h.secrets
  currentPort := h'.currentPort.trans h.currentPort
  deferred := h'.deferred.trans h.deferred
  services name hn := (h'.services name hn).trans (h.services name hn)
  names name := (h'.names name).trans (h.names name)

theorem Checked.status (h : Checked s t) (status : Status) :
    Checked s { t with status := status } :=
  ⟨h.app, h.secrets, h.currentPort, h.deferred, h.services, h.names⟩

theorem StatusOnly.checked (h : StatusOnly s t) : Checked s t := by
  obtain ⟨_, rfl⟩ := h
  exact (Checked.refl s).status _

theorem checked_checkServices (names : List String) :
    Within (Checked s) AnyError (checkServices env names) := by
  induction names with
  | nil => exact .pure true
  | cons name names ih =>
    rw [checkServices]
    apply Within.get_bind
    intro t ht
    cases t.services.get? name with
    | none => exact .fail trivial
    | some status =>
      apply Within.ite (fun _ => ih)
      intro _
      apply Within.bind (.when fun _ => .modify fun u hu => hu.status _)
      intro _
      apply Within.bind
      · apply Within.when
        intro hm
        unfold restart
        rw [if_pos hm.2]
        refine .modify fun u hu =>
          hu.trans ⟨rfl, rfl, rfl, rfl, fun name' hn => ?_, fun name' => ?_⟩
        · rw [Dict.get?_modify, if_neg (hm.1 ▸ hn)]
        · rw [Dict.get?_modify]
          split_ifs <;> simp
      · exact fun _ => .pure false

theorem checked_checkPgbRunning : Within (Checked s) AnyError (checkPgbRunning env) := by
  unfold checkPgbRunning
  apply Within.get_bind
  intro t ht
  apply Within.ite
  · exact fun _ => checked_checkServices _
  · exact fun _ => .bind (.when fun _ => .modify fun u hu => hu.status _) fun _ => .pure false

theorem checked_updateRunning : Within (Checked s) AnyError (updateRunning env) := by
  unfold updateRunning
  apply Within.tryCatch (T := AnyError)
  · apply Within.bind checked_checkPgbRunning
    exact fun _ => .when fun _ => .modify fun u hu =>
      ⟨hu.app, hu.secrets, hu.currentPort, hu.deferred, hu.services, hu.names⟩
  · exact fun e he => .ite (fun _ => .modify fun u hu => hu.status _) fun _ => .fail he

/-- What follows `render_pgb_config` and `current_port`. -/
theorem checked_behind (env : Env) (hc : CharmConfig.build env.options = some c) (s : State) :
    Checked s ((updateStatus env >>= fun _ => publishConnections env).run s).2 := by
  have hstatus : Checked s ((updateStatus env).run s).2 := by
    rcases updateStatus_cases hc s with hrun | hs
    · rw [hrun]
      exact checked_updateRunning.state (.refl s)
    · exact hs.checked
  exact hstatus.trans (statusOnly_behind hc s).checked

/-! ## Rendering and `current_port` -/

/-- The application data and `current_port` are the same. -/
def SamePort (s t : State) : Prop := t.app = s.app ∧ t.currentPort = s.currentPort

instance (s : State) : Quiet (SamePort s) where
  status _ _ _ h := h
  services _ _ h := h
  active _ _ _ h := h

theorem samePort_renderAndRecord (listenPort : ℕ) {leader portChanged : Bool}
    (hr : (renderAndRecord env listenPort leader portChanged).run s = (.ok (), t)) :
    t.app = s.app ∧ t.currentPort =
      if leader = true ∧ portChanged = true then some (str listenPort) else s.currentPort := by
  have hrender : Within (SamePort s) AnyError
      (Action.tryCatch (renderPgbConfig env portChanged) fun e =>
        if e = .pebbleConnectionError then defer else Action.fail e) :=
    .tryCatch (within_renderPgbConfig ordinary_anyError portChanged) fun e he =>
      .ite (fun _ => .modify fun _ h => h) fun _ => .fail he
  obtain ⟨_, u, hru, hrec⟩ := run_bind_eq_ok hr
  obtain ⟨happ, hport⟩ := hrender.ok ⟨rfl, rfl⟩ hru
  rw [run_when] at hrec
  split_ifs at hrec with hc
  · rcases hl : isLeader env u with _ | _
    · rw [writeApplication_follower hl] at hrec
      cases hrec
    · rw [writeApplication_leader hl] at hrec
      cases hrec
      exact ⟨happ, (if_pos hc).symm⟩
  · cases hrec
    exact ⟨happ, hport.trans (if_neg hc).symm⟩

/-- The configuration is valid, and the leader's `reconcile_k8s_service` returns
    true. -/
def reconciled (env : Env) (s : State) : Bool :=
  match CharmConfig.build env.options with
  | none => false
  | some c =>
    match ((reconcile env (isLeader env s) (s.portChanged c)).run s).1 with
    | .ok reconciled => reconciled
    | .error _ => false

/-- A follower with a valid configuration does not call
    `reconcile_k8s_service`. -/
theorem reconciled_follower (hl : isLeader env s = false)
    (hc : (CharmConfig.build env.options).isSome = true) : reconciled env s = true := by
  obtain ⟨c, hc⟩ := Option.isSome_iff_exists.mp hc
  unfold reconciled reconcile
  simp [hc, hl]

/-- The handler gets to `render_pgb_config`. -/
def reachesRender (env : Env) (s : State) : Bool := isContainerReady env s && reconciled env s

/-- A hook that returns without rendering leaves everything but the status and
    the deferral; else it has rendered and recorded the port. -/
theorem onConfigChanged_cases (h : (onConfigChanged env).run s = (.ok (), t)) :
    (reachesRender env s = false ∧ StatusOnly { s with deferred := t.deferred } t) ∨
      ∃ c u v, reachesRender env s = true ∧ isContainerReady env s = true ∧
        CharmConfig.build env.options = some c ∧ StatusOnly s u ∧
        (renderAndRecord env c.listenPort (isLeader env s) (s.portChanged c)).run u =
          (.ok (), v) ∧ Checked v t := by
  rw [onConfigChanged_run] at h
  unfold reachesRender reconciled
  split_ifs at h with hready
  · rw [hready, Bool.true_and]
    rcases hc : CharmConfig.build env.options with _ | c
    · rw [hc] at h
      cases h
      exact .inl ⟨rfl, _, rfl⟩
    · rw [hc] at h
      simp only at h ⊢
      have hkeeps := statusOnly_reconcile (s := s) hc (isLeader env s) (s.portChanged c)
      rcases hrec : (reconcile env (isLeader env s) (s.portChanged c)).run s with ⟨e | b, u⟩
      · rw [hrec] at h
        cases h
      · rw [hrec] at h
        have hs : StatusOnly s u := hkeeps.ok (.refl s) hrec
        obtain ⟨status, rfl⟩ := hs
        cases b with
        | false =>
          cases h
          exact .inl ⟨rfl, status, rfl⟩
        | true =>
          have hrun := applyConfig_run (s := { s with status := status }) hready c.listenPort
            (s.portChanged c)
          obtain ⟨_, v, hv, hbehind⟩ := run_bind_eq_ok (hrun.symm.trans h)
          have hchecked := checked_behind env hc v
          rw [hbehind] at hchecked
          exact .inr ⟨c, _, v, rfl, trivial, rfl, ⟨status, rfl⟩, hv, hchecked⟩
  · cases h
    rw [Bool.not_eq_true] at hready
    rw [hready]
    exact .inl ⟨rfl, s.status, rfl⟩

/-- `current_port` behind a hook that returns. -/
theorem currentPort_onConfigChanged {c : CharmConfig} (hc : CharmConfig.build env.options = some c)
    (h : (onConfigChanged env).run s = (.ok (), t)) :
    t.currentPort = if reachesRender env s && isLeader env s && s.portChanged c then
      some (str c.listenPort) else s.currentPort := by
  rcases onConfigChanged_cases h with ⟨hno, status, ht⟩ | ⟨c', u, v, hyes, -, hc', hs, hr, ht⟩
  · rw [hno, ht]
    rfl
  · obtain rfl : c = c' := Option.some_inj.mp (hc.symm.trans hc')
    obtain ⟨status, rfl⟩ := hs
    rw [ht.currentPort, (samePort_renderAndRecord c.listenPort hr).2, hyes]
    simp

theorem currentPort_of_not_reached (hno : reachesRender env s = false)
    (h : (onConfigChanged env).run s = (.ok (), t)) : t.currentPort = s.currentPort := by
  rcases onConfigChanged_cases h with ⟨-, _, ht⟩ | ⟨_, _, _, hyes, _⟩
  · rw [ht]
  · rw [hno] at hyes
    cases hyes

/-! ## Where the ini files are written -/

/-- `render_pgb_config` writes the ini files. -/
def rendersFiles (env : Env) : Bool := (CharmConfig.build env.options).isSome && env.canConnect

theorem rendersFiles_of_reachesRender (h : reachesRender env s = true) :
    rendersFiles env = true := by
  obtain ⟨hready, hrec⟩ := Bool.and_eq_true_iff.mp h
  unfold rendersFiles
  rw [(Bool.and_eq_true_iff.mp hready).1, Bool.and_true]
  unfold reconciled at hrec
  cases hc : CharmConfig.build env.options with
  | none =>
    rw [hc] at hrec
    cases hrec
  | some c => rfl

/-- Where the ini files cannot be written, it fails. -/
theorem rendersFiles_iff (hf : env.filesOk = false) (s : State) (restarting : Bool) :
    rendersFiles env = true ↔ ((renderPgbConfig env restarting).run s).1 = .error .other := by
  unfold rendersFiles renderPgbConfig
  rcases hc : CharmConfig.build env.options with _ | c
  · rw [configurationCheck_invalid hc]
    exact iff_of_false (by simp) nofun
  · rw [configurationCheck_valid hc, run_pure_bind, run_when]
    cases hcan : env.canConnect with
    | false => exact iff_of_false (by simp) nofun
    | true =>
      rw [if_pos ⟨rfl, rfl⟩, config_valid hc, run_pure_bind, run_bind, run_when, if_pos hf]
      exact iff_of_true rfl rfl

theorem applyConfig_unwritable (hf : env.filesOk = false)
    (hc : CharmConfig.build env.options = some c) (hready : isContainerReady env s = true)
    (listenPort : ℕ) (portChanged : Bool) :
    ((applyConfig env listenPort portChanged).run s).1 = .error .other := by
  have hfiles : rendersFiles env = true := by
    unfold rendersFiles
    rw [hc, (Bool.and_eq_true_iff.mp hready).1]
    rfl
  have hfail := (rendersFiles_iff hf s portChanged).mp hfiles
  rcases hr : (renderPgbConfig env portChanged).run s with ⟨e | _, t⟩
  · rw [hr] at hfail
    cases hfail
    have hcaught : (Action.tryCatch (renderPgbConfig env portChanged) fun e =>
        if e = .pebbleConnectionError then defer else Action.fail e).run s =
          (.error .other, t) := by
      rw [run_tryCatch, hr]
      rfl
    have hfailed : (renderAndRecord env listenPort (isLeader env s) portChanged).run s =
        (.error .other, t) := run_bind_error hcaught _
    rw [applyConfig_run hready, run_bind_error hfailed]
  · rw [hr] at hfail
    cases hfail

/-- Kubernetes does not fail in `reconcile_k8s_service`. -/
def Reconciles (env : Env) (s : State) : Prop :=
  ∀ c, CharmConfig.build env.options = some c →
    Returns (reconcile env (isLeader env s) (s.portChanged c)) s

/-- Where the ini files cannot be written, `_on_config_changed` fails if it gets
    to rendering. -/
theorem reachesRender_iff (hf : env.filesOk = false) (hk : Reconciles env s) :
    reachesRender env s = true ↔ ((onConfigChanged env).run s).1 = .error .other := by
  rw [onConfigChanged_run]
  unfold reachesRender reconciled
  by_cases hready : isContainerReady env s = true
  · rw [hready, Bool.true_and, if_pos rfl]
    rcases hc : CharmConfig.build env.options with _ | c
    · exact iff_of_false (by simp) nofun
    · obtain ⟨b, hb⟩ := hk c hc
      have hkeeps := statusOnly_reconcile (s := s) hc (isLeader env s) (s.portChanged c)
      simp only
      rcases hrec : (reconcile env (isLeader env s) (s.portChanged c)).run s
        with ⟨_ | reconciled, u⟩
      · rw [hrec] at hb
        cases hb
      obtain ⟨status, rfl⟩ : StatusOnly s u := hkeeps.ok (.refl s) hrec
      cases reconciled with
      | false => exact iff_of_false (by simp) nofun
      | true =>
        exact iff_of_true rfl
          (applyConfig_unwritable (s := { s with status := status }) hf hc hready _ _)
  · rw [if_neg hready]
    exact iff_of_false (by simp [hready]) nofun

end PgBouncerK8s.Operator
