import PgBouncerK8s.Auth.Userlist
import PgBouncerK8s.Operator.ConfigChanged
import PgBouncerK8s.Operator.PeerChanged
import PgBouncerK8s.Relations.Sync
import PgBouncerK8s.Workload.Metrics
import PgBouncerK8s.Workload.Service
import PgBouncerK8s.Workload.Tls

/-!
# The operator seen by the models of single files

`Tls`, `Metrics`, `K8sService`, `Userlist` and `Sync` follow what one file, one
service or one databag key goes through, and test the rest of the state with
flags. With the flags that a state of the operator gives, their
`render_pgb_config` writes the ini files where the operator's would fail if they
could not be written (`rendersFiles_iff`, `reachesRender_iff`), and what both
models have is the same.

* `config_changed_tls`, `config_changed_metrics`, `config_changed_service`: the
  hook `config-changed`.
* `reconcile_service`: `reconcile_k8s_service`.
* `peer_changed_userlist`, `peer_changed_sync`: `Peers._on_changed`.
-/

namespace PgBouncerK8s.Operator

open PgBouncerK8s.Action
open Text (str)

variable {env : Env} {s t : State} {c : CharmConfig}

/-! ## `Tls` and `Metrics` -/

/-- The flags of a hook are those of the operator's. -/
structure HookView (env : Env) (s : State) (ready configValid reconcileOk : Bool) : Prop where
  ready : ready = isContainerReady env s
  configValid : configValid = (CharmConfig.build env.options).isSome
  reconcileOk : reconcileOk = reconciled env s

/-- The tests in front of `render_pgb_config`; a follower is not stopped by
    `reconcile_k8s_service`. -/
theorem HookView.guards {ready configValid reconcileOk stops : Bool} {α : Type} {x y : α}
    (hv : HookView env s ready configValid reconcileOk)
    (hstops : stops = !reconcileOk ∨ isLeader env s = false ∧ stops = false) :
    (if (!ready) = true then x else if (!configValid) = true then x
      else if stops = true then x else y) = if reachesRender env s = true then y else x := by
  unfold reachesRender
  rw [hv.ready, hv.configValid]
  cases isContainerReady env s with
  | false => rfl
  | true =>
    cases hc : (CharmConfig.build env.options).isSome with
    | false =>
      have hno : reconciled env s = false := by
        have hnone : CharmConfig.build env.options = none := by simpa using hc
        unfold reconciled
        rw [hnone]
      rw [hno]
      rfl
    | true =>
      rcases hstops with rfl | ⟨hl, rfl⟩
      · rw [hv.reconcileOk]
        cases reconciled env s <;> rfl
      · rw [reconciled_follower hl hc]
        rfl

section Tls

variable {h : Tls.Hook} {x : Tls.State}

/-- The settings for TLS are those of the secrets, where the files are
    written. -/
def tlsRendered (x : Tls.State) : Tls.State :=
  { x with container := { x.container with iniTls := some (Tls.enableTls x.secrets) } }

theorem render_tls (hvalid : h.configValid = (CharmConfig.build env.options).isSome)
    (hcan : h.renderConnects = env.canConnect) :
    Tls.renderPgbConfig h x = if rendersFiles env = true then tlsRendered x else x := by
  unfold Tls.renderPgbConfig rendersFiles
  rw [hvalid, hcan]
  cases (CharmConfig.build env.options).isSome <;> cases env.canConnect <;> rfl

theorem config_changed_tls
    (hv : HookView env s (Tls.isContainerReady h x) h.configValid h.reconcileOk)
    (hcan : h.renderConnects = env.canConnect) :
    Tls.onConfigChanged h x = if reachesRender env s = true then tlsRendered x else x := by
  unfold Tls.onConfigChanged
  rw [hv.guards (.inl rfl), render_tls hv.configValid hcan]
  split_ifs with hreaches hno
  · rfl
  · exact absurd (rendersFiles_of_reachesRender hreaches) hno
  · rfl

end Tls

section Metrics

variable {h : Metrics.Hook} {w : Metrics.Deployment}

/-- The ini files get the configured port, where they are written. -/
theorem render_metrics (hvalid : h.configValid = (CharmConfig.build env.options).isSome)
    (hcan : h.canConnect = env.canConnect) :
    Metrics.renderPgbConfig h w =
      if rendersFiles env = true then w.modifyUnit h (Metrics.UnitState.rendered w) else w := by
  unfold Metrics.renderPgbConfig rendersFiles
  rw [hvalid, hcan]
  cases (CharmConfig.build env.options).isSome <;> cases env.canConnect <;> rfl

/-- Whether the exporter starts. -/
theorem monitoring_metrics (hc : CharmConfig.build env.options = some c)
    (hp : w.monitoringPassword.isSome = (s.secrets.passwords .monitoring).isSome) (enabled : Bool) :
    (generateMonitoringService env enabled).run s =
      (.ok (Metrics.generateMonitoringService w enabled).startup, s) := by
  unfold generateMonitoringService Metrics.generateMonitoringService
  rw [run_get_bind, run_ite, ← hp, config_valid hc]
  cases enabled <;> cases w.monitoringPassword <;> rfl

/-- The ini files and `current_port` behind `config-changed`. -/
theorem config_changed_metrics
    (hv : HookView env s (Metrics.isContainerReady h w) h.configValid h.reconcileOk)
    (hcan : h.canConnect = env.canConnect) (hleader : decide (h.unit = w.leader) = isLeader env s)
    (hlisten : ∀ c, CharmConfig.build env.options = some c → w.listenPort = c.listenPort)
    (hport : w.currentPort = s.currentPort) (hr : (onConfigChanged env).run s = (.ok (), t)) :
    ((Metrics.onConfigChanged h w).unit h.unit).iniPorts =
        (if reachesRender env s = true then List.replicate w.cores w.listenPort
          else (w.unit h.unit).iniPorts) ∧
      (Metrics.onConfigChanged h w).currentPort = t.currentPort := by
  unfold Metrics.onConfigChanged
  rw [hv.guards (by rw [hleader]; cases isLeader env s <;> simp)]
  cases hreaches : reachesRender env s with
  | false => exact ⟨rfl, hport.trans (currentPort_of_not_reached hreaches hr).symm⟩
  | true =>
    obtain ⟨c, hc⟩ := Option.isSome_iff_exists.mp
      (Bool.and_eq_true_iff.mp (rendersFiles_of_reachesRender hreaches)).1
    have hnew := currentPort_onConfigChanged hc hr
    have hchanged : s.portChanged c = decide (w.currentPort ≠ some (str w.listenPort)) := by
      rw [hport, hlisten c hc]
      rfl
    rw [hreaches, Bool.true_and, hchanged, ← hleader, ← hlisten c hc, ← hport] at hnew
    rw [if_pos rfl, if_pos rfl, render_metrics hv.configValid hcan,
      if_pos (rendersFiles_of_reachesRender hreaches), hnew,
      Metrics.Deployment.modifyUnit_modifyUnit]
    have hini : ((w.modifyUnit h fun s => { Metrics.UnitState.rendered w s with
        handled := true }).unit h.unit).iniPorts = List.replicate w.cores w.listenPort := by
      rw [Metrics.Deployment.unit_modifyUnit, if_pos rfl]
      rfl
    constructor
    · dsimp only
      split_ifs
      · exact hini
      · exact hini
    · dsimp only
      split_ifs with hcond hcond' hcond'
      · rfl
      · exact absurd hcond hcond'
      · exact absurd hcond' hcond
      · rfl

end Metrics

/-! ## `K8sService` -/

section Service

variable {loads : String → Option (Dict String String)} {site : K8sService.Site}
  {x : K8sService.State}

/-- Kubernetes answers the operator with this service, and refuses nothing; the
    annotations are read between its answers. -/
structure ServiceView (env : Env) (loads : String → Option (Dict String String))
    (site : K8sService.Site) (x : K8sService.State) : Prop where
  config : CharmConfig.build env.options = some x.config
  service : env.service = if x.service.isSome then .found else .missing
  serviceType : env.serviceTypeMatches =
    x.service.any fun service => service.serviceType = x.config.exposeExternal
  applied : env.applied =
    if (K8sService.desiredService loads site x.config).isSome then .applied else .failed

theorem applied_run (s : State) : ((do
    let s ← Action.get
    Action.when (postgres env s = true) (setStatus (.maintenance waitingForK8sService))
    return true : Handler Bool).run s).1 = .ok true := by
  rw [run_get_bind, run_bind, run_when]
  split_ifs <;> rfl

/-- `reconcile_k8s_service` skips the apply, applies or raises in both models. -/
theorem reconcile_service (hv : ServiceView env loads site x) (portChanged : Bool) :
    ((reconcileK8sService env portChanged).run s).1 =
      if (K8sService.reconcileK8sService loads site x portChanged).isSome then .ok true
        else .error .other := by
  have hexists : getService env = pure x.service.isSome := by
    unfold getService
    rw [hv.service]
    cases x.service <;> rfl
  have hskip : (!portChanged && x.service.isSome && env.serviceTypeMatches) =
      x.skips portChanged := by
    rw [hv.serviceType, K8sService.State.skips]
    cases x.service <;> simp
  unfold reconcileK8sService K8sService.reconcileK8sService
  rw [config_valid hv.config, run_pure_bind, hexists, run_pure_bind, hskip, run_ite]
  cases x.skips portChanged with
  | true => rfl
  | false =>
    simp only [Bool.false_eq_true, if_false]
    rw [hv.applied, Option.isSome_map]
    cases (K8sService.desiredService loads site x.config).isSome with
    | false => rfl
    | true => exact applied_run s

/-- The leader's `config-changed`, where it returns. -/
theorem config_changed_service (hv : ServiceView env loads site x) (hl : isLeader env s = true)
    (hready : isContainerReady env s = true) (hport : x.currentPort = s.currentPort)
    (hr : (onConfigChanged env).run s = (.ok (), t)) :
    ∃ y, K8sService.onConfigChanged loads site x = some y ∧ y.currentPort = t.currentPort := by
  have hchanged : s.portChanged x.config = x.portChanged := by
    unfold State.portChanged K8sService.State.portChanged
    rw [hport]
  have hcalled : ((reconcile env (isLeader env s) (s.portChanged x.config)).run s).1 =
      if (K8sService.reconcileK8sService loads site x x.portChanged).isSome then .ok true
        else .error .other := by
    rw [hl, hchanged]
    exact reconcile_service hv x.portChanged
  cases hx : K8sService.reconcileK8sService loads site x x.portChanged with
  | none =>
    rw [hx] at hcalled
    rw [onConfigChanged_run, if_pos hready, hv.config] at hr
    simp only at hr
    rcases hrun : (reconcile env (isLeader env s) (s.portChanged x.config)).run s with ⟨_ | _, _⟩
    · rw [hrun] at hr
      cases hr
    · rw [hrun] at hcalled
      cases hcalled
  | some y =>
    have hrec : reconciled env s = true := by
      unfold reconciled
      rw [hv.config]
      simp only [hcalled, hx]
      rfl
    have hy : y.currentPort = s.currentPort := by
      unfold K8sService.reconcileK8sService at hx
      split_ifs at hx
      · cases hx
        exact hport
      · obtain ⟨service, -, rfl⟩ := Option.map_eq_some_iff.mp hx
        exact hport
    have hnew := currentPort_onConfigChanged hv.config hr
    rw [reachesRender, hready, hrec, hl, hchanged, Bool.true_and, Bool.true_and,
      Bool.true_and] at hnew
    refine ⟨_, congrArg (Option.map _) hx, ?_⟩
    rw [hnew]
    cases x.portChanged with
    | true => rfl
    | false => exact hy

end Service

/-! ## `Userlist` and `Sync` -/

/-- The peer handler fails where it gets to rendering and the ini files cannot be
    written. -/
theorem peer_changed_renders (hf : env.filesOk = false) (hready : isContainerReady env s = true)
    (hr : rendersFiles env = true) : ((Peers.onChanged env).run s).1 = .error .other := by
  have hfail := (rendersFiles_iff hf (addressed env s) false).mp hr
  rw [onChanged_run, if_pos hready]
  rcases hrun : (renderPgbConfig env false).run (addressed env s) with ⟨e | _, t⟩
  · rw [hrun] at hfail
    cases hfail
    exact congrArg Prod.fst (run_bind_error hrun _)
  · rw [hrun] at hfail
    cases hfail

section Userlist

variable {w : Auth.Userlist.World} {u : ℕ}

/-- `auth_type` is chosen again, where the ini files are written. -/
theorem render_userlist {configValid : Bool} {charm : Auth.Charm} {x : Auth.Userlist.UnitState}
    (hvalid : configValid = (CharmConfig.build env.options).isSome) (hcan : env.canConnect = true) :
    Auth.Userlist.renderPgbConfig configValid charm x =
      if rendersFiles env = true then
        { x with authType := Auth.Userlist.authTypeOf (charm.ownUser .stats) charm.authFile }
      else x := by
  unfold Auth.Userlist.renderPgbConfig rendersFiles
  rw [hvalid, hcan]
  cases (CharmConfig.build env.options).isSome <;> rfl

/-- `Peers._on_changed` renders the ini and leaves the userlist alone. -/
theorem peer_changed_userlist {configValid : Bool}
    (hvalid : configValid = (CharmConfig.build env.options).isSome) (hcan : env.canConnect = true)
    (hinit : (w.unit u).initialised = (unitDatabag env s).contains "container_initialised") :
    Auth.Userlist.onPeerChanged w u configValid =
      if isContainerReady env s && rendersFiles env then w.setUnit u { w.unit u with
        authType := Auth.Userlist.authTypeOf (w.charm.ownUser .stats) w.charm.authFile }
      else w := by
  have hready : isContainerReady env s = (w.unit u).initialised := by
    rw [isContainerReady, hcan, hinit, Bool.true_and]
  unfold Auth.Userlist.onPeerChanged
  rw [render_userlist hvalid hcan, hready]
  by_cases hi : (w.unit u).initialised = true
  · have hcond : ((w.unit u).initialised && rendersFiles env) = rendersFiles env := by
      rw [hi, Bool.true_and]
    rw [if_pos hi, hcond]
    split_ifs
    · rfl
    · simp [Auth.Userlist.World.setUnit]
  · rw [if_neg hi, Bool.not_eq_true] at *
    simp [hi]

end Userlist

section Sync

variable {w : Sync.World} {u : UnitId} {i : Sync.RenderInput}

/-- Unit `u` of `Sync` sees the map that the operator sees, and can render where
    that can. -/
structure SyncView (env : Env) (s : State) (w : Sync.World) (u : UnitId) (i : Sync.RenderInput) :
    Prop where
  ready : i.containerReady = isContainerReady env s
  configValid : i.configValid = (CharmConfig.build env.options).isSome
  view : (w.view u).getD .empty = s.app.databases
  files : env.filesOk = (getRelationConfig i.iter i.backend
    (getRelationDatabases { w.app with pgbDbsConfig := w.view u } u)).isSome

/-- The hash of the map is in the databag when the handler returns. -/
theorem hash_of_renderAndPublishHash (hhash : env.hash s.app.databases ≠ "")
    (hr : (renderAndPublishHash env).run s = (.ok (), t)) :
    (unitDatabag env t).get "pgb_dbs" = some (env.hash s.app.databases) := by
  obtain ⟨_, u, hrender, hr⟩ := run_bind_eq_ok hr
  rw [run_get_bind] at hr
  obtain ⟨_, v, htoggle, hpublish⟩ := run_bind_eq_ok hr
  have hu : SameData s u := (within_renderPgbConfig ordinary_anyError false).ok (.refl s) hrender
  have hv : SameData u v :=
    (within_toggleMonitoringLayer ordinary_anyError readable_anyError _).ok (.refl u) htoggle
  have hwritten : Within (SameData (setUnitDatabag env v ((unitDatabag env v).set "pgb_dbs"
      (env.hash u.app.databases)))) AnyError (do
        let s ← Action.get
        Action.when (isLeader env s = true) do
          let valid ← configurationCheck env
          Action.when (valid = true)
            (PgBouncerProvider.updateEndpoints env (s.app.relationsOf .database))) := by
    apply Within.get_bind
    intro _ _
    apply Within.when
    intro _
    apply within_checked
    intro valid hvalid
    exact .when fun h => within_updateEndpoints ordinary_anyError (hvalid h) _
  have ht := hwritten.ok (.refl _) hpublish
  have hdatabag : unitDatabag env t = (unitDatabag env v).set "pgb_dbs"
      (env.hash u.app.databases) := by
    rw [unitDatabag, ht.app]
    exact unitDatabag_setUnitDatabag env v _
  rw [hdatabag, Databag.get_set, if_pos rfl, hu.app, if_neg hhash]

/-- Where the handler of the operator returns, `render_pgb_config` of `Sync`
    does. -/
theorem SyncView.renders (hv : SyncView env s w u i) (hready : isContainerReady env s = true)
    (hr : (Peers.onChanged env).run s = (.ok (), t)) :
    ∃ w', Sync.renderPgbConfig w u i = some w' := by
  unfold Sync.renderPgbConfig
  rw [hv.configValid]
  cases hc : (CharmConfig.build env.options).isSome with
  | false => exact ⟨w, rfl⟩
  | true =>
    have hrenders : rendersFiles env = true := by
      rw [rendersFiles, hc, (Bool.and_eq_true_iff.mp hready).1, Bool.and_self]
    have hfiles : env.filesOk = true := by
      by_contra hf
      have hfail := peer_changed_renders (Bool.not_eq_true _ ▸ hf) hready hrenders
      rw [hr] at hfail
      cases hfail
    rw [hv.files] at hfiles
    obtain ⟨cfg, hcfg⟩ := Option.isSome_iff_exists.mp hfiles
    rw [hcfg]
    exact ⟨_, rfl⟩

/-- `Peers._on_changed`, where it returns. -/
theorem peer_changed_sync (hv : SyncView env s w u i) (hhash : env.hash s.app.databases ≠ "")
    (hr : (Peers.onChanged env).run s = (.ok (), t)) :
    ∃ w', Sync.onPeerChanged w u i = some w' ∧
      (isContainerReady env s = true → w'.ack u = some s.app.databases ∧
        (unitDatabag env t).get "pgb_dbs" = some (env.hash s.app.databases)) ∧
      (isContainerReady env s = false → w' = w ∧ t.deferred = true) := by
  unfold Sync.onPeerChanged
  rw [hv.ready, hv.view]
  cases hready : isContainerReady env s with
  | false =>
    rw [onChanged_run, hready, if_neg Bool.false_ne_true] at hr
    cases hr
    exact ⟨w, rfl, nofun, fun _ => ⟨rfl, rfl⟩⟩
  | true =>
    obtain ⟨w', hw'⟩ := hv.renders hready hr
    rw [onChanged_run, hready, if_pos rfl] at hr
    refine ⟨_, congrArg (Option.map _) hw', fun _ => ⟨?_, ?_⟩, nofun⟩
    · exact Function.update_self _ _ _
    · exact hash_of_renderAndPublishHash (s := addressed env s) hhash hr

end Sync

end PgBouncerK8s.Operator
