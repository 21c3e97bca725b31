import PgBouncerK8s.Operator.Effects

/-!
# What the handlers can raise

For each part of a handler, a set of errors that contains all it can fail with:
the errors of Pebble and PostgreSQL and those that nothing names are always in
it, `valueError` where `self.config` is read without `configuration_check`, and
`relationDataAccessError` where application data is written without a test for
leadership. No handler changes the leader, or which relations there are.

* `within_handle`: what a handler that does not write as a follower can raise.
-/

namespace PgBouncerK8s.Operator

open PgBouncerK8s.Action

/-- The set contains the errors of Pebble and of PostgreSQL, and those no
    handler names. -/
structure Ordinary (S : Failure → Prop) : Prop where
  pebble : S .pebbleConnectionError
  change : S .changeError
  psycopg2 : S .psycopg2Error
  other : S .other

/-- Nothing is raised. -/
def NoError (_ : Failure) : Prop := False

variable {env : Env} {S : Failure → Prop} {s t : State} {I : State → Prop}

/-! ## What only reads -/

/-- The configuration is valid, or the set contains the error of reading one
    that is not. -/
def Readable (env : Env) (S : Failure → Prop) : Prop :=
  (CharmConfig.build env.options).isSome = true ∨ S .valueError

theorem within_config (hv : Readable env S) : Within I S (config env) := by
  rcases hc : CharmConfig.build env.options with _ | c
  · rw [config_invalid hc]
    rcases hv with hv | hv
    · rw [hc] at hv
      cases hv
    · exact .fail hv
  · rw [config_valid hc]
    exact .pure c

theorem within_getService (ho : Ordinary S) : Within I S (getService env) := by
  unfold getService
  cases env.service with
  | failed => exact .fail ho.other
  | missing => exact .pure false
  | found => exact .pure true

theorem within_getHostsPorts (ho : Ordinary S) (hv : Readable env S) :
    Within I S (getHostsPorts env) := by
  unfold getHostsPorts
  apply Within.bind (within_getService ho)
  intro service
  apply Within.ite
  · intro _
    apply Within.bind (within_config hv)
    intro _
    exact .ite (fun _ => .pure _) fun _ => .fail ho.other
  · exact fun _ => .pure ""

theorem within_checkServiceConnectivity (ho : Ordinary S) (hv : Readable env S) :
    Within I S (checkServiceConnectivity env) := by
  unfold checkServiceConnectivity
  apply Within.bind (within_getService ho)
  intro service
  apply Within.ite
  · intro _
    apply Within.bind (within_getHostsPorts ho hv)
    intro endpoints
    apply Within.ite
    · exact fun _ => .pure false
    · intro _
      cases env.connectivity with
      | none => exact .fail ho.other
      | some connected => exact .pure connected
  · exact fun _ => .pure false

theorem within_updateEndpoints (ho : Ordinary S) (hv : Readable env S)
    (l : List (RelId × Relation)) :
    Within I S (PgBouncerProvider.updateEndpoints env l) := by
  induction l with
  | nil => exact .pure ()
  | cons p l ih =>
    unfold PgBouncerProvider.updateEndpoints
    apply Within.ite
    · exact fun _ => ih
    intro _
    apply Within.when
    intro _
    exact .bind (within_getHostsPorts ho hv) fun _ => ih

theorem within_generateMonitoringService (hv : Readable env S) (enabled : Bool) :
    Within I S (generateMonitoringService env enabled) := by
  unfold generateMonitoringService
  apply Within.get_bind
  intro s hs
  apply Within.ite
  · exact fun _ => .bind (within_config hv) fun _ => .pure true
  · exact fun _ => .pure false

/-- `ActiveStatus` is set here whether it is deserved or not. -/
theorem within_checkForBlockingRelations (h : ∀ s, I s → I (activated env s)) (rid : RelId) :
    Within I S (DbProvides.checkForBlockingRelations env rid) := by
  unfold DbProvides.checkForBlockingRelations
  exact .get_bind fun s hs => .when fun _ => .modify h

/-- The invariant does not depend on the services, and allows the statuses that
    the charm sets of its own accord, `ActiveStatus` where it is deserved. -/
class Quiet (I : State → Prop) : Prop where
  status : ∀ s status, status.Own → I s → I { s with status := status }
  services : ∀ s services, I s → I { s with services := services }
  active : ∀ env s, healthy env s = true → I s → I (activated env s)

section Quiet

variable [Quiet I]

/-! ## Checks -/

theorem within_setStatus {status : Status} (h : status.Own) : Within I S (setStatus status) :=
  .modify fun s hs => Quiet.status s status h hs

/-- `configuration_check` does not fail, and behind it the configuration can be
    read. -/
theorem within_checked {α : Type} {f : Bool → Handler α}
    (hf : ∀ valid, (valid = true → Readable env S) → Within I S (f valid)) :
    Within I S (configurationCheck env >>= f) := by
  rcases hc : CharmConfig.build env.options with _ | c
  · rw [configurationCheck_invalid hc]
    intro s hs
    apply hf false (fun h => by cases h)
    exact Quiet.status s _ .configuration hs
  · rw [configurationCheck_valid hc]
    exact hf true fun _ => .inl (by rw [hc]; rfl)

theorem within_checkBackend : Within I S (checkBackend env) := by
  unfold checkBackend
  apply Within.get_bind
  intro s hs
  apply Within.ite
  · exact fun _ => .pure true
  · exact fun _ => .bind (within_setStatus (.waiting _)) fun _ => .pure false

theorem within_pushFile : Within I S (pushFile env) := .when fun _ => within_setStatus (.waiting _)

theorem within_deleteFile : Within I S (deleteFile env) :=
  .when fun _ => within_setStatus (.waiting _)

theorem within_renderAuthFile : Within I S (renderAuthFile env) := by
  unfold renderAuthFile
  exact .get_bind fun s hs => .when fun _ => within_pushFile

theorem within_stopMetrics : Within I S stopMetrics := .modify fun s hs => Quiet.services s _ hs

/-! ## `check_pgb_running` -/

/-- `PebbleConnectionError` is all that the loop can raise: the error of
    restarting the metrics service is caught. -/
theorem checkServices_raises (l : List String) :
    Within I (· = .pebbleConnectionError) (checkServices env l) := by
  induction l with
  | nil => exact .pure true
  | cons service services ih =>
    unfold checkServices
    apply Within.get_bind
    intro s hs
    cases s.services.get? service with
    | none => exact .fail rfl
    | some status =>
      apply Within.ite
      · exact fun _ => ih
      intro _
      apply Within.bind (.when fun _ => within_setStatus (.notRunning _ _))
      intro _
      apply Within.bind
      · apply Within.when
        intro h
        unfold restart
        rw [if_pos h.2]
        exact .modify fun s hs => Quiet.services s _ hs
      · exact fun _ => .pure false

theorem checkPgbRunning_raises : Within I (· = .pebbleConnectionError) (checkPgbRunning env) := by
  unfold checkPgbRunning
  apply Within.get_bind
  intro s hs
  apply Within.ite
  · exact fun _ => checkServices_raises _
  · exact fun _ => .bind (.when fun _ => within_setStatus (.waiting _)) fun _ => .pure false

theorem pgbRunning_returns : Within I NoError (pgbRunning env) := by
  unfold pgbRunning
  apply Within.tryCatch checkPgbRunning_raises
  exact fun e he => .ite (fun _ => .pure false) fun hn => absurd he hn

theorem pgbRunning_of_not_running (hs : I s) (h : ¬ Running env s) :
    ∃ t, (pgbRunning env).run s = (.ok false, t) ∧ I t := by
  obtain ⟨running, t, hrun, ht⟩ := pgbRunning_returns.run_ok (fun _ => id) hs
  cases running with
  | true => exact absurd (running_of_pgbRunning hrun) h
  | false => exact ⟨t, hrun, ht⟩

theorem within_pgbRunning : Within I S (pgbRunning env) :=
  pgbRunning_returns.mono fun _ he => he.elim

/-! ## The workload -/

variable (ho : Ordinary S)

include ho

theorem within_restart (service : String) : Within I S (restart env service) := by
  unfold restart
  exact .ite (fun _ => .modify fun s hs => Quiet.services s _ hs) fun _ => .fail ho.change

theorem within_checkPgbRunning : Within I S (checkPgbRunning env) :=
  checkPgbRunning_raises.mono fun _ he => he ▸ ho.pebble

theorem within_reloadService (restarting : Bool) (service : String) :
    Within I S (reloadService env restarting service) := by
  unfold reloadService
  apply Within.get_bind
  intro s hs
  cases s.services.get? service with
  | none => exact .fail ho.pebble
  | some status => exact .when fun _ => within_restart ho service

theorem within_renderPgbConfig (restarting : Bool) :
    Within I S (renderPgbConfig env restarting) := by
  unfold renderPgbConfig
  apply within_checked
  intro valid hv
  apply Within.when
  intro h
  apply Within.bind (within_config (hv h.1))
  intro _
  apply Within.bind (.when fun _ => .fail ho.other)
  intro _
  apply Within.get_bind
  intro s hs
  apply Within.when
  intro _
  apply Within.bind (.forEach fun service _ => within_reloadService ho restarting service)
  intro _
  exact .bind (within_checkPgbRunning ho) fun _ => .pure ()

theorem within_addLayer (names : List String) : Within I S (addLayer env names) := by
  unfold addLayer
  exact .ite (fun _ => .modify fun s hs => Quiet.services s _ hs) fun _ => .fail ho.pebble

theorem within_replan (metrics : Bool) : Within I S (replan env metrics) := by
  unfold replan
  exact .ite (fun _ => .modify fun s hs => Quiet.services s _ hs) fun _ => .fail ho.change

theorem within_applyMonitoringLayer (enabled startup : Bool) :
    Within I S (applyMonitoringLayer env enabled startup) := by
  unfold applyMonitoringLayer
  apply Within.bind (within_addLayer ho _)
  intro _
  apply Within.bind (.when fun _ => within_replan ho startup)
  intro _
  apply Within.bind (.when fun _ => within_stopMetrics)
  intro _
  exact .bind (within_checkPgbRunning ho) fun _ => .pure ()

theorem within_toggleMonitoringLayer (hv : Readable env S) (enabled : Bool) :
    Within I S (toggleMonitoringLayer env enabled) := by
  unfold toggleMonitoringLayer
  exact .bind (within_generateMonitoringService hv enabled) fun startup =>
    within_applyMonitoringLayer ho enabled startup

/-! ## The status and the clients -/

theorem within_updateRunning (hs : I s) (h : Running env s → healthy env s = true) :
    Meets (fun t => t = s) (updateRunning env) (fun _ => I) fun e t => S e ∧ I t := by
  rintro s rfl
  unfold updateRunning
  rw [run_tryCatch]
  by_cases hr : Running env s
  · rw [run_bind_ok (checkPgbRunning_of_running hr), run_when, if_pos rfl]
    exact Quiet.active env s (h hr) hs
  · have hkeeps : Within I S (checkPgbRunning env) := within_checkPgbRunning ho
    have hm := hkeeps s hs
    rcases hp : (checkPgbRunning env).run s with ⟨e | running, t⟩
    · rw [hp] at hm
      rw [run_bind_error hp]
      simp only [run_ite]
      split_ifs
      · exact Quiet.status t _ (.waiting _) hm.2
      · exact hm
    · rw [hp] at hm
      rw [run_bind_ok hp, run_when]
      cases running with
      | true => exact absurd (running_of_checkPgbRunning hp) hr
      | false => exact hm

theorem within_updateStatus : Within I S (updateStatus env) := by
  unfold updateStatus
  apply Within.get_bind
  intro s hs
  apply Within.when
  intro _
  rcases hc : CharmConfig.build env.options with _ | c
  · rw [configurationCheck_invalid hc]
    exact fun s hs => Quiet.status s _ .configuration hs
  · have hv : (CharmConfig.build env.options).isSome = true := by
      rw [hc]
      rfl
    rw [configurationCheck_valid hc]
    apply Within.bind (.pure true)
    intro _
    apply Within.when
    intro _
    apply Meets.get_bind
    intro s hs
    apply Meets.ite
    · rintro - s rfl
      exact Quiet.status s _ .noBackend hs
    intro _
    apply Meets.ite
    · rintro - s rfl
      exact Quiet.status s _ .backendNotReady hs
    intro hready
    have hconn : Meets (fun t => t = s)
        (if isLeader env s = true then checkServiceConnectivity env else pure true)
        (fun connectable t => t = s ∧ (connectable = true → isLeader env s = true →
          ((checkServiceConnectivity env).run s).1 = .ok true))
        (fun e t => S e ∧ I t) := by
      rintro s rfl
      rw [run_ite]
      split_ifs with hl
      · have hm := within_checkServiceConnectivity (I := fun t => t = s) ho (.inl hv) s rfl
        rcases hr : (checkServiceConnectivity env).run s with ⟨e | connectable, t⟩
        · rw [hr] at hm
          exact ⟨hm.1, hm.2 ▸ hs⟩
        · rw [hr] at hm
          exact ⟨hm, fun h _ => by rw [h]⟩
      · exact ⟨rfl, fun _ h => absurd h hl⟩
    apply Meets.bind hconn
    intro connectable
    apply Meets.ite
    · rintro hcn t ⟨rfl, hok⟩
      apply within_updateRunning ho hs _ t rfl
      exact healthy_of_running hv (by simpa using hready) (hok hcn)
    · rintro - t ⟨rfl, -⟩
      rw [run_when]
      split_ifs
      · exact Quiet.status t _ .notConnectable hs
      · exact hs

theorem within_reconcileK8sService (hv : Readable env S) (portChanged : Bool) :
    Within I S (reconcileK8sService env portChanged) := by
  unfold reconcileK8sService
  apply Within.bind (within_config hv)
  intro _
  apply Within.bind (within_getService ho)
  intro exists_
  apply Within.ite
  · exact fun _ => .pure true
  intro _
  cases env.applied with
  | failed => exact .fail ho.other
  | forbidden =>
    apply Within.get_bind
    intro s hs
    exact .bind (within_setStatus (.permissions _)) fun _ => .pure false
  | applied =>
    apply Within.get_bind
    intro s hs
    exact .bind (.when fun _ => within_setStatus (.maintenance _)) fun _ => .pure true

theorem within_db_updateConnectionInfo (r : Relation) :
    Within I S (DbProvides.updateConnectionInfo env r) := by
  unfold DbProvides.updateConnectionInfo
  apply within_checked
  intro valid hv
  apply Within.when
  intro h
  apply Within.when
  intro _
  exact .bind (within_getHostsPorts ho (hv h)) fun _ => .pure ()

theorem within_updateConnectionInfo (rid : RelId) (r : Relation) :
    Within I S (PgBouncerProvider.updateConnectionInfo env rid r) := by
  unfold PgBouncerProvider.updateConnectionInfo
  apply Within.get_bind
  intro s hs
  apply Within.when
  intro _
  apply within_checked
  intro valid hv
  apply Within.when
  intro h
  apply Within.bind (within_updateEndpoints ho (hv h) _)
  intro _
  apply Within.when
  intro _
  exact .bind within_checkBackend fun _ => .when fun _ => .fail ho.other

theorem within_updateClientConnectionInfo (hv : Readable env S) :
    Within I S (updateClientConnectionInfo env) := by
  unfold updateClientConnectionInfo
  apply Within.get_bind
  intro s hs
  apply Within.when
  intro _
  apply Within.bind (within_config hv)
  intro _
  apply Within.bind (.forEach fun p _ => within_db_updateConnectionInfo ho p.2)
  intro _
  apply Within.bind (.forEach fun p _ => within_db_updateConnectionInfo ho p.2)
  intro _
  exact .forEach fun p _ => within_updateConnectionInfo ho p.1 p.2

end Quiet

/-! ## Writes -/

/-- The leader and the relations that there are, are those of `a`. -/
structure Framed (a : App) (s : State) : Prop where
  leader : s.app.leader = a.leader
  contains : ∀ rid, s.app.relations.contains rid = a.relations.contains rid

theorem Framed.refl (s : State) : Framed s.app s := ⟨rfl, fun _ => rfl⟩

theorem Framed.trans {a : App} (h : Framed a s) (ht : Framed s.app t) : Framed a t :=
  ⟨ht.leader.trans h.leader, fun rid => (ht.contains rid).trans (h.contains rid)⟩

theorem Framed.activated {a : App} (h : Framed a s) : Framed a (activated env s) :=
  ⟨h.leader, h.contains⟩

/-- The invariant depends on no more than the leader, the relations that there
    are, and the record of `ActiveStatus`. -/
class Stable (a : outParam App) (I : State → Prop) : Prop extends Quiet I where
  framed : ∀ s, I s → Framed a s
  write : ∀ s t, I s → Framed s.app t → t.activations = s.activations → I t

instance (a : App) : Stable a (Framed a) where
  status _ _ _ hs := ⟨hs.leader, hs.contains⟩
  services _ _ hs := ⟨hs.leader, hs.contains⟩
  active _ _ _ hs := ⟨hs.leader, hs.contains⟩
  framed _ hs := hs
  write _ _ hs ht _ := hs.trans ht

/-- The state `t` is `s` but for the status and the services. -/
structure SameData (s t : State) : Prop where
  app : t.app = s.app
  secrets : t.secrets = s.secrets
  readonlyDbs : t.readonlyDbs = s.readonlyDbs
  currentPort : t.currentPort = s.currentPort
  deferred : t.deferred = s.deferred
  causes : t.causes = s.causes

theorem SameData.refl (s : State) : SameData s s := ⟨rfl, rfl, rfl, rfl, rfl, rfl⟩

theorem SameData.isLeader (h : SameData s t) : isLeader env t = isLeader env s := by
  unfold Operator.isLeader
  rw [h.app]

theorem SameData.ready (h : SameData s t) : ready env t = ready env s := by
  unfold Operator.ready postgres
  rw [h.secrets]

instance (s : State) : Quiet (SameData s) where
  status _ _ _ h := ⟨h.app, h.secrets, h.readonlyDbs, h.currentPort, h.deferred, h.causes⟩
  services _ _ h := ⟨h.app, h.secrets, h.readonlyDbs, h.currentPort, h.deferred, h.causes⟩
  active _ _ _ h := ⟨h.app, h.secrets, h.readonlyDbs, h.currentPort, h.deferred, h.causes⟩

/-- Any error. -/
def AnyError (_ : Failure) : Prop := True

theorem ordinary_anyError : Ordinary AnyError := ⟨trivial, trivial, trivial, trivial⟩

theorem readable_anyError : Readable env AnyError := .inr trivial

variable {a : App} [hI : Stable a I]

include hI

theorem isLeader_iff (hs : I s) : isLeader env s = true ↔ env.hook.unit = a.leader := by
  unfold isLeader
  rw [decide_eq_true_iff, (Stable.framed s hs).leader]

theorem within_defer : Within I S defer :=
  .modify fun s hs => Stable.write s _ hs ⟨rfl, fun _ => rfl⟩ rfl

theorem within_blockOn (rid : RelId) (message : String) : Within I S (blockOn rid message) :=
  .modify fun s hs => Stable.write s _ hs ⟨rfl, fun _ => rfl⟩ rfl

theorem within_writeUnit (key value : String) : Within I S (writeUnit env key value) :=
  .modify fun s hs => Stable.write s _ hs ⟨rfl, fun _ => rfl⟩ rfl

theorem within_popUnit (key : String) : Within I S (popUnit env key) :=
  .modify fun s hs => Stable.write s _ hs ⟨rfl, fun _ => rfl⟩ rfl

theorem within_modifyBackend (f : Backend → Backend) : Within I S (modifyBackend f) :=
  .modify fun s hs => Stable.write s _ hs ⟨rfl, fun _ => rfl⟩ rfl

theorem within_putRelation (rid : RelId) (r : Relation) :
    Within I S (modifyApp fun a => a.putRelation rid r) := by
  apply Within.modify
  intro s hs
  exact Stable.write s _ hs ⟨rfl, fun rid' => Dict.contains_modify _ _ _ _⟩ rfl

theorem within_writeApplication (hu : env.hook.unit = a.leader ∨ S .relationDataAccessError)
    {f : State → State} (hf : ∀ s, Framed s.app (f s) ∧ (f s).activations = s.activations) :
    Within I S (writeApplication env f) := by
  unfold writeApplication
  apply Within.get_bind
  intro s hs
  apply Within.ite
  · exact fun _ => .modify fun s hs => Stable.write s _ hs (hf s).1 (hf s).2
  · intro hn
    apply Within.fail
    rcases hu with hu | hu
    · exact absurd ((isLeader_iff hs).mpr hu) hn
    · exact hu

theorem within_setRelationDatabases (hu : env.hook.unit = a.leader ∨ S .relationDataAccessError)
    (dbs : Dbs) : Within I S (setRelationDatabases env dbs) :=
  within_writeApplication hu fun _ => ⟨⟨rfl, fun _ => rfl⟩, rfl⟩

theorem within_collectReadonlyDbs : Within I S (collectReadonlyDbs env) := by
  unfold collectReadonlyDbs
  apply Within.get_bind
  intro s hs
  apply Within.when
  intro h
  apply Within.when
  intro _
  exact within_writeApplication (.inl ((isLeader_iff hs).mp h.1))
    fun _ => ⟨⟨rfl, fun _ => rfl⟩, rfl⟩

omit hI in
theorem within_withRelation {rid : RelId} {f : Relation → Handler Unit}
    (hf : ∀ r, Within I S (f r)) : Within I S (withRelation rid f) := by
  unfold withRelation
  apply Within.get_bind
  intro s hs
  cases s.app.relations.get? rid with
  | none => exact .pure ()
  | some r => exact hf r

variable (ho : Ordinary S)

include ho

/-! ## The charm and its peers -/

theorem within_onUpdateStatus (hv : Readable env S) : Within I S (onUpdateStatus env) := by
  unfold onUpdateStatus
  apply Within.bind (within_updateStatus ho)
  intro _
  apply Within.bind within_collectReadonlyDbs
  intro _
  exact within_updateClientConnectionInfo ho hv

theorem within_applyConfig (hv : Readable env S) (listenPort : ℕ) (portChanged : Bool) :
    Within I S (applyConfig env listenPort portChanged) := by
  unfold applyConfig
  apply Within.get_bind
  intro s hs
  apply Within.bind
  · apply Within.when
    intro _
    apply Within.tryCatch (within_renderPgbConfig ho portChanged)
    intro e he
    exact .ite (fun _ => within_defer) fun _ => .fail he
  intro _
  apply Within.bind
  · apply Within.when
    intro h
    exact within_writeApplication (.inl ((isLeader_iff hs).mp h.1))
      fun _ => ⟨⟨rfl, fun _ => rfl⟩, rfl⟩
  intro _
  apply Within.bind (within_updateStatus ho)
  intro _
  apply Within.get_bind
  intro s hs
  apply Within.when
  intro _
  apply Within.bind (within_checkServiceConnectivity ho hv)
  intro _
  exact .when fun _ => within_updateClientConnectionInfo ho hv

theorem within_onConfigChanged : Within I S (onConfigChanged env) := by
  unfold onConfigChanged
  apply Within.get_bind
  intro s hs
  apply Within.ite
  · intro _
    apply within_checked
    intro valid hv
    apply Within.when
    intro h
    apply Within.bind (within_config (hv h))
    intro c
    apply Within.bind
    · exact .ite (fun _ => within_reconcileK8sService ho (hv h) _) fun _ => .pure true
    intro _
    exact .when fun _ => within_applyConfig ho (hv h) _ _
  · exact fun _ => within_defer

theorem within_onPebbleReady (hv : Readable env S) : Within I S (onPebbleReady env) := by
  unfold onPebbleReady initConfig
  apply Within.bind
  · exact .bind (.when fun _ => .fail ho.pebble) fun _ => .when fun _ => .fail ho.other
  intro _
  apply Within.bind (within_writeUnit _ _)
  intro _
  apply Within.bind within_renderAuthFile
  intro _
  apply Within.bind (.when fun _ => within_pushFile)
  intro _
  apply Within.get_bind
  intro s hs
  apply Within.bind (within_generateMonitoringService hv _)
  intro startup
  apply Within.bind (within_addLayer ho _)
  intro _
  apply Within.bind (within_renderPgbConfig ho false)
  intro _
  apply Within.bind (within_replan ho startup)
  intro _
  exact .bind (within_updateStatus ho) fun _ => within_writeUnit _ _

theorem within_peers_onChanged (hv : Readable env S) :
    Within I S (Peers.onChanged env) := by
  unfold Peers.onChanged
  apply Within.bind (within_writeUnit _ _)
  intro _
  apply Within.get_bind
  intro s hs
  apply Within.ite
  · intro _
    apply Within.bind (within_renderPgbConfig ho false)
    intro _
    apply Within.get_bind
    intro s hs
    apply Within.bind (within_toggleMonitoringLayer ho hv _)
    intro _
    apply Within.bind (within_writeUnit _ _)
    intro _
    apply Within.get_bind
    intro s hs
    apply Within.when
    intro _
    apply within_checked
    intro valid hv
    exact .when fun h => within_updateEndpoints ho (hv h) _
  · exact fun _ => within_defer

theorem within_peers_onDeparted (hv : Readable env S) :
    Within I S (Peers.onDeparted env) := by
  unfold Peers.onDeparted
  apply Within.bind (within_updateClientConnectionInfo ho hv)
  intro _
  exact .get_bind fun s hs => .when fun _ => within_updateEndpoints ho hv _

/-! ## The backend -/

omit hI in
theorem within_removeAuthFunction (dbs : List String) :
    Within (Framed a) S (removeAuthFunction env dbs) := by
  apply Within.forEach
  intro dbname _
  unfold removeAuthFunctionFrom
  apply Within.bind (within_modifyBackend _)
  intro _
  apply Within.get_bind
  intro s hs
  apply Within.ite
  · intro _
    apply Within.ite
    · exact fun _ => .fail ho.other
    · exact fun _ => .when fun _ => .fail ho.psycopg2
  · exact fun _ => .when fun _ => .modify fun _ hs => hs.activated

theorem within_initialiseAuthFunction (dbname : String) :
    Within I S (initialiseAuthFunction env dbname) := by
  unfold initialiseAuthFunction
  exact .bind (within_modifyBackend _) fun _ => .when fun _ => .fail ho.psycopg2

theorem within_renderCreated (hv : Readable env S) : Within I S (renderCreated env) := by
  unfold renderCreated
  apply Within.bind within_renderAuthFile
  intro _
  apply Within.bind (within_renderPgbConfig ho false)
  intro _
  exact .bind (within_toggleMonitoringLayer ho hv true) fun _ => within_updateStatus ho

theorem within_onDatabaseCreated (hv : Readable env S) :
    Within I S (BackendDatabaseRequires.onDatabaseCreated env) := by
  unfold BackendDatabaseRequires.onDatabaseCreated
    BackendDatabaseRequires.onDatabaseCreatedNonLeader
  apply Within.get_bind
  intro s hs
  apply Within.ite
  · intro hl
    apply Within.bind (within_setStatus (.maintenance _))
    intro _
    apply Within.bind within_pgbRunning
    intro running
    apply Within.ite
    · intro _
      apply Within.get_bind
      intro s _
      cases s.secrets.authUser with
      | none => exact within_defer
      | some authUser =>
        apply Within.ite
        · exact fun _ => within_defer
        intro _
        rcases Auth.createUsers (env.created s) s.secrets authUser with _ | ⟨secrets, created⟩
        · exact .fail ho.other
        · apply Within.bind
          · exact within_writeApplication (.inl ((isLeader_iff hs).mp hl))
              fun _ => ⟨⟨rfl, fun _ => rfl⟩, rfl⟩
          intro _
          exact .ite (fun _ => within_renderCreated ho hv) fun _ => within_defer
    · exact fun _ => within_defer
  · intro _
    apply Within.get_bind
    intro s _
    apply Within.when
    intro _
    exact .ite (fun _ => within_renderCreated ho hv) fun _ => within_defer

theorem within_onEndpointsChanged (hv : Readable env S) :
    Within I S (BackendDatabaseRequires.onEndpointsChanged env) := by
  unfold BackendDatabaseRequires.onEndpointsChanged
  exact .bind (within_renderPgbConfig ho false) fun _ => within_updateClientConnectionInfo ho hv

theorem within_backend_onRelationChanged (hv : Readable env S) :
    Within I S (BackendDatabaseRequires.onRelationChanged env) := by
  unfold BackendDatabaseRequires.onRelationChanged
  exact .bind within_pgbRunning fun _ => .when fun _ => within_onEndpointsChanged ho hv

omit hI in
theorem within_removeAuthUser : Within (Framed a) S (removeAuthUser env) := by
  unfold removeAuthUser
  apply Within.bind
  · apply Within.tryCatch (T := S)
    · apply Within.get_bind
      intro s hs
      exact .bind (within_removeAuthFunction ho _) fun _ => .pure true
    · intro e he
      apply Within.ite
      · exact fun _ => .bind (within_setStatus .removeAuth) fun _ => .pure false
      · exact fun _ => .fail he
  · exact fun _ => .when fun _ => .fail ho.other

omit hI in
theorem within_backend_onRelationDeparted (hv : Readable env S) (id : RelId)
    (departing : Departing) :
    Within (Framed a) S (BackendDatabaseRequires.onRelationDeparted env id departing) := by
  unfold BackendDatabaseRequires.onRelationDeparted
  apply Within.bind (within_renderPgbConfig ho false)
  intro _
  apply Within.bind (within_updateClientConnectionInfo ho hv)
  intro _
  apply Within.get_bind
  intro s hs
  apply Within.ite
  · exact fun _ => within_writeUnit _ _
  · exact fun _ => .when fun _ => within_removeAuthUser ho

theorem within_backend_onRelationBroken (hv : Readable env S) (id : RelId) :
    Within I S (BackendDatabaseRequires.onRelationBroken env id) := by
  unfold BackendDatabaseRequires.onRelationBroken
  apply Within.get_bind
  intro s hs
  apply Within.when
  intro _
  apply Within.bind (within_toggleMonitoringLayer ho hv false)
  intro _
  apply Within.bind within_deleteFile
  intro _
  apply Within.bind
  · apply Within.when
    intro hl
    exact within_writeApplication (.inl ((isLeader_iff hs).mp hl))
      fun _ => ⟨⟨rfl, fun _ => rfl⟩, rfl⟩
  intro _
  exact .bind (within_renderPgbConfig ho false) fun _ => within_setStatus .noBackend

/-! ## The legacy relations -/

omit hI in
theorem within_removeUnused (dbs : Dbs) (database : Option String) :
    Within (Framed a) S (removeUnused env dbs database) := by
  unfold removeUnused
  cases database with
  | none => exact .pure ()
  | some name => exact .when fun _ => within_removeAuthFunction ho _

theorem within_deleteUser (user : String) : Within I S (deleteUser env user) := by
  unfold deleteUser
  exact .ite (fun _ => within_modifyBackend _) fun _ => .fail ho.other

omit hI in
theorem within_db_create (rid : RelId) (r : Relation) (user password database : String) :
    Within (Framed a) S (DbProvides.create env rid r user password database) := by
  unfold DbProvides.create
  apply Within.get_bind
  intro s hs
  apply Within.bind (within_setStatus (.maintenance _))
  intro _
  apply Within.bind (within_modifyBackend _)
  intro _
  apply Within.ite
  · intro _
    apply Within.bind
    · exact .ite (fun _ => .modify fun _ hs => hs.activated) fun _ =>
        .modify fun _ hs => ⟨hs.leader, hs.contains⟩
    intro _
    apply Within.bind (within_updateStatus ho)
    intro _
    exact .bind (within_removeAuthFunction ho _) fun _ => within_initialiseAuthFunction ho _
  · exact fun _ => .ite (fun _ => within_blockOn _ _) fun _ => .fail ho.other

omit hI in
theorem within_onRelationJoined (lower : String → String) (rid : RelId) (r : Relation) :
    Within (Framed a) S (DbProvides.onRelationJoined env lower rid r) := by
  unfold DbProvides.onRelationJoined
  apply Within.get_bind
  intro s hs
  apply Within.when
  intro hl
  apply Within.bind within_checkBackend
  intro ready
  apply Within.ite
  · intro _
    rcases DbProvides.blockOnExtensions env.hook true r with ⟨r', block⟩
    apply Within.bind (within_putRelation rid r')
    intro _
    apply Within.ite
    · exact fun _ => within_blockOn _ _
    intro _
    apply Within.get_bind
    intro s _
    cases r'.remote.get "database" with
    | none => exact within_defer
    | some database =>
      apply Within.bind (within_setRelationDatabases (.inl ((isLeader_iff hs).mp hl)) _)
      intro _
      apply Within.ite
      · exact fun _ => .bind (within_putRelation rid _) fun _ => within_db_create ho _ _ _ _ _
      · exact fun _ => within_defer
  · exact fun _ => within_defer

theorem within_db_onRelationChanged (hv : Readable env S) (rid : RelId) (r : Relation) :
    Within I S (DbProvides.onRelationChanged env rid r) := by
  unfold DbProvides.onRelationChanged
  apply Within.bind within_checkBackend
  intro ready
  apply Within.ite
  · intro _
    split
    · apply Within.bind (within_renderPgbConfig ho false)
      intro _
      apply Within.get_bind
      intro s hs
      apply Within.when
      intro _
      apply Within.bind (within_config hv)
      intro _
      apply Within.bind (within_db_updateConnectionInfo ho r)
      intro _
      cases env.version with
      | none => exact .fail ho.other
      | some version => exact within_putRelation rid _
    · exact within_defer
  · exact fun _ => within_defer

omit hI in
theorem within_teardown (hu : env.hook.unit = a.leader ∨ S .relationDataAccessError) (rid : RelId)
    (user : String) : Within (Framed a) S (DbProvides.teardown env rid user) := by
  unfold DbProvides.teardown
  apply Within.get_bind
  intro s hs
  apply Within.bind (within_setRelationDatabases hu _)
  intro _
  apply Within.bind
  · apply Within.when
    intro _
    exact .bind (within_deleteUser ho _) fun _ => within_removeUnused ho _ _
  · exact fun _ => within_checkForBlockingRelations (fun _ hs => hs.activated) rid

omit hI in
theorem within_db_onRelationBroken (hu : env.hook.unit = a.leader ∨ S .relationDataAccessError)
    (rid : RelId) (r : Relation) :
    Within (Framed a) S (DbProvides.onRelationBroken env rid r) := by
  unfold DbProvides.onRelationBroken
  apply Within.get_bind
  intro s hs
  apply Within.when
  intro _
  apply Within.bind within_checkBackend
  intro ready
  split
  · exact within_teardown ho hu rid _
  · unfold DbProvides.abandon
    apply Within.get_bind
    intro s hs
    exact .ite (fun _ => within_defer) fun _ =>
      within_checkForBlockingRelations (fun _ hs => hs.activated) rid

/-! ## The client relations -/

omit hI in
theorem within_create (rid : RelId) (r : Relation) (database : String) :
    Within (Framed a) S (PgBouncerProvider.create env rid r database) := by
  unfold PgBouncerProvider.create
  apply Within.get_bind
  intro s hs
  apply Within.bind (within_modifyBackend _)
  intro _
  apply Within.ite
  · intro _
    apply Within.bind (within_removeAuthFunction ho _)
    intro _
    apply Within.bind (within_initialiseAuthFunction ho _)
    intro _
    apply Within.bind (within_renderPgbConfig ho false)
    intro _
    exact .bind (within_putRelation rid _) fun _ => within_updateConnectionInfo ho rid _
  · exact fun _ => .ite (fun _ => within_blockOn _ _) fun _ => .fail ho.other

omit hI in
theorem within_onDatabaseRequested (hv : Readable env S) (lower : String → String) (rid : RelId)
    (r : Relation) (database : String) :
    Within (Framed a) S (PgBouncerProvider.onDatabaseRequested env lower rid r database) := by
  unfold PgBouncerProvider.onDatabaseRequested
  apply Within.get_bind
  intro s hs
  apply Within.when
  intro hl
  apply Within.bind within_checkBackend
  intro ready
  apply Within.ite
  · intro _
    apply Within.bind (within_getHostsPorts ho hv)
    intro endpoints
    apply Within.ite
    · exact fun _ => within_defer
    intro _
    apply Within.bind (within_setRelationDatabases (.inl ((isLeader_iff hs).mp hl)) _)
    intro _
    exact .ite (fun _ => within_create ho rid r database) fun _ => within_defer
  · exact fun _ => within_defer

omit hI in
theorem within_client_onRelationBroken (rid : RelId) (r : Relation) :
    Within (Framed a) S (PgBouncerProvider.onRelationBroken env rid r) := by
  unfold PgBouncerProvider.onRelationBroken PgBouncerProvider.teardown
  apply Within.bind (within_updateConnectionInfo ho rid r)
  intro _
  apply Within.bind within_checkBackend
  intro ready
  apply Within.get_bind
  intro s hs
  apply Within.when
  intro h
  apply Within.ite
  · exact fun _ => within_popUnit _
  intro _
  apply Within.bind (within_setRelationDatabases (.inl ((isLeader_iff hs).mp h.2)) _)
  intro _
  apply Within.bind (within_removeUnused ho _ _)
  intro _
  apply Within.tryCatch (T := S) (within_deleteUser ho _)
  exact fun e he => .bind (within_setStatus (.deleteUser _)) fun _ => .fail he

/-- Either `relation-departed` handler. -/
theorem within_onRelationDeparted (rid : RelId) (r : Relation) (departing : Departing) :
    Within I S (DbProvides.onRelationDeparted env rid r departing) ∧
      Within I S (PgBouncerProvider.onRelationDeparted env rid r departing) := by
  unfold DbProvides.onRelationDeparted PgBouncerProvider.onRelationDeparted
  constructor
  · apply Within.get_bind
    intro s hs
    exact .ite (fun _ => within_writeUnit _ _) fun _ => within_putRelation rid _
  · exact .bind (within_updateConnectionInfo ho rid r) fun _ => .when fun _ => within_writeUnit _ _

/-! ## The upgrade -/

theorem within_storeSecrets (hu : env.hook.unit = a.leader) (secrets : Option Auth.Charm) :
    Within I S (storeSecrets env secrets) := by
  unfold storeSecrets
  cases secrets with
  | none => exact .fail ho.other
  | some secrets => exact within_writeApplication (.inl hu) fun _ => ⟨⟨rfl, fun _ => rfl⟩, rfl⟩

theorem within_onUpgradeChanged : Within I S (PgbouncerUpgrade.onUpgradeChanged env) := by
  unfold PgbouncerUpgrade.onUpgradeChanged
  exact .bind within_pgbRunning fun _ => .when fun _ => within_renderPgbConfig ho false

theorem within_setUnitCompleted : Within I S (PgbouncerUpgrade.setUnitCompleted env) := by
  unfold PgbouncerUpgrade.setUnitCompleted
  apply Within.bind (within_setStatus (.maintenance _))
  intro _
  apply Within.bind
  · exact .modify fun s hs => Stable.write s { s with completed := true } hs ⟨rfl, fun _ => rfl⟩ rfl
  intro _
  exact .get_bind fun s hs => .when fun _ => within_onUpgradeChanged ho

theorem within_upgrade_onPebbleReady (hv : Readable env S) :
    Within I S (PgbouncerUpgrade.onPebbleReady env) := by
  unfold PgbouncerUpgrade.onPebbleReady
  apply Within.get_bind
  intro s hs
  apply Within.ite
  · exact fun _ => .fail ho.pebble
  intro _
  apply Within.ite
  · exact fun _ => within_defer
  intro _
  apply Within.when
  intro _
  apply Within.bind
  · apply Within.when
    intro hl
    apply Within.bind (within_reconcileK8sService ho hv false)
    intro _
    apply Within.bind (.forEach fun p _ => within_updateConnectionInfo ho p.1 p.2)
    intro _
    exact within_storeSecrets ho ((isLeader_iff hs).mp hl) _
  intro _
  apply Within.bind
  · unfold PgbouncerUpgrade.handleMd5MonitoringAuth
    apply Within.get_bind
    intro s hs
    exact .when fun hl => within_storeSecrets ho ((isLeader_iff hs).mp hl) _
  intro _
  apply Within.bind
  · unfold PgbouncerUpgrade.clusterChecks
    exact .bind within_pgbRunning fun _ => .get_bind fun _ _ => .pure _
  intro passed
  apply Within.ite
  · exact fun _ => .bind (within_setUnitCompleted ho) fun _ => within_updateStatus ho
  · exact fun _ => within_defer

/-! ## All handlers -/

/-- The handlers that neither remove an auth function nor tear a relation
    down. -/
theorem within_handle_of_stable (hv : Readable env S) (lower : String → String) {ev : Event}
    (hbackend : ∀ id departing, ev ≠ .backendDeparted id departing)
    (hjoined : ∀ rid, ev ≠ .joined rid)
    (hrequested : ∀ rid database, ev ≠ .requested rid database)
    (hbroken : ∀ rid, ev ≠ .broken rid) : Within I S (handle env lower ev) := by
  cases ev with
  | updateStatus => exact within_onUpdateStatus ho hv
  | configChanged => exact within_onConfigChanged ho
  | pebbleReady => exact within_onPebbleReady ho hv
  | leaderElected => exact within_updateClientConnectionInfo ho hv
  | peerCreated => exact within_writeUnit _ _
  | peerChanged => exact within_peers_onChanged ho hv
  | secretChanged => exact within_peers_onChanged ho hv
  | peerDeparted => exact within_peers_onDeparted ho hv
  | databaseCreated => exact within_onDatabaseCreated ho hv
  | endpointsChanged => exact within_onEndpointsChanged ho hv
  | backendChanged => exact within_backend_onRelationChanged ho hv
  | backendDeparted id departing => exact absurd rfl (hbackend id departing)
  | backendBroken id => exact within_backend_onRelationBroken ho hv id
  | joined rid => exact absurd rfl (hjoined rid)
  | changed rid =>
    exact within_withRelation fun r => .when fun _ => within_db_onRelationChanged ho hv rid r
  | requested rid database => exact absurd rfl (hrequested rid database)
  | departed rid departing =>
    exact within_withRelation fun r => .ite
      (fun _ => (within_onRelationDeparted ho rid r departing).1)
      fun _ => (within_onRelationDeparted ho rid r departing).2
  | broken rid => exact absurd rfl (hbroken rid)
  | upgradePebbleReady => exact within_upgrade_onPebbleReady ho hv
  | upgradeChanged => exact within_onUpgradeChanged ho

omit hI in
/-- What a handler can raise. Only the `relation-broken` of a legacy relation
    writes application data on a follower. -/
theorem within_handle (hv : Readable env S) (lower : String → String) (ev : Event)
    (hu : (∃ rid, ev = .broken rid) → env.hook.unit = a.leader ∨ S .relationDataAccessError) :
    Within (Framed a) S (handle env lower ev) := by
  cases ev with
  | backendDeparted id departing => exact within_backend_onRelationDeparted ho hv id departing
  | joined rid =>
    exact within_withRelation fun r => .when fun _ => within_onRelationJoined ho lower rid r
  | requested rid database =>
    exact within_withRelation fun r => .when fun _ =>
      within_onDatabaseRequested ho hv lower rid r database
  | broken rid =>
    exact within_withRelation fun r => .ite
      (fun _ => within_db_onRelationBroken ho (hu ⟨rid, rfl⟩) rid r)
      fun _ => within_client_onRelationBroken ho rid r
  | _ => exact within_handle_of_stable ho hv lower nofun nofun nofun nofun

end PgBouncerK8s.Operator
