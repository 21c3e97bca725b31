import PgBouncerK8s.Operator.ConfigErrors
import PgBouncerK8s.Operator.Blocked

/-!
# The peer handler and the Pebble plan

`Peers._on_changed` (`relations/peers.py`, lines 116–142) calls
`render_pgb_config`, `toggle_monitoring_layer` and, through both of them,
`check_pgb_running`. Each looks for the services in the plan and raises
`PebbleConnectionError` at the first that is not there, unless it stops earlier:
at a service that does not restart, or one that is not active. The first leaves
an empty plan alone, the second adds the metrics service to it. None of the
errors is caught: neither these, nor what Pebble raises where a service does not
restart or it does not replan, nor the `ValueError` of a port that cannot be
read.

`container_initialised` is set by the first `pebble-ready` and outlives the
container.

* `reload_returns`, `toggle_returns`: when the two return, for any plan.
* `tolerates_iff`: the states from which the handler defers its event or
  completes.
* `not_tolerates_restarted`: the plan of a restarted pod.
-/

namespace PgBouncerK8s.Operator

open PgBouncerK8s.Action

/-! ## The condition -/

/-- `check_pgb_running` finds the services that it looks for in the plan; it
    ends at the first that is not active. -/
def findsServices (s : State) : List String → Bool
  | [] => true
  | name :: names =>
    match s.services.get? name with
    | none => false
    | some status => status ≠ .active || findsServices s names

/-- With the backend ready the layer is applied behind a replan, and then all
    instances that are in the plan are active. -/
def togglesLayer (env : Env) (s : State) : Bool :=
  if ready env s then
    ((CharmConfig.build env.options).isSome || (s.secrets.passwords .monitoring).isNone) &&
      env.replans && (serviceNames env).all fun name => (s.services.get? name).isSome
  else findsServices s (serviceNames env)

/-- `get_hosts_ports` returns, with a valid configuration. -/
def answersHosts (env : Env) : Bool :=
  env.service ≠ .failed && (env.service ≠ .found || env.endpointsOk)

/-- `update_endpoints` returns, where the leader calls it. -/
def publishesEndpoints (env : Env) (s : State) : Bool :=
  !(isLeader env s && (CharmConfig.build env.options).isSome &&
    asksEndpoints env (s.app.relationsOf .database)) || answersHosts env

/-- The services can be reloaded, and the metrics service is found in a plan that
    is not empty. -/
def reloadsServices (env : Env) (s : State) : Bool :=
  (serviceNames env).all (reloads env s) &&
    (s.services.items = [] || !ready env s || (s.services.get? metricsService).isSome)

/-- Each part of the handler returns. With a valid configuration all instances
    are active when `toggle_monitoring_layer` is called. -/
def changedPasses (env : Env) (s : State) : Bool :=
  publishesEndpoints env s &&
    if (CharmConfig.build env.options).isSome then
      env.filesOk && reloadsServices env s && (!ready env s || env.replans)
    else togglesLayer env s

/-- `PebbleConnectionError` does not escape from the handler: it returns, with
    its event deferred or not. -/
structure Tolerates (env : Env) (s : State) : Prop where
  noEscape : ((Peers.onChanged env).run s).1 ≠ .error .pebbleConnectionError
  returns : ((Peers.onChanged env).run s).1 = .ok ()

variable {env : Env} {s t : State}

theorem tolerates_iff_returns : Tolerates env s ↔ Returns (Peers.onChanged env) s := by
  constructor
  · exact fun h => ⟨(), h.returns⟩
  · rintro ⟨⟨⟩, h⟩
    exact ⟨by rw [h]; nofun, h⟩

/-! ## Looking services up -/

/-- The application and the secrets are the same, and the plan but for the
    metrics service. -/
structure SamePlan (s t : State) : Prop where
  app : t.app = s.app
  secrets : t.secrets = s.secrets
  services : ∀ name, name ≠ metricsService → t.services.get? name = s.services.get? name

theorem SamePlan.refl (s : State) : SamePlan s s := ⟨rfl, rfl, fun _ _ => rfl⟩

theorem SamePlan.trans {u : State} (h : SamePlan s t) (h' : SamePlan t u) : SamePlan s u :=
  ⟨h'.app.trans h.app, h'.secrets.trans h.secrets, fun name hn =>
    (h'.services name hn).trans (h.services name hn)⟩

theorem ready_congr (h : t.secrets = s.secrets) : ready env t = ready env s := by
  unfold ready postgres
  rw [h]

theorem ne_metricsService {name : String} (h : name ∈ serviceNames env) :
    name ≠ metricsService := by
  rintro rfl
  exact metricsService_not_mem h

section Lookup

variable {names : List String}

theorem findsServices_congr (h : ∀ name ∈ names, t.services.get? name = s.services.get? name) :
    findsServices t names = findsServices s names := by
  induction names with
  | nil => rfl
  | cons name names ih =>
    rw [findsServices, findsServices, h name List.mem_cons_self,
      ih fun name' hn => h name' (List.mem_cons_of_mem _ hn)]

theorem SamePlan.findsServices (h : SamePlan s t) :
    findsServices t (serviceNames env) = findsServices s (serviceNames env) :=
  findsServices_congr fun name hn => h.services name (ne_metricsService hn)

/-- Active services are walked past. -/
theorem findsServices_append_active {names' : List String}
    (h : ∀ name ∈ names, s.services.get? name = some .active) :
    Operator.findsServices s (names ++ names') = Operator.findsServices s names' := by
  induction names with
  | nil => rfl
  | cons name names ih =>
    rw [List.cons_append, Operator.findsServices, h name List.mem_cons_self,
      ih fun name' hn => h name' (List.mem_cons_of_mem _ hn)]
    rfl

/-- A service at the end that is in the plan makes no difference. -/
theorem findsServices_append_present {name : String}
    (h : (s.services.get? name).isSome = true) :
    Operator.findsServices s (names ++ [name]) = Operator.findsServices s names := by
  obtain ⟨status, hstatus⟩ := Option.isSome_iff_exists.mp h
  induction names with
  | nil => simp [Operator.findsServices, hstatus]
  | cons name' names ih => rw [List.cons_append, Operator.findsServices, Operator.findsServices, ih]

/-- Where all services of the plan run, only one that is not in it stops the
    walk. -/
theorem findsServices_of_running (h : ∀ name ∈ names,
      t.services.get? name = (s.services.get? name).map fun _ => ServiceStatus.active) :
    Operator.findsServices t names = names.all fun name => (s.services.get? name).isSome := by
  induction names with
  | nil => rfl
  | cons name names ih =>
    rw [Operator.findsServices, h name List.mem_cons_self, List.all_cons,
      ih fun name' hn => h name' (List.mem_cons_of_mem _ hn)]
    cases s.services.get? name <;> rfl

end Lookup

/-! ## `check_pgb_running` -/

theorem checkServices_returns (names : List String) :
    Returns (checkServices env names) s ↔ findsServices s names = true := by
  induction names with
  | nil => exact iff_of_true (returns_of_ok rfl) rfl
  | cons name names ih =>
    rw [checkServices, returns_bind_of_ok (run_get s), findsServices]
    cases s.services.get? name with
    | none => exact iff_of_false returns_fail Bool.false_ne_true
    | some status =>
      rw [returns_ite]
      split_ifs with ha
      · simpa [ha] using ih
      · -- the service is reported, and only one that can be is restarted
        have hstop : (decide (status ≠ .active) || findsServices s names) = true := by simp [ha]
        refine iff_of_true ?_ hstop
        rw [returns_bind (p := True), and_true, returns_when]
        · exact fun _ => returns_of_ok rfl
        intro _ t _
        rw [returns_bind_pure, returns_when]
        refine iff_true_intro fun hm => ?_
        unfold restart
        rw [if_pos hm.2]
        exact returns_of_ok rfl

theorem within_checkServices_samePlan (names : List String) :
    Within (SamePlan s) AnyError (checkServices env names) := by
  induction names with
  | nil => exact .pure true
  | cons name names ih =>
    rw [checkServices]
    apply Within.get_bind
    intro t ht
    cases t.services.get? name with
    | none => exact .fail trivial
    | some status =>
      apply Within.ite (fun _ => ih)
      intro _
      apply Within.bind
      · exact .when fun _ => .modify fun u hu => ⟨hu.app, hu.secrets, hu.services⟩
      intro _
      refine .bind (.when fun hm => ?_) fun _ => .pure false
      unfold restart
      apply Within.ite
      · refine fun _ => .modify fun u hu => ⟨hu.app, hu.secrets, fun name' hn => ?_⟩
        rw [Dict.get?_modify, if_neg (hm.1 ▸ hn), hu.services name' hn]
      · exact fun _ => .fail trivial

theorem within_checkPgbRunning_samePlan : Within (SamePlan s) AnyError (checkPgbRunning env) := by
  unfold checkPgbRunning
  apply Within.get_bind
  intro t _
  apply Within.ite (fun _ => within_checkServices_samePlan _)
  intro _
  apply Within.bind
  · exact .when fun _ => .modify fun u hu => ⟨hu.app, hu.secrets, hu.services⟩
  · exact fun _ => .pure false

theorem checkPgbRunning_returns (hcan : env.canConnect = true) :
    Returns (checkPgbRunning env) s ↔ findsServices s
      (serviceNames env ++ if ready env s then [metricsService] else []) = true := by
  unfold checkPgbRunning
  rw [returns_bind_of_ok (run_get s), if_pos hcan]
  exact checkServices_returns _

/-! ## `toggle_monitoring_layer` -/

/-- The state behind `add_layer` for the metrics service. -/
def layered (s : State) : State :=
  { s with services :=
      if s.services.contains metricsService then s.services
      else s.services.set metricsService .inactive }

theorem addLayer_run (hcan : env.canConnect = true) :
    (addLayer env [metricsService]).run s = (.ok (), layered s) := by
  unfold addLayer
  rw [if_pos hcan]
  rfl

theorem samePlan_layered : SamePlan s (layered s) := by
  refine ⟨rfl, rfl, fun name hn => ?_⟩
  unfold layered
  split_ifs
  · rfl
  · exact Dict.get?_set_of_ne _ hn _

theorem isSome_layered : ((layered s).services.get? metricsService).isSome = true := by
  unfold layered
  split_ifs with h
  · exact h
  · simp

theorem samePlan_stopMetrics : SamePlan s (stopMetrics.run s).2 := by
  refine ⟨rfl, rfl, fun name hn => ?_⟩
  unfold stopMetrics
  rw [run_modify, Dict.get?_modify, if_neg hn]

theorem disabled_returns (hcan : env.canConnect = true) (hready : ready env s = false)
    (startup : Bool) : Returns (applyMonitoringLayer env false startup) s ↔
      findsServices s (serviceNames env) = true := by
  have hsame : SamePlan s (stopMetrics.run (layered s)).2 :=
    samePlan_layered.trans samePlan_stopMetrics
  unfold applyMonitoringLayer
  rw [returns_bind_of_ok (addLayer_run hcan)]
  show Returns (checkPgbRunning env >>= fun _ => pure ()) (stopMetrics.run (layered s)).2 ↔ _
  rw [returns_bind_pure, checkPgbRunning_returns hcan, ready_congr hsame.secrets, hready,
    if_neg Bool.false_ne_true, List.append_nil, hsame.findsServices]

/-- The state behind `replan`. -/
def replanned (startup : Bool) (s : State) : State :=
  let services := s.services.mapValues fun _ => ServiceStatus.active
  { s with services :=
      if startup then services
      else services.modify metricsService fun _ =>
        (s.services.get? metricsService).getD .inactive }

theorem get?_replanned {startup : Bool} {name : String} (hn : name ≠ metricsService) :
    (replanned startup s).services.get? name =
      (s.services.get? name).map fun _ => ServiceStatus.active := by
  unfold replanned
  simp only
  split_ifs
  · rw [Dict.get?_mapValues]
  · rw [Dict.get?_modify, if_neg hn, Dict.get?_mapValues]

theorem isSome_replanned {startup : Bool}
    (h : (s.services.get? metricsService).isSome = true) :
    ((replanned startup s).services.get? metricsService).isSome = true := by
  unfold replanned
  simp only
  split_ifs
  · rwa [Dict.get?_mapValues, Option.isSome_map]
  · rwa [Dict.get?_modify, if_pos rfl, Option.isSome_map, Dict.get?_mapValues, Option.isSome_map]

theorem enabled_returns (hcan : env.canConnect = true) (hready : ready env s = true)
    (startup : Bool) : Returns (applyMonitoringLayer env true startup) s ↔
      (env.replans && (serviceNames env).all fun name => (s.services.get? name).isSome) = true := by
  unfold applyMonitoringLayer
  rw [returns_bind_of_ok (addLayer_run hcan)]
  cases hre : env.replans with
  | true =>
    have hreplan : (Action.when (true = true) (replan env startup)).run (layered s) =
        (.ok (), replanned startup (layered s)) := by
      unfold replan
      rw [run_when, if_pos rfl, hre, if_pos rfl]
      rfl
    -- every service in the plan runs now, and the metrics service is in it
    have hrun : ∀ name ∈ serviceNames env, (replanned startup (layered s)).services.get? name =
        (s.services.get? name).map fun _ => ServiceStatus.active := by
      intro name hn
      have hne := ne_metricsService hn
      rw [get?_replanned hne, samePlan_layered.services name hne]
    have hready' : ready env (replanned startup (layered s)) = true := hready
    rw [returns_bind_of_ok hreplan, Bool.true_and]
    show Returns (checkPgbRunning env >>= fun _ => pure ()) (replanned startup (layered s)) ↔ _
    rw [returns_bind_pure, checkPgbRunning_returns hcan, hready', if_pos rfl,
      findsServices_append_present (isSome_replanned isSome_layered),
      findsServices_of_running hrun]
  | false =>
    have hreplan : (Action.when (true = true) (replan env startup)).run (layered s) =
        (.error .changeError, layered s) := by
      unfold replan
      rw [run_when, if_pos rfl, hre, if_neg Bool.false_ne_true]
      rfl
    rw [Bool.false_and]
    exact iff_of_false (not_returns_of_error (run_bind_error hreplan _)) Bool.false_ne_true

theorem toggle_returns (hcan : env.canConnect = true) :
    Returns (toggleMonitoringLayer env (ready env s)) s ↔ togglesLayer env s = true := by
  unfold toggleMonitoringLayer togglesLayer
  cases hready : ready env s with
  | false =>
    have hgen : (generateMonitoringService env false).run s = (.ok false, s) := rfl
    rw [returns_bind_of_ok hgen]
    exact disabled_returns hcan hready false
  | true =>
    rw [if_pos rfl]
    cases hpw : s.secrets.passwords .monitoring with
    | none =>
      have hgen : (generateMonitoringService env true).run s = (.ok false, s) := by
        simp [generateMonitoringService, hpw]
      rw [returns_bind_of_ok hgen, enabled_returns hcan hready]
      simp
    | some password =>
      rcases hc : CharmConfig.build env.options with _ | c
      · -- the port is read for the command of the metrics service
        have hgen : (generateMonitoringService env true).run s = (.error .valueError, s) := by
          simp [generateMonitoringService, hpw, config_invalid hc]
        exact iff_of_false (not_returns_of_error (run_bind_error hgen _)) Bool.false_ne_true
      · have hgen : (generateMonitoringService env true).run s = (.ok true, s) := by
          simp [generateMonitoringService, hpw, config_valid hc]
        rw [returns_bind_of_ok hgen, enabled_returns hcan hready]
        simp

theorem togglesLayer_congr (hsec : t.secrets = s.secrets) (hserv : t.services = s.services) :
    togglesLayer env t = togglesLayer env s := by
  unfold togglesLayer
  rw [ready_congr hsec, findsServices_congr fun name _ => congrArg (Dict.get? · name) hserv, hsec,
    hserv]

/-- In an empty plan there must be no instances. -/
theorem togglesLayer_of_empty (hc : (CharmConfig.build env.options).isSome = true)
    (h : s.services.items = []) :
    togglesLayer env s = (reloadsServices env s && (!ready env s || env.replans)) := by
  have hget : ∀ name, s.services.get? name = none := (Dict.items_eq_nil_iff _).mp h
  unfold togglesLayer reloadsServices reloads
  rw [hc, decide_eq_true h]
  cases serviceNames env with
  | nil => cases ready env s <;> simp [findsServices]
  | cons name names => simp [findsServices, hget]

/-- Where all instances are active, only the replan can fail. -/
theorem togglesLayer_of_active (hc : (CharmConfig.build env.options).isSome = true)
    (h : ∀ name ∈ serviceNames env, s.services.get? name = some .active) :
    togglesLayer env s = (!ready env s || env.replans) := by
  unfold togglesLayer
  cases ready env s with
  | true =>
    have hall : ((serviceNames env).all fun name => (s.services.get? name).isSome) = true :=
      List.all_eq_true.mpr fun name hn => by rw [h name hn]; rfl
    rw [if_pos rfl, hc, hall, Bool.and_true]
    rfl
  | false =>
    have hactive : findsServices s (serviceNames env ++ []) = findsServices s [] :=
      findsServices_append_active h
    rw [List.append_nil] at hactive
    exact hactive

/-! ## `render_pgb_config` -/

theorem reload_returns (hcan : env.canConnect = true) (hitems : s.services.items ≠ []) :
    Returns (reloadAndCheck env) s ↔ reloadsServices env s = true := by
  unfold reloadAndCheck reloadsServices
  cases hall : (serviceNames env).all (reloads env s) with
  | true =>
    obtain ⟨services, hrun, hactive, hother⟩ := reload_ok _ (List.all_eq_true.mp hall)
    have hready : ready env { s with services := services } = ready env s := rfl
    rw [returns_bind_of_ok hrun, returns_bind_pure, checkPgbRunning_returns hcan,
      findsServices_append_active hactive, hready, Bool.true_and, decide_eq_false hitems,
      Bool.false_or, ← hother _ metricsService_not_mem]
    cases ready env s with
    | false => rfl
    | true => cases hm : services.get? metricsService <;> simp [findsServices, hm]
  | false =>
    obtain ⟨e, services, hrun⟩ :=
      reload_error (serviceNames env) (by simpa using List.all_eq_false.mp hall)
    rw [Bool.false_and]
    exact iff_of_false (not_returns_of_error (run_bind_error hrun _)) Bool.false_ne_true

theorem active_of_reloadAndCheck (h : (reloadAndCheck env).run s = (.ok (), t)) :
    t.app = s.app ∧ t.secrets = s.secrets ∧
      ∀ name ∈ serviceNames env, t.services.get? name = some .active := by
  unfold reloadAndCheck at h
  obtain ⟨_, u, hloop, hcheck⟩ := run_bind_eq_ok h
  cases hall : (serviceNames env).all (reloads env s) with
  | true =>
    obtain ⟨services, hrun, hactive, -⟩ := reload_ok _ (List.all_eq_true.mp hall)
    rw [hrun] at hloop
    cases hloop
    obtain ⟨running, v, hv, hvt⟩ := run_bind_eq_ok hcheck
    cases hvt
    have hsame : SamePlan { s with services := services } t :=
      within_checkPgbRunning_samePlan.ok (.refl _) hv
    refine ⟨hsame.app, hsame.secrets, fun name hn => ?_⟩
    rw [hsame.services name (ne_metricsService hn)]
    exact hactive name hn
  | false =>
    obtain ⟨e, services, hrun⟩ :=
      reload_error (serviceNames env) (by simpa using List.all_eq_false.mp hall)
    rw [hrun] at hloop
    cases hloop

/-! ## The rest of the handler -/

theorem getHostsPorts_returns (hc : (CharmConfig.build env.options).isSome = true) :
    Returns (getHostsPorts env) s ↔ answersHosts env = true := by
  obtain ⟨c, hc⟩ := Option.isSome_iff_exists.mp hc
  unfold getHostsPorts getService answersHosts
  rw [config_valid hc]
  cases env.service with
  | failed => exact iff_of_false returns_fail (by simp)
  | missing => exact iff_of_true (returns_of_ok rfl) (by simp)
  | found =>
    show Returns (if env.endpointsOk = true then _ else _) s ↔ _
    rw [returns_ite]
    cases env.endpointsOk with
    | true => exact iff_of_true (returns_of_ok rfl) rfl
    | false => exact iff_of_false returns_fail (by decide)

theorem updateEndpoints_returns (hc : (CharmConfig.build env.options).isSome = true)
    (l : List (RelId × Relation)) : Returns (PgBouncerProvider.updateEndpoints env l) s ↔
      (asksEndpoints env l = true → answersHosts env = true) := by
  induction l generalizing s with
  | nil => exact iff_of_true (returns_of_ok rfl) nofun
  | cons p l ih =>
    obtain ⟨rid, r⟩ := p
    unfold PgBouncerProvider.updateEndpoints asksEndpoints
    cases env.hasRemoteData rid with
    | false => exact ih
    | true =>
      rw [if_neg (by decide), if_pos rfl, returns_when, Bool.and_eq_true]
      apply forall_congr'
      intro _
      rw [returns_bind fun _ _ _ => ih, getHostsPorts_returns hc]
      exact and_iff_left_of_imp fun h _ => h

/-- The end of the handler, behind `toggle_monitoring_layer`. -/
def publishHash (env : Env) (dbs : Dbs) : Handler Unit := do
  writeUnit env "pgb_dbs" (env.hash dbs)
  let s ← Action.get
  Action.when (isLeader env s = true) do
    let valid ← configurationCheck env
    Action.when (valid = true)
      (PgBouncerProvider.updateEndpoints env (s.app.relationsOf .database))

theorem publishHash_returns (dbs : Dbs) :
    Returns (publishHash env dbs) s ↔ publishesEndpoints env s = true := by
  unfold publishHash publishesEndpoints writeUnit
  rw [returns_bind_of_ok (run_modify _ s), returns_bind_of_ok (run_get _), returns_when]
  show (isLeader env s = true → _) ↔ _
  cases isLeader env s with
  | false => exact iff_of_true nofun rfl
  | true =>
    rcases hc : CharmConfig.build env.options with _ | c
    · rw [configurationCheck_invalid hc]
      exact iff_of_true (fun _ => returns_of_ok rfl) rfl
    · rw [configurationCheck_valid hc]
      show (true = true → Returns (PgBouncerProvider.updateEndpoints env
        (s.app.relationsOf .database)) _) ↔ _
      rw [updateEndpoints_returns (by rw [hc]; rfl)]
      cases asksEndpoints env (s.app.relationsOf .database) <;> simp

theorem publishesEndpoints_congr (h : t.app = s.app) :
    publishesEndpoints env t = publishesEndpoints env s := by
  unfold publishesEndpoints isLeader
  rw [h]

/-- The handler behind its test of the container. -/
def renderAndPublishHash (env : Env) : Handler Unit := do
  renderPgbConfig env false
  let s ← Action.get
  toggleMonitoringLayer env (ready env s)
  publishHash env s.app.databases

/-- The state behind the address that the handler writes first. -/
def addressed (env : Env) (s : State) : State :=
  setUnitDatabag env s ((unitDatabag env s).set "private-address" env.hostname)

/-- The condition does not look at the address. -/
theorem changedPasses_addressed : changedPasses env (addressed env s) = changedPasses env s := by
  unfold changedPasses
  rw [togglesLayer_congr (s := s) (t := addressed env s) rfl rfl]
  rfl

theorem isContainerReady_addressed : isContainerReady env (addressed env s) =
    isContainerReady env s := by
  unfold isContainerReady addressed
  rw [unitDatabag_setUnitDatabag, Databag.contains, Databag.get_set_of_ne _ (by decide)]
  rfl

theorem onChanged_run : (Peers.onChanged env).run s =
    if isContainerReady env s = true then (renderAndPublishHash env).run (addressed env s)
    else defer.run (addressed env s) := by
  rw [← isContainerReady_addressed, ← run_ite]
  rfl

/-- The layer and the end of the handler, behind `render_pgb_config`. -/
theorem toggleAndPublish_returns (hcan : env.canConnect = true) :
    Returns (do
      let s ← Action.get
      toggleMonitoringLayer env (ready env s)
      publishHash env s.app.databases : Handler Unit) s ↔
        togglesLayer env s = true ∧ publishesEndpoints env s = true := by
  rw [returns_bind_of_ok (run_get s), returns_bind (p := publishesEndpoints env s = true),
    toggle_returns hcan]
  intro _ t ht
  have hdata : SameData s t :=
    (within_toggleMonitoringLayer ordinary_anyError readable_anyError _).ok (.refl s) ht
  rw [publishHash_returns, publishesEndpoints_congr hdata.app]

theorem renderAndPublishHash_returns (hcan : env.canConnect = true) :
    Returns (renderAndPublishHash env) s ↔ changedPasses env s = true := by
  unfold renderAndPublishHash changedPasses
  rw [Bool.and_eq_true]
  rcases hc : CharmConfig.build env.options with _ | c
  · have htoggle : togglesLayer env { s with status := .blocked configurationError } =
        togglesLayer env s := togglesLayer_congr rfl rfl
    have hpublish : publishesEndpoints env { s with status := .blocked configurationError } =
        publishesEndpoints env s := publishesEndpoints_congr rfl
    rw [returns_bind_of_ok (renderPgbConfig_invalid hc false), toggleAndPublish_returns hcan,
      htoggle, hpublish, and_comm]
    rfl
  · have hvalid : (CharmConfig.build env.options).isSome = true := by rw [hc]; rfl
    have hrender := renderPgbConfig_run (s := s) hc
    rw [hcan, if_pos rfl] at hrender
    rw [Option.isSome_some, if_pos rfl]
    cases hfiles : env.filesOk with
    | false =>
      rw [hfiles, if_neg Bool.false_ne_true] at hrender
      rw [Bool.false_and, Bool.false_and]
      exact iff_of_false (not_returns_of_error (run_bind_error hrender _)) fun h => nomatch h.2
    | true =>
      rw [hfiles, if_pos rfl] at hrender
      rw [Bool.true_and]
      split_ifs at hrender with hitems
      · rw [returns_bind_of_ok hrender, toggleAndPublish_returns hcan,
          togglesLayer_of_empty hvalid hitems, and_comm]
      · have hreload : Returns (renderPgbConfig env false) s ↔ reloadsServices env s = true := by
          rw [← reload_returns hcan hitems]
          unfold Returns
          rw [hrender]
        rw [returns_bind (p := (!ready env s || env.replans) = true ∧
          publishesEndpoints env s = true), hreload, Bool.and_eq_true]
        · tauto
        intro _ t ht
        obtain ⟨happ, hsec, hactive⟩ := active_of_reloadAndCheck (hrender.symm.trans ht)
        rw [toggleAndPublish_returns hcan, togglesLayer_of_active hvalid hactive,
          publishesEndpoints_congr happ, ready_congr hsec]

/-- The handler defers its event or completes, and lets no
    `PebbleConnectionError` escape, exactly when the container is not ready or
    every part of the handler returns. -/
theorem tolerates_iff (env : Env) (s : State) :
    Tolerates env s ↔ (isContainerReady env s = true → changedPasses env s = true) := by
  have hreturns : Returns (Peers.onChanged env) s ↔
      if isContainerReady env s = true then Returns (renderAndPublishHash env) (addressed env s)
      else Returns defer (addressed env s) := by
    unfold Returns
    rw [onChanged_run]
    split_ifs <;> rfl
  rw [tolerates_iff_returns, hreturns]
  split_ifs with hready
  · have hcan : env.canConnect = true := (Bool.and_eq_true_iff.mp hready).1
    rw [renderAndPublishHash_returns hcan, changedPasses_addressed]
    exact ⟨fun h _ => h, fun h => h hready⟩
  · exact iff_of_true (returns_of_ok rfl) fun h => absurd h hready

/-! ## A restarted pod -/

/-- The plan is empty, and the databag still says that the container has been
    initialised. -/
def restartedPod : State where
  app := { sampleDeployment.app with
    peerUnit := fun _ => Databag.empty.set "container_initialised" "True" }
  secrets := sampleDeployment.secrets
  readonlyDbs := none
  currentPort := none
  status := .active
  services := .empty
  deferred := false
  completed := false
  causes := []
  activations := []

/-- The exception escapes from the handler. -/
theorem not_tolerates_restarted : ¬ Tolerates (sampleEnv 0) restartedPod := by
  intro h
  exact h.noEscape (by decide)

end PgBouncerK8s.Operator
