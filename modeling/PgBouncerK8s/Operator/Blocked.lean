import PgBouncerK8s.Operator.Removal

/-!
# What the handlers do to the status

The effect of the handlers of client-facing relations on the status of the
leader while the backend is ready. A handler keeps the status, blocks the unit
on behalf of its relation, or replaces the status by one of its own.

* `joined_verdict`, `requested_verdict`, `departed_change`, `db_broken_change`,
  `client_broken_change`: which of the three a handler does.
-/

namespace PgBouncerK8s.Operator

open PgBouncerK8s.Action
open Text (str)

variable {env : Env} {s t : State} {lower : String → String} {rid : RelId} {r : Relation}

/-- What an action has made of the status: `kept` it, or `dropped` it for one of
    the charm's own. -/
inductive Change (s t : State) : Bool → Prop
  | kept : t.status = s.status → t.causes = s.causes → Change s t false
  | dropped : t.status.Own → t.causes = s.causes → Change s t true

/-- What a handler for relation `rid` has made of the status: a change as above,
    or it `failed` to serve the relation and has blocked the unit with a
    message. -/
inductive Verdict (s : State) (rid : RelId) (t : State) : Bool → Option String → Prop
  | change {b : Bool} : Change s t b → Verdict s rid t b none
  | failed (message : String) : t.status = .blocked message →
      t.causes = s.causes ++ [(rid, message)] → Verdict s rid t false (some message)

theorem Change.of_kept {u : State} {b : Bool} (h : Change t u b) (hst : t.status = s.status)
    (hc : t.causes = s.causes) : Change s u b := by
  cases h with
  | kept hst' hc' => exact .kept (hst'.trans hst) (hc'.trans hc)
  | dropped hown hc' => exact .dropped hown (hc'.trans hc)

theorem Change.then_kept {u : State} {b : Bool} (h : Change s t b) (hst : u.status = t.status)
    (hc : u.causes = t.causes) : Change s u b := by
  cases h with
  | kept hst' hc' => exact .kept (hst.trans hst') (hc.trans hc')
  | dropped hown hc' => exact .dropped (hst ▸ hown) (hc.trans hc')

theorem Verdict.of_kept {u : State} {b : Bool} {o : Option String} (h : Verdict t rid u b o)
    (hst : t.status = s.status) (hc : t.causes = s.causes) : Verdict s rid u b o := by
  cases h with
  | change h => exact .change (h.of_kept hst hc)
  | failed message hst' hc' => exact .failed message hst' (by rw [hc', hc])

/-- The status is that of `s`, or the charm's own. -/
def Settled (s t : State) : Prop := (t.status = s.status ∨ t.status.Own) ∧ t.causes = s.causes

instance (s : State) : Quiet (Settled s) where
  status _ _ h hs := ⟨.inr h, hs.2⟩
  services _ _ hs := hs
  active _ _ _ hs := ⟨.inr .active, hs.2⟩

theorem Settled.refl (s : State) : Settled s s := ⟨.inl rfl, rfl⟩

theorem Settled.trans {u : State} (h : Settled s t) (h' : Settled t u) : Settled s u := by
  refine ⟨?_, h'.2.trans h.2⟩
  rcases h'.1 with he | hown
  · rw [he]
    exact h.1
  · exact .inr hown

theorem Settled.dropped {u : State} (h : Settled t u) (hst : t.status.Own)
    (hc : t.causes = s.causes) : Change s u true := by
  refine .dropped ?_ (h.2.trans hc)
  rcases h.1 with he | hown
  · rwa [he]
  · exact hown

/-- The state `t` is `s` but for the status and application data: the leader is
    the same. -/
structure Near (s t : State) : Prop where
  leader : t.app.leader = s.app.leader
  secrets : t.secrets = s.secrets
  services : t.services = s.services
  causes : t.causes = s.causes

theorem Near.trans {u : State} (h : Near s t) (h' : Near t u) : Near s u :=
  ⟨h'.leader.trans h.leader, h'.secrets.trans h.secrets, h'.services.trans h.services,
    h'.causes.trans h.causes⟩

theorem Near.isLeader (h : Near s t) : isLeader env t = isLeader env s := by
  unfold Operator.isLeader
  rw [h.leader]

theorem Near.postgres (h : Near s t) : postgres env t = postgres env s := by
  unfold Operator.postgres
  rw [h.secrets]

theorem Near.ready (h : Near s t) : ready env t = ready env s := by
  unfold Operator.ready
  rw [h.postgres, h.secrets]

theorem Near.healthy (h : Near s t) : healthy env t = healthy env s :=
  healthy_congr h.leader h.secrets fun _ => by rw [h.services]

theorem Near.skipsName (h : Near s t) (dbname : String) :
    skipsName env t dbname = skipsName env s dbname := by
  unfold Operator.skipsName
  rw [h.postgres]

theorem modifyApp_run {f : App → App} (hf : ∀ a, (f a).leader = a.leader) :
    ∃ t, (modifyApp f).run s = (.ok (), t) ∧ Near s t ∧ t.status = s.status ∧
      t.activations = s.activations :=
  ⟨_, rfl, ⟨hf s.app, rfl, rfl, rfl⟩, rfl, rfl⟩

theorem modifyBackend_run (f : Backend → Backend) :
    ∃ t, (modifyBackend f).run s = (.ok (), t) ∧ Near s t ∧ t.status = s.status ∧
      t.activations = s.activations :=
  modifyApp_run fun _ => rfl

theorem setRelationDatabases_run (hl : Operator.isLeader env s = true) (dbs : Dbs) :
    ∃ t, (setRelationDatabases env dbs).run s = (.ok (), t) ∧ Near s t ∧ t.status = s.status ∧
      t.activations = s.activations :=
  ⟨_, writeApplication_leader hl _, ⟨rfl, rfl, rfl, rfl⟩, rfl, rfl⟩

/-- Whatever the status was, the new one is the charm's own, or recorded as a
    failure of relation `rid`. -/
def Answered (s : State) (rid : RelId) (t : State) : Prop :=
  Settled s t ∨
    ∃ message, t.status = .blocked message ∧ t.causes = s.causes ++ [(rid, message)]

theorem Change.settled {b : Bool} (h : Change s t b) : Settled s t := by
  cases h with
  | kept hst hc => exact ⟨.inl hst, hc⟩
  | dropped hown hc => exact ⟨.inr hown, hc⟩

theorem Verdict.answered {b : Bool} {o : Option String} (h : Verdict s rid t b o) :
    Answered s rid t := by
  cases h with
  | change h => exact .inl h.settled
  | failed message hst hc => exact .inr ⟨message, hst, hc⟩

theorem Answered.of_settled {u : State} (h : Answered t rid u) (hs : Settled s t) :
    Answered s rid u := by
  rcases h with h | ⟨message, hst, hc⟩
  · exact .inl (hs.trans h)
  · exact .inr ⟨message, hst, by rw [hc, hs.2]⟩

/-- What an action that keeps an invariant leaves satisfies it. -/
theorem within_after {α : Type} {I : State → Prop} {m : Handler α} (h : Within I AnyError m)
    (hs : I s) : I (m.run s).2 := by
  have hm := h s hs
  rcases hr : m.run s with ⟨_ | _, t⟩
  · rw [hr] at hm
    exact hm.2
  · rw [hr] at hm
    exact hm

/-! ## The workload -/

/-- The service runs after `render_pgb_config` has reloaded it. -/
def reloads (env : Env) (s : State) (name : String) : Bool :=
  (s.services.get? name).any fun status => status = .active || env.restarts name

theorem reloadService_ok {name : String} (h : reloads env s name = true) :
    ∃ services, (reloadService env false name).run s = (.ok (), { s with services := services }) ∧
      services.get? name = some .active ∧
      ∀ name', name' ≠ name → services.get? name' = s.services.get? name' := by
  unfold reloadService
  rw [run_get_bind]
  obtain ⟨status, hget, hst⟩ := (Option.any_eq_true _ _).mp h
  rw [hget]
  simp only [run_when, restart, run_ite, Bool.false_eq_true, false_or]
  by_cases ha : status = .active
  · rw [if_neg (not_not.mpr ha)]
    exact ⟨s.services, rfl, by rw [hget, ha], fun _ _ => rfl⟩
  · have hr : env.restarts name = true := by simpa [ha] using hst
    rw [if_pos ha, if_pos hr]
    refine ⟨_, rfl, ?_, ?_⟩
    · rw [Dict.get?_modify, if_pos rfl, hget]
      rfl
    · intro name' hne
      rw [Dict.get?_modify, if_neg hne]

theorem reloadService_error {name : String} (h : reloads env s name = false) :
    ∃ e, (reloadService env false name).run s = (.error e, s) := by
  unfold reloadService
  rw [run_get_bind]
  unfold reloads at h
  rcases hget : s.services.get? name with _ | status
  · exact ⟨_, rfl⟩
  · have hst : status ≠ .active ∧ env.restarts name = false := by simpa [hget] using h
    refine ⟨.changeError, ?_⟩
    simp only [run_when, restart, run_ite]
    simp [hst]

/-- The loop returns if each service can be reloaded; then all of them are
    active, and no other service has changed. -/
theorem reload_ok (names : List String) (h : ∀ name ∈ names, reloads env s name = true) :
    ∃ services, (Action.forEach (reloadService env false) names).run s =
        (.ok (), { s with services := services }) ∧
      (∀ name ∈ names, services.get? name = some .active) ∧
      ∀ name, name ∉ names → services.get? name = s.services.get? name := by
  induction names generalizing s with
  | nil => exact ⟨s.services, rfl, by simp, fun _ _ => rfl⟩
  | cons name names ih =>
    obtain ⟨services, hrun, hactive, hother⟩ := reloadService_ok (h name List.mem_cons_self)
    have hnames : ∀ name' ∈ names, reloads env { s with services := services } name' = true := by
      intro name' hmem
      unfold reloads
      by_cases hn : name' = name
      · rw [hn, hactive]
        rfl
      · rw [hother name' hn]
        exact h name' (List.mem_cons_of_mem _ hmem)
    obtain ⟨services', hrun', hactive', hother'⟩ := ih hnames
    refine ⟨services', (run_bind_ok hrun _).trans hrun', ?_, ?_⟩
    · intro name' hmem
      by_cases hn : name' ∈ names
      · exact hactive' name' hn
      · rw [hother' name' hn, (List.mem_cons.mp hmem).resolve_right hn, hactive]
    · intro name' hmem
      obtain ⟨hne, hnm⟩ := not_or.mp (mt List.mem_cons.mpr hmem)
      rw [hother' name' hnm, hother name' hne]

theorem reload_error (names : List String) (h : ∃ name ∈ names, reloads env s name = false) :
    ∃ e services, (Action.forEach (reloadService env false) names).run s =
      (.error e, { s with services := services }) := by
  induction names generalizing s with
  | nil => simp at h
  | cons name names ih =>
    cases hr : reloads env s name with
    | false =>
      obtain ⟨e, hrun⟩ := reloadService_error hr
      exact ⟨e, s.services, run_bind_error hrun _⟩
    | true =>
      obtain ⟨services, hrun, hactive, hother⟩ := reloadService_ok hr
      obtain ⟨name', hmem, hbad⟩ := h
      have hne : name' ≠ name := by
        rintro rfl
        rw [hr] at hbad
        cases hbad
      have hbad' : reloads env { s with services := services } name' = false := by
        unfold reloads
        rw [hother name' hne]
        exact hbad
      obtain ⟨e, services', hrun'⟩ :=
        ih ⟨name', (List.mem_cons.mp hmem).resolve_left hne, hbad'⟩
      exact ⟨e, services', (run_bind_ok hrun _).trans hrun'⟩

theorem checkServices_active (names names' : List String)
    (h : ∀ name ∈ names, s.services.get? name = some .active) :
    (checkServices env (names ++ names')).run s = (checkServices env names').run s := by
  induction names with
  | nil => rfl
  | cons name names ih =>
    rw [List.cons_append, checkServices, run_get_bind, h name List.mem_cons_self]
    exact ih fun name' hmem => h name' (List.mem_cons_of_mem _ hmem)

theorem metricsService_not_mem : metricsService ∉ serviceNames env := by
  unfold serviceNames metricsService
  intro h
  obtain ⟨i, -, hi⟩ := List.mem_map.mp h
  exact Text.append_ne (by decide) _ hi

/-- The metrics service does not run, which `check_pgb_running` reports unless
    the unit is blocked for extensions. -/
def metricsDown (s : State) : Bool :=
  (s.services.get? metricsService).any (fun status => status ≠ .active) &&
    s.status.message ≠ DbProvides.extensionsBlockingMessage

/-- `render_pgb_config` gets to `check_pgb_running`, which reports that the
    metrics service does not run. -/
def renderReports (env : Env) (s : State) : Bool :=
  env.canConnect && env.filesOk && (serviceNames env).all (reloads env s) && metricsDown s

/-- The end of the loop of `check_pgb_running` for the metrics service. -/
theorem restarting_run (env : Env) (s : State) :
    ∃ t, (do
      Action.when (metricsService = metricsService ∧ env.restarts metricsService = true)
        (restart env metricsService)
      return false : Handler Bool).run s = (.ok false, t) ∧
      t.status = s.status ∧ t.causes = s.causes := by
  rw [run_bind, run_when, restart]
  cases env.restarts metricsService with
  | true => exact ⟨_, rfl, rfl, rfl⟩
  | false => exact ⟨_, rfl, rfl, rfl⟩

/-- Where the instances run, `check_pgb_running` gets to the metrics service:
    there is none, it is active, or it is reported unless the unit is blocked
    for extensions. -/
theorem checkPgbRunning_cases (hcan : env.canConnect = true) (hready : ready env s = true)
    (hactive : ∀ name ∈ serviceNames env, s.services.get? name = some .active) :
    (s.services.get? metricsService = none ∧
      (checkPgbRunning env).run s = (.error .pebbleConnectionError, s)) ∨
    (s.services.get? metricsService = some .active ∧ (checkPgbRunning env).run s = (.ok true, s)) ∨
    ∃ status t, s.services.get? metricsService = some status ∧ status ≠ .active ∧
      (checkPgbRunning env).run s = (.ok false, t) ∧ t.causes = s.causes ∧
      t.status = if s.status.message = DbProvides.extensionsBlockingMessage then s.status
        else .blocked (pgbNotRunning metricsService status) := by
  unfold checkPgbRunning
  rw [run_get_bind, hcan, if_pos rfl, hready, if_pos rfl, checkServices_active _ _ hactive,
    checkServices, run_get_bind]
  rcases s.services.get? metricsService with _ | status
  · exact .inl ⟨rfl, rfl⟩
  by_cases ha : status = .active
  · subst ha
    exact .inr (.inl ⟨rfl, rfl⟩)
  refine .inr (.inr ?_)
  simp only [if_neg ha]
  by_cases hm : s.status.message = DbProvides.extensionsBlockingMessage
  · obtain ⟨t, hrun, hst, hcauses⟩ := restarting_run env s
    rw [run_bind, run_when, if_neg (not_not.mpr hm)]
    exact ⟨status, t, rfl, ha, hrun, hcauses, hst.trans (if_pos hm).symm⟩
  · obtain ⟨t, hrun, hst, hcauses⟩ := restarting_run env
      { s with status := .blocked (pgbNotRunning metricsService status) }
    rw [run_bind, run_when, if_pos hm]
    exact ⟨status, t, rfl, ha, hrun, hcauses, hst.trans (if_neg hm).symm⟩

theorem Near.renderReports (h : Near s t) (hst : t.status = s.status) :
    renderReports env t = renderReports env s := by
  unfold Operator.renderReports metricsDown reloads
  rw [h.services, hst]

theorem checkPgbRunning_change (hcan : env.canConnect = true) (hready : ready env s = true)
    (hactive : ∀ name ∈ serviceNames env, s.services.get? name = some .active) :
    Change s ((checkPgbRunning env).run s).2 (metricsDown s) := by
  unfold metricsDown
  obtain ⟨hm, hrun⟩ | ⟨hm, hrun⟩ | ⟨status, t, hm, ha, hrun, hcauses, hst⟩ :=
    checkPgbRunning_cases hcan hready hactive
  · rw [hm, hrun]
    exact .kept rfl rfl
  · rw [hm, hrun]
    exact .kept rfl rfl
  · rw [hm, hrun, Option.any_some, decide_eq_true ha, Bool.true_and]
    by_cases hext : s.status.message = DbProvides.extensionsBlockingMessage
    · rw [if_pos hext] at hst
      rw [decide_eq_false (not_not.mpr hext)]
      exact .kept hst hcauses
    · rw [if_neg hext] at hst
      rw [decide_eq_true hext]
      refine .dropped ?_ hcauses
      rw [hst]
      exact .notRunning _ _

theorem metricsDown_services {services : Dict String ServiceStatus}
    (h : services.get? metricsService = s.services.get? metricsService) :
    metricsDown { s with services := services } = metricsDown s := by
  unfold metricsDown
  rw [h]

/-- The end of `render_pgb_config`, where there are services. -/
def reloadAndCheck (env : Env) : Handler Unit := do
  Action.forEach (reloadService env false) (serviceNames env)
  let _ ← checkPgbRunning env
  return ()

theorem renderPgbConfig_run {c : CharmConfig} (hc : CharmConfig.build env.options = some c) :
    (renderPgbConfig env false).run s =
      if env.canConnect = true then
        if env.filesOk = true then
          if s.services.items = [] then (.ok (), s) else (reloadAndCheck env).run s
        else (.error .other, s)
      else (.ok (), s) := by
  unfold renderPgbConfig
  rw [configurationCheck_valid hc, run_pure_bind, run_when]
  cases env.canConnect with
  | false => rfl
  | true =>
    rw [if_pos ⟨rfl, rfl⟩, config_valid hc, run_pure_bind, run_bind, run_when]
    cases env.filesOk with
    | false => rfl
    | true =>
      show (Action.when _ _).run s = _
      rw [run_when, ite_not]
      rfl

theorem renderPgbConfig_change {c : CharmConfig} (hc : CharmConfig.build env.options = some c)
    (hready : ready env s = true) :
    Change s ((renderPgbConfig env false).run s).2 (renderReports env s) := by
  unfold renderReports
  rw [renderPgbConfig_run hc]
  cases hcan : env.canConnect with
  | false => exact .kept rfl rfl
  | true =>
    cases env.filesOk with
    | false => exact .kept rfl rfl
    | true =>
      rw [if_pos rfl, if_pos rfl, Bool.true_and]
      by_cases hitems : s.services.items = []
      · have hdown : metricsDown s = false := by
          unfold metricsDown
          rw [(Dict.items_eq_nil_iff _).mp hitems metricsService]
          rfl
        rw [if_pos hitems, hdown, Bool.and_false]
        exact .kept rfl rfl
      rw [if_neg hitems, reloadAndCheck]
      cases hall : (serviceNames env).all (reloads env s) with
      | true =>
        obtain ⟨services, hrun, hactive, hother⟩ := reload_ok _ (List.all_eq_true.mp hall)
        rw [run_bind_ok hrun, run_bind_pure_snd, Bool.true_and, Bool.true_and,
          ← metricsDown_services (hother _ metricsService_not_mem)]
        have hv : Change { s with services := services } _ _ :=
          checkPgbRunning_change hcan hready hactive
        exact hv.of_kept rfl rfl
      | false =>
        obtain ⟨e, services, hrun⟩ :=
          reload_error (serviceNames env) (by simpa using List.all_eq_false.mp hall)
        rw [run_bind_error hrun]
        exact .kept rfl rfl

/-! ## The client relations -/

theorem provision_snd (b : Backend) (h : Hook) (user password database : String) :
    (b.provision h user password database).2 = (h.createUserOk && h.createDatabaseOk) := by
  unfold Backend.provision
  cases h.postgresV0 <;> cases h.createUserOk <;> cases h.createDatabaseOk <;> rfl

/-- `remove_auth_function` on the database clears "invalid database name". -/
def clearsName (env : Env) (s : State) (dbname : String) : Bool :=
  skipsName env s dbname && s.status = .blocked invalidDatabaseName

theorem Near.clearsName (h : Near s t) (hst : t.status = s.status) :
    clearsName env t = clearsName env s := by
  funext dbname
  unfold Operator.clearsName
  rw [h.skipsName, hst]

theorem Near.removable (h : Near s t) : removable env t = removable env s := by
  funext dbname
  unfold Operator.removable
  rw [h.skipsName, h.postgres]

theorem clearedStatus_of_clears {dbname : String} (h : clearsName env s dbname = true) :
    clearedStatus env s dbname = .active := by
  unfold clearedStatus
  rw [if_pos (by simpa [clearsName] using h)]

theorem clearedStatus_of_not {dbname : String} (h : clearsName env s dbname = false) :
    clearedStatus env s dbname = s.status := by
  unfold clearedStatus
  rw [if_neg (by simpa [clearsName] using h)]

theorem updateConnectionInfo_snd (hl : isLeader env s = true) (hready : ready env s = true) :
    ((PgBouncerProvider.updateConnectionInfo env rid r).run s).2 =
      if CharmConfig.build env.options = none then
        { s with status := .blocked configurationError }
      else s := by
  rw [updateConnectionInfo_run hl]
  simp only [hready, if_true]
  split_ifs <;> rfl

theorem postgres_of_ready (h : ready env s = true) : postgres env s = true := by
  unfold ready at h
  rw [Bool.and_eq_true, Bool.and_eq_true] at h
  exact h.1.1

/-- Setting up the auth function: it returns if the statements succeed. -/
theorem authFunction_run (hready : ready env s = true) (dbname : String) :
    ∃ e t, (do
        removeAuthFunction env [dbname]
        initialiseAuthFunction env dbname : Handler Unit).run s =
      (if env.sqlOk dbname then .ok () else .error e, t) ∧ Near s t ∧
        t.status = clearedStatus env s dbname ∧
        t.activations = clearedActivations env s dbname := by
  obtain ⟨e, hrun⟩ := removeAuthFunction_run env s dbname
  rw [run_bind, hrun]
  unfold removable removed initialiseAuthFunction modifyBackend modifyApp
  rw [postgres_of_ready hready, Bool.true_and]
  cases hsql : env.sqlOk dbname with
  | true =>
    rw [Bool.or_true, if_pos rfl]
    exact ⟨e, _, rfl, ⟨rfl, rfl, rfl, rfl⟩, rfl, rfl⟩
  | false =>
    rw [Bool.or_false]
    cases hskip : skipsName env s dbname with
    | true => exact ⟨.psycopg2Error, _, rfl, ⟨rfl, rfl, rfl, rfl⟩, rfl, rfl⟩
    | false => exact ⟨e, _, rfl, ⟨rfl, rfl, rfl, rfl⟩, rfl, rfl⟩

/-- The end of `create`, behind the auth function. -/
def renderAndPublish (env : Env) (rid : RelId) (r : Relation) : Handler Unit := do
  renderPgbConfig env false
  modifyApp fun a => a.putRelation rid r
  PgBouncerProvider.updateConnectionInfo env rid r

theorem renderAndPublish_change {c : CharmConfig} (hc : CharmConfig.build env.options = some c)
    (hl : isLeader env s = true) (hready : ready env s = true) (rid : RelId) (r : Relation) :
    Change s ((renderAndPublish env rid r).run s).2 (renderReports env s) := by
  have hv : Change s _ _ := renderPgbConfig_change hc hready
  have hd : SameData s ((renderPgbConfig env false).run s).2 :=
    within_after (within_renderPgbConfig ordinary_anyError false) (SameData.refl s)
  unfold renderAndPublish
  rw [run_bind]
  rcases hrun : (renderPgbConfig env false).run s with ⟨e | _, t⟩
  · rw [hrun] at hv
    exact hv
  · rw [hrun] at hv hd
    obtain ⟨u, hu, hnear, hst, -⟩ := modifyApp_run (s := t)
      (f := fun a => a.putRelation rid r) fun _ => rfl
    have hl' : isLeader env u = true := by rw [hnear.isLeader, hd.isLeader, hl]
    have hready' : ready env u = true := by rw [hnear.ready, hd.ready, hready]
    show Change s (Action.run (_ >>= _) t).2 _
    rw [run_bind_ok hu, updateConnectionInfo_snd hl' hready', if_neg (by simp [hc])]
    exact hv.then_kept hst hnear.causes

/-- The user or the database cannot be created, with an error that the handler
    names. -/
def createFails (env : Env) : Bool :=
  !(env.hook.createUserOk && env.hook.createDatabaseOk) && env.createErrorCaught

/-- The message of `create` where it fails. -/
def createMessage (env : Env) (ep : Endpoint) : String :=
  env.hook.createMessage.getD ("Failed to initialize relation " ++ ep.relationName)

/-- `create` replaces the status. -/
def createDrops (env : Env) (s : State) (database : String) : Bool :=
  env.hook.createUserOk && env.hook.createDatabaseOk &&
    (clearsName env s database || (env.sqlOk database && renderReports env s))

/-- The creation ends in `s₁` where user or database cannot be created, and in
    `s₂` or behind it else. -/
theorem create_run (hready : ready env s = true) (rid : RelId) (r : Relation) (database : String) :
    ∃ e r' s₁ s₂, (Near s s₁ ∧ s₁.status = s.status ∧ s₁.activations = s.activations) ∧
      (Near s s₂ ∧ s₂.status = clearedStatus env s database ∧
        s₂.activations = clearedActivations env s database) ∧
      (PgBouncerProvider.create env rid r database).run s =
        if env.hook.createUserOk && env.hook.createDatabaseOk then
          if env.sqlOk database then (renderAndPublish env rid r').run s₂ else (.error e, s₂)
        else if env.createErrorCaught then (blockOn rid (createMessage env r.endpoint)).run s₁
        else (.error .other, s₁) := by
  obtain ⟨s₁, h₁, hnear₁, hst₁, hact₁⟩ := modifyBackend_run (s := s)
    fun _ => (s.app.backend.provision env.hook (PgBouncerProvider.relationUser rid)
      env.hook.newPassword database).1
  obtain ⟨e, s₂, h₂, hnear₂, hst₂, hact₂⟩ := authFunction_run (hnear₁.ready.trans hready) database
  have hhealthy : healthy env s₁ = healthy env s := hnear₁.healthy
  refine ⟨e, PgBouncerProvider.setCredentials (PgBouncerProvider.relationUser rid)
    env.hook.newPassword database r, s₁, s₂, ⟨hnear₁, hst₁, hact₁⟩,
    ⟨hnear₁.trans hnear₂, ?_, ?_⟩, ?_⟩
  · rw [hst₂]
    unfold clearedStatus
    rw [hnear₁.skipsName, hst₁]
  · rw [hact₂]
    unfold clearedActivations
    rw [hnear₁.skipsName, hst₁, hact₁, hhealthy]
  · unfold PgBouncerProvider.create
    rw [run_get_bind]
    simp only [provision_snd]
    rw [run_bind_ok h₁, run_ite]
    cases env.hook.createUserOk && env.hook.createDatabaseOk with
    | false =>
      rw [if_neg Bool.false_ne_true, if_neg Bool.false_ne_true, run_ite]
      rfl
    | true =>
      rw [if_pos rfl, if_pos rfl, run_bind_assoc, run_bind, h₂]
      cases env.sqlOk database <;> rfl

theorem create_verdict {c : CharmConfig} (hc : CharmConfig.build env.options = some c)
    (hl : isLeader env s = true) (hready : ready env s = true) (database : String) :
    Verdict s rid ((PgBouncerProvider.create env rid r database).run s).2
      (createDrops env s database)
      (if createFails env then some (createMessage env r.endpoint) else none) := by
  obtain ⟨e, r', s₁, s₂, ⟨hnear₁, hst₁, -⟩, ⟨hnear₂, hst₂, -⟩, hrun⟩ :=
    create_run hready rid r database
  unfold createDrops createFails
  rw [hrun]
  cases env.hook.createUserOk && env.hook.createDatabaseOk with
  | false =>
    rw [if_neg Bool.false_ne_true, Bool.false_and]
    cases env.createErrorCaught with
    | true => exact .failed _ rfl (congrArg (· ++ _) hnear₁.causes)
    | false => exact .change (.kept hst₁ hnear₁.causes)
  | true =>
    have hrest := renderAndPublish_change hc (hnear₂.isLeader.trans hl) (hnear₂.ready.trans hready)
      rid r'
    rw [if_pos rfl, Bool.true_and]
    cases hclear : clearsName env s database with
    | true =>
      have hown : s₂.status.Own := by
        rw [hst₂, clearedStatus_of_clears hclear]
        exact .active
      cases env.sqlOk database with
      | false => exact .change (.dropped hown hnear₂.causes)
      | true => exact .change (hrest.settled.dropped hown hnear₂.causes)
    | false =>
      have hsame : s₂.status = s.status := by rw [hst₂, clearedStatus_of_not hclear]
      cases env.sqlOk database with
      | false => exact .change (.kept hsame hnear₂.causes)
      | true =>
        rw [Bool.false_or, Bool.true_and, ← hnear₂.renderReports hsame]
        exact .change (hrest.of_kept hsame hnear₂.causes)

/-- `get_hosts_ports` returns endpoints. -/
def hasEndpoints (env : Env) : Bool :=
  env.service = .found && (CharmConfig.build env.options).isSome && env.endpointsOk &&
    env.hook.readWriteEndpoints ≠ ""

theorem getHostsPorts_of_endpoints (h : hasEndpoints env = true) :
    (getHostsPorts env).run s = (.ok env.hook.readWriteEndpoints, s) ∧
      env.hook.readWriteEndpoints ≠ "" ∧ ∃ c, CharmConfig.build env.options = some c := by
  unfold hasEndpoints at h
  simp only [Bool.and_eq_true, decide_eq_true_eq, Option.isSome_iff_exists] at h
  obtain ⟨⟨⟨hs, c, hc⟩, hok⟩, hne⟩ := h
  refine ⟨?_, hne, c, hc⟩
  rw [getHostsPorts_run hc, serviceFails]
  simp [hs, hok]

theorem getHostsPorts_without (h : hasEndpoints env = false) :
    (∃ e, (getHostsPorts env).run s = (.error e, s)) ∨ (getHostsPorts env).run s = (.ok "", s) := by
  unfold getHostsPorts getService
  cases hs : env.service with
  | failed => exact .inl ⟨_, rfl⟩
  | missing => exact .inr rfl
  | found =>
    rcases hc : CharmConfig.build env.options with _ | c
    · rw [config_invalid hc]
      exact .inl ⟨_, rfl⟩
    · rw [config_valid hc]
      cases hok : env.endpointsOk with
      | false => exact .inl ⟨_, rfl⟩
      | true =>
        have hempty : env.hook.readWriteEndpoints = "" := by
          simpa [hasEndpoints, hs, hc, hok] using h
        rw [hempty]
        exact .inr rfl

/-- `_on_database_requested` gets to the creation of user and database. -/
def requestServes (env : Env) (lower : String → String) (s : State) (rid : RelId) (r : Relation)
    (database : String) : Bool :=
  hasEndpoints env &&
    env.hook.synced (PgBouncerProvider.requestDatabases lower s.app env.hook.unit rid r database)

theorem requested_run (hl : isLeader env s = true) (hready : ready env s = true)
    (lower : String → String) (rid : RelId) (r : Relation) (database : String) :
    let t := ((PgBouncerProvider.onDatabaseRequested env lower rid r database).run s).2
    (requestServes env lower s rid r database = false ∧ t.status = s.status ∧
        t.causes = s.causes ∧ t.activations = s.activations) ∨
      ∃ c s₁, requestServes env lower s rid r database = true ∧
        CharmConfig.build env.options = some c ∧ Near s s₁ ∧ s₁.status = s.status ∧
        s₁.activations = s.activations ∧
        (PgBouncerProvider.onDatabaseRequested env lower rid r database).run s =
          (PgBouncerProvider.create env rid r database).run s₁ := by
  unfold PgBouncerProvider.onDatabaseRequested requestServes
  rw [run_get_bind, run_when, if_pos hl, run_bind_ok (checkBackend_ready hready)]
  simp only [if_true]
  cases he : hasEndpoints env with
  | false =>
    refine .inl ⟨rfl, ?_⟩
    rcases getHostsPorts_without (s := s) he with ⟨e, hrun⟩ | hrun
    · rw [run_bind_error hrun]
      exact ⟨rfl, rfl, rfl⟩
    · rw [run_bind_ok hrun]
      exact ⟨rfl, rfl, rfl⟩
  | true =>
    obtain ⟨hrun, hne, c, hc⟩ := getHostsPorts_of_endpoints (s := s) he
    obtain ⟨t, ht, hnear, hst, hact⟩ := setRelationDatabases_run hl
      (PgBouncerProvider.requestDatabases lower s.app env.hook.unit rid r database)
    rw [run_bind_ok hrun, if_neg hne]
    simp only [run_bind_ok ht, Bool.true_and]
    rw [run_ite]
    cases env.hook.synced
        (PgBouncerProvider.requestDatabases lower s.app env.hook.unit rid r database) with
    | false => exact .inl ⟨rfl, hst, hnear.causes, hact⟩
    | true => exact .inr ⟨c, t, rfl, hc, hnear, hst, hact, rfl⟩

/-- The message with which `_on_database_requested` blocks the unit. -/
def requestBlocks (env : Env) (lower : String → String) (s : State) (rid : RelId) (r : Relation)
    (database : String) : Option String :=
  if requestServes env lower s rid r database && createFails env then
    some (createMessage env r.endpoint)
  else none

theorem requested_verdict (hl : isLeader env s = true) (hready : ready env s = true)
    (database : String) :
    Verdict s rid ((PgBouncerProvider.onDatabaseRequested env lower rid r database).run s).2
      (requestServes env lower s rid r database && createDrops env s database)
      (requestBlocks env lower s rid r database) := by
  unfold requestBlocks
  rcases requested_run hl hready lower rid r database with
    ⟨hno, hst, hc, -⟩ | ⟨c, s₁, hserves, hc, hnear, hst, -, ht⟩
  · rw [hno, Bool.false_and, Bool.false_and, if_neg Bool.false_ne_true]
    exact .change (.kept hst hc)
  · have hd : createDrops env s₁ database = createDrops env s database := by
      unfold createDrops clearsName
      rw [hnear.skipsName, hst, hnear.renderReports hst]
    rw [hserves, Bool.true_and, Bool.true_and, ht, ← hd]
    exact (create_verdict hc (hnear.isLeader.trans hl) (hnear.ready.trans hready) database).of_kept
      hst hnear.causes

/-! ## Departures -/

theorem updateConnectionInfo_change (hl : isLeader env s = true) (hready : ready env s = true)
    (rid : RelId) (r : Relation) :
    Change s ((PgBouncerProvider.updateConnectionInfo env rid r).run s).2
      (CharmConfig.build env.options).isNone := by
  rw [updateConnectionInfo_snd hl hready]
  rcases CharmConfig.build env.options with _ | c
  · exact .dropped .configuration rfl
  · exact .kept rfl rfl

theorem departed_change (hl : isLeader env s = true) (hready : ready env s = true)
    (departing : Departing) :
    Change s ((PgBouncerProvider.onRelationDeparted env rid r departing).run s).2
      (CharmConfig.build env.options).isNone := by
  unfold PgBouncerProvider.onRelationDeparted
  have hv : Change s _ _ := updateConnectionInfo_change hl hready rid r
  rw [run_bind]
  rcases hrun : (PgBouncerProvider.updateConnectionInfo env rid r).run s with ⟨e | _, t⟩
  · rw [hrun] at hv
    exact hv
  · rw [hrun] at hv
    simp only [run_when]
    split_ifs
    · exact hv.then_kept rfl rfl
    · exact hv

theorem db_departed_change (departing : Departing) :
    Change s ((DbProvides.onRelationDeparted env rid r departing).run s).2 false := by
  unfold DbProvides.onRelationDeparted
  rw [run_get_bind, run_ite]
  split_ifs <;> exact .kept rfl rfl

/-! ## Removal of a client relation -/

/-- `update_connection_info` raises while the backend is ready. -/
def connectionFails (env : Env) (rid : RelId) (r : Relation) : Bool :=
  (CharmConfig.build env.options).isSome &&
    (endpointsFail env rid r || (r.remote.contains "database" && env.version = none))

/-- This unit has been flagged as departing. -/
def flagged (env : Env) (s : State) (rid : RelId) (r : Relation) : Bool :=
  (unitDatabag env s).get (departFlag r.endpoint rid) = some "true"

/-- `_on_relation_broken` of a client relation returns behind
    `update_connection_info`. -/
def teardownReturns (env : Env) (s : State) (rid : RelId) (r : Relation) : Bool :=
  flagged env s rid r || ((lastName env s rid).all (removable env s) && env.hook.deleteUserOk)

/-- It replaces the status there: in `remove_auth_function`, or because
    `delete_user` fails. -/
def teardownDrops (env : Env) (s : State) (rid : RelId) (r : Relation) : Bool :=
  !flagged env s rid r &&
    ((lastName env s rid).any (clearsName env s) ||
      ((lastName env s rid).all (removable env s) && !env.hook.deleteUserOk))

theorem updateConnectionInfo_ready (hl : isLeader env s = true) (hready : ready env s = true)
    (rid : RelId) (r : Relation) :
    (PgBouncerProvider.updateConnectionInfo env rid r).run s =
      (if connectionFails env rid r then .error .other else .ok (),
        if CharmConfig.build env.options = none then
          { s with status := .blocked configurationError }
        else s) := by
  rw [updateConnectionInfo_run hl]
  unfold connectionFails
  rcases CharmConfig.build env.options with _ | c
  · rfl
  · cases endpointsFail env rid r <;> cases r.remote.contains "database" <;>
      rcases env.version with _ | version <;> simp [hready]

/-- Removing the auth function of the last database keeps or clears the
    status. -/
theorem elim_removed_status (env : Env) (s : State) (o : Option String) :
    (o.elim s (removed env s)).status =
        (if o.any (clearsName env s) then .active else s.status) ∧
      (o.elim s (removed env s)).causes = s.causes := by
  rcases o with _ | name
  · exact ⟨rfl, rfl⟩
  · refine ⟨?_, rfl⟩
    show clearedStatus env s name = if clearsName env s name = true then _ else _
    cases hc : clearsName env s name with
    | true => exact clearedStatus_of_clears hc
    | false => exact clearedStatus_of_not hc

/-- A status that is active or as before. -/
theorem change_of_status {b : Bool} (hst : t.status = if b then .active else s.status)
    (hc : t.causes = s.causes) : Change s t b := by
  cases b with
  | true =>
    apply Change.dropped _ hc
    rw [hst]
    exact .active
  | false => exact .kept hst hc

/-- The removal of the auth function and the user of a client relation. -/
def clientRemoval (env : Env) (dbs : Dbs) (database : Option String) (rid : RelId)
    (ep : Endpoint) : Handler Unit := do
  removeUnused env dbs database
  Action.tryCatch (deleteUser env (PgBouncerProvider.relationUser rid)) fun e => do
    setStatus (.blocked (deleteUserFailed ep))
    Action.fail e

theorem clientRemoval_change (env : Env) (s : State) (dbs : Dbs) (database : Option String)
    (rid : RelId) (ep : Endpoint) :
    let m := clientRemoval env dbs database rid ep
    let o := unusedName dbs database
    Change s (m.run s).2
        (o.any (clearsName env s) || (o.all (removable env s) && !env.hook.deleteUserOk)) ∧
      ((m.run s).1 = .ok () ↔ (o.all (removable env s) && env.hook.deleteUserOk) = true) := by
  intro m o
  obtain ⟨e, hrun⟩ := removeUnused_run env s dbs database
  obtain ⟨hst, hcauses⟩ := elim_removed_status env s o
  have hv := change_of_status hst hcauses
  have hm : m.run s = _ := run_bind _ _ s
  rw [hrun] at hm
  cases hall : o.all (removable env s) with
  | false =>
    rw [show (unusedName dbs database).all (removable env s) = false from hall] at hm
    rw [hm]
    exact ⟨by simpa using hv, by simp⟩
  | true =>
    rw [show (unusedName dbs database).all (removable env s) = true from hall] at hm
    simp only [if_true, run_tryCatch, deleteUser_run] at hm
    cases hok : env.hook.deleteUserOk with
    | true =>
      rw [hok] at hm
      rw [hm, Bool.not_true, Bool.and_false, Bool.or_false]
      exact ⟨hv.then_kept rfl rfl, by simp⟩
    | false =>
      rw [hok] at hm
      rw [hm, Bool.not_false, Bool.true_and, Bool.or_true]
      exact ⟨.dropped (.deleteUser ep) hcauses, iff_of_false (fun h => by cases h) (by simp)⟩

/-- The removal takes place in `u`, which has the map without the entry. -/
theorem client_teardown_run (hl : isLeader env s = true) (hready : ready env s = true)
    (hf : flagged env s rid r = false) :
    ∃ u, Near s u ∧ u.status = s.status ∧ u.activations = s.activations ∧
      (PgBouncerProvider.teardown env rid r).run s =
        (clientRemoval env (remainingDbs env s rid)
          (((getRelationDatabases s.app env.hook.unit).get? (str rid)).map DbEntry.name) rid
          r.endpoint).run u := by
  obtain ⟨u, hu, hnear, hst, hact⟩ := setRelationDatabases_run hl (remainingDbs env s rid)
  refine ⟨u, hnear, hst, hact, ?_⟩
  have hu' : (setRelationDatabases env
      ((getRelationDatabases s.app env.hook.unit).erase (str rid))).run s = (.ok (), u) := hu
  unfold PgBouncerProvider.teardown
  rw [run_bind_ok (checkBackend_ready hready), run_get_bind, run_when, if_pos ⟨rfl, hl⟩, run_ite,
    if_neg (of_decide_eq_false hf)]
  simp only [run_bind_ok hu']
  rfl

theorem client_teardown_flagged (hl : isLeader env s = true) (hready : ready env s = true)
    (hf : flagged env s rid r = true) :
    (PgBouncerProvider.teardown env rid r).run s =
      (popUnit env (departFlag r.endpoint rid)).run s := by
  unfold PgBouncerProvider.teardown
  rw [run_bind_ok (checkBackend_ready hready), run_get_bind, run_when, if_pos ⟨rfl, hl⟩, run_ite,
    if_pos (of_decide_eq_true hf)]

theorem client_teardown_change (hl : isLeader env s = true) (hready : ready env s = true)
    (rid : RelId) (r : Relation) :
    Change s ((PgBouncerProvider.teardown env rid r).run s).2 (teardownDrops env s rid r) ∧
      (((PgBouncerProvider.teardown env rid r).run s).1 = .ok () ↔
        teardownReturns env s rid r = true) := by
  unfold teardownDrops teardownReturns
  cases hf : flagged env s rid r with
  | true =>
    rw [client_teardown_flagged hl hready hf]
    exact ⟨.kept rfl rfl, by simp [popUnit]⟩
  | false =>
    obtain ⟨u, hnear, hst, -, hrun⟩ := client_teardown_run hl hready hf
    obtain ⟨hv, hret⟩ := clientRemoval_change env u (remainingDbs env s rid)
      (((getRelationDatabases s.app env.hook.unit).get? (str rid)).map DbEntry.name) rid r.endpoint
    rw [hnear.clearsName hst, hnear.removable] at hv
    rw [hnear.removable] at hret
    rw [hrun]
    exact ⟨hv.of_kept hst hnear.causes, hret⟩

/-- `_on_relation_broken` of a client relation returns. -/
def clientReturns (env : Env) (s : State) (rid : RelId) (r : Relation) : Bool :=
  !connectionFails env rid r && teardownReturns env s rid r

/-- `_on_relation_broken` of a client relation replaces the status. -/
def clientDrops (env : Env) (s : State) (rid : RelId) (r : Relation) : Bool :=
  (CharmConfig.build env.options).isNone ||
    (!connectionFails env rid r && teardownDrops env s rid r)

theorem client_broken_change (hl : isLeader env s = true) (hready : ready env s = true) :
    Change s ((PgBouncerProvider.onRelationBroken env rid r).run s).2
        (clientDrops env s rid r) ∧
      (((PgBouncerProvider.onRelationBroken env rid r).run s).1 = .ok () ↔
        clientReturns env s rid r = true) := by
  unfold PgBouncerProvider.onRelationBroken clientDrops clientReturns
  have hu := updateConnectionInfo_ready hl hready rid r
  have hv : Change s _ _ := updateConnectionInfo_change hl hready rid r
  cases hf : connectionFails env rid r with
  | true =>
    rw [hf, if_pos rfl] at hu
    rw [hu] at hv
    rw [run_bind_error hu]
    exact ⟨by simpa using hv, by simp⟩
  | false =>
    rw [hf, if_neg Bool.false_ne_true] at hu
    rw [run_bind_ok hu]
    rcases hc : CharmConfig.build env.options with _ | c
    · rw [if_pos rfl]
      obtain ⟨hv, hret⟩ := client_teardown_change
        (s := { s with status := .blocked configurationError }) hl hready rid r
      refine ⟨hv.settled.dropped .configuration rfl, ?_⟩
      rw [Bool.not_false, Bool.true_and]
      exact hret
    · rw [if_neg (by simp)]
      obtain ⟨hv, hret⟩ := client_teardown_change hl hready rid r
      exact ⟨by simpa using hv, by simpa using hret⟩

/-! ## Removal of a legacy relation -/

/-- `_check_for_blocking_relations` clears the message about extensions. -/
def clearsExtensions (env : Env) (s : State) (rid : RelId) : Bool :=
  s.status = .blocked DbProvides.extensionsBlockingMessage && !blockedByOther env s rid

theorem run_checkForBlockingRelations (env : Env) (s : State) (rid : RelId) :
    (DbProvides.checkForBlockingRelations env rid).run s =
      (.ok (), if clearsExtensions env s rid = true then activated env s else s) := by
  unfold DbProvides.checkForBlockingRelations clearsExtensions
  rw [run_get_bind, run_when]
  by_cases h : s.status = .blocked DbProvides.extensionsBlockingMessage ∧
    blockedByOther env s rid = false
  · rw [if_pos h, h.2, decide_eq_true h.1]
    rfl
  · have hno : (decide (s.status = .blocked DbProvides.extensionsBlockingMessage) &&
        !blockedByOther env s rid) = false := by simpa using h
    rw [if_neg h, hno]
    rfl

theorem checkForBlockingRelations_change (env : Env) (s : State) (rid : RelId) :
    Change s ((DbProvides.checkForBlockingRelations env rid).run s).2
        (clearsExtensions env s rid) ∧
      ((DbProvides.checkForBlockingRelations env rid).run s).1 = .ok () := by
  rw [run_checkForBlockingRelations]
  refine ⟨?_, rfl⟩
  cases clearsExtensions env s rid with
  | true => exact .dropped .active rfl
  | false => exact .kept rfl rfl

/-- The extensions of the relation are enabled by now. -/
def enabled (env : Env) (s : State) (r : Relation) : Bool :=
  DbProvides.checkExtensions env.hook
    (DbProvides.getRelationExtensions env.hook.unit (isLeader env s) r)

theorem abandon_change (env : Env) (s : State) (rid : RelId) (r : Relation) :
    Change s ((DbProvides.abandon env rid r).run s).2
        (!enabled env s r && clearsExtensions env s rid) ∧
      ((DbProvides.abandon env rid r).run s).1 = .ok () := by
  unfold DbProvides.abandon enabled
  rw [run_get_bind, run_ite]
  cases DbProvides.checkExtensions env.hook
      (DbProvides.getRelationExtensions env.hook.unit (isLeader env s) r) with
  | true => exact ⟨.kept rfl rfl, rfl⟩
  | false => exact checkForBlockingRelations_change env s rid

theorem elim_removed_relations (env : Env) (s : State) (o : Option String) :
    (o.elim s (removed env s)).app.relations = s.app.relations ∧
      (o.elim s (removed env s)).app.leader = s.app.leader := by
  cases o <;> exact ⟨rfl, rfl⟩

theorem blockedByOther_congr (hrel : t.app.relations = s.app.relations)
    (hl : t.app.leader = s.app.leader) (rid : RelId) :
    blockedByOther env t rid = blockedByOther env s rid := by
  unfold blockedByOther App.relationsOf isLeader
  rw [hrel, hl]

/-- The state behind the removal of the user and the auth function. -/
def dbTornDown (env : Env) (s : State) (rid : RelId) (user : String) : State :=
  (lastName env s rid).elim (userDeleted user (entryRemoved env s rid))
    (removed env (userDeleted user (entryRemoved env s rid)))

theorem db_teardown_run (hl : isLeader env s = true) (rid : RelId) (user : String) :
    ∃ e, (DbProvides.teardown env rid user).run s =
      if env.hook.deleteUserOk then
        if (lastName env s rid).all (removable env s) then
          (DbProvides.checkForBlockingRelations env rid).run (dbTornDown env s rid user)
        else (.error e, dbTornDown env s rid user)
      else (.error .other, entryRemoved env s rid) := by
  have hset : (setRelationDatabases env
      ((getRelationDatabases s.app env.hook.unit).erase (str rid))).run s =
      (.ok (), entryRemoved env s rid) := writeApplication_leader hl _
  obtain ⟨e, hrun⟩ := removeUnused_run env (userDeleted user (entryRemoved env s rid))
    (remainingDbs env s rid)
    (((getRelationDatabases s.app env.hook.unit).get? (str rid)).map DbEntry.name)
  have hrun' : (removeUnused env ((getRelationDatabases s.app env.hook.unit).erase (str rid))
      (((getRelationDatabases s.app env.hook.unit).get? (str rid)).map DbEntry.name)).run
        (userDeleted user (entryRemoved env s rid)) =
      (if (lastName env s rid).all (removable env s) then .ok () else .error e,
        dbTornDown env s rid user) := hrun
  refine ⟨e, ?_⟩
  unfold DbProvides.teardown
  rw [run_get_bind]
  simp only [run_bind_ok hset]
  rw [run_bind, run_when, if_pos hl, run_bind, deleteUser_run]
  cases env.hook.deleteUserOk with
  | false => rfl
  | true =>
    simp only [if_true, hrun']
    cases (lastName env s rid).all (removable env s) <;> rfl

theorem blockedByOther_dbTornDown (env : Env) (s : State) (rid : RelId) (user : String) :
    blockedByOther env (dbTornDown env s rid user) rid = blockedByOther env s rid := by
  obtain ⟨hrel, hlead⟩ := elim_removed_relations env
    (userDeleted user (entryRemoved env s rid)) (lastName env s rid)
  exact blockedByOther_congr hrel hlead rid

theorem db_teardown_change (hl : isLeader env s = true) (rid : RelId) (user : String) :
    Change s ((DbProvides.teardown env rid user).run s).2
        (env.hook.deleteUserOk && ((lastName env s rid).any (clearsName env s) ||
          ((lastName env s rid).all (removable env s) && clearsExtensions env s rid))) ∧
      (((DbProvides.teardown env rid user).run s).1 = .ok () ↔
        (env.hook.deleteUserOk && (lastName env s rid).all (removable env s)) = true) := by
  obtain ⟨e, hrun⟩ := db_teardown_run hl rid user
  obtain ⟨hst, hcauses⟩ := elim_removed_status env (userDeleted user (entryRemoved env s rid))
    (lastName env s rid)
  have hst' : (dbTornDown env s rid user).status =
    if (lastName env s rid).any (clearsName env s) then .active else s.status := hst
  have hcauses' : (dbTornDown env s rid user).causes = s.causes := hcauses
  have hv := change_of_status hst' hcauses'
  rw [hrun]
  cases env.hook.deleteUserOk with
  | false => exact ⟨.kept rfl rfl, by simp⟩
  | true =>
    simp only [if_true, Bool.true_and]
    cases hall : (lastName env s rid).all (removable env s) with
    | false =>
      rw [Bool.false_and, Bool.or_false]
      exact ⟨hv, by simp⟩
    | true =>
      obtain ⟨hcheck, hok⟩ := checkForBlockingRelations_change env (dbTornDown env s rid user) rid
      refine ⟨?_, iff_of_true hok rfl⟩
      cases hclear : (lastName env s rid).any (clearsName env s) with
      | true =>
        have hown : (dbTornDown env s rid user).status.Own := by
          rw [hst', hclear]
          exact .active
        have hm : Within (Settled (dbTornDown env s rid user)) AnyError
            (DbProvides.checkForBlockingRelations env rid) :=
          within_checkForBlockingRelations (fun _ hs => ⟨.inr .active, hs.2⟩) rid
        exact (within_after hm (Settled.refl _)).dropped hown hcauses'
      | false =>
        rw [hclear] at hst'
        have hext : clearsExtensions env (dbTornDown env s rid user) rid =
            clearsExtensions env s rid := by
          unfold clearsExtensions
          rw [blockedByOther_dbTornDown,
            show (dbTornDown env s rid user).status = s.status from hst']
        rw [Bool.false_or, Bool.true_and, ← hext]
        exact hcheck.of_kept hst' hcauses'

/-- `_on_relation_broken` of a legacy relation returns. -/
def dbReturns (env : Env) (s : State) (rid : RelId) (r : Relation) : Bool :=
  (unitDatabag env s).contains (departFlag r.endpoint rid) || !decide (Torn env s r) ||
    (env.hook.deleteUserOk && (lastName env s rid).all (removable env s))

/-- `_on_relation_broken` of a legacy relation replaces the status: in
    `remove_auth_function`, or in `_check_for_blocking_relations`. -/
def dbDrops (env : Env) (s : State) (rid : RelId) (r : Relation) : Bool :=
  !(unitDatabag env s).contains (departFlag r.endpoint rid) &&
    if Torn env s r then
      env.hook.deleteUserOk && ((lastName env s rid).any (clearsName env s) ||
        ((lastName env s rid).all (removable env s) && clearsExtensions env s rid))
    else !enabled env s r && clearsExtensions env s rid

theorem db_broken_change (hl : isLeader env s = true) (hready : ready env s = true)
    (rid : RelId) (r : Relation) :
    Change s ((DbProvides.onRelationBroken env rid r).run s).2 (dbDrops env s rid r) ∧
      (((DbProvides.onRelationBroken env rid r).run s).1 = .ok () ↔
        dbReturns env s rid r = true) := by
  unfold dbDrops dbReturns
  cases hf : (unitDatabag env s).contains (departFlag r.endpoint rid) with
  | true =>
    rw [db_broken_flagged hf]
    exact ⟨.kept rfl rfl, by simp⟩
  | false =>
    by_cases ht : Torn env s r
    · obtain ⟨user, hus⟩ := Option.isSome_iff_exists.mp ht.2.1
      obtain ⟨hv, hret⟩ := db_teardown_change hl rid user
      rw [db_broken_torn hf hready hus ht.2.2, if_pos ht, decide_eq_true ht]
      exact ⟨hv, by simpa using hret⟩
    · have hc : (checkBackend env).run s = (.ok (ready env s), s) := by
        rw [hready]
        exact checkBackend_ready hready
      obtain ⟨hv, hret⟩ := abandon_change env s rid r
      rw [db_broken_abandoned hf ht hc, if_neg ht, decide_eq_false ht]
      exact ⟨hv, by simpa using hret⟩

/-! ## Joins -/

theorem updateStatus_sticky (h : s.status.message ∈ stickyMessages env) :
    (updateStatus env).run s = (.ok (), s) := by
  unfold updateStatus
  rw [run_get_bind, run_when, if_neg (not_not.mpr h)]

/-- `restore_status` records an `ActiveStatus`. -/
def restoredActivations (env : Env) (s : State) : List Bool :=
  if s.status = .active then s.activations ++ [healthy env s] else s.activations

theorem restoreStatus_run (env : Env) (s : State) (status : Status) :
    ∃ activations, (restoreStatus env status).run s =
        (.ok (), { s with status := status, activations := activations }) ∧
      activations = if status = .active then s.activations ++ [healthy env s]
        else s.activations := by
  unfold restoreStatus
  rw [run_ite]
  split_ifs with ha
  · subst ha
    exact ⟨_, rfl, rfl⟩
  · exact ⟨_, rfl, rfl⟩

/-- The message of `DbProvides.create` where it fails. -/
def dbCreateMessage (ep : Endpoint) : String :=
  "failed to create database or user for " ++ ep.relationName

/-- The creation restores the status before it updates it. -/
theorem db_create_run (env : Env) (s : State) (rid : RelId) (r : Relation)
    (user password database : String) :
    ∃ s₁ s₂, (Near s s₁ ∧ s₁.status = s.status ∧ s₁.activations = restoredActivations env s) ∧
      (Near s s₂ ∧ s₂.status.Own ∧ s₂.activations = s.activations) ∧
      (DbProvides.create env rid r user password database).run s =
        if env.hook.createUserOk && env.hook.createDatabaseOk then
          (do
            updateStatus env
            removeAuthFunction env [database]
            initialiseAuthFunction env database : Handler Unit).run s₁
        else if env.createErrorCaught then (blockOn rid (dbCreateMessage r.endpoint)).run s₂
        else (.error .other, s₂) := by
  let s₂ : State := { s with
    app := { s.app with backend := (s.app.backend.provision env.hook user password database).1 }
    status := .maintenance
      ("initialising database and user for " ++ r.endpoint.relationName ++ " relation") }
  have hnear₂ : Near s s₂ := ⟨rfl, rfl, rfl, rfl⟩
  obtain ⟨activations, hrestore, hact⟩ := restoreStatus_run env s₂ s.status
  refine ⟨{ s₂ with status := s.status, activations := activations }, s₂,
    ⟨⟨rfl, rfl, rfl, rfl⟩, rfl, ?_⟩, ⟨hnear₂, .maintenance _, rfl⟩, ?_⟩
  · rw [hact, hnear₂.healthy]
    rfl
  · unfold DbProvides.create
    rw [run_get_bind]
    simp only [provision_snd, setStatus, modifyBackend, modifyApp, run_modify_bind, run_ite]
    rw [run_bind_ok hrestore]
    rfl

theorem authFunction_change (hready : ready env s = true) (dbname : String) :
    let m : Handler Unit := do
      removeAuthFunction env [dbname]
      initialiseAuthFunction env dbname
    Change s (m.run s).2 (clearsName env s dbname) := by
  obtain ⟨e, t, hrun, hnear, hst, -⟩ := authFunction_run hready dbname
  intro m
  rw [show m.run s = _ from hrun]
  apply change_of_status _ hnear.causes
  rw [hst]
  cases hc : clearsName env s dbname with
  | true => exact clearedStatus_of_clears hc
  | false => exact clearedStatus_of_not hc

theorem db_create_answered (hready : ready env s = true) (rid : RelId) (r : Relation)
    (user password database : String) :
    Answered s rid ((DbProvides.create env rid r user password database).run s).2 := by
  obtain ⟨s₁, s₂, ⟨hnear₁, hst₁, -⟩, ⟨hnear₂, hown₂, -⟩, hrun⟩ :=
    db_create_run env s rid r user password database
  rw [hrun]
  cases env.hook.createUserOk && env.hook.createDatabaseOk with
  | false =>
    cases env.createErrorCaught with
    | true => exact .inr ⟨_, rfl, congrArg (· ++ _) hnear₂.causes⟩
    | false => exact .inl ⟨.inr hown₂, hnear₂.causes⟩
  | true =>
    have hs₁ : Settled s s₁ := ⟨.inl hst₁, hnear₁.causes⟩
    have hd : SameData s₁ ((updateStatus env).run s₁).2 :=
      within_after (within_updateStatus ordinary_anyError) (SameData.refl s₁)
    have hs : Settled s₁ ((updateStatus env).run s₁).2 :=
      within_after (within_updateStatus ordinary_anyError) (Settled.refl s₁)
    rw [if_pos rfl, run_bind]
    rcases hu : (updateStatus env).run s₁ with ⟨e | _, t⟩
    · rw [hu] at hs
      exact .inl (hs₁.trans hs)
    · rw [hu] at hd hs
      have hready' : ready env t = true := by rw [hd.ready, hnear₁.ready, hready]
      exact .inl ((hs₁.trans hs).trans (authFunction_change hready' database).settled)

/-- The creation replaces a status that `update_status` does not touch. -/
def dbCreateDrops (env : Env) (s : State) (database : String) : Bool :=
  if env.hook.createUserOk && env.hook.createDatabaseOk then clearsName env s database
  else !env.createErrorCaught

theorem db_create_verdict (hready : ready env s = true)
    (hsticky : s.status.message ∈ stickyMessages env) (rid : RelId) (r : Relation)
    (user password database : String) :
    Verdict s rid ((DbProvides.create env rid r user password database).run s).2
      (dbCreateDrops env s database)
      (if createFails env then some (dbCreateMessage r.endpoint) else none) := by
  obtain ⟨s₁, s₂, ⟨hnear₁, hst₁, -⟩, ⟨hnear₂, hown₂, -⟩, hrun⟩ :=
    db_create_run env s rid r user password database
  unfold dbCreateDrops createFails
  rw [hrun]
  cases env.hook.createUserOk && env.hook.createDatabaseOk with
  | false =>
    cases env.createErrorCaught with
    | true => exact .failed _ rfl (congrArg (· ++ _) hnear₂.causes)
    | false => exact .change (.dropped hown₂ hnear₂.causes)
  | true =>
    have hsticky₁ : s₁.status.message ∈ stickyMessages env := by
      rw [hst₁]
      exact hsticky
    have hclears : clearsName env s₁ = clearsName env s := hnear₁.clearsName hst₁
    have hv := authFunction_change (hnear₁.ready.trans hready) database
    rw [if_pos rfl, if_pos rfl, run_bind_ok (updateStatus_sticky hsticky₁), ← hclears]
    exact .change (hv.of_kept hst₁ hnear₁.causes)

/-- The database that `_on_relation_joined` creates, if it gets there. -/
def joinServes (env : Env) (lower : String → String) (s : State) (rid : RelId) (r : Relation) :
    Option String :=
  let (r', block) := DbProvides.blockOnExtensions env.hook true r
  if block then none
  else
    (r'.remote.get "database").filter fun database =>
      env.hook.synced (DbProvides.joinDatabases lower (s.app.putRelation rid r') env.hook.unit rid
        r'.endpoint database)

/-- The message with which `_on_relation_joined` blocks the unit. -/
def joinBlocks (env : Env) (lower : String → String) (s : State) (rid : RelId) (r : Relation) :
    Option String :=
  if (DbProvides.blockOnExtensions env.hook true r).2 then some DbProvides.extensionsBlockingMessage
  else if (joinServes env lower s rid r).isSome && createFails env then
    some (dbCreateMessage r.endpoint)
  else none

theorem joined_run (hl : isLeader env s = true) (hready : ready env s = true)
    (lower : String → String) (rid : RelId) (r : Relation) :
    let t := ((DbProvides.onRelationJoined env lower rid r).run s).2
    (joinServes env lower s rid r = none ∧ Verdict s rid t false (joinBlocks env lower s rid r) ∧
        t.activations = s.activations) ∨
      ∃ database r' user password s₁, joinServes env lower s rid r = some database ∧
        joinBlocks env lower s rid r =
          (if createFails env then some (dbCreateMessage r'.endpoint) else none) ∧
        Near s s₁ ∧ s₁.status = s.status ∧ s₁.activations = s.activations ∧
        (DbProvides.onRelationJoined env lower rid r).run s =
          (DbProvides.create env rid r' user password database).run s₁ := by
  have hep := (DbProvides.copiesExtensions_block env.hook true r).endpoint
  unfold DbProvides.onRelationJoined joinBlocks joinServes
  rw [run_get_bind, run_when, if_pos hl, run_bind_ok (checkBackend_ready hready)]
  simp only [if_true]
  generalize DbProvides.blockOnExtensions env.hook true r = copied at hep ⊢
  obtain ⟨r', block⟩ := copied
  simp only [modifyApp, run_modify_bind, run_ite, run_get_bind]
  cases block with
  | true => exact .inl ⟨rfl, .failed _ rfl rfl, rfl⟩
  | false =>
    simp only [Bool.false_eq_true, if_false]
    cases hdb : r'.remote.get "database" with
    | none => exact .inl ⟨rfl, .change (.kept rfl rfl), rfl⟩
    | some database =>
      have hl' : isLeader env { s with app := s.app.putRelation rid r' } = true := hl
      simp only [setRelationDatabases, run_bind_ok (writeApplication_leader hl' _), run_ite,
        Option.filter_some, run_modify_bind]
      by_cases hsynced : env.hook.synced (DbProvides.joinDatabases lower (s.app.putRelation rid r')
          env.hook.unit rid r'.endpoint database) = true
      · simp only [if_pos hsynced]
        refine .inr ⟨database, r', s.app.generateUsername rid, _, _, rfl, ?_, ?_, ?_, ?_, rfl⟩
        · rw [show r'.endpoint = r.endpoint from hep]
          rfl
        · exact ⟨rfl, rfl, rfl, rfl⟩
        · rfl
        · rfl
      · simp only [if_neg hsynced]
        exact .inl ⟨trivial, .change (.kept rfl rfl), rfl⟩

theorem joined_answered (hl : isLeader env s = true) (hready : ready env s = true)
    (lower : String → String) (rid : RelId) (r : Relation) :
    Answered s rid ((DbProvides.onRelationJoined env lower rid r).run s).2 := by
  rcases joined_run hl hready lower rid r with
    ⟨-, hv, -⟩ | ⟨database, r', user, password, s₁, -, -, hnear, hst, -, ht⟩
  · exact hv.answered
  · rw [ht]
    exact (db_create_answered (hnear.ready.trans hready) rid r' user password database).of_settled
      ⟨.inl hst, hnear.causes⟩

/-- `_on_relation_joined` replaces a status that `update_status` does not
    touch. -/
def joinDrops (env : Env) (lower : String → String) (s : State) (rid : RelId) (r : Relation) :
    Bool :=
  (joinServes env lower s rid r).any (dbCreateDrops env s)

theorem joined_verdict (hl : isLeader env s = true) (hready : ready env s = true)
    (hsticky : s.status.message ∈ stickyMessages env) (lower : String → String) (rid : RelId)
    (r : Relation) :
    Verdict s rid ((DbProvides.onRelationJoined env lower rid r).run s).2
      (joinDrops env lower s rid r) (joinBlocks env lower s rid r) := by
  unfold joinDrops
  rcases joined_run hl hready lower rid r with
    ⟨hnone, hv, -⟩ | ⟨database, r', user, password, s₁, hsome, hblocks, hnear, hst, -, ht⟩
  · rw [hnone]
    exact hv
  · have hd : dbCreateDrops env s₁ database = dbCreateDrops env s database := by
      unfold dbCreateDrops clearsName
      rw [hnear.skipsName, hst]
    rw [ht, hsome, hblocks, Option.any_some, ← hd]
    exact (db_create_verdict (hnear.ready.trans hready) (by rwa [hst]) rid r' user password
      database).of_kept hst hnear.causes

end PgBouncerK8s.Operator
