import PgBouncerK8s.Operator.Handlers

/-!
# What the handlers do

Evaluation of the parts of the handlers, by the branch that is taken.
-/

namespace PgBouncerK8s.Operator

open PgBouncerK8s.Action
open Text (str)

variable {env : Env} {s : State} {rid : RelId} {r : Relation}

/-! ## Checks and writes -/

theorem checkBackend_ready (h : ready env s = true) :
    (checkBackend env).run s = (.ok true, s) := by
  unfold checkBackend
  rw [run_get_bind, if_pos h]
  rfl

theorem checkBackend_not_ready (h : ready env s = false) :
    (checkBackend env).run s = (.ok false,
      { s with status := .waiting "waiting for backend-database relation to connect" }) := by
  unfold checkBackend
  rw [run_get_bind, if_neg (by simp [h])]
  rfl

theorem checkBackend_run (env : Env) (s : State) :
    ∃ t, (checkBackend env).run s = (.ok (ready env s), t) ∧ t.app = s.app ∧
      t.deferred = s.deferred := by
  cases h : ready env s with
  | false => exact ⟨_, checkBackend_not_ready h, rfl, rfl⟩
  | true => exact ⟨_, checkBackend_ready h, rfl, rfl⟩

theorem writeApplication_leader (h : isLeader env s = true) (f : State → State) :
    (writeApplication env f).run s = (.ok (), f s) := by
  unfold writeApplication
  rw [run_get_bind, if_pos h]
  rfl

theorem writeApplication_follower (h : isLeader env s = false) (f : State → State) :
    (writeApplication env f).run s = (.error .relationDataAccessError, s) := by
  unfold writeApplication
  rw [run_get_bind, if_neg (by simp [h])]
  rfl

theorem withRelation_run {f : Relation → Handler Unit} (hr : s.app.relations.get? rid = some r) :
    (withRelation rid f).run s = (f r).run s := by
  unfold withRelation
  rw [run_get_bind, hr]

/-! ## `check_pgb_running` -/

/-- `check_pgb_running` finds all services active. -/
def Running (env : Env) (s : State) : Prop :=
  env.canConnect = true ∧
    ∀ service ∈ serviceNames env ++ if ready env s then [metricsService] else [],
      s.services.get? service = some .active

instance (env : Env) (s : State) : Decidable (Running env s) := inferInstanceAs (Decidable (_ ∧ _))

/-- The loop returns `True` exactly when all services are active, and leaves
    the state as it is. -/
theorem checkServices_of_active {l : List String}
    (h : ∀ service ∈ l, s.services.get? service = some .active) :
    (checkServices env l).run s = (.ok true, s) := by
  induction l with
  | nil => rfl
  | cons service l ih =>
    unfold checkServices
    rw [run_get_bind, h service List.mem_cons_self]
    simp only [if_true]
    exact ih fun x hx => h x (List.mem_cons_of_mem _ hx)

theorem active_of_checkServices {l : List String} {t : State}
    (h : (checkServices env l).run s = (.ok true, t)) :
    ∀ service ∈ l, s.services.get? service = some .active := by
  induction l with
  | nil => simp
  | cons service l ih =>
    unfold checkServices at h
    rw [run_get_bind] at h
    rcases hst : s.services.get? service with _ | status
    · simp only [hst] at h
      cases h
    simp only [hst, run_ite] at h
    split_ifs at h with ha
    · intro x hx
      rcases List.mem_cons.mp hx with rfl | hx
      · rw [hst, ha]
      · exact ih h x hx
    · obtain ⟨_, t1, -, h⟩ := run_bind_eq_ok h
      obtain ⟨_, t2, -, h⟩ := run_bind_eq_ok h
      cases h

theorem checkPgbRunning_of_running (h : Running env s) :
    (checkPgbRunning env).run s = (.ok true, s) := by
  unfold checkPgbRunning
  rw [run_get_bind, if_pos h.1]
  exact checkServices_of_active h.2

theorem running_of_checkPgbRunning {t : State} (h : (checkPgbRunning env).run s = (.ok true, t)) :
    Running env s := by
  unfold checkPgbRunning at h
  rw [run_get_bind] at h
  by_cases hc : env.canConnect = true
  · rw [if_pos hc] at h
    exact ⟨hc, active_of_checkServices h⟩
  · rw [if_neg hc] at h
    obtain ⟨_, t1, -, h⟩ := run_bind_eq_ok h
    cases h

theorem pgbRunning_of_running (h : Running env s) : (pgbRunning env).run s = (.ok true, s) := by
  unfold pgbRunning
  rw [run_tryCatch, checkPgbRunning_of_running h]

theorem running_of_pgbRunning {t : State} (h : (pgbRunning env).run s = (.ok true, t)) :
    Running env s := by
  unfold pgbRunning at h
  rw [run_tryCatch] at h
  rcases hr : (checkPgbRunning env).run s with ⟨e | running, t'⟩
  · simp only [hr, run_ite] at h
    split_ifs at h <;> cases h
  · simp only [hr] at h
    cases h
    exact running_of_checkPgbRunning hr

/-! ## Health -/

/-- The check asks Kubernetes only. -/
theorem checkServiceConnectivity_congr (env : Env) (s t : State) :
    ((checkServiceConnectivity env).run s).1 = ((checkServiceConnectivity env).run t).1 := by
  unfold checkServiceConnectivity getHostsPorts getService config
  cases env.service with
  | failed => rfl
  | missing => rfl
  | found =>
    rcases CharmConfig.build env.options with _ | c
    · rfl
    · cases env.endpointsOk with
      | false => rfl
      | true =>
        show (run (if env.hook.readWriteEndpoints = "" then pure false else _ : Handler Bool) s).1 =
          (run (if env.hook.readWriteEndpoints = "" then pure false else _ : Handler Bool) t).1
        rw [run_ite, run_ite]
        split_ifs
        · rfl
        · cases env.connectivity <;> rfl

theorem healthy_congr {t : State} (hl : t.app.leader = s.app.leader)
    (hsec : t.secrets = s.secrets) (hserv : ∀ name, t.services.get? name = s.services.get? name) :
    healthy env t = healthy env s := by
  unfold healthy ready postgres isLeader
  rw [checkServiceConnectivity_congr env t s, hl, hsec]
  simp only [hserv]

theorem healthy_of_running (hc : (CharmConfig.build env.options).isSome = true)
    (hready : ready env s = true)
    (hconn : isLeader env s = true → ((checkServiceConnectivity env).run s).1 = .ok true)
    (hrun : Running env s) : healthy env s = true := by
  obtain ⟨hcan, hactive⟩ := hrun
  rw [hready, if_pos rfl] at hactive
  have hall : ((serviceNames env ++ [metricsService]).all fun service =>
      s.services.get? service = some .active) = true := by
    simpa only [List.all_eq_true, decide_eq_true_eq] using hactive
  have hl : (!isLeader env s ||
      ((checkServiceConnectivity env).run s).1.toOption.getD false) = true := by
    cases h : isLeader env s with
    | false => rfl
    | true =>
      rw [hconn h]
      rfl
  unfold healthy
  rw [hc, hready, hl, hcan, hall]
  rfl

/-! ## The auth function and the users -/

/-- `remove_auth_function` skips the name: it has 50 or more characters and the
    backend is later than version 14. -/
def skipsName (env : Env) (s : State) (dbname : String) : Bool :=
  !(postgres env s && env.hook.postgresV0 || dbname.length < 50)

/-- The status after `remove_auth_function` on one database. -/
def clearedStatus (env : Env) (s : State) (dbname : String) : Status :=
  if skipsName env s dbname ∧ s.status = .blocked invalidDatabaseName then .active else s.status

/-- The record of `ActiveStatus` after `remove_auth_function` on one database. -/
def clearedActivations (env : Env) (s : State) (dbname : String) : List Bool :=
  if skipsName env s dbname ∧ s.status = .blocked invalidDatabaseName then
    s.activations ++ [healthy env s]
  else s.activations

/-- The state after `remove_auth_function` on one database. -/
def removed (env : Env) (s : State) (dbname : String) : State :=
  { s with
    app := { s.app with backend := s.app.backend.removeAuthFunction dbname }
    status := clearedStatus env s dbname
    activations := clearedActivations env s dbname }

/-- The statements for the name succeed, or it is skipped. -/
def removable (env : Env) (s : State) (dbname : String) : Bool :=
  skipsName env s dbname || (postgres env s && env.sqlOk dbname)

theorem removeAuthFunctionFrom_run (env : Env) (s : State) (dbname : String) :
    ∃ e, (removeAuthFunctionFrom env dbname).run s =
      (if removable env s dbname then .ok () else .error e, removed env s dbname) := by
  have hrun : (removeAuthFunctionFrom env dbname).run s =
      (if postgres env s && env.hook.postgresV0 || decide (dbname.length < 50) then
        if !postgres env s then Action.fail .other
        else Action.when (env.sqlOk dbname = false) (Action.fail .psycopg2Error)
      else
        Action.when (s.status = .blocked invalidDatabaseName) (setActive env)).run
          { s with app := { s.app with backend := s.app.backend.removeAuthFunction dbname } } := rfl
  unfold removable removed clearedStatus clearedActivations skipsName
  cases hc : (postgres env s && env.hook.postgresV0 || decide (dbname.length < 50)) with
  | false =>
    refine ⟨.other, ?_⟩
    rw [hrun, hc, run_ite, if_neg (by simp), run_when]
    by_cases hst : s.status = .blocked invalidDatabaseName
    · simp [hst, setActive, activated]
      exact healthy_congr rfl rfl fun _ => rfl
    · simp [hst]
  | true =>
    rw [hc, run_ite, if_pos rfl] at hrun
    cases hp : postgres env s with
    | false =>
      refine ⟨.other, ?_⟩
      simp [hrun, hp]
    | true =>
      refine ⟨.psycopg2Error, ?_⟩
      cases hsql : env.sqlOk dbname <;> simp [hrun, hp, hsql, run_when]

theorem removeAuthFunction_run (env : Env) (s : State) (dbname : String) :
    ∃ e, (removeAuthFunction env [dbname]).run s =
      (if removable env s dbname then .ok () else .error e, removed env s dbname) := by
  obtain ⟨e, hrun⟩ := removeAuthFunctionFrom_run env s dbname
  refine ⟨e, ?_⟩
  unfold removeAuthFunction Action.forEach
  rw [run_bind, hrun]
  cases removable env s dbname <;> rfl

theorem removeAuthFunction_ok {dbname : String} {t : State}
    (h : (removeAuthFunction env [dbname]).run s = (.ok (), t)) : t = removed env s dbname := by
  obtain ⟨e, hrun⟩ := removeAuthFunction_run env s dbname
  rw [h] at hrun
  exact congrArg Prod.snd hrun

/-- The name, if no entry of the map uses it any more. -/
def unusedName (dbs : Dbs) (database : Option String) : Option String :=
  database.filter fun name => name ≠ "" ∧ name ∉ dbs.values.map DbEntry.name

theorem removeUnused_run (env : Env) (s : State) (dbs : Dbs) (database : Option String) :
    ∃ e, (removeUnused env dbs database).run s =
      (if (unusedName dbs database).all (removable env s) then .ok () else .error e,
        (unusedName dbs database).elim s (removed env s)) := by
  unfold removeUnused unusedName
  rcases database with _ | name
  · exact ⟨.other, rfl⟩
  · by_cases hu : name ≠ "" ∧ name ∉ dbs.values.map DbEntry.name
    · rw [Option.filter_some, if_pos (decide_eq_true hu)]
      obtain ⟨e, hrun⟩ := removeAuthFunction_run env s name
      refine ⟨e, ?_⟩
      rw [run_when, if_pos hu]
      exact hrun
    · rw [Option.filter_some, if_neg (by simpa using hu)]
      refine ⟨.other, ?_⟩
      rw [run_when, if_neg hu]
      rfl

theorem removeUnused_ok {dbs : Dbs} {database : Option String} {t : State}
    (h : (removeUnused env dbs database).run s = (.ok (), t)) :
    t = (unusedName dbs database).elim s (removed env s) := by
  obtain ⟨e, hrun⟩ := removeUnused_run env s dbs database
  rw [h] at hrun
  exact congrArg Prod.snd hrun

/-- The state after `delete_user`. -/
def userDeleted (user : String) (s : State) : State :=
  { s with app := { s.app with backend := s.app.backend.deleteUser user } }

theorem deleteUser_run (env : Env) (s : State) (user : String) :
    (deleteUser env user).run s = if env.hook.deleteUserOk = true then
        (.ok (), userDeleted user s)
      else (.error .other, s) := by
  unfold deleteUser
  rw [run_ite]
  rfl

theorem deleteUser_ok {user : String} {t : State} (h : (deleteUser env user).run s = (.ok (), t)) :
    env.hook.deleteUserOk = true ∧ t = userDeleted user s := by
  rw [deleteUser_run] at h
  by_cases hok : env.hook.deleteUserOk = true
  · rw [if_pos hok] at h
    cases h
    exact ⟨hok, rfl⟩
  · rw [if_neg hok] at h
    cases h

/-! ## Removal of an entry -/

/-- The map without the entry of a relation. -/
def remainingDbs (env : Env) (s : State) (rid : RelId) : Dbs :=
  (getRelationDatabases s.app env.hook.unit).erase (str rid)

/-- The database of the entry, if no other entry has it. -/
def lastName (env : Env) (s : State) (rid : RelId) : Option String :=
  unusedName (remainingDbs env s rid)
    (((getRelationDatabases s.app env.hook.unit).get? (str rid)).map DbEntry.name)

/-- The state after the map without the entry has been stored. -/
def entryRemoved (env : Env) (s : State) (rid : RelId) : State :=
  { s with app := s.app.setRelationDatabases (remainingDbs env s rid) }

/-! ## Removal of a legacy relation -/

/-- The unit's own databag shows a complete setup, and the backend is ready. -/
def Torn (env : Env) (s : State) (r : Relation) : Prop :=
  ready env s = true ∧ (r.unit env.hook.unit).contains "user" = true ∧
    (r.unit env.hook.unit).contains "database" = true

instance (env : Env) (s : State) (r : Relation) : Decidable (Torn env s r) :=
  inferInstanceAs (Decidable (_ ∧ _))

theorem db_broken_flagged
    (hf : (unitDatabag env s).contains (departFlag r.endpoint rid) = true) :
    (DbProvides.onRelationBroken env rid r).run s = (.ok (), s) := by
  unfold DbProvides.onRelationBroken
  rw [run_get_bind, run_when, if_neg (by simp [hf])]

theorem db_broken_torn {user : String}
    (hf : (unitDatabag env s).contains (departFlag r.endpoint rid) = false)
    (hready : ready env s = true) (hus : (r.unit env.hook.unit).get "user" = some user)
    (hdb : (r.unit env.hook.unit).contains "database" = true) :
    (DbProvides.onRelationBroken env rid r).run s = (DbProvides.teardown env rid user).run s := by
  unfold DbProvides.onRelationBroken
  rw [run_get_bind, run_when, if_pos hf, run_bind_ok (checkBackend_ready hready)]
  simp only [hus, hdb, Bool.and_self]

theorem db_broken_abandoned
    (hf : (unitDatabag env s).contains (departFlag r.endpoint rid) = false)
    (ht : ¬ Torn env s r) {t : State} (hc : (checkBackend env).run s = (.ok (ready env s), t)) :
    (DbProvides.onRelationBroken env rid r).run s = (DbProvides.abandon env rid r).run t := by
  unfold DbProvides.onRelationBroken
  rw [run_get_bind, run_when, if_pos hf, run_bind_ok hc]
  rcases hus : (r.unit env.hook.unit).get "user" with _ | user
  · rfl
  · have hdb : (ready env s && (r.unit env.hook.unit).contains "database") = false := by
      rw [Bool.eq_false_iff, Ne, Bool.and_eq_true]
      intro h
      exact ht ⟨h.1, by rw [Databag.contains, hus]; rfl, h.2⟩
    simp only [hdb]

end PgBouncerK8s.Operator
