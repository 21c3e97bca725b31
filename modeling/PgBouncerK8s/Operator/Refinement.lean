import PgBouncerK8s.Operator.Blocked

/-!
# The operator refines the lifecycle

The machine of `Lifecycle` leaves out the status, the services and the
configuration, and takes the readiness of the backend from the hook. A handler
of the operator that returns does to the application state what that machine
does with the hook the handler has seen.

* `handle_refines`: joins, requests, departures and removals.
-/

namespace PgBouncerK8s.Operator

open PgBouncerK8s.Action
open Text (str)

variable {env : Env} {s t : State} {lower : String → String} {rid : RelId} {r : Relation}

/-- The hook with the readiness and the endpoints the handler works with. -/
def Env.seen (env : Env) (s : State) : Hook :=
  { env.hook with
    ready := ready env s
    readWriteEndpoints := if hasEndpoints env then env.hook.readWriteEndpoints else "" }

/-- From `s` to `t` a handler does to the application state what gives `res`,
    and defers its event or blocks the unit as that does. -/
structure Refines (s t : State) (res : Result) : Prop where
  app : t.app = res.app
  deferred : t.deferred = true ↔ s.deferred = true ∨ res.outcome = .deferred
  blocked : ∀ message, res.outcome = .blocked message → t.status = .blocked message

theorem Refines.returned (happ : t.app = s.app) (hd : t.deferred = s.deferred) :
    Refines s t ⟨s.app, .returned⟩ :=
  ⟨happ, by rw [hd]; simp, by simp⟩

theorem Refines.postponed {a : App} (happ : t.app = a) (hd : t.deferred = true) :
    Refines s t ⟨a, .deferred⟩ :=
  ⟨happ, by rw [hd]; simp, by simp⟩

theorem Refines.from {u : State} {res : Result} (h : Refines u t res)
    (hd : u.deferred = s.deferred) : Refines s t res :=
  ⟨h.app, by rw [← hd]; exact h.deferred, h.blocked⟩

/-- The test for leadership and the backend that joins and requests begin
    with. -/
theorem Refines.guarded {m : Handler Unit} {res : Result}
    (h : (Action.when (isLeader env s = true) (do
      let ready ← checkBackend env
      if ready then m else defer)).run s = (.ok (), t))
    (hfollower : env.hook.unit ≠ s.app.leader → res = ⟨s.app, .returned⟩)
    (hwaiting : env.hook.unit = s.app.leader → ready env s = false → res = ⟨s.app, .deferred⟩)
    (hserved : isLeader env s = true → ready env s = true → m.run s = (.ok (), t) →
      Refines s t res) : Refines s t res := by
  rw [run_when] at h
  cases hl : isLeader env s with
  | false =>
    rw [if_neg (by simp [hl])] at h
    cases h
    rw [hfollower (unit_ne_leader hl)]
    exact .returned rfl rfl
  | true =>
    rw [if_pos hl] at h
    cases hready : ready env s with
    | false =>
      rw [run_bind_ok (checkBackend_not_ready hready)] at h
      cases h
      rw [hwaiting (unit_eq_leader hl) hready]
      exact .postponed rfl rfl
    | true =>
      rw [run_bind_ok (checkBackend_ready hready)] at h
      exact hserved hl hready h

/-! ## The auth function -/

theorem initialiseAuthFunction_ok {dbname : String}
    (h : (initialiseAuthFunction env dbname).run s = (.ok (), t)) :
    t = { s with app :=
      { s.app with backend := s.app.backend.initialiseAuthFunction dbname } } := by
  unfold initialiseAuthFunction modifyBackend modifyApp at h
  rw [run_modify_bind] at h
  rcases run_when_eq_ok h with ⟨-, h⟩ | ⟨-, h⟩
  · cases h
  · exact h

/-- The state after the auth function has been set up for a database. -/
theorem authFunction_ok {dbname : String} {u v : State}
    (h₁ : (removeAuthFunction env [dbname]).run s = (.ok (), u))
    (h₂ : (initialiseAuthFunction env dbname).run u = (.ok (), v)) :
    v.app = { s.app with backend :=
        (s.app.backend.removeAuthFunction dbname).initialiseAuthFunction dbname } ∧
      v.deferred = s.deferred := by
  obtain rfl := removeAuthFunction_ok h₁
  obtain rfl := initialiseAuthFunction_ok h₂
  exact ⟨rfl, rfl⟩

/-! ## A request -/

theorem create_refines {database : String}
    (h : (PgBouncerProvider.create env rid r database).run s = (.ok (), t)) (ready : Bool)
    (endpoints : String) :
    Refines s t (PgBouncerProvider.createAndPublish
      { env.hook with ready := ready, readWriteEndpoints := endpoints } s.app rid r database) := by
  unfold PgBouncerProvider.create modifyBackend modifyApp at h
  rw [run_get_bind, run_modify_bind, run_ite, provision_snd] at h
  unfold PgBouncerProvider.createAndPublish
  have hsnd := provision_snd s.app.backend
    { env.hook with ready := ready, readWriteEndpoints := endpoints }
    (PgBouncerProvider.relationUser rid) env.hook.newPassword database
  cases hok : env.hook.createUserOk && env.hook.createDatabaseOk with
  | false =>
    rw [hok, if_neg Bool.false_ne_true, run_ite] at h
    simp only [hsnd, hok, Bool.not_false, if_true]
    split_ifs at h
    · cases h
      exact ⟨rfl, by simp, fun message hm => congrArg Status.blocked (by simpa using hm)⟩
    · cases h
  | true =>
    rw [hok, if_pos rfl] at h
    simp only [hsnd, hok, Bool.not_true, Bool.false_eq_true, if_false]
    obtain ⟨_, s₁, h₁, h⟩ := run_bind_eq_ok h
    obtain ⟨_, s₂, h₂, h⟩ := run_bind_eq_ok h
    obtain ⟨_, s₃, h₃, h⟩ := run_bind_eq_ok h
    rw [run_modify_bind] at h
    obtain ⟨happ, hdef⟩ := authFunction_ok h₁ h₂
    have hrender := (within_renderPgbConfig ordinary_anyError false).ok (SameData.refl s₂) h₃
    have hconn := updateConnectionInfo_ok h
    refine ⟨?_, ?_, by simp⟩
    · rw [hconn.app]
      show App.putRelation s₃.app rid _ = _
      rw [hrender.app, happ]
      rfl
    · rw [hconn.deferred, show _ = s₂.deferred from hrender.deferred, hdef]
      simp

theorem requested_refines {database : String}
    (h : (PgBouncerProvider.onDatabaseRequested env lower rid r database).run s = (.ok (), t)) :
    Refines s t (PgBouncerK8s.PgBouncerProvider.onDatabaseRequested lower (env.seen s) s.app rid r
      database) := by
  have hu : (env.seen s).unit = env.hook.unit := rfl
  have hready' : (env.seen s).ready = ready env s := rfl
  have heps : (env.seen s).readWriteEndpoints =
    if hasEndpoints env then env.hook.readWriteEndpoints else "" := rfl
  have hsync : (env.seen s).synced = env.hook.synced := rfl
  unfold PgBouncerK8s.PgBouncerProvider.onDatabaseRequested
  unfold PgBouncerProvider.onDatabaseRequested at h
  rw [run_get_bind] at h
  rw [hu, hready', heps, hsync]
  refine .guarded h (fun hne => if_pos hne) (fun he hready => ?_) fun hl hready h => ?_
  · rw [if_neg (not_not.mpr he), hready]
    rfl
  rw [if_neg (not_not.mpr (unit_eq_leader hl)), hready]
  cases hhas : hasEndpoints env with
  | false =>
    rcases getHostsPorts_without (s := s) hhas with ⟨e, hrun⟩ | hrun
    · rw [run_bind_error hrun] at h
      cases h
    · rw [run_bind_ok hrun, if_pos rfl] at h
      cases h
      exact .postponed rfl rfl
  | true =>
    obtain ⟨hrun, hne, -⟩ := getHostsPorts_of_endpoints (s := s) hhas
    unfold setRelationDatabases at h
    rw [run_bind_ok hrun, if_neg hne, run_bind_ok (writeApplication_leader hl _), run_ite] at h
    rw [if_pos rfl, if_neg (by simpa using hne)]
    cases hs : env.hook.synced
        (PgBouncerProvider.requestDatabases lower s.app env.hook.unit rid r database) with
    | false =>
      rw [hs, if_neg Bool.false_ne_true] at h
      cases h
      simp only [hs, Bool.not_false, if_true]
      exact .postponed rfl rfl
    | true =>
      rw [hs, if_pos rfl] at h
      simp only [hs, Bool.not_true, Bool.false_eq_true, if_false]
      exact (create_refines h _ _).from rfl

/-! ## A legacy relation -/

/-- `create` runs behind the publication of the credentials, from `a`. -/
theorem db_create_refines {a : App} {user password database : String}
    (h : (DbProvides.create env rid r user password database).run s = (.ok (), t)) (ready : Bool)
    (endpoints : String)
    (ha : s.app = a.putRelation rid (r.updateDatabags env.hook.unit true
      [("user", user), ("password", password), ("database", database)])) :
    Refines s t (DbProvides.publishAndCreate
      { env.hook with ready := ready, readWriteEndpoints := endpoints } a rid r user password
        database) := by
  unfold DbProvides.create setStatus modifyBackend modifyApp at h
  rw [run_get_bind, run_modify_bind, run_modify_bind, run_ite, provision_snd] at h
  unfold DbProvides.publishAndCreate
  have hsnd := provision_snd s.app.backend
    { env.hook with ready := ready, readWriteEndpoints := endpoints } user password database
  rw [← ha]
  cases hok : env.hook.createUserOk && env.hook.createDatabaseOk with
  | false =>
    rw [hok, if_neg Bool.false_ne_true, run_ite] at h
    simp only [hsnd, hok, Bool.not_false, if_true]
    split_ifs at h
    · cases h
      exact ⟨rfl, by simp, fun message hm => congrArg Status.blocked (by simpa using hm)⟩
    · cases h
  | true =>
    rw [hok, if_pos rfl] at h
    simp only [hsnd, hok, Bool.not_true, Bool.false_eq_true, if_false]
    obtain ⟨_, s₀, h₀, h⟩ := run_bind_eq_ok h
    obtain ⟨activations, hrestore, -⟩ := restoreStatus_run env _ s.status
    rw [hrestore] at h₀
    cases h₀
    obtain ⟨_, s₁, h₁, h⟩ := run_bind_eq_ok h
    obtain ⟨_, s₂, h₂, h⟩ := run_bind_eq_ok h
    have hstatus := (within_updateStatus ordinary_anyError).ok (SameData.refl _) h₁
    obtain ⟨happ, hdef⟩ := authFunction_ok h₂ h
    refine ⟨?_, ?_, by simp⟩
    · rw [happ, hstatus.app]
      rfl
    · rw [hdef, hstatus.deferred]
      simp

theorem joined_refines
    (h : (DbProvides.onRelationJoined env lower rid r).run s = (.ok (), t)) :
    Refines s t
      (PgBouncerK8s.DbProvides.onRelationJoined lower (env.seen s) s.app rid r) := by
  have hu : (env.seen s).unit = env.hook.unit := rfl
  have hready' : (env.seen s).ready = ready env s := rfl
  have hext : DbProvides.blockOnExtensions (env.seen s) true r =
    DbProvides.blockOnExtensions env.hook true r := rfl
  have hsync : (env.seen s).synced = env.hook.synced := rfl
  unfold PgBouncerK8s.DbProvides.onRelationJoined
  unfold DbProvides.onRelationJoined at h
  rw [run_get_bind] at h
  rw [hu, hready', hext, hsync]
  refine .guarded h (fun hne => if_pos hne) (fun he hready => ?_) fun hl hready h => ?_
  · rw [if_neg (not_not.mpr he), hready]
    rfl
  rw [if_neg (not_not.mpr (unit_eq_leader hl)), hready]
  generalize DbProvides.blockOnExtensions env.hook true r = copied at h ⊢
  obtain ⟨r', block⟩ := copied
  simp only [modifyApp, run_modify_bind, run_ite, run_get_bind] at h
  simp only [Bool.not_true, Bool.false_eq_true, if_false]
  cases block with
  | true =>
    cases h
    exact ⟨rfl, by simp, by simp⟩
  | false =>
    simp only [Bool.false_eq_true, if_false] at h ⊢
    cases hdb : r'.remote.get "database" with
    | none =>
      rw [hdb] at h
      cases h
      exact .postponed rfl rfl
    | some database =>
      have hl' : isLeader env { s with app := s.app.putRelation rid r' } = true := hl
      simp only [hdb, setRelationDatabases, run_bind_ok (writeApplication_leader hl' _), run_ite,
        run_modify_bind] at h
      simp only
      cases hs : env.hook.synced (DbProvides.joinDatabases lower (s.app.putRelation rid r')
          env.hook.unit rid r'.endpoint database) with
      | false =>
        rw [hs, if_neg Bool.false_ne_true] at h
        cases h
        simp only [Bool.not_false, if_true]
        exact .postponed rfl rfl
      | true =>
        rw [hs, if_pos rfl] at h
        simp only [Bool.not_true, Bool.false_eq_true, if_false]
        exact (db_create_refines h _ _ rfl).from rfl

/-! ## The machine -/

/-- The action of `Lifecycle` that the handler of an event is on state `s`. -/
inductive Matches (env : Env) (s : State) : Event → Lifecycle.Action → Prop
  | joined {rid : RelId} {r : Relation} : s.app.relations.get? rid = some r →
      r.endpoint.legacy = true → Matches env s (.joined rid) (.setup (.joined (env.seen s) rid))
  | requested {rid : RelId} {r : Relation} {database : String} :
      s.app.relations.get? rid = some r → r.endpoint.legacy = false →
      r.remote.get "database" = some database →
      Matches env s (.requested rid database) (.setup (.requested (env.seen s) rid))
  | departed {rid : RelId} {r : Relation} : s.app.relations.get? rid = some r →
      Matches env s (.departed rid .own) (.departed env.hook.unit rid)
  | broken {rid : RelId} {r : Relation} : s.app.relations.get? rid = some r →
      Matches env s (.broken rid) (.broken (env.seen s) rid)

theorem departed_refines
    (h : (if r.endpoint.legacy then DbProvides.onRelationDeparted env rid r .own
      else PgBouncerProvider.onRelationDeparted env rid r .own).run s = (.ok (), t)) :
    t.app = Lifecycle.onRelationDeparted s.app env.hook.unit rid r := by
  unfold Lifecycle.onRelationDeparted
  cases hleg : r.endpoint.legacy with
  | true =>
    rw [hleg, if_pos rfl] at h
    cases h
    rfl
  | false =>
    rw [hleg, if_neg Bool.false_ne_true] at h
    obtain ⟨_, s₁, h₁, h⟩ := run_bind_eq_ok h
    have happ := (updateConnectionInfo_ok h₁).app
    rw [run_when, if_pos rfl] at h
    cases h
    show (setUnitDatabag env s₁ _).app = _
    unfold unitDatabag setUnitDatabag
    rw [happ]
    rfl

theorem broken_refines
    (h : (if r.endpoint.legacy then DbProvides.onRelationBroken env rid r
      else PgBouncerProvider.onRelationBroken env rid r).run s = (.ok (), t)) :
    (Setup.onBroken (env.seen s) s.app rid r).map Result.app = some t.app := by
  unfold Setup.onBroken
  cases hleg : r.endpoint.legacy with
  | true =>
    rw [hleg, if_pos rfl] at h
    obtain ⟨o, hres, -⟩ := db_broken_refines h
    rw [if_pos rfl,
      show PgBouncerK8s.DbProvides.onRelationBroken (env.seen s) s.app rid r = _ from hres]
    rfl
  | false =>
    rw [hleg, if_neg Bool.false_ne_true] at h
    obtain ⟨hres, -⟩ := client_broken_refines h
    rw [if_neg Bool.false_ne_true,
      show PgBouncerK8s.PgBouncerProvider.onRelationBroken (env.seen s) s.app rid r = _ from hres]
    rfl

/-- A handler of the operator that returns is a step of `Lifecycle`. -/
theorem handle_refines {ev : Event} {a : Lifecycle.Action} (ha : Matches env s ev a)
    (h : (handle env lower ev).run s = (.ok (), t)) (readonlyDbs : Option (List String)) :
    Lifecycle.step lower ⟨s.app, readonlyDbs⟩ a = some ⟨t.app, readonlyDbs⟩ := by
  cases ha with
  | joined hr hleg =>
    rw [handle, withRelation_run hr, run_when, if_pos hleg] at h
    simp [Lifecycle.step, Setup.step, hr, hleg, (joined_refines h).app]
  | requested hr hleg hdb =>
    rw [handle, withRelation_run hr, run_when, if_pos hleg] at h
    simp [Lifecycle.step, Setup.step, hr, hleg, hdb, (requested_refines h).app]
  | departed hr =>
    rw [handle, withRelation_run hr] at h
    simp [Lifecycle.step, hr, departed_refines h]
  | broken hr =>
    rw [handle, withRelation_run hr] at h
    obtain ⟨res, hres, happ⟩ := Option.map_eq_some_iff.mp (broken_refines h)
    simp [Lifecycle.step, hr, hres, happ]

end PgBouncerK8s.Operator
