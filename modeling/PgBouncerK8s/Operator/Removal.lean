import PgBouncerK8s.Operator.Deployment

/-!
# Removing a relation

The two `_on_relation_broken` handlers, which do to the application state what
those of `Relations` do. The one of the client relations deletes the account of
the relation, unless the backend is not ready: it returns then, without
deferring the event as the handler of the legacy relations does.

* `client_broken_refines`, `db_broken_refines`: the handlers refine those of
  `Relations`.
* `removesAccount_iff`: when a handler that returns has deleted the account.
-/

namespace PgBouncerK8s.Operator

open PgBouncerK8s.Action
open Text (str)

variable {env : Env} {s t : State} {lower : String → String} {rid : RelId} {r : Relation}

/-! ## A client relation -/

theorem updateConnectionInfo_ok
    (h : (PgBouncerProvider.updateConnectionInfo env rid r).run s = (.ok (), t)) :
    SameData s t :=
  (within_updateConnectionInfo ordinary_anyError rid r).ok (SameData.refl s) h

/-- The states in which `_on_relation_broken` of `PgBouncerProvider` returns,
    from the state `s` behind `update_connection_info`. -/
inductive ClientBroken (env : Env) (s : State) (rid : RelId) (r : Relation) : State → Prop
  | notReady : ready env s = false → ClientBroken env s rid r
      { s with status := .waiting "waiting for backend-database relation to connect" }
  | follower : ready env s = true → isLeader env s = false → ClientBroken env s rid r s
  | departing : ready env s = true → isLeader env s = true →
      (unitDatabag env s).get (departFlag r.endpoint rid) = some "true" →
      ClientBroken env s rid r
        (setUnitDatabag env s ((unitDatabag env s).pop (departFlag r.endpoint rid)))
  | done : ready env s = true → isLeader env s = true →
      (unitDatabag env s).get (departFlag r.endpoint rid) ≠ some "true" →
      env.hook.deleteUserOk = true →
      ClientBroken env s rid r (userDeleted (PgBouncerProvider.relationUser rid)
        ((lastName env s rid).elim (entryRemoved env s rid)
          (removed env (entryRemoved env s rid))))

theorem client_broken_effect
    (h : (PgBouncerProvider.onRelationBroken env rid r).run s = (.ok (), t)) :
    ∃ s', (PgBouncerProvider.updateConnectionInfo env rid r).run s = (.ok (), s') ∧
      ClientBroken env s' rid r t := by
  unfold PgBouncerProvider.onRelationBroken PgBouncerProvider.teardown at h
  obtain ⟨_, s', hu, h⟩ := run_bind_eq_ok h
  refine ⟨s', hu, ?_⟩
  cases hready : ready env s' with
  | false =>
    rw [run_bind_ok (checkBackend_not_ready hready)] at h
    cases h
    exact .notReady hready
  | true =>
    rw [run_bind_ok (checkBackend_ready hready), run_get_bind, run_when] at h
    cases hl : isLeader env s' with
    | false =>
      rw [if_neg (by simp [hl])] at h
      cases h
      exact .follower hready hl
    | true =>
      rw [if_pos ⟨rfl, hl⟩, run_ite] at h
      by_cases hf : (unitDatabag env s').get (departFlag r.endpoint rid) = some "true"
      · rw [if_pos hf] at h
        cases h
        exact .departing hready hl hf
      · rw [if_neg hf] at h
        unfold setRelationDatabases at h
        rw [run_bind_ok (writeApplication_leader hl _)] at h
        obtain ⟨_, s₁, h₁, h⟩ := run_bind_eq_ok h
        obtain ⟨hok, rfl⟩ := deleteUser_ok (run_tryCatch_eq_ok (fun _ _ hne => by cases hne) h)
        obtain rfl := removeUnused_ok h₁
        exact .done hready hl hf hok

/-- The auth function of the entry that is popped goes as `Relations` has it. -/
theorem lastName_elim (env : Env) (s t : State) (rid : RelId) :
    ((lastName env s rid).elim t (removed env t)).app =
      { t.app with
        backend := Lifecycle.popName (getRelationDatabases s.app env.hook.unit) (str rid)
          t.app.backend } := by
  unfold lastName unusedName Lifecycle.popName
  rcases ((getRelationDatabases s.app env.hook.unit).get? (str rid)).map DbEntry.name with _ | name
  · rfl
  · rw [Option.filter_some]
    unfold remainingDbs
    by_cases hu : name ≠ "" ∧
      name ∉ ((getRelationDatabases s.app env.hook.unit).erase (str rid)).values.map DbEntry.name
    · rw [if_pos (decide_eq_true hu)]
      simp only [if_pos hu]
      rfl
    · rw [if_neg (by simpa using hu)]
      simp only [if_neg hu]
      rfl

theorem elim_removed_deferred (o : Option String) :
    (o.elim s (removed env s)).deferred = s.deferred := by
  cases o <;> rfl

theorem ClientBroken.refines (h : ClientBroken env s rid r t) :
    PgBouncerK8s.PgBouncerProvider.onRelationBroken { env.hook with ready := ready env s } s.app
      rid r = some ⟨t.app, .returned⟩ ∧ t.deferred = s.deferred := by
  unfold PgBouncerK8s.PgBouncerProvider.onRelationBroken
  cases h with
  | notReady hr => simp [hr]
  | follower hr hl =>
    have hne := unit_ne_leader hl
    simp [hne]
  | departing hr hl hf =>
    have he := unit_eq_leader hl
    have hf' : (s.app.peerUnit env.hook.unit).get (departFlag r.endpoint rid) = some "true" := hf
    simp [hr, he.symm, hf', setUnitDatabag, unitDatabag]
  | done hr hl hf hok =>
    have he := unit_eq_leader hl
    have hf' : (s.app.peerUnit env.hook.unit).get (departFlag r.endpoint rid) ≠ some "true" := hf
    refine ⟨?_, elim_removed_deferred _⟩
    unfold userDeleted
    rw [lastName_elim]
    have hskip : (!ready env s || decide (env.hook.unit ≠ s.app.leader)) = false := by
      simp [hr, he]
    simp only [hskip, if_neg hf', hok, Bool.not_true, Bool.false_eq_true, if_false]
    rfl

/-- The handler does to the application state what the handler of `Relations`
    does, and does not defer its event. -/
theorem client_broken_refines
    (h : (PgBouncerProvider.onRelationBroken env rid r).run s = (.ok (), t)) :
    PgBouncerK8s.PgBouncerProvider.onRelationBroken { env.hook with ready := ready env s } s.app
      rid r = some ⟨t.app, .returned⟩ ∧ t.deferred = s.deferred := by
  obtain ⟨s', hu, hb⟩ := client_broken_effect h
  have hd := updateConnectionInfo_ok hu
  rw [← hd.ready, ← hd.app, ← hd.deferred]
  exact hb.refines

/-! ## A legacy relation -/

theorem checkForBlockingRelations_run (env : Env) (s : State) (rid : RelId) :
    ∃ status activations, (DbProvides.checkForBlockingRelations env rid).run s =
      (.ok (), { s with status := status, activations := activations }) := by
  unfold DbProvides.checkForBlockingRelations
  rw [run_get_bind, run_when]
  split_ifs
  · exact ⟨.active, _, rfl⟩
  · exact ⟨s.status, s.activations, rfl⟩

/-- The teardown raises on a follower, which may not write the map, and where
    `delete_user` fails. -/
theorem db_teardown_effect {user : String}
    (h : (DbProvides.teardown env rid user).run s = (.ok (), t)) :
    isLeader env s = true ∧ env.hook.deleteUserOk = true ∧
      t.app = { s.app.setRelationDatabases (remainingDbs env s rid) with
        backend := Lifecycle.popName (getRelationDatabases s.app env.hook.unit) (str rid)
          (s.app.backend.deleteUser user) } ∧
      t.deferred = s.deferred := by
  unfold DbProvides.teardown setRelationDatabases at h
  rw [run_get_bind] at h
  cases hl : isLeader env s with
  | false =>
    obtain ⟨_, s₁, hw, -⟩ := run_bind_eq_ok h
    rw [writeApplication_follower hl] at hw
    cases hw
  | true =>
    rw [run_bind_ok (writeApplication_leader hl _)] at h
    obtain ⟨_, s₃, h₃, h⟩ := run_bind_eq_ok h
    rw [run_when, if_pos hl] at h₃
    obtain ⟨_, s₂, h₂, h₃⟩ := run_bind_eq_ok h₃
    obtain ⟨hok, rfl⟩ := deleteUser_ok h₂
    obtain rfl := removeUnused_ok h₃
    obtain ⟨status, activations, hcheck⟩ := checkForBlockingRelations_run env _ rid
    rw [hcheck] at h
    cases h
    exact ⟨rfl, hok, lastName_elim env s _ rid, elim_removed_deferred _⟩

theorem abandon_refines (h : (DbProvides.abandon env rid r).run s = (.ok (), t)) :
    ∃ o, (if DbProvides.checkExtensions env.hook
        (DbProvides.getRelationExtensions env.hook.unit (decide (env.hook.unit = s.app.leader)) r)
      then some (⟨s.app, .deferred⟩ : Result) else some ⟨s.app, .returned⟩) = some ⟨t.app, o⟩ ∧
      (t.deferred = true ↔ s.deferred = true ∨ o = .deferred) := by
  unfold DbProvides.abandon isLeader at h
  rw [run_get_bind, run_ite] at h
  split_ifs at h ⊢
  · cases h
    exact ⟨.deferred, rfl, by simp⟩
  · obtain ⟨status, activations, hcheck⟩ := checkForBlockingRelations_run env s rid
    rw [hcheck] at h
    cases h
    exact ⟨.returned, rfl, by simp⟩

/-- The handler does to the application state what the handler of `Relations`
    does, and defers its event where that one does. -/
theorem db_broken_refines
    (h : (DbProvides.onRelationBroken env rid r).run s = (.ok (), t)) :
    ∃ o, PgBouncerK8s.DbProvides.onRelationBroken { env.hook with ready := ready env s } s.app
        rid r = some ⟨t.app, o⟩ ∧
      (t.deferred = true ↔ s.deferred = true ∨ o = .deferred) := by
  unfold PgBouncerK8s.DbProvides.onRelationBroken
  cases hf : (unitDatabag env s).contains (departFlag r.endpoint rid) with
  | true =>
    have hf' : (s.app.peerUnit env.hook.unit).contains (departFlag r.endpoint rid) = true := hf
    rw [db_broken_flagged hf] at h
    cases h
    exact ⟨.returned, by simp [hf'], by simp⟩
  | false =>
    have hf' : (s.app.peerUnit env.hook.unit).contains (departFlag r.endpoint rid) = false := hf
    by_cases ht : Torn env s r
    · obtain ⟨hready, hus, hdb⟩ := ht
      obtain ⟨user, hus⟩ := Option.isSome_iff_exists.mp hus
      obtain ⟨database, hdb'⟩ := Option.isSome_iff_exists.mp hdb
      rw [db_broken_torn hf hready hus hdb] at h
      obtain ⟨hl, hok, happ, hdef⟩ := db_teardown_effect h
      have hu := unit_eq_leader hl
      refine ⟨.returned, ?_, by simp [hdef]⟩
      simp only [hf', hready, hus, hdb', hok, decide_eq_true hu, Bool.false_eq_true, if_false]
      rw [happ]
      rfl
    · obtain ⟨t₀, hc, happ, hdef⟩ := checkBackend_run env s
      rw [db_broken_abandoned hf ht hc] at h
      obtain ⟨o, hres, ho⟩ := abandon_refines h
      refine ⟨o, ?_, by rw [ho, hdef]⟩
      rw [happ] at hres
      simp only [hf', Bool.false_eq_true, if_false]
      rw [← hres]
      unfold Torn Databag.contains at ht
      cases hready : ready env s with
      | false => rfl
      | true =>
        rcases hus : (r.unit env.hook.unit).get "user" with _ | user
        · rfl
        · rcases hdb : (r.unit env.hook.unit).get "database" with _ | database
          · rfl
          · exact absurd ⟨hready, by rw [hus]; rfl, by rw [hdb]; rfl⟩ ht

/-! ## The account -/

/-- The service of Kubernetes, or what its endpoints are made of, cannot be
    read. -/
def serviceFails (env : Env) : Bool :=
  env.service = .failed || (env.service = .found && !env.endpointsOk)

/-- The handler updates the endpoints of the relation, and cannot read the
    service. -/
def endpointsFail (env : Env) (rid : RelId) (r : Relation) : Bool :=
  (CharmConfig.build env.options).isSome && env.hasRemoteData rid &&
    r.remote.contains "database" && r.app.contains "password" && serviceFails env

theorem getHostsPorts_run {c : CharmConfig} (hc : CharmConfig.build env.options = some c) :
    (getHostsPorts env).run s =
      if serviceFails env = true then (.error .other, s)
      else (.ok (if env.service = .found then env.hook.readWriteEndpoints else ""), s) := by
  unfold getHostsPorts getService serviceFails
  cases hs : env.service with
  | failed => rfl
  | missing => rfl
  | found =>
    show (do let _ ← config env; _ : Handler String).run s = _
    rw [config_valid hc, run_pure_bind, run_ite]
    cases env.endpointsOk <;> rfl

/-- The account is gone: `delete_user` has been called for its role, and the
    map has no entry. -/
def AccountRemoved (s t : State) (rid : RelId) : Prop :=
  (∃ calls, t.app.backend.calls = s.app.backend.calls ++ calls ∧
    .deleteUser (PgBouncerProvider.relationUser rid) ∈ calls) ∧
    t.app.databases.get? (str rid) = none

theorem updateEndpoints_run {c : CharmConfig} (hc : CharmConfig.build env.options = some c) :
    (PgBouncerProvider.updateEndpoints env [(rid, r)]).run s =
      if endpointsFail env rid r then (.error .other, s) else (.ok (), s) := by
  unfold PgBouncerProvider.updateEndpoints endpointsFail
  cases hdata : env.hasRemoteData rid with
  | false =>
    simp [PgBouncerProvider.updateEndpoints]
  | true =>
    simp only [Bool.not_true, Bool.false_eq_true, if_false]
    rw [run_when]
    by_cases hk : r.remote.contains "database" = true ∧ r.app.contains "password" = true
    · rw [if_pos hk, run_bind, getHostsPorts_run hc, hc, hk.1, hk.2]
      cases serviceFails env <;> rfl
    · rw [if_neg hk, if_neg]
      intro h
      simp only [Bool.and_eq_true] at h
      exact hk ⟨h.1.1.2, h.1.2⟩

/-- What `update_connection_info` does on the leader. -/
theorem updateConnectionInfo_run (hl : isLeader env s = true) :
    (PgBouncerProvider.updateConnectionInfo env rid r).run s =
      if CharmConfig.build env.options = none then
        (.ok (), { s with status := .blocked configurationError })
      else if endpointsFail env rid r then (.error .other, s)
      else if r.remote.contains "database" = true then
        if ready env s = true then
          if env.version = none then (.error .other, s) else (.ok (), s)
        else
          (.ok (), { s with status := .waiting "waiting for backend-database relation to connect" })
      else (.ok (), s) := by
  unfold PgBouncerProvider.updateConnectionInfo
  rw [run_get_bind, run_when, if_pos hl]
  rcases hc : CharmConfig.build env.options with _ | c
  · rw [configurationCheck_invalid hc, if_pos rfl]
    rfl
  · rw [configurationCheck_valid hc, run_pure_bind, run_when, if_pos rfl, if_neg (by simp),
      run_bind, updateEndpoints_run hc]
    by_cases hf : endpointsFail env rid r = true
    · rw [if_pos hf, if_pos hf]
    · rw [if_neg hf, if_neg hf]
      show (Action.when _ _).run s = _
      rw [run_when]
      congr 1
      cases hr : ready env s with
      | true =>
        rw [run_bind_ok (checkBackend_ready hr), run_when]
        simp
      | false =>
        rw [run_bind_ok (checkBackend_not_ready hr)]
        simp [run_when]

/-- A handler that returns has deleted the account if the backend is ready. -/
theorem accountRemoved_of_ready (hl : isLeader env s = true)
    (hf : (unitDatabag env s).get (departFlag r.endpoint rid) ≠ some "true")
    (hready : ready env s = true)
    (h : (PgBouncerProvider.onRelationBroken env rid r).run s = (.ok (), t)) :
    AccountRemoved s t rid := by
  unfold AccountRemoved
  have hu := unit_eq_leader hl
  have hb := (client_broken_refines h).1
  have he := Lifecycle.clientBroken_effect { env.hook with ready := ready env s } s.app rid r
  rw [hb] at he
  generalize t.app = a at he ⊢
  cases he with
  | skipped h =>
    rcases h with h | h
    · rw [hready] at h
      cases h
    · exact absurd hu h
  | departing flags hfl => exact absurd hfl hf
  | done _ _ _ =>
    obtain ⟨calls, hcalls⟩ := Lifecycle.popName_calls s.app.databases (str rid) s.app.backend
    refine ⟨⟨calls ++ [.deleteUser (PgBouncerProvider.relationUser rid)], ?_, by simp⟩, ?_⟩
    · rw [← List.append_assoc, ← hcalls]
      rfl
    · show (s.app.databases.erase (str rid)).get? (str rid) = none
      rw [Dict.get?_erase, if_pos rfl]

/-- Without the backend the handler returns, unless `update_connection_info`
    raises, and the account stays. -/
theorem account_stays (hl : isLeader env s = true) (hready : ready env s = false)
    (hok : endpointsFail env rid r = false) :
    ∃ t, (PgBouncerProvider.onRelationBroken env rid r).run s = (.ok (), t) ∧
      t.app = s.app ∧ t.deferred = s.deferred := by
  obtain ⟨s', hu⟩ : ∃ s',
      (PgBouncerProvider.updateConnectionInfo env rid r).run s = (.ok (), s') := by
    rw [updateConnectionInfo_run hl, hready, hok]
    simp only [Bool.false_eq_true, if_false]
    split_ifs <;> exact ⟨_, rfl⟩
  have hd := updateConnectionInfo_ok hu
  have hready' : ready env s' = false := hd.ready.trans hready
  unfold PgBouncerProvider.onRelationBroken PgBouncerProvider.teardown
  rw [run_bind_ok hu, run_bind_ok (checkBackend_not_ready hready'), run_get_bind, run_when,
    if_neg (by simp)]
  exact ⟨_, rfl, hd.app, hd.deferred⟩

/-- The handler of the leader removes the account whenever it returns without
    deferring, if and only if the backend is ready or the service of Kubernetes
    cannot be read: in the other cases it returns and the account stays. -/
theorem removesAccount_iff (hl : isLeader env s = true) (hd : s.deferred = false)
    (hr : s.app.relations.get? rid = some r) (hep : r.endpoint = .database)
    (hf : (unitDatabag env s).get (departFlag r.endpoint rid) ≠ some "true") :
    (∀ t, (handle env lower (.broken rid)).run s = (.ok (), t) → t.deferred = false →
        AccountRemoved s t rid) ↔
      ready env s = true ∨ endpointsFail env rid r = true := by
  have hrun : (handle env lower (.broken rid)).run s =
      (PgBouncerProvider.onRelationBroken env rid r).run s := by
    unfold handle withRelation
    rw [run_get_bind, hr]
    simp [hep, Endpoint.legacy]
  rw [hrun]
  constructor
  · intro h
    by_contra hn
    obtain ⟨hready, hok⟩ : ready env s = false ∧ endpointsFail env rid r = false := by
      simpa using hn
    obtain ⟨t, ht, happ, hdef⟩ := account_stays hl hready hok
    obtain ⟨⟨calls, hcalls, hmem⟩, -⟩ := h t ht (hdef.trans hd)
    rw [happ, List.self_eq_append_right] at hcalls
    rw [hcalls] at hmem
    cases hmem
  · rintro (hready | hfail) t ht -
    · exact accountRemoved_of_ready hl hf hready ht
    · obtain ⟨s', hu, -⟩ := client_broken_effect ht
      have hc : CharmConfig.build env.options ≠ none := by
        intro hc
        simp [endpointsFail, hc] at hfail
      rw [updateConnectionInfo_run hl, if_neg hc, if_pos hfail] at hu
      cases hu

/-- A client relation that unit 0 serves. -/
def servedRun : List Step :=
  [.relate 1 .database, .write 1 (Setup.asking "a"), .handle (sampleEnv 0) (.requested 1 "a")]

/-- A hook on unit `u` that the backend does not answer. -/
def unreachable (u : UnitId) : Env :=
  { sampleEnv u with hook := { Setup.sampleHook u with ready := false } }

/-- Unit 0 leads and has created the account of relation 1, and its handler of
    the removal returns with the account in place. -/
def leaks (w : Deployment) : Bool :=
  w.app.leader == 0 && ((w.app.relations.get? 1).map Relation.endpoint == some .database) &&
    ((unitDatabag (unreachable 0) (w.view 0)).get (departFlag .database 1) == none) &&
    (w.app.backend.roles "relation_id_1").isSome &&
    match (handle (unreachable 0) Text.asciiLower (.broken 1)).run (w.view 0) with
    | (.ok _, t) => !t.deferred && (t.app.backend.roles "relation_id_1").isSome &&
        t.app.databases.contains "1"
    | (.error _, _) => false

/-- The relation is removed while the backend does not answer: the handler
    returns, and the role and the entry stay. -/
theorem account_leaks :
    ∃ w t, (machine Text.asciiLower).Reach Machine.always w ∧ w.app.leader = 0 ∧
      (w.app.relations.get? 1).map Relation.endpoint = some .database ∧
      (unitDatabag (unreachable 0) (w.view 0)).get (departFlag .database 1) = none ∧
      (w.app.backend.roles "relation_id_1").isSome = true ∧
      (handle (unreachable 0) Text.asciiLower (.broken 1)).run (w.view 0) = (.ok (), t) ∧
      t.deferred = false ∧ (t.app.backend.roles "relation_id_1").isSome = true ∧
      ¬ AccountRemoved (w.view 0) t 1 := by
  obtain ⟨w, hw, hp⟩ := Machine.exists_reach_of_exec (machine Text.asciiLower) Machine.always
    sampleDeployment servedRun leaks ⟨rfl, rfl⟩ (by decide +kernel)
  unfold leaks at hp
  rcases hrun : (handle (unreachable 0) Text.asciiLower (.broken 1)).run (w.view 0) with ⟨_ | _, t⟩
  · simp [hrun] at hp
  · simp only [hrun, Bool.and_eq_true, beq_iff_eq, Bool.not_eq_true'] at hp
    obtain ⟨⟨⟨⟨hl, hep⟩, hf⟩, hrole⟩, ⟨hdef, hkept⟩, hentry⟩ := hp
    refine ⟨w, t, hw, hl, hep, hf, hrole, hrun, hdef, hkept, ?_⟩
    intro hremoved
    rw [Dict.contains, show t.app.databases.get? "1" = none from hremoved.2] at hentry
    cases hentry

/-- The same removal with the backend. -/
theorem account_removed :
    ∃ w t, (machine Text.asciiLower).Reach Machine.always w ∧
      (w.app.backend.roles "relation_id_1").isSome = true ∧
      (handle (sampleEnv 0) Text.asciiLower (.broken 1)).run (w.view 0) = (.ok (), t) ∧
      AccountRemoved (w.view 0) t 1 := by
  obtain ⟨w, hw, hp⟩ := Machine.exists_reach_of_exec (machine Text.asciiLower) Machine.always
    sampleDeployment servedRun
    (fun w => isLeader (sampleEnv 0) (w.view 0) && ready (sampleEnv 0) (w.view 0) &&
      ((w.app.relations.get? 1).map Relation.endpoint == some .database) &&
      ((unitDatabag (sampleEnv 0) (w.view 0)).get (departFlag .database 1) == none) &&
      (w.app.backend.roles "relation_id_1").isSome &&
      match (handle (sampleEnv 0) Text.asciiLower (.broken 1)).run (w.view 0) with
      | (.ok _, t) => !t.deferred
      | (.error _, _) => false) ⟨rfl, rfl⟩ (by decide +kernel)
  simp only [Bool.and_eq_true, beq_iff_eq, Option.map_eq_some_iff] at hp
  obtain ⟨⟨⟨⟨⟨hl, hready⟩, r, hr, hep⟩, hf⟩, hrole⟩, hok⟩ := hp
  rcases hrun : (handle (sampleEnv 0) Text.asciiLower (.broken 1)).run (w.view 0) with ⟨_ | _, t⟩
  · simp [hrun] at hok
  · refine ⟨w, t, hw, hrole, hrun, ?_⟩
    apply (removesAccount_iff hl rfl hr hep ?_).mpr (.inl hready) t hrun
    · simpa [hrun] using hok
    · rw [hep, hf]
      simp

end PgBouncerK8s.Operator
