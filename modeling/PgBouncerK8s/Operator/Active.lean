import PgBouncerK8s.Operator.ConfigErrors
import PgBouncerK8s.Operator.Sticky

/-!
# Active units

`update_status` sets `ActiveStatus` behind its checks. Three other places set it
without a check: `_check_for_blocking_relations`, in the removal of a legacy
relation, and `remove_auth_function`, for a long name, to clear a message; and
`_on_relation_joined`, which assigns the status again that it has saved.

* `deserved_handle_iff`: which handlers set a unit active that is not healthy.
* `active_iff`: the same in all runs without such handlers.
-/

namespace PgBouncerK8s.Operator.Active

open PgBouncerK8s.Action
open Text (str)

variable {env : Env} {s t : State} {lower : String → String} {rid : RelId} {r : Relation}

/-- Wherever `ActiveStatus` has been set, the conditions of `update_status`
    held. -/
def Deserved (s : State) : Prop := ∀ b ∈ s.activations, b = true

theorem deserved_congr (h : t.activations = s.activations) : Deserved t ↔ Deserved s := by
  unfold Deserved
  rw [h]

/-- Nothing has been set, and nothing had to be healthy. -/
theorem deserved_unmoved {P : Prop} (h : t.activations = s.activations) :
    Deserved t ↔ Deserved s ∧ (false = true → P) := by
  rw [deserved_congr h]
  simp

theorem deserved_append (h : t.activations = s.activations ++ [healthy env s]) :
    Deserved t ↔ Deserved s ∧ healthy env s = true := by
  unfold Deserved
  rw [h]
  simp only [List.mem_append, List.mem_singleton, or_imp, forall_and, forall_eq]

theorem deserved_activated : Deserved (activated env s) ↔ Deserved s ∧ healthy env s = true :=
  deserved_append rfl

/-! ## Handlers that clear no message -/

/-- The invariant of what sets `ActiveStatus` only behind the checks. -/
structure Kept (a : App) (P : Prop) (s : State) : Prop where
  framed : Framed a s
  deserved : Deserved s ↔ P

instance (a : App) (P : Prop) : Stable a (Kept a P) where
  status _ _ _ hs := ⟨⟨hs.framed.leader, hs.framed.contains⟩, hs.deserved⟩
  services _ _ hs := ⟨⟨hs.framed.leader, hs.framed.contains⟩, hs.deserved⟩
  active _ _ h hs := ⟨hs.framed.activated,
    (deserved_activated.trans (and_iff_left h)).trans hs.deserved⟩
  framed _ hs := hs.framed
  write _ _ hs ht hact := ⟨hs.framed.trans ht, (deserved_congr hact).trans hs.deserved⟩

theorem deserved_after {m : Handler Unit} (h : Within (Kept s.app (Deserved s)) AnyError m) :
    Deserved (m.run s).2 ↔ Deserved s :=
  (within_after h ⟨.refl s, Iff.rfl⟩).deserved

/-- The handlers that neither remove an auth function nor tear a relation
    down. -/
def checked : Event → Bool
  | .backendDeparted _ _ => false
  | .joined _ => false
  | .requested _ _ => false
  | .broken _ => false
  | _ => true

theorem deserved_checked (lower : String → String) {ev : Event} (h : checked ev = true) :
    Deserved ((handle env lower ev).run s).2 ↔ Deserved s := by
  apply deserved_after
  refine within_handle_of_stable ordinary_anyError readable_anyError lower ?_ ?_ ?_ ?_
  all_goals
    intros
    rintro rfl
    cases h

/-! ## What clears a message -/

theorem deserved_cleared {dbname : String} (h : t.activations = clearedActivations env s dbname) :
    Deserved t ↔ Deserved s ∧ (clearsName env s dbname = true → healthy env s = true) := by
  unfold clearedActivations at h
  by_cases hc : skipsName env s dbname = true ∧ s.status = .blocked invalidDatabaseName
  · have hclears : clearsName env s dbname = true := by simpa [clearsName] using hc
    rw [if_pos hc] at h
    rw [deserved_append h, hclears]
    simp
  · have hclears : clearsName env s dbname = false := by simpa [clearsName] using hc
    rw [if_neg hc] at h
    rw [deserved_congr h, hclears]
    simp

theorem deserved_elim (env : Env) (s : State) (o : Option String) :
    Deserved (o.elim s (removed env s)) ↔
      Deserved s ∧ (o.any (clearsName env s) = true → healthy env s = true) := by
  rcases o with _ | name
  · simp
  · exact deserved_cleared rfl

theorem deserved_checkForBlockingRelations (env : Env) (s : State) (rid : RelId) :
    Deserved ((DbProvides.checkForBlockingRelations env rid).run s).2 ↔
      Deserved s ∧ (clearsExtensions env s rid = true → healthy env s = true) := by
  rw [run_checkForBlockingRelations]
  cases clearsExtensions env s rid with
  | true =>
    rw [if_pos rfl, deserved_activated]
    simp
  | false => simp

/-- A unit that waits for the backend is not blocked. -/
theorem checkBackend_waiting (h : ready env s = false) :
    ∃ t, (checkBackend env).run s = (.ok false, t) ∧ t.activations = s.activations ∧
      ∀ m, t.status ≠ .blocked m :=
  ⟨_, checkBackend_not_ready h, rfl, nofun⟩

theorem invalidDatabaseName_not_own : ¬ (Status.blocked invalidDatabaseName).Own :=
  Sticky.not_own (by decide) (by decide) (by decide)

/-- The invariant of what sets `ActiveStatus` only behind the checks, on a unit
    that is not blocked for an invalid database name. -/
structure Unnamed (P : Prop) (s : State) : Prop where
  deserved : Deserved s ↔ P
  status : s.status ≠ .blocked invalidDatabaseName

instance (P : Prop) : Quiet (Unnamed P) where
  status _ _ hown hs := ⟨hs.deserved, fun h => invalidDatabaseName_not_own (h ▸ hown)⟩
  services _ _ hs := ⟨hs.deserved, hs.status⟩
  active _ _ h hs := ⟨(deserved_activated.trans (and_iff_left h)).trans hs.deserved, nofun⟩

theorem clearsName_of_ne (h : s.status ≠ .blocked invalidDatabaseName) (dbname : String) :
    clearsName env s dbname = false := by
  unfold clearsName
  rw [decide_eq_false h, Bool.and_false]

/-! ## Joins and requests -/

theorem deserved_restored (h : t.activations = restoredActivations env s) :
    Deserved t ↔ Deserved s ∧ (s.status = .active → healthy env s = true) := by
  unfold restoredActivations at h
  by_cases ha : s.status = .active
  · rw [if_pos ha] at h
    rw [deserved_append h, imp_iff_right ha]
  · rw [if_neg ha] at h
    rw [deserved_congr h]
    simp [ha]

theorem deserved_authFunction (hready : ready env s = true) (dbname : String) :
    Deserved ((do
        removeAuthFunction env [dbname]
        initialiseAuthFunction env dbname : Handler Unit).run s).2 ↔
      Deserved s ∧ (clearsName env s dbname = true → healthy env s = true) := by
  obtain ⟨e, t, hrun, -, -, hact⟩ := authFunction_run hready dbname
  rw [hrun]
  exact deserved_cleared hact

/-- The user and the database can be created. -/
def creates (env : Env) : Bool := env.hook.createUserOk && env.hook.createDatabaseOk

theorem deserved_db_create (hready : ready env s = true) (rid : RelId) (r : Relation)
    (user password database : String) :
    Deserved ((DbProvides.create env rid r user password database).run s).2 ↔
      Deserved s ∧ ((creates env && (s.status = .active || clearsName env s database)) = true →
        healthy env s = true) := by
  obtain ⟨s₁, s₂, ⟨hnear₁, hst₁, hact₁⟩, ⟨-, -, hact₂⟩, hrun⟩ :=
    db_create_run env s rid r user password database
  have hdes₁ := deserved_restored hact₁
  unfold creates
  rw [hrun]
  cases env.hook.createUserOk && env.hook.createDatabaseOk with
  | false =>
    cases env.createErrorCaught with
    | true => exact deserved_unmoved hact₂
    | false => exact deserved_unmoved hact₂
  | true =>
    rw [if_pos rfl, Bool.true_and]
    by_cases hst : s.status = .blocked invalidDatabaseName
    · have hsticky : s₁.status.message ∈ stickyMessages env := by
        rw [hst₁, hst]
        simp [stickyMessages, Status.message]
      rw [run_bind_ok (updateStatus_sticky hsticky),
        deserved_authFunction (hnear₁.ready.trans hready), hdes₁, hnear₁.clearsName hst₁,
        hnear₁.healthy, hst]
      simp
    · have hu : Unnamed (Deserved s₁) ((updateStatus env).run s₁).2 :=
        within_after (within_updateStatus ordinary_anyError) ⟨Iff.rfl, hst₁ ▸ hst⟩
      have hd : SameData s₁ ((updateStatus env).run s₁).2 :=
        within_after (within_updateStatus ordinary_anyError) (SameData.refl s₁)
      rw [clearsName_of_ne hst, Bool.or_false, decide_eq_true_eq, ← hdes₁, run_bind]
      rcases hr : (updateStatus env).run s₁ with ⟨e | _, t⟩
      · rw [hr] at hu
        exact hu.deserved
      · rw [hr] at hu hd
        have hready' : ready env t = true := by rw [hd.ready, hnear₁.ready, hready]
        show Deserved (Action.run _ t).2 ↔ _
        rw [deserved_authFunction hready', clearsName_of_ne hu.status, hu.deserved]
        simp

/-- `_on_relation_joined` assigns `ActiveStatus` again, or clears "invalid
    database name". -/
def joinSetsActive (env : Env) (lower : String → String) (s : State) (rid : RelId)
    (r : Relation) : Bool :=
  isLeader env s && ready env s && creates env &&
    (joinServes env lower s rid r).any fun database =>
      s.status = .active || clearsName env s database

theorem deserved_joined (lower : String → String) (rid : RelId) (r : Relation) :
    Deserved ((DbProvides.onRelationJoined env lower rid r).run s).2 ↔
      Deserved s ∧ (joinSetsActive env lower s rid r = true → healthy env s = true) := by
  unfold joinSetsActive
  cases hl : isLeader env s with
  | false =>
    unfold DbProvides.onRelationJoined
    rw [run_get_bind, run_when, if_neg (by simp [hl])]
    simp
  | true =>
    cases hready : ready env s with
    | false =>
      unfold DbProvides.onRelationJoined
      rw [run_get_bind, run_when, if_pos hl, run_bind_ok (checkBackend_not_ready hready)]
      exact deserved_unmoved rfl
    | true =>
      rw [Bool.true_and, Bool.true_and]
      rcases joined_run hl hready lower rid r with
        ⟨hnone, -, hact⟩ | ⟨database, r', user, password, s₁, hsome, -, hnear, hst, hact, ht⟩
      · rw [deserved_congr hact, hnone]
        simp
      · rw [ht, deserved_db_create (hnear.ready.trans hready), deserved_congr hact, hsome,
          Option.any_some, hnear.clearsName hst, hnear.healthy, hst]

/-- `_on_database_requested` clears "invalid database name". -/
def requestClears (env : Env) (lower : String → String) (s : State) (rid : RelId) (r : Relation)
    (database : String) : Bool :=
  isLeader env s && ready env s && requestServes env lower s rid r database && creates env &&
    clearsName env s database

theorem deserved_create (hready : ready env s = true) (rid : RelId) (r : Relation)
    (database : String) :
    Deserved ((PgBouncerProvider.create env rid r database).run s).2 ↔
      Deserved s ∧
        ((creates env && clearsName env s database) = true → healthy env s = true) := by
  obtain ⟨e, r', s₁, s₂, ⟨-, -, hact₁⟩, ⟨-, -, hact₂⟩, hrun⟩ :=
    create_run hready rid r database
  have hrest : Deserved ((renderAndPublish env rid r').run s₂).2 ↔ Deserved s₂ := by
    apply deserved_after
    apply Within.bind (within_renderPgbConfig ordinary_anyError false)
    intro _
    exact .bind (within_putRelation rid _) fun _ =>
      within_updateConnectionInfo ordinary_anyError rid _
  unfold creates
  rw [hrun]
  cases env.hook.createUserOk && env.hook.createDatabaseOk with
  | false =>
    cases env.createErrorCaught with
    | true => exact deserved_unmoved hact₁
    | false => exact deserved_unmoved hact₁
  | true =>
    rw [if_pos rfl, Bool.true_and, ← deserved_cleared hact₂]
    cases env.sqlOk database with
    | true => exact hrest
    | false => exact Iff.rfl

theorem deserved_requested (lower : String → String) (rid : RelId) (r : Relation)
    (database : String) :
    Deserved ((PgBouncerProvider.onDatabaseRequested env lower rid r database).run s).2 ↔
      Deserved s ∧ (requestClears env lower s rid r database = true → healthy env s = true) := by
  unfold requestClears
  cases hl : isLeader env s with
  | false =>
    unfold PgBouncerProvider.onDatabaseRequested
    rw [run_get_bind, run_when, if_neg (by simp [hl])]
    simp
  | true =>
    cases hready : ready env s with
    | false =>
      unfold PgBouncerProvider.onDatabaseRequested
      rw [run_get_bind, run_when, if_pos hl, run_bind_ok (checkBackend_not_ready hready)]
      exact deserved_unmoved rfl
    | true =>
      rw [Bool.true_and, Bool.true_and]
      rcases requested_run hl hready lower rid r database with
        ⟨hno, -, -, hact⟩ | ⟨c, s₁, hserves, -, hnear, hst, hact, ht⟩
      · rw [deserved_congr hact, hno]
        simp
      · rw [ht, deserved_create (hnear.ready.trans hready), deserved_congr hact, hserves,
          Bool.true_and, hnear.clearsName hst, hnear.healthy]

/-! ## Removal of a legacy relation -/

theorem deserved_dbTornDown (env : Env) (s : State) (rid : RelId) (user : String) :
    Deserved (dbTornDown env s rid user) ↔
      Deserved s ∧ ((lastName env s rid).any (clearsName env s) = true → healthy env s = true) := by
  have hhealthy : healthy env (userDeleted user (entryRemoved env s rid)) = healthy env s :=
    healthy_congr rfl rfl fun _ => rfl
  rw [← hhealthy]
  exact deserved_elim env (userDeleted user (entryRemoved env s rid)) (lastName env s rid)

theorem healthy_dbTornDown (env : Env) (s : State) (rid : RelId) (user : String) :
    healthy env (dbTornDown env s rid user) = healthy env s := by
  unfold dbTornDown
  cases lastName env s rid <;> exact healthy_congr rfl rfl fun _ => rfl

/-- The removal clears one message at most. -/
theorem clearsExtensions_dbTornDown (env : Env) (s : State) (rid : RelId) (user : String) :
    clearsExtensions env (dbTornDown env s rid user) rid =
      (!(lastName env s rid).any (clearsName env s) && clearsExtensions env s rid) := by
  have hst : (dbTornDown env s rid user).status =
      if (lastName env s rid).any (clearsName env s) then .active else s.status :=
    (elim_removed_status env (userDeleted user (entryRemoved env s rid)) (lastName env s rid)).1
  unfold clearsExtensions
  rw [blockedByOther_dbTornDown, hst]
  cases (lastName env s rid).any (clearsName env s) <;> rfl

theorem deserved_db_teardown (hl : isLeader env s = true) (rid : RelId) (user : String) :
    Deserved ((DbProvides.teardown env rid user).run s).2 ↔ Deserved s ∧
      ((env.hook.deleteUserOk && ((lastName env s rid).any (clearsName env s) ||
        ((lastName env s rid).all (removable env s) && clearsExtensions env s rid))) = true →
        healthy env s = true) := by
  obtain ⟨e, hrun⟩ := db_teardown_run hl rid user
  rw [hrun]
  cases env.hook.deleteUserOk with
  | false => exact deserved_unmoved rfl
  | true =>
    simp only [if_true, Bool.true_and]
    cases (lastName env s rid).all (removable env s) with
    | false =>
      rw [Bool.false_and, Bool.or_false, ← deserved_dbTornDown env s rid user]
      exact Iff.rfl
    | true =>
      simp only [if_true]
      rw [deserved_checkForBlockingRelations, deserved_dbTornDown, clearsExtensions_dbTornDown,
        healthy_dbTornDown]
      cases (lastName env s rid).any (clearsName env s) <;> simp

/-- `_on_relation_broken` of a legacy relation clears a message. -/
def dbClears (env : Env) (s : State) (rid : RelId) (r : Relation) : Bool :=
  ready env s && (isLeader env s || !decide (Torn env s r)) && dbDrops env s rid r

theorem deserved_abandon (env : Env) (s : State) (rid : RelId) (r : Relation) :
    Deserved ((DbProvides.abandon env rid r).run s).2 ↔ Deserved s ∧
      ((!enabled env s r && clearsExtensions env s rid) = true → healthy env s = true) := by
  unfold DbProvides.abandon enabled
  rw [run_get_bind, run_ite]
  cases DbProvides.checkExtensions env.hook
      (DbProvides.getRelationExtensions env.hook.unit (isLeader env s) r) with
  | true => exact deserved_unmoved rfl
  | false => exact deserved_checkForBlockingRelations env s rid

theorem deserved_db_broken (rid : RelId) (r : Relation) :
    Deserved ((DbProvides.onRelationBroken env rid r).run s).2 ↔
      Deserved s ∧ (dbClears env s rid r = true → healthy env s = true) := by
  unfold dbClears dbDrops
  cases hf : (unitDatabag env s).contains (departFlag r.endpoint rid) with
  | true =>
    rw [db_broken_flagged hf, Bool.not_true, Bool.false_and, Bool.and_false]
    exact deserved_unmoved rfl
  | false =>
    by_cases ht : Torn env s r
    · obtain ⟨user, hus⟩ := Option.isSome_iff_exists.mp ht.2.1
      rw [db_broken_torn hf ht.1 hus ht.2.2, if_pos ht, ht.1, decide_eq_true ht]
      cases hl : isLeader env s with
      | true =>
        simp only [Bool.true_and, Bool.true_or, Bool.not_false]
        exact deserved_db_teardown hl rid user
      | false =>
        unfold DbProvides.teardown setRelationDatabases
        rw [run_get_bind, run_bind_error (writeApplication_follower hl _)]
        exact deserved_unmoved rfl
    · rw [if_neg ht, decide_eq_false ht, Bool.not_false, Bool.or_true, Bool.and_true,
        Bool.true_and]
      cases hready : ready env s with
      | true =>
        have hc : (checkBackend env).run s = (.ok (ready env s), s) := by
          rw [hready]
          exact checkBackend_ready hready
        rw [db_broken_abandoned hf ht hc, Bool.true_and]
        exact deserved_abandon env s rid r
      | false =>
        obtain ⟨t, hc, hact, hst⟩ := checkBackend_waiting hready
        rw [← hready] at hc
        have hno : clearsExtensions env t rid = false := by simp [clearsExtensions, hst]
        rw [db_broken_abandoned hf ht hc, deserved_abandon, hno, Bool.and_false, Bool.false_and,
          deserved_congr hact]
        simp

/-! ## Removal of a client relation -/

theorem deserved_clientRemoval (env : Env) (s : State) (dbs : Dbs) (database : Option String)
    (rid : RelId) (ep : Endpoint) :
    Deserved ((clientRemoval env dbs database rid ep).run s).2 ↔ Deserved s ∧
      ((unusedName dbs database).any (clearsName env s) = true → healthy env s = true) := by
  obtain ⟨e, hrun⟩ := removeUnused_run env s dbs database
  rw [← deserved_elim env s]
  unfold clientRemoval
  rw [run_bind, hrun]
  cases (unusedName dbs database).all (removable env s) with
  | false => exact Iff.rfl
  | true =>
    simp only [if_true, run_tryCatch, deleteUser_run]
    cases env.hook.deleteUserOk <;> exact Iff.rfl

theorem deserved_client_teardown (hl : isLeader env s = true) (hready : ready env s = true)
    (rid : RelId) (r : Relation) :
    Deserved ((PgBouncerProvider.teardown env rid r).run s).2 ↔ Deserved s ∧
      ((!flagged env s rid r && (lastName env s rid).any (clearsName env s)) = true →
        healthy env s = true) := by
  cases hf : flagged env s rid r with
  | true =>
    rw [client_teardown_flagged hl hready hf]
    exact deserved_unmoved rfl
  | false =>
    obtain ⟨u, hnear, hst, hact, hrun⟩ := client_teardown_run hl hready hf
    rw [hrun, deserved_clientRemoval, deserved_congr hact, hnear.clearsName hst, hnear.healthy]
    exact Iff.rfl

/-- `_on_relation_broken` of a client relation clears "invalid database
    name". -/
def clientClears (env : Env) (s : State) (rid : RelId) (r : Relation) : Bool :=
  isLeader env s && ready env s && (CharmConfig.build env.options).isSome &&
    !connectionFails env rid r && !flagged env s rid r &&
    (lastName env s rid).any (clearsName env s)

/-- On a follower, and without the backend, the handler tears nothing down. -/
theorem deserved_client_skipped (h : (ready env s && isLeader env s) = false) (rid : RelId)
    (r : Relation) :
    Deserved ((PgBouncerProvider.teardown env rid r).run s).2 ↔ Deserved s := by
  unfold PgBouncerProvider.teardown
  cases hready : ready env s with
  | false =>
    rw [run_bind_ok (checkBackend_not_ready hready), run_get_bind, run_when, if_neg (by simp)]
    exact deserved_congr rfl
  | true =>
    rw [hready, Bool.true_and] at h
    rw [run_bind_ok (checkBackend_ready hready), run_get_bind, run_when, if_neg (by simp [h])]

theorem deserved_client_broken (rid : RelId) (r : Relation) :
    Deserved ((PgBouncerProvider.onRelationBroken env rid r).run s).2 ↔
      Deserved s ∧ (clientClears env s rid r = true → healthy env s = true) := by
  unfold PgBouncerProvider.onRelationBroken
  cases hgate : ready env s && isLeader env s with
  | false =>
    have hno : clientClears env s rid r = false := by
      unfold clientClears
      rw [Bool.and_comm (isLeader env s), hgate]
      rfl
    have hdes : Deserved ((PgBouncerProvider.updateConnectionInfo env rid r).run s).2 ↔
        Deserved s := deserved_after (within_updateConnectionInfo ordinary_anyError rid r)
    rw [hno, run_bind]
    rcases hr : (PgBouncerProvider.updateConnectionInfo env rid r).run s with ⟨e | _, t⟩
    · rw [hr] at hdes
      simpa using hdes
    · rw [hr] at hdes
      have hd := updateConnectionInfo_ok hr
      rw [← hd.ready, ← hd.isLeader] at hgate
      show Deserved ((PgBouncerProvider.teardown env rid r).run t).2 ↔ _
      rw [deserved_client_skipped hgate, hdes]
      simp
  | true =>
    rw [Bool.and_eq_true] at hgate
    obtain ⟨hready, hl⟩ := hgate
    have hu := updateConnectionInfo_ready hl hready rid r
    unfold clientClears
    rw [hl, hready]
    cases hfails : connectionFails env rid r with
    | true =>
      rw [hfails, if_pos rfl] at hu
      rw [run_bind_error hu, Bool.not_true, Bool.and_false, Bool.false_and, Bool.false_and]
      cases CharmConfig.build env.options <;> exact deserved_unmoved rfl
    | false =>
      rw [hfails, if_neg Bool.false_ne_true] at hu
      rw [run_bind_ok hu]
      rcases hc : CharmConfig.build env.options with _ | c
      · have hteardown := deserved_client_teardown
          (s := { s with status := .blocked configurationError }) hl hready rid r
        have hname : clearsName env { s with status := .blocked configurationError } =
            fun _ => false := by
          funext name
          exact clearsName_of_ne (show Status.blocked configurationError ≠ _ by decide) name
        rw [hname, Option.any_false, Bool.and_false] at hteardown
        rw [if_pos rfl]
        exact hteardown.trans (by simp [Deserved])
      · rw [if_neg (by simp), deserved_client_teardown hl hready]
        simp

/-! ## Departure of the backend -/

/-- `remove_auth_function` gets to a name for which it clears a message. -/
def clearsSome (env : Env) (s : State) : List String → Bool
  | [] => false
  | dbname :: dbs =>
    clearsName env s dbname || (removable env s dbname && clearsSome env s dbs)

theorem clearsSome_of_ne (h : s.status ≠ .blocked invalidDatabaseName) (dbs : List String) :
    clearsSome env s dbs = false := by
  induction dbs with
  | nil => rfl
  | cons dbname dbs ih =>
    unfold clearsSome
    rw [clearsName_of_ne h, ih, Bool.and_false, Bool.or_false]

theorem named_of_clearsSome {dbs : List String} (h : clearsSome env s dbs = true) :
    s.status = .blocked invalidDatabaseName := by
  by_contra hne
  rw [clearsSome_of_ne hne] at h
  cases h

theorem clearsSome_congr (hsec : t.secrets = s.secrets) (hst : t.status = s.status)
    (dbs : List String) : clearsSome env t dbs = clearsSome env s dbs := by
  induction dbs with
  | nil => rfl
  | cons dbname dbs ih =>
    unfold clearsSome clearsName removable skipsName postgres
    rw [hsec, hst, ih]

theorem deserved_removeAuthFunction (dbs : List String) :
    Deserved ((removeAuthFunction env dbs).run s).2 ↔
      Deserved s ∧ (clearsSome env s dbs = true → healthy env s = true) := by
  induction dbs generalizing s with
  | nil => exact deserved_unmoved rfl
  | cons dbname dbs ih =>
    have hnear : Near s (removed env s dbname) := ⟨rfl, rfl, rfl, rfl⟩
    have hdes : Deserved (removed env s dbname) ↔ _ := deserved_cleared rfl
    obtain ⟨e, hrun⟩ := removeAuthFunctionFrom_run env s dbname
    unfold removeAuthFunction Action.forEach clearsSome
    rw [run_bind, hrun]
    cases removable env s dbname with
    | false =>
      rw [Bool.false_and, Bool.or_false]
      exact hdes
    | true =>
      show Deserved ((removeAuthFunction env dbs).run (removed env s dbname)).2 ↔ _
      rw [ih, hdes, hnear.healthy, Bool.true_and]
      -- Once a message has been cleared, no name clears it again.
      cases hclears : clearsName env s dbname with
      | true =>
        have hst : (removed env s dbname).status ≠ .blocked invalidDatabaseName := by
          rw [show (removed env s dbname).status = _ from clearedStatus_of_clears hclears]
          intro h
          cases h
        rw [clearsSome_of_ne hst]
        simp
      | false =>
        rw [clearsSome_congr (s := s) (t := removed env s dbname) rfl
          (clearedStatus_of_not hclears)]
        simp

theorem removeAuthUser_activations (env : Env) (s : State) :
    ((removeAuthUser env).run s).2.activations =
      ((removeAuthFunction env (collectDatabases env s)).run s).2.activations := by
  unfold removeAuthUser
  rw [run_bind, run_tryCatch, run_get_bind, run_bind]
  rcases (removeAuthFunction env (collectDatabases env s)).run s with ⟨e | _, t⟩
  · simp only [run_ite]
    by_cases he : e = .psycopg2Error
    · simp [he, setStatus, run_when]
    · simp [he]
  · simp only [run_pure, run_when]
    split_ifs <;> rfl

/-- The handler removes the auth user, unless it fails before. -/
def departs (env : Env) (s : State) (departing : Departing) : Bool :=
  isLeader env s = true ∧ departing = .peer ∧
    ¬ (env.plannedUnits < env.hook.otherUnits.length ∧ env.plannedUnits ≠ 0)

/-- `_on_relation_departed` of the backend, behind the updates. -/
def departing (env : Env) (id : RelId) (departing : Departing) : Handler Unit := do
  let s ← Action.get
  if departing = .own then writeUnit env (backendFlag id) "true"
  else
    Action.when (isLeader env s = true ∧ departing = .peer ∧
      ¬ (env.plannedUnits < env.hook.otherUnits.length ∧ env.plannedUnits ≠ 0))
      (removeAuthUser env)

theorem deserved_departing (id : RelId) (d : Departing) :
    Deserved ((departing env id d).run s).2 ↔ Deserved s ∧
      ((departs env s d && clearsSome env s (collectDatabases env s)) = true →
        healthy env s = true) := by
  unfold departing departs
  rw [run_get_bind, run_ite, run_when]
  by_cases hown : d = .own
  · have hno : ¬ (isLeader env s = true ∧ d = .peer ∧
        ¬ (env.plannedUnits < env.hook.otherUnits.length ∧ env.plannedUnits ≠ 0)) := by
      simp [hown]
    rw [if_pos hown, decide_eq_false hno]
    exact deserved_unmoved rfl
  · rw [if_neg hown]
    by_cases hd : isLeader env s = true ∧ d = .peer ∧
        ¬ (env.plannedUnits < env.hook.otherUnits.length ∧ env.plannedUnits ≠ 0)
    · rw [if_pos hd, deserved_congr (removeAuthUser_activations env s),
        deserved_removeAuthFunction, decide_eq_true hd, Bool.true_and]
    · rw [if_neg hd, decide_eq_false hd]
      exact deserved_unmoved rfl

/-! ### The updates before it -/

/-- The services after `render_pgb_config` has restarted those that do not
    run. -/
def reloaded (env : Env) (s : State) : State :=
  { s with
    services := (serviceNames env).foldl
      (fun d name => d.modify name fun _ => ServiceStatus.active) s.services }

theorem get?_foldl_modify (names : List String) (d : Dict String ServiceStatus) (x : String) :
    (names.foldl (fun d name => d.modify name fun _ => ServiceStatus.active) d).get? x =
      if x ∈ names then (d.get? x).map fun _ => .active else d.get? x := by
  induction names generalizing d with
  | nil => simp
  | cons name names ih =>
    rw [List.foldl_cons, ih, Dict.get?_modify]
    by_cases hx : x = name
    · subst hx
      simp [Option.map_map, Function.comp_def]
    · simp [hx]

/-- `render_pgb_config` returns and keeps "invalid database name". -/
def renderKeeps (env : Env) (s : State) : Bool :=
  (CharmConfig.build env.options).isSome &&
    (!env.canConnect || (env.filesOk && (s.services.items = [] ||
      ((serviceNames env).all (reloads env s) &&
        (!ready env s || s.services.get? metricsService = some .active)))))

/-- What an update does to "invalid database name": it keeps it, with a health
    of `healthy env v`, or it fails or replaces it. -/
inductive Outcome (env : Env) (s v : State) (m : Handler Unit) : Bool → Prop
  | kept (services : Dict String ServiceStatus) :
      m.run s = (.ok (), { s with services := services }) →
      healthy env { s with services := services } = healthy env v → Outcome env s v m true
  | failed {e : Failure} {t : State} : m.run s = (.error e, t) → Outcome env s v m false
  | replaced {t : State} : m.run s = (.ok (), t) → t.status ≠ .blocked invalidDatabaseName →
      Outcome env s v m false

theorem Outcome.of_run {v v' : State} {m m' : Handler Unit} {services : Dict String ServiceStatus}
    {b : Bool} (h : Outcome env { s with services := services } v' m' b)
    (hrun : m.run s = m'.run { s with services := services })
    (hhealthy : healthy env v' = healthy env v) : Outcome env s v m b := by
  cases h with
  | kept services' hrun' hhealthy' =>
    exact .kept services' (hrun.trans hrun') (hhealthy'.trans hhealthy)
  | failed hrun' => exact .failed (hrun.trans hrun')
  | replaced hrun' hne => exact .replaced (hrun.trans hrun') hne

theorem healthy_reloaded {services : Dict String ServiceStatus}
    (hactive : ∀ name ∈ serviceNames env, services.get? name = some .active)
    (hother : ∀ name, name ∉ serviceNames env → services.get? name = s.services.get? name)
    (hreloads : ∀ name ∈ serviceNames env, reloads env s name = true) :
    healthy env { s with services := services } = healthy env (reloaded env s) := by
  refine healthy_congr rfl rfl fun name => ?_
  show services.get? name = ((serviceNames env).foldl _ s.services).get? name
  rw [get?_foldl_modify]
  by_cases hmem : name ∈ serviceNames env
  · obtain ⟨status, hget, -⟩ := (Option.any_eq_true _ _).mp (hreloads name hmem)
    rw [if_pos hmem, hactive name hmem, hget]
    rfl
  · rw [if_neg hmem, hother name hmem]

/-- `check_pgb_running` behind the reload. -/
theorem checkPgbRunning_outcome (hst : s.status = .blocked invalidDatabaseName)
    (hcan : env.canConnect = true)
    (hactive : ∀ name ∈ serviceNames env, s.services.get? name = some .active) :
    Outcome env s s
      (do
        let _ ← checkPgbRunning env
        return ())
      (!ready env s || s.services.get? metricsService = some .active) := by
  cases hready : ready env s with
  | false =>
    have hrun : (checkPgbRunning env).run s = (.ok true, s) := by
      unfold checkPgbRunning
      rw [run_get_bind, hcan, hready, if_pos rfl, checkServices_active _ _ hactive]
      rfl
    exact .kept s.services (run_bind_ok hrun _) rfl
  | true =>
    obtain ⟨hm, hrun⟩ | ⟨hm, hrun⟩ | ⟨status, t, hm, ha, hrun, -, ht⟩ :=
      checkPgbRunning_cases hcan hready hactive
    · rw [hm]
      exact .failed (run_bind_error hrun _)
    · rw [hm]
      exact .kept s.services (run_bind_ok hrun _) rfl
    · have hne : s.status.message ≠ DbProvides.extensionsBlockingMessage := by
        rw [hst]
        decide
      rw [if_neg hne] at ht
      rw [hm, decide_eq_false (by simpa using ha)]
      refine .replaced (run_bind_ok hrun _) ?_
      rw [ht]
      intro h
      exact invalidDatabaseName_not_own (h ▸ .notRunning _ _)

theorem reloaded_of_no_services (h : s.services.items = []) :
    healthy env s = healthy env (reloaded env s) := by
  refine healthy_congr rfl rfl fun name => ?_
  show s.services.get? name = ((serviceNames env).foldl _ s.services).get? name
  rw [get?_foldl_modify, (Dict.items_eq_nil_iff _).mp h]
  simp

/-- The reload and the health check behind it. -/
theorem reloadAndCheck_outcome (hst : s.status = .blocked invalidDatabaseName)
    (hcan : env.canConnect = true) :
    Outcome env s (reloaded env s) (reloadAndCheck env)
      ((serviceNames env).all (reloads env s) &&
        (!ready env s || s.services.get? metricsService = some .active)) := by
  cases hall : (serviceNames env).all (reloads env s) with
  | true =>
    have hreloads := List.all_eq_true.mp hall
    obtain ⟨services, hloop, hactive, hother⟩ := reload_ok _ hreloads
    have hcheck := checkPgbRunning_outcome (s := { s with services := services }) hst hcan hactive
    rw [hother _ metricsService_not_mem] at hcheck
    exact hcheck.of_run (run_bind_ok hloop _) (healthy_reloaded hactive hother hreloads)
  | false =>
    obtain ⟨e, services, hloop⟩ :=
      reload_error (serviceNames env) (by simpa using List.all_eq_false.mp hall)
    exact .failed (run_bind_error hloop _)

theorem render_outcome (hst : s.status = .blocked invalidDatabaseName) :
    Outcome env s (reloaded env s) (renderPgbConfig env false) (renderKeeps env s) := by
  unfold renderKeeps
  rcases hc : CharmConfig.build env.options with _ | c
  · exact .replaced (renderPgbConfig_invalid hc false)
      (show Status.blocked configurationError ≠ _ by decide)
  have hrun := renderPgbConfig_run (s := s) hc
  cases hcan : env.canConnect with
  | false =>
    rw [hcan] at hrun
    exact .kept s.services hrun (by simp [healthy, hcan])
  | true =>
    cases hfiles : env.filesOk with
    | false =>
      rw [hcan, hfiles] at hrun
      exact .failed hrun
    | true =>
      rw [hcan, hfiles, if_pos rfl, if_pos rfl] at hrun
      by_cases hitems : s.services.items = []
      · rw [if_pos hitems] at hrun
        rw [decide_eq_true hitems]
        exact .kept s.services hrun (reloaded_of_no_services hitems)
      · rw [if_neg hitems] at hrun
        rw [decide_eq_false hitems]
        exact Outcome.of_run (s := s) (reloadAndCheck_outcome hst hcan) hrun rfl

/-- Two updates, of which the second keeps off "invalid database name". -/
theorem Outcome.bind {v : State} {m m' : Handler Unit} {b b' : Bool} (hm : Outcome env s v m b)
    (hq : ∀ P, Within (Unnamed P) AnyError m')
    (hm' : b = true → ∀ services,
      Outcome env { s with services := services } { s with services := services } m' b') :
    Outcome env s v (m >>= fun _ => m') (b && b') := by
  cases hm with
  | kept services hrun hhealthy =>
    rw [Bool.true_and]
    exact (hm' rfl services).of_run (run_bind_ok hrun _) hhealthy
  | failed hrun => exact .failed (run_bind_error hrun _)
  | replaced hrun hne =>
    rename_i t
    have hu : Unnamed (Deserved t) (m'.run t).2 := within_after (hq _) ⟨Iff.rfl, hne⟩
    rcases hr : m'.run t with ⟨e | _, u⟩
    · exact .failed ((run_bind_ok hrun _).trans hr)
    · rw [hr] at hu
      exact .replaced ((run_bind_ok hrun _).trans hr) hu.status

theorem Outcome.of_test {m : Handler Unit} {b : Bool} {e : Failure}
    (hrun : m.run s = (if b = true then .ok () else .error e, s)) : Outcome env s s m b := by
  cases b with
  | true => exact .kept s.services hrun rfl
  | false => exact .failed hrun

/-- `update_connection_info` of a legacy relation returns. -/
def dbConnectionReturns (env : Env) (p : RelId × Relation) : Bool :=
  !(((p.2.unit env.hook.unit).contains "database" && (p.2.unit env.hook.unit).contains "user" &&
    (p.2.unit env.hook.unit).contains "password") && serviceFails env)

theorem db_updateConnectionInfo_run {c : CharmConfig} (hc : CharmConfig.build env.options = some c)
    (p : RelId × Relation) :
    (DbProvides.updateConnectionInfo env p.2).run s =
      (if dbConnectionReturns env p = true then .ok () else .error .other, s) := by
  unfold DbProvides.updateConnectionInfo dbConnectionReturns
  rw [configurationCheck_valid hc, run_pure_bind, run_when, if_pos rfl]
  simp only [run_when]
  by_cases hk : (p.2.unit env.hook.unit).contains "database" = true ∧
      (p.2.unit env.hook.unit).contains "user" = true ∧
      (p.2.unit env.hook.unit).contains "password" = true
  · rw [if_pos hk, run_bind, getHostsPorts_run hc, hk.1, hk.2.1, hk.2.2]
    cases serviceFails env <;> rfl
  · have hk' : ((p.2.unit env.hook.unit).contains "database" &&
        (p.2.unit env.hook.unit).contains "user" &&
        (p.2.unit env.hook.unit).contains "password") = false := by simpa using hk
    rw [if_neg hk, hk']
    rfl

/-- `update_connection_info` of a client relation returns and keeps "invalid
    database name". -/
def connectionKeeps (env : Env) (s : State) (p : RelId × Relation) : Bool :=
  if ready env s then !connectionFails env p.1 p.2 else !p.2.remote.contains "database"

theorem connection_outcome {c : CharmConfig} (hc : CharmConfig.build env.options = some c)
    (hl : isLeader env s = true) (p : RelId × Relation) :
    Outcome env s s (PgBouncerProvider.updateConnectionInfo env p.1 p.2)
      (connectionKeeps env s p) := by
  have hvalid : CharmConfig.build env.options ≠ none := by simp [hc]
  unfold connectionKeeps
  cases hready : ready env s with
  | true =>
    have hrun := updateConnectionInfo_ready hl hready p.1 p.2
    rw [if_neg hvalid] at hrun
    apply Outcome.of_test (e := .other)
    rw [hrun]
    cases connectionFails env p.1 p.2 <;> rfl
  | false =>
    have hrun : (PgBouncerProvider.updateConnectionInfo env p.1 p.2).run s = _ :=
      updateConnectionInfo_run hl
    rw [if_neg hvalid, hready] at hrun
    cases hdb : p.2.remote.contains "database" with
    | false =>
      have hok : endpointsFail env p.1 p.2 = false := by simp [endpointsFail, hdb]
      rw [hok, hdb] at hrun
      exact .kept s.services hrun rfl
    | true =>
      cases hf : endpointsFail env p.1 p.2 with
      | true =>
        rw [hf] at hrun
        exact .failed hrun
      | false =>
        rw [hf, hdb] at hrun
        exact .replaced hrun fun h => by cases h

theorem connections_outcome {c : CharmConfig} (hc : CharmConfig.build env.options = some c)
    (hl : isLeader env s = true) (l : List (RelId × Relation)) :
    Outcome env s s
      (Action.forEach (fun p => PgBouncerProvider.updateConnectionInfo env p.1 p.2) l)
      (l.all (connectionKeeps env s)) := by
  induction l generalizing s with
  | nil => exact .kept s.services rfl rfl
  | cons p l ih =>
    rw [List.all_cons]
    apply (connection_outcome hc hl p).bind
    · exact fun _ => .forEach fun p _ => within_updateConnectionInfo ordinary_anyError p.1 p.2
    · exact fun _ _ => ih hl

/-- `update_client_connection_info` returns and keeps "invalid database
    name". -/
def clientsKeep (env : Env) (s : State) : Bool :=
  !postgres env s ||
    ((s.app.relationsOf .db).all (dbConnectionReturns env) &&
      ((s.app.relationsOf .dbAdmin).all (dbConnectionReturns env) &&
        (s.app.relationsOf .database).all (connectionKeeps env s)))

theorem clients_outcome {c : CharmConfig} (hc : CharmConfig.build env.options = some c)
    (hl : isLeader env s = true) :
    Outcome env s s (updateClientConnectionInfo env) (clientsKeep env s) := by
  have hdb : ∀ {s : State} (l : List (RelId × Relation)),
      Outcome env s s (Action.forEach (fun p => DbProvides.updateConnectionInfo env p.2) l)
        (l.all (dbConnectionReturns env)) := by
    intro s l
    exact .of_test (run_forEach_of_test fun p _ => db_updateConnectionInfo_run hc p)
  have hclients : ∀ services, Outcome env { s with services := services }
      { s with services := services }
      (Action.forEach (fun p => PgBouncerProvider.updateConnectionInfo env p.1 p.2)
        (s.app.relationsOf .database))
      ((s.app.relationsOf .database).all (connectionKeeps env s)) := fun services =>
    connections_outcome (s := { s with services := services }) hc hl _
  unfold clientsKeep
  cases hp : postgres env s with
  | false =>
    have hrun : (updateClientConnectionInfo env).run s = (.ok (), s) := by
      unfold updateClientConnectionInfo
      rw [run_get_bind, run_when, if_neg (by simp [hp])]
    exact .kept s.services hrun rfl
  | true =>
    have hrun : (updateClientConnectionInfo env).run s = (do
        Action.forEach (fun p => DbProvides.updateConnectionInfo env p.2) (s.app.relationsOf .db)
        Action.forEach (fun p => DbProvides.updateConnectionInfo env p.2)
          (s.app.relationsOf .dbAdmin)
        Action.forEach (fun p => PgBouncerProvider.updateConnectionInfo env p.1 p.2)
          (s.app.relationsOf .database) : Handler Unit).run { s with services := s.services } := by
      unfold updateClientConnectionInfo
      rw [run_get_bind, run_when, if_pos ⟨hp, hl⟩, config_valid hc, run_pure_bind]
    apply Outcome.of_run _ hrun rfl
    apply (hdb _).bind
    · intro _
      apply Within.bind (.forEach fun p _ => within_db_updateConnectionInfo ordinary_anyError p.2)
      intro _
      exact .forEach fun p _ => within_updateConnectionInfo ordinary_anyError p.1 p.2
    · intro _ _
      apply (hdb _).bind
      · exact fun _ => .forEach fun p _ => within_updateConnectionInfo ordinary_anyError p.1 p.2
      · exact fun _ services => hclients services

/-- `_on_relation_departed` of the backend clears "invalid database name". -/
def departClears (env : Env) (s : State) (d : Departing) : Bool :=
  departs env s d && (renderKeeps env s && clientsKeep env s) &&
    clearsSome env s (collectDatabases env s)

/-- `_on_relation_departed` of the backend, up to the updates. -/
def updates (env : Env) : Handler Unit := do
  renderPgbConfig env false
  updateClientConnectionInfo env

theorem onRelationDeparted_run (id : RelId) (d : Departing) :
    (BackendDatabaseRequires.onRelationDeparted env id d).run s =
      (updates env >>= fun _ => departing env id d).run s :=
  run_bind_assoc _ _ _ s

theorem within_updates {I : State → Prop} {S : Failure → Prop} [Quiet I]
    (ho : Ordinary S) (hv : Readable env S) : Within I S (updates env) :=
  .bind (within_renderPgbConfig ho false) fun _ => within_updateClientConnectionInfo ho hv

theorem updates_outcome (hl : isLeader env s = true)
    (hst : s.status = .blocked invalidDatabaseName) :
    Outcome env s (reloaded env s) (updates env) (renderKeeps env s && clientsKeep env s) := by
  have hq : ∀ P, Within (Unnamed P) AnyError (updateClientConnectionInfo env) := fun _ =>
    within_updateClientConnectionInfo ordinary_anyError readable_anyError
  apply (render_outcome hst).bind hq
  intro hkeeps services
  have hvalid : (CharmConfig.build env.options).isSome = true := by
    unfold renderKeeps at hkeeps
    rw [Bool.and_eq_true] at hkeeps
    exact hkeeps.1
  obtain ⟨c, hc⟩ := Option.isSome_iff_exists.mp hvalid
  exact clients_outcome (s := { s with services := services }) hc hl

/-- Behind updates that return, a long name clears the message only where
    `departClears` says so. -/
theorem departClears_of_updates {t : State} {d : Departing}
    (hrun : (updates env).run s = (.ok (), t))
    (h : (departs env t d && clearsSome env t (collectDatabases env t)) = true) :
    departClears env s d = true := by
  have hupdates : ∀ {I : State → Prop} [Quiet I], Within I AnyError (updates env) :=
    within_updates ordinary_anyError readable_anyError
  have hsame : SameData s t := hupdates.ok (SameData.refl s) hrun
  have hsettled : Settled s t := hupdates.ok (Settled.refl s) hrun
  rw [Bool.and_eq_true] at h
  obtain ⟨hdep, hsome⟩ := h
  have hl : isLeader env s = true := hsame.isLeader.symm.trans (of_decide_eq_true hdep).1
  have hnamed := named_of_clearsSome hsome
  have hst : s.status = .blocked invalidDatabaseName := by
    rcases hsettled.1 with he | hown
    · exact he.symm.trans hnamed
    · exact absurd (hnamed ▸ hown) invalidDatabaseName_not_own
  have hout := updates_outcome hl hst
  generalize hkeeps : (renderKeeps env s && clientsKeep env s) = keeps at hout
  cases hout with
  | kept services hkept =>
    obtain rfl : t = _ := congrArg Prod.snd (hrun.symm.trans hkept)
    have hdep' : departs env s d = true := hdep
    have hsome' : clearsSome env s (collectDatabases env s) = true :=
      (clearsSome_congr (s := s) (t := { s with services := services }) rfl rfl _).symm.trans hsome
    unfold departClears
    rw [hdep', hkeeps, hsome']
    rfl
  | failed hfailed => cases hrun.symm.trans hfailed
  | replaced hreplaced hne =>
    cases hrun.symm.trans hreplaced
    exact absurd hnamed hne

/-- Where `departClears` says so, the updates return and the rest clears it. -/
theorem deserved_departed_of_clears (id : RelId) {d : Departing}
    (hclears : departClears env s d = true) :
    Deserved ((BackendDatabaseRequires.onRelationDeparted env id d).run s).2 ↔
      Deserved s ∧ healthy env (reloaded env s) = true := by
  unfold departClears at hclears
  simp only [Bool.and_eq_true] at hclears
  obtain ⟨⟨hdep, hrender, hclients⟩, hsome⟩ := hclears
  have hl : isLeader env s = true := (of_decide_eq_true hdep).1
  have hout := updates_outcome hl (named_of_clearsSome hsome)
  rw [hrender, hclients] at hout
  cases hout with
  | kept services hrun hhealthy =>
    have hsome' :
        clearsSome env { s with services := services } (collectDatabases env s) = true :=
      (clearsSome_congr (s := s) (t := { s with services := services }) rfl rfl _).trans hsome
    have hdep' : departs env { s with services := services } d = true := hdep
    rw [onRelationDeparted_run, run_bind_ok hrun]
    apply (deserved_departing id d).trans
    rw [hhealthy, hdep', Bool.true_and]
    exact and_congr Iff.rfl (imp_iff_right hsome')

theorem deserved_departed (id : RelId) (d : Departing) :
    Deserved ((BackendDatabaseRequires.onRelationDeparted env id d).run s).2 ↔
      Deserved s ∧ (departClears env s d = true → healthy env (reloaded env s) = true) := by
  cases hclears : departClears env s d with
  | true =>
    rw [deserved_departed_of_clears id hclears]
    simp
  | false =>
    have hdes : Deserved ((updates env).run s).2 ↔ Deserved s :=
      deserved_after (within_updates ordinary_anyError readable_anyError)
    rw [onRelationDeparted_run, run_bind]
    rcases hrun : (updates env).run s with ⟨e | _, t⟩
    · rw [hrun] at hdes
      simpa using hdes
    · rw [hrun] at hdes
      have hno : (departs env t d && clearsSome env t (collectDatabases env t)) = false := by
        rw [Bool.eq_false_iff]
        intro h
        rw [departClears_of_updates hrun h] at hclears
        cases hclears
      show Deserved ((departing env id d).run t).2 ↔ _
      rw [deserved_departing, hno, hdes]
      simp

/-! ## All handlers -/

/-- The handler sets the unit active without a check: to clear a message, or to
    restore the status. -/
def setsActive (env : Env) (lower : String → String) (s : State) : Event → Bool
  | .joined rid => (s.app.relations.get? rid).any fun r =>
      r.endpoint.legacy && joinSetsActive env lower s rid r
  | .requested rid database => (s.app.relations.get? rid).any fun r =>
      !r.endpoint.legacy && requestClears env lower s rid r database
  | .broken rid => (s.app.relations.get? rid).any fun r =>
      if r.endpoint.legacy then dbClears env s rid r else clientClears env s rid r
  | .backendDeparted _ departing => departClears env s departing
  | _ => false

/-- The state in which the handler does so, as far as health is concerned: the
    departure of the backend restarts services before. -/
def clearing (env : Env) (s : State) : Event → State
  | .backendDeparted _ _ => reloaded env s
  | _ => s

/-- The handler sets no unit active without a check, or it does so on a healthy
    one. -/
def Justified (env : Env) (lower : String → String) (s : State) (ev : Event) : Prop :=
  setsActive env lower s ev = true → healthy env (clearing env s ev) = true

instance (env : Env) (lower : String → String) (s : State) (ev : Event) :
    Decidable (Justified env lower s ev) := inferInstanceAs (Decidable (_ → _))

theorem setsActive_checked (lower : String → String) {ev : Event} (h : checked ev = true) :
    setsActive env lower s ev = false := by
  cases ev with
  | joined rid => cases h
  | requested rid database => cases h
  | broken rid => cases h
  | backendDeparted id departing => cases h
  | _ => rfl

theorem deserved_withRelation {f : Relation → Handler Unit} {c : Relation → Bool} {P : Prop}
    (hf : ∀ r, Deserved ((f r).run s).2 ↔ Deserved s ∧ (c r = true → P)) (rid : RelId) :
    Deserved ((withRelation rid f).run s).2 ↔
      Deserved s ∧ ((s.app.relations.get? rid).any c = true → P) := by
  unfold withRelation
  rw [run_get_bind]
  rcases s.app.relations.get? rid with _ | r
  · exact deserved_unmoved rfl
  · exact hf r

/-- A handler sets a unit active that is not healthy if and only if it does so
    without a check on such a unit. -/
theorem deserved_handle_iff (lower : String → String) (ev : Event) :
    Deserved ((handle env lower ev).run s).2 ↔ Deserved s ∧ Justified env lower s ev := by
  unfold Justified
  cases hev : checked ev with
  | true =>
    rw [deserved_checked lower hev, setsActive_checked lower hev]
    simp
  | false =>
    cases ev with
    | joined rid =>
      apply deserved_withRelation
      intro r
      rw [run_when]
      cases r.endpoint.legacy with
      | true => exact deserved_joined lower rid r
      | false => exact deserved_unmoved rfl
    | requested rid database =>
      apply deserved_withRelation
      intro r
      rw [run_when]
      cases r.endpoint.legacy with
      | true => exact deserved_unmoved rfl
      | false => exact deserved_requested lower rid r database
    | broken rid =>
      apply deserved_withRelation
      intro r
      rw [run_ite]
      cases r.endpoint.legacy with
      | true => exact deserved_db_broken rid r
      | false => exact deserved_client_broken rid r
    | backendDeparted id departing => exact deserved_departed id departing
    | _ => cases hev

/-! ## All runs -/

/-- What the step has recorded about `ActiveStatus`. -/
def recorded (lower : String → String) (w : Deployment) : Step → List Bool
  | .handle env ev => ((handle env lower ev).run (w.view env.hook.unit)).2.activations
  | _ => []

def step (lower : String → String) (p : Deployment × List Bool) (a : Step) :
    Option (Deployment × List Bool) :=
  (Operator.step lower p.1 a).map fun w => (w, p.2 ++ recorded lower p.1 a)

/-- The deployment, with the record of all `ActiveStatus` so far. -/
def machine (lower : String → String) : Machine (Deployment × List Bool) Step where
  init p := (Operator.machine lower).init p.1 ∧ p.2 = []
  step := step lower

/-- The step is no handler, or one that sets healthy units active only. -/
def OnHealthy (lower : String → String) (w : Deployment) : Step → Prop
  | .handle env ev => Justified env lower (w.view env.hook.unit) ev
  | _ => True

instance (lower : String → String) (w : Deployment) :
    (a : Step) → Decidable (OnHealthy lower w a)
  | .handle env ev => inferInstanceAs (Decidable (Justified env lower (w.view env.hook.unit) ev))
  | .relate _ _ => .isTrue trivial
  | .write _ _ => .isTrue trivial
  | .gone _ => .isTrue trivial
  | .elect _ => .isTrue trivial
  | .backend _ => .isTrue trivial
  | .services _ _ => .isTrue trivial

theorem recorded_iff (lower : String → String) (w : Deployment) (a : Step) :
    (∀ b ∈ recorded lower w a, b = true) ↔ OnHealthy lower w a := by
  cases a with
  | handle env ev =>
    have hstart : Deserved (w.view env.hook.unit) := fun _ hb => by cases hb
    exact (deserved_handle_iff lower ev).trans (and_iff_right hstart)
  | _ => simp [recorded, OnHealthy]

/-- In every run whose handlers set no unit active without a check unless it is
    healthy, each `ActiveStatus` has been set on a healthy unit; and the next one
    is if and only if the step is of this kind. -/
theorem active_iff {p : Deployment × List Bool}
    (hp : (machine lower).Reach (fun p a => OnHealthy lower p.1 a) p) :
    (∀ b ∈ p.2, b = true) ∧ ∀ a p', step lower p a = some p' →
      ((∀ b ∈ p'.2, b = true) ↔ OnHealthy lower p.1 a) := by
  have hstep : ∀ {p : Deployment × List Bool} {a : Step} {p' : Deployment × List Bool},
      (∀ b ∈ p.2, b = true) → step lower p a = some p' →
        ((∀ b ∈ p'.2, b = true) ↔ OnHealthy lower p.1 a) := by
    intro p a p' hi ha
    obtain ⟨w, -, rfl⟩ := Option.map_eq_some_iff.mp ha
    rw [← recorded_iff]
    simp only [List.mem_append, or_imp, forall_and]
    exact and_iff_right hi
  have hinv : ∀ b ∈ p.2, b = true := by
    apply hp.invariant (I := fun p => ∀ b ∈ p.2, b = true)
    · rintro p ⟨-, hnil⟩ b hb
      rw [hnil] at hb
      cases hb
    · exact fun p a p' _ hi hg ha => (hstep hi ha).mpr hg
  exact ⟨hinv, fun a p' ha => hstep hinv ha⟩

/-- Unit 0 is blocked for the extensions of relation 1. -/
def blockedRun : List Step :=
  [.relate 1 .db, .write 1 ((Setup.asking "a").set "extensions" "hstore"),
    .handle Sticky.noPlugins (.joined 1)]

/-- The removal of relation 1 on unit 0. -/
def removal : Step := .handle Sticky.noPlugins (.broken 1)

/-- The services of a unit whose first PgBouncer does not run. -/
def stoppedServices : Dict String ServiceStatus := sampleUnit.services.set "pgbouncer_0" .inactive

/-- The removal sets unit 0 active, with this state of its first PgBouncer, and
    records this. -/
def activates (p : Deployment × List Bool) (status : ServiceStatus) (l : List Bool) : Bool :=
  match step Text.asciiLower p removal with
  | some p' => (p'.1.unit 0).status = .active &&
      (p'.1.unit 0).services.get? "pgbouncer_0" = some status && p'.2 = l
  | none => false

theorem activates_spec {p : Deployment × List Bool} {status : ServiceStatus} {l : List Bool}
    (h : activates p status l = true) :
    ∃ p', step Text.asciiLower p removal = some p' ∧ (p'.1.unit 0).status = .active ∧
      (p'.1.unit 0).services.get? "pgbouncer_0" = some status ∧ p'.2 = l := by
  unfold activates at h
  rcases hp' : step Text.asciiLower p removal with _ | p'
  · simp [hp'] at h
  · simp only [hp', Bool.and_eq_true, decide_eq_true_eq] at h
    exact ⟨p', rfl, h.1.1, h.1.2, h.2⟩

/-- A service stops while the unit is blocked for extensions, and the removal of
    the relation sets it active. -/
theorem active_while_stopped :
    ∃ p p', (machine Text.asciiLower).Reach Machine.always p ∧
      (p.1.unit 0).status = .blocked DbProvides.extensionsBlockingMessage ∧
      step Text.asciiLower p removal = some p' ∧ (p'.1.unit 0).status = .active ∧
      (p'.1.unit 0).services.get? "pgbouncer_0" = some .inactive ∧ ¬ ∀ b ∈ p'.2, b = true := by
  obtain ⟨p, hp, h⟩ := Machine.exists_reach_of_exec (machine Text.asciiLower) Machine.always
    (sampleDeployment, []) (blockedRun ++ [.services 0 stoppedServices])
    (fun p => (p.1.unit 0).status = .blocked DbProvides.extensionsBlockingMessage &&
      activates p .inactive [false])
    ⟨⟨rfl, rfl⟩, rfl⟩ (by decide +kernel)
  simp only [Bool.and_eq_true, decide_eq_true_eq] at h
  obtain ⟨p', hstep, hst, hservice, hl⟩ := activates_spec h.2
  refine ⟨p, p', hp, h.1, hstep, hst, hservice, ?_⟩
  rw [hl]
  simp

/-- The same removal while all services run. -/
theorem active_while_running :
    ∃ p p', (machine Text.asciiLower).Reach (fun p a => OnHealthy Text.asciiLower p.1 a) p ∧
      step Text.asciiLower p removal = some p' ∧ (p'.1.unit 0).status = .active ∧
      p'.2 = [true] ∧ OnHealthy Text.asciiLower p.1 removal := by
  obtain ⟨p, hp, h⟩ := Machine.exists_reach_of_exec (machine Text.asciiLower)
    (fun p a => OnHealthy Text.asciiLower p.1 a) (sampleDeployment, []) blockedRun
    (fun p => activates p .active [true]) ⟨⟨rfl, rfl⟩, rfl⟩ (by decide +kernel)
  obtain ⟨p', hstep, hst, -, hl⟩ := activates_spec h
  refine ⟨p, p', hp, hstep, hst, hl, ((active_iff hp).2 removal p' hstep).mp ?_⟩
  rw [hl]
  simp

end PgBouncerK8s.Operator.Active
