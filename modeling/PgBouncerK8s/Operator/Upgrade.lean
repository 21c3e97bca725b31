import PgBouncerK8s.Auth.Migration
import PgBouncerK8s.Operator.Blocked

/-!
# The upgrade handler

`_on_pgbouncer_pebble_ready` (`upgrade.py`, lines 143–172) migrates the secrets
and then runs `_cluster_checks`, which accept a charm without a backend. The
migrations hash passwords over the connection to the backend, on the leader:
`generate_scram_hash` catches nothing, `generate_system_user` and the loop over
the lines of the file catch `psycopg2.Error`. `set_unit_completed` has the
leader render its files again, within the call.

* `upgradeSecrets_eq_none_iff`: for which secrets a migration raises.
* `completes_iff`: the handler completes the upgrade or defers, as its checks
  say, unless a migration raises or the leader cannot render its files.
* `not_completes_withoutBackend`: a leader without a backend and without the
  password of the console user.
-/

namespace PgBouncerK8s

/-! ## The secrets -/

namespace Auth

variable {h : UpgradeHook} {c c' : Charm} {up : Bool}

/-- What `generate_scram_hash` ends with over a connection that can be opened if
    `up`: `encrypt_password` takes no password but a text. -/
def Hashes (up given : Bool) (answer : Except Failure Plain) : Prop :=
  if up then if given then answer.isOk = true else answer = .error .other
  else answer = .error .psycopg2Error

/-- All hashes end the same. -/
structure UpgradeHook.Steady (h : UpgradeHook) (c : Charm) (up : Bool) : Prop where
  admin : Hashes up true h.hashedAdmin
  stats : ∀ k, Hashes up (c.passwords .monitoring).isSome (h.rehashed k)

/-- There is a complete backend relation. -/
def hasBackend (h : UpgradeHook) (c : Charm) : Bool := c.relation.join.isSome && h.connected

/-- The file has a line to migrate. -/
def hasMd5 (c : Charm) : Bool :=
  c.authFile.any fun text => (Text.split '\n' text).any (isMd5 (c.ownUser .stats))

/-- The hash for the console user is asked for without a backend. -/
def adminFails (h : UpgradeHook) (c : Charm) : Bool :=
  (c.passwords .admin).isNone && !hasBackend h c

/-- The hash for the stats user is asked for without a backend, or without a
    password. -/
def statsFails (h : UpgradeHook) (up : Bool) (c : Charm) : Bool :=
  hasMd5 c && (!hasBackend h c || up && (c.passwords .monitoring).isNone)

/-- The migrations of the leader (`upgrade.py`, lines 160–161). -/
def upgradeSecrets (h : UpgradeHook) (c : Charm) : Option Charm :=
  (generateAdminConsoleUser h c).bind (handleMd5MonitoringAuth h)

theorem generateScramHash_eq (answer : Except Failure Plain) :
    c.generateScramHash h.connected answer =
      if hasBackend h c then answer else .error .other := by
  unfold Charm.generateScramHash hasBackend
  rw [Bool.and_comm]

theorem hasBackend_congr (hr : c'.relation = c.relation) : hasBackend h c' = hasBackend h c := by
  unfold hasBackend
  rw [hr]

/-! ### The console user -/

/-- What `_generate_admin_console_user` does to the secrets: it raises, leaves
    them as they are, or appends a line to the file. -/
theorem generateAdminConsoleUser_run (ha : Hashes up true h.hashedAdmin) :
    if adminFails h c then generateAdminConsoleUser h c = none
    else if (c.passwords .admin).isNone && up then ∃ e : Entry, e.user = c.ownUser .admin ∧
      c.relation.isNone = false ∧ generateAdminConsoleUser h c = some
        { c with
          authFile := some (c.authFile.getD "None" ++ "\n" ++ e.line)
          passwords := Function.update c.passwords .admin (some h.newAdminPassword) }
    else generateAdminConsoleUser h c = some c := by
  unfold adminFails generateAdminConsoleUser
  cases hp : c.passwords .admin with
  | some password => rfl
  | none =>
    simp only [Charm.generateSystemUser, generateScramHash_eq, hp]
    cases hb : hasBackend h c with
    | false => rfl
    | true =>
      cases up with
      | false =>
        have hd : h.hashedAdmin = .error .psycopg2Error := ha
        rw [hd]
        rfl
      | true =>
        obtain ⟨hash, hd⟩ := exists_of_isOk ha
        have hrel : c.relation.isNone = false := by
          unfold hasBackend at hb
          cases hr : c.relation with
          | none => simp [hr] at hb
          | some _ => rfl
        refine ⟨⟨c.ownUser .admin, hash⟩, rfl, hrel, ?_⟩
        rw [hd]
        have hne : c.authFile.getD "None" ++ "\n" ++ Entry.line ⟨c.ownUser .admin, hash⟩ ≠ "" := by
          intro he
          have hl := congrArg String.length he
          simp [String.length_append] at hl
        simp only [Option.getD_none, if_true, Option.isSome_none, Bool.false_eq_true, if_false]
        unfold Charm.setAuthFile
        simp only [Charm.ownUser] at hne ⊢
        rw [if_neg hne]

/-- What the migration of the stats user looks at is the same. -/
structure SameStats (c c' : Charm) : Prop where
  relation : c'.relation = c.relation
  password : c'.passwords .monitoring = c.passwords .monitoring
  md5 : hasMd5 c' = hasMd5 c

theorem SameStats.statsFails (hs : SameStats c c') : statsFails h up c' = statsFails h up c := by
  unfold Auth.statsFails
  rw [hs.md5, hs.password, hasBackend_congr hs.relation]

theorem UpgradeHook.Steady.same (ha : h.Steady c up) (hs : SameStats c c') : h.Steady c' up where
  admin := ha.admin
  stats := by
    rw [hs.password]
    exact ha.stats

theorem not_isMd5_none (u : Plain) : isMd5 u "None" = false := by
  have hnone : "None".toList = ['N', 'o', 'n', 'e'] := by decide
  have hquote : "\"".toList = ['\x22'] := by decide
  rw [isMd5, Text.startswith, hnone, monitoringPrefix, opening]
  simp only [String.toList_append, hquote, List.cons_append]
  rfl

theorem not_isMd5_admin {e : Entry} (hrel : c.relation.isNone = false)
    (he : e.user = c.ownUser .admin) : isMd5 (c.ownUser .stats) e.line = false := by
  rw [Bool.eq_false_iff]
  intro hm
  have hu := user_of_startswith hm
  rw [ownUser_of_relation hrel] at he hu
  exact (admin_ne c he).2 hu

/-- The line of the console user is no line to migrate, and the `None` of a
    missing file is none. -/
theorem hasMd5_append {e : Entry} (hrel : c.relation.isNone = false)
    (he : e.user = c.ownUser .admin) (passwords : PasswordKey → Option String) :
    hasMd5 { c with
      authFile := some (c.authFile.getD "None" ++ "\n" ++ e.line), passwords := passwords } =
        hasMd5 c := by
  have hu : ∀ file, Charm.ownUser { c with authFile := file, passwords := passwords } .stats =
      c.ownUser .stats := fun _ => rfl
  unfold hasMd5
  rw [Option.any_some, hu, split_append_line, List.any_append, List.any_cons,
    not_isMd5_admin hrel he, List.any_nil, Bool.or_self, Bool.or_false]
  cases c.authFile with
  | some text => rfl
  | none =>
    have hsplit : Text.split '\n' "None" = ["None"] := by decide
    rw [Option.getD_none, hsplit, List.any_cons, not_isMd5_none]
    rfl

/-- A migration that returns has not failed, and what it leaves is this. -/
theorem ends_some {o : Option Charm} {fails : Bool} {P : Charm → Prop} (ho : o = some c)
    (hf : fails = false) (hP : P c) :
    (o = none ↔ fails = true) ∧ ∀ c', o = some c' → P c' := by
  subst ho hf
  refine ⟨by simp, fun c' hc => ?_⟩
  cases hc
  exact hP

theorem ends_none {o : Option Charm} {fails : Bool} {P : Charm → Prop} (ho : o = none)
    (hf : fails = true) : (o = none ↔ fails = true) ∧ ∀ c', o = some c' → P c' := by
  subst ho hf
  exact ⟨by simp, fun _ hc => by cases hc⟩

/-- `_generate_admin_console_user` raises without a backend; else the file is
    there afterwards if it was, or if a line has been appended. -/
theorem generateAdminConsoleUser_ends (ha : Hashes up true h.hashedAdmin) :
    (generateAdminConsoleUser h c = none ↔ adminFails h c = true) ∧
      ∀ c', generateAdminConsoleUser h c = some c' → SameStats c c' ∧
        c'.authFile.isSome = (c.authFile.isSome || (c.passwords .admin).isNone && up) := by
  have hrun := generateAdminConsoleUser_run (c := c) ha
  split_ifs at hrun with hf happ
  · exact ends_none hrun hf
  · obtain ⟨e, he, hrel, hrun⟩ := hrun
    refine ends_some hrun (Bool.eq_false_iff.mpr hf) ⟨⟨rfl, ?_, hasMd5_append hrel he _⟩, ?_⟩
    · have hne : PasswordKey.monitoring ≠ .admin := by decide
      show Function.update c.passwords .admin (some h.newAdminPassword) .monitoring = _
      rw [Function.update_of_ne hne]
    · rw [happ, Bool.or_true]
      rfl
  · refine ends_some hrun (Bool.eq_false_iff.mpr hf) ⟨⟨rfl, rfl, rfl⟩, ?_⟩
    rw [Bool.eq_false_iff.mpr happ, Bool.or_false]

/-! ### The stats user -/

theorem md5Count_pos {statsUser : Plain} {lines : List String} :
    0 < md5Count statsUser lines ↔ lines.any (isMd5 statsUser) = true := by
  unfold md5Count
  rw [List.countP_pos_iff, List.any_eq_true]

/-- A hash of the migration ends as all others: it is generated, or it is one
    error, and `other` exactly without a backend or a password. -/
theorem UpgradeHook.Steady.hashes (ha : h.Steady c up) :
    (∀ k, (c.generateScramHash h.connected (h.rehashed k)).isOk = true) ∧
        (!hasBackend h c || up && (c.passwords .monitoring).isNone) = false ∨
      ∃ e, (∀ k, c.generateScramHash h.connected (h.rehashed k) = .error e) ∧
        ((!hasBackend h c || up && (c.passwords .monitoring).isNone) = true ↔ e = .other) := by
  simp only [generateScramHash_eq]
  cases hasBackend h c with
  | false => exact .inr ⟨.other, fun _ => rfl, by simp⟩
  | true =>
    have hstats := ha.stats
    cases up with
    | false => exact .inr ⟨.psycopg2Error, hstats, by simp⟩
    | true =>
      cases hp : c.passwords .monitoring with
      | none =>
        rw [hp] at hstats
        exact .inr ⟨.other, hstats, by simp⟩
      | some password =>
        rw [hp] at hstats
        exact .inl ⟨hstats, rfl⟩

theorem handleMd5MonitoringAuth_keep (hm : hasMd5 c = false) :
    handleMd5MonitoringAuth h c = some c := by
  unfold hasMd5 at hm
  unfold handleMd5MonitoringAuth
  cases h.leader with
  | false => rfl
  | true =>
    cases hfile : c.authFile with
    | none => rfl
    | some text =>
      rw [hfile, Option.any_some, List.any_eq_false] at hm
      simp only [rehash_of_gone fun line hl => Bool.eq_false_iff.mpr (hm line hl), Text.join_split]
      rw [if_neg (not_not.mpr rfl)]

theorem handleMd5MonitoringAuth_ok
    (hok : ∀ k, (c.generateScramHash h.connected (h.rehashed k)).isOk = true) :
    ∃ c', handleMd5MonitoringAuth h c = some c' ∧ c'.relation = c.relation ∧
      c'.authFile.isSome = c.authFile.isSome := by
  unfold handleMd5MonitoringAuth
  cases h.leader with
  | false => exact ⟨c, rfl, rfl, rfl⟩
  | true =>
    cases hfile : c.authFile with
    | none => exact ⟨c, rfl, rfl, by rw [hfile]⟩
    | some text =>
      obtain ⟨lines, hr, hf⟩ : ∃ lines, rehash (c.ownUser .stats)
          (fun k => c.generateScramHash h.connected (h.rehashed k)) 0 (Text.split '\n' text) =
            .ok lines ∧ _ := rehash_ok fun i _ => hok (0 + i)
      simp only [hr]
      split_ifs with hne
      · refine ⟨_, rfl, rfl, ?_⟩
        rw [authFile_setAuthFile c (join_ne_empty hf hne)]
        rfl
      · exact ⟨c, rfl, rfl, by rw [hfile]⟩

theorem handleMd5MonitoringAuth_error {e : Failure} (hl : h.leader = true) (hm : hasMd5 c = true)
    (he : ∀ k, c.generateScramHash h.connected (h.rehashed k) = .error e) :
    handleMd5MonitoringAuth h c = if e = .other then none else some c := by
  obtain ⟨text, hfile, hm⟩ := (Option.any_eq_true _ _).mp hm
  have hr : rehash (c.ownUser .stats) (fun k => c.generateScramHash h.connected (h.rehashed k)) 0
      (Text.split '\n' text) = .error e :=
    rehash_error (md5Count_pos.mpr hm) (fun j hj => absurd hj (Nat.not_lt_zero j)) (he _)
  unfold handleMd5MonitoringAuth
  simp only [hl, hfile, hr]
  cases e <;> rfl

/-- `_handle_md5_monitoring_auth` on the leader: where it raises, and that it
    leaves a file if there was one. -/
theorem handleMd5MonitoringAuth_ends (hl : h.leader = true) (ha : h.Steady c up) :
    (handleMd5MonitoringAuth h c = none ↔ statsFails h up c = true) ∧
      ∀ c', handleMd5MonitoringAuth h c = some c' →
        c'.relation = c.relation ∧ c'.authFile.isSome = c.authFile.isSome := by
  unfold statsFails
  rcases ha.hashes with ⟨hok, hfails⟩ | ⟨e, he, hfails⟩
  · obtain ⟨c₁, hrun, hkept⟩ := handleMd5MonitoringAuth_ok hok
    exact ends_some hrun (by rw [hfails, Bool.and_false]) hkept
  · cases hm : hasMd5 c with
    | false => exact ends_some (handleMd5MonitoringAuth_keep hm) (Bool.false_and _) ⟨rfl, rfl⟩
    | true =>
      have hrun := handleMd5MonitoringAuth_error hl hm he
      rw [Bool.true_and]
      split_ifs at hrun with hother
      · exact ends_none hrun (hfails.mpr hother)
      · exact ends_some hrun (Bool.eq_false_iff.mpr (mt hfails.mp hother)) ⟨rfl, rfl⟩

/-- For which secrets a migration of the leader raises. -/
theorem upgradeSecrets_eq_none_iff (hl : h.leader = true) (ha : h.Steady c up) :
    upgradeSecrets h c = none ↔ (adminFails h c || statsFails h up c) = true := by
  unfold upgradeSecrets
  obtain ⟨hnone, hsome⟩ := generateAdminConsoleUser_ends (c := c) ha.admin
  rw [Bool.or_eq_true, ← hnone]
  cases hg : generateAdminConsoleUser h c with
  | none => simp
  | some c₁ =>
    obtain ⟨hsame, -⟩ := hsome c₁ hg
    rw [Option.bind_some, (handleMd5MonitoringAuth_ends hl (ha.same hsame)).1, hsame.statsFails]
    simp

/-- What the migrations leave: the relation, and a file if there was one or a
    line has been appended. -/
theorem upgradeSecrets_eq_some (hl : h.leader = true) (ha : h.Steady c up)
    (hc : upgradeSecrets h c = some c') : c'.relation = c.relation ∧
      c'.authFile.isSome = (c.authFile.isSome || (c.passwords .admin).isNone && up) := by
  obtain ⟨c₁, h₁, h₂⟩ := Option.bind_eq_some_iff.mp hc
  obtain ⟨hsame, hfile⟩ := (generateAdminConsoleUser_ends (c := c) ha.admin).2 c₁ h₁
  obtain ⟨hrel, hfile'⟩ := (handleMd5MonitoringAuth_ends hl (ha.same hsame)).2 c' h₂
  exact ⟨hrel.trans hsame.relation, hfile'.trans hfile⟩

end Auth

namespace Operator

open PgBouncerK8s.Action

/-! ## The condition -/

/-- The unit is upgrading and its plan has services; the configuration is valid
    and Kubernetes answers. -/
structure Upgrading (env : Env) (s : State) : Prop where
  upgrading : env.upgrading = true
  canConnect : env.canConnect = true
  services : s.services.items ≠ []
  config : (CharmConfig.build env.options).isSome = true
  service : env.service ≠ .failed
  endpoints : env.endpointsOk = true
  applied : env.applied ≠ .failed
  connectivity : env.connectivity.isSome = true
  deferred : s.deferred = false
  completed : s.completed = false

/-- The connection to PostgreSQL has one outcome: `ready`, `get_postgresql_version`
    and the hashes all end as it does. -/
structure SameOutcome (env : Env) (s : State) : Prop where
  version : env.hook.ready = true → env.version.isSome = true
  hashes : (env.upgrade s).Steady s.secrets env.hook.ready

/-- The handler up to `_cluster_checks` (`upgrade.py`, lines 156–162). -/
def PgbouncerUpgrade.migrate (env : Env) : Handler Unit := do
  let s ← Action.get
  Action.when (isLeader env s = true) do
    let _ ← reconcileK8sService env false
    Action.forEach (fun p => PgBouncerProvider.updateConnectionInfo env p.1 p.2)
      (s.app.relationsOf .database)
    storeSecrets env (Auth.generateAdminConsoleUser (env.upgrade s) s.secrets)
  PgbouncerUpgrade.handleMd5MonitoringAuth env

/-- The handler from `_cluster_checks` on (`upgrade.py`, lines 164–172). -/
def PgbouncerUpgrade.finish (env : Env) : Handler Unit := do
  let passed ← PgbouncerUpgrade.clusterChecks env
  if passed then do
    PgbouncerUpgrade.setUnitCompleted env
    updateStatus env
  else defer

/-- The handler returns, and has completed the upgrade where its checks pass and
    deferred its event where they do not. -/
def Completes (env : Env) (s : State) : Prop :=
  ∃ t passed u, (PgbouncerUpgrade.migrate env).run s = (.ok (), t) ∧
    ((PgbouncerUpgrade.clusterChecks env).run t).1 = .ok passed ∧
      (PgbouncerUpgrade.onPebbleReady env).run s = (.ok (), u) ∧
        u.completed = passed ∧ u.deferred = !passed

/-- The leader asks for a hash that does not come. -/
def migrationRaises (env : Env) (s : State) : Bool :=
  isLeader env s && (Auth.adminFails (env.upgrade s) s.secrets ||
    Auth.statsFails (env.upgrade s) env.hook.ready s.secrets)

/-- The checks pass behind the migrations: all instances run, and with a backend
    that is ready the metrics service does; the leader has made up for a missing
    file if it has added the console user. -/
def checksPass (env : Env) (s : State) : Bool :=
  ((serviceNames env).all fun name => s.services.get? name = some .active) &&
    (!postgres env s || env.hook.ready &&
      (s.secrets.authFile.isSome || isLeader env s && (s.secrets.passwords .admin).isNone) &&
        s.services.get? metricsService = some .active)

/-! ## The migrations -/

variable {env : Env} {s t : State}

theorem serviceFails_of_upgrading (hu : Upgrading env s) : serviceFails env = false := by
  simp [serviceFails, hu.service, hu.endpoints]

theorem reconcileK8sService_upgrading (hu : Upgrading env s) : ∃ reconciled status,
    (reconcileK8sService env false).run s = (.ok reconciled, { s with status := status }) := by
  obtain ⟨c, hc⟩ := Option.isSome_iff_exists.mp hu.config
  unfold reconcileK8sService
  rw [config_valid hc, run_pure_bind]
  obtain ⟨found, hs⟩ : ∃ found, getService env = pure found := by
    unfold getService
    cases hs : env.service with
    | failed => exact absurd hs hu.service
    | missing => exact ⟨false, rfl⟩
    | found => exact ⟨true, rfl⟩
  rw [hs, run_pure_bind, run_ite]
  split_ifs
  · exact ⟨true, s.status, rfl⟩
  · cases ha : env.applied with
    | failed => exact absurd ha hu.applied
    | forbidden => exact ⟨false, _, rfl⟩
    | applied =>
      show ∃ _ _, Action.run (Action.get >>= _) s = _
      rw [run_get_bind, run_bind, run_when]
      split_ifs
      · exact ⟨true, _, rfl⟩
      · exact ⟨true, s.status, rfl⟩

theorem updateConnectionInfo_upgrading (hu : Upgrading env s) (hp : SameOutcome env s)
    (hl : isLeader env t = true) (rid : RelId) (r : Relation) : ∃ status,
      (PgBouncerProvider.updateConnectionInfo env rid r).run t =
        (.ok (), { t with status := status }) := by
  obtain ⟨c, hc⟩ := Option.isSome_iff_exists.mp hu.config
  have hends : endpointsFail env rid r = false := by
    simp [endpointsFail, serviceFails_of_upgrading hu]
  rw [updateConnectionInfo_run hl, if_neg (by simp [hc]), hends, if_neg Bool.false_ne_true]
  split_ifs with hdb hready hversion
  · have hup : env.hook.ready = true := by
      unfold ready at hready
      exact (Bool.and_eq_true_iff.mp hready).2
    have hv := hp.version hup
    rw [hversion] at hv
    cases hv
  · exact ⟨t.status, rfl⟩
  · exact ⟨_, rfl⟩
  · exact ⟨t.status, rfl⟩

theorem updateConnections_upgrading (hu : Upgrading env s) (hp : SameOutcome env s)
    (hl : isLeader env t = true) (l : List (RelId × Relation)) : ∃ status,
      (Action.forEach (fun p => PgBouncerProvider.updateConnectionInfo env p.1 p.2) l).run t =
        (.ok (), { t with status := status }) := by
  induction l generalizing t with
  | nil => exact ⟨t.status, rfl⟩
  | cons p l ih =>
    obtain ⟨status, hrun⟩ := updateConnectionInfo_upgrading hu hp hl p.1 p.2
    obtain ⟨status', hrest⟩ := ih (t := { t with status := status }) hl
    exact ⟨status', (run_bind_ok hrun _).trans hrest⟩

theorem storeSecrets_some (hl : isLeader env s = true) (c : Auth.Charm) :
    (storeSecrets env (some c)).run s = (.ok (), { s with secrets := c }) :=
  writeApplication_leader hl _

/-- The migrations of the leader raise where those of the secrets do; they
    change the secrets, and perhaps the status. -/
theorem migrate_leader (hu : Upgrading env s) (hp : SameOutcome env s)
    (hl : isLeader env s = true) :
    match Auth.upgradeSecrets (env.upgrade s) s.secrets with
    | none => ∃ t, (PgbouncerUpgrade.migrate env).run s = (.error .other, t)
    | some c => ∃ status, (PgbouncerUpgrade.migrate env).run s =
        (.ok (), { s with secrets := c, status := status }) := by
  obtain ⟨reconciled, status, hrec⟩ := reconcileK8sService_upgrading hu
  obtain ⟨status', hupd⟩ := updateConnections_upgrading (t := { s with status := status })
    hu hp hl (s.app.relationsOf .database)
  unfold PgbouncerUpgrade.migrate Auth.upgradeSecrets
  rw [run_get_bind, run_bind, run_when, if_pos hl, run_bind_ok hrec, run_bind_ok hupd]
  cases hg : Auth.generateAdminConsoleUser (env.upgrade s) s.secrets with
  | none => exact ⟨_, rfl⟩
  | some c =>
    rw [storeSecrets_some (s := { s with status := status' }) hl, Option.bind_some]
    -- the hook of the second migration differs in the secrets only
    have hmd5 : ∀ t : State, isLeader env t = true → t.secrets = c →
        env.upgrade t = env.upgrade s → (PgbouncerUpgrade.handleMd5MonitoringAuth env).run t =
          (storeSecrets env (Auth.handleMd5MonitoringAuth (env.upgrade s) c)).run t := by
      intro t hl ht he
      unfold PgbouncerUpgrade.handleMd5MonitoringAuth
      rw [run_get_bind, run_when, if_pos hl, ht, he]
    simp only
    rw [hmd5 { s with secrets := c, status := status' } hl rfl rfl]
    cases Auth.handleMd5MonitoringAuth (env.upgrade s) c with
    | none => exact ⟨_, rfl⟩
    | some c' =>
      exact ⟨status', storeSecrets_some (s := { s with secrets := c, status := status' }) hl c'⟩

theorem migrate_follower (hl : isLeader env s = false) :
    (PgbouncerUpgrade.migrate env).run s = (.ok (), s) := by
  unfold PgbouncerUpgrade.migrate PgbouncerUpgrade.handleMd5MonitoringAuth
  rw [run_get_bind, run_bind, run_when, if_neg (by simp [hl])]
  simp only [run_get_bind, run_when]
  rw [if_neg (by simp [hl])]

/-! ## The checks -/

/-- Neither `set_unit_completed` nor `defer` has been called. -/
structure SameReport (s t : State) : Prop where
  completed : t.completed = s.completed
  deferred : t.deferred = s.deferred

theorem SameReport.refl (s : State) : SameReport s s := ⟨rfl, rfl⟩

instance (s : State) : Quiet (SameReport s) where
  status _ _ _ h := ⟨h.completed, h.deferred⟩
  services _ _ h := ⟨h.completed, h.deferred⟩
  active _ _ _ h := ⟨h.completed, h.deferred⟩

theorem running_iff : Running env s ↔ env.canConnect = true ∧
    (∀ name ∈ serviceNames env, s.services.get? name = some .active) ∧
      (ready env s = true → s.services.get? metricsService = some .active) := by
  unfold Running
  cases ready env s <;> simp [or_imp, forall_and]

/-- `_cluster_checks` passes. -/
def passes (env : Env) (s : State) : Bool := Running env s && !(postgres env s && !ready env s)

theorem clusterChecks_run (env : Env) (s : State) : ∃ t,
    (PgbouncerUpgrade.clusterChecks env).run s = (.ok (passes env s), t) ∧ SameReport s t ∧
      (passes env s = true → t = s) := by
  unfold PgbouncerUpgrade.clusterChecks passes
  by_cases hr : Running env s
  · refine ⟨s, ?_, .refl s, fun _ => rfl⟩
    rw [run_bind_ok (pgbRunning_of_running hr), run_get_bind, decide_eq_true hr]
    rfl
  · obtain ⟨t, hrun, hsame⟩ := pgbRunning_of_not_running (SameReport.refl s) hr
    rw [decide_eq_false hr, Bool.false_and]
    refine ⟨t, ?_, hsame, fun h => by cases h⟩
    rw [run_bind_ok hrun]
    rfl

/-! ## The completion -/

theorem checkServiceConnectivity_returns {I : State → Prop} (hu : Upgrading env s) :
    Within I NoError (checkServiceConnectivity env) := by
  obtain ⟨c, hc⟩ := Option.isSome_iff_exists.mp hu.config
  obtain ⟨connected, hconn⟩ := Option.isSome_iff_exists.mp hu.connectivity
  unfold checkServiceConnectivity getHostsPorts getService
  rw [config_valid hc, hu.endpoints, hconn]
  cases hs : env.service with
  | failed => exact absurd hs hu.service
  | missing => exact .pure false
  | found => exact .ite (fun _ => .pure false) fun _ => .pure connected

theorem updateRunning_returns : Within (SameReport s) NoError (updateRunning env) := by
  unfold updateRunning
  apply Within.tryCatch (T := (· = .pebbleConnectionError))
  · apply Within.bind checkPgbRunning_raises
    exact fun _ => .when fun _ => .modify fun t ht => ⟨ht.completed, ht.deferred⟩
  · intro e he
    exact .ite (fun _ => within_setStatus (.waiting _)) fun hn => absurd he hn

theorem updateStatus_returns (hu : Upgrading env s) :
    Within (SameReport t) NoError (updateStatus env) := by
  obtain ⟨c, hc⟩ := Option.isSome_iff_exists.mp hu.config
  unfold updateStatus
  rw [configurationCheck_valid hc]
  apply Within.get_bind
  intro s hs
  apply Within.when
  intro _
  apply Within.bind (.pure true)
  intro _
  apply Within.when
  intro _
  apply Within.get_bind
  intro s hs
  apply Within.ite
  · exact fun _ => within_setStatus .noBackend
  intro _
  apply Within.ite
  · exact fun _ => within_setStatus .backendNotReady
  intro _
  apply Within.bind
  · exact .ite (fun _ => checkServiceConnectivity_returns hu) fun _ => .pure true
  intro connectable
  apply Within.ite
  · exact fun _ => updateRunning_returns
  · exact fun _ => .when fun _ => within_setStatus .notConnectable

/-- Active services are reloaded without a restart. -/
theorem reload_active {names : List String}
    (h : ∀ name ∈ names, s.services.get? name = some .active) :
    (Action.forEach (reloadService env false) names).run s = (.ok (), s) := by
  induction names with
  | nil => rfl
  | cons name names ih =>
    have hrun : (reloadService env false name).run s = (.ok (), s) := by
      unfold reloadService
      rw [run_get_bind, h name List.mem_cons_self]
      simp [run_when]
    exact (run_bind_ok hrun _).trans (ih fun name' hn => h name' (List.mem_cons_of_mem _ hn))

/-- Where all services run, `_on_upgrade_changed` raises only if the files cannot
    be rendered. -/
theorem onUpgradeChanged_run (hu : Upgrading env s) (hserv : t.services.items ≠ [])
    (hr : Running env t) : (PgbouncerUpgrade.onUpgradeChanged env).run t =
      if env.filesOk then (.ok (), t) else (.error .other, t) := by
  obtain ⟨c, hc⟩ := Option.isSome_iff_exists.mp hu.config
  have hreload : (reloadAndCheck env).run t = (.ok (), t) := by
    unfold reloadAndCheck
    rw [run_bind_ok (reload_active fun name hn => hr.2 name (List.mem_append_left _ hn)),
      run_bind_ok (checkPgbRunning_of_running hr)]
    rfl
  unfold PgbouncerUpgrade.onUpgradeChanged
  rw [run_bind_ok (pgbRunning_of_running hr), run_when, if_pos rfl, renderPgbConfig_run hc,
    if_pos hu.canConnect, if_neg hserv, hreload]

/-- The state behind `set_unit_completed`. -/
def reported (s : State) : State :=
  { s with status := .maintenance "upgrade completed", completed := true }

theorem setUnitCompleted_run (hu : Upgrading env s) (hserv : t.services.items ≠ [])
    (hr : Running env t) : (PgbouncerUpgrade.setUnitCompleted env).run t =
      if isLeader env t && !env.filesOk then (.error .other, reported t)
      else (.ok (), reported t) := by
  have hr' : Running env (reported t) := hr
  show (Action.when (isLeader env (reported t) = true)
    (PgbouncerUpgrade.onUpgradeChanged env)).run (reported t) = _
  rw [run_when, onUpgradeChanged_run hu (t := reported t) hserv hr']
  show (if isLeader env t = true then _ else _) = _
  cases isLeader env t with
  | false => rfl
  | true => cases env.filesOk <;> rfl

/-- How the handler ends from the checks on. -/
theorem finish_run (hu : Upgrading env s) (hserv : t.services.items ≠ [])
    (hc : t.completed = false) (hd : t.deferred = false) :
    if passes env t && (isLeader env t && !env.filesOk) then
      ∃ u, (PgbouncerUpgrade.finish env).run t = (.error .other, u)
    else ∃ u, (PgbouncerUpgrade.finish env).run t = (.ok (), u) ∧
      u.completed = passes env t ∧ u.deferred = !passes env t := by
  obtain ⟨t', hrun, hsame, hkept⟩ := clusterChecks_run env t
  unfold PgbouncerUpgrade.finish
  rw [run_bind_ok hrun]
  cases hp : passes env t with
  | false =>
    rw [Bool.false_and, if_neg Bool.false_ne_true, if_neg Bool.false_ne_true]
    exact ⟨_, rfl, by rw [← hc]; exact hsame.completed, rfl⟩
  | true =>
    obtain rfl := hkept hp
    have hr : Running env t' := of_decide_eq_true (Bool.and_eq_true_iff.mp hp).1
    have hset := setUnitCompleted_run hu hserv hr
    rw [Bool.true_and, if_pos rfl]
    split_ifs at hset ⊢ with hf
    · exact ⟨_, run_bind_error hset _⟩
    · obtain ⟨_, u, hrun', hsame'⟩ :=
        (updateStatus_returns hu).run_ok (fun _ => id) (SameReport.refl (reported t'))
      exact ⟨u, (run_bind_ok hset _).trans hrun', hsame'.completed, hsame'.deferred.trans hd⟩

/-! ## The handler -/

theorem onPebbleReady_run (hu : Upgrading env s) :
    (PgbouncerUpgrade.onPebbleReady env).run s =
      (PgbouncerUpgrade.migrate env >>= fun _ => PgbouncerUpgrade.finish env).run s := by
  unfold PgbouncerUpgrade.onPebbleReady PgbouncerUpgrade.migrate PgbouncerUpgrade.finish
  rw [run_get_bind, hu.canConnect, Bool.not_true, if_neg Bool.false_ne_true, if_neg hu.services,
    run_when, if_pos hu.upgrading, run_bind_assoc]
  rfl

/-- What the checks say of a state with another file, in terms of the one before
    the migrations. -/
theorem passes_eq (hu : Upgrading env s) (hserv : t.services = s.services)
    (hrel : t.secrets.relation = s.secrets.relation)
    (hfile : t.secrets.authFile.isSome = (s.secrets.authFile.isSome ||
      isLeader env s && ((s.secrets.passwords .admin).isNone && env.hook.ready))) :
    passes env t = checksPass env s := by
  have hpost : postgres env t = postgres env s := by
    unfold postgres
    rw [hrel]
  have hready : ready env t = (postgres env s && t.secrets.authFile.isSome && env.hook.ready) := by
    unfold ready
    rw [hpost]
  unfold passes checksPass
  rw [hpost, hready, hfile, Bool.eq_iff_iff, Bool.and_eq_true, decide_eq_true_iff, running_iff,
    hready, hserv, hfile, hu.canConnect]
  cases postgres env s with
  | false => simp
  | true =>
    cases env.hook.ready with
    | false => simp
    | true =>
      simp only [Bool.true_and, Bool.and_true, Bool.not_true, Bool.false_or, Bool.not_not,
        Bool.and_eq_true, List.all_eq_true, decide_eq_true_eq, true_and]
      tauto

/-- What the migrations leave, and what the checks say of it. -/
theorem migrate_run (hu : Upgrading env s) (hp : SameOutcome env s) :
    if migrationRaises env s then ∃ t, (PgbouncerUpgrade.migrate env).run s = (.error .other, t)
    else ∃ t, (PgbouncerUpgrade.migrate env).run s = (.ok (), t) ∧ SameReport s t ∧
      t.services = s.services ∧ isLeader env t = isLeader env s ∧
        passes env t = checksPass env s := by
  unfold migrationRaises
  cases hl : isLeader env s with
  | false =>
    rw [Bool.false_and, if_neg Bool.false_ne_true]
    refine ⟨s, migrate_follower hl, .refl s, rfl, hl, ?_⟩
    exact passes_eq hu rfl rfl (by rw [hl, Bool.false_and, Bool.or_false])
  | true =>
    have hrun := migrate_leader hu hp hl
    have hnone := Auth.upgradeSecrets_eq_none_iff (h := env.upgrade s) hl hp.hashes
    rw [Bool.true_and]
    cases hc : Auth.upgradeSecrets (env.upgrade s) s.secrets with
    | none =>
      rw [hc] at hrun
      rwa [if_pos (hnone.mp hc)]
    | some c =>
      rw [hc] at hrun
      obtain ⟨status, hrun⟩ := hrun
      obtain ⟨hrel, hfile⟩ := Auth.upgradeSecrets_eq_some hl hp.hashes hc
      rw [if_neg (by rw [← hnone, hc]; exact Option.some_ne_none c)]
      refine ⟨_, hrun, ⟨rfl, rfl⟩, rfl, hl, ?_⟩
      exact passes_eq hu rfl hrel (by rw [hl, Bool.true_and]; exact hfile)

/-- A hook of the upgrade. -/
def upgradingEnv : Env := { sampleEnv 0 with upgrading := true }

/-- The leader behind an upgrade, with an MD5 hash of the stats user in the
    file and no console user. -/
def upgradedLeader : State :=
  { sampleDeployment.view 0 with
    secrets := { sampleDeployment.secrets with
      authFile := some "\"auth\" \"md5\"\n\"pgbouncer_stats_pgb_k8s\" \"md5\""
      passwords := fun key => if key = .monitoring then some "secret" else none } }

theorem sameOutcome_upgradedLeader : SameOutcome upgradingEnv upgradedLeader where
  version _ := rfl
  hashes :=
    { admin := show (upgradingEnv.hashed .admin).isOk = true from rfl
      stats := fun k => show (upgradingEnv.rehashed k).isOk = true from rfl }

/-- A hook of the upgrade without a backend: no connection can be opened. -/
def withoutBackend : Env :=
  { upgradingEnv with
    hook := { Setup.sampleHook 0 with ready := false }
    connected := false
    hashed := fun _ => .error .psycopg2Error
    rehashed := fun _ => .error .psycopg2Error }

/-- A leader without a backend relation and without a console user. -/
def unrelatedLeader : State := { sampleDeployment.view 0 with secrets := Auth.sampleCharm }

theorem sameOutcome_unrelatedLeader : SameOutcome withoutBackend unrelatedLeader where
  version h := by cases h
  hashes :=
    { admin := show withoutBackend.hashed .admin = .error .psycopg2Error from rfl
      stats := fun k => show withoutBackend.rehashed k = .error .psycopg2Error from rfl }

end Operator

end PgBouncerK8s
