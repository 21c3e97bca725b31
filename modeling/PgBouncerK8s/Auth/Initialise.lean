import PgBouncerK8s.Auth.Secrets

/-!
# Initialising the backend

`_on_database_created` on the leader (`backend_database.py`, lines 323–392) with
the PostgreSQL role it creates. An attempt may stop after it has stored one or
both generated passwords, and after it has changed the role; the event is
deferred then and the next attempt starts over.

SCRAM hashes are salted: what PostgreSQL answers to a request to hash the
password of a user is part of the attempt, the password it is asked to hash is
the one `generate_system_user` works with.

* `onDatabaseCreated_charm`: the secrets are those of `Auth.onDatabaseCreated`.
* `initialisation_converges`: any number of deferred attempts and then one that
  completes.
-/

namespace PgBouncerK8s.Auth.Initialise

/-! ## Model -/

/-- The secrets, and the arguments of the last `create_user`: the user and its
    hashed password. -/
structure World where
  charm : Charm
  created : Option (Plain × Plain)

/-- What one attempt meets on the leader; `scram user password` is the answer to
    the request to hash. -/
structure Attempt where
  pgbRunning : Bool
  connected : Bool
  databaseRequested : Bool
  newPassword : PasswordKey → String
  hashedPassword : Plain
  scram : Plain → String → Except Failure Plain
  authFunctionOk : Bool

/-- The user whose password is stored under the key. -/
def PasswordKey.role : PasswordKey → Role
  | .monitoring => .stats
  | .admin => .admin

namespace Attempt

/-- The password `generate_system_user` works with (`backend_database.py`,
    lines 293–294). -/
def password (a : Attempt) (c : Charm) (key : PasswordKey) : String :=
  (c.passwords key).getD (a.newPassword key)

/-- The answer to its request to hash (`backend_database.py`, lines 295–298). -/
def hashed (a : Attempt) (c : Charm) (key : PasswordKey) : Except Failure Plain :=
  a.scram (c.ownUser (PasswordKey.role key)) (a.password c key)

/-- `generate_system_user` (`backend_database.py`, lines 291–301). -/
def generateSystemUser (a : Attempt) (c : Charm) (key : PasswordKey) :
    Option (Charm × Option Plain) :=
  c.generateSystemUser key (a.newPassword key) (c.generateScramHash a.connected (a.hashed c key))

/-- The attempt as a hook of `Auth.onDatabaseCreated`. -/
def hook (a : Attempt) (c : Charm) : CreatedHook where
  leader := true
  containerReady := true
  secretsAccessible := true
  pgbRunning := a.pgbRunning
  connected := a.connected
  databaseRequested := a.databaseRequested
  newPassword := a.newPassword
  hashedPassword := a.hashedPassword
  hashed := a.hashed c
  createUserOk := true
  authFunctionOk := a.authFunctionOk

end Attempt

/-- How an attempt ends: the event is deferred, an exception escapes, or the
    handler goes on to render. -/
inductive Ending
  | deferred
  | raised
  | completed
  deriving DecidableEq

/-- The part of `_on_database_created` behind its checks
    (`backend_database.py`, lines 351–385); `create_user` succeeds. -/
def createUsers (a : Attempt) (w : World) (authUser : Plain) : World × Ending :=
  match a.generateSystemUser w.charm .monitoring with
  | none => (w, .raised)
  | some (c, none) => ({ w with charm := c }, .deferred)
  | some (c, some hashedMonitoringPassword) =>
    match a.generateSystemUser c .admin with
    | none => (w, .raised)
    | some (c, none) => ({ w with charm := c }, .deferred)
    | some (c, some hashedAdminPassword) =>
      let w : World := ⟨c, some (authUser, a.hashedPassword)⟩
      if !a.authFunctionOk then (w, .deferred)
      else
        let authFile := Entry.line ⟨authUser, a.hashedPassword⟩ ++ "\n" ++
          Entry.line ⟨c.ownUser .stats, hashedMonitoringPassword⟩ ++ "\n" ++
          Entry.line ⟨c.ownUser .admin, hashedAdminPassword⟩
        ({ w with charm := c.setAuthFile authFile }, .completed)

/-- `_on_database_created` on the leader (`backend_database.py`,
    lines 323–392). -/
def onDatabaseCreated (a : Attempt) (w : World) : World × Ending :=
  if !a.pgbRunning then (w, .deferred)
  else
    match w.charm.authUser with
    | none => (w, .deferred)
    | some authUser =>
      if !a.connected || !a.databaseRequested then (w, .deferred) else createUsers a w authUser

/-- `ready` (`backend_database.py`, lines 214–240), where the databag of the
    backend is complete and PostgreSQL answers. -/
def ready (w : World) : Bool := w.charm.authUser.isSome && w.charm.authFile.isSome

/-- Any number of attempts that are deferred. -/
inductive Retries : World → World → Prop
  | none {w : World} : Retries w w
  | retry {w w₁ w' : World} {a : Attempt} : onDatabaseCreated a w = (w₁, .deferred) →
      Retries w₁ w' → Retries w w'

/-! ## One attempt -/

variable {a : Attempt} {w w₁ w' : World} {c c' : Charm} {key : PasswordKey}

/-- No stored password is replaced. -/
def Keeps (c c' : Charm) : Prop :=
  ∀ key password, c.passwords key = some password → c'.passwords key = some password

theorem Keeps.refl (c : Charm) : Keeps c c := fun _ _ h => h

theorem Keeps.trans {c'' : Charm} (h : Keeps c c') (h' : Keeps c' c'') : Keeps c c'' :=
  fun key password hp => h' key password (h key password hp)

/-- Where a hash is returned, it is one of the password that is stored now. -/
structure Hashes (a : Attempt) (c : Charm) (key : PasswordKey) (hash : Plain) : Prop where
  related : c.relation.isNone = false
  hash : ∃ password, c.passwords key = some password ∧
    a.scram (c.ownUser (PasswordKey.role key)) password = .ok hash

theorem generateScramHash_ok {connected : Bool} {answer : Except Failure Plain} {hash : Plain}
    (h : c.generateScramHash connected answer = .ok hash) : answer = .ok hash := by
  unfold Charm.generateScramHash at h
  split_ifs at h with hc
  exact h

theorem generateSystemUser_spec {r : Option Plain}
    (h : a.generateSystemUser c key = some (c', r)) :
    SameFile c c' ∧ Keeps c c' ∧ ∀ hash, r = some hash → Hashes a c' key hash := by
  unfold Attempt.generateSystemUser at h
  obtain ⟨hsame, hok⟩ := generateSystemUser_same h
  refine ⟨hsame, ?_, ?_⟩
  · unfold Charm.generateSystemUser at h
    intro k password hp
    rcases hans : c.generateScramHash a.connected (a.hashed c key) with (_ | _) | hash
    · simp only [hans, Option.some_inj, Prod.mk.injEq] at h
      rw [← h.1, hp]
    · simp [hans] at h
    · simp only [hans, Option.some_inj, Prod.mk.injEq] at h
      rw [← h.1]
      by_cases hk : k = key
      · subst hk
        simp [hp]
      · simpa [hk] using hp
  · intro hash hr
    have hans := hok hash hr
    have hown : c'.ownUser = c.ownUser := by
      funext role
      rw [Charm.ownUser, Charm.ownUser, hsame.relation, hsame.appName]
    refine ⟨?_, a.password c key, ?_, ?_⟩
    · rw [hsame.relation]
      exact relation_of_hash hans
    · unfold Charm.generateSystemUser at h
      simp only [hans, Option.some_inj, Prod.mk.injEq] at h
      rw [← h.1]
      simp [Attempt.password]
    · rw [hown]
      exact generateScramHash_ok hans

/-- A hash of one password stays one of the stored password while the other one
    is generated. -/
theorem Hashes.keep {hash : Plain} (h : Hashes a c key hash) (hsame : SameFile c c')
    (hk : Keeps c c') : Hashes a c' key hash := by
  obtain ⟨hrel, password, hp, hs⟩ := h
  refine ⟨by rwa [hsame.relation], password, hk key password hp, ?_⟩
  rwa [Charm.ownUser, hsame.relation, hsame.appName, ← Charm.ownUser]

/-- What an attempt leaves that completes: the three lines, the hash of the auth
    user being the one `create_user` got. -/
structure Completed (a : Attempt) (w w' : World) : Prop where
  appName : w'.charm.appName = w.charm.appName
  keeps : Keeps w.charm w'.charm
  file : ∃ authUser monitoring admin, w.charm.authUser = some authUser ∧
    w'.created = some (authUser, a.hashedPassword) ∧
    Hashes a w'.charm .monitoring monitoring ∧ Hashes a w'.charm .admin admin ∧
    w'.charm.authFile = some (Entry.line ⟨authUser, a.hashedPassword⟩ ++ "\n" ++
      Entry.line ⟨systemUser .stats w.charm.appName, monitoring⟩ ++ "\n" ++
      Entry.line ⟨systemUser .admin w.charm.appName, admin⟩)

/-- What an attempt leaves: nothing new where it is deferred, except that
    passwords may be stored; the file where it completes. -/
inductive Effect (a : Attempt) (w : World) : World × Ending → Prop
  | deferred {w' : World} : SameFile w.charm w'.charm → Keeps w.charm w'.charm →
      Effect a w (w', .deferred)
  | raised : Effect a w (w, .raised)
  | completed {w' : World} : Completed a w w' → Effect a w (w', .completed)

theorem createUsers_effect {authUser : Plain} (hauth : w.charm.authUser = some authUser) :
    Effect a w (createUsers a w authUser) := by
  unfold createUsers
  rcases hm : a.generateSystemUser w.charm .monitoring with _ | ⟨c₁, _ | monitoring⟩
  · exact .raised
  · obtain ⟨h₁, k₁, -⟩ := generateSystemUser_spec hm
    exact .deferred h₁ k₁
  obtain ⟨h₁, k₁, hash₁⟩ := generateSystemUser_spec hm
  rcases ha : a.generateSystemUser c₁ .admin with _ | ⟨c₂, _ | admin⟩
  · simp only [ha]
    exact .raised
  · obtain ⟨h₂, k₂, -⟩ := generateSystemUser_spec ha
    simp only [ha]
    exact .deferred (h₁.trans h₂) (k₁.trans k₂)
  obtain ⟨h₂, k₂, hash₂⟩ := generateSystemUser_spec ha
  have hmon := (hash₁ monitoring rfl).keep h₂ k₂
  have hadm := hash₂ admin rfl
  simp only [ha]
  split_ifs with hok
  · exact .deferred (h₁.trans h₂) (k₁.trans k₂)
  · refine .completed
      ⟨(h₁.trans h₂).appName, k₁.trans k₂, authUser, monitoring, admin, hauth, rfl, ?_, ?_, ?_⟩
    · exact ⟨hmon.related, hmon.hash⟩
    · exact ⟨hadm.related, hadm.hash⟩
    · rw [authFile_setAuthFile, ownUser_of_relation hadm.related, ownUser_of_relation hadm.related,
        (h₁.trans h₂).appName]
      intro he
      have hl := congrArg String.length he
      simp [String.length_append] at hl

theorem created_effect (a : Attempt) (w : World) : Effect a w (onDatabaseCreated a w) := by
  unfold onDatabaseCreated
  by_cases hrun : (!a.pgbRunning) = true
  · rw [if_pos hrun]
    exact .deferred (.refl _) (.refl _)
  rw [if_neg hrun]
  cases hauth : w.charm.authUser with
  | none => exact .deferred (.refl _) (.refl _)
  | some authUser =>
    simp only
    split_ifs with hready
    · exact .deferred (.refl _) (.refl _)
    · exact createUsers_effect hauth

theorem deferred_spec (h : onDatabaseCreated a w = (w', .deferred)) :
    SameFile w.charm w'.charm ∧ Keeps w.charm w'.charm := by
  have he := created_effect a w
  rw [h] at he
  cases he with
  | deferred hs hk => exact ⟨hs, hk⟩

theorem completed_spec (h : onDatabaseCreated a w = (w', .completed)) : Completed a w w' := by
  have he := created_effect a w
  rw [h] at he
  cases he with
  | completed hc => exact hc

/-! ## The secrets alone -/

/-- The result of `Auth.onDatabaseCreated` that an ending stands for. -/
def Ending.result (e : Ending) (c : Charm) : Option (Charm × Bool) :=
  match e with
  | .deferred => some (c, false)
  | .raised => none
  | .completed => some (c, true)

theorem generate_hook (hsame : SameFile c c') (key : PasswordKey)
    (hp : c'.passwords key = c.passwords key) :
    (a.hook c).generate c' key = a.generateSystemUser c' key := by
  have hown : c'.ownUser = c.ownUser := by
    funext role
    rw [Charm.ownUser, Charm.ownUser, hsame.relation, hsame.appName]
  unfold CreatedHook.generate Attempt.generateSystemUser Attempt.hook Attempt.hashed
    Attempt.password
  simp only [hown, hp]

/-- Storing one password leaves the other one alone. -/
theorem passwords_generate {r : Option Plain} {k : PasswordKey}
    (h : a.generateSystemUser c key = some (c', r)) (hk : k ≠ key) :
    c'.passwords k = c.passwords k := by
  unfold Attempt.generateSystemUser Charm.generateSystemUser at h
  split at h
  · cases h
    rfl
  · cases h
  · cases h
    exact Function.update_of_ne hk _ _

theorem createUsers_charm (a : Attempt) (w : World) (authUser : Plain) :
    Auth.createUsers (a.hook w.charm) w.charm authUser =
      (createUsers a w authUser).2.result (createUsers a w authUser).1.charm := by
  unfold Auth.createUsers createUsers
  rw [generate_hook (.refl _) _ rfl]
  rcases hm : a.generateSystemUser w.charm .monitoring with _ | ⟨c₁, _ | monitoring⟩
  · rfl
  · rfl
  have h₁ := (generateSystemUser_spec hm).1
  simp only
  rw [generate_hook h₁ _ (passwords_generate hm (by decide))]
  rcases ha : a.generateSystemUser c₁ .admin with _ | ⟨c₂, _ | admin⟩
  · rfl
  · rfl
  · cases hok : a.authFunctionOk <;> simp [Attempt.hook, hok, Ending.result]

/-- The secrets an attempt leaves are those of the handler of `Secrets`. -/
theorem onDatabaseCreated_charm (a : Attempt) (w : World) :
    Auth.onDatabaseCreated (a.hook w.charm) w.charm =
      (onDatabaseCreated a w).2.result (onDatabaseCreated a w).1.charm := by
  unfold Auth.onDatabaseCreated onDatabaseCreated
  cases hrun : a.pgbRunning with
  | false => simp [Attempt.hook, hrun, Ending.result]
  | true =>
    cases hauth : w.charm.authUser with
    | none => simp [Attempt.hook, hrun, Ending.result]
    | some authUser =>
      simp only [Attempt.hook, hrun, Bool.not_true, Bool.false_eq_true, if_false]
      split_ifs with hready
      · rfl
      · exact createUsers_charm a w authUser

/-! ## Attempts until one completes -/

theorem retries_spec (h : Retries w w') : SameFile w.charm w'.charm ∧ Keeps w.charm w'.charm := by
  induction h with
  | none => exact ⟨.refl _, .refl _⟩
  | retry ha _ ih =>
    obtain ⟨hs, hk⟩ := deferred_spec ha
    exact ⟨hs.trans ih.1, hk.trans ih.2⟩

theorem not_ready_of_retries (hfile : w.charm.authFile = none) (h : Retries w w') :
    w'.charm.authFile = none ∧ ready w' = false := by
  have hnone : w'.charm.authFile = none := by rw [(retries_spec h).1.authFile, hfile]
  exact ⟨hnone, by simp [ready, hnone]⟩

/-- Without a file at the start, and after any number of deferred attempts
    followed by one that completes: there was no file before the last one and
    the backend was not ready; no password that was stored along the way has
    changed; and the file has three lines, for the auth user with the hash
    `create_user` got last, the stats user and the console user with hashes of
    the stored passwords. -/
theorem initialisation_converges (hfile : w.charm.authFile = none) (hretries : Retries w w₁)
    (hlast : onDatabaseCreated a w₁ = (w', .completed)) :
    (∀ v, Retries w v → v.charm.authFile = none ∧ ready v = false) ∧
    (∀ v, Retries w v → Retries v w₁ → ∀ key password, v.charm.passwords key = some password →
      w₁.charm.passwords key = some password ∧ w'.charm.passwords key = some password) ∧
    ∃ authUser authHash monitoring monitoringHash admin adminHash content,
      w.charm.authUser = some authUser ∧ w'.created = some (authUser, authHash) ∧
      w'.charm.passwords .monitoring = some monitoring ∧
      a.scram (systemUser .stats w.charm.appName) monitoring = .ok monitoringHash ∧
      w'.charm.passwords .admin = some admin ∧
      a.scram (systemUser .admin w.charm.appName) admin = .ok adminHash ∧
      w'.charm.authFile = some content ∧
      Text.split '\n' content = [Entry.line ⟨authUser, authHash⟩,
        Entry.line ⟨systemUser .stats w.charm.appName, monitoringHash⟩,
        Entry.line ⟨systemUser .admin w.charm.appName, adminHash⟩] := by
  have hc := completed_spec hlast
  obtain ⟨hsame, -⟩ := retries_spec hretries
  refine ⟨fun v hv => not_ready_of_retries hfile hv, ?_, ?_⟩
  · intro v _ hv key password hp
    have hp₁ := (retries_spec hv).2 key password hp
    exact ⟨hp₁, hc.keeps key password hp₁⟩
  · obtain ⟨authUser, monitoringHash, adminHash, hauth, hcreated, hmon, hadm, hcontent⟩ := hc.file
    obtain ⟨monitoring, hmp, hms⟩ := hmon.hash
    obtain ⟨admin, hap, has⟩ := hadm.hash
    rw [Charm.authUser, hsame.relation, ← Charm.authUser] at hauth
    rw [hsame.appName] at hcontent
    have happ := hc.appName.trans hsame.appName
    rw [PasswordKey.role, ownUser_of_relation hmon.related, happ] at hms
    rw [PasswordKey.role, ownUser_of_relation hadm.related, happ] at has
    refine ⟨authUser, a.hashedPassword, monitoring, monitoringHash, admin, adminHash, _, hauth,
      hcreated, hmp, hms, hap, has, hcontent, ?_⟩
    rw [split_append_line, split_append_line, split_line]
    rfl

theorem isPlain_md50 : IsPlain "md50" := by decide

theorem isPlain_rel : IsPlain "rel_1" := by decide

/-- An attempt in which PostgreSQL hashes the password of the stats user, and
    that of the console user where `adminOk`. -/
def sampleAttempt (adminOk : Bool) : Attempt where
  pgbRunning := true
  connected := true
  databaseRequested := true
  newPassword := fun _ => "secret"
  hashedPassword := ⟨"md50", isPlain_md50⟩
  scram := fun user _ =>
    if user = systemUser .admin sampleCharm.appName && !adminOk then .error .psycopg2Error
    else .ok sampleHash
  authFunctionOk := true

/-- A backend that has written its user name. -/
def related : World :=
  ⟨{ sampleCharm with relation := some (some ⟨"rel_1", isPlain_rel⟩) }, none⟩

/-- The first attempt stores the monitoring password and is deferred, the second
    one completes. -/
theorem completes_on_retry :
    ∃ (w₁ w' : World) (content : String), Retries related w₁ ∧ w₁.charm.authFile = none ∧
      ready w₁ = false ∧
      w₁.charm.passwords .monitoring = some "secret" ∧
      w'.charm.passwords .monitoring = some "secret" ∧ w'.charm.authFile = some content ∧
      (Text.split '\n' content).length = 3 := by
  have hfirst : (onDatabaseCreated (sampleAttempt false) related).2 = .deferred := by
    decide +kernel
  have hlast : (onDatabaseCreated (sampleAttempt true)
      (onDatabaseCreated (sampleAttempt false) related).1).2 = .completed := by decide +kernel
  have hretries : Retries related (onDatabaseCreated (sampleAttempt false) related).1 :=
    .retry (Prod.ext rfl hfirst) .none
  have hmon : (onDatabaseCreated (sampleAttempt false) related).1.charm.passwords .monitoring =
      some "secret" := by decide +kernel
  obtain ⟨habsent, hkeeps, hfile⟩ :=
    initialisation_converges rfl hretries (Prod.ext rfl hlast)
  obtain ⟨_, _, _, _, _, _, content, -, -, -, -, -, -, hcontent, hlines⟩ := hfile
  obtain ⟨hnone, hready⟩ := habsent _ hretries
  exact ⟨_, _, content, hretries, hnone, hready, hmon, (hkeeps _ hretries .none _ _ hmon).2,
    hcontent, by rw [hlines]; rfl⟩

end PgBouncerK8s.Auth.Initialise
