import Mathlib.Logic.Function.Basic
import PgBouncerK8s.Auth.AuthFile
import PgBouncerK8s.Lib.Machine

/-!
# The `auth_file` secret

Models of the handlers that write the secret: `_on_database_created` and
`_on_relation_broken` of `backend_database.py`, and `_on_pgbouncer_pebble_ready`
of `upgrade.py`. What a handler meets besides the secrets (its unit's role, the
state of the workload, the answers of PostgreSQL) is part of its hook. Juju
discards what a handler wrote when it ends with an uncaught exception.

* `rehash_forall₂`: the migration from MD5 changes hashes only.
* `wellFormed_of_reach`: when the secret is well formed in every state.
* `admin_line_on_none`: the upgrade appends the console user to no file.
-/

namespace PgBouncerK8s.Auth

/-! ## Model -/

/-- The exceptions of `generate_scram_hash`: a `psycopg2.Error` or another one. -/
inductive Failure
  | psycopg2Error
  | other
  deriving DecidableEq

/-- The keys of the two generated passwords. -/
inductive PasswordKey
  | monitoring
  | admin
  deriving DecidableEq

/-- What all units share: the application's name, the backend relation with the
    `username` in the backend's databag, and the secrets of the application. -/
structure Charm where
  appName : Plain
  relation : Option (Option Plain)
  authFile : Option String
  passwords : PasswordKey → Option String

namespace Charm

/-- `auth_user` (`backend_database.py`, lines 168–175). -/
def authUser (c : Charm) : Option Plain := c.relation.join.map (systemUser .auth)

/-- `stats_user` and `admin_user` (`backend_database.py`, lines 177–189), empty
    without a relation. -/
def ownUser (c : Charm) (r : Role) : Plain :=
  if c.relation.isNone then ⟨"", by decide⟩ else systemUser r c.appName

/-- `set_secret` of `auth_file` (`charm.py`, lines 783–795): an empty value
    removes it. -/
def setAuthFile (c : Charm) (value : String) : Charm :=
  { c with authFile := if value = "" then none else some value }

/-- `generate_scram_hash` (`backend_database.py`, lines 281–289): without a
    complete backend relation there is no connection to hash with. -/
def generateScramHash (c : Charm) (connected : Bool) (answer : Except Failure Plain) :
    Except Failure Plain :=
  if connected && c.relation.join.isSome then answer else .error .other

/-- `generate_system_user` (`backend_database.py`, lines 291–301); `none` where
    it raises. -/
def generateSystemUser (c : Charm) (key : PasswordKey) (newPassword : String)
    (answer : Except Failure Plain) : Option (Charm × Option Plain) :=
  let password := (c.passwords key).getD newPassword
  match answer with
  | .error .psycopg2Error => some (c, none)
  | .error .other => none
  | .ok hash =>
    some ({ c with passwords := Function.update c.passwords key (some password) }, some hash)

end Charm

/-- What `_on_database_created` meets. `connected` says that the backend's
    databag has endpoints and password; `createUserOk` and `authFunctionOk`
    that `create_user` and `initialise_auth_function` return. -/
structure CreatedHook where
  leader : Bool
  containerReady : Bool
  secretsAccessible : Bool
  pgbRunning : Bool
  connected : Bool
  databaseRequested : Bool
  newPassword : PasswordKey → String
  hashedPassword : Plain
  hashed : PasswordKey → Except Failure Plain
  createUserOk : Bool
  authFunctionOk : Bool

/-- `generate_system_user` in this hook, for the user of one of the keys. -/
def CreatedHook.generate (h : CreatedHook) (c : Charm) (key : PasswordKey) :
    Option (Charm × Option Plain) :=
  c.generateSystemUser key (h.newPassword key) (c.generateScramHash h.connected (h.hashed key))

/-- The part of `_on_database_created` behind its checks
    (`backend_database.py`, lines 351–392). -/
def createUsers (h : CreatedHook) (c : Charm) (authUser : Plain) : Option (Charm × Bool) :=
  match h.generate c .monitoring with
  | none => none
  | some (c, none) => some (c, false)
  | some (c, some hashedMonitoringPassword) =>
    match h.generate c .admin with
    | none => none
    | some (c, none) => some (c, false)
    | some (c, some hashedAdminPassword) =>
      if !h.createUserOk then none
      else if !h.authFunctionOk then some (c, false)
      else some (c.setAuthFile
        (Entry.line ⟨authUser, h.hashedPassword⟩ ++ "\n" ++
          Entry.line ⟨c.ownUser .stats, hashedMonitoringPassword⟩ ++ "\n" ++
          Entry.line ⟨c.ownUser .admin, hashedAdminPassword⟩), true)

/-- `_on_database_created` (`backend_database.py`, lines 303–392): the secrets
    it leaves, and whether it goes on to render; `none` where it raises. -/
def onDatabaseCreated (h : CreatedHook) (c : Charm) : Option (Charm × Bool) :=
  if !h.leader then some (c, h.containerReady && h.secretsAccessible && c.authFile.isSome)
  else if !h.pgbRunning then some (c, false)
  else
    match c.authUser with
    | none => some (c, false)
    | some authUser =>
      if !h.connected || !h.databaseRequested then some (c, false)
      else createUsers h c authUser

/-- What `_on_pgbouncer_pebble_ready` of the upgrade meets; `rehashed k` is the
    answer to the `k`-th hash of the migration. -/
structure UpgradeHook where
  leader : Bool
  workloadPlanned : Bool
  upgrading : Bool
  serviceOk : Bool
  connected : Bool
  newAdminPassword : String
  hashedAdmin : Except Failure Plain
  rehashed : ℕ → Except Failure Plain

/-- `_generate_admin_console_user` (`upgrade.py`, lines 95–111); `none` where it
    raises. Python writes a missing file as `None`. -/
def generateAdminConsoleUser (h : UpgradeHook) (c : Charm) : Option Charm :=
  if (c.passwords .admin).isSome then some c
  else
    match c.generateSystemUser .admin h.newAdminPassword
      (c.generateScramHash h.connected h.hashedAdmin) with
    | none => none
    | some (c, none) => some c
    | some (c, some hashedPassword) =>
      some (c.setAuthFile
        (c.authFile.getD "None" ++ "\n" ++ Entry.line ⟨c.ownUser .admin, hashedPassword⟩))

/-- The loop of `_handle_md5_monitoring_auth` (`upgrade.py`, lines 121–137);
    `k` counts the hashes. -/
def rehash (statsUser : Plain) (answer : ℕ → Except Failure Plain) :
    ℕ → List String → Except Failure (List String)
  | _, [] => .ok []
  | k, line :: lines =>
    if Text.startswith line (monitoringPrefix statsUser) then do
      let hash ← answer k
      let newAuth ← rehash statsUser answer (k + 1) lines
      return Entry.line ⟨statsUser, hash⟩ :: newAuth
    else do
      let newAuth ← rehash statsUser answer k lines
      return line :: newAuth

/-- `_handle_md5_monitoring_auth` (`upgrade.py`, lines 112–141); `none` where it
    raises. -/
def handleMd5MonitoringAuth (h : UpgradeHook) (c : Charm) : Option Charm :=
  match h.leader, c.authFile with
  | true, some authFile =>
    match rehash (c.ownUser .stats) (fun k => c.generateScramHash h.connected (h.rehashed k)) 0
      (Text.split '\n' authFile) with
    | .error .psycopg2Error => some c
    | .error .other => none
    | .ok newAuth =>
      let newAuthFile := Text.join '\n' newAuth
      if newAuthFile ≠ authFile then some (c.setAuthFile newAuthFile) else some c
  | _, _ => some c

/-- `_on_pgbouncer_pebble_ready` (`upgrade.py`, lines 143–173): the secrets it
    leaves; `none` where it raises. -/
def onUpgradePebbleReady (h : UpgradeHook) (c : Charm) : Option Charm :=
  if !h.workloadPlanned || !h.upgrading then some c
  else if h.leader then
    if !h.serviceOk then none
    else (generateAdminConsoleUser h c).bind (handleMd5MonitoringAuth h)
  else handleMd5MonitoringAuth h c

/-- `_on_relation_broken` (`backend_database.py`, lines 457–480): the secrets it
    leaves. -/
def onRelationBroken (leader departing : Bool) (c : Charm) : Charm :=
  if departing then c else if leader then { c with authFile := none } else c

/-! ## The machine -/

/-- `relate`, `grant` and `remove` are the steps of the backend relation: it is
    created, PostgreSQL writes the user name, it goes away. `broken` may run
    late, on any unit. -/
inductive Action
  | relate
  | grant (username : Plain)
  | remove
  | broken (leader departing : Bool)
  | created (h : CreatedHook)
  | upgrade (h : UpgradeHook)

def step (c : Charm) : Action → Option Charm
  | .relate => if c.relation.isSome then none else some { c with relation := some none }
  | .grant username =>
    if c.relation = some none then some { c with relation := some (some username) } else none
  | .remove => if c.relation.isSome then some { c with relation := none } else none
  | .broken leader departing => some (onRelationBroken leader departing c)
  | .created h => (onDatabaseCreated h c).map Prod.fst
  | .upgrade h => onUpgradePebbleReady h c

/-- The file of an older revision: the auth user and the stats user. -/
def OlderFile (c : Charm) : Prop :=
  ∃ authUser hash statsHash, c.authUser = some authUser ∧ c.authFile = some
    (Entry.line ⟨authUser, hash⟩ ++ "\n" ++ Entry.line ⟨systemUser .stats c.appName, statsHash⟩)

/-- Runs start empty or from an older revision. -/
def machine : Machine Charm Action where
  init c := c.passwords .admin = none ∧
    (c.relation = none ∧ c.authFile = none ∧ c.passwords .monitoring = none ∨ OlderFile c)
  step := step

/-- The secret is absent or well formed. -/
def Charm.AuthFileWellFormed (c : Charm) : Prop :=
  ∀ content, c.authFile = some content →
    WellFormed c.authUser (systemUser .stats c.appName) content

/-- The upgrade gets to append the line of the console user. -/
def AppendsAdmin (h : UpgradeHook) (c : Charm) : Prop :=
  h.workloadPlanned = true ∧ h.upgrading = true ∧ h.leader = true ∧ h.serviceOk = true ∧
    c.passwords .admin = none ∧
    (c.generateScramHash h.connected h.hashedAdmin).isOk = true

instance (h : UpgradeHook) (c : Charm) : Decidable (AppendsAdmin h c) :=
  inferInstanceAs (Decidable (_ ∧ _ ∧ _ ∧ _ ∧ _ ∧ _))

/-- There is a file to append to, and no file of another backend user is left
    when PostgreSQL writes the user name. -/
def Orderly (c : Charm) : Action → Prop
  | .grant username =>
    (c.authFile.all fun content => lineCount (systemUser .auth username) content = 1) = true
  | .upgrade h => AppendsAdmin h c → c.authFile ≠ none
  | _ => True

instance (c : Charm) : (a : Action) → Decidable (Orderly c a)
  | .relate => .isTrue trivial
  | .grant _ => inferInstanceAs (Decidable (_ = _))
  | .remove => .isTrue trivial
  | .broken _ _ => .isTrue trivial
  | .created _ => .isTrue trivial
  | .upgrade _ => inferInstanceAs (Decidable (_ → _))

/-! ## What the handlers write -/

variable {c c' : Charm} {content : String}

/-- The relation and the file are the same. -/
structure SameFile (c c' : Charm) : Prop where
  appName : c'.appName = c.appName
  relation : c'.relation = c.relation
  authFile : c'.authFile = c.authFile

/-- The relation is the same and the file is `content`. -/
structure Writes (c c' : Charm) (content : String) : Prop where
  appName : c'.appName = c.appName
  relation : c'.relation = c.relation
  authFile : ∀ text, c'.authFile = some text → text = content

theorem SameFile.refl (c : Charm) : SameFile c c := ⟨rfl, rfl, rfl⟩

theorem SameFile.trans {c'' : Charm} (h : SameFile c c') (h' : SameFile c' c'') :
    SameFile c c'' :=
  ⟨h'.appName.trans h.appName, h'.relation.trans h.relation, h'.authFile.trans h.authFile⟩

theorem SameFile.writes {c'' : Charm} (h : SameFile c c') (h' : Writes c' c'' content) :
    Writes c c'' content :=
  ⟨h'.appName.trans h.appName, h'.relation.trans h.relation, h'.authFile⟩

theorem writes_setAuthFile (c : Charm) (content : String) :
    Writes c (c.setAuthFile content) content := by
  refine ⟨rfl, rfl, fun text ht => ?_⟩
  unfold Charm.setAuthFile at ht
  split_ifs at ht
  simpa [eq_comm] using ht

theorem Charm.AuthFileWellFormed.same (hc : c.AuthFileWellFormed) (h : SameFile c c') :
    c'.AuthFileWellFormed := by
  intro content hcontent
  rw [Charm.authUser, h.relation, h.appName]
  exact hc content (by rw [← h.authFile, hcontent])

theorem Charm.AuthFileWellFormed.writes (h : Writes c c' content)
    (hw : WellFormed c.authUser (systemUser .stats c.appName) content) :
    c'.AuthFileWellFormed := by
  intro text htext
  rw [h.authFile text htext, Charm.authUser, h.relation, h.appName]
  exact hw

theorem generateSystemUser_same {key : PasswordKey} {password : String}
    {answer : Except Failure Plain} {r : Option Plain}
    (h : c.generateSystemUser key password answer = some (c', r)) :
    SameFile c c' ∧ ∀ hash, r = some hash → answer = .ok hash := by
  unfold Charm.generateSystemUser at h
  rcases answer with (_ | _) | hash
  · cases h
    exact ⟨.refl _, fun _ hr => by cases hr⟩
  · cases h
  · cases h
    exact ⟨⟨rfl, rfl, rfl⟩, fun _ hr => by rw [Option.some_inj.mp hr]⟩

/-- A hash is generated with a complete backend relation only. -/
theorem relation_of_hash {connected : Bool} {answer : Except Failure Plain} {hash : Plain}
    (h : c.generateScramHash connected answer = .ok hash) : c.relation.isNone = false := by
  unfold Charm.generateScramHash at h
  split_ifs at h with hc
  cases hr : c.relation with
  | none => simp [hr] at hc
  | some _ => rfl

theorem ownUser_of_relation (h : c.relation.isNone = false) (r : Role) :
    c.ownUser r = systemUser r c.appName := by
  rw [Charm.ownUser, if_neg (by simp [h])]

theorem authFile_setAuthFile (c : Charm) {value : String} (h : value ≠ "") :
    (c.setAuthFile value).authFile = some value := by
  rw [Charm.setAuthFile, if_neg h]

/-- `createUsers` writes nothing or the lines of the three users. -/
theorem createUsers_spec {h : CreatedHook} {authUser : Plain} {b : Bool}
    (hc : createUsers h c authUser = some (c', b)) :
    SameFile c c' ∧ b = false ∨ ∃ a s d : Entry, a.user = authUser ∧
      s.user = systemUser .stats c.appName ∧ d.user = systemUser .admin c.appName ∧
      Writes c c' (a.line ++ "\n" ++ s.line ++ "\n" ++ d.line) ∧ c'.authFile ≠ none := by
  unfold createUsers at hc
  rcases hm : h.generate c .monitoring with _ | ⟨c₁, _ | hashedMonitoring⟩
  · simp [hm] at hc
  · simp only [hm, Option.some_inj, Prod.mk.injEq] at hc
    exact .inl ⟨hc.1 ▸ (generateSystemUser_same hm).1, hc.2.symm⟩
  obtain ⟨h₁, hash₁⟩ := generateSystemUser_same hm
  simp only [hm] at hc
  rcases ha : h.generate c₁ .admin with _ | ⟨c₂, _ | hashedAdmin⟩
  · simp [ha] at hc
  · simp only [ha, Option.some_inj, Prod.mk.injEq] at hc
    exact .inl ⟨hc.1 ▸ h₁.trans (generateSystemUser_same ha).1, hc.2.symm⟩
  have h₂ := h₁.trans (generateSystemUser_same ha).1
  have hrel : c₂.relation.isNone = false := by
    rw [h₂.relation]
    exact relation_of_hash (hash₁ _ rfl)
  simp only [ha] at hc
  split_ifs at hc
  · simp only [Option.some_inj, Prod.mk.injEq] at hc
    exact .inl ⟨hc.1 ▸ h₂, hc.2.symm⟩
  · simp only [Option.some_inj, Prod.mk.injEq] at hc
    refine .inr ⟨⟨authUser, h.hashedPassword⟩, ⟨c₂.ownUser .stats, hashedMonitoring⟩,
      ⟨c₂.ownUser .admin, hashedAdmin⟩, rfl, ?_, ?_, ?_, ?_⟩
    · rw [ownUser_of_relation hrel, h₂.appName]
    · rw [ownUser_of_relation hrel, h₂.appName]
    · rw [← hc.1]
      exact h₂.writes (writes_setAuthFile c₂ _)
    · rw [← hc.1, authFile_setAuthFile]
      · exact Option.some_ne_none _
      · intro he
        have hl := congrArg String.length he
        simp [String.length_append] at hl

/-- `_on_database_created` leaves the file alone or writes the lines of the
    three users; where it goes on to render, there is a file. -/
theorem created_spec {h : CreatedHook} {b : Bool} (hc : onDatabaseCreated h c = some (c', b)) :
    SameFile c c' ∧ (b = true → c'.authFile ≠ none) ∨
      ∃ a s d : Entry, c.authUser = some a.user ∧
        s.user = systemUser .stats c.appName ∧ d.user = systemUser .admin c.appName ∧
        Writes c c' (a.line ++ "\n" ++ s.line ++ "\n" ++ d.line) ∧ c'.authFile ≠ none := by
  have hsame : ∀ {b' : Bool}, (b' = true → c.authFile ≠ none) → some (c, b') = some (c', b) →
      SameFile c c' ∧ (b = true → c'.authFile ≠ none) := by
    intro b' hb he
    cases he
    exact ⟨.refl c, hb⟩
  have hleft : ¬ (false = true) := by decide
  unfold onDatabaseCreated at hc
  by_cases hl : h.leader = true
  swap
  · rw [if_pos (by simp [eq_false_of_ne_true hl])] at hc
    refine .inl (hsame (fun hb => ?_) hc)
    simp only [Bool.and_eq_true] at hb
    exact Option.isSome_iff_ne_none.mp hb.2
  rw [if_neg (by simp [hl])] at hc
  cases ha : c.authUser with
  | none =>
    simp only [ha] at hc
    split_ifs at hc <;> exact .inl (hsame (fun hb => absurd hb hleft) hc)
  | some authUser =>
    simp only [ha] at hc
    split_ifs at hc
    · exact .inl (hsame (fun hb => absurd hb hleft) hc)
    · exact .inl (hsame (fun hb => absurd hb hleft) hc)
    · rcases createUsers_spec hc with ⟨h', rfl⟩ | ⟨a, s, d, rfl, h'⟩
      · exact .inl ⟨h', fun hb => absurd hb hleft⟩
      · exact .inr ⟨a, s, d, rfl, h'⟩

/-- A sequence that succeeds succeeds step by step. -/
theorem bind_eq_ok {ε α β : Type} {x : Except ε α} {f : α → Except ε β} {y : β}
    (h : x >>= f = .ok y) : ∃ a, x = .ok a ∧ f a = .ok y := by
  cases x with
  | error e => cases h
  | ok a => exact ⟨a, rfl, h⟩

/-- The migration replaces hashes of the stats user only. -/
theorem rehash_forall₂ {statsUser : Plain} {answer : ℕ → Except Failure Plain} {k : ℕ}
    {lines lines' : List String} (hl : ∀ line ∈ lines, ∃ e : Entry, line = e.line)
    (h : rehash statsUser answer k lines = .ok lines') : List.Forall₂ Rehashed lines lines' := by
  induction lines generalizing k lines' with
  | nil =>
    cases h
    exact .nil
  | cons line lines ih =>
    rw [List.forall_mem_cons] at hl
    obtain ⟨⟨e, rfl⟩, hl⟩ := hl
    unfold rehash at h
    split_ifs at h with hp
    · obtain ⟨hash, -, h⟩ := bind_eq_ok h
      obtain ⟨newAuth, hr, h⟩ := bind_eq_ok h
      cases h
      exact .cons (.inr ⟨e, _, rfl, rfl, (user_of_startswith hp).symm⟩) (ih hl hr)
    · obtain ⟨newAuth, hr, h⟩ := bind_eq_ok h
      cases h
      exact .cons (.inl rfl) (ih hl hr)

/-- The console user's line is appended to the file that is there. -/
theorem generateAdminConsoleUser_spec {h : UpgradeHook}
    (hc : generateAdminConsoleUser h c = some c') :
    SameFile c c' ∨ c.passwords .admin = none ∧
      (c.generateScramHash h.connected h.hashedAdmin).isOk = true ∧ ∃ e : Entry,
        e.user = systemUser .admin c.appName ∧
          Writes c c' (c.authFile.getD "None" ++ "\n" ++ e.line) := by
  unfold generateAdminConsoleUser at hc
  split_ifs at hc with hp
  · cases hc
    exact .inl (.refl c)
  rcases hg : c.generateSystemUser .admin h.newAdminPassword
    (c.generateScramHash h.connected h.hashedAdmin) with _ | ⟨c₁, _ | hash⟩
  · simp [hg] at hc
  · obtain rfl : c₁ = c' := by simpa [hg] using hc
    exact .inl (generateSystemUser_same hg).1
  · obtain ⟨h₁, hash₁⟩ := generateSystemUser_same hg
    have hok := hash₁ hash rfl
    have hrel : c₁.relation.isNone = false := by
      rw [h₁.relation]
      exact relation_of_hash hok
    simp only [hg, Option.some_inj] at hc
    refine .inr ⟨by simpa using hp, by rw [hok]; rfl, ⟨c₁.ownUser .admin, hash⟩, ?_, ?_⟩
    · rw [ownUser_of_relation hrel, h₁.appName]
    · rw [← hc, ← h₁.authFile]
      exact h₁.writes (writes_setAuthFile c₁ _)

/-- The migration keeps the file or replaces it by the migrated lines. -/
theorem handleMd5MonitoringAuth_cases {h : UpgradeHook}
    (hc : handleMd5MonitoringAuth h c = some c') :
    c' = c ∨ ∃ authFile newAuth, c.authFile = some authFile ∧
      rehash (c.ownUser .stats) (fun k => c.generateScramHash h.connected (h.rehashed k)) 0
        (Text.split '\n' authFile) = .ok newAuth ∧
      c' = c.setAuthFile (Text.join '\n' newAuth) := by
  unfold handleMd5MonitoringAuth at hc
  split at hc
  next authFile _ hfile =>
    split at hc
    · cases hc
      exact .inl rfl
    · cases hc
    next newAuth hr =>
      simp only at hc
      split_ifs at hc
      · cases hc
        exact .inr ⟨authFile, newAuth, hfile, hr, rfl⟩
      · cases hc
        exact .inl rfl
  · cases hc
    exact .inl rfl

theorem upgrade_appName {h : UpgradeHook} (hc : onUpgradePebbleReady h c = some c') :
    c'.appName = c.appName := by
  have hmd5 : ∀ {c c' : Charm}, handleMd5MonitoringAuth h c = some c' →
      c'.appName = c.appName := by
    intro c c' hc
    rcases handleMd5MonitoringAuth_cases hc with rfl | ⟨_, _, -, -, rfl⟩ <;> rfl
  unfold onUpgradePebbleReady at hc
  split_ifs at hc
  · cases hc
    rfl
  · obtain ⟨c₁, h₁, h₂⟩ := Option.bind_eq_some_iff.mp hc
    rw [hmd5 h₂]
    rcases generateAdminConsoleUser_spec h₁ with hs | ⟨-, -, _, -, hwr⟩
    · exact hs.appName
    · exact hwr.appName
  · exact hmd5 hc

/-! ## Every state -/

theorem wellFormed_handleMd5 {h : UpgradeHook} (hw : c.AuthFileWellFormed)
    (hc : handleMd5MonitoringAuth h c = some c') : c'.AuthFileWellFormed := by
  rcases handleMd5MonitoringAuth_cases hc with rfl | ⟨authFile, newAuth, hfile, hr, rfl⟩
  · exact hw
  · have hold := hw authFile hfile
    exact .writes (writes_setAuthFile c _) (hold.rehash (rehash_forall₂ hold.shape hr))

theorem auth_ne_stats {u : Plain} (hu : c.authUser = some u) :
    u ≠ systemUser .stats c.appName := by
  obtain ⟨name, -, rfl⟩ := Option.map_eq_some_iff.mp hu
  exact fun h => by cases systemUser_injective h

/-- The console user is neither of the users the file is about. -/
theorem admin_ne (c : Charm) {e : Entry} (he : e.user = systemUser .admin c.appName) :
    (∀ u, c.authUser = some u → e.user ≠ u) ∧ e.user ≠ systemUser .stats c.appName := by
  constructor
  · intro u hu
    obtain ⟨name, -, rfl⟩ := Option.map_eq_some_iff.mp hu
    rw [he]
    exact fun hn => by cases systemUser_injective hn
  · rw [he]
    exact fun hn => by cases systemUser_injective hn

theorem wellFormed_generateAdmin {h : UpgradeHook} (hw : c.AuthFileWellFormed)
    (hfile : c.passwords .admin = none →
      (c.generateScramHash h.connected h.hashedAdmin).isOk = true → c.authFile ≠ none)
    (hc : generateAdminConsoleUser h c = some c') : c'.AuthFileWellFormed := by
  rcases generateAdminConsoleUser_spec hc with hs | ⟨hp, hok, e, he, hwr⟩
  · exact hw.same hs
  · obtain ⟨content, hcontent⟩ := Option.ne_none_iff_exists'.mp (hfile hp hok)
    obtain ⟨hauth, hstats⟩ := admin_ne c he
    rw [hcontent] at hwr
    exact .writes hwr ((hw content hcontent).append hauth hstats)

theorem wellFormed_upgrade {h : UpgradeHook} (hw : c.AuthFileWellFormed)
    (hg : AppendsAdmin h c → c.authFile ≠ none) (hc : onUpgradePebbleReady h c = some c') :
    c'.AuthFileWellFormed := by
  unfold onUpgradePebbleReady at hc
  by_cases hrun : (!h.workloadPlanned || !h.upgrading) = true
  · rw [if_pos hrun] at hc
    cases hc
    exact hw
  rw [if_neg hrun] at hc
  obtain ⟨hplanned, hupgrading⟩ : h.workloadPlanned = true ∧ h.upgrading = true := by
    simpa using hrun
  by_cases hlead : h.leader = true
  swap
  · rw [if_neg hlead] at hc
    exact wellFormed_handleMd5 hw hc
  rw [if_pos hlead] at hc
  by_cases hok : h.serviceOk = true
  swap
  · simp [eq_false_of_ne_true hok] at hc
  rw [if_neg (by simp [hok]), Option.bind_eq_some_iff] at hc
  obtain ⟨c₁, h₁, h₂⟩ := hc
  exact wellFormed_handleMd5 (wellFormed_generateAdmin hw
    (fun hp hh => hg ⟨hplanned, hupgrading, hlead, hok, hp, hh⟩) h₁) h₂

/-- The file of `_on_database_created`. -/
theorem wellFormed_three (c : Charm) {a s d : Entry} (ha : c.authUser = some a.user)
    (hs : s.user = systemUser .stats c.appName) (hd : d.user = systemUser .admin c.appName) :
    WellFormed c.authUser (systemUser .stats c.appName)
      (a.line ++ "\n" ++ s.line ++ "\n" ++ d.line) := by
  have hne := auth_ne_stats ha
  obtain ⟨hauth, hstats⟩ := admin_ne c hd
  refine (wellFormed_pair ?_ hs hne).append hauth hstats
  intro u hu
  obtain rfl : a.user = u := by simpa [ha] using hu
  exact ⟨rfl, by rwa [hs, ne_comm]⟩

theorem wellFormed_step {a : Action} (hw : c.AuthFileWellFormed) (hg : Orderly c a)
    (ha : step c a = some c') : c'.AuthFileWellFormed := by
  cases a with
  | relate =>
    simp only [step] at ha
    split_ifs at ha with hr
    cases ha
    intro content hcontent
    obtain ⟨hshape, -, hstats⟩ := hw content hcontent
    exact ⟨hshape, fun u hu => (by cases hu), hstats⟩
  | grant username =>
    simp only [step] at ha
    split_ifs at ha with hr
    cases ha
    intro content hcontent
    obtain ⟨hshape, -, hstats⟩ := hw content hcontent
    refine ⟨hshape, fun u hu => ?_, hstats⟩
    cases hu
    have hcontent : c.authFile = some content := hcontent
    simpa [Orderly, hcontent] using hg
  | remove =>
    simp only [step] at ha
    split_ifs at ha with hr
    cases ha
    intro content hcontent
    obtain ⟨hshape, -, hstats⟩ := hw content hcontent
    exact ⟨hshape, fun u hu => (by cases hu), hstats⟩
  | broken leader departing =>
    cases ha
    unfold onRelationBroken
    split_ifs
    · exact hw
    · exact fun content hcontent => by cases hcontent
    · exact hw
  | created h =>
    simp only [step, Option.map_eq_some_iff] at ha
    obtain ⟨⟨c₁, b⟩, hc, rfl⟩ := ha
    rcases created_spec hc with ⟨hs, -⟩ | ⟨a, s, d, hau, hst, had, hwr, -⟩
    · exact hw.same hs
    · exact .writes hwr (wellFormed_three c hau hst had)
  | upgrade h => exact wellFormed_upgrade hw hg ha

theorem wellFormed_init (hc : machine.init c) : c.AuthFileWellFormed := by
  rcases hc with ⟨-, ⟨-, hnone, -⟩ | ⟨authUser, hash, statsHash, hauth, hfile⟩⟩
  · intro content hcontent
    rw [hnone] at hcontent
    cases hcontent
  · intro content hcontent
    obtain rfl := Option.some_inj.mp (hfile.symm.trans hcontent)
    have hne := auth_ne_stats hauth
    refine wellFormed_pair ?_ rfl hne
    intro u hu
    obtain rfl : authUser = u := by simpa [hauth] using hu
    exact ⟨rfl, hne.symm⟩

/-- In orderly runs the secret is absent or well formed in every state. -/
theorem wellFormed_of_reach (hc : machine.Reach Orderly c) : c.AuthFileWellFormed :=
  hc.invariant (fun _ => wellFormed_init) fun _ _ _ _ hw hg ha => wellFormed_step hw hg ha

/-! ## Two runs -/

/-- An application without a backend. -/
def sampleCharm : Charm := ⟨⟨"pgb-k8s", by decide⟩, none, none, fun _ => none⟩

/-- The text of a SCRAM verifier. -/
def sampleHash : Plain := ⟨"SCRAM-SHA-256$1", by decide⟩

/-- The upgrade hook of the leader, in which nothing fails. -/
def sampleUpgrade : UpgradeHook :=
  ⟨true, true, true, true, true, "secret", .ok sampleHash, fun _ => .ok sampleHash⟩

/-- The leader is upgraded after the backend has been related and before
    `database-created` has been handled. -/
theorem admin_line_on_none :
    ∃ c, machine.Reach Machine.always c ∧
      c.authFile =
        some "None\n\"pgbouncer_admin_pgb_k8s\" \"SCRAM-SHA-256$1\"" ∧
      ¬ c.AuthFileWellFormed := by
  obtain ⟨c, hc, hp⟩ := Machine.exists_reach_of_exec machine Machine.always sampleCharm
    [.relate, .grant ⟨"rel_1", by decide⟩, .upgrade sampleUpgrade]
    (fun c => decide (c.authFile =
        some "None\n\"pgbouncer_admin_pgb_k8s\" \"SCRAM-SHA-256$1\"") &&
      c.authFile.all fun content => lineCount (systemUser .stats c.appName) content == 0)
    ⟨rfl, .inl ⟨rfl, rfl, rfl⟩⟩ (by decide)
  rw [Bool.and_eq_true, decide_eq_true_eq] at hp
  obtain ⟨hfile, hcount⟩ := hp
  refine ⟨c, hc, hfile, fun hw => ?_⟩
  have hone := (hw _ hfile).stats
  simp only [hfile, Option.all_some, beq_iff_eq] at hcount
  omega

/-- The file of an older revision, with an MD5 hash of the stats user. -/
def olderCharm : Charm :=
  let authUser := systemUser .auth ⟨"rel_1", by decide⟩
  let statsUser := systemUser .stats sampleCharm.appName
  { sampleCharm with
    relation := some (some ⟨"rel_1", by decide⟩)
    authFile := some (Entry.line ⟨authUser, ⟨"md50", by decide⟩⟩ ++ "\n" ++
      Entry.line ⟨statsUser, ⟨"md51", by decide⟩⟩) }

/-- It is upgraded on the leader: the console user gets a password and a line. -/
theorem upgraded_file :
    ∃ c content, machine.Reach Orderly c ∧ c.authFile = some content ∧
      c.passwords .admin = some "secret" ∧ c.AuthFileWellFormed := by
  obtain ⟨c, hc, hp⟩ := Machine.exists_reach_of_exec machine Orderly olderCharm
    [.upgrade sampleUpgrade] (fun c => c.authFile.isSome && c.passwords .admin == some "secret")
    ⟨rfl, .inr ⟨_, _, _, rfl, rfl⟩⟩ (by decide +kernel)
  rw [Bool.and_eq_true, beq_iff_eq, Option.isSome_iff_exists] at hp
  obtain ⟨⟨content, hfile⟩, hpw⟩ := hp
  exact ⟨c, content, hc, hfile, hpw, wellFormed_of_reach hc⟩

end PgBouncerK8s.Auth
