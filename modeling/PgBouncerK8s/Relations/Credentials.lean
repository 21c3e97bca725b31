import PgBouncerK8s.Relations.Setup

/-!
# Published credentials and the backend

The legacy handler publishes before it talks to PostgreSQL, and it decides from
the own databag of the unit whether a password exists. Both can leave
credentials in a databag that the backend does not accept: an error of a create
call, and a password that a later leader draws anew. A client's credentials are
published after both calls have returned; only version 14 can break them, where
the role of a published relation is reset before the creation of the database
fails.

* `credentialsWork_of_reach`: all credentials in the databags of PgBouncer's
  side work in every run whose steps avoid these cases.
* `published_without_database`: a run in which they do not.
-/

namespace PgBouncerK8s

open Text (str)

/-! ## The create calls -/

section Provision

variable (b : Backend) (h : Hook) (user password database : String)

theorem Backend.provision_roles :
    (b.provision h user password database).1.roles = b.roles ∨
      (b.provision h user password database).1.roles =
        Function.update b.roles user (some password) := by
  unfold provision
  split_ifs
  all_goals first
    | exact .inl rfl
    | exact .inr rfl

theorem Backend.mem_databases_createDatabase (d : String) :
    d ∈ (b.createDatabase database).databases ↔ d ∈ b.databases ∨ d = database := by
  unfold createDatabase
  by_cases hm : database ∈ b.databases
  · simp only [if_pos hm]
    refine ⟨.inl, ?_⟩
    rintro (hd | rfl)
    · exact hd
    · exact hm
  · simp only [if_neg hm, List.mem_append, List.mem_singleton]

/-- No call drops a database. -/
theorem Backend.provision_databases {d : String} (hd : d ∈ b.databases) :
    d ∈ (b.provision h user password database).1.databases := by
  have hcreate : d ∈ (b.createDatabase database).databases :=
    (mem_databases_createDatabase b database d).mpr (.inl hd)
  unfold provision
  split_ifs
  all_goals first
    | exact hd
    | exact hcreate

/-- The inputs on which the two calls leave the role with its password and the
    database in place: both return, or version 14 has set the role before the
    creation of a database that exists fails. -/
def Backend.Creates : Prop :=
  h.createUserOk = true ∧
    (h.createDatabaseOk = true ∨ h.postgresV0 = true ∧ database ∈ b.databases)

/-- The backend has the role with that password, and the database. -/
def Backend.Works (c : String × String × String) : Prop :=
  b.roles c.1 = some c.2.1 ∧ c.2.2 ∈ b.databases

theorem Backend.works_of_creates (hc : b.Creates h database) :
    (b.provision h user password database).1.Works (user, password, database) := by
  obtain ⟨hu, hd | ⟨hv, hd⟩⟩ := hc
  · unfold provision
    cases hv : h.postgresV0
    · refine ⟨?_, ?_⟩
      · simp [hu, hd, createUser]
      · simpa [hu, hd, createUser] using
          (mem_databases_createDatabase b database database).mpr (.inr rfl)
    · refine ⟨?_, ?_⟩
      · simp [hu, hd, createUser, createDatabase]
      · simpa [hu, hd] using
          (mem_databases_createDatabase (b.createUser user password) database database).mpr
            (.inr rfl)
  · refine ⟨?_, provision_databases b h user password database hd⟩
    unfold provision
    cases hd' : h.createDatabaseOk <;> simp [hu, hv, createUser, createDatabase]

theorem Backend.creates_of_ok (hok : (b.provision h user password database).2 = true) :
    b.Creates h database := by
  unfold provision at hok
  unfold Creates
  split_ifs at hok <;> simp_all

end Provision

namespace Setup

variable {lower : String → String} {h : Hook} {s s' : App} {rid : RelId} {r r' r'' : Relation}
  {user password database : String}

/-! ## User names -/

theorem generateUsername_toList (s : App) (rid : RelId) :
    (s.generateUsername rid).toList =
      (s.name ++ "_user_").toList.map (fun c => if c = '-' then '_' else c) ++
        ((str rid).toList ++ ("_" ++ s.model).toList.map fun c => if c = '-' then '_' else c) := by
  have hdigits : (str rid).toList.map (fun c => if c = '-' then '_' else c) =
      (str rid).toList := by
    refine (List.map_congr_left fun c hc => ?_).trans (List.map_id _)
    have hd := Text.isDigit_of_mem_str hc
    rw [if_neg, id]
    rintro rfl
    simp at hd
  rw [App.generateUsername, Text.replace, String.toList_ofList]
  simp only [String.toList_append, List.map_append, hdigits, List.append_assoc]

theorem generateUsername_injective (s : App) : Function.Injective s.generateUsername := by
  intro x y h
  have hl := congrArg String.toList h
  rw [generateUsername_toList, generateUsername_toList] at hl
  have hdigits := List.append_cancel_right (List.append_cancel_left hl)
  exact Text.str_injective (String.toList_injective hdigits)

theorem relationUser_injective : Function.Injective PgBouncerProvider.relationUser := by
  intro x y h
  have hl := congrArg String.toList h
  simp only [PgBouncerProvider.relationUser, String.toList_append] at hl
  exact Text.str_injective (String.toList_injective (List.append_cancel_left hl))

/-- The names of the two kinds differ: only one has a `u`. -/
theorem generateUsername_ne_relationUser (s : App) (x y : RelId) :
    s.generateUsername x ≠ PgBouncerProvider.relationUser y := by
  intro h
  have hu : 'u' ∈ (s.generateUsername x).toList := by
    rw [generateUsername_toList]
    simp
  rw [h, PgBouncerProvider.relationUser, String.toList_append, List.mem_append] at hu
  rcases hu with hu | hu
  · simp at hu
  · have hd := Text.isDigit_of_mem_str hu
    simp at hd

/-- Each relation has its own user. -/
theorem owner_ne_owner {x y : RelId} (hxy : x ≠ y) (ep ep' : Endpoint) :
    owner (s.generateUsername x) x ep ≠ owner (s.generateUsername y) y ep' := by
  unfold owner
  split_ifs
  · exact fun h => hxy (generateUsername_injective s h)
  · exact generateUsername_ne_relationUser s x y
  · exact (generateUsername_ne_relationUser s y x).symm
  · exact fun h => hxy (relationUser_injective h)

/-! ## The property -/

/-- All complete credentials on PgBouncer's side of the relation work. -/
def RelationWorks (b : Backend) (r : Relation) : Prop :=
  (∀ c, r.app.credentials r.endpoint = some c → b.Works c) ∧
    ∀ u c, (r.unit u).credentials r.endpoint = some c → b.Works c

/-- All complete credentials on PgBouncer's side of all live relations work. -/
def CredentialsWork (s : App) : Prop :=
  ∀ rid r, s.relations.get? rid = some r → RelationWorks s.backend r

/-! ## The condition -/

/-- The steps that keep credentials working. A join that publishes does so on
    the unit that already holds the password, or is the first to publish and
    has its create calls succeed. A request that reaches the create calls does
    not reset the role of a published relation and then fail. -/
def SafeCreation (lower : String → String) (s : App) : Action → Prop
  | .joined h rid => ∀ r database, s.relations.get? rid = some r →
      Publishes lower h s rid r database →
      (r.unit h.unit).contains "password" = true ∨
        (∀ v, (r.unit v).contains "password" = false) ∧ s.backend.Creates h database
  | .requested h rid => ∀ r, s.relations.get? rid = some r → h.unit = s.leader →
      r.published = true → h.postgresV0 = true → h.createUserOk = true →
      h.createDatabaseOk = true
  | _ => True

/-! ## What credentials are -/

theorem credentials_eq_some {ep : Endpoint} {b : Databag} {c : String × String × String} :
    b.credentials ep = some c ↔
      b.get ep.userKey = some c.1 ∧ b.get "password" = some c.2.1 ∧
        b.get "database" = some c.2.2 := by
  obtain ⟨c1, c2, c3⟩ := c
  unfold Databag.credentials
  cases b.get ep.userKey <;> cases b.get "password" <;> cases b.get "database" <;> simp

theorem Kept.app_owner (hk : Kept user rid r) {c : String × String × String}
    (hc : r.app.credentials r.endpoint = some c) : c.1 = owner user rid r.endpoint :=
  hk.app_user _ (credentials_eq_some.mp hc).1

theorem Kept.unit_owner (hk : Kept user rid r) {u : UnitId} {c : String × String × String}
    (hc : (r.unit u).credentials r.endpoint = some c) : c.1 = owner user rid r.endpoint :=
  hk.unit_user u _ (credentials_eq_some.mp hc).1

/-- A databag of a legacy relation with a password has complete credentials, for
    the relation's own user and the database the client asked for. -/
theorem Kept.unit_credentials (hk : Kept user rid r) {u : UnitId}
    (hp : (r.unit u).get "password" = some password)
    (hdb : r.remote.get "database" = some database) :
    (r.unit u).credentials r.endpoint = some (owner user rid r.endpoint, password, database) := by
  obtain ⟨h1, h2, -⟩ := hk.unit_together u (by simp [Databag.contains, hp])
  obtain ⟨x, hx⟩ := Option.isSome_iff_exists.mp h1
  obtain ⟨d, hd⟩ := Option.isSome_iff_exists.mp h2
  have hd' := hk.unit_database u d hd
  rw [hdb, Option.some_inj] at hd'
  rw [credentials_eq_some]
  exact ⟨by rw [hx, hk.unit_user u x hx], hp, by rw [hd, hd']⟩

theorem credentials_copies (hc : DbProvides.CopiesExtensions r r') (u : UnitId) :
    (r'.unit u).credentials r'.endpoint = (r.unit u).credentials r.endpoint := by
  unfold Databag.credentials
  rw [hc.endpoint, hc.unit u _ (userKey_ne_extensions _), hc.unit u "password" (by decide),
    hc.unit u "database" (by decide)]

theorem app_credentials_copies (hc : DbProvides.CopiesExtensions r r') :
    r'.app.credentials r'.endpoint = r.app.credentials r.endpoint := by
  unfold Databag.credentials
  rw [hc.endpoint, hc.app _ (userKey_ne_extensions _), hc.app "password" (by decide),
    hc.app "database" (by decide)]

theorem RelationWorks.copies {b : Backend} (hw : RelationWorks b r)
    (hc : DbProvides.CopiesExtensions r r') : RelationWorks b r' := by
  refine ⟨fun c h => hw.1 c ?_, fun u c h => hw.2 u c ?_⟩
  · rwa [app_credentials_copies hc] at h
  · rwa [credentials_copies hc] at h

/-- Published credentials read back as what was published. -/
theorem credentials_update (rid : RelId) (ep : Endpoint) (b : Databag) (hu : user ≠ "")
    (hpw : password ≠ "")
    (hdb : database ≠ "") :
    (b.update (credentialUpdates user password database rid ep)).credentials ep =
      some (owner user rid ep, password, database) := by
  have hget := get_credentialUpdates rid b hu hpw hdb ep
  rw [credentials_eq_some]
  refine ⟨?_, ?_, ?_⟩
  · rw [hget, if_neg (userKey_ne_database ep), if_neg (userKey_ne_password ep), if_pos rfl]
  · rw [hget, if_neg (by decide), if_pos rfl]
  · rw [hget, if_pos rfl]

/-! ## One step -/

/-- What a change of the backend that concerns other roles only leaves alone. -/
theorem RelationWorks.mono {b b' : Backend} (hk : Kept user rid r) (hw : RelationWorks b r)
    (hroles : b'.roles (owner user rid r.endpoint) = b.roles (owner user rid r.endpoint))
    (hdbs : ∀ d ∈ b.databases, d ∈ b'.databases) : RelationWorks b' r := by
  have hmono : ∀ c : String × String × String, c.1 = owner user rid r.endpoint →
      b.Works c → b'.Works c := by
    rintro c hc ⟨hr, hd⟩
    exact ⟨by rw [hc, hroles, ← hc, hr], hdbs _ hd⟩
  exact ⟨fun c hc => hmono c (hk.app_owner hc) (hw.1 c hc),
    fun u c hc => hmono c (hk.unit_owner hc) (hw.2 u c hc)⟩

/-- A handler that changes one relation, the role of its user and nothing else
    of the roles keeps the property if that relation keeps it. -/
theorem CredentialsWork.touch (hk : AllKept s) (hw : CredentialsWork s)
    (ht : Touches s s' rid r')
    (hroles : ∀ x, x ≠ owner (s.generateUsername rid) rid r'.endpoint →
      s'.backend.roles x = s.backend.roles x)
    (hdbs : ∀ d ∈ s.backend.databases, d ∈ s'.backend.databases)
    (hself : RelationWorks s'.backend r') : CredentialsWork s' := by
  refine ht.forall_relations hself fun x q hx hq => ?_
  exact (hw x q hq).mono (hk x q hq) (hroles _ (owner_ne_owner hx _ _)) hdbs

/-- After the two calls for a user, the other roles are as before. -/
theorem provision_roles_of_ne (b : Backend) {x : String} (hx : x ≠ user) :
    (b.provision h user password database).1.roles x = b.roles x := by
  rcases b.provision_roles h user password database with he | he
  · rw [he]
  · rw [he, Function.update_of_ne hx]

/-- Credentials that work still do after the two calls with the same user and
    password. -/
theorem works_provision {b : Backend} {d : String} (hw : b.Works (user, password, d)) :
    (b.provision h user password database).1.Works (user, password, d) := by
  refine ⟨?_, b.provision_databases h user password database hw.2⟩
  rcases b.provision_roles h user password database with he | he
  · rw [he]
    exact hw.1
  · rw [he]
    simp

theorem publishAndCreate_backend (h : Hook) (s : App) (rid : RelId) (r : Relation)
    (user password database : String) :
    (DbProvides.publishAndCreate h s rid r user password database).app.backend.roles =
        (s.backend.provision h user password database).1.roles ∧
      (DbProvides.publishAndCreate h s rid r user password database).app.backend.databases =
        (s.backend.provision h user password database).1.databases := by
  unfold DbProvides.publishAndCreate
  simp only
  split_ifs <;> exact ⟨rfl, rfl⟩

/-- The credentials of a relation after a join has published on it. -/
theorem RelationWorks.published {b : Backend} (hk : Kept (s.generateUsername rid) rid r)
    (hw : RelationWorks b r) (hc : DbProvides.CopiesExtensions r r'')
    (hleg : r.endpoint.legacy = true) (hdb : r.remote.get "database" = some database)
    (hsafe : (r.unit h.unit).contains "password" = true ∨
      (∀ v, (r.unit v).contains "password" = false) ∧ b.Creates h database) :
    RelationWorks (b.provision h (s.generateUsername rid)
        (((r.unit h.unit).get "password").getD h.newPassword) database).1
      (r''.updateDatabags h.unit true (joinCredentials h s rid r database)) := by
  have howner : owner (s.generateUsername rid) rid r.endpoint = s.generateUsername rid := by
    rw [owner, if_pos hleg]
  have hcreds : joinCredentials h s rid r database = credentialUpdates (s.generateUsername rid)
      (((r.unit h.unit).get "password").getD h.newPassword) database rid r.endpoint :=
    (credentialUpdates_legacy rid hleg).symm
  generalize hpw : ((r.unit h.unit).get "password").getD h.newPassword = password at hcreds ⊢
  have hpw_ne : password ≠ "" := hpw ▸ joinPassword_ne h _
  have hread : ∀ bag : Databag, (bag.update (joinCredentials h s rid r database)).credentials
      r.endpoint = some (s.generateUsername rid, password, database) := by
    intro bag
    rw [hcreds, credentials_update rid r.endpoint bag (generateUsername_ne s rid) hpw_ne
      (Databag.ne_empty_of_get hdb), howner]
  have hown : (r.unit h.unit).contains "password" = true →
      b.Works (s.generateUsername rid, password, database) := by
    intro hp
    obtain ⟨p, hp⟩ := Option.isSome_iff_exists.mp hp
    have hcred := hk.unit_credentials hp hdb
    rw [hp, Option.getD_some] at hpw
    rw [howner, hpw] at hcred
    exact hw.2 h.unit _ hcred
  have hnew : (b.provision h (s.generateUsername rid) password database).1.Works
      (s.generateUsername rid, password, database) := by
    rcases hsafe with hp | ⟨-, hcr⟩
    · exact works_provision (hown hp)
    · exact b.works_of_creates h _ _ _ hcr
  refine ⟨fun c hc' => ?_, fun v c hc' => ?_⟩
  · rw [Relation.updateDatabags_endpoint, hc.endpoint] at hc'
    rw [show (r''.updateDatabags h.unit true (joinCredentials h s rid r database)).app =
      r''.app.update (joinCredentials h s rid r database) from rfl, hread, Option.some_inj] at hc'
    rwa [← hc']
  · rw [Relation.updateDatabags_endpoint, Relation.updateDatabags_unit] at hc'
    split_ifs at hc' with hv
    · rw [hc.endpoint, hread, Option.some_inj] at hc'
      rwa [← hc']
    · rw [credentials_copies hc] at hc'
      have hwc := hw.2 v c hc'
      have hc1 := hk.unit_owner hc'
      have hpc := (credentials_eq_some.mp hc').2.1
      rcases hsafe with hp | ⟨hno, -⟩
      · -- all copies of the password agree with the role
        have hsame := (hown hp).1
        obtain ⟨c1, c2, c3⟩ := c
        obtain rfl : c1 = s.generateUsername rid := by rw [← howner]; exact hc1
        obtain rfl : c2 = password := by
          have := hwc.1.symm.trans hsame
          simpa using this
        exact works_provision hwc
      · have := hno v
        simp [Databag.contains, hpc] at this

theorem CredentialsWork.joined (hk : AllKept s) (hw : CredentialsWork s)
    (hr : s.relations.get? rid = some r) (hleg : r.endpoint.legacy = true)
    (hg : SafeCreation lower s (.joined h rid)) :
    CredentialsWork (DbProvides.onRelationJoined lower h s rid r).app := by
  have he := DbProvides.joined_effect lower h s rid r
  generalize DbProvides.onRelationJoined lower h s rid r = res at he
  cases he with
  | follower _ => exact hw
  | notReady _ _ => exact hw
  | blocked _ _ _ hc =>
    exact hw.touch hk (.put hr _) (fun _ _ => rfl) (fun _ hd => hd) ((hw rid r hr).copies hc)
  | noDatabase _ _ _ hc _ =>
    exact hw.touch hk (.put hr _) (fun _ _ => rfl) (fun _ hd => hd) ((hw rid r hr).copies hc)
  | unsynced _ _ _ hc _ _ =>
    exact hw.touch hk ((Touches.put hr _).setDatabases _) (fun _ _ => rfl) (fun _ hd => hd)
      ((hw rid r hr).copies hc)
  | @served r'' database hl hready hb hc hdb hs =>
    have hsafe := hg r database hr ⟨hl, hready, by rw [hb], hdb, by rwa [hb]⟩
    have hself := (hw rid r hr).published (hk rid r hr) hc hleg hdb hsafe
    obtain ⟨hroles, hdbs⟩ := publishAndCreate_backend h
      ((s.putRelation rid r'').setRelationDatabases
        (DbProvides.joinDatabases lower (s.putRelation rid r'') h.unit rid r.endpoint database))
      rid r'' (s.generateUsername rid)
        (((r.unit h.unit).get "password").getD h.newPassword) database
    refine hw.touch hk (touches_publishAndCreate ((Touches.put hr _).setDatabases _) _ _ _)
      (fun x hx => ?_) (fun d hd => ?_) ?_
    · rw [hroles]
      rw [Relation.updateDatabags_endpoint, hc.endpoint, owner, if_pos hleg] at hx
      exact provision_roles_of_ne _ hx
    · rw [hdbs]
      exact Backend.provision_databases _ _ _ _ _ hd
    · refine ⟨fun c hc' => ?_, fun v c hc' => ?_⟩
      · unfold Backend.Works
        rw [hroles, hdbs]
        exact hself.1 c hc'
      · unfold Backend.Works
        rw [hroles, hdbs]
        exact hself.2 v c hc'

/-- Nothing is published on the relation: nothing has to work. -/
theorem RelationWorks.of_not_published {b : Backend} (hk : Kept user rid r)
    (hpub : r.published = false) : RelationWorks b r := by
  refine ⟨fun c hc => ?_, fun u c hc => ?_⟩
  · obtain ⟨h1, h2, -⟩ := credentials_eq_some.mp hc
    simp [Relation.published, Databag.contains, h1, h2] at hpub
  · have hp := (credentials_eq_some.mp hc).2.1
    have := (hk.unit_together u (by simp [Databag.contains, hp])).2.2
    rw [hpub] at this
    cases this

theorem provision_roles_of_failed {b : Backend}
    (hfail : (b.provision h user password database).2 = false)
    (hsafe : h.postgresV0 = true → h.createUserOk = true → h.createDatabaseOk = true) :
    (b.provision h user password database).1.roles = b.roles := by
  unfold Backend.provision at hfail ⊢
  split_ifs at hfail ⊢ with hv hu hd <;> simp_all [Backend.createDatabase]

theorem CredentialsWork.requested (hk : AllKept s) (hw : CredentialsWork s)
    (hr : s.relations.get? rid = some r) (hleg : r.endpoint.legacy = false)
    (hdb : r.remote.get "database" = some database) (hg : SafeCreation lower s (.requested h rid)) :
    CredentialsWork (PgBouncerProvider.onDatabaseRequested lower h s rid r database).app := by
  have howner : owner (s.generateUsername rid) rid r.endpoint =
      PgBouncerProvider.relationUser rid := by
    rw [owner, if_neg (by simp [hleg])]
  have he := PgBouncerProvider.requested_effect lower h s rid r database
  generalize PgBouncerProvider.onDatabaseRequested lower h s rid r database = res at he
  cases he with
  | follower _ => exact hw
  | notReady _ _ => exact hw
  | unsynced _ _ _ _ => exact hw
  | served hl _ _ _ =>
    unfold PgBouncerProvider.createAndPublish
    simp only
    split_ifs with hok
    · refine hw.touch hk (((Touches.refl hr).setDatabases _).setBackend _) (fun x hx => ?_)
        (fun d hd => Backend.provision_databases _ _ _ _ _ hd) ?_
      · exact provision_roles_of_ne _ (by rwa [howner] at hx)
      · cases hpub : r.published with
        | false => exact .of_not_published (hk rid r hr) hpub
        | true =>
          refine (hw rid r hr).mono (hk rid r hr) ?_
            fun d hd => Backend.provision_databases _ _ _ _ _ hd
          exact congrFun (provision_roles_of_failed (by simpa using hok)
            (hg r hr hl hpub)) _
    · refine hw.touch hk ((((Touches.refl hr).setDatabases _).setBackend _).put_put _)
        (fun x hx => ?_) (fun d hd => Backend.provision_databases _ _ _ _ _ hd) ?_
      · refine provision_roles_of_ne _ ?_
        rw [← howner]
        exact hx
      · have hworks := Backend.works_of_creates _ h (PgBouncerProvider.relationUser rid)
          h.newPassword database (Backend.creates_of_ok _ h _ _ _ (by simpa using hok))
        refine ⟨fun c hc => ?_, fun u c hc => ?_⟩
        · have hread := credentials_update rid r.endpoint r.app
            (generateUsername_ne s rid) h.newPassword_ne (Databag.ne_empty_of_get hdb)
          have happ : (PgBouncerProvider.setCredentials (PgBouncerProvider.relationUser rid)
              h.newPassword database r).app.credentials r.endpoint =
              some (PgBouncerProvider.relationUser rid, h.newPassword, database) := by
            rw [← howner, ← hread]
            unfold PgBouncerProvider.setCredentials credentialUpdates
            rw [userKey_of_client hleg, howner]
            rfl
          obtain rfl := Option.some_inj.mp (happ.symm.trans hc)
          exact hworks
        · have hp : (r.unit u).get "password" = some c.2.1 := (credentials_eq_some.mp hc).2.1
          have := (hk rid r hr).unit_legacy u (by simp [Databag.contains, hp])
          rw [hleg] at this
          cases this

/-- Copying the credentials of the own databag into the application databag. -/
theorem CredentialsWork.changed (hk : AllKept s) (hw : CredentialsWork s)
    (hr : s.relations.get? rid = some r) : CredentialsWork (onChanged h s rid r) := by
  obtain ⟨r', ht, hcases⟩ := touches_changed h hr
  have hbackend : (onChanged h s rid r).backend = s.backend := by
    unfold onChanged
    split_ifs
    · rcases DbProvides.changed_cases h s rid r with ⟨o, he⟩ | ⟨_, _, _, -, -, -, -, he⟩ <;> rw [he]
      rfl
    · rfl
  refine hw.touch hk ht (fun x _ => by rw [hbackend]) (fun d hd => by rwa [hbackend]) ?_
  rw [hbackend]
  have hwr := hw rid r hr
  rcases hcases with rfl | rfl | ⟨user, password, database, hleg, hus, hp, hd, rfl⟩
  · exact hwr
  · exact hwr
  · have hkr := hk rid r hr
    have hdb := hkr.unit_database _ _ hd
    have hown := hwr.2 h.unit _ (hkr.unit_credentials hp hdb)
    have huser : owner (s.generateUsername rid) rid r.endpoint = s.generateUsername rid := by
      rw [owner, if_pos hleg]
    obtain rfl : user = s.generateUsername rid := by
      rw [← userKey_of_legacy hleg] at hus
      rw [hkr.unit_user h.unit user hus, huser]
    rw [huser] at hown
    have hread : ∀ bag : Databag, (bag.update [("user", s.generateUsername rid),
        ("password", password), ("database", database)]).credentials r.endpoint =
          some (s.generateUsername rid, password, database) := by
      intro bag
      rw [← credentialUpdates_legacy rid hleg, credentials_update rid r.endpoint bag
        (generateUsername_ne s rid) (Databag.ne_empty_of_get hp) (Databag.ne_empty_of_get hdb),
        huser]
    refine ⟨fun c hc => ?_, fun v c hc => ?_⟩
    · obtain rfl := Option.some_inj.mp ((hread r.app).symm.trans hc)
      exact hown
    · rw [Relation.updateDatabags_endpoint, Relation.updateDatabags_unit] at hc
      split_ifs at hc
      · obtain rfl := Option.some_inj.mp ((hread _).symm.trans hc)
        exact hown
      · exact hwr.2 v c hc

theorem credentialsWork_step (lower : String → String) {a : Action} (hk : AllKept s)
    (hw : CredentialsWork s)
    (hg : SafeCreation lower s a) (ha : step lower s a = some s') : CredentialsWork s' := by
  cases step_effect lower ha with
  | relate hnone =>
    refine Dict.forall_get?_set ?_ fun x q _ hq => hw x q hq
    exact .of_not_published (kept_new "" 0 _) rfl
  | @write rid r data hr _ =>
    exact hw.touch hk (.put hr _) (fun _ _ => rfl) (fun _ hd => hd)
      ⟨(hw rid r hr).1, (hw rid r hr).2⟩
  | elect => exact hw
  | joined hr hleg => exact hw.joined hk hr hleg hg
  | changed hr => exact hw.changed hk hr
  | requested hr hleg hdb => exact hw.requested hk hr hleg hdb hg

/-- In every run whose steps are all safe, all complete credentials in the
    databags of PgBouncer's side work. -/
theorem credentialsWork_of_reach (hs : (machine lower).Reach (SafeCreation lower) s) :
    CredentialsWork s := by
  exact hs.invariant (I := CredentialsWork) (fun s hs => forall_of_empty hs)
    fun s a s' hreach hi hg ha => credentialsWork_step lower (kept_of_reach hreach) hi hg ha

/-! ## Two runs -/

/-- A hook on unit 0 in which the creation of the database fails. -/
def failingHook : Hook := { sampleHook 0 with createDatabaseOk := false }

/-- The creation of the database of a `db` relation fails: the credentials are
    in the application databag, and the backend has neither role nor database. -/
theorem published_without_database :
    ∃ s r, (machine Text.asciiLower).Reach Machine.always s ∧ s.relations.get? 1 = some r ∧
      (r.app.credentials r.endpoint).map (fun c => c.2.2) = some "a" ∧
      s.backend.databases = [] ∧ ¬ CredentialsWork s := by
  obtain ⟨s, hs, hp⟩ := Machine.exists_reach_of_exec (machine Text.asciiLower)
    Machine.always sampleApp [.relate 1 .db, .write 1 (asking "a"), .joined failingHook 1]
    (fun s => s.backend.databases == [] && (s.relations.get? 1).any fun r =>
      (r.app.credentials r.endpoint).map (fun c => c.2.2) == some "a") rfl (by decide)
  simp only [Bool.and_eq_true, Option.any_eq_true, beq_iff_eq] at hp
  obtain ⟨hdbs, r, hr, hcreds⟩ := hp
  refine ⟨s, r, hs, hr, hcreds, hdbs, fun hw => ?_⟩
  obtain ⟨c, hc, -⟩ := Option.map_eq_some_iff.mp hcreds
  have hworks := ((hw 1 r hr).1 c hc).2
  rw [hdbs] at hworks
  cases hworks

/-- The first join of a `db` relation, with both create calls returning. -/
theorem credentialsWork_first_join :
    ∃ s, (machine Text.asciiLower).Reach (SafeCreation Text.asciiLower) s ∧
      ((s.relations.get? 1).any fun r => (r.app.credentials r.endpoint).isSome) = true ∧
      CredentialsWork s := by
  have h₀ : (machine Text.asciiLower).Reach (SafeCreation Text.asciiLower) sampleApp := .init rfl
  have h₁ := Machine.Reach.step (a := Action.relate 1 .db) h₀ trivial rfl
  have h₂ := Machine.Reach.step (a := Action.write 1 (asking "a")) h₁ trivial rfl
  have h₃ := Machine.Reach.step (a := Action.joined (sampleHook 0) 1) h₂ (by
    intro r database hr _
    obtain rfl := Option.some_inj.mp hr
    exact .inr ⟨fun _ => rfl, rfl, .inl rfl⟩) rfl
  exact ⟨_, h₃, by decide, credentialsWork_of_reach h₃⟩

end Setup

end PgBouncerK8s
