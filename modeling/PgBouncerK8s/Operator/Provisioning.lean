import PgBouncerK8s.Operator.Blocked

/-!
# The errors of the create calls

`backend.postgres` is an object of one of two classes, by the version of the
backend, and each class raises the errors of its own module. The `except`
clauses of `_on_database_requested` (`pgbouncer_provider.py`, lines 184–189) and
of `_on_relation_joined` (`relations/db.py`, lines 292–296) name classes of one
module each, and not of the same one.

* `createError_isSome`: an error is raised unless both calls return.
* `blocks_iff`: the handlers block the unit on the errors of one backend each.
* `not_blocks_other`: both handlers with the other backend.
-/

namespace PgBouncerK8s.Operator

open PgBouncerK8s.Action

/-! ## Classes -/

/-- `charms.postgresql_k8s.v0.postgresql` and
    `single_kernel_postgresql.compat.postgresql`. -/
inductive ErrorModule
  | v0
  | v1
  deriving DecidableEq

/-- `PostgreSQLCreateDatabaseError`, `PostgreSQLCreateUserError`,
    `PostgreSQLGetPostgreSQLVersionError` and
    `PostgreSQLEnableDisableExtensionError`. -/
inductive ErrorName
  | createDatabase
  | createUser
  | getPostgreSQLVersion
  | enableDisableExtension
  deriving DecidableEq

/-- A class of errors. Each of them derives from `Exception` alone. -/
structure ErrorClass where
  module : ErrorModule
  name : ErrorName
  deriving DecidableEq

/-- The `except` clause of `_on_database_requested`, with the imports of
    `pgbouncer_provider.py` (lines 48–55). -/
def PgBouncerProvider.caught : List ErrorClass :=
  [⟨.v1, .createDatabase⟩, ⟨.v1, .createUser⟩, ⟨.v1, .getPostgreSQLVersion⟩,
    ⟨.v1, .enableDisableExtension⟩]

/-- The `except` clause of `_on_relation_joined`, with the imports of
    `relations/db.py` (lines 63–67). -/
def DbProvides.caught : List ErrorClass :=
  [⟨.v0, .createDatabase⟩, ⟨.v0, .createUser⟩, ⟨.v0, .enableDisableExtension⟩]

/-- The module of the class of `backend.postgres` (`backend_database.py`,
    lines 142–156). -/
def backendModule (h : Hook) : ErrorModule := if h.postgresV0 then .v0 else .v1

/-- The error of the create calls: that of the first one that fails, in the order
    of `provision`. -/
def createError (h : Hook) : Option ErrorClass :=
  let error := fun (ok : Bool) (name : ErrorName) =>
    if ok then none else some ⟨backendModule h, name⟩
  if h.postgresV0 then
    (error h.createUserOk .createUser).or (error h.createDatabaseOk .createDatabase)
  else (error h.createDatabaseOk .createDatabase).or (error h.createUserOk .createUser)

/-- The classes that the handler of a join or a request names around the create
    calls. -/
def caughtBy : Event → List ErrorClass
  | .joined _ => DbProvides.caught
  | .requested _ _ => PgBouncerProvider.caught
  | _ => []

/-- The hook in which the create calls raise the errors of their own module. -/
def Env.ownErrors (env : Env) (ev : Event) : Env :=
  { env with createErrorCaught := (createError env.hook).any fun e => decide (e ∈ caughtBy ev) }

/-- The handler of a join or a request gets to the create calls and one of them
    fails. -/
def creationFails (env : Env) (lower : String → String) (s : State) : Event → Bool
  | .joined rid => (s.app.relations.get? rid).any fun r =>
      r.endpoint.legacy && isLeader env s && ready env s &&
        (joinServes env lower s rid r).isSome && (createError env.hook).isSome
  | .requested rid database => (s.app.relations.get? rid).any fun r =>
      !r.endpoint.legacy && isLeader env s && ready env s &&
        requestServes env lower s rid r database && (createError env.hook).isSome
  | _ => false

/-- The run has returned and left the unit blocked. -/
def EndsBlocked (p : Except Failure Unit × State) : Prop :=
  p.1 = .ok () ∧ ∃ message, p.2.status = .blocked message

/-- Where the creation fails, the handler returns and leaves the unit blocked. -/
def Blocks (env : Env) (lower : String → String) (s : State) (ev : Event) : Prop :=
  creationFails env lower s ev = true →
    EndsBlocked ((handle (env.ownErrors ev) lower ev).run s)

/-- The backend whose errors the handler names: version 14 for a join, a later
    one for a request. -/
def namesV0 : Event → Bool
  | .joined _ => true
  | _ => false

/-! ## The clauses -/

variable {env : Env} {s : State} {lower : String → String} {rid : RelId} {r : Relation}

theorem createError_isSome (h : Hook) :
    (createError h).isSome = !(h.createUserOk && h.createDatabaseOk) := by
  unfold createError
  cases h.postgresV0 <;> cases h.createUserOk <;> cases h.createDatabaseOk <;> rfl

/-- Each clause names both errors of the creation, of one module. -/
theorem joined_catches (h : Hook) (hf : (createError h).isSome = true) :
    ((createError h).any fun e => decide (e ∈ DbProvides.caught)) = h.postgresV0 := by
  rw [createError_isSome] at hf
  unfold createError backendModule
  cases h.postgresV0 <;> revert hf <;>
    cases h.createUserOk <;> cases h.createDatabaseOk <;> decide

theorem requested_catches (h : Hook) (hf : (createError h).isSome = true) :
    ((createError h).any fun e => decide (e ∈ PgBouncerProvider.caught)) = !h.postgresV0 := by
  rw [createError_isSome] at hf
  unfold createError backendModule
  cases h.postgresV0 <;> revert hf <;>
    cases h.createUserOk <;> cases h.createDatabaseOk <;> decide

/-! ## The handlers -/

theorem endsBlocked_blockOn (message : String) : EndsBlocked ((blockOn rid message).run s) :=
  ⟨rfl, message, rfl⟩

theorem not_endsBlocked_error (e : Failure) : ¬ EndsBlocked (.error e, s) :=
  fun h => by cases h.1

/-- What a creation that fails ends with. -/
theorem endsBlocked_iff {caught : Bool} {message : String} {t : State} :
    EndsBlocked (if caught = true then (blockOn rid message).run t else (.error .other, t)) ↔
      caught = true := by
  cases caught with
  | true => exact iff_of_true (endsBlocked_blockOn message) rfl
  | false => exact iff_of_false (not_endsBlocked_error _) Bool.false_ne_true

theorem create_endsBlocked (hready : ready env s = true)
    (hf : (createError env.hook).isSome = true) (database : String) :
    EndsBlocked ((PgBouncerProvider.create env rid r database).run s) ↔
      env.createErrorCaught = true := by
  obtain ⟨e, r', s₁, s₂, -, -, hrun⟩ := create_run hready rid r database
  rw [createError_isSome, Bool.not_eq_true'] at hf
  rw [hrun, hf, if_neg Bool.false_ne_true]
  exact endsBlocked_iff

theorem db_create_endsBlocked (hf : (createError env.hook).isSome = true)
    (user password database : String) :
    EndsBlocked ((DbProvides.create env rid r user password database).run s) ↔
      env.createErrorCaught = true := by
  obtain ⟨s₁, s₂, -, -, hrun⟩ := db_create_run env s rid r user password database
  rw [createError_isSome, Bool.not_eq_true'] at hf
  rw [hrun, hf, if_neg Bool.false_ne_true]
  exact endsBlocked_iff

theorem requested_endsBlocked (env : Env) (hl : isLeader env s = true)
    (hready : ready env s = true) {database : String}
    (hserves : requestServes env lower s rid r database = true)
    (hf : (createError env.hook).isSome = true) :
    EndsBlocked ((PgBouncerProvider.onDatabaseRequested env lower rid r database).run s) ↔
      env.createErrorCaught = true := by
  rcases requested_run hl hready lower rid r database with ⟨hno, -⟩ | ⟨c, s₁, -, -, hnear, -, -, ht⟩
  · rw [hserves] at hno
    cases hno
  · rw [ht]
    exact create_endsBlocked (hnear.ready.trans hready) hf database

theorem joined_endsBlocked (env : Env) (hl : isLeader env s = true) (hready : ready env s = true)
    (hserves : (joinServes env lower s rid r).isSome = true)
    (hf : (createError env.hook).isSome = true) :
    EndsBlocked ((DbProvides.onRelationJoined env lower rid r).run s) ↔
      env.createErrorCaught = true := by
  rcases joined_run hl hready lower rid r with
    ⟨hno, -⟩ | ⟨database, r', user, password, s₁, -, -, -, -, -, ht⟩
  · rw [hno] at hserves
    cases hserves
  · rw [ht]
    exact db_create_endsBlocked hf user password database

/-- A creation that fails ends with the unit blocked if and only if the backend
    is the one whose errors the handler names. -/
theorem blocks_iff (env : Env) (lower : String → String) (s : State) (ev : Event) :
    Blocks env lower s ev ↔
      (creationFails env lower s ev = true → env.hook.postgresV0 = namesV0 ev) := by
  refine forall_congr' fun hfails => ?_
  cases ev with
  | joined rid =>
    obtain ⟨r, hr, hfails⟩ := (Option.any_eq_true _ _).mp hfails
    simp only [Bool.and_eq_true] at hfails
    obtain ⟨⟨⟨⟨hlegacy, hl⟩, hready⟩, hserves⟩, hf⟩ := hfails
    have hends := joined_endsBlocked (env.ownErrors (.joined rid)) hl hready hserves hf
    have hcaught : (env.ownErrors (.joined rid)).createErrorCaught = env.hook.postgresV0 :=
      joined_catches env.hook hf
    rw [hcaught] at hends
    unfold handle
    rw [withRelation_run hr, run_when, if_pos hlegacy]
    exact hends
  | requested rid database =>
    obtain ⟨r, hr, hfails⟩ := (Option.any_eq_true _ _).mp hfails
    simp only [Bool.and_eq_true, Bool.not_eq_true'] at hfails
    obtain ⟨⟨⟨⟨hlegacy, hl⟩, hready⟩, hserves⟩, hf⟩ := hfails
    have hends := requested_endsBlocked (env.ownErrors (.requested rid database)) hl hready hserves
      hf
    have hcaught : (env.ownErrors (.requested rid database)).createErrorCaught =
        !env.hook.postgresV0 := requested_catches env.hook hf
    rw [hcaught, Bool.not_eq_true'] at hends
    unfold handle
    rw [withRelation_run hr, run_when, if_pos hlegacy]
    exact hends
  | _ => cases hfails

/-! ## The other backend -/

/-- A leader with a client relation and a legacy one that ask for a database. -/
def askedLeader : State :=
  { sampleDeployment.view 0 with
    app := { Setup.sampleApp with
      relations := Dict.empty.setAll
        [(1, { Relation.new .database with remote := Setup.asking "app" }),
          (2, { Relation.new .db with remote := Setup.asking "app" })] } }

/-- A hook in which the creation of the database fails. -/
def databaseFails (postgresV0 : Bool) : Env :=
  { sampleEnv 0 with
    hook := { Setup.sampleHook 0 with postgresV0 := postgresV0, createDatabaseOk := false } }

/-- A request with version 14 and a join with a later version: the exception
    escapes. -/
theorem not_blocks_other :
    ¬ Blocks (databaseFails true) Text.asciiLower askedLeader (.requested 1 "app") ∧
      ¬ Blocks (databaseFails false) Text.asciiLower askedLeader (.joined 2) := by
  constructor
  · intro h
    exact absurd (h (by decide +kernel)).1 (by decide +kernel)
  · intro h
    exact absurd (h (by decide +kernel)).1 (by decide +kernel)

end PgBouncerK8s.Operator
