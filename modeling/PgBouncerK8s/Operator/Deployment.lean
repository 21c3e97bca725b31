import PgBouncerK8s.Lib.Machine
import PgBouncerK8s.Operator.Errors

/-!
# A deployment

The machine in which any unit runs any handler, in any surroundings, while
relations come and go and leadership passes from unit to unit. Units share the
application data and the secrets; each has its status and its Pebble plan.

When a handler raises, Juju discards what it wrote to databags and secrets. Its
status and what it did to the services stay.
-/

namespace PgBouncerK8s.Operator

/-- What belongs to one unit. -/
structure UnitState where
  status : Status
  services : Dict String ServiceStatus

/-- All units. `refused` records that ops has refused a write to application
    data. -/
structure Deployment where
  app : App
  secrets : Auth.Charm
  readonlyDbs : Option (List String)
  currentPort : Option String
  unit : UnitId → UnitState
  refused : Bool

namespace Deployment

/-- What unit `u` sees when one of its handlers starts. -/
def view (w : Deployment) (u : UnitId) : State where
  app := w.app
  secrets := w.secrets
  readonlyDbs := w.readonlyDbs
  currentPort := w.currentPort
  status := (w.unit u).status
  services := (w.unit u).services
  deferred := false
  completed := false
  causes := []
  activations := []

/-- The status and the services that a handler on unit `u` leaves. -/
def setUnit (w : Deployment) (u : UnitId) (s : State) : Deployment :=
  { w with unit := Function.update w.unit u ⟨s.status, s.services⟩ }

/-- All that a handler on unit `u` leaves. -/
def commit (w : Deployment) (u : UnitId) (s : State) : Deployment :=
  { w.setUnit u s with
    app := s.app
    secrets := s.secrets
    readonlyDbs := s.readonlyDbs
    currentPort := s.currentPort }

end Deployment

/-- `backend` is a step of the backend relation, with the user name in its
    databag; `services` any change of a Pebble plan that no handler makes. -/
inductive Step
  | relate (rid : RelId) (ep : Endpoint)
  | write (rid : RelId) (data : Databag)
  | gone (rid : RelId)
  | elect (u : UnitId)
  | backend (relation : Option (Option Auth.Plain))
  | services (u : UnitId) (services : Dict String ServiceStatus)
  | handle (env : Env) (ev : Event)

variable (lower : String → String)

/-- The handler of an event, on the unit of its hook. -/
def Deployment.run (w : Deployment) (env : Env) (ev : Event) : Deployment :=
  let u := env.hook.unit
  match (handle env lower ev).run (w.view u) with
  | (.ok _, s) => w.commit u s
  | (.error e, s) =>
    { w.setUnit u s with refused := w.refused || e = .relationDataAccessError }

def step (w : Deployment) : Step → Option Deployment
  | .relate rid ep =>
    if w.app.relations.contains rid then none
    else some { w with
      app := { w.app with relations := w.app.relations.set rid (Relation.new ep) } }
  | .write rid data =>
    (w.app.relations.get? rid).map fun r =>
      { w with app := w.app.putRelation rid { r with remote := data } }
  | .gone rid =>
    some { w with app := { w.app with relations := w.app.relations.erase rid } }
  | .elect u => some { w with app := { w.app with leader := u } }
  | .backend relation => some { w with secrets := { w.secrets with relation := relation } }
  | .services u services =>
    some (w.setUnit u { w.view u with services := services })
  | .handle env ev => some (w.run lower env ev)

/-- Runs start without client relations. -/
def machine : Machine Deployment Step where
  init w := w.app.relations = .empty ∧ w.refused = false
  step := step lower

/-! ## A sample -/

/-- A hook on unit `u` in which nothing fails. -/
def sampleEnv (u : UnitId) : Env where
  hook := Setup.sampleHook u
  options := ⟨6432, "session", 0, 0, "false", ""⟩
  connected := true
  databaseRequested := true
  createErrorCaught := true
  sqlOk := fun _ => true
  connects := fun _ => true
  version := some "16.4"
  results := some []
  authUserOk := true
  initialiseOk := true
  secretsAccessible := true
  newSystemPassword := fun _ => "secret"
  hashedPassword := Auth.sampleHash
  hashed := fun _ => .ok Auth.sampleHash
  rehashed := fun _ => .ok Auth.sampleHash
  canConnect := true
  cores := 2
  restarts := fun _ => true
  replans := true
  filesOk := true
  tlsFiles := false
  service := .found
  endpointsOk := true
  serviceTypeMatches := true
  applied := .applied
  connectivity := some true
  hasRemoteData := fun _ => true
  hasUnits := fun _ => true
  allowedSubnets := fun _ => "10.1.0.0/16"
  allowedUnits := fun _ => "app/0"
  hash := fun _ => "0"
  hostname := "pgbouncer-k8s"
  nonce := "nonce"
  plannedUnits := 1
  upgrading := false
  invalidExtraUserRole := "invalid role(s) for extra user roles"

/-- A unit whose services run. -/
def sampleUnit : UnitState where
  status := .active
  services := Dict.empty.setAll
    [("pgbouncer_0", .active), ("pgbouncer_1", .active), (metricsService, .active)]

/-- A deployment led by unit 0 that has set up its backend. -/
def sampleDeployment : Deployment where
  app := Setup.sampleApp
  secrets := { Auth.sampleCharm with
    relation := some (some ⟨"relation_1", by decide⟩)
    authFile := some "\"auth\" \"md5\"" }
  readonlyDbs := none
  currentPort := none
  unit := fun _ => sampleUnit
  refused := false

end PgBouncerK8s.Operator
