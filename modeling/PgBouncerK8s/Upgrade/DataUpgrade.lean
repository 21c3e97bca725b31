import Mathlib.Data.List.Sort
import Mathlib.Logic.Function.Basic
import PgBouncerK8s.Lib.Machine

/-!
# Rolling upgrades

`DataUpgrade` (`data_platform_libs/v0/upgrade.py`, lines 499–1102) on Kubernetes
with the overrides of `upgrade.py`: the handlers of one unit, which share the
databags of the peer relation `upgrade` and the partition of the StatefulSet.
The application has the units `0 … units - 1`.

A dispatch reads the databags of the other units as they were when its hook
began; what it writes is there when it ends, or dropped if it raises. A patch of
the StatefulSet is there at once and stays. A deferred `pebble-ready` is emitted
again at the beginning of each dispatch, on the same instance, which keeps the
stack it has loaded.

`juju refresh` gives the StatefulSet a new revision; Kubernetes replaces the pods
from the partition on. A new pod runs `upgrade-charm`, then `pebble-ready`. Unit
statuses are left out, nothing here reads them.
-/

namespace PgBouncerK8s.DataUpgrade

/-! ## Versions -/

/-- `DependencyModel`; nothing reads its `dependencies` here. -/
structure DependencyModel where
  name : String
  upgradeSupported : String
  version : String
  deriving DecidableEq

/-- `PgbouncerDependencyModel`. -/
structure PgbouncerDependencyModel where
  charm : DependencyModel
  rock : DependencyModel
  deriving DecidableEq

/-- The fields under their names, in the order of the class. -/
def PgbouncerDependencyModel.fields (m : PgbouncerDependencyModel) :
    List (String × DependencyModel) :=
  [("charm", m.charm), ("rock", m.rock)]

structure VersionError where
  message : String
  cause : String

/-- The charm of an application: its number of units, the dependencies of its
    revisions, and `verify_requirements` of `poetry` on a version and a
    requirement. -/
structure Cluster where
  units : ℕ
  dependencyModel : ℕ → PgbouncerDependencyModel
  verifyRequirements : String → String → Bool

/-- `can_upgrade` (lines 381–390). -/
def canUpgrade (c : Cluster) (old new : DependencyModel) : Bool :=
  c.verifyRequirements old.version new.upgradeSupported

/-- `_upgrade_supported_check` (lines 856–888). -/
def upgradeSupportedCheck (c : Cluster) (stored current : PgbouncerDependencyModel) :
    Except VersionError Unit :=
  let incompatibilities := (stored.fields.zip current.fields).filter fun p =>
    !canUpgrade c p.1.2 p.2.2
  if incompatibilities.isEmpty then .ok ()
  else .error
    { message := "Versions incompatible" ++ String.join (incompatibilities.map fun p =>
        ", " ++ p.1.1 ++ " " ++ p.1.2.version ++ " can not be upgraded to " ++ p.2.2.version)
      cause := "Upgrades only supported for specific versions" ++
        String.join (incompatibilities.map fun p =>
          ", " ++ p.1.1 ++ " versions satisfying requirement " ++ p.2.2.upgradeSupported) }

/-! ## The databags -/

/-- `STATES`. -/
inductive UpgradeState
  | recovery
  | failed
  | idle
  | ready
  | upgrading
  | completed
  deriving DecidableEq

/-- `STATES.index`. -/
def UpgradeState.index : UpgradeState → ℕ
  | recovery => 0
  | failed => 1
  | idle => 2
  | ready => 3
  | upgrading => 4
  | completed => 5

/-- The databags of the relation: `state` of the units; `upgrade-stack` and
    `dependencies` of the application. -/
structure Databag where
  state : ℕ → Option UpgradeState
  stack : List ℕ
  dependencies : Option PgbouncerDependencyModel

/-- The application. `pending u` and `pebble u` are the events `upgrade-charm`
    and `pebble-ready` that unit `u` has yet to handle, `deferred u` is a
    `pebble-ready` it has deferred; `view u` are the databags at the beginning
    of its running hook. `finished u` is the revision at which `set_unit_completed`
    has last run on `u`, also in a dispatch that raised later and whose writes
    were dropped; no handler reads it. -/
structure World where
  databag : Databag
  leader : ℕ
  partition : ℕ
  target : ℕ
  revision : ℕ → ℕ
  pending : ℕ → Bool
  pebble : ℕ → Bool
  deferred : ℕ → Bool
  view : ℕ → Option Databag
  finished : ℕ → ℕ

/-- The object of a dispatch on `unit`, with `_upgrade_stack`. -/
structure Instance where
  unit : ℕ
  view : Databag
  world : World
  upgradeStack : Option (List ℕ)

/-- What the surroundings answer: the relations are there and the plan has
    services, `_cluster_checks` passes, Kubernetes accepts a patch. -/
structure Env where
  planned : Bool
  healthy : Bool
  patches : Bool
  deriving DecidableEq

namespace Instance

def isLeader (x : Instance) : Bool := x.world.leader = x.unit

/-- What the unit reads: its own databag as it is, and that of the application
    if it leads; the others as its hook found them. -/
def databag (x : Instance) : Databag where
  state v := if v = x.unit then x.world.databag.state v else x.view.state v
  stack := if x.isLeader then x.world.databag.stack else x.view.stack
  dependencies :=
    if x.isLeader then x.world.databag.dependencies else x.view.dependencies

def state (x : Instance) : Option UpgradeState := x.world.databag.state x.unit

/-- `upgrade_stack`, with the empty list for `None`. -/
def stack (x : Instance) : List ℕ := x.upgradeStack.getD x.databag.stack

/-- `self._upgrade_stack = stack`. -/
def cached (x : Instance) (stack : List ℕ) : Instance := { x with upgradeStack := some stack }

/-- The leader forgets the stack it has loaded. -/
def refreshed (x : Instance) : Instance :=
  if x.isLeader then { x with upgradeStack := none } else x

def setState (x : Instance) (st : UpgradeState) : Instance :=
  { x with
    world := { x.world with
      databag := { x.world.databag with
        state := Function.update x.world.databag.state x.unit (some st) } } }

/-- `{"upgrade-stack": json.dumps(stack)}`. -/
def writeStack (x : Instance) (stack : List ℕ) : Instance :=
  { x with world := { x.world with databag := { x.world.databag with stack := stack } } }

/-- `{"dependencies": json.dumps(self.dependency_model.dict())}`. -/
def writeDependencies (c : Cluster) (x : Instance) : Instance :=
  { x with
    world := { x.world with
      databag := { x.world.databag with
        dependencies := some (c.dependencyModel (x.world.revision x.unit)) } } }

/-- `_set_rolling_update_partition`. -/
def setPartition (x : Instance) (partition : ℕ) : Instance :=
  { x with world := { x.world with partition := partition } }

/-- `unit_states`; their order does not matter to those who read them. -/
def unitStates (c : Cluster) (x : Instance) : List (Option UpgradeState) :=
  (List.range c.units).map x.databag.state

/-- `cluster_state`: no state is no member of `STATES`. -/
def clusterState (c : Cluster) (x : Instance) : Option UpgradeState :=
  ((x.unitStates c).mapM id).bind fun states =>
    (states.insertionSort fun a b => a.index ≤ b.index).head?

/-! ## The handlers -/

/-- `set_unit_failed` (lines 723–739). -/
def setUnitFailed (x : Instance) : Instance := x.refreshed.setState .failed

/-- `_on_upgrade_created` (lines 761–774). -/
def onUpgradeCreated (c : Cluster) (x : Instance) : Instance :=
  let x := x.setState .idle
  if x.isLeader then x.writeDependencies c else x

/-- `on_upgrade_changed` with an empty stack (lines 960–979). -/
def markIdle (c : Cluster) (x : Instance) : Instance :=
  if x.state = some .completed ∧
      (x.clusterState c = some .idle ∨ x.clusterState c = some .completed) then
    let x := x.setState .idle
    if x.isLeader then x.writeDependencies c else x
  else x

/-- The unit at the top of the stack grants itself the upgrade (lines 1003–1020);
    on Kubernetes `_on_upgrade_granted` only returns. -/
def grant (c : Cluster) (x : Instance) (top : ℕ) : Instance :=
  if x.unit = top ∧ (x.state = some .ready ∨ x.state = some .upgrading) ∧
      x.clusterState c = some .ready ∧
      ∀ v ∈ List.range c.units, v ≠ x.unit → x.databag.state v ≠ some .upgrading then
    x.setState .upgrading
  else x

/-- `on_upgrade_changed` (lines 944–1020) with at most `fuel` calls of itself.
    The stack in the instance loses its top in any case, that in the databag
    only where the leader finds the unit completed. -/
def onUpgradeChangedFuel (c : Cluster) : ℕ → Instance → Instance
  | 0, x => x
  | fuel + 1, x =>
    if x.clusterState c = some .failed then x
    else match x.stack.getLast? with
      | none => x.markIdle c
      | some top =>
        if x.isLeader = true ∧ x.databag.state top = some .completed then
          onUpgradeChangedFuel c fuel
            ((x.cached x.stack.dropLast).writeStack x.stack.dropLast)
        else (x.cached x.stack.dropLast).grant c top

/-- `on_upgrade_changed`: each call of itself takes a unit from the stack. -/
def onUpgradeChanged (c : Cluster) (x : Instance) : Instance :=
  onUpgradeChangedFuel c (x.stack.length + 1) x

/-- `_on_upgrade_finished` (lines 1039–1073). -/
def onUpgradeFinished (c : Cluster) (env : Env) (x : Instance) : Instance :=
  let x := if x.isLeader then x.onUpgradeChanged c else x
  if x.unit + 1 = c.units then x
  else if x.unit = 0 then x
  else if env.patches then x.setPartition (x.unit - 1)
  else x.setUnitFailed

/-- `set_unit_completed` has run on the unit at its revision. -/
def finish (x : Instance) : Instance :=
  { x with
    world := { x.world with
      finished := Function.update x.world.finished x.unit (x.world.revision x.unit) } }

/-- `set_unit_completed` (lines 741–759). -/
def setUnitCompleted (c : Cluster) (env : Env) (x : Instance) : Instance :=
  (x.refreshed.finish.setState .completed).onUpgradeFinished c env

/-- `event.defer()` of `pebble-ready`. -/
def defer (x : Instance) : Instance :=
  { x with world := { x.world with deferred := Function.update x.world.deferred x.unit true } }

/-- `_on_pgbouncer_pebble_ready` (`upgrade.py`, lines 143–172). -/
def onPgbouncerPebbleReady (c : Cluster) (env : Env) (x : Instance) : Instance :=
  if !env.planned then x.defer
  else if ¬(x.state = some .upgrading ∨ x.state = some .recovery) then x
  else if !env.healthy then x.defer
  else x.setUnitCompleted c env

/-- `_on_upgrade_charm` (lines 890–942); it raises where there are no stored
    dependencies to compare. -/
def onUpgradeCharm (c : Cluster) (x : Instance) : Option Instance :=
  if x.stack = [] then some x
  else if x.unit + 1 = c.units then
    x.databag.dependencies.map fun stored =>
      match upgradeSupportedCheck c stored (c.dependencyModel (x.world.revision x.unit)) with
      | .error _ => x.setUnitFailed
      | .ok _ => x.setState .upgrading
  else some (x.setState .upgrading)

/-- `new_stack.insert(-1, unit_id)` for a unit that is not in the stack. -/
def insertMissing (stack : List ℕ) (id : ℕ) : List ℕ :=
  if id ∈ stack then stack else stack.insertIdx (stack.length - 1) id

/-- `_repair_upgrade_stack` (lines 699–721); `order` is the iteration order of
    `app_units`. -/
def repairUpgradeStack (c : Cluster) (order : List ℕ) (x : Instance) : Instance :=
  if (x.clusterState c = some .failed ∨ x.clusterState c = some .recovery) ∧
      x.stack ≠ [] ∧ x.stack.length ≠ c.units ∧ x.isLeader = true then
    (x.cached (order.foldl insertMissing x.stack)).writeStack
      (order.foldl insertMissing x.stack)
  else x

/-- `pre_upgrade_check` (`upgrade.py`, lines 80–93). -/
def preUpgradeCheck (c : Cluster) (env : Env) (x : Instance) : Except String Instance :=
  if !env.healthy then .error "Pre-upgrade check failed and cannot safely upgrade"
  else if !env.patches then .error "Kubernetes StatefulSet patch failed"
  else .ok (x.setPartition (c.units - 1))

/-- `_on_pre_upgrade_check_action` (lines 776–823). -/
def onPreUpgradeCheckAction (c : Cluster) (env : Env) (order : List ℕ) (x : Instance) :
    Except String Instance :=
  if !x.isLeader then .error "Action must be ran on the Juju leader."
  else if x.clusterState c = some .failed then
    .ok ((x.repairUpgradeStack c order).setState .recovery)
  else if x.clusterState c ≠ some .idle then
    .error "Cannot run pre-upgrade checks, cluster already upgrading."
  else do
    let x ← x.preUpgradeCheck c env
    let stack := order.insertionSort (· ≤ ·)
    return (x.cached stack).writeStack stack

/-- `_on_resume_upgrade_action` (lines 825–854). -/
def onResumeUpgradeAction (c : Cluster) (env : Env) (x : Instance) : Except String Instance :=
  if !x.isLeader then .error "Action must be ran on the Juju leader."
  else match x.stack.getLast? with
    | none => .error "Nothing to resume, upgrade stack unset."
    | some next =>
      if x.stack.length ≠ c.units - 1 then
        .error "Upgrade can be resumed only once after juju refresh is called."
      else if env.patches then .ok (x.setPartition next)
      else .error "Cannot set rolling update partition."

end Instance

/-! ## Dispatches -/

/-- What a hook is run for; `order` is the iteration order of `app_units`. -/
inductive Event
  | upgradeCreated
  | upgradeChanged
  | upgradeCharm
  | pebbleReady
  | preUpgradeCheck (order : List ℕ)
  | resumeUpgrade
  | other
  deriving DecidableEq

/-- The handlers of an event; `none` where they raise. A failed action changes
    nothing. -/
def Event.handle (c : Cluster) (env : Env) (x : Instance) : Event → Option Instance
  | .upgradeCreated => some (x.onUpgradeCreated c)
  | .upgradeChanged => some (x.onUpgradeChanged c)
  | .upgradeCharm => x.onUpgradeCharm c
  | .pebbleReady => some (x.onPgbouncerPebbleReady c env)
  | .preUpgradeCheck order => some ((x.onPreUpgradeCheckAction c env order).toOption.getD x)
  | .resumeUpgrade => some ((x.onResumeUpgradeAction c env).toOption.getD x)
  | .other => some x

/-- Which events a hook can be run for: `upgrade-charm` comes first on a new pod. -/
def Event.enabled (c : Cluster) (w : World) (u : ℕ) : Event → Bool
  | .upgradeCharm => w.pending u
  | .pebbleReady => !w.pending u && w.pebble u
  | .upgradeCreated => !w.pending u && (w.databag.state u).isNone
  | .preUpgradeCheck order => !w.pending u && decide (order.Perm (List.range c.units))
  | _ => !w.pending u

namespace World

/-- The hook of `u` is over. -/
def idle (w : World) (u : ℕ) : World := { w with view := Function.update w.view u none }

/-- The events are taken from the queues of `u`. -/
def take (w : World) (u : ℕ) : Event → World
  | .upgradeCharm => { w with pending := Function.update w.pending u false }
  | .pebbleReady => { w with pebble := Function.update w.pebble u false }
  | _ => w

/-- A dispatch that raises leaves its patches behind; its writes are dropped. What
    has run has run: `finished` is no write. -/
def rollback (w w' : World) : World :=
  { w with partition := w'.partition, finished := w'.finished }

/-- The instance at the beginning of a dispatch, and a deferred `pebble-ready`
    emitted on it. -/
def redeliver (c : Cluster) (env : Env) (w : World) (u : ℕ) (view : Databag) : Instance :=
  if w.deferred u then
    Instance.onPgbouncerPebbleReady c env
      ⟨u, view, { w with deferred := Function.update w.deferred u false }, none⟩
  else ⟨u, view, w, none⟩

/-- A dispatch on `u`. The surroundings may change between the deferred event and
    the event of the hook; `raises` says that some other handler raises. -/
def dispatch (c : Cluster) (u : ℕ) (event : Event) (early late : Env) (raises : Bool)
    (view : Databag) (w : World) : World :=
  let x := redeliver c early (w.take u event) u view
  match event.handle c late x with
  | none => w.rollback x.world
  | some y => if raises then w.rollback y.world else y.world

end World

/-! ## The machine -/

/-- `start` is the beginning of a hook, `dispatch` its end; `roll` replaces an
    outdated pod; `restart` brings a pod up again as it was, `restartContainer`
    its container. -/
inductive Action
  | start (u : ℕ)
  | dispatch (u : ℕ) (event : Event) (early late : Env) (raises : Bool)
  | elect (u : ℕ)
  | refresh
  | roll (u : ℕ)
  | restart (u : ℕ)
  | restartContainer (u : ℕ)
  deriving DecidableEq

/-- The pod of `u` comes up with a revision. -/
def World.boot (w : World) (u revision : ℕ) : World :=
  { w with
    revision := Function.update w.revision u revision
    pending := Function.update w.pending u true
    pebble := Function.update w.pebble u true
    deferred := Function.update w.deferred u false
    view := Function.update w.view u none }

def step (c : Cluster) (w : World) : Action → Option World
  | .start u =>
    if u < c.units ∧ w.view u = none then
      some { w with view := Function.update w.view u (some w.databag) }
    else none
  | .dispatch u event early late raises =>
    (w.view u).bind fun view =>
      if u < c.units ∧ event.enabled c w u = true then
        some ((w.dispatch c u event early late raises view).idle u)
      else none
  | .elect u => if u < c.units then some { w with leader := u } else none
  | .refresh => some { w with target := w.target + 1 }
  | .roll u =>
    if u < c.units ∧ w.partition ≤ u ∧ w.revision u ≠ w.target then
      some (w.boot u w.target)
    else none
  | .restart u => if u < c.units then some (w.boot u (w.revision u)) else none
  | .restartContainer u =>
    if u < c.units then some { w with pebble := Function.update w.pebble u true } else none

/-- The application as it is deployed: the peer relation has not been created. -/
structure Deployed (w : World) : Prop where
  state : w.databag.state = fun _ => none
  stack : w.databag.stack = []
  dependencies : w.databag.dependencies = none
  partition : w.partition = 0
  target : w.target = 0
  revision : w.revision = fun _ => 0
  finished : w.finished = fun _ => 0
  pending : w.pending = fun _ => false
  pebble : w.pebble = fun _ => true
  deferred : w.deferred = fun _ => false
  view : w.view = fun _ => none

def machine (c : Cluster) : Machine World Action where
  init := Deployed
  step := step c

/-! ## Reading back -/

namespace Instance

variable {c : Cluster} {x : Instance}

theorem state_setState (x : Instance) (st : UpgradeState) (v : ℕ) :
    (x.setState st).world.databag.state v =
      if v = x.unit then some st else x.world.databag.state v :=
  Function.update_apply _ _ _ _

theorem world_setUnitFailed (x : Instance) :
    x.setUnitFailed.world = (x.setState .failed).world := by
  unfold setUnitFailed refreshed
  split_ifs <;> rfl

/-! ### The state of the cluster -/

theorem mapM_id_eq_some {α : Type} {l : List (Option α)} {l' : List α} :
    l.mapM id = some l' ↔ l = l'.map some := by
  induction l generalizing l' with
  | nil => cases l' <;> simp
  | cons o l ih =>
    rw [List.mapM_cons]
    cases o with
    | none => cases l' <;> simp
    | some a =>
      cases l' with
      | nil => simp [Option.bind_eq_some_iff]
      | cons b l' =>
        rw [List.map_cons, List.cons.injEq, ← ih]
        cases l.mapM id <;> simp

theorem head?_insertionSort_eq_some {l : List UpgradeState} {st : UpgradeState} :
    (l.insertionSort fun a b => a.index ≤ b.index).head? = some st ↔
      st ∈ l ∧ ∀ s ∈ l, st.index ≤ s.index := by
  have htrans : IsTrans UpgradeState fun a b => a.index ≤ b.index := ⟨fun _ _ _ => le_trans⟩
  have htotal : Std.Total (α := UpgradeState) fun a b => a.index ≤ b.index :=
    ⟨fun a b => le_total a.index b.index⟩
  have hsorted := List.pairwise_insertionSort (fun a b : UpgradeState => a.index ≤ b.index) l
  have hmem : ∀ s, s ∈ l ↔ s ∈ l.insertionSort fun a b => a.index ≤ b.index := fun s =>
    (List.mem_insertionSort _).symm
  simp only [hmem]
  cases hl : l.insertionSort fun a b => a.index ≤ b.index with
  | nil => simp
  | cons a l' =>
    rw [hl, List.pairwise_cons] at hsorted
    constructor
    · rintro ⟨⟩
      exact ⟨List.mem_cons_self, fun s hs => by
        rcases List.mem_cons.mp hs with rfl | hs
        · exact le_rfl
        · exact hsorted.1 s hs⟩
    · rintro ⟨hst, hle⟩
      have hindex : a.index = st.index := by
        rcases List.mem_cons.mp hst with rfl | hst
        · rfl
        · exact le_antisymm (hsorted.1 st hst) (hle a List.mem_cons_self)
      have heq : a = st := by revert hindex; cases a <;> cases st <;> decide
      rw [List.head?_cons, heq]

/-- The state of the cluster is the least state of a unit; there is none before
    all units have one. -/
theorem clusterState_eq_some_iff {st : UpgradeState} :
    x.clusterState c = some st ↔ (∃ v < c.units, x.databag.state v = some st) ∧
      ∀ v < c.units, ∃ s, x.databag.state v = some s ∧ st.index ≤ s.index := by
  unfold clusterState unitStates
  simp only [Option.bind_eq_some_iff, mapM_id_eq_some, head?_insertionSort_eq_some]
  constructor
  · rintro ⟨states, hstates, hst, hle⟩
    have hget : ∀ v < c.units, ∃ s ∈ states, x.databag.state v = some s := by
      intro v hv
      have hmem : x.databag.state v ∈ states.map some :=
        hstates ▸ List.mem_map_of_mem (List.mem_range.mpr hv)
      obtain ⟨s, hs, he⟩ := List.mem_map.mp hmem
      exact ⟨s, hs, he.symm⟩
    refine ⟨?_, fun v hv => ?_⟩
    · have hmem : some st ∈ (List.range c.units).map x.databag.state :=
        hstates ▸ List.mem_map_of_mem hst
      obtain ⟨v, hv, he⟩ := List.mem_map.mp hmem
      exact ⟨v, List.mem_range.mp hv, he⟩
    · obtain ⟨s, hs, he⟩ := hget v hv
      exact ⟨s, he, hle s hs⟩
  · rintro ⟨⟨u, hu, hst⟩, hle⟩
    refine ⟨(List.range c.units).map fun v => (x.databag.state v).getD st, ?_, ?_, ?_⟩
    · rw [List.map_map]
      refine List.map_congr_left fun v hv => ?_
      obtain ⟨s, hs, -⟩ := hle v (List.mem_range.mp hv)
      simp [hs]
    · exact List.mem_map.mpr ⟨u, List.mem_range.mpr hu, by rw [hst]; rfl⟩
    · intro s hs
      obtain ⟨v, hv, rfl⟩ := List.mem_map.mp hs
      obtain ⟨s, hs, hi⟩ := hle v (List.mem_range.mp hv)
      rwa [hs]

/-! ### The loop of `on_upgrade_changed` -/

/-- How `on_upgrade_changed` gets from `P` to `Q`: `P` is kept where the leader
    takes a completed unit from the stack, and each of the three ends gives `Q`. -/
theorem onUpgradeChanged_rule {P Q : Instance → Prop}
    (pop : ∀ x top, P x → x.stack.getLast? = some top → x.isLeader = true →
      x.databag.state top = some .completed →
        P ((x.cached x.stack.dropLast).writeStack x.stack.dropLast))
    (failed : ∀ x, P x → x.clusterState c = some .failed → Q x)
    (empty : ∀ x, P x → x.stack = [] → Q (x.markIdle c))
    (stop : ∀ x top, P x → x.stack.getLast? = some top →
      ¬(x.isLeader = true ∧ x.databag.state top = some .completed) →
        Q ((x.cached x.stack.dropLast).grant c top))
    (h : P x) : Q (x.onUpgradeChanged c) := by
  have key : ∀ fuel x, P x → x.stack.length < fuel → Q (onUpgradeChangedFuel c fuel x) := by
    intro fuel
    induction fuel with
    | zero => exact fun x _ hlt => absurd hlt (Nat.not_lt_zero _)
    | succ fuel ih =>
      intro x hx hlt
      rw [onUpgradeChangedFuel]
      split_ifs with hfailed
      · exact failed x hx hfailed
      cases htop : x.stack.getLast? with
      | none => exact empty x hx (List.getLast?_eq_none_iff.mp htop)
      | some top =>
        simp only
        split_ifs with hpop
        · have hne : x.stack ≠ [] := fun he => by rw [he] at htop; cases htop
          have hlen := List.length_pos_of_ne_nil hne
          refine ih _ (pop x top hx htop hpop.1 hpop.2) ?_
          show x.stack.dropLast.length < fuel
          rw [List.length_dropLast]
          omega
        · exact stop x top hx htop hpop
  exact key _ x h (Nat.lt_succ_self _)

/-! ### The actions -/

variable {env : Env} {order : List ℕ} {y : Instance}

/-- When `pre-upgrade-check` does not fail: it prepares a rollback or an
    upgrade. -/
theorem onPreUpgradeCheckAction_eq_ok_iff :
    x.onPreUpgradeCheckAction c env order = .ok y ↔ x.isLeader = true ∧
      (x.clusterState c = some .failed ∧ y = (x.repairUpgradeStack c order).setState .recovery ∨
        x.clusterState c = some .idle ∧ env.healthy = true ∧ env.patches = true ∧
          y = ((x.setPartition (c.units - 1)).cached (order.insertionSort (· ≤ ·))).writeStack
            (order.insertionSort (· ≤ ·))) := by
  unfold onPreUpgradeCheckAction
  cases x.isLeader with
  | false => simp
  | true =>
    by_cases hfailed : x.clusterState c = some .failed
    · simp only [hfailed, Bool.not_true, Bool.false_eq_true, if_false, if_true, Except.ok.injEq,
        true_and, Option.some.injEq, reduceCtorEq, false_and, or_false]
      exact eq_comm
    · by_cases hidle : x.clusterState c = some .idle
      · rw [if_neg (by simp), if_neg hfailed, if_neg (not_not.mpr hidle)]
        unfold preUpgradeCheck
        cases hh : env.healthy with
        | false => simp [bind, Except.bind, hfailed]
        | true =>
          cases hp : env.patches with
          | false => simp [bind, Except.bind, hfailed]
          | true =>
            constructor
            · intro hy
              exact ⟨rfl, .inr ⟨hidle, rfl, rfl, (Except.ok.inj hy).symm⟩⟩
            · rintro ⟨-, ⟨hf, -⟩ | ⟨-, -, -, rfl⟩⟩
              · exact absurd hf hfailed
              · rfl
      · simp [hfailed, hidle]

/-- When `resume-upgrade` does not fail. -/
theorem onResumeUpgradeAction_eq_ok_iff :
    x.onResumeUpgradeAction c env = .ok y ↔ x.isLeader = true ∧ ∃ next,
      x.stack.getLast? = some next ∧ x.stack.length = c.units - 1 ∧ env.patches = true ∧
        y = x.setPartition next := by
  unfold onResumeUpgradeAction
  cases x.isLeader with
  | false => simp
  | true =>
    cases x.stack.getLast? with
    | none => simp
    | some next =>
      by_cases hlen : x.stack.length = c.units - 1
      · cases env.patches with
        | false => simp [hlen]
        | true =>
          simp only [Bool.not_true, Bool.false_eq_true, if_false, hlen, ne_eq, not_true_eq_false,
            if_true]
          constructor
          · intro hy
            exact ⟨trivial, next, rfl, trivial, trivial, (Except.ok.inj hy).symm⟩
          · rintro ⟨-, _, ⟨⟩, -, -, rfl⟩
            rfl
      · simp [hlen]

/-- The highest unit fails where its version is not supported. -/
theorem onUpgradeCharm_failed {stored : PgbouncerDependencyModel} {e : VersionError}
    (hstack : x.stack ≠ []) (hu : x.unit + 1 = c.units)
    (hstored : x.databag.dependencies = some stored)
    (hcheck : upgradeSupportedCheck c stored (c.dependencyModel (x.world.revision x.unit)) =
      .error e) : x.onUpgradeCharm c = some x.setUnitFailed := by
  unfold onUpgradeCharm
  rw [if_neg hstack, if_pos hu, hstored, Option.map_some, hcheck]

/-! ### `pebble-ready` -/

/-- `pebble-ready` on a unit that is not being upgraded. -/
theorem onPgbouncerPebbleReady_idle (hs : x.state ≠ some .upgrading ∧ x.state ≠ some .recovery)
    (env : Env) : ∃ d, x.onPgbouncerPebbleReady c env =
      { x with world := { x.world with deferred := d } } := by
  unfold Instance.onPgbouncerPebbleReady
  split_ifs with hplanned hstate
  · exact ⟨_, rfl⟩
  · exact ⟨_, rfl⟩
  · exact absurd hstate (not_or.mpr hs)
  · exact ⟨x.world.deferred, rfl⟩

/-- A deferred `pebble-ready` on a unit that is not being upgraded. -/
theorem redeliver_idle {w : World} {u : ℕ} (view : Databag)
    (hs : w.databag.state u ≠ some .upgrading ∧ w.databag.state u ≠ some .recovery) (env : Env) :
    ∃ d, w.redeliver c env u view = ⟨u, view, { w with deferred := d }, none⟩ := by
  unfold World.redeliver
  split_ifs with hd
  · obtain ⟨d, he⟩ := onPgbouncerPebbleReady_idle (c := c)
      (x := ⟨u, view, { w with deferred := Function.update w.deferred u false }, none⟩) hs env
    exact ⟨d, he⟩
  · exact ⟨w.deferred, rfl⟩

/-! ### What a dispatch leaves alone -/

/-- The handlers of a unit change its own state, the databag of the application,
    the partition, and complete no other unit. -/
structure Frame (x y : Instance) : Prop where
  unit : y.unit = x.unit
  seen : y.view = x.view
  leader : y.world.leader = x.world.leader
  target : y.world.target = x.world.target
  revision : y.world.revision = x.world.revision
  pending : y.world.pending = x.world.pending
  pebble : y.world.pebble = x.world.pebble
  view : y.world.view = x.world.view
  state : ∀ v, v ≠ x.unit → y.world.databag.state v = x.world.databag.state v
  ready : y.state = some .ready → x.state = some .ready
  deferred : ∀ v, v ≠ x.unit → y.world.deferred v = x.world.deferred v
  finished : ∀ v, y.world.finished v = x.world.finished v ∨
    v = x.unit ∧ y.world.finished v = x.world.revision v

namespace Frame

variable {z : Instance}

theorem refl (x : Instance) : Frame x x :=
  ⟨rfl, rfl, rfl, rfl, rfl, rfl, rfl, rfl, fun _ _ => rfl, id, fun _ _ => rfl, fun _ => .inl rfl⟩

theorem trans (h : Frame x y) (h' : Frame y z) : Frame x z where
  unit := h'.unit.trans h.unit
  seen := h'.seen.trans h.seen
  leader := h'.leader.trans h.leader
  target := h'.target.trans h.target
  revision := h'.revision.trans h.revision
  pending := h'.pending.trans h.pending
  pebble := h'.pebble.trans h.pebble
  view := h'.view.trans h.view
  state v hv := (h'.state v (h.unit ▸ hv)).trans (h.state v hv)
  ready hs := h.ready (h'.ready hs)
  deferred v hv := (h'.deferred v (h.unit ▸ hv)).trans (h.deferred v hv)
  finished v := by
    rcases h'.finished v with he | ⟨hu, he⟩
    · rw [he]
      exact h.finished v
    · exact .inr ⟨hu.trans h.unit, he.trans (congrFun h.revision v)⟩

theorem isLeader (h : Frame x y) : y.isLeader = x.isLeader := by
  unfold Instance.isLeader
  rw [h.leader, h.unit]

theorem setState {st : UpgradeState} (h : Frame x y) (hst : st ≠ .ready) :
    Frame x (y.setState st) :=
  h.trans { refl y with
    state := fun v hv => by rw [state_setState, if_neg hv]
    ready := fun hs => by
      have he : (y.setState st).state = some st := (state_setState y st y.unit).trans (if_pos rfl)
      exact absurd (Option.some.inj (he.symm.trans hs)) hst }

theorem writeStack (h : Frame x y) (l : List ℕ) : Frame x (y.writeStack l) :=
  h.trans { refl y with }

theorem cached (h : Frame x y) (l : List ℕ) : Frame x (y.cached l) := h.trans { refl y with }

theorem refreshed (h : Frame x y) : Frame x y.refreshed := by
  unfold Instance.refreshed
  split_ifs
  · exact h.trans { refl y with }
  · exact h

theorem writeDependencies (h : Frame x y) : Frame x (y.writeDependencies c) :=
  h.trans { refl y with }

theorem setPartition (h : Frame x y) (p : ℕ) : Frame x (y.setPartition p) :=
  h.trans { refl y with }

theorem finish (h : Frame x y) : Frame x y.finish :=
  h.trans { refl y with
    finished := fun v => by
      by_cases hv : v = y.unit
      · subst hv
        exact .inr ⟨rfl, Function.update_self _ _ _⟩
      · exact .inl (Function.update_of_ne hv _ _) }

theorem defer (h : Frame x y) : Frame x y.defer :=
  h.trans { refl y with deferred := fun _ hv => Function.update_of_ne hv _ _ }

theorem setUnitFailed (h : Frame x y) : Frame x y.setUnitFailed := h.refreshed.setState (by decide)

theorem markIdle (h : Frame x y) : Frame x (y.markIdle c) := by
  unfold Instance.markIdle
  simp only
  split_ifs
  · exact (h.setState (by decide)).writeDependencies
  · exact h.setState (by decide)
  · exact h

theorem grant (h : Frame x y) (top : ℕ) : Frame x (y.grant c top) := by
  unfold Instance.grant
  split_ifs
  · exact h.setState (by decide)
  · exact h

theorem onUpgradeChanged (h : Frame x y) : Frame x (y.onUpgradeChanged c) :=
  onUpgradeChanged_rule (P := Frame x) (fun _ _ hz _ _ _ => (hz.cached _).writeStack _)
    (fun _ hz _ => hz) (fun _ hz _ => hz.markIdle) (fun _ top hz _ _ => (hz.cached _).grant top) h

theorem onUpgradeFinished (h : Frame x y) : Frame x (y.onUpgradeFinished c env) := by
  have hend : ∀ z, Frame x z → Frame x (if z.unit + 1 = c.units then z else if z.unit = 0 then z
      else if env.patches then z.setPartition (z.unit - 1) else z.setUnitFailed) := by
    intro z hz
    split_ifs
    · exact hz
    · exact hz
    · exact hz.setPartition _
    · exact hz.setUnitFailed
  unfold Instance.onUpgradeFinished
  simp only
  cases y.isLeader with
  | false => exact hend y h
  | true => exact hend _ h.onUpgradeChanged

theorem setUnitCompleted (h : Frame x y) : Frame x (y.setUnitCompleted c env) :=
  (h.refreshed.finish.setState (by decide)).onUpgradeFinished

theorem onPgbouncerPebbleReady (h : Frame x y) : Frame x (y.onPgbouncerPebbleReady c env) := by
  unfold Instance.onPgbouncerPebbleReady
  split_ifs
  · exact h.defer
  · exact h.defer
  · exact h.setUnitCompleted
  · exact h

theorem onUpgradeCreated (h : Frame x y) : Frame x (y.onUpgradeCreated c) := by
  unfold Instance.onUpgradeCreated
  simp only
  split_ifs
  · exact (h.setState (by decide)).writeDependencies
  · exact h.setState (by decide)

theorem onUpgradeCharm (h : Frame x y) (hz : y.onUpgradeCharm c = some z) : Frame x z := by
  unfold Instance.onUpgradeCharm at hz
  split_ifs at hz
  · cases hz
    exact h
  · obtain ⟨stored, -, he⟩ := Option.map_eq_some_iff.mp hz
    rw [← he]
    split
    · exact h.setUnitFailed
    · exact h.setState (by decide)
  · cases hz
    exact h.setState (by decide)

theorem onPreUpgradeCheckAction (h : Frame x y)
    (hz : y.onPreUpgradeCheckAction c env order = .ok z) : Frame x z := by
  obtain ⟨-, ⟨-, rfl⟩ | ⟨-, -, -, rfl⟩⟩ := onPreUpgradeCheckAction_eq_ok_iff.mp hz
  · refine setState ?_ (by decide)
    unfold Instance.repairUpgradeStack
    split_ifs
    · exact (h.cached _).writeStack _
    · exact h
  · exact ((h.setPartition _).cached _).writeStack _

theorem onResumeUpgradeAction (h : Frame x y) (hz : y.onResumeUpgradeAction c env = .ok z) :
    Frame x z := by
  obtain ⟨-, next, -, -, -, rfl⟩ := onResumeUpgradeAction_eq_ok_iff.mp hz
  exact h.setPartition next

end Frame

theorem getD_toOption {o : Except String Instance} {P : Instance → Prop} (hx : P x)
    (ho : ∀ y, o = .ok y → P y) : P (o.toOption.getD x) := by
  cases o with
  | error message => exact hx
  | ok y => exact ho y rfl

theorem Frame.handle {event : Event} (h : Frame x y) {z : Instance}
    (hz : event.handle c env y = some z) : Frame x z := by
  cases event with
  | upgradeCreated =>
    cases hz
    exact h.onUpgradeCreated
  | upgradeChanged =>
    cases hz
    exact h.onUpgradeChanged
  | upgradeCharm => exact h.onUpgradeCharm hz
  | pebbleReady =>
    cases hz
    exact h.onPgbouncerPebbleReady
  | preUpgradeCheck order =>
    cases hz
    exact getD_toOption h fun z hz => h.onPreUpgradeCheckAction hz
  | resumeUpgrade =>
    cases hz
    exact getD_toOption h fun z hz => h.onResumeUpgradeAction hz
  | other =>
    cases hz
    exact h

theorem Frame.redeliver (env : Env) (w : World) (u : ℕ) (view : Databag) :
    Frame ⟨u, view, w, none⟩ (w.redeliver c env u view) := by
  unfold World.redeliver
  split_ifs
  · refine Frame.onPgbouncerPebbleReady ?_
    exact { Frame.refl _ with deferred := fun v hv => Function.update_of_ne hv _ _ }
  · exact Frame.refl _

/-! ### No unit is ready -/

/-- The unit reads of no unit that it is `ready`. -/
def NoReady (c : Cluster) (x : Instance) : Prop :=
  ∀ v < c.units, x.databag.state v ≠ some .ready

theorem NoReady.frame (h : x.NoReady c) (hf : Frame x y) : y.NoReady c := by
  intro v hv
  have hx := h v hv
  unfold Instance.databag at hx ⊢
  simp only [hf.unit, hf.seen] at hx ⊢
  split_ifs at hx ⊢ with he
  · subst he
    intro hs
    refine hx (hf.ready ?_)
    unfold Instance.state
    rwa [hf.unit]
  · exact hx

theorem NoReady.clusterState_ne (h : x.NoReady c) : x.clusterState c ≠ some .ready := by
  intro hc
  obtain ⟨⟨v, hv, hs⟩, -⟩ := clusterState_eq_some_iff.mp hc
  exact h v hv hs

theorem NoReady.grant_eq (h : x.NoReady c) (top : ℕ) : x.grant c top = x := by
  unfold Instance.grant
  rw [if_neg fun hg => h.clusterState_ne hg.2.2.1]

/-- `onUpgradeChanged_rule` where nothing is granted. -/
theorem NoReady.onUpgradeChanged_rule {P Q : Instance → Prop} (hn : x.NoReady c)
    (pop : ∀ x top, P x → x.stack.getLast? = some top → x.isLeader = true →
      x.databag.state top = some .completed →
        P ((x.cached x.stack.dropLast).writeStack x.stack.dropLast))
    (failed : ∀ x, P x → x.clusterState c = some .failed → Q x)
    (empty : ∀ x, P x → x.stack = [] → Q (x.markIdle c))
    (stop : ∀ x top, P x → x.stack.getLast? = some top →
      ¬(x.isLeader = true ∧ x.databag.state top = some .completed) →
        Q (x.cached x.stack.dropLast))
    (h : P x) : Q (x.onUpgradeChanged c) := by
  refine Instance.onUpgradeChanged_rule (P := fun y => P y ∧ y.NoReady c) ?_ ?_ ?_ ?_ ⟨h, hn⟩
  · exact fun y top hy htop hl hs => ⟨pop y top hy.1 htop hl hs,
      hy.2.frame (((Frame.refl y).cached _).writeStack _)⟩
  · exact fun y hy => failed y hy.1
  · exact fun y hy => empty y hy.1
  · intro y top hy htop hs
    rw [(hy.2.frame ((Frame.refl y).cached _)).grant_eq]
    exact stop y top hy.1 htop hs

end Instance

namespace World

variable {c : Cluster} {w : World} {u : ℕ} {event : Event} {early late : Env} {raises : Bool}
  {view : Databag}

@[simp] theorem databag_take : (w.take u event).databag = w.databag := by cases event <;> rfl

@[simp] theorem leader_take : (w.take u event).leader = w.leader := by cases event <;> rfl

@[simp] theorem partition_take : (w.take u event).partition = w.partition := by
  cases event <;> rfl

@[simp] theorem target_take : (w.take u event).target = w.target := by cases event <;> rfl

@[simp] theorem revision_take : (w.take u event).revision = w.revision := by cases event <;> rfl

@[simp] theorem deferred_take : (w.take u event).deferred = w.deferred := by cases event <;> rfl

@[simp] theorem view_take : (w.take u event).view = w.view := by cases event <;> rfl

@[simp] theorem finished_take : (w.take u event).finished = w.finished := by cases event <;> rfl

/-- A dispatch ends with what its handlers leave, or is rolled back. -/
theorem dispatch_rule {P : World → Prop}
    (unhandled : event.handle c late ((w.take u event).redeliver c early u view) = none →
      P (w.rollback ((w.take u event).redeliver c early u view).world))
    (handled : ∀ y, event.handle c late ((w.take u event).redeliver c early u view) = some y →
      P y.world ∧ P (w.rollback y.world)) :
    P (w.dispatch c u event early late raises view) := by
  unfold dispatch
  simp only
  cases hy : event.handle c late ((w.take u event).redeliver c early u view) with
  | none => exact unhandled hy
  | some y =>
    cases raises with
    | false => exact (handled y hy).1
    | true => exact (handled y hy).2

/-- A dispatch runs `set_unit_completed` at most for the unit it is on. -/
theorem dispatch_frame (c : Cluster) (w : World) (u : ℕ) (event : Event) (early late : Env)
    (raises : Bool) (view : Databag) :
    let w' := w.dispatch c u event early late raises view
    w'.revision = w.revision ∧ w'.target = w.target ∧
      ∀ v, w'.finished v = w.finished v ∨ v = u ∧ w'.finished v = w.revision v := by
  have hframe := Instance.Frame.redeliver (c := c) early (w.take u event) u view
  have key : ∀ y, Instance.Frame ⟨u, view, w.take u event, none⟩ y →
      y.world.revision = w.revision ∧ y.world.target = w.target ∧
        ∀ v, y.world.finished v = w.finished v ∨ v = u ∧ y.world.finished v = w.revision v := by
    intro y hf
    refine ⟨hf.revision.trans revision_take, hf.target.trans target_take, fun v => ?_⟩
    have hfin := hf.finished v
    rw [finished_take, revision_take] at hfin
    exact hfin
  refine dispatch_rule (P := fun w' => w'.revision = w.revision ∧ w'.target = w.target ∧
    ∀ v, w'.finished v = w.finished v ∨ v = u ∧ w'.finished v = w.revision v) ?_ ?_
  · exact fun _ => ⟨rfl, rfl, (key _ hframe).2.2⟩
  · intro y hy
    have hf := key y (hframe.handle hy)
    exact ⟨hf, rfl, rfl, hf.2.2⟩

end World

/-! ## No unit is ever ready -/

open Machine

/-- `ready` is in no databag and in no view. -/
structure NoReady (w : World) : Prop where
  databag : ∀ v, w.databag.state v ≠ some .ready
  view : ∀ u b v, w.view u = some b → b.state v ≠ some .ready

theorem NoReady.instance {c : Cluster} {w : World} {u : ℕ} {view : Databag}
    {stack : Option (List ℕ)} (h : NoReady w) (hview : w.view u = some view) :
    (Instance.mk u view w stack).NoReady c := by
  intro v _
  unfold Instance.databag
  simp only
  split_ifs
  · exact h.databag v
  · exact h.view u view v hview

theorem NoReady.step {c : Cluster} {w w' : World} {a : Action} (hw : NoReady w)
    (hs : step c w a = some w') : NoReady w' := by
  cases a with
  | start u =>
    obtain ⟨-, he⟩ := Option.ite_none_right_eq_some.mp hs
    cases he
    refine ⟨hw.databag, fun t b v hb => ?_⟩
    simp only [Function.update_apply] at hb
    split_ifs at hb
    · cases hb
      exact hw.databag v
    · exact hw.view t b v hb
  | dispatch u event early late raises =>
    obtain ⟨view, hview, he⟩ := Option.bind_eq_some_iff.mp hs
    obtain ⟨-, he⟩ := Option.ite_none_right_eq_some.mp he
    cases he
    have hidle : ∀ w', NoReady w' → NoReady (w'.idle u) := by
      intro w' hw'
      refine ⟨hw'.databag, fun t b v hb => ?_⟩
      simp only [World.idle, Function.update_apply] at hb
      split_ifs at hb
      exact hw'.view t b v hb
    have hframe := Instance.Frame.redeliver (c := c) early (w.take u event) u view
    refine hidle _ (World.dispatch_rule (fun _ => ⟨hw.databag, hw.view⟩) fun y hy => ?_)
    have hf := hframe.handle hy
    refine ⟨⟨fun v => ?_, fun t b v hb => ?_⟩, ⟨hw.databag, hw.view⟩⟩
    · by_cases hv : v = u
      · intro hs
        have htake : (w.take u event).databag = w.databag := World.databag_take
        refine hw.databag u (htake ▸ hf.ready ?_)
        unfold Instance.state
        rw [hf.unit]
        exact hv ▸ hs
      · rw [hf.state v hv, World.databag_take]
        exact hw.databag v
    · rw [hf.view, World.view_take] at hb
      exact hw.view t b v hb
  | elect u =>
    obtain ⟨-, he⟩ := Option.ite_none_right_eq_some.mp hs
    cases he
    exact ⟨hw.databag, hw.view⟩
  | refresh =>
    cases hs
    exact ⟨hw.databag, hw.view⟩
  | roll u =>
    obtain ⟨-, he⟩ := Option.ite_none_right_eq_some.mp hs
    cases he
    refine ⟨hw.databag, fun t b v hb => ?_⟩
    simp only [World.boot, Function.update_apply] at hb
    split_ifs at hb
    exact hw.view t b v hb
  | restart u =>
    obtain ⟨-, he⟩ := Option.ite_none_right_eq_some.mp hs
    cases he
    refine ⟨hw.databag, fun t b v hb => ?_⟩
    simp only [World.boot, Function.update_apply] at hb
    split_ifs at hb
    exact hw.view t b v hb
  | restartContainer u =>
    obtain ⟨-, he⟩ := Option.ite_none_right_eq_some.mp hs
    cases he
    exact ⟨hw.databag, hw.view⟩

/-- On Kubernetes `upgrade-charm` sets a unit `upgrading`, and the branch of
    `on_upgrade_changed` that grants an upgrade is dead. -/
theorem noReady_of_reach {c : Cluster} {guard : World → Action → Prop} {w : World}
    (h : (machine c).Reach guard w) : NoReady w :=
  h.invariant (fun _ hw => ⟨fun v => by simp [hw.state], fun u b v hb => by simp [hw.view] at hb⟩)
    fun _ _ _ _ hw _ hs => hw.step hs

end PgBouncerK8s.DataUpgrade
