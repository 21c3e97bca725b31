import Mathlib.Data.List.Infix
import PgBouncerK8s.Auth.Secrets

/-!
# The userlist file of a unit

The secret `auth_file` is written to a file of each unit by `render_auth_file`
and read again by `render_pgb_config`, which chooses `auth_type` from it
(`charm.py`, lines 1028–1033 and 1100–1104). The handlers of `charm.py`,
`relations/peers.py`, `upgrade.py` and `relations/backend_database.py` call one,
both or none of the two.

The model takes the case of a reachable container. A unit that has handled
`pebble-ready` has its services in the pebble plan, so `render_pgb_config` does
not raise. A pod that is replaced loses its files and keeps its databag.
`revision` counts the changes of the secret's content; it and `pushed`, the
revision that a unit has pushed last in its present container, are read by no
handler.

* `follows_of_reach`: when the file follows the secret.
* `file_left_behind`: the upgrade rewrites the secret, and the next handler
  renders the ini for hashes that PgBouncer does not have.
-/

namespace PgBouncerK8s.Auth.Userlist

/-! ## Model -/

/-- The two values of `auth_type`. -/
inductive AuthType
  | md5
  | scramSha256
  deriving DecidableEq

/-- `auth_type` (`charm.py`, lines 1030–1033), chosen by a substring of the
    userlist. -/
def authTypeOf (statsUser : Plain) (userlist : Option String) : AuthType :=
  if (monitoringPrefix statsUser).toList <:+: (userlist.getD "").toList then .md5
  else .scramSha256

/-- One unit: `container_initialised` and `userlist_nonce` of its databag, the
    files of its container that can hold a userlist, and the `auth_type` of its
    ini. -/
structure UnitState where
  initialised : Bool
  nonce : Option String
  files : String → Option String
  authType : AuthType
  pushed : Option ℕ

/-- The deployment. -/
structure World where
  charm : Charm
  revision : ℕ
  leader : ℕ
  unit : ℕ → UnitState

/-- `auth_file` (`charm.py`, lines 324–329): the path. -/
def UnitState.authFile (c : Charm) (s : UnitState) : String :=
  match s.nonce with
  | some nonce => "/dev/shm/" ++ c.appName.1 ++ "_" ++ nonce
  | none => ""

/-- `render_auth_file` (`charm.py`, lines 1100–1104). -/
def renderAuthFile (c : Charm) (revision : ℕ) (s : UnitState) : UnitState :=
  { s with
    files := match c.authFile with
      | some content => Function.update s.files (s.authFile c) (some content)
      | none => s.files
    pushed := some revision }

/-- `render_pgb_config` (`charm.py`, lines 1011–1098), as far as it concerns the
    userlist. -/
def renderPgbConfig (configValid : Bool) (c : Charm) (s : UnitState) : UnitState :=
  if !configValid then s else { s with authType := authTypeOf (c.ownUser .stats) c.authFile }

/-- Replace the state of a unit. -/
def World.setUnit (w : World) (u : ℕ) (s : UnitState) : World :=
  { w with unit := Function.update w.unit u s }

/-- Replace the secrets. -/
def World.setCharm (w : World) (c : Charm) : World :=
  { w with
    charm := c
    revision := if c.authFile = w.charm.authFile then w.revision else w.revision + 1 }

/-- The hook of `database-created` on unit `u`. -/
def World.created (w : World) (u : ℕ) (h : CreatedHook) : CreatedHook :=
  { h with
    leader := u = w.leader
    containerReady := (w.unit u).initialised
    pgbRunning := (w.unit u).initialised && h.pgbRunning }

/-- The hook of the upgrade on unit `u`. -/
def World.upgraded (w : World) (u : ℕ) (h : UpgradeHook) : UpgradeHook :=
  { h with leader := u = w.leader }

/-- `_on_pgbouncer_pebble_ready` (`charm.py`, lines 331–362); `generate_password`
    does not draw a nonce whose file exists. -/
def onPebbleReady (w : World) (u : ℕ) (peersRelated configValid : Bool) (nonce : String) :
    Option World :=
  if !peersRelated then some w
  else
    let s := { w.unit u with nonce := some nonce }
    if (s.files (s.authFile w.charm)).isSome then none
    else
      let s := renderPgbConfig configValid w.charm (renderAuthFile w.charm w.revision s)
      some (w.setUnit u { s with initialised := true })

/-- `_on_database_created` (`backend_database.py`, lines 303–392). -/
def onDatabaseCreated (w : World) (u : ℕ) (h : CreatedHook) (configValid : Bool) : Option World :=
  (Auth.onDatabaseCreated (w.created u h) w.charm).map fun (c, renders) =>
    let w := w.setCharm c
    if renders then
      w.setUnit u (renderPgbConfig configValid c (renderAuthFile c w.revision (w.unit u)))
    else w

/-- `_on_upgrade_changed` (`upgrade.py`, lines 174–183). -/
def onUpgradeChanged (w : World) (u : ℕ) (pgbRunning configValid : Bool) : World :=
  if (w.unit u).initialised && pgbRunning then
    w.setUnit u (renderPgbConfig configValid w.charm (w.unit u))
  else w

/-- `Peers._on_changed` (`relations/peers.py`, lines 116–142), which handles
    `secret-changed` too. -/
def onPeerChanged (w : World) (u : ℕ) (configValid : Bool) : World :=
  if (w.unit u).initialised then w.setUnit u (renderPgbConfig configValid w.charm (w.unit u))
  else w

/-- The files of a unit's container are lost; its ini is not read before it is
    rendered again. -/
def UnitState.replaced (s : UnitState) : UnitState :=
  { s with files := fun _ => none, pushed := none }

/-! ## The machine -/

inductive Action
  | elect (u : ℕ)
  | podReplaced (u : ℕ)
  | pebbleReady (u : ℕ) (peersRelated configValid : Bool) (nonce : String)
  | created (u : ℕ) (h : CreatedHook) (configValid : Bool)
  | upgradeReady (u : ℕ) (h : UpgradeHook)
  | upgradeChanged (u : ℕ) (pgbRunning configValid : Bool)
  | peerChanged (u : ℕ) (configValid : Bool)

def step (w : World) : Action → Option World
  | .elect u => some { w with leader := u }
  | .podReplaced u => some (w.setUnit u (w.unit u).replaced)
  | .pebbleReady u peersRelated configValid nonce =>
    onPebbleReady w u peersRelated configValid nonce
  | .created u h configValid => onDatabaseCreated w u h configValid
  | .upgradeReady u h => (onUpgradePebbleReady (w.upgraded u h) w.charm).map w.setCharm
  | .upgradeChanged u pgbRunning configValid => some (onUpgradeChanged w u pgbRunning configValid)
  | .peerChanged u configValid => some (onPeerChanged w u configValid)

/-- Runs start before any unit has pushed its userlist, whatever the secret
    is. -/
def machine : Machine World Action where
  init w := ∀ u, (w.unit u).pushed = none
  step := step

/-! ## The property and the condition -/

/-- The file at the unit's path is the secret, and the `auth_type` in its ini
    is the one for this file. -/
def UnitState.Follows (c : Charm) (s : UnitState) : Prop :=
  s.files (s.authFile c) = c.authFile ∧
    s.authType = authTypeOf (c.ownUser .stats) (s.files (s.authFile c))

/-- The step renders the ini of unit `u`. -/
def Renders (w : World) (u : ℕ) : Action → Prop
  | .elect _ => False
  | .podReplaced _ => False
  | .pebbleReady v peersRelated configValid _ =>
    v = u ∧ peersRelated = true ∧ configValid = true
  | .created v h configValid => v = u ∧ configValid = true ∧
      (Auth.onDatabaseCreated (w.created u h) w.charm).any Prod.snd = true
  | .upgradeReady _ _ => False
  | .upgradeChanged v pgbRunning configValid =>
    v = u ∧ (w.unit u).initialised = true ∧ pgbRunning = true ∧ configValid = true
  | .peerChanged v configValid => v = u ∧ (w.unit u).initialised = true ∧ configValid = true

/-- A handler that renders the ini only finds the secret as it was when the
    unit pushed its userlist last, in the same container. -/
def Orderly (w : World) : Action → Prop
  | .upgradeChanged u pgbRunning configValid => (w.unit u).initialised = true →
      pgbRunning = true → configValid = true → (w.unit u).pushed = some w.revision
  | .peerChanged u configValid => (w.unit u).initialised = true → configValid = true →
      (w.unit u).pushed = some w.revision
  | _ => True

instance (w : World) : (a : Action) → Decidable (Orderly w a)
  | .elect _ => .isTrue trivial
  | .podReplaced _ => .isTrue trivial
  | .pebbleReady _ _ _ _ => .isTrue trivial
  | .created _ _ _ => .isTrue trivial
  | .upgradeReady _ _ => .isTrue trivial
  | .upgradeChanged _ _ _ => inferInstanceAs (Decidable (_ → _ → _ → _))
  | .peerChanged _ _ => inferInstanceAs (Decidable (_ → _ → _))

/-! ## One unit -/

section Unit

variable {c c' : Charm} {s : UnitState} {revision : ℕ}

/-- A unit that has pushed the newest revision has it. -/
def UnitState.Current (c : Charm) (revision : ℕ) (s : UnitState) : Prop :=
  ∀ r, s.pushed = some r →
    r ≤ revision ∧ (r = revision → s.files (s.authFile c) = c.authFile)

/-- Without a secret nothing is pushed. -/
theorem files_renderAuthFile (revision : ℕ)
    (hnone : c.authFile = none → s.files (s.authFile c) = none) :
    (renderAuthFile c revision s).files (s.authFile c) = c.authFile := by
  unfold renderAuthFile
  cases hc : c.authFile with
  | none => exact hnone hc
  | some content => exact Function.update_self _ _ _

theorem current_renderAuthFile (revision : ℕ)
    (hnone : c.authFile = none → s.files (s.authFile c) = none) :
    (renderAuthFile c revision s).Current c revision := by
  intro r hr
  obtain rfl : revision = r := by simpa [renderAuthFile] using hr
  exact ⟨le_rfl, fun _ => files_renderAuthFile revision hnone⟩

theorem current_renderPgbConfig (configValid : Bool) (hs : s.Current c revision) :
    (renderPgbConfig configValid c s).Current c revision := by
  unfold renderPgbConfig
  split_ifs
  · exact hs
  · exact hs

/-- An ini rendered while the file is the secret. -/
theorem follows_renderPgbConfig (hs : s.files (s.authFile c) = c.authFile) :
    (renderPgbConfig true c s).Follows c := by
  refine ⟨hs, ?_⟩
  show authTypeOf (c.ownUser .stats) c.authFile =
    authTypeOf (c.ownUser .stats) (s.files (s.authFile c))
  rw [hs]

end Unit

/-- Where `_on_database_created` goes on to render, there is a secret. -/
theorem authFile_of_renders {h : CreatedHook} {c c' : Charm}
    (hc : Auth.onDatabaseCreated h c = some (c', true)) : c'.authFile ≠ none := by
  rcases created_spec hc with ⟨-, hf⟩ | ⟨_, _, _, -, -, -, -, hf⟩
  · exact hf rfl
  · exact hf

/-! ## Every run -/

variable {w w' : World} {a : Action} {u : ℕ}

/-- No unit believes to be newer than the secret. -/
def Inv (w : World) : Prop := ∀ u, (w.unit u).Current w.charm w.revision

theorem Inv.setUnit (hi : Inv w) {s : UnitState} (hs : s.Current w.charm w.revision) (u : ℕ) :
    Inv (w.setUnit u s) := by
  intro v
  by_cases hv : v = u
  · subst hv
    simpa [World.setUnit] using hs
  · simpa [World.setUnit, hv] using hi v

/-- A change of the secret makes what the units have pushed old. -/
theorem Inv.setCharm (hi : Inv w) {c : Charm} (hname : c.appName = w.charm.appName) :
    Inv (w.setCharm c) := by
  intro v r hr
  obtain ⟨hle, hfile⟩ := hi v r hr
  by_cases hc : c.authFile = w.charm.authFile
  · simp only [World.setCharm, if_pos hc]
    refine ⟨hle, fun he => ?_⟩
    rw [hc, ← hfile he]
    simp only [UnitState.authFile, hname]
  · simp only [World.setCharm, if_neg hc]
    exact ⟨by omega, fun he => by omega⟩

theorem inv_pebbleReady {peersRelated configValid : Bool} {nonce : String} (hi : Inv w)
    (ha : onPebbleReady w u peersRelated configValid nonce = some w') : Inv w' := by
  unfold onPebbleReady at ha
  simp only at ha
  split_ifs at ha with hp hf
  · cases ha
    exact hi
  · cases ha
    refine hi.setUnit ?_ u
    refine current_renderPgbConfig configValid (current_renderAuthFile _ fun _ => ?_)
    simpa using hf

theorem inv_created {h : CreatedHook} {configValid : Bool} (hi : Inv w)
    (ha : onDatabaseCreated w u h configValid = some w') : Inv w' := by
  simp only [onDatabaseCreated, Option.map_eq_some_iff] at ha
  obtain ⟨⟨c, renders⟩, hc, rfl⟩ := ha
  have hname : c.appName = w.charm.appName := by
    rcases created_spec hc with ⟨hs, -⟩ | ⟨_, _, _, -, -, -, hwr, -⟩
    · exact hs.appName
    · exact hwr.appName
  have hi' := hi.setCharm hname
  cases renders with
  | false => exact hi'
  | true =>
    refine hi'.setUnit ?_ u
    refine current_renderPgbConfig configValid (current_renderAuthFile _ fun hn => ?_)
    exact absurd hn (authFile_of_renders hc)

theorem inv_step (hi : Inv w) (ha : step w a = some w') : Inv w' := by
  cases a with
  | elect u =>
    cases ha
    exact hi
  | podReplaced u =>
    cases ha
    refine hi.setUnit (fun r hr => ?_) u
    cases hr
  | pebbleReady u peersRelated configValid nonce => exact inv_pebbleReady hi ha
  | created u h configValid => exact inv_created hi ha
  | upgradeReady u h =>
    simp only [step, Option.map_eq_some_iff] at ha
    obtain ⟨c, hc, rfl⟩ := ha
    exact hi.setCharm (upgrade_appName hc)
  | upgradeChanged u pgbRunning configValid =>
    cases ha
    unfold onUpgradeChanged
    split_ifs
    · exact hi.setUnit (current_renderPgbConfig configValid (hi u)) u
    · exact hi
  | peerChanged u configValid =>
    cases ha
    unfold onPeerChanged
    split_ifs
    · exact hi.setUnit (current_renderPgbConfig configValid (hi u)) u
    · exact hi

theorem inv_of_reach (hw : machine.Reach Orderly w) : Inv w := by
  refine hw.invariant (I := Inv) ?_ ?_
  · intro w hw u r hr
    rw [hw u] at hr
    cases hr
  · intro w a w' _ hi _ ha
    exact inv_step hi ha

theorem Inv.file (hi : Inv w) (hp : (w.unit u).pushed = some w.revision) :
    (w.unit u).files ((w.unit u).authFile w.charm) = w.charm.authFile :=
  (hi u w.revision hp).2 rfl

@[simp] theorem setUnit_unit (w : World) (u : ℕ) (s : UnitState) : (w.setUnit u s).unit u = s :=
  Function.update_self _ _ _

/-- In orderly runs, after every handler that renders the ini of a unit, the
    unit's file is the secret and matches its `auth_type`. -/
theorem follows_of_reach (hw : machine.Reach Orderly w) (hg : Orderly w a)
    (ha : step w a = some w') (hr : Renders w u a) : (w'.unit u).Follows w'.charm := by
  have hi := inv_of_reach hw
  cases a with
  | elect v => cases hr
  | podReplaced v => cases hr
  | pebbleReady v peersRelated configValid nonce =>
    obtain ⟨rfl, rfl, rfl⟩ := hr
    simp only [step, onPebbleReady, Bool.not_true, Bool.false_eq_true, if_false] at ha
    split_ifs at ha with hf
    cases ha
    rw [setUnit_unit]
    exact follows_renderPgbConfig (files_renderAuthFile w.revision fun _ => by simpa using hf)
  | created v h configValid =>
    obtain ⟨rfl, rfl, hany⟩ := hr
    simp only [step, onDatabaseCreated, Option.map_eq_some_iff] at ha
    obtain ⟨⟨c, renders⟩, hc, rfl⟩ := ha
    obtain rfl : renders = true := by simpa [hc] using hany
    simp only [if_true, setUnit_unit]
    exact follows_renderPgbConfig
      (files_renderAuthFile _ fun hn => absurd hn (authFile_of_renders hc))
  | upgradeReady v h => cases hr
  | upgradeChanged v pgbRunning configValid =>
    obtain ⟨rfl, hinit, rfl, rfl⟩ := hr
    cases ha
    simp only [onUpgradeChanged, hinit, Bool.and_self, if_true, setUnit_unit]
    exact follows_renderPgbConfig (hi.file (hg hinit rfl rfl))
  | peerChanged v configValid =>
    obtain ⟨rfl, hinit, rfl⟩ := hr
    cases ha
    simp only [onPeerChanged, hinit, if_true, setUnit_unit]
    exact follows_renderPgbConfig (hi.file (hg hinit rfl))

/-! ## Two runs -/

/-- An older revision was replaced: new containers, the old secret. -/
def sampleWorld : World :=
  ⟨olderCharm, 0, 0, fun _ => ⟨false, none, fun _ => none, .scramSha256, none⟩⟩

/-- The leader starts, its upgrade handler migrates the secret, and the upgrade
    relation changes. -/
theorem file_left_behind :
    ∃ w w', machine.Reach Machine.always w ∧ step w (.upgradeChanged 0 true true) = some w' ∧
      Renders w 0 (.upgradeChanged 0 true true) ∧ (w'.unit 0).authType = .scramSha256 ∧
      authTypeOf (w'.charm.ownUser .stats)
        ((w'.unit 0).files ((w'.unit 0).authFile w'.charm)) = .md5 ∧
      ¬ (w'.unit 0).Follows w'.charm := by
  obtain ⟨w, hw, hp⟩ := Machine.exists_reach_of_exec machine Machine.always sampleWorld
    [.pebbleReady 0 true true "n", .upgradeReady 0 sampleUpgrade]
    (fun w => (w.unit 0).initialised && (step w (.upgradeChanged 0 true true)).any
      fun w' : World => decide ((w'.unit 0).authType = .scramSha256) &&
        decide (authTypeOf (w'.charm.ownUser .stats)
          ((w'.unit 0).files ((w'.unit 0).authFile w'.charm)) = .md5))
    (fun _ => rfl) (by decide +kernel)
  simp only [Bool.and_eq_true, Option.any_eq_true, decide_eq_true_eq] at hp
  obtain ⟨hinit, w', hstep, hscram, hmd5⟩ := hp
  refine ⟨w, w', hw, hstep, ⟨rfl, hinit, rfl, rfl⟩, hscram, hmd5, fun hf => ?_⟩
  have htype := hf.2
  rw [hscram, hmd5] at htype
  cases htype

/-- The leader is restarted before the ini is rendered again. -/
theorem file_pushed_again :
    ∃ w w', machine.Reach Orderly w ∧ w.revision = 1 ∧
      step w (.upgradeChanged 0 true true) = some w' ∧ (w'.unit 0).Follows w'.charm := by
  obtain ⟨w, hw, hp⟩ := Machine.exists_reach_of_exec machine Orderly sampleWorld
    [.pebbleReady 0 true true "n", .upgradeReady 0 sampleUpgrade, .pebbleReady 0 true true "m"]
    (fun w => (w.unit 0).initialised && w.revision == 1 && decide ((w.unit 0).pushed = some 1))
    (fun _ => rfl) (by decide +kernel)
  simp only [Bool.and_eq_true, beq_iff_eq, decide_eq_true_eq] at hp
  obtain ⟨⟨hinit, hrev⟩, hpushed⟩ := hp
  have hg : Orderly w (.upgradeChanged 0 true true) := fun _ _ _ => by rw [hpushed, hrev]
  exact ⟨w, _, hw, hrev, rfl, follows_of_reach hw hg rfl ⟨rfl, hinit, rfl, rfl⟩⟩

end PgBouncerK8s.Auth.Userlist
