import PgBouncerK8s.Auth.Secrets
import PgBouncerK8s.Lib.Machine
import PgBouncerK8s.Model.Databag

/-!
# Who initialises the application

PostgreSQL shares its credentials once. Each unit then emits `database_created`: the leader
writes the auth file, the others wait for it. Who has to wait defers the event, but a follower
whose container is not ready drops it. Any unit may become the leader at any time.

Juju may deliver `relation-changed` at any time. Deferred events are re-emitted one by one
here, in any order and between any other steps, which includes the order of a single hook; a
hook that raises changes nothing. The relation lasts. PgBouncer asks for no entity, so that
`entity-type` is in no databag.

* `initialised_of_reach`: where no follower drops the event, the next hook of the leader can
  initialise the application.
* `uninitialised_of_exec`: under a leader that has dropped it, the application is never
  initialised.
-/

namespace PgBouncerK8s.DatabaseCreated

open Machine
open Auth (Charm CreatedHook PasswordKey Plain)

/-! ## Model -/

/-- A unit: `data`, where `diff` keeps what it has seen of the databag of PostgreSQL, and the
    number of its deferred `database_created` events. -/
structure Unit where
  data : Databag
  deferred : ℕ

/-- The keys that `diff` finds to be added (`data_interfaces.py`, lines 590–597), as a
    predicate. -/
def Unit.added (x : Unit) (remote : Databag) (k : String) : Bool :=
  remote.contains k && !x.data.contains k

/-- `_main_credentials_shared` (`data_interfaces.py`, lines 2271–2279). -/
def mainCredentialsShared (added : String → Bool) : Bool :=
  added "secret-user" || (added "username" && added "password")

/-- `_on_relation_changed_event` of `DatabaseRequirerEventHandlers` (`data_interfaces.py`,
    lines 3883–3954): the unit with its new `data`, and whether `database_created` is
    emitted. `state` is that of the remote unit. -/
def Unit.onRelationChangedEvent (remote : Databag) (state : Option String) (x : Unit) :
    Unit × Bool :=
  if remote.get "subordinated" = some "true" ∧ state ≠ some "ready" then (x, false)
  else ({ x with data := remote }, mainCredentialsShared (x.added remote))

/-- The application, and the databag of PostgreSQL without its own `data`. -/
structure World where
  leader : ℕ
  charm : Charm
  remote : Databag
  units : ℕ → Unit

/-- `_on_database_created` on unit `u` (`backend_database.py`, lines 303–392): where it does
    not go on to render, it defers the event, or it is a follower whose container is not
    ready. -/
def World.emit (w : World) (u : ℕ) (h : CreatedHook) : Option World :=
  (Auth.onDatabaseCreated { h with leader := u = w.leader } w.charm).map fun (charm, renders) =>
    let x := w.units u
    let defers := !renders && (u = w.leader || h.containerReady)
    { w with
      charm := charm
      units := Function.update w.units u
        { x with deferred := if defers then x.deferred + 1 else x.deferred } }

/-- `write` is a write of PostgreSQL, with the user name it shares, `changed` and `reemit` are
    hooks of the unit `u`. -/
inductive Action
  | write (remote : Databag) (username : Option Plain)
  | elect (u : ℕ)
  | changed (u : ℕ) (state : Option String) (h : CreatedHook)
  | reemit (u : ℕ) (h : CreatedHook)

def step (w : World) : Action → Option World
  | .write remote username =>
    some { w with remote := remote, charm := { w.charm with relation := some username } }
  | .elect u => some { w with leader := u }
  | .changed u state h =>
    let (x, emitted) := (w.units u).onRelationChangedEvent w.remote state
    let w := { w with units := Function.update w.units u x }
    if emitted then w.emit u h else some w
  | .reemit u h =>
    let x := w.units u
    if 0 < x.deferred then
      World.emit { w with
        units := Function.update w.units u { x with deferred := x.deferred - 1 } } u h
    else none

/-- The relation is created. -/
structure Initial (w : World) : Prop where
  relation : w.charm.relation = some none
  authFile : w.charm.authFile = none
  remote : w.remote = Databag.empty
  units : w.units = fun _ => ⟨Databag.empty, 0⟩

def machine : Machine World Action where
  init := Initial
  step := step

/-! ## One emission -/

variable {w w' : World} {u v : ℕ} {x : Unit} {remote : Databag} {state : Option String}
  {h : CreatedHook}

/-- The databag has credentials. -/
def Shared (d : Databag) : Prop := mainCredentialsShared d.contains = true

/-- What an emission leaves alone, and what it does. -/
structure Emitted (w : World) (u : ℕ) (h : CreatedHook) (w' : World) : Prop where
  leader : w'.leader = w.leader
  remote : w'.remote = w.remote
  other : ∀ v, v ≠ u → w'.units v = w.units v
  data : (w'.units u).data = (w.units u).data
  kept : w.charm.authFile ≠ none → w'.charm.authFile ≠ none
  follower : u ≠ w.leader → w'.charm = w.charm
  pending : u = w.leader ∨ h.containerReady = true →
    0 < (w'.units u).deferred ∨ w'.charm.authFile ≠ none

theorem emitted_of_emit (hw : w.emit u h = some w') : Emitted w u h w' := by
  unfold World.emit at hw
  obtain ⟨⟨charm, renders⟩, hc, rfl⟩ := Option.map_eq_some_iff.mp hw
  have hfile := Auth.created_spec hc
  constructor
  case leader => rfl
  case remote => rfl
  case other => exact fun v hv => Function.update_of_ne hv _ _
  case data => simp
  case kept =>
    intro hne
    rcases hfile with ⟨hsame, -⟩ | ⟨_, _, _, -, -, -, -, hsome⟩
    · exact hsame.authFile ▸ hne
    · exact hsome
  case follower =>
    intro hu
    unfold Auth.onDatabaseCreated at hc
    rw [if_pos (by simp [hu])] at hc
    cases hc
    rfl
  case pending =>
    intro hready
    cases renders with
    | true =>
      rcases hfile with ⟨-, hsome⟩ | ⟨_, _, _, -, -, -, -, hsome⟩
      · exact .inr (hsome rfl)
      · exact .inr hsome
    | false =>
      have hdefers : (decide (u = w.leader) || h.containerReady) = true := by
        simpa using hready
      simp [hdefers]

theorem onRelationChangedEvent_cases (remote : Databag) (state : Option String) (x : Unit) :
    x.onRelationChangedEvent remote state = (x, false) ∨
      x.onRelationChangedEvent remote state =
        ({ x with data := remote }, mainCredentialsShared (x.added remote)) := by
  unfold Unit.onRelationChangedEvent
  split_ifs
  · exact .inl rfl
  · exact .inr rfl

/-! ## No event is dropped -/

/-- User name and password are there together. -/
def Together (d : Databag) : Prop := d.contains "username" = d.contains "password"

/-- If the unit emits the event, it does not drop it. -/
def Holds (w : World) (u : ℕ) (h : CreatedHook) : Prop :=
  w.charm.authFile = none → u = w.leader ∨ h.containerReady = true

/-- PostgreSQL writes user name and password together, and as long as there is no auth file, no
    follower emits the event before its container is ready. -/
def NoneDropped (w : World) : Action → Prop
  | .write remote _ => Together remote
  | .elect _ => True
  | .changed u state h =>
    ((w.units u).onRelationChangedEvent w.remote state).2 = true → Holds w u h
  | .reemit u h => Holds w u h

/-- Credentials are added, or the unit has seen them. -/
theorem Unit.shared_or_added (hx : Together x.data) (hremote : Together remote)
    (hshared : Shared remote) :
    Shared x.data ∨ mainCredentialsShared (x.added remote) = true := by
  unfold Together Shared mainCredentialsShared Unit.added at *
  cases hs : x.data.contains "secret-user" <;> cases hu : x.data.contains "username" <;>
    simp_all

/-- Who has seen the credentials has the event deferred, until there is an auth file. -/
structure Inv (w : World) : Prop where
  remote : Together w.remote
  data : ∀ u, Together (w.units u).data
  pending : ∀ u, Shared (w.units u).data →
    0 < (w.units u).deferred ∨ w.charm.authFile ≠ none

theorem inv_of_initial (hw : Initial w) : Inv w where
  remote := by
    rw [hw.remote]
    rfl
  data u := by
    rw [hw.units]
    rfl
  pending u hs := by
    rw [hw.units] at hs
    cases hs

/-- An emission settles the unit, whatever it had pending. -/
theorem Inv.of_emitted (he : Emitted w u h w') (hholds : Holds w u h) (hremote : Together w.remote)
    (hdata : ∀ v, Together (w.units v).data)
    (hpending : ∀ v, v ≠ u → Shared (w.units v).data →
      0 < (w.units v).deferred ∨ w.charm.authFile ≠ none) : Inv w' where
  remote := he.remote ▸ hremote
  data v := by
    by_cases hv : v = u
    · subst hv
      exact he.data ▸ hdata v
    · exact he.other v hv ▸ hdata v
  pending v hs := by
    by_cases hv : v = u
    · subst hv
      by_cases hmissing : w.charm.authFile = none
      · exact he.pending (hholds hmissing)
      · exact .inr (he.kept hmissing)
    · rw [he.other v hv] at hs ⊢
      exact (hpending v hv hs).imp_right he.kept

theorem Inv.step {a : Action} (hi : Inv w) (hg : NoneDropped w a)
    (hs : machine.step w a = some w') : Inv w' := by
  cases a with
  | write remote username =>
    cases hs
    exact ⟨hg, hi.data, hi.pending⟩
  | elect u =>
    cases hs
    exact ⟨hi.remote, hi.data, hi.pending⟩
  | changed u state h =>
    obtain he | he := onRelationChangedEvent_cases w.remote state (w.units u)
    · simp only [machine, DatabaseCreated.step, he, Bool.false_eq_true, if_false,
        Function.update_eq_self, Option.some_inj] at hs
      exact hs ▸ hi
    · simp only [machine, DatabaseCreated.step, he] at hs
      simp only [NoneDropped, he] at hg
      have hdata : ∀ v, Together (Function.update w.units u
          { w.units u with data := w.remote } v).data := by
        intro v
        by_cases hv : v = u
        · subst hv
          rw [Function.update_self]
          exact hi.remote
        · rw [Function.update_of_ne hv]
          exact hi.data v
      split_ifs at hs with hadded
      · refine Inv.of_emitted (emitted_of_emit hs) (hg hadded) hi.remote hdata
          fun v hv hshared => ?_
        simp only [Function.update_of_ne hv] at hshared ⊢
        exact hi.pending v hshared
      · -- what the unit sees, it has seen before
        cases hs
        refine ⟨hi.remote, hdata, fun v hshared => ?_⟩
        by_cases hv : v = u
        · subst hv
          simp only [Function.update_self] at hshared ⊢
          exact hi.pending v
            ((Unit.shared_or_added (hi.data v) hi.remote hshared).resolve_right hadded)
        · simp only [Function.update_of_ne hv] at hshared ⊢
          exact hi.pending v hshared
  | reemit u h =>
    obtain ⟨-, hs⟩ := Option.ite_none_right_eq_some.mp hs
    refine Inv.of_emitted (emitted_of_emit hs) hg hi.remote (fun v => ?_) fun v hv hshared => ?_
    · by_cases hv : v = u
      · subst hv
        simp only [Function.update_self]
        exact hi.data v
      · simp only [Function.update_of_ne hv]
        exact hi.data v
    · simp only [Function.update_of_ne hv] at hshared ⊢
      exact hi.pending v hshared

theorem inv_of_reach (hw : machine.Reach NoneDropped w) : Inv w :=
  hw.invariant (fun _ hs => inv_of_initial hs) fun _ _ _ _ hs hg ha => hs.step hg ha

/-- Nothing fails in the hook. -/
structure Succeeds (h : CreatedHook) : Prop where
  pgbRunning : h.pgbRunning = true
  connected : h.connected = true
  databaseRequested : h.databaseRequested = true
  hashed : ∀ key, ∃ hash, h.hashed key = .ok hash
  createUserOk : h.createUserOk = true
  authFunctionOk : h.authFunctionOk = true

theorem generate_of_succeeds (hs : Succeeds h) {c : Charm} (huser : c.relation.join.isSome = true)
    (key : PasswordKey) : ∃ c' hash, h.generate c key = some (c', some hash) ∧
      c'.relation = c.relation := by
  obtain ⟨hash, hh⟩ := hs.hashed key
  unfold CreatedHook.generate Charm.generateScramHash Charm.generateSystemUser
  simp only [hs.connected, huser, Bool.and_self, if_true, hh]
  exact ⟨_, hash, rfl, rfl⟩

/-- The leader writes the auth file. -/
theorem emit_of_succeeds (hs : Succeeds h) (huser : w.charm.relation.join.isSome = true) :
    ∃ w', w.emit w.leader h = some w' ∧ w'.charm.authFile ≠ none := by
  obtain ⟨username, hname⟩ := Option.isSome_iff_exists.mp huser
  obtain ⟨c₁, hash₁, hm, hr₁⟩ := generate_of_succeeds hs huser .monitoring
  obtain ⟨c₂, hash₂, ha, -⟩ := generate_of_succeeds hs (hr₁ ▸ huser) .admin
  have hc : ∃ c', Auth.onDatabaseCreated { h with leader := w.leader = w.leader } w.charm =
      some (c', true) := by
    unfold Auth.onDatabaseCreated Charm.authUser Auth.createUsers
    unfold CreatedHook.generate at hm ha
    rw [hs.connected] at hm ha
    simp [hs.pgbRunning, hs.connected, hs.databaseRequested, hs.createUserOk, hs.authFunctionOk,
      hname, CreatedHook.generate, hm, ha]
  obtain ⟨c', hc⟩ := hc
  refine ⟨_, Option.map_eq_some_iff.mpr ⟨_, hc, rfl⟩, ?_⟩
  rcases Auth.created_spec hc with ⟨-, hsome⟩ | ⟨_, _, _, -, -, -, -, hsome⟩
  · exact hsome rfl
  · exact hsome

/-- The initialisation is not lost, whoever leads: once PostgreSQL has shared its credentials, the
    leader's next hook writes the auth file, if nothing fails in it. -/
theorem initialised_of_reach (hw : machine.Reach NoneDropped w) (hshared : Shared w.remote)
    (huser : w.charm.relation.join.isSome = true)
    (hstate : w.remote.get "subordinated" = some "true" → state = some "ready")
    (hs : Succeeds h) : w.charm.authFile ≠ none ∨ ∃ a w',
      (a = .reemit w.leader h ∨ a = .changed w.leader state h) ∧ machine.step w a = some w' ∧
        w'.charm.authFile ≠ none := by
  have hi := inv_of_reach hw
  by_cases hseen : Shared (w.units w.leader).data
  · refine (hi.pending w.leader hseen).symm.imp_right fun hdeferred => ?_
    obtain ⟨w', he, hfile⟩ := emit_of_succeeds (w := { w with
      units := Function.update w.units w.leader { w.units w.leader with
        deferred := (w.units w.leader).deferred - 1 } }) hs huser
    exact ⟨_, w', .inl rfl, (if_pos hdeferred).trans he, hfile⟩
  · have hadded := (Unit.shared_or_added (hi.data w.leader) hi.remote hshared).resolve_left hseen
    obtain ⟨w', he, hfile⟩ := emit_of_succeeds (w := { w with
      units := Function.update w.units w.leader { w.units w.leader with
        data := w.remote } }) hs huser
    refine .inr ⟨_, w', .inr rfl, ?_, hfile⟩
    have hchanged : (w.units w.leader).onRelationChangedEvent w.remote state =
        ({ w.units w.leader with data := w.remote }, true) := by
      unfold Unit.onRelationChangedEvent
      rw [if_neg fun hsub => hsub.2 (hstate hsub.1), hadded]
    simp only [machine, DatabaseCreated.step, hchanged, if_true]
    exact he

instance (w : World) : (a : Action) → Decidable (NoneDropped w a)
  | .write remote _ =>
      inferInstanceAs (Decidable (remote.contains "username" = remote.contains "password"))
  | .elect _ => inferInstanceAs (Decidable True)
  | .changed u state h => inferInstanceAs (Decidable
      (((w.units u).onRelationChangedEvent w.remote state).2 = true → w.charm.authFile = none →
        u = w.leader ∨ h.containerReady = true))
  | .reemit u h => inferInstanceAs (Decidable
      (w.charm.authFile = none → u = w.leader ∨ h.containerReady = true))

/-- The relation of an application whose leader is unit 0. -/
def created : World :=
  ⟨0, ⟨⟨"pgbouncer-k8s", by decide +kernel⟩, some none, none, fun _ => none⟩, Databag.empty,
    fun _ => ⟨Databag.empty, 0⟩⟩

theorem initial_created : Initial created := ⟨rfl, rfl, rfl, rfl⟩

def sampleRemote : Databag :=
  Databag.empty.update [("endpoints", "10.1.0.1:5432"), ("secret-user", "secret:1")]

/-- A hook in which nothing fails, where both hold. -/
def sampleHook (containerReady pgbRunning : Bool) : CreatedHook :=
  ⟨true, containerReady, true, pgbRunning, true, true, fun _ => "secret", Auth.sampleHash,
    fun _ => .ok Auth.sampleHash, true, true⟩

theorem succeeds_sampleHook : Succeeds (sampleHook true true) :=
  ⟨rfl, rfl, rfl, fun _ => ⟨Auth.sampleHash, rfl⟩, rfl, rfl⟩

/-- The first leader cannot do it yet, and another unit takes over. -/
theorem initialised_of_reach_sample : ∃ w, machine.Reach NoneDropped w ∧ w.leader = 1 ∧
    w.charm.authFile = none ∧ ∃ a w', machine.step w a = some w' ∧ w'.charm.authFile ≠ none := by
  obtain ⟨w, hw, hp⟩ := exists_reach_of_exec machine NoneDropped created
    [.write sampleRemote (some ⟨"relation-1", by decide +kernel⟩),
      .changed 1 none (sampleHook true true), .changed 0 none (sampleHook true false), .elect 1]
    (fun w => decide (w.leader = 1 ∧ w.charm.authFile = none ∧
      mainCredentialsShared w.remote.contains = true ∧ w.charm.relation.join.isSome = true ∧
      w.remote.get "subordinated" = none)) initial_created (by decide +kernel)
  obtain ⟨hleader, hmissing, hshared, huser, hsub⟩ := of_decide_eq_true hp
  have hstate : w.remote.get "subordinated" = some "true" → none = some "ready" := fun he => by
    simp [hsub] at he
  obtain hfile | ⟨a, w', -, hs, hfile⟩ :=
    initialised_of_reach hw hshared huser hstate succeeds_sampleHook
  · exact absurd hmissing hfile
  · exact ⟨w, hw, hleader, hmissing, a, w', hs, hfile⟩

/-! ## The leader has dropped it -/

/-- The keys of the credentials. -/
def credentials : List String := ["secret-user", "username", "password"]

/-- The unit has seen all credentials, and has no event left. -/
structure Dropped (w : World) (u : ℕ) : Prop where
  deferred : (w.units u).deferred = 0
  seen : ∀ k ∈ credentials, w.remote.contains k = true → (w.units u).data.contains k = true

/-- PostgreSQL adds no credentials, and only units that have dropped the event too become the
    leader. -/
def Unclaimed (w : World) : Action → Prop
  | .write remote _ => ∀ k ∈ credentials, remote.contains k = true → w.remote.contains k = true
  | .elect u => Dropped w u
  | .changed _ _ _ | .reemit _ _ => True

theorem Dropped.not_added (hd : Dropped w u) :
    mainCredentialsShared ((w.units u).added w.remote) = false := by
  have hnone : ∀ k ∈ credentials, (w.units u).added w.remote k = false := by
    intro k hk
    unfold Unit.added
    cases hr : w.remote.contains k with
    | false => rfl
    | true => simp [hd.seen k hk hr]
  unfold mainCredentialsShared
  rw [hnone "secret-user" (by simp [credentials]), hnone "username" (by simp [credentials])]
  rfl

theorem Dropped.of_emitted (hd : Dropped w w.leader) (he : Emitted w u h w')
    (hu : u ≠ w.leader) : Dropped w' w'.leader := by
  have hsame := he.other w.leader (Ne.symm hu)
  refine ⟨?_, fun k hk hr => ?_⟩
  · rw [he.leader, hsame]
    exact hd.deferred
  · rw [he.leader, hsame]
    exact hd.seen k hk (he.remote ▸ hr)

theorem Dropped.step {a : Action} (hd : Dropped w w.leader) (hmissing : w.charm.authFile = none)
    (hg : Unclaimed w a) (hs : machine.step w a = some w') :
    Dropped w' w'.leader ∧ w'.charm.authFile = none := by
  cases a with
  | write remote username =>
    cases hs
    exact ⟨⟨hd.deferred, fun k hk hr => hd.seen k hk (hg k hk hr)⟩, hmissing⟩
  | elect u =>
    cases hs
    exact ⟨⟨hg.deferred, hg.seen⟩, hmissing⟩
  | changed u state h =>
    obtain he | he := onRelationChangedEvent_cases w.remote state (w.units u)
    · simp only [machine, DatabaseCreated.step, he, Bool.false_eq_true, if_false,
        Function.update_eq_self, Option.some_inj] at hs
      exact hs ▸ ⟨hd, hmissing⟩
    · simp only [machine, DatabaseCreated.step, he] at hs
      by_cases hu : u = w.leader
      · -- all credentials are known
        subst hu
        rw [if_neg (by simp [hd.not_added])] at hs
        cases hs
        refine ⟨⟨?_, fun k _ hr => ?_⟩, hmissing⟩
        · simp only [Function.update_self]
          exact hd.deferred
        · simp only [Function.update_self]
          exact hr
      · have hd' : Dropped { w with
            units := Function.update w.units u { w.units u with data := w.remote } }
              w.leader := by
          refine ⟨?_, fun k hk hr => ?_⟩
          · simp only [Function.update_of_ne (Ne.symm hu)]
            exact hd.deferred
          · simp only [Function.update_of_ne (Ne.symm hu)]
            exact hd.seen k hk hr
        split_ifs at hs
        · have hemitted := emitted_of_emit hs
          exact ⟨hd'.of_emitted hemitted hu, hemitted.follower hu ▸ hmissing⟩
        · cases hs
          exact ⟨hd', hmissing⟩
  | reemit u h =>
    obtain ⟨hdeferred, hs⟩ := Option.ite_none_right_eq_some.mp hs
    have hu : u ≠ w.leader := by
      rintro rfl
      exact hdeferred.ne' hd.deferred
    have hd' : Dropped { w with
        units := Function.update w.units u
          { w.units u with deferred := (w.units u).deferred - 1 } } w.leader := by
      refine ⟨?_, fun k hk hr => ?_⟩
      · simp only [Function.update_of_ne (Ne.symm hu)]
        exact hd.deferred
      · simp only [Function.update_of_ne (Ne.symm hu)]
        exact hd.seen k hk hr
    have hemitted := emitted_of_emit hs
    exact ⟨hd'.of_emitted hemitted hu, hemitted.follower hu ▸ hmissing⟩

instance (w : World) (u : ℕ) : Decidable (Dropped w u) :=
  decidable_of_iff ((w.units u).deferred = 0 ∧
    ∀ k ∈ credentials, w.remote.contains k = true → (w.units u).data.contains k = true)
    ⟨fun hd => ⟨hd.1, hd.2⟩, fun hd => ⟨hd.deferred, hd.seen⟩⟩

instance (w : World) : (a : Action) → Decidable (Unclaimed w a)
  | .write remote _ => inferInstanceAs (Decidable
      (∀ k ∈ credentials, remote.contains k = true → w.remote.contains k = true))
  | .elect u => inferInstanceAs (Decidable (Dropped w u))
  | .changed _ _ _ | .reemit _ _ => inferInstanceAs (Decidable True)

/-- Under a leader that has dropped the event no hook writes the auth file: the units that still
    have it deferred wait for the leader. -/
theorem uninitialised_of_exec {l : List Action} (hd : Dropped w w.leader)
    (hmissing : w.charm.authFile = none) (hl : machine.exec Unclaimed w l = some w') :
    w'.charm.authFile = none :=
  (exec_invariant (I := fun w => Dropped w w.leader ∧ w.charm.authFile = none)
    (fun _ _ _ hs hg ha => hs.1.step hs.2 hg ha) ⟨hd, hmissing⟩ hl).2

/-- A unit drops the event before its container is ready, and becomes the leader before the
    first leader is done. -/
theorem uninitialised_of_exec_sample : ∃ w w', machine.Reach always w ∧
    (w.units 0).deferred = 1 ∧ machine.exec Unclaimed w
      [.reemit 0 (sampleHook true true), .changed 1 none (sampleHook true true),
        .changed 0 none (sampleHook true true), .reemit 0 (sampleHook true true)] = some w' ∧
    w'.charm.authFile = none := by
  obtain ⟨w, hw, hp⟩ := exists_reach_of_exec machine always created
    [.write sampleRemote (some ⟨"relation-1", by decide +kernel⟩),
      .changed 1 none (sampleHook false false), .changed 0 none (sampleHook true false), .elect 1]
    (fun w => decide (Dropped w w.leader ∧ w.charm.authFile = none ∧ (w.units 0).deferred = 1 ∧
      (machine.exec Unclaimed w
        [.reemit 0 (sampleHook true true), .changed 1 none (sampleHook true true),
          .changed 0 none (sampleHook true true),
          .reemit 0 (sampleHook true true)]).isSome = true)) initial_created (by decide +kernel)
  obtain ⟨hd, hmissing, hdeferred, hl⟩ := of_decide_eq_true hp
  obtain ⟨w', hl⟩ := Option.isSome_iff_exists.mp hl
  exact ⟨w, w', hw, hdeferred, hl, uninitialised_of_exec hd hmissing hl⟩

end PgBouncerK8s.DatabaseCreated
