import PgBouncerK8s.Upgrade.OneAtATime

/-!
# Frozen upgrades

Kubernetes replaces a pod only where the partition reaches it, and the partition
only goes down where a unit is set completed or a stack of `units - 1` units is
resumed. `cluster_state` is `idle` between two pods, so that `pre-upgrade-check`
is accepted in the middle of an upgrade: it puts the partition back on top.

* `exec_frozen`: the runs in which no further pod is replaced.
* `frozen_of_action`: `pre-upgrade-check`, or `resume-upgrade` once more, after
  the second unit has been completed.
* `frozen_of_failed_check`: a highest unit that fails its version check.
-/

namespace PgBouncerK8s.DataUpgrade

open Machine

variable {c : Cluster} {w w' : World} {u v p : ℕ}

/-! ## The invariant -/

/-- No refresh, no pod that restarts, and no rollback that is prepared. -/
def Undisturbed (c : Cluster) (w : World) : Action → Prop
  | .refresh => False
  | .restart _ => False
  | .dispatch u event _ _ _ => event.isPreUpgradeCheck = true → w.findsFailed c u = false
  | _ => True

instance : (a : Action) → Decidable (Undisturbed c w a)
  | .refresh | .restart _ => inferInstanceAs (Decidable False)
  | .dispatch u event _ _ _ =>
      inferInstanceAs (Decidable (event.isPreUpgradeCheck = true → w.findsFailed c u = false))
  | .start _ | .elect _ | .roll _ | .restartContainer _ => inferInstanceAs (Decidable True)

/-- The highest unit is not completed, for any unit that looks. -/
structure TopOpen (c : Cluster) (w : World) : Prop where
  stack : w.databag.stack = List.range c.units
  state : w.databag.state (c.units - 1) ≠ some .completed
  view : ∀ u < c.units, ∀ b, w.view u = some b → b.state (c.units - 1) ≠ some .completed

/-- No unit is being upgraded, and no pod below `p` is replaced: the partition
    stays above, where all pods are new. -/
structure Frozen (c : Cluster) (p : ℕ) (w : World) : Prop where
  lt : p < c.units
  state : ∀ v < c.units, w.databag.state v ≠ some .upgrading ∧
    w.databag.state v ≠ some .recovery
  pending : ∀ v < c.units, w.pending v = false
  partition : p ≤ w.partition
  revision : ∀ v < c.units, p ≤ v → w.revision v = w.target
  stack : ∃ k ≤ c.units, w.databag.stack = List.range k
  resume : p + 2 ≤ c.units ∨ TopOpen c w

/-! ## The handlers -/

namespace Instance

variable {x y : Instance}

/-- The invariant during a dispatch. -/
structure Still (c : Cluster) (p : ℕ) (x : Instance) : Prop where
  frozen : Frozen c p x.world
  unit : x.unit < c.units
  view : x.world.view x.unit = some x.view
  stack : x.isLeader = true → ∃ j ≤ c.units, x.stack = List.range j ∧
    (p + 2 ≤ c.units ∨ j = c.units)

theorem Still.setIdle (h : x.Still c p) : (x.setState .idle).Still c p where
  frozen :=
    { h.frozen with
      state := fun v hv => by
        rw [state_setState]
        split_ifs
        · exact ⟨by decide, by decide⟩
        · exact h.frozen.state v hv
      resume := h.frozen.resume.imp_right fun ht =>
        { ht with
          state := by
            rw [state_setState]
            split_ifs
            · decide
            · exact ht.state } }
  unit := h.unit
  view := h.view
  stack := h.stack

theorem Still.writeDependencies (h : x.Still c p) : (x.writeDependencies c).Still c p where
  frozen := { h.frozen with resume := h.frozen.resume.imp_right fun ht => { ht with } }
  unit := h.unit
  view := h.view
  stack := h.stack

theorem Still.setPartition {q : ℕ} (h : x.Still c p) (hq : p ≤ q) :
    (x.setPartition q).Still c p where
  frozen :=
    { h.frozen with
      partition := hq
      resume := h.frozen.resume.imp_right fun ht => { ht with } }
  unit := h.unit
  view := h.view
  stack := h.stack

theorem Still.writeStack {j : ℕ} (h : x.Still c p) (hj : j ≤ c.units)
    (hp : p + 2 ≤ c.units ∨ j = c.units) :
    ((x.cached (List.range j)).writeStack (List.range j)).Still c p where
  frozen :=
    { h.frozen with
      stack := ⟨j, hj, rfl⟩
      resume := by
        rcases hp with hp | rfl
        · exact .inl hp
        · exact h.frozen.resume.imp_right fun ht => { ht with stack := rfl } }
  unit := h.unit
  view := h.view
  stack _ := ⟨j, hj, rfl, hp⟩

theorem Still.markIdle (h : x.Still c p) : (x.markIdle c).Still c p := by
  unfold Instance.markIdle
  simp only
  split_ifs
  · exact h.setIdle.writeDependencies
  · exact h.setIdle
  · exact h

theorem Still.onUpgradeCreated (h : x.Still c p) : (x.onUpgradeCreated c).Still c p := by
  unfold Instance.onUpgradeCreated
  simp only
  split_ifs
  · exact h.setIdle.writeDependencies
  · exact h.setIdle

/-- The leader takes units from the stack, but not from the full one if its top
    is open. -/
theorem Still.pop (h : x.Still c p) {top : ℕ} (htop : x.stack.getLast? = some top)
    (hl : x.isLeader = true) (hs : x.databag.state top = some .completed) :
    ((x.cached x.stack.dropLast).writeStack x.stack.dropLast).Still c p := by
  obtain ⟨j, hj, he, hp⟩ := h.stack hl
  rw [he] at htop ⊢
  obtain rfl := getLast?_range htop
  rw [dropLast_range]
  refine h.writeStack (Nat.le_of_succ_le hj) (.inl ?_)
  rcases h.frozen.resume with hp' | ht
  · exact hp'
  rcases hp with hp | hfull
  · exact hp
  have hlast : top = c.units - 1 := by omega
  unfold Instance.databag at hs
  simp only [hlast] at hs
  split_ifs at hs
  · exact absurd hs ht.state
  · exact absurd hs (ht.view _ h.unit _ h.view)

theorem Still.onUpgradeChanged (h : x.Still c p) (hn : x.NoReady c) :
    Frozen c p (x.onUpgradeChanged c).world :=
  hn.onUpgradeChanged_rule (P := Still c p) (Q := fun y => Frozen c p y.world)
    (fun _ _ hx htop hl hs => hx.pop htop hl hs) (fun _ hx _ => hx.frozen)
    (fun _ hx _ => hx.markIdle.frozen) (fun _ _ hx _ _ => hx.frozen) h

/-- The handlers of an event that is no `upgrade-charm`. -/
theorem Still.handle {event : Event} {env : Env} (h : x.Still c p) (hn : x.NoReady c)
    (hcharm : event ≠ .upgradeCharm)
    (hcheck : ∀ order, event = .preUpgradeCheck order → order.Perm (List.range c.units) ∧
      x.clusterState c ≠ some .failed)
    (hy : event.handle c env x = some y) : Frozen c p y.world := by
  cases event with
  | upgradeCreated =>
    cases hy
    exact h.onUpgradeCreated.frozen
  | upgradeChanged =>
    cases hy
    exact h.onUpgradeChanged hn
  | upgradeCharm => exact absurd rfl hcharm
  | pebbleReady =>
    cases hy
    obtain ⟨d, he⟩ := onPgbouncerPebbleReady_idle (c := c) (h.frozen.state _ h.unit) env
    rw [he]
    exact { h.frozen with resume := h.frozen.resume.imp_right fun ht => { ht with } }
  | preUpgradeCheck order =>
    cases hy
    obtain ⟨hperm, hfailed⟩ := hcheck order rfl
    refine getD_toOption (P := fun z => Frozen c p z.world) h.frozen fun z hz => ?_
    obtain ⟨-, ⟨hf, -⟩ | ⟨-, -, -, rfl⟩⟩ := onPreUpgradeCheckAction_eq_ok_iff.mp hz
    · exact absurd hf hfailed
    · rw [insertionSort_order hperm]
      have hlt := h.frozen.lt
      exact ((h.setPartition (by omega)).writeStack le_rfl (.inr rfl)).frozen
  | resumeUpgrade =>
    cases hy
    refine getD_toOption (P := fun z => Frozen c p z.world) h.frozen fun z hz => ?_
    obtain ⟨hl, top, htop, hlen, -, rfl⟩ := onResumeUpgradeAction_eq_ok_iff.mp hz
    obtain ⟨j, hj, he, hp⟩ := h.stack hl
    rw [he] at htop hlen
    obtain rfl := getLast?_range htop
    rw [List.length_range] at hlen
    have hu := h.unit
    exact (h.setPartition (by omega)).frozen
  | other =>
    cases hy
    exact h.frozen

end Instance

/-! ## The steps -/

open Instance

theorem Frozen.still {view : Databag} {pending pebble deferred : ℕ → Bool} (h : Frozen c p w)
    (hu : u < c.units) (hview : w.view u = some view)
    (hpending : ∀ v < c.units, pending v = false) :
    (Instance.mk u view { w with pending := pending, pebble := pebble, deferred := deferred }
      none).Still c p where
  frozen :=
    { h with
      pending := hpending
      resume := h.resume.imp_right fun ht => { ht with } }
  unit := hu
  view := hview
  stack hl := by
    have hstack : (Instance.mk u view
        { w with pending := pending, pebble := pebble, deferred := deferred } none).stack =
          w.databag.stack := by
      simp [Instance.stack, Instance.databag, hl]
    rw [hstack]
    rcases h.resume with hp | ht
    · obtain ⟨k, hk, he⟩ := h.stack
      exact ⟨k, hk, he, .inl hp⟩
    · exact ⟨c.units, le_rfl, ht.stack, .inr rfl⟩

theorem Frozen.rollback (h : Frozen c p w) (hp : p ≤ w'.partition) :
    Frozen c p (w.rollback w') :=
  { h with
    partition := hp
    resume := h.resume.imp_right fun ht => { ht with } }

theorem Frozen.redeliver {view : Databag} {event : Event} (h : Frozen c p w) (hu : u < c.units)
    (hview : w.view u = some view) (hcharm : event ≠ .upgradeCharm) (env : Env) :
    ((w.take u event).redeliver c env u view).Still c p ∧
      ((w.take u event).redeliver c env u view).databag.state =
        (Instance.mk u view w none).databag.state := by
  have hs := h.state u hu
  have htake : (w.take u event).databag = w.databag := World.databag_take
  rw [← htake] at hs
  obtain ⟨d, he⟩ := redeliver_idle (c := c) view hs env
  rw [he]
  cases event with
  | upgradeCharm => exact absurd rfl hcharm
  | _ => exact ⟨h.still hu hview h.pending, rfl⟩

theorem Frozen.dispatch {event : Event} {early late : Env} {raises : Bool} {view : Databag}
    (h : Frozen c p w) (hn : NoReady w) (hu : u < c.units) (hview : w.view u = some view)
    (hen : event.enabled c w u = true)
    (hg : event.isPreUpgradeCheck = true → w.findsFailed c u = false) :
    Frozen c p (w.dispatch c u event early late raises view) := by
  have hcharm : event ≠ .upgradeCharm := by
    rintro rfl
    have hp : w.pending u = true := hen
    rw [h.pending u hu] at hp
    cases hp
  obtain ⟨hx, hstate⟩ := h.redeliver hu hview hcharm early
  refine World.dispatch_rule (fun _ => h.rollback hx.frozen.partition) fun y hy => ?_
  have hready : ((w.take u event).redeliver c early u view).NoReady c := by
    intro v hv
    rw [hstate]
    have hinst : (Instance.mk u view w none).NoReady c := hn.instance hview
    exact hinst v hv
  have hy' : Frozen c p y.world := by
    refine hx.handle hready hcharm ?_ hy
    rintro order rfl
    refine ⟨of_decide_eq_true (Bool.and_eq_true_iff.mp hen).2, fun hf => ?_⟩
    have hfinds := hg rfl
    unfold World.findsFailed at hfinds
    rw [hview, Option.any_some] at hfinds
    have hcluster : (Instance.mk u view w none).clusterState c = some .failed := by
      rw [← hf]
      unfold Instance.clusterState Instance.unitStates
      rw [hstate]
    exact of_decide_eq_false hfinds hcluster
  exact ⟨hy', h.rollback hy'.partition⟩

/-- An undisturbed step keeps the upgrade frozen, and replaces no pod. -/
theorem Frozen.step {a : Action} (h : Frozen c p w) (hn : NoReady w) (hg : Undisturbed c w a)
    (hs : step c w a = some w') :
    Frozen c p w' ∧ w'.revision = w.revision ∧ w'.target = w.target := by
  cases a with
  | start u =>
    obtain ⟨-, he⟩ := Option.ite_none_right_eq_some.mp hs
    cases he
    refine ⟨{ h with resume := h.resume.imp_right fun ht => { ht with view := ?_ } }, rfl, rfl⟩
    intro t htu b hb
    simp only [Function.update_apply] at hb
    split_ifs at hb
    · cases hb
      exact ht.state
    · exact ht.view t htu b hb
  | dispatch u event early late raises =>
    obtain ⟨view, hview, he⟩ := Option.bind_eq_some_iff.mp hs
    obtain ⟨⟨hu, hen⟩, he⟩ := Option.ite_none_right_eq_some.mp he
    cases he
    have hf : Frozen c p (w.dispatch c u event early late raises view) :=
      h.dispatch hn hu hview hen hg
    obtain ⟨hr, ht, -⟩ := World.dispatch_frame c w u event early late raises view
    refine ⟨{ hf with resume := hf.resume.imp_right fun ht => { ht with view := ?_ } }, hr, ht⟩
    intro t htu b hb
    simp only [World.idle, Function.update_apply] at hb
    split_ifs at hb
    exact ht.view t htu b hb
  | elect u =>
    obtain ⟨-, he⟩ := Option.ite_none_right_eq_some.mp hs
    cases he
    exact ⟨{ h with resume := h.resume.imp_right fun ht => { ht with } }, rfl, rfl⟩
  | refresh => exact absurd hg id
  | roll u =>
    obtain ⟨⟨hu, hp, hr⟩, -⟩ := Option.ite_none_right_eq_some.mp hs
    exact absurd (h.revision u hu (h.partition.trans hp)) hr
  | restart u => exact absurd hg id
  | restartContainer u =>
    obtain ⟨-, he⟩ := Option.ite_none_right_eq_some.mp hs
    cases he
    exact ⟨{ h with resume := h.resume.imp_right fun ht => { ht with } }, rfl, rfl⟩

/-- No undisturbed run replaces a pod of a frozen upgrade. -/
theorem exec_frozen {l : List Action} (h : Frozen c p w) (hn : NoReady w)
    (hl : (machine c).exec (Undisturbed c) w l = some w') :
    w'.revision = w.revision ∧ w'.target = w.target := by
  have hinv := exec_invariant (M := machine c)
    (I := fun s => Frozen c p s ∧ NoReady s ∧ s.revision = w.revision ∧ s.target = w.target)
    (fun s a s' hs hg hstep => by
      obtain ⟨hf, hr, ht⟩ := hs.1.step hs.2.1 hg hstep
      exact ⟨hf, hs.2.1.step hstep, hr.trans hs.2.2.1, ht.trans hs.2.2.2⟩)
    ⟨h, hn, rfl, rfl⟩ hl
  exact hinv.2.2

/-! ## How an upgrade freezes -/

/-- No unit is being upgraded, and no pod has still to run `upgrade-charm`. -/
def World.Resting (c : Cluster) (w : World) : Prop :=
  ∀ v < c.units, (w.databag.state v ≠ some .upgrading ∧ w.databag.state v ≠ some .recovery) ∧
    w.pending v = false

/-- No unit prepares a rollback. -/
def World.NoRecovery (c : Cluster) (w : World) : Prop :=
  ∀ v < c.units, w.databag.state v ≠ some .recovery

instance : Decidable (w.NoRecovery c) := by
  unfold World.NoRecovery
  infer_instance

instance : Decidable (w.Resting c) := by
  unfold World.Resting
  infer_instance

/-- With the two highest units completed and the partition above the others, an
    upgrade in which no unit is being upgraded is frozen. -/
theorem Safe.frozen (h : Safe c w) (htwo : 2 ≤ c.units)
    (hidle : w.Resting c)
    (hf : w.finished (c.units - 2) = w.target) (hp : c.units - 2 ≤ w.partition) :
    Frozen c (c.units - 2) w where
  lt := by omega
  state v hv := (hidle v hv).1
  pending v hv := (hidle v hv).2
  partition := hp
  revision v hv hle := h.revision_eq hv (h.finished_of_le hv hle hf)
  stack := by
    obtain ⟨k, hk, he, -⟩ := h.stack
    exact ⟨k, hk, he⟩
  resume := .inl (by omega)

/-- An action that changes the partition puts it on one of the two highest units,
    and leaves all states. -/
theorem Safe.action {event : Event} {early late : Env} {raises : Bool} {view : Databag}
    (h : Safe c w) (hs : w.databag.state u ≠ some .upgrading ∧ w.databag.state u ≠ some .recovery)
    (he : event.isPreUpgradeCheck = true ∨ event = .resumeUpgrade)
    (hp : (w.dispatch c u event early late raises view).partition ≠ w.partition) :
    c.units - 2 ≤ (w.dispatch c u event early late raises view).partition ∧
      (w.dispatch c u event early late raises view).databag.state = w.databag.state ∧
        (w.dispatch c u event early late raises view).pending = w.pending := by
  obtain ⟨d, hx⟩ : ∃ d, (w.take u event).redeliver c early u view =
      ⟨u, view, { w with deferred := d }, none⟩ := by
    have htake : w.take u event = w := by
      rcases he with he | rfl
      · cases event <;> first | rfl | cases he
      · rfl
    rw [htake]
    exact redeliver_idle _ hs early
  let P : Instance → Prop := fun y => y.world.partition = w.partition ∨
    c.units - 2 ≤ y.world.partition ∧
      y.world.databag.state = w.databag.state ∧ y.world.pending = w.pending
  have key : ∀ y, event.handle c late ⟨u, view, { w with deferred := d }, none⟩ = some y →
      P y := by
    intro y hy
    cases event with
    | preUpgradeCheck order =>
      cases hy
      refine getD_toOption (P := P) (.inl rfl) fun z hz => ?_
      obtain ⟨-, ⟨-, rfl⟩ | ⟨-, -, -, rfl⟩⟩ := onPreUpgradeCheckAction_eq_ok_iff.mp hz
      · left
        unfold Instance.repairUpgradeStack
        split_ifs <;> rfl
      · refine .inr ⟨?_, rfl, rfl⟩
        show c.units - 2 ≤ c.units - 1
        omega
    | resumeUpgrade =>
      cases hy
      refine getD_toOption (P := P) (.inl rfl) fun z hz => ?_
      obtain ⟨hl, top, htop, hlen, -, rfl⟩ := onResumeUpgradeAction_eq_ok_iff.mp hz
      obtain ⟨k, hk, hstack, -⟩ := h.stack
      have hrange : (Instance.mk u view { w with deferred := d } none).stack = List.range k := by
        rw [← hstack]
        simp [Instance.stack, Instance.databag, hl]
      rw [hrange] at htop hlen
      obtain rfl := getLast?_range htop
      rw [List.length_range] at hlen
      refine .inr ⟨?_, rfl, rfl⟩
      show c.units - 2 ≤ top
      omega
    | _ => rcases he with he | he <;> cases he
  revert hp
  refine World.dispatch_rule (P := fun w' => w'.partition ≠ w.partition →
    c.units - 2 ≤ w'.partition ∧ w'.databag.state = w.databag.state ∧ w'.pending = w.pending) ?_ ?_
  · rw [hx]
    exact fun _ hp => absurd rfl hp
  · rw [hx]
    intro y hy
    exact ⟨fun hp => (key y hy).resolve_left hp, fun hp =>
      ⟨((key y hy).resolve_left hp).1, rfl, rfl⟩⟩

/-- Once the second unit has been completed, `pre-upgrade-check` and
    `resume-upgrade` freeze the upgrade between two pods: without another refresh
    no run replaces a further one. -/
theorem frozen_of_action {event : Event} {early late : Env} {raises : Bool} {w₁ w₂ : World}
    {l : List Action} (h : (machine c).Reach (Orderly c) w) (htwo : 2 ≤ c.units)
    (hidle : w.Resting c)
    (hf : w.finished (c.units - 2) = w.target)
    (he : event.isPreUpgradeCheck = true ∨ event = .resumeUpgrade)
    (ho : Orderly c w (.dispatch u event early late raises))
    (hs : step c w (.dispatch u event early late raises) = some w₁)
    (hp : w₁.partition ≠ w.partition)
    (hl : (machine c).exec (Undisturbed c) w₁ l = some w₂) :
    w₂.revision = w.revision ∧ w₂.target = w.target := by
  have hreach : (machine c).Reach (Orderly c) w₁ := .step h ho hs
  have hsafe := safe_of_reach h
  obtain ⟨view, hview, he'⟩ := Option.bind_eq_some_iff.mp hs
  obtain ⟨⟨hu, -⟩, he'⟩ := Option.ite_none_right_eq_some.mp he'
  cases he'
  obtain ⟨hpart, hstate, hpending⟩ := hsafe.action (hidle u hu).1 he hp
  obtain ⟨hr, ht, hfin⟩ := World.dispatch_frame c w u event early late raises view
  have hfrozen := (safe_of_reach hreach).frozen htwo (fun v hv => by
    show ((w.dispatch c u event early late raises view).databag.state v ≠ _ ∧
      (w.dispatch c u event early late raises view).databag.state v ≠ _) ∧
        (w.dispatch c u event early late raises view).pending v = _
    rw [hstate, hpending]
    exact hidle v hv) (by
      show (w.dispatch c u event early late raises view).finished _ =
        (w.dispatch c u event early late raises view).target
      rw [ht]
      rcases hfin (c.units - 2) with hfin | ⟨-, hfin⟩
      · rw [hfin]
        exact hf
      · rw [hfin]
        exact hsafe.revision_eq (by omega) hf) hpart
  obtain ⟨hr', ht'⟩ := exec_frozen hfrozen (noReady_of_reach hreach) hl
  exact ⟨hr'.trans hr, ht'.trans ht⟩

/-- The first two pods of three are replaced and completed. -/
def untilSecond : List Action :=
  untilResumed ++ [.roll 1] ++ hook 1 .upgradeCharm ++ hook 1 .pebbleReady ++ [.start 0]

/-- The check that puts the partition back. -/
def secondCheck : Action :=
  .dispatch 0 (.preUpgradeCheck [0, 1, 2]) ⟨true, true, true⟩ ⟨true, true, true⟩ false

theorem frozen_of_action_sample : ∃ w w₁, (machine threeUnits).Reach (Orderly threeUnits) w ∧
    step threeUnits w secondCheck = some w₁ ∧ w.revision 0 ≠ w.target ∧
      ∀ l w₂, (machine threeUnits).exec (Undisturbed threeUnits) w₁ l = some w₂ →
        w₂.revision 0 ≠ w₂.target := by
  obtain ⟨w, hreach, hw⟩ := exists_reach_of_exec (machine threeUnits) (Orderly threeUnits) deployed
    untilSecond (fun w => decide (w.Resting threeUnits ∧ w.finished 1 = w.target ∧
      w.revision 0 ≠ w.target ∧ Orderly threeUnits w secondCheck) &&
        (step threeUnits w secondCheck).any fun w₁ => decide (w₁.partition ≠ w.partition))
    deployed_init (by decide +kernel)
  obtain ⟨hw, hs⟩ := Bool.and_eq_true_iff.mp hw
  obtain ⟨hidle, hf, hr, ho⟩ := of_decide_eq_true hw
  obtain ⟨w₁, hs, hp⟩ := (Option.any_eq_true _ _).mp hs
  refine ⟨w, w₁, hreach, hs, hr, fun l w₂ hl => ?_⟩
  obtain ⟨hr', ht'⟩ := frozen_of_action hreach (by decide) hidle hf (.inl rfl) ho hs
    (of_decide_eq_true hp) hl
  rw [hr', ht']
  exact hr

/-- A highest unit that fails its version check freezes the upgrade: all other
    units keep their pods. -/
theorem frozen_of_failed_check {early late : Env} {view : Databag}
    {stored : PgbouncerDependencyModel} {e : VersionError} {w₁ w₂ : World} {l : List Action}
    (h : (machine c).Reach (Orderly c) w) (hu : u + 1 = c.units) (hview : w.view u = some view)
    (hd : w.deferred u = false) (hf : w.finished u ≠ w.target)
    (hrec : w.NoRecovery c)
    (hstack : (Instance.mk u view w none).stack ≠ [])
    (hstored : (Instance.mk u view w none).databag.dependencies = some stored)
    (hcheck : upgradeSupportedCheck c stored (c.dependencyModel (w.revision u)) = .error e)
    (hs : step c w (.dispatch u .upgradeCharm early late false) = some w₁)
    (hl : (machine c).exec (Undisturbed c) w₁ l = some w₂) :
    w₂.revision = w.revision ∧ ∀ v < u, w₂.revision v ≠ w₂.target := by
  have hsafe := safe_of_reach h
  have hs₀ := hs
  rw [step, hview, Option.bind_some] at hs
  obtain ⟨⟨hu', hen⟩, he⟩ := Option.ite_none_right_eq_some.mp hs
  have hx : (w.take u .upgradeCharm).redeliver c early u view =
      ⟨u, view, w.take u .upgradeCharm, none⟩ := by
    unfold World.redeliver
    rw [World.deferred_take, hd]
    rfl
  have hcharm : (Instance.mk u view (w.take u .upgradeCharm) none).onUpgradeCharm c = some _ :=
    onUpgradeCharm_failed hstack hu hstored hcheck
  have hend : w.dispatch c u .upgradeCharm early late false view =
      ((Instance.mk u view (w.take u .upgradeCharm) none).setState .failed).world := by
    unfold World.dispatch Event.handle
    simp only [hx, hcharm]
    exact world_setUnitFailed _
  rw [hend, Option.some.injEq] at he
  have hold : ∀ v < u, w.revision v ≠ w.target := fun v hv hr => hf (hsafe.above v u hv hu' hr)
  obtain ⟨k, hk, hstack', hin⟩ := hsafe.stack
  have hfull : k = c.units := by
    by_contra hne
    exact hf (hin u hu' (by omega))
  have hstate : ∀ v, w₁.databag.state v = if v = u then some .failed else w.databag.state v := by
    rw [← he]
    exact fun v => state_setState _ _ v
  have hfrozen : Frozen c u w₁ := by
    refine ⟨hu', fun v hv => ?_, fun v hv => ?_, ?_, fun v hv hle => ?_, ⟨k, hk, ?_⟩, .inr ?_⟩
    · rw [hstate]
      split_ifs with hvu
      · exact ⟨by decide, by decide⟩
      · exact ⟨fun hs => hold v (by omega) (hsafe.upgrading v hv hs), hrec v hv⟩
    · rw [← he]
      show Function.update w.pending u false v = false
      rw [Function.update_apply]
      split_ifs with hvu
      · rfl
      · exact Bool.eq_false_iff.mpr fun hp => hold v (by omega) (hsafe.pending v hv hp)
    · rw [← he]
      by_contra hlt
      exact hf (hsafe.partition u hu' (not_le.mp hlt))
    · rw [← he]
      have hvu : v = u := by omega
      subst hvu
      exact hsafe.pending v hv hen
    · rw [← he]
      exact hstack'
    · refine ⟨?_, ?_, fun t htu b hb hs => ?_⟩
      · rw [← he, ← hfull]
        exact hstack'
      · rw [hstate, if_pos (by omega)]
        decide
      · rw [← he] at hb
        simp only [World.idle, Function.update_apply] at hb
        split_ifs at hb
        have hfin := hsafe.view t htu b hb (c.units - 1) (by omega) hs
        exact hf (by rwa [show u = c.units - 1 by omega])
  have hr : w₁.revision = w.revision := by rw [← he]; rfl
  have ht : w₁.target = w.target := by rw [← he]; rfl
  have hn : NoReady w₁ := (noReady_of_reach h).step hs₀
  obtain ⟨hr', ht'⟩ := exec_frozen hfrozen hn hl
  refine ⟨hr'.trans hr, fun v hv => ?_⟩
  rw [hr', ht', hr, ht]
  exact hold v hv

/-- A revision whose rock does not support upgrades from version 1. -/
def incompatible : Cluster where
  units := 3
  dependencyModel r :=
    if r = 0 then dependencies
    else { dependencies with rock := ⟨"charmed-postgresql", "^2", "2.0.0"⟩ }
  verifyRequirements version requirement :=
    [("1", ">0"), ("1.18.0", "^1"), ("2.0.0", "^2")].contains (version, requirement)

/-- The first pod is new, its `upgrade-charm` hook has begun. -/
def untilCharm : List Action :=
  hook 0 .upgradeCreated ++ hook 1 .upgradeCreated ++ hook 2 .upgradeCreated ++
    hook 0 (.preUpgradeCheck [0, 1, 2]) ++ [.refresh, .roll 2, .start 2]

def charmUpgraded : Action :=
  .dispatch 2 .upgradeCharm ⟨true, true, true⟩ ⟨true, true, true⟩ false

/-- The version check fails on the unit. -/
def unsupported (c : Cluster) (w : World) (u : ℕ) : Bool :=
  (w.view u).any fun view => decide ((Instance.mk u view w none).stack ≠ []) &&
    ((Instance.mk u view w none).databag.dependencies.any fun stored =>
      (upgradeSupportedCheck c stored (c.dependencyModel (w.revision u))).toOption.isNone)

theorem frozen_of_failed_check_sample : ∃ w w₁,
    (machine incompatible).Reach (Orderly incompatible) w ∧
      step incompatible w charmUpgraded = some w₁ ∧
        ∀ l w₂, (machine incompatible).exec (Undisturbed incompatible) w₁ l = some w₂ →
          ∀ v < 2, w₂.revision v ≠ w₂.target := by
  obtain ⟨w, hreach, hw⟩ := exists_reach_of_exec (machine incompatible) (Orderly incompatible)
    deployed untilCharm (fun w => decide (w.deferred 2 = false ∧ w.finished 2 ≠ w.target ∧
      w.NoRecovery incompatible) && (unsupported incompatible w 2 &&
        (step incompatible w charmUpgraded).isSome)) deployed_init (by decide +kernel)
  obtain ⟨hw, hun⟩ := Bool.and_eq_true_iff.mp hw
  obtain ⟨hd, hf, hrec⟩ := of_decide_eq_true hw
  obtain ⟨hun, hs⟩ := Bool.and_eq_true_iff.mp hun
  obtain ⟨w₁, hs⟩ := Option.isSome_iff_exists.mp hs
  obtain ⟨view, hview, hun⟩ := (Option.any_eq_true _ _).mp hun
  obtain ⟨hstack, hun⟩ := Bool.and_eq_true_iff.mp hun
  obtain ⟨stored, hstored, hun⟩ := (Option.any_eq_true _ _).mp hun
  cases hcheck : upgradeSupportedCheck incompatible stored
      (incompatible.dependencyModel (w.revision 2)) with
  | ok _ =>
    rw [hcheck] at hun
    cases hun
  | error e =>
    exact ⟨w, w₁, hreach, hs, fun l w₂ hl => (frozen_of_failed_check hreach rfl hview hd hf hrec
      (of_decide_eq_true hstack) hstored hcheck hs hl).2⟩

end PgBouncerK8s.DataUpgrade
