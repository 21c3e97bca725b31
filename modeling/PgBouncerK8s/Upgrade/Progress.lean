import Mathlib.Algebra.Order.BigOperators.Group.Finset
import PgBouncerK8s.Upgrade.Steady

/-!
# Upgrades come to an end

From every state of a healthy run the upgrade can be brought to its end by a
healthy run, with no other refresh.

* `World.remaining`: what is left to do, which each of the hooks of an upgrade
  brings down.
* `completes_of_reach`: a run to a state in which all units are idle in the
  revision of the refresh.
-/

namespace PgBouncerK8s.DataUpgrade

open Machine Instance

variable {c : Cluster} {w w' : World} {u v : ℕ}

/-! ## What is left to do -/

/-- The steps of an upgrade that unit `v` still has before it. -/
def World.weight (w : World) (v : ℕ) : ℕ :=
  if w.finished v = w.target then if w.databag.state v = some .completed then 1 else 0
  else if w.revision v ≠ w.target then 4
  else if w.pending v then 3
  else 2

def World.remaining (c : Cluster) (w : World) : ℕ :=
  ∑ v ∈ Finset.range c.units, w.weight v + w.databag.stack.length + w.partition

theorem remaining_lt (hu : u < c.units) (hothers : ∀ v, v ≠ u → w'.weight v = w.weight v)
    (hlt : w'.weight u < w.weight u) (hstack : w'.databag.stack.length ≤ w.databag.stack.length)
    (hpart : w'.partition ≤ w.partition) : w'.remaining c < w.remaining c := by
  have hsum : ∑ v ∈ Finset.range c.units, w'.weight v < ∑ v ∈ Finset.range c.units, w.weight v := by
    refine Finset.sum_lt_sum (fun v _ => ?_) ⟨u, Finset.mem_range.mpr hu, hlt⟩
    by_cases hv : v = u
    · rw [hv]
      exact hlt.le
    · exact (hothers v hv).le
  unfold World.remaining
  omega

/-! ## The handlers -/

namespace Instance

variable {x y : Instance} {env : Env}

theorem Steady.pop_lt (h : x.Steady c) {top : ℕ} (htop : x.stack.getLast? = some top)
    (hl : x.isLeader = true) :
    ((x.cached x.stack.dropLast).writeStack x.stack.dropLast).world.remaining c <
      x.world.remaining c := by
  have hlen : x.stack.dropLast.length < x.world.databag.stack.length := by
    obtain ⟨j, -, hj⟩ := h.sound.stack_eq hl
    obtain ⟨k, -, hk, -⟩ := h.sound.safe.stack
    have hsub := h.stack_subset hl
    rw [hj] at htop hsub ⊢
    obtain rfl := getLast?_range htop
    rw [hk] at hsub ⊢
    have hmem := List.mem_range.mp (hsub (List.mem_range.mpr (Nat.lt_succ_self top)))
    rw [dropLast_range, List.length_range, List.length_range]
    exact hmem
  show (∑ v ∈ Finset.range c.units, x.world.weight v) + x.stack.dropLast.length +
    x.world.partition < _
  unfold World.remaining
  omega

theorem Steady.setIdle_lt (h : x.Steady c) (hc : x.state = some .completed) :
    (x.setState .idle).world.remaining c < x.world.remaining c := by
  have hfin := h.sound.safe.completed _ h.sound.unit hc
  refine remaining_lt h.sound.unit (fun v hv => ?_) ?_ le_rfl le_rfl
  · unfold World.weight
    rw [state_setState, if_neg hv]
    rfl
  · have hx : x.world.weight x.unit = 1 := by
      unfold World.weight
      rw [if_pos hfin]
      exact if_pos hc
    have hy : (x.setState .idle).world.weight x.unit = 0 := by
      unfold World.weight
      have hne : ¬some UpgradeState.idle = some .completed := by decide
      rw [state_setState, if_pos rfl, if_neg hne]
      exact if_pos hfin
    omega

theorem Steady.markIdle_le (h : x.Steady c) :
    (x.markIdle c).world.remaining c ≤ x.world.remaining c := by
  unfold Instance.markIdle
  simp only
  split_ifs with hc
  · exact (h.setIdle_lt hc.1).le
  · exact (h.setIdle_lt hc.1).le
  · exact le_rfl

/-- A completed unit that finds the stack empty and all units done. -/
def Rests (c : Cluster) (x : Instance) : Prop :=
  x.stack = [] ∧ x.state = some .completed ∧
    (x.clusterState c = some .idle ∨ x.clusterState c = some .completed)

theorem Steady.onUpgradeChanged_le (h : x.Steady c) (hu : x.Unloaded) :
    (x.onUpgradeChanged c).world.remaining c ≤ x.world.remaining c :=
  h.ready.onUpgradeChanged_rule
    (P := fun y => y.Steady c ∧ y.Unloaded ∧ y.world.remaining c ≤ x.world.remaining c)
    (Q := fun y => y.world.remaining c ≤ x.world.remaining c)
    (fun _ _ hy htop hl hs => ⟨hy.1.pop htop hl hs, unloaded_of_isLeader hl,
      (hy.1.pop_lt htop hl).le.trans hy.2.2⟩)
    (fun _ hy _ => hy.2.2) (fun _ hy _ => hy.1.markIdle_le.trans hy.2.2)
    (fun _ _ hy _ _ => hy.2.2) ⟨h, hu, le_rfl⟩

/-- `on_upgrade_changed` gets on where the leader finds the top of the stack
    completed, or a completed unit all units done. -/
theorem Steady.onUpgradeChanged_lt (h : x.Steady c) (hu : x.Unloaded)
    (hprogress : (x.isLeader = true ∧ ∃ top, x.stack.getLast? = some top ∧
      x.databag.state top = some .completed) ∨ x.Rests c) :
    (x.onUpgradeChanged c).world.remaining c < x.world.remaining c := by
  refine h.ready.onUpgradeChanged_rule
    (P := fun y => y.Steady c ∧ y.Unloaded ∧ (y = x ∨ y.world.remaining c < x.world.remaining c))
    (Q := fun y => y.world.remaining c < x.world.remaining c) ?_ ?_ ?_ ?_ ⟨h, hu, .inl rfl⟩
  · intro y top hy htop hl hs
    refine ⟨hy.1.pop htop hl hs, unloaded_of_isLeader hl, .inr ?_⟩
    have hlt := hy.1.pop_lt htop hl
    rcases hy.2.2 with rfl | hy'
    · exact hlt
    · exact hlt.trans hy'
  · exact fun y hy hf => absurd hf hy.1.clusterState_ne_failed
  · rintro y ⟨hy, -, rfl | hlt⟩ hs
    · rcases hprogress with ⟨-, top, htop, -⟩ | ⟨-, hc, hcs⟩
      · rw [hs] at htop
        cases htop
      · unfold Instance.markIdle
        simp only
        rw [if_pos ⟨hc, hcs⟩]
        have hidle := hy.setIdle_lt hc
        split_ifs
        · exact hidle
        · exact hidle
    · exact hy.markIdle_le.trans_lt hlt
  · rintro y top ⟨hy, -, rfl | hlt⟩ htop hs
    · rcases hprogress with ⟨hl, top', htop', hc⟩ | ⟨hempty, -⟩
      · obtain rfl := Option.some.inj (htop.symm.trans htop')
        exact absurd ⟨hl, hc⟩ hs
      · rw [hempty] at htop
        cases htop
    · exact hlt

theorem partition_onUpgradeChanged (hn : x.NoReady c) :
    (x.onUpgradeChanged c).world.partition = x.world.partition := by
  refine hn.onUpgradeChanged_rule (P := fun y => y.world.partition = x.world.partition)
    (Q := fun y => y.world.partition = x.world.partition)
    (fun _ _ hy _ _ _ => hy) (fun _ hy _ => hy) (fun y hy _ => ?_) (fun _ _ hy _ _ => hy) rfl
  unfold Instance.markIdle
  simp only
  split_ifs <;> exact hy

theorem Steady.onUpgradeFinished_le (h : x.Steady c) (hu : x.Unloaded)
    (hpart : x.unit ≤ x.world.partition + 1) (hp : env.patches = true) :
    (x.onUpgradeFinished c env).world.remaining c ≤ x.world.remaining c := by
  have hend : ∀ y : Instance, y.unit = x.unit → y.world.partition = x.world.partition →
      y.world.remaining c ≤ x.world.remaining c →
      (if y.unit + 1 = c.units then y else if y.unit = 0 then y
        else if env.patches then y.setPartition (y.unit - 1)
        else y.setUnitFailed).world.remaining c ≤ x.world.remaining c := by
    intro y hunit hpy hle
    rw [hp, if_pos rfl]
    split_ifs
    · exact hle
    · exact hle
    · refine le_trans ?_ hle
      show (∑ v ∈ Finset.range c.units, y.world.weight v) + y.world.databag.stack.length +
        (y.unit - 1) ≤ _
      unfold World.remaining
      omega
  unfold Instance.onUpgradeFinished
  simp only
  cases hl : x.isLeader with
  | false => exact hend x rfl rfl le_rfl
  | true =>
    exact hend _ (Frame.refl x).onUpgradeChanged.unit (partition_onUpgradeChanged h.ready)
      (h.onUpgradeChanged_le hu)

/-- The unit in flight is completed. -/
theorem Steady.complete_lt (h : x.Steady c) (hs : x.state = some .upgrading) :
    (x.finish.setState .completed).world.remaining c < x.world.remaining c := by
  have hrev := h.sound.safe.upgrading _ h.sound.unit hs
  have hopen : x.world.finished x.unit ≠ x.world.target := fun hf =>
    (h.core.finished _ h.sound.unit hf).2 hs
  have hfin : ∀ v, (x.finish.setState .completed).world.finished v =
      if v = x.unit then x.world.target else x.world.finished v := by
    intro v
    show Function.update x.world.finished x.unit _ v = _
    rw [Function.update_apply, hrev]
  have hstate : ∀ v, (x.finish.setState .completed).world.databag.state v =
      if v = x.unit then some .completed else x.world.databag.state v :=
    fun v => state_setState x.finish .completed v
  refine remaining_lt h.sound.unit (fun v hv => ?_) ?_ le_rfl le_rfl
  · unfold World.weight
    rw [hfin, hstate, if_neg hv, if_neg hv]
    rfl
  · have hafter : (x.finish.setState .completed).world.weight x.unit = 1 := by
      unfold World.weight
      rw [hfin, hstate, if_pos rfl, if_pos rfl, if_pos rfl]
      exact if_pos rfl
    have hbefore : 2 ≤ x.world.weight x.unit := by
      unfold World.weight
      rw [if_neg hopen]
      split_ifs <;> omega
    omega

theorem Steady.setUnitCompleted_lt (h : x.Steady c) (hu : x.Unloaded)
    (hs : x.state = some .upgrading) (hp : env.patches = true) :
    (x.setUnitCompleted c env).world.remaining c < x.world.remaining c := by
  have hrev := h.sound.safe.upgrading _ h.sound.unit hs
  have hopen : x.world.finished x.unit ≠ x.world.target := fun hf =>
    (h.core.finished _ h.sound.unit hf).2 hs
  have hpart : x.unit ≤ x.world.partition := by
    by_contra hlt
    exact hopen (h.sound.safe.partition _ h.sound.unit (by omega))
  obtain ⟨hx, hworld, hunit, hnone⟩ := h.refreshed
  have hcomplete : (x.refreshed.finish.setState .completed).Steady c := hx.complete
    (by rw [Instance.state, hworld, hunit]; exact hs) hnone
  refine (hcomplete.onUpgradeFinished_le (hu.refreshed) ?_ hp).trans_lt ?_
  · show x.refreshed.unit ≤ x.refreshed.world.partition + 1
    rw [hworld, hunit]
    omega
  · rw [← hworld]
    exact hx.complete_lt (by rw [Instance.state, hworld, hunit]; exact hs)

theorem Steady.onPgbouncerPebbleReady_lt (h : x.Steady c) (hu : x.Unloaded)
    (hs : x.state = some .upgrading) (hplanned : env.planned = true) (hhealthy : env.healthy = true)
    (hp : env.patches = true) :
    (x.onPgbouncerPebbleReady c env).world.remaining c < x.world.remaining c := by
  unfold Instance.onPgbouncerPebbleReady
  rw [hplanned, hhealthy, if_neg (by decide), if_neg (not_not_intro (.inl hs)), if_neg (by decide)]
  exact h.setUnitCompleted_lt hu hs hp

end Instance

/-! ## Hooks -/

/-- The surroundings find all well. -/
def good : Env := ⟨true, true, true⟩

/-- No hook is running. -/
def World.Quiet (c : Cluster) (w : World) : Prop := ∀ u < c.units, w.view u = none

/-- The hook of `u` has begun. -/
def World.opened (w : World) (u : ℕ) : World :=
  { w with view := Function.update w.view u (some w.databag) }

/-- The hook of `u` is over. -/
def World.hooked (c : Cluster) (w : World) (u : ℕ) (event : Event) : World :=
  ((w.opened u).dispatch c u event good good false w.databag).idle u

theorem healthy_dispatch {event : Event} (h : Steady c w) (hu : u < c.units)
    (he : event.isPreUpgradeCheck = false)
    (hr : event = .resumeUpgrade → w.deferred u = false ∧ w.partition + 1 = c.units) :
    Healthy c w (.dispatch u event good good false) := by
  refine ⟨⟨fun hs => absurd hs (h.core.state u hu).2, fun he' => ?_⟩, ⟨rfl, rfl, rfl⟩,
    fun he' => ?_, hr⟩
  · rw [he] at he'
    cases he'
  · rw [he] at he'
    cases he'

/-- A dispatch leaves the hooks of the other units and the target alone. -/
theorem view_dispatch (c : Cluster) (w : World) (u : ℕ) (event : Event) (early late : Env)
    (raises : Bool) (view : Databag) :
    (w.dispatch c u event early late raises view).view = w.view ∧
      (w.dispatch c u event early late raises view).target = w.target := by
  have hframe := Frame.redeliver (c := c) early (w.take u event) u view
  refine World.dispatch_rule (P := fun w' => w'.view = w.view ∧ w'.target = w.target)
    (fun _ => ⟨rfl, rfl⟩) fun y hy => ⟨?_, rfl, rfl⟩
  have hf := hframe.handle hy
  exact ⟨hf.view.trans World.view_take, hf.target.trans World.target_take⟩

theorem dispatch_eq {event : Event} {early late : Env} {view : Databag} {y : Instance}
    (hy : event.handle c late ((w.take u event).redeliver c early u view) = some y) :
    w.dispatch c u event early late false view = y.world := by
  unfold World.dispatch
  simp only [hy]
  rfl

theorem view_hooked (c : Cluster) (w : World) (u : ℕ) (event : Event) :
    (w.hooked c u event).view = Function.update w.view u none := by
  have hv := (view_dispatch c (w.opened u) u event good good false w.databag).1
  unfold World.hooked World.idle
  simp only [hv]
  exact Function.update_idem _ _ _

theorem target_hooked (c : Cluster) (w : World) (u : ℕ) (event : Event) :
    (w.hooked c u event).target = w.target :=
  (view_dispatch c (w.opened u) u event good good false w.databag).2

theorem quiet_hooked (h : w.Quiet c) (u : ℕ) (event : Event) : (w.hooked c u event).Quiet c := by
  intro v hv
  rw [view_hooked, Function.update_apply]
  split_ifs
  · rfl
  · exact h v hv

theorem step_start (hu : u < c.units) (hv : w.view u = none) :
    step c w (.start u) = some (w.opened u) :=
  if_pos ⟨hu, hv⟩

theorem healthy_start : Healthy c w (.start u) := ⟨trivial, trivial⟩

theorem opened_reach (h : (machine c).Reach (Healthy c) w) (hu : u < c.units)
    (hv : w.view u = none) : (machine c).Reach (Healthy c) (w.opened u) :=
  .step h healthy_start (step_start hu hv)

theorem exec_hook (event : Event) (hcompat : Compatible c) (h : (machine c).Reach (Healthy c) w)
    (hq : w.Quiet c) (hu : u < c.units) (hen : event.enabled c w u = true)
    (he : event.isPreUpgradeCheck = false)
    (hr : event = .resumeUpgrade → w.deferred u = false ∧ w.partition + 1 = c.units) :
    (machine c).exec (Healthy c) w (hook u event) = some (w.hooked c u event) := by
  have hopened : (w.opened u).view u = some w.databag := Function.update_self _ _ _
  have hen' : event.enabled c (w.opened u) u = true := by
    cases event <;> exact hen
  have hdispatch : step c (w.opened u) (.dispatch u event good good false) =
      some (w.hooked c u event) := by
    unfold step
    simp only [hopened, Option.bind_some]
    exact if_pos ⟨hu, hen'⟩
  have hsteady := steady_of_reach hcompat (opened_reach h hu (hq u hu))
  exact exec_cons_eq_some.mpr ⟨_, healthy_start, step_start hu (hq u hu),
    exec_cons_eq_some.mpr ⟨_, healthy_dispatch hsteady hu he hr, hdispatch, rfl⟩⟩

/-! ### What hooks bring down -/

/-- The instance at the beginning of a dispatch. -/
theorem Instance.steady_fresh {view : Databag} (hcompat : Compatible c)
    (h : (machine c).Reach (Healthy c) w) (hu : u < c.units) (hv : w.view u = some view)
    (pebble deferred : ℕ → Bool) : (Instance.mk u view
      { w with pebble := pebble, deferred := deferred } none).Steady c :=
  have hn := noReady_of_reach h
  ⟨⟨{ safe_of_reach (orderly_of_healthy h) with }, hu, hv, fun _ l hl => by cases hl⟩,
    NoReady.instance ⟨hn.databag, hn.view⟩ hv, { (steady_of_reach hcompat h).core with },
    fun _ l hl => by cases hl⟩

theorem Instance.databag_fresh {x : Instance} (h : x.view = x.world.databag) :
    x.databag = x.world.databag := by
  unfold Instance.databag
  rw [h]
  simp only [ite_self]

theorem Instance.onPgbouncerPebbleReady_other {x : Instance} {env : Env}
    (hs : x.state ≠ some .upgrading ∧ x.state ≠ some .recovery) (hplanned : env.planned = true) :
    x.onPgbouncerPebbleReady c env = x := by
  unfold Instance.onPgbouncerPebbleReady
  rw [hplanned, if_neg (by decide), if_pos (not_or.mpr hs)]

/-- A `pebble-ready` that was deferred is dropped by a unit that is not in
    flight. -/
theorem redeliver_good (view : Databag) (hs : w.databag.state u ≠ some .upgrading ∧
    w.databag.state u ≠ some .recovery) :
    w.redeliver c good u view =
      ⟨u, view, { w with deferred := Function.update w.deferred u false }, none⟩ := by
  unfold World.redeliver
  split_ifs with hd
  · exact onPgbouncerPebbleReady_other hs rfl
  · have hf : Function.update w.deferred u false = w.deferred :=
      Function.update_eq_self_iff.mpr (Bool.eq_false_iff.mpr hd).symm
    rw [hf]

/-- The unit in flight is completed by its next hook. -/
theorem hooked_upgrading (hcompat : Compatible c) (h : (machine c).Reach (Healthy c) w)
    (hu : u < c.units) (hv : w.view u = none) (hs : w.databag.state u = some .upgrading) :
    ∃ event, event.enabled c w u = true ∧ event.isPreUpgradeCheck = false ∧
      event ≠ .resumeUpgrade ∧ (w.hooked c u event).remaining c < w.remaining c := by
  have hsteady := steady_of_reach hcompat h
  have hopen : w.finished u ≠ w.target := fun hf => (hsteady.core.finished u hu hf).2 hs
  have hpending : w.pending u = false := by
    rcases hsteady.core.unfinished u hu hopen with ⟨hidle, -⟩ | ⟨-, hp⟩
    · rw [hs] at hidle
      cases hidle
    · exact hp
  have hlt : ∀ pebble deferred, ((Instance.mk u w.databag { w.opened u with
      pebble := pebble, deferred := deferred } none).onPgbouncerPebbleReady c
        good).world.remaining c < w.remaining c := fun pebble deferred =>
    (steady_fresh hcompat (opened_reach h hu hv) hu (Function.update_self _ _ _) pebble
      deferred).onPgbouncerPebbleReady_lt (fun _ => rfl) hs rfl rfl rfl
  cases hd : w.deferred u with
  | true =>
    refine ⟨.other, by simp [Event.enabled, hpending], rfl, by simp, ?_⟩
    have hx : (w.opened u).redeliver c good u w.databag =
        (Instance.mk u w.databag { w.opened u with
          deferred := Function.update w.deferred u false } none).onPgbouncerPebbleReady c good :=
      if_pos hd
    show ((w.opened u).redeliver c good u w.databag).world.remaining c < _
    rw [hx]
    exact hlt w.pebble _
  | false =>
    have hpebble : w.pebble u = true := by
      rcases (hsteady.due u hu).2 hs with hp | hd'
      · exact hp
      · rw [hd] at hd'
        cases hd'
    refine ⟨.pebbleReady, by simp [Event.enabled, hpending, hpebble], rfl, by simp, ?_⟩
    have hx : ((w.opened u).take u .pebbleReady).redeliver c good u w.databag =
        Instance.mk u w.databag { w.opened u with
          pebble := Function.update w.pebble u false } none :=
      if_neg (by rw [World.deferred_take]; exact Bool.eq_false_iff.mp hd)
    show ((((w.opened u).take u .pebbleReady).redeliver c good u
      w.databag).onPgbouncerPebbleReady c good).world.remaining c < _
    rw [hx]
    exact hlt _ w.deferred

/-- `upgrade-charm` on a new pod. -/
theorem hooked_upgradeCharm (hcompat : Compatible c) (h : (machine c).Reach (Healthy c) w)
    (hu : u < c.units) (hv : w.view u = none) (hp : w.pending u = true) :
    (w.hooked c u .upgradeCharm).remaining c < w.remaining c := by
  have hopened := opened_reach h hu hv
  have hsteady := steady_of_reach hcompat hopened
  have hsafe := safe_of_reach (orderly_of_healthy hopened)
  have hview : (w.opened u).view u = some w.databag := Function.update_self _ _ _
  obtain ⟨hidle, hopen, hrev, hy⟩ := hsteady.onUpgradeCharm
    (d := Function.update ((w.opened u).take u .upgradeCharm).deferred u false) hsafe hcompat hu
      hview hp
  have hx := redeliver_good (c := c) (w := (w.opened u).take u .upgradeCharm) (u := u)
    w.databag ⟨by rw [World.databag_take, hidle]; decide,
      by rw [World.databag_take, hidle]; decide⟩
  have hhandle : Event.upgradeCharm.handle c good
      (((w.opened u).take u .upgradeCharm).redeliver c good u w.databag) = _ :=
    (congrArg _ hx).trans hy
  unfold World.hooked
  rw [dispatch_eq hhandle]
  refine remaining_lt hu (fun v hvu => ?_) ?_ le_rfl le_rfl
  · unfold World.weight
    simp only [World.idle, Instance.setState, World.take, World.opened, Function.update_of_ne hvu]
  · have hweight : ∀ w' : World, w'.finished u ≠ w'.target → w'.revision u = w'.target →
        w'.weight u = if w'.pending u then 3 else 2 := by
      intro w' hf hr
      unfold World.weight
      rw [if_neg hf, if_neg (not_not_intro hr)]
    have hbefore : w.weight u = 3 := (hweight w hopen hrev).trans (if_pos hp)
    rw [hbefore, hweight]
    · simp [World.idle, Instance.setState, World.take]
    · exact hopen
    · exact hrev

/-- `on_upgrade_changed` on a unit that is not in flight. -/
theorem hooked_upgradeChanged (hcompat : Compatible c) (h : (machine c).Reach (Healthy c) w)
    (hu : u < c.units) (hv : w.view u = none) (hs : w.databag.state u ≠ some .upgrading)
    (hprogress : (w.leader = u ∧ ∃ top, w.databag.stack.getLast? = some top ∧
      w.databag.state top = some .completed) ∨ w.databag.stack = [] ∧
        w.databag.state u = some .completed ∧
          ∀ v < c.units, w.databag.state v = some .idle ∨ w.databag.state v = some .completed) :
    (w.hooked c u .upgradeChanged).remaining c < w.remaining c := by
  have hsteady := steady_of_reach hcompat h
  have hx := redeliver_good (c := c) (w := w.opened u) (u := u)
    w.databag ⟨hs, (hsteady.core.state u hu).2⟩
  have hfresh := steady_fresh hcompat (opened_reach h hu hv) hu (Function.update_self _ _ _)
    w.pebble (Function.update w.deferred u false)
  show (((w.opened u).redeliver c good u w.databag).onUpgradeChanged c).world.remaining c < _
  rw [hx]
  refine hfresh.onUpgradeChanged_lt (fun _ => rfl) ?_
  have hread := databag_fresh (x := Instance.mk u w.databag { w.opened u with
    pebble := w.pebble, deferred := Function.update w.deferred u false } none) rfl
  have hstack : (Instance.mk u w.databag { w.opened u with
      pebble := w.pebble, deferred := Function.update w.deferred u false } none).stack =
      w.databag.stack := by
    unfold Instance.stack
    rw [hread]
    rfl
  rw [hread, hstack]
  rcases hprogress with ⟨hl, htop⟩ | ⟨hempty, hc, hall⟩
  · exact .inl ⟨decide_eq_true hl, htop⟩
  · refine .inr ⟨hstack.trans hempty, hc, ?_⟩
    rw [clusterState_eq_some_iff, clusterState_eq_some_iff, hread]
    by_cases hidle : ∃ v < c.units, w.databag.state v = some .idle
    · refine .inl ⟨hidle, fun v hvn => ?_⟩
      rcases hall v hvn with hs' | hs'
      · exact ⟨_, hs', le_rfl⟩
      · exact ⟨_, hs', by decide⟩
    · refine .inr ⟨⟨u, hu, hc⟩, fun v hvn => ⟨_, (hall v hvn).resolve_left fun hs' => ?_, le_rfl⟩⟩
      exact hidle ⟨v, hvn, hs'⟩

/-- A hook that drops a deferred `pebble-ready`. -/
theorem hooked_other (hs : w.databag.state u ≠ some .upgrading ∧
    w.databag.state u ≠ some .recovery) : w.hooked c u .other =
      World.idle { w.opened u with deferred := Function.update w.deferred u false } u := by
  have hx := redeliver_good (c := c) (w := w.opened u) (u := u) w.databag hs
  have hhandle : Event.other.handle c good
      (((w.opened u).take u .other).redeliver c good u w.databag) = _ :=
    congrArg (Event.other.handle c good) hx
  unfold World.hooked
  rw [dispatch_eq hhandle]
  rfl

/-- The leader resumes the upgrade. -/
theorem hooked_resumeUpgrade {next : ℕ} (hs : w.databag.state u ≠ some .upgrading ∧
    w.databag.state u ≠ some .recovery) (hl : w.leader = u)
    (htop : w.databag.stack.getLast? = some next) (hlen : w.databag.stack.length = c.units - 1)
    (hlt : next < w.partition) : (w.hooked c u .resumeUpgrade).remaining c < w.remaining c := by
  have hx := redeliver_good (c := c) (w := w.opened u) (u := u) w.databag hs
  have hstack : (Instance.mk u w.databag { w.opened u with
      deferred := Function.update w.deferred u false } none).stack = w.databag.stack := by
    unfold Instance.stack
    rw [databag_fresh rfl]
    rfl
  have hy : (Instance.mk u w.databag { w.opened u with
      deferred := Function.update w.deferred u false } none).onResumeUpgradeAction c good = .ok _ :=
    onResumeUpgradeAction_eq_ok_iff.mpr ⟨decide_eq_true hl, next, (congrArg _ hstack).trans htop,
      (congrArg _ hstack).trans hlen, rfl, rfl⟩
  have hhandle : Event.resumeUpgrade.handle c good
      (((w.opened u).take u .resumeUpgrade).redeliver c good u w.databag) = some _ :=
    (congrArg (Event.resumeUpgrade.handle c good) hx).trans
      (congrArg (fun o => some (Except.toOption o |>.getD _)) hy)
  unfold World.hooked
  rw [dispatch_eq hhandle]
  show (∑ v ∈ Finset.range c.units, w.weight v) + w.databag.stack.length + next < _
  unfold World.remaining
  omega

/-! ## Rounds -/

/-- All units have been completed in the revision of the application, and are
    idle again. -/
def World.Settled (c : Cluster) (w : World) : Prop :=
  ∀ v < c.units, w.finished v = w.target ∧ w.databag.state v ≠ some .completed

/-- A run after which less is left to do. -/
def Round (c : Cluster) (w : World) : Prop :=
  ∃ l w', (machine c).exec (Healthy c) w l = some w' ∧
    (w'.Quiet c ∧ w'.target = w.target) ∧ w'.remaining c < w.remaining c

theorem round_of_hook (event : Event) (hcompat : Compatible c)
    (h : (machine c).Reach (Healthy c) w) (hq : w.Quiet c) (hu : u < c.units)
    (hen : event.enabled c w u = true) (he : event.isPreUpgradeCheck = false)
    (hr : event ≠ .resumeUpgrade) (hlt : (w.hooked c u event).remaining c < w.remaining c) :
    Round c w :=
  ⟨_, _, exec_hook event hcompat h hq hu hen he fun he' => absurd he' hr,
    ⟨quiet_hooked hq u event, target_hooked c w u event⟩, hlt⟩

/-- Leadership may change before a round. -/
theorem round_of_elect (hu : u < c.units) (h : Round c { w with leader := u }) : Round c w := by
  obtain ⟨l, w', hl, hw', hlt⟩ := h
  have helect : step c w (.elect u) = some { w with leader := u } := if_pos hu
  exact ⟨.elect u :: l, w', exec_cons_eq_some.mpr ⟨_, ⟨trivial, trivial⟩, helect, hl⟩, hw', hlt⟩

theorem round_of_roll (hq : w.Quiet c) (hsafe : Safe c w) (hu : u < c.units)
    (hp : w.partition ≤ u) (hr : w.revision u ≠ w.target) : Round c w := by
  have hroll : step c w (.roll u) = some (w.boot u w.target) := if_pos ⟨hu, hp, hr⟩
  refine ⟨[.roll u], _, exec_cons_eq_some.mpr ⟨_, ⟨trivial, trivial⟩, hroll, rfl⟩,
    ⟨fun v hv => ?_, rfl⟩, ?_⟩
  · simp only [World.boot, Function.update_apply]
    split_ifs
    · rfl
    · exact hq v hv
  · have hopen : w.finished u ≠ w.target := fun hf => hr (hsafe.revision_eq hu hf)
    refine remaining_lt hu (fun v hv => ?_) ?_ le_rfl le_rfl
    · unfold World.weight
      simp only [World.boot, Function.update_of_ne hv]
      rfl
    · have hbefore : w.weight u = 4 := by
        unfold World.weight
        rw [if_neg hopen, if_pos hr]
      rw [hbefore]
      unfold World.weight
      simp only [World.boot, Function.update_self]
      split_ifs <;> omega

theorem elect_reach (h : (machine c).Reach (Healthy c) w) (hu : u < c.units) :
    (machine c).Reach (Healthy c) { w with leader := u } :=
  .step (a := .elect u) h ⟨trivial, trivial⟩ (if_pos hu)

/-- A leader that is not in flight takes a completed unit from the stack. -/
theorem round_of_top {top : ℕ} (hcompat : Compatible c) (h : (machine c).Reach (Healthy c) w)
    (hq : w.Quiet c) (hu : w.leader < c.units) (hs : w.databag.state w.leader ≠ some .upgrading)
    (hp : w.pending w.leader = false) (htop : w.databag.stack.getLast? = some top)
    (hc : w.databag.state top = some .completed) : Round c w :=
  round_of_hook .upgradeChanged hcompat h hq hu (by simp [Event.enabled, hp]) rfl
    (by simp) (hooked_upgradeChanged hcompat h hu (hq _ hu) hs (.inl ⟨rfl, top, htop, hc⟩))

/-- A leader that is not in flight resumes the upgrade of the second unit. -/
theorem round_of_resume {next : ℕ} (hcompat : Compatible c)
    (h : (machine c).Reach (Healthy c) w) (hq : w.Quiet c) (hu : w.leader < c.units)
    (hs : w.databag.state w.leader ≠ some .upgrading) (hp : w.pending w.leader = false)
    (htop : w.databag.stack.getLast? = some next) (hlen : w.databag.stack.length = c.units - 1)
    (hpart : w.partition + 1 = c.units) (hlt : next < w.partition) : Round c w := by
  have hstate := And.intro hs ((steady_of_reach hcompat h).core.state _ hu).2
  -- a deferred `pebble-ready` would come before the action
  have hdrop := exec_hook .other hcompat h hq hu (by simp [Event.enabled, hp]) rfl
    (by simp)
  have hdropped := h.exec hdrop
  have hq' := quiet_hooked hq w.leader .other
  rw [hooked_other (c := c) hstate] at hdrop hdropped hq'
  have hresume := exec_hook .resumeUpgrade hcompat hdropped hq' hu
    (by simp [Event.enabled, World.idle, World.opened, hp]) rfl
    fun _ => ⟨Function.update_self _ _ _, hpart⟩
  exact ⟨_, _, exec_append hdrop hresume,
    ⟨quiet_hooked hq' w.leader .resumeUpgrade, target_hooked c _ w.leader .resumeUpgrade⟩,
    hooked_resumeUpgrade hstate rfl htop hlen hlt⟩

/-- The highest unit that has not been completed is the next one, and only the
    second unit waits for the action. -/
theorem next_unit (h : Steady c w) (hex : ∃ v < c.units, w.finished v ≠ w.target) :
    ∃ v < c.units, w.finished v ≠ w.target ∧ (∀ t < c.units, v < t → w.finished t = w.target) ∧
      (w.partition ≤ v ∨ v + 2 = c.units ∧ w.partition + 1 = c.units) := by
  obtain ⟨t, ht, hopen⟩ := hex
  have hspec := Nat.findGreatest_spec (P := fun v => w.finished v ≠ w.target)
    (Nat.le_sub_one_of_lt ht) hopen
  have habove : ∀ v < c.units,
      Nat.findGreatest (fun v => w.finished v ≠ w.target) (c.units - 1) < v →
        w.finished v = w.target := fun v hv hlt =>
    not_not.mp (Nat.findGreatest_is_greatest hlt (Nat.le_sub_one_of_lt hv))
  have hle := Nat.findGreatest_le (P := fun v => w.finished v ≠ w.target) (c.units - 1)
  generalize Nat.findGreatest (fun v => w.finished v ≠ w.target) (c.units - 1) = v at *
  have hv : v < c.units := by omega
  refine ⟨v, hv, hspec, habove, or_iff_not_imp_left.mpr fun hlt => ?_⟩
  have hpart := h.core.partition
  by_cases hp : w.partition + 2 ≤ c.units
  · have hlow := h.lowered w.partition (by omega) hp (by omega)
      (habove _ (by omega) (by omega)) ⟨t, ht, hopen⟩
    omega
  · by_cases hp' : v + 3 ≤ c.units
    · have hlow := h.lowered (v + 1) (by omega) hp' (by omega)
        (habove _ (by omega) (by omega)) ⟨t, ht, hopen⟩
      omega
    · omega

/-- The states of a healthy run. -/
theorem Steady.state (h : Steady c w) (hn : NoReady w) (hv : v < c.units) :
    w.databag.state v = none ∨ w.databag.state v = some .idle ∨
      w.databag.state v = some .upgrading ∨ w.databag.state v = some .completed := by
  cases hs : w.databag.state v with
  | none => exact .inl rfl
  | some s =>
    cases s with
    | recovery => exact absurd hs (h.core.state v hv).2
    | failed => exact absurd hs (h.core.state v hv).1
    | idle => exact .inr (.inl rfl)
    | ready => exact absurd hs (hn.databag v)
    | upgrading => exact .inr (.inr (.inl rfl))
    | completed => exact .inr (.inr (.inr rfl))

/-- The unit at the top of the stack says that it has been completed. -/
theorem top_completed {top : ℕ} (h : Steady c w) (hsafe : Safe c w)
    (hall : ¬w.AllIdle c) (htop : w.databag.stack.getLast? = some top)
    (hf : ∀ v < c.units, v + 1 = w.databag.stack.length → w.finished v = w.target) :
    w.databag.state top = some .completed := by
  obtain ⟨k, hk, hstack, -⟩ := hsafe.stack
  have hmem : top ∈ w.databag.stack := List.mem_of_getLast? htop
  rw [hstack] at htop
  obtain rfl := getLast?_range htop
  refine (h.core.stack top (by omega) hmem (hf top (by omega) ?_)).resolve_right hall
  rw [hstack, List.length_range]

theorem exists_round (hcompat : Compatible c) (h : (machine c).Reach (Healthy c) w)
    (hq : w.Quiet c) (hset : ¬w.Settled c) : Round c w := by
  have hsteady := steady_of_reach hcompat h
  have hsafe := safe_of_reach (orderly_of_healthy h)
  by_cases hup : ∃ v < c.units, w.databag.state v = some .upgrading
  · obtain ⟨v, hv, hs⟩ := hup
    obtain ⟨event, hen, he, hr, hlt⟩ := hooked_upgrading hcompat h hv (hq v hv) hs
    exact round_of_hook _ hcompat h hq hv hen he hr hlt
  by_cases hpend : ∃ v < c.units, w.pending v = true
  · obtain ⟨v, hv, hp⟩ := hpend
    exact round_of_hook .upgradeCharm hcompat h hq hv hp rfl (by simp)
      (hooked_upgradeCharm hcompat h hv (hq v hv) hp)
  have hidle : ∀ v < c.units, w.databag.state v ≠ some .upgrading ∧ w.pending v = false :=
    fun v hv => ⟨fun hs => hup ⟨v, hv, hs⟩, Bool.eq_false_iff.mpr fun hp => hpend ⟨v, hv, hp⟩⟩
  -- no unit is in flight
  by_cases hex : ∃ v < c.units, w.finished v ≠ w.target
  · obtain ⟨v, hv, hopen, habove, hle | ⟨hsecond, hpart⟩⟩ := next_unit hsteady hex
    · refine round_of_roll hq hsafe hv hle ?_
      rcases hsteady.core.unfinished v hv hopen with ⟨-, hr | hp⟩ | ⟨hs, -⟩
      · exact hr
      · exact absurd hp (by simp [(hidle v hv).2])
      · exact absurd hs (hidle v hv).1
    · obtain ⟨k, hk, hstack, hfin⟩ := hsafe.stack
      have hvk : v < k := by
        by_contra hle
        exact hopen (hfin v hv (by omega))
      have htop : w.databag.stack.getLast? = some (k - 1) := by
        obtain ⟨j, rfl⟩ : ∃ j, k = j + 1 := ⟨k - 1, by omega⟩
        rw [hstack, List.range_succ, List.getLast?_concat]
        rfl
      refine round_of_elect hv ?_
      by_cases hk' : k = c.units
      · have hc := top_completed hsteady hsafe (fun hall => hopen (hall v hv).2) htop
          fun t ht hlen => habove t ht (by rw [hstack, List.length_range] at hlen; omega)
        exact round_of_top hcompat (elect_reach h hv) hq hv (hidle v hv).1 (hidle v hv).2 htop hc
      · have hlen : w.databag.stack.length = c.units - 1 := by
          rw [hstack, List.length_range]
          omega
        exact round_of_resume hcompat (elect_reach h hv) hq hv (hidle v hv).1 (hidle v hv).2 htop
          hlen hpart (by show k - 1 < w.partition; omega)
  · have hfin : ∀ v < c.units, w.finished v = w.target := fun v hv =>
      not_not.mp fun hf => hex ⟨v, hv, hf⟩
    obtain ⟨v, hv, hc⟩ : ∃ v < c.units, w.databag.state v = some .completed := by
      by_contra hno
      exact hset fun v hv => ⟨hfin v hv, fun hc => hno ⟨v, hv, hc⟩⟩
    cases htop : w.databag.stack.getLast? with
    | none =>
      refine round_of_hook .upgradeChanged hcompat h hq hv
        (by simp [Event.enabled, (hidle v hv).2]) rfl (by simp) ?_
      refine hooked_upgradeChanged hcompat h hv (hq v hv) (hidle v hv).1
        (.inr ⟨List.getLast?_eq_none_iff.mp htop, hc, fun t ht => ?_⟩)
      rcases hsteady.state (noReady_of_reach h) ht with hs | hs | hs | hs
      · exact absurd hs ((hsteady.core.active (.inr ⟨v, hv, .inr hc⟩)).2 t ht)
      · exact .inl hs
      · exact absurd hs (hidle t ht).1
      · exact .inr hs
    | some top =>
      have hall : ¬w.AllIdle c := fun hall => by
        rw [(hall v hv).1] at hc
        cases hc
      have hctop := top_completed hsteady hsafe hall htop fun t ht _ => hfin t ht
      exact round_of_elect hv (round_of_top hcompat (elect_reach h hv) hq hv (hidle v hv).1
        (hidle v hv).2 htop hctop)

/-! ## Runs to the end -/

/-- The running hooks end. -/
theorem exists_quiet (hcompat : Compatible c) (h : (machine c).Reach (Healthy c) w) :
    ∃ l w', (machine c).exec (Healthy c) w l = some w' ∧
      ((machine c).Reach (Healthy c) w' ∧ w'.target = w.target) ∧ w'.Quiet c := by
  refine exists_exec_of_rounds (M := machine c)
    (fun w' => (machine c).Reach (Healthy c) w' ∧ w'.target = w.target) (World.Quiet c)
    (fun w' => ((Finset.range c.units).filter fun v => w'.view v ≠ none).card) ?_ w ⟨h, rfl⟩
  rintro w' ⟨hreach, htarget⟩ hq
  simp only [World.Quiet, not_forall] at hq
  obtain ⟨u, hu, hview⟩ := hq
  obtain ⟨view, hview⟩ := Option.ne_none_iff_exists'.mp hview
  obtain ⟨event, hen, he, hr⟩ : ∃ event : Event, event.enabled c w' u = true ∧
      event.isPreUpgradeCheck = false ∧ event ≠ .resumeUpgrade := by
    cases hp : w'.pending u with
    | true => exact ⟨.upgradeCharm, hp, rfl, by simp⟩
    | false => exact ⟨.other, by simp [Event.enabled, hp], rfl, by simp⟩
  have hhealthy := healthy_dispatch (steady_of_reach hcompat hreach) hu he
    fun he' => absurd he' hr
  have hstep : step c w' (.dispatch u event good good false) =
      some ((w'.dispatch c u event good good false view).idle u) := by
    unfold step
    simp only [hview, Option.bind_some]
    exact if_pos ⟨hu, hen⟩
  obtain ⟨hv, ht⟩ := view_dispatch c w' u event good good false view
  refine ⟨[_], _, exec_cons_eq_some.mpr ⟨_, hhealthy, hstep, rfl⟩,
    ⟨hreach.step hhealthy hstep, ht.trans htarget⟩, Finset.card_lt_card ?_⟩
  simp only [World.idle, hv, Function.update_apply]
  refine (Finset.ssubset_iff_of_subset (Finset.monotone_filter_right _ fun v _ hne => ?_)).mpr
    ⟨u, by simp [hu, hview], by simp⟩
  split_ifs at hne with he
  · exact absurd rfl hne
  · exact hne

/-- Every upgrade can be finished: from each state of a healthy run some healthy
    run leads to all units being idle in the revision of the application. -/
theorem completes_of_reach (hcompat : Compatible c) (h : (machine c).Reach (Healthy c) w) :
    ∃ l w', (machine c).exec (Healthy c) w l = some w' ∧ w'.target = w.target ∧
      ∀ v < c.units, w'.revision v = w.target ∧ w'.finished v = w.target ∧
        (w'.databag.state v = none ∨ w'.databag.state v = some .idle) := by
  obtain ⟨l, t, hl, ⟨hreach, htarget⟩, hq⟩ := exists_quiet hcompat h
  obtain ⟨l', w', hl', ⟨hreach', hq', htarget'⟩, hset⟩ :=
    exists_exec_of_rounds (M := machine c)
      (fun w' => (machine c).Reach (Healthy c) w' ∧ w'.Quiet c ∧ w'.target = w.target)
      (World.Settled c) (World.remaining c)
      (fun w' ⟨hr, hq, ht⟩ hset => by
        obtain ⟨l, w'', hl, ⟨hq', ht'⟩, hlt⟩ := exists_round hcompat hr hq hset
        exact ⟨l, w'', hl, ⟨hr.exec hl, hq', ht'.trans ht⟩, hlt⟩) t ⟨hreach, hq, htarget⟩
  have hsteady := steady_of_reach hcompat hreach'
  have hsafe := safe_of_reach (orderly_of_healthy hreach')
  refine ⟨l ++ l', w', exec_append hl hl', htarget', fun v hv => ?_⟩
  obtain ⟨hf, hc⟩ := hset v hv
  rw [← htarget']
  refine ⟨hsafe.revision_eq hv hf, hf, ?_⟩
  rcases hsteady.state (noReady_of_reach hreach') hv with hs | hs | hs | hs
  · exact .inl hs
  · exact .inr hs
  · exact absurd hs (hsteady.core.finished v hv hf).2
  · exact absurd hs hc

theorem compatible_threeUnits : Compatible threeUnits := fun _ _ _ => by
  have hnone : ((dependencies.fields.zip dependencies.fields).filter fun p =>
      !canUpgrade threeUnits p.1.2 p.2.2).isEmpty = true := by decide
  unfold upgradeSupportedCheck
  exact if_pos hnone

/-- An upgrade with its second pod coming up. -/
theorem completes_of_reach_sample : ∃ w, (machine threeUnits).Reach (Healthy threeUnits) w ∧
    w.InFlight 1 ∧ w.revision 0 ≠ w.target ∧
      ∃ l w', (machine threeUnits).exec (Healthy threeUnits) w l = some w' ∧
        w'.target = w.target ∧ ∀ v < 3, w'.revision v = w.target ∧ w'.finished v = w.target ∧
          (w'.databag.state v = none ∨ w'.databag.state v = some .idle) := by
  obtain ⟨w, hreach, hw⟩ := exists_reach_of_exec (machine threeUnits) (Healthy threeUnits) deployed
    (untilResumed ++ [.roll 1])
    (fun w => decide ((w.revision 1 = w.target ∧ w.finished 1 ≠ w.target) ∧
      w.revision 0 ≠ w.target)) deployed_init (by decide +kernel)
  obtain ⟨hflight, hold⟩ := of_decide_eq_true hw
  exact ⟨w, hreach, hflight, hold, completes_of_reach compatible_threeUnits hreach⟩

end PgBouncerK8s.DataUpgrade
