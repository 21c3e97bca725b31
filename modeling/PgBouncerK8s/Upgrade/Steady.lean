import PgBouncerK8s.Upgrade.OneAtATime

/-!
# Upgrades without failures

Healthy runs: Kubernetes accepts all patches, no handler raises, pods come up
once, `pre-upgrade-check` is run on an idle application and `resume-upgrade` once
per upgrade. The checks of `pebble-ready` may fail any number of times.

* `steady_of_reach`: the invariant `Steady` of healthy runs. The unit in flight
  has an event due that completes it, the units in the stack that have been
  completed still say so, and the partition is below the completed units.
-/

namespace PgBouncerK8s.DataUpgrade

open Machine

variable {c : Cluster} {w w' : World} {u v : ℕ}

/-! ## Healthy runs -/

/-- All units are idle in a completed revision. -/
def World.AllIdle (c : Cluster) (w : World) : Prop :=
  ∀ v < c.units, w.databag.state v = some .idle ∧ w.finished v = w.target

instance : Decidable (w.AllIdle c) := by
  unfold World.AllIdle
  infer_instance

/-- What healthy runs keep to beyond orderly ones. -/
def Smooth (c : Cluster) (w : World) : Action → Prop
  | .restart _ => False
  | .dispatch u event early late raises =>
      (raises = false ∧ early.patches = true ∧ late.patches = true) ∧
      (event.isPreUpgradeCheck = true → w.databag.dependencies ≠ none ∧ w.AllIdle c) ∧
      (event = .resumeUpgrade → w.deferred u = false ∧ w.partition + 1 = c.units)
  | _ => True

instance : (a : Action) → Decidable (Smooth c w a)
  | .restart _ => inferInstanceAs (Decidable False)
  | .dispatch u event early late raises => inferInstanceAs (Decidable (
      (raises = false ∧ early.patches = true ∧ late.patches = true) ∧
      (event.isPreUpgradeCheck = true → w.databag.dependencies ≠ none ∧ w.AllIdle c) ∧
      (event = .resumeUpgrade → w.deferred u = false ∧ w.partition + 1 = c.units)))
  | .start _ | .elect _ | .refresh | .roll _ | .restartContainer _ =>
      inferInstanceAs (Decidable True)

/-- The guard of healthy runs. -/
def Healthy (c : Cluster) (w : World) (a : Action) : Prop := Orderly c w a ∧ Smooth c w a

instance (a : Action) : Decidable (Healthy c w a) := by
  unfold Healthy
  infer_instance

/-! ## The invariant -/

/-- An upgrade has been prepared, or a unit is not idle again. -/
def World.Active (c : Cluster) (w : World) : Prop :=
  w.databag.stack ≠ [] ∨ ∃ v < c.units, w.finished v ≠ w.target ∨
    w.databag.state v = some .completed

/-- What the handlers of a healthy run keep. -/
structure Core (c : Cluster) (w : World) : Prop where
  state : ∀ v < c.units, w.databag.state v ≠ some .failed ∧ w.databag.state v ≠ some .recovery
  partition : w.partition ≤ c.units - 1
  stored : ∀ d, w.databag.dependencies = some d → ∃ r ≤ w.target, d = c.dependencyModel r
  active : w.Active c → w.databag.dependencies ≠ none ∧
    ∀ v < c.units, w.databag.state v ≠ none
  unfinished : ∀ v < c.units, w.finished v ≠ w.target →
    w.databag.state v = some .idle ∧ (w.revision v ≠ w.target ∨ w.pending v = true) ∨
      w.databag.state v = some .upgrading ∧ w.pending v = false
  finished : ∀ v < c.units, w.finished v = w.target →
    w.pending v = false ∧ w.databag.state v ≠ some .upgrading
  stack : ∀ v < c.units, v ∈ w.databag.stack → w.finished v = w.target →
    w.databag.state v = some .completed ∨ w.AllIdle c
  viewFailed : ∀ u < c.units, ∀ b, w.view u = some b → ∀ v < c.units, b.state v ≠ some .failed
  viewStack : ∀ u < c.units, ∀ b, w.view u = some b → b.stack = [] →
    w.databag.state u = some .completed → w.databag.stack = []
  viewOpen : ∀ u < c.units, ∀ b, w.view u = some b → w.finished u ≠ w.target →
    w.revision u = w.target → b.stack ≠ [] ∧ ∃ r ≤ w.target, b.dependencies =
      some (c.dependencyModel r)

/-- While pods are still to be replaced, the partition is below the completed
    units but the highest. -/
def Lowered (c : Cluster) (w : World) : Prop :=
  ∀ v < c.units, v + 2 ≤ c.units → 0 < v → w.finished v = w.target →
    (∃ t < c.units, w.finished t ≠ w.target) → w.partition < v

/-- The unit in flight has still an event to handle that completes it. -/
def Due (c : Cluster) (w : World) : Prop :=
  ∀ v < c.units, (w.pending v = true → w.pebble v = true) ∧
    (w.databag.state v = some .upgrading → w.pebble v = true ∨ w.deferred v = true)

structure Steady (c : Cluster) (w : World) : Prop where
  core : Core c w
  lowered : Lowered c w
  due : Due c w

theorem steady_of_deployed (h : Deployed w) : Steady c w where
  core :=
    { state := fun v _ => by simp [h.state]
      partition := by simp [h.partition]
      stored := fun d hd => by simp [h.dependencies] at hd
      active := fun ha => by
        rcases ha with hs | ⟨v, -, hf | hs⟩
        · exact absurd h.stack hs
        · simp [h.finished, h.target] at hf
        · simp [h.state] at hs
      unfinished := fun v _ hf => by simp [h.finished, h.target] at hf
      finished := fun v _ _ => by simp [h.pending, h.state]
      stack := fun v _ hv => by simp [h.stack] at hv
      viewFailed := fun u _ b hb => by simp [h.view] at hb
      viewStack := fun u _ b hb => by simp [h.view] at hb
      viewOpen := fun u _ b hb => by simp [h.view] at hb }
  lowered := fun v _ _ _ _ ⟨t, _, hf⟩ => by simp [h.finished, h.target] at hf
  due := fun v _ => by simp [h.pending, h.state]

/-! ## The handlers -/

namespace Instance

variable {x y : Instance} {l : List ℕ} {env : Env}

/-- The invariant during a dispatch. A completed leader does not drop itself from
    the stack it has loaded while it is in that of the databag. -/
structure Steady (c : Cluster) (x : Instance) : Prop where
  sound : x.Sound c
  ready : x.NoReady c
  core : Core c x.world
  leader : x.isLeader = true → ∀ l, x.upgradeStack = some l → l ⊆ x.world.databag.stack ∧
    (x.unit ∈ x.world.databag.stack → x.state = some .completed → x.unit ∈ l)

/-- Nothing has been loaded by a unit that does not lead. -/
def Unloaded (x : Instance) : Prop := x.isLeader = false → x.upgradeStack = none

theorem unloaded_of_isLeader (hl : x.isLeader = true) : x.Unloaded := fun hl' => by
  rw [hl] at hl'
  cases hl'

/-- Where the stack of the unit is empty, a completed unit is not in the stack of
    the databag. -/
theorem Steady.not_mem_stack (h : x.Steady c) (hu : x.Unloaded) (hs : x.stack = [])
    (hc : x.state = some .completed) : x.unit ∉ x.world.databag.stack := by
  intro hmem
  cases hl : x.isLeader with
  | true =>
    unfold Instance.stack at hs
    cases hcache : x.upgradeStack with
    | some l =>
      rw [hcache, Option.getD_some] at hs
      have hin := (h.leader hl l hcache).2 hmem hc
      rw [hs] at hin
      cases hin
    | none =>
      rw [hcache, Option.getD_none] at hs
      simp only [databag, hl, if_true] at hs
      rw [hs] at hmem
      cases hmem
  | false =>
    unfold Instance.stack at hs
    rw [hu hl, Option.getD_none] at hs
    simp only [databag, hl, Bool.false_eq_true, if_false] at hs
    rw [h.core.viewStack _ h.sound.unit _ h.sound.view hs hc] at hmem
    cases hmem

/-- A completed unit that has left the stack is idle again. -/
theorem Steady.setIdle (h : x.Steady c) (hc : x.state = some .completed)
    (hmem : x.unit ∉ x.world.databag.stack) : (x.setState .idle).Steady c where
  sound := h.sound.setState (fun he => by cases he) fun he => by cases he
  ready := h.ready.frame ((Frame.refl x).setState (by decide))
  core := by
    have hfin := h.sound.safe.completed _ h.sound.unit hc
    refine { h.core with
      state := ?_, active := ?_, unfinished := ?_, finished := ?_, stack := ?_, viewStack := ?_ }
    · intro v hv
      rw [state_setState]
      split_ifs
      · exact ⟨by decide, by decide⟩
      · exact h.core.state v hv
    · intro _
      have hactive : x.world.Active c := .inr ⟨x.unit, h.sound.unit, .inr hc⟩
      refine ⟨(h.core.active hactive).1, fun v hv => ?_⟩
      rw [state_setState]
      split_ifs
      · simp
      · exact (h.core.active hactive).2 v hv
    · intro v hv hf
      rw [state_setState]
      split_ifs with he
      · exact absurd (he ▸ hfin) hf
      · exact h.core.unfinished v hv hf
    · intro v hv hf
      refine ⟨(h.core.finished v hv hf).1, ?_⟩
      rw [state_setState]
      split_ifs
      · simp
      · exact (h.core.finished v hv hf).2
    · intro v hv hin hf
      left
      have hvu : v ≠ x.unit := by
        rintro rfl
        exact hmem hin
      rw [state_setState, if_neg hvu]
      rcases h.core.stack v hv hin hf with hs | hall
      · exact hs
      · have hidle := (hall x.unit h.sound.unit).1
        rw [show x.world.databag.state x.unit = _ from hc] at hidle
        cases hidle
    · intro u hu b hb hempty hs
      rw [state_setState] at hs
      split_ifs at hs
      · cases hs
      · exact h.core.viewStack u hu b hb hempty hs
  leader hl l hcache := by
    refine ⟨(h.leader hl l hcache).1, fun _ hs => ?_⟩
    have hidle : (x.setState .idle).state = some .idle :=
      (state_setState x .idle x.unit).trans (if_pos rfl)
    rw [hidle] at hs
    cases hs

theorem Steady.writeDependencies (h : x.Steady c) : (x.writeDependencies c).Steady c where
  sound := h.sound.writeDependencies
  ready := h.ready.frame (Frame.refl x).writeDependencies
  core :=
    { h.core with
      stored := fun d hd => ⟨x.world.revision x.unit, (h.sound.safe.bound _ h.sound.unit).2,
        (Option.some.inj hd).symm⟩
      active := fun ha => ⟨by simp [Instance.writeDependencies], (h.core.active ha).2⟩ }
  leader := h.leader

theorem Steady.markIdle (h : x.Steady c) (hu : x.Unloaded) (hs : x.stack = []) :
    (x.markIdle c).Steady c := by
  unfold Instance.markIdle
  simp only
  split_ifs with hc hl
  · exact (h.setIdle hc.1 (h.not_mem_stack hu hs hc.1)).writeDependencies
  · exact h.setIdle hc.1 (h.not_mem_stack hu hs hc.1)
  · exact h

theorem Steady.stack_subset (h : x.Steady c) (hl : x.isLeader = true) :
    x.stack ⊆ x.world.databag.stack := by
  unfold Instance.stack
  cases hcache : x.upgradeStack with
  | some l => exact (h.leader hl l hcache).1
  | none =>
    rw [Option.getD_none]
    simp only [databag, hl, if_true]
    exact fun _ hv => hv

/-- The leader takes a completed unit from the stack. -/
theorem Steady.pop (h : x.Steady c) {top : ℕ} (htop : x.stack.getLast? = some top)
    (hl : x.isLeader = true) (hs : x.databag.state top = some .completed) :
    ((x.cached x.stack.dropLast).writeStack x.stack.dropLast).Steady c where
  sound := h.sound.pop htop hl hs
  ready := h.ready.frame (((Frame.refl x).cached _).writeStack _)
  core := by
    have hsub : x.stack.dropLast ⊆ x.world.databag.stack := fun v hv =>
      h.stack_subset hl ((List.dropLast_sublist _).subset hv)
    refine { h.core with
      active := fun ha => h.core.active (ha.imp_left fun hne hempty => hne ?_)
      stack := fun v hv hin hf => h.core.stack v hv (hsub hin) hf
      viewStack := fun u hu b hb hempty hs' => ?_ }
    · rw [h.core.viewStack u hu b hb hempty hs'] at hsub
      exact List.subset_nil.mp hsub
    · rw [hempty] at hsub
      exact List.subset_nil.mp hsub
  leader _ l' hcache := by
    obtain rfl := Option.some.inj hcache
    exact ⟨fun _ hv => hv, fun hin _ => hin⟩

/-- The unit takes the top from the stack it has loaded only. -/
theorem Steady.stop (h : x.Steady c) {top : ℕ} (htop : x.stack.getLast? = some top)
    (hs : ¬(x.isLeader = true ∧ x.databag.state top = some .completed)) :
    (x.cached x.stack.dropLast).Steady c where
  sound := h.sound.stop
  ready := h.ready.frame ((Frame.refl x).cached _)
  core := h.core
  leader hl l hcache := by
    obtain rfl := Option.some.inj hcache
    have hl' : x.isLeader = true := hl
    refine ⟨fun v hv => h.stack_subset hl' ((List.dropLast_sublist _).subset hv), fun hin hc => ?_⟩
    have hmem : x.unit ∈ x.stack := by
      unfold Instance.stack
      cases hcache : x.upgradeStack with
      | some l => exact (h.leader hl' l hcache).2 hin hc
      | none =>
        rw [Option.getD_none]
        simp only [databag, hl', if_true]
        exact hin
    rw [← List.dropLast_append_getLast? top htop] at hmem
    rcases List.mem_append.mp hmem with hv | hv
    · exact hv
    · -- a completed leader would have been found completed
      have htopu : x.unit = top := List.mem_singleton.mp hv
      refine absurd ⟨hl', ?_⟩ hs
      unfold databag
      simp only [← htopu, if_true]
      exact hc

theorem Steady.onUpgradeChanged (h : x.Steady c) (hu : x.Unloaded) :
    (x.onUpgradeChanged c).Steady c :=
  h.ready.onUpgradeChanged_rule (P := fun y => y.Steady c ∧ y.Unloaded) (Q := Steady c)
    (fun _ _ hy htop hl hs => ⟨hy.1.pop htop hl hs, unloaded_of_isLeader hl⟩)
    (fun _ hy _ => hy.1) (fun _ hy hs => hy.1.markIdle hy.2 hs)
    (fun _ _ hy htop hs => hy.1.stop htop hs) ⟨h, hu⟩

/-! ### `pebble-ready` -/

/-- The leader loads the stack again. -/
theorem Steady.refreshed (h : x.Steady c) : x.refreshed.Steady c ∧
    x.refreshed.world = x.world ∧ x.refreshed.unit = x.unit ∧
      (x.refreshed.isLeader = true → x.refreshed.upgradeStack = none) := by
  unfold Instance.refreshed
  split_ifs with hl
  · exact ⟨⟨⟨h.sound.safe, h.sound.unit, h.sound.view, fun _ l hl => by cases hl⟩, h.ready, h.core,
      fun _ l hcache => by cases hcache⟩,
      rfl, rfl, fun _ => rfl⟩
  · exact ⟨h, rfl, rfl, fun hl' => absurd hl' hl⟩

theorem Unloaded.refreshed (hu : x.Unloaded) : x.refreshed.Unloaded := by
  unfold Instance.refreshed
  split_ifs with hl
  · exact fun _ => rfl
  · exact hu

/-- The unit in flight is completed. -/
theorem Steady.complete (h : x.Steady c) (hs : x.state = some .upgrading)
    (hnone : x.isLeader = true → x.upgradeStack = none) :
    (x.finish.setState .completed).Steady c := by
  have hrev := h.sound.safe.upgrading _ h.sound.unit hs
  have hopen : x.world.finished x.unit ≠ x.world.target := fun hf =>
    (h.core.finished _ h.sound.unit hf).2 hs
  have hpending : x.world.pending x.unit = false := by
    rcases h.core.unfinished _ h.sound.unit hopen with ⟨hidle, -⟩ | ⟨-, hp⟩
    · rw [show x.world.databag.state x.unit = _ from hs] at hidle
      cases hidle
    · exact hp
  have hactive : x.world.Active c := .inr ⟨x.unit, h.sound.unit, .inl hopen⟩
  have hfin : ∀ v, (x.finish.setState .completed).world.finished v =
      if v = x.unit then x.world.target else x.world.finished v := by
    intro v
    show Function.update x.world.finished x.unit _ v = _
    rw [Function.update_apply, hrev]
  have hstate : ∀ v, (x.finish.setState .completed).world.databag.state v =
      if v = x.unit then some .completed else x.world.databag.state v :=
    fun v => state_setState x.finish .completed v
  refine ⟨?_, h.ready.frame ((Frame.refl x).finish.setState (by decide)), ?_, fun hl l hcache => ?_⟩
  · refine (h.sound.finish hrev).setState (fun he => by cases he) fun _ => ?_
    show Function.update x.world.finished x.unit _ x.unit = x.world.target
    rw [Function.update_self]
    exact hrev
  · refine { h.core with
      state := ?_, active := ?_, unfinished := ?_, finished := ?_, stack := ?_, viewStack := ?_,
      viewOpen := ?_ }
    · intro v hv
      rw [hstate]
      split_ifs
      · exact ⟨by decide, by decide⟩
      · exact h.core.state v hv
    · intro _
      refine ⟨(h.core.active hactive).1, fun v hv => ?_⟩
      rw [hstate]
      split_ifs
      · simp
      · exact (h.core.active hactive).2 v hv
    · intro v hv hf
      rw [hfin] at hf
      rw [hstate]
      split_ifs at hf ⊢
      · exact absurd rfl hf
      · exact h.core.unfinished v hv hf
    · intro v hv hf
      rw [hfin] at hf
      rw [hstate]
      split_ifs at hf ⊢ with he
      · exact ⟨he ▸ hpending, by decide⟩
      · exact h.core.finished v hv hf
    · intro v hv hin hf
      left
      rw [hfin] at hf
      rw [hstate]
      split_ifs at hf ⊢
      · rfl
      · exact (h.core.stack v hv hin hf).resolve_right fun hall =>
          hopen (hall x.unit h.sound.unit).2
    · intro u hu b hb hempty hs'
      rw [hstate] at hs'
      split_ifs at hs' with he
      · -- the hook of the unit began when the unit was in flight
        subst he
        exact absurd hempty (h.core.viewOpen _ hu b hb hopen hrev).1
      · exact h.core.viewStack u hu b hb hempty hs'
    · intro u hu b hb hf hr
      rw [hfin] at hf
      split_ifs at hf
      · exact absurd rfl hf
      · exact h.core.viewOpen u hu b hb hf hr
  · rw [show (x.finish.setState .completed).upgradeStack = x.upgradeStack from rfl, hnone hl]
      at hcache
    cases hcache

theorem Steady.setPartition {p : ℕ} (h : x.Steady c) (hp : p ≤ c.units - 1)
    (hs : (x.setPartition p).Sound c) : (x.setPartition p).Steady c where
  sound := hs
  ready := h.ready.frame ((Frame.refl x).setPartition p)
  core := { h.core with partition := hp }
  leader := h.leader

theorem Steady.onUpgradeFinished (h : x.Steady c) (hu : x.Unloaded) (hd : x.Done)
    (hp : env.patches = true) : (x.onUpgradeFinished c env).Steady c ∧
      (x.onUpgradeFinished c env).Unloaded ∧
        (x.unit + 1 ≠ c.units → x.unit ≠ 0 →
          (x.onUpgradeFinished c env).world.partition = x.unit - 1) := by
  have hend : ∀ y : Instance, Frame x y → y.Steady c → y.Unloaded → y.Done →
      let z := if y.unit + 1 = c.units then y else if y.unit = 0 then y
        else if env.patches then y.setPartition (y.unit - 1) else y.setUnitFailed
      z.Steady c ∧ z.Unloaded ∧
        (x.unit + 1 ≠ c.units → x.unit ≠ 0 → z.world.partition = x.unit - 1) := by
    intro y hf hy hyu hyd
    simp only [hf.unit, hp, if_true]
    split_ifs with hlast hfirst
    · exact ⟨hy, hyu, fun hne => absurd hlast hne⟩
    · exact ⟨hy, hyu, fun _ hne => absurd hfirst hne⟩
    · have hlt := h.sound.unit
      refine ⟨hy.setPartition (by omega) (hy.sound.setPartition fun v hv hpv => ?_), hyu,
        fun _ _ => rfl⟩
      exact hy.sound.safe.finished_of_le hv (by rw [hf.unit]; omega) hyd
  unfold Instance.onUpgradeFinished
  simp only
  cases hl : x.isLeader with
  | false => exact hend x (Frame.refl x) h hu hd
  | true =>
    have hf : Frame x (x.onUpgradeChanged c) := (Frame.refl x).onUpgradeChanged
    exact hend _ hf (h.onUpgradeChanged hu) (unloaded_of_isLeader (hf.isLeader.trans hl))
      (h.sound.done hd hf)

/-- The completed unit lowers the partition below itself. -/
theorem Steady.setUnitCompleted (h : x.Steady c) (hu : x.Unloaded) (hs : x.state = some .upgrading)
    (hp : env.patches = true) : (x.setUnitCompleted c env).Steady c ∧
      (x.setUnitCompleted c env).Unloaded ∧ Lowered c (x.setUnitCompleted c env).world := by
  have hrev := h.sound.safe.upgrading _ h.sound.unit hs
  have hopen : x.world.finished x.unit ≠ x.world.target := fun hf =>
    (h.core.finished _ h.sound.unit hf).2 hs
  obtain ⟨hx, hworld, hunit, hnone⟩ := h.refreshed
  have hcomplete : (x.refreshed.finish.setState .completed).Steady c := hx.complete
    (by rw [Instance.state, hworld, hunit]; exact hs) hnone
  obtain ⟨hsound, hdone⟩ := h.sound.setUnitCompleted h.ready hrev env
  have hcompleted : (x.refreshed.finish.setState .completed).Done := by
    show Function.update x.refreshed.world.finished x.refreshed.unit _ x.refreshed.unit =
      x.refreshed.world.target
    rw [Function.update_self, hworld, hunit]
    exact hrev
  obtain ⟨hy, hyu, hpart⟩ := hcomplete.onUpgradeFinished hu.refreshed hcompleted hp
  refine ⟨hy, hyu, fun v hv hv2 hpos hf hex => ?_⟩
  obtain ⟨t, ht, hopent⟩ := hex
  have hframe : Frame x (x.setUnitCompleted c env) := (Frame.refl x).setUnitCompleted
  have hle : x.unit ≤ v := by
    by_contra hlt
    rcases hframe.finished v with he | ⟨he, -⟩
    · rw [he, hframe.target] at hf
      exact hopen (h.sound.safe.finished_of_le h.sound.unit (by omega) hf)
    · omega
  have hunit' : (x.refreshed.finish.setState .completed).unit = x.unit := hunit
  rw [hunit'] at hpart
  by_cases hzero : x.unit = 0
  · refine absurd (hsound.safe.finished_of_le ht ?_ hdone) hopent
    rw [hframe.unit, hzero]
    exact Nat.zero_le t
  · have he : (x.setUnitCompleted c env).world.partition = x.unit - 1 :=
      hpart (by omega) hzero
    omega

/-- `pebble-ready` completes the unit in flight, or is deferred. -/
theorem Steady.onPgbouncerPebbleReady (h : x.Steady c) (hu : x.Unloaded)
    (hlow : Lowered c x.world) (hp : env.patches = true) :
    (x.onPgbouncerPebbleReady c env).Steady c ∧ (x.onPgbouncerPebbleReady c env).Unloaded ∧
      Lowered c (x.onPgbouncerPebbleReady c env).world ∧
        ((x.onPgbouncerPebbleReady c env).state = some .upgrading →
          (x.onPgbouncerPebbleReady c env).world.deferred x.unit = true) := by
  have hdefer : x.defer.Steady c ∧ x.defer.Unloaded ∧ Lowered c x.defer.world ∧
      (x.defer.state = some .upgrading → x.defer.world.deferred x.unit = true) :=
    ⟨⟨h.sound.defer, h.ready.frame (Frame.refl x).defer, { h.core with }, h.leader⟩, hu, hlow,
      fun _ => Function.update_self _ _ _⟩
  unfold Instance.onPgbouncerPebbleReady
  split_ifs with hplanned hstate hhealthy
  · exact hdefer
  · exact hdefer
  · rcases hstate with hs | hs
    · obtain ⟨hy, hyu, hylow⟩ := h.setUnitCompleted hu hs hp
      have hdone := (h.sound.setUnitCompleted h.ready
        (h.sound.safe.upgrading _ h.sound.unit hs) env).2
      exact ⟨hy, hyu, hylow, fun hs' =>
        absurd hs' (hy.core.finished _ hy.sound.unit hdone).2⟩
    · exact absurd hs (h.core.state _ h.sound.unit).2
  · exact ⟨h, hu, hlow, fun hs => absurd (.inl hs) hstate⟩

/-! ### The other handlers -/

/-- The state of a unit before `relation-created`. -/
theorem Steady.onUpgradeCreated (h : x.Steady c) (hs : x.state = none) :
    (x.onUpgradeCreated c).Steady c := by
  have hinactive : ¬x.world.Active c := fun ha => (h.core.active ha).2 _ h.sound.unit hs
  have hstack : x.world.databag.stack = [] := by
    by_contra hne
    exact hinactive (.inl hne)
  have hfin : ∀ v < c.units, x.world.finished v = x.world.target := fun v hv => by
    by_contra hf
    exact hinactive (.inr ⟨v, hv, .inl hf⟩)
  have hidle : (x.setState .idle).Steady c := by
    have hsound : (x.setState .idle).Sound c :=
      h.sound.setState (fun he => by cases he) fun he => by cases he
    refine ⟨hsound, h.ready.frame ((Frame.refl x).setState (by decide)), ?_,
      fun hl l hcache => ?_⟩
    · refine { h.core with
        state := ?_, active := ?_, unfinished := ?_, finished := ?_, stack := ?_, viewStack := ?_ }
      · intro v hv
        rw [state_setState]
        split_ifs
        · exact ⟨by decide, by decide⟩
        · exact h.core.state v hv
      · rintro (hne | ⟨v, hv, hf | hc⟩)
        · exact absurd hstack hne
        · exact absurd (hfin v hv) hf
        · rw [state_setState] at hc
          split_ifs at hc
          · cases hc
          · exact absurd (.inr ⟨v, hv, .inr hc⟩) hinactive
      · exact fun v hv hf => absurd (hfin v hv) hf
      · intro v hv hf
        refine ⟨(h.core.finished v hv hf).1, ?_⟩
        rw [state_setState]
        split_ifs
        · decide
        · exact (h.core.finished v hv hf).2
      · intro v _ hin
        have hin' : v ∈ x.world.databag.stack := hin
        rw [hstack] at hin'
        cases hin'
      · exact fun _ _ _ _ _ _ => hstack
    · refine ⟨(h.leader hl l hcache).1, fun hin => ?_⟩
      have hin' : x.unit ∈ x.world.databag.stack := hin
      rw [hstack] at hin'
      cases hin'
  unfold Instance.onUpgradeCreated
  simp only
  split_ifs
  · exact hidle.writeDependencies
  · exact hidle

theorem Steady.clusterState_ne_failed (h : x.Steady c) : x.clusterState c ≠ some .failed := by
  intro hc
  obtain ⟨⟨v, hv, hs⟩, -⟩ := clusterState_eq_some_iff.mp hc
  unfold databag at hs
  simp only at hs
  split_ifs at hs
  · exact (h.core.state v hv).1 hs
  · exact h.core.viewFailed _ h.sound.unit _ h.sound.view v hv hs

/-- An idle application is prepared for an upgrade. -/
theorem Steady.onPreUpgradeCheckAction {order : List ℕ} (h : x.Steady c)
    (ho : order.Perm (List.range c.units)) (hdeps : x.world.databag.dependencies ≠ none)
    (hidle : x.world.AllIdle c) (hy : x.onPreUpgradeCheckAction c env order = .ok y) :
    y.Steady c := by
  have hfailed := h.clusterState_ne_failed
  have hsound := h.sound.onPreUpgradeCheckAction ho (fun _ hc => absurd hc hfailed) hy
  have hframe : Frame x y := (Frame.refl x).onPreUpgradeCheckAction hy
  obtain ⟨-, ⟨hf, -⟩ | ⟨-, -, -, rfl⟩⟩ := onPreUpgradeCheckAction_eq_ok_iff.mp hy
  · exact absurd hf hfailed
  · refine ⟨hsound, h.ready.frame hframe, ?_, fun _ l hcache => ?_⟩
    · exact { h.core with
        partition := le_rfl
        active := fun _ => ⟨hdeps, fun v hv => by
          show x.world.databag.state v ≠ none
          rw [(hidle v hv).1]
          simp⟩
        stack := fun _ _ _ _ => .inr hidle
        viewStack := fun u hu b _ _ hs => by
          have hs' : x.world.databag.state u = some .completed := hs
          rw [(hidle u hu).1] at hs'
          cases hs' }
    · obtain rfl := Option.some.inj hcache
      exact ⟨fun _ hv => hv, fun hin _ => hin⟩

theorem onUpgradeChanged_lowered (hn : x.NoReady c) (hlow : Lowered c x.world) :
    Lowered c (x.onUpgradeChanged c).world := by
  refine hn.onUpgradeChanged_rule (P := fun y => Lowered c y.world)
    (Q := fun y => Lowered c y.world)
    (fun _ _ hy _ _ _ => hy) (fun _ hy _ => hy) (fun y hy _ => ?_) (fun _ _ hy _ _ => hy) hlow
  unfold Instance.markIdle
  simp only
  split_ifs <;> exact hy

/-- The event of a unit is due until it is no longer `upgrading`. -/
theorem onUpgradeChanged_due (hn : x.NoReady c) :
    ((x.onUpgradeChanged c).state = some .upgrading → x.state = some .upgrading) ∧
      (x.onUpgradeChanged c).world.deferred = x.world.deferred := by
  refine hn.onUpgradeChanged_rule (P := fun y => (y.state = some .upgrading →
    x.state = some .upgrading) ∧ y.world.deferred = x.world.deferred)
    (Q := fun y => (y.state = some .upgrading → x.state = some .upgrading) ∧
      y.world.deferred = x.world.deferred)
    (fun _ _ hy _ _ _ => hy) (fun _ hy _ => hy) (fun y hy _ => ?_) (fun _ _ hy _ _ => hy)
    ⟨id, rfl⟩
  have hidle : (y.setState .idle).state = some .idle :=
    (state_setState y .idle y.unit).trans (if_pos rfl)
  have hne : (y.setState .idle).state = some .upgrading → x.state = some .upgrading := by
    rw [hidle]
    intro hs
    cases hs
  unfold Instance.markIdle
  simp only
  split_ifs
  · exact ⟨hne, hy.2⟩
  · exact ⟨hne, hy.2⟩
  · exact hy

/-- The handlers of an event that is no `upgrade-charm`. -/
theorem Steady.handle {event : Event} (h : x.Steady c) (hu : x.Unloaded)
    (hlow : Lowered c x.world) (hp : env.patches = true) (hcharm : event ≠ .upgradeCharm)
    (hcreated : event = .upgradeCreated → x.state = none)
    (hcheck : ∀ order, event = .preUpgradeCheck order → order.Perm (List.range c.units) ∧
      x.world.databag.dependencies ≠ none ∧ x.world.AllIdle c)
    (hresume : event = .resumeUpgrade → x.upgradeStack = none ∧ x.world.partition + 1 = c.units)
    (hy : event.handle c env x = some y) : y.Steady c ∧ Lowered c y.world ∧
      (y.state = some .upgrading → if event = .pebbleReady then y.world.deferred x.unit = true
        else x.state = some .upgrading ∧ y.world.deferred = x.world.deferred) := by
  cases event with
  | upgradeCreated =>
    cases hy
    have hx := h.onUpgradeCreated (hcreated rfl)
    refine ⟨hx, ?_, fun hs => ?_⟩
    · unfold Instance.onUpgradeCreated
      simp only
      split_ifs <;> exact hlow
    · exfalso
      have hidle : (x.onUpgradeCreated c).state = some .idle := by
        unfold Instance.onUpgradeCreated
        simp only
        split_ifs <;> exact (state_setState x .idle x.unit).trans (if_pos rfl)
      rw [hidle] at hs
      cases hs
  | upgradeChanged =>
    cases hy
    obtain ⟨hstate, hdeferred⟩ := onUpgradeChanged_due (c := c) h.ready
    have hf : Frame x (x.onUpgradeChanged c) := (Frame.refl x).onUpgradeChanged
    refine ⟨h.onUpgradeChanged hu, ?_, fun hs => ⟨hstate hs, hdeferred⟩⟩
    exact onUpgradeChanged_lowered h.ready hlow
  | upgradeCharm => exact absurd rfl hcharm
  | pebbleReady =>
    cases hy
    obtain ⟨hx, -, hxlow, hdue⟩ := h.onPgbouncerPebbleReady hu hlow hp
    exact ⟨hx, hxlow, hdue⟩
  | preUpgradeCheck order =>
    cases hy
    obtain ⟨hperm, hdeps, hidle⟩ := hcheck order rfl
    refine getD_toOption (P := fun z => z.Steady c ∧ Lowered c z.world ∧
      (z.state = some .upgrading → x.state = some .upgrading ∧
        z.world.deferred = x.world.deferred)) ⟨h, hlow, fun hs => ⟨hs, rfl⟩⟩ fun z hz => ?_
    have hz' := h.onPreUpgradeCheckAction hperm hdeps hidle hz
    obtain ⟨-, ⟨hf, -⟩ | ⟨-, -, -, rfl⟩⟩ := onPreUpgradeCheckAction_eq_ok_iff.mp hz
    · exact absurd hf (h.clusterState_ne_failed)
    · refine ⟨hz', fun v _ _ _ _ ⟨t, ht, hopen⟩ => absurd (hidle t ht).2 hopen,
        fun hs => ⟨hs, rfl⟩⟩
  | resumeUpgrade =>
    cases hy
    obtain ⟨hcache, hpart⟩ := hresume rfl
    refine getD_toOption (P := fun z => z.Steady c ∧ Lowered c z.world ∧
      (z.state = some .upgrading → x.state = some .upgrading ∧
        z.world.deferred = x.world.deferred)) ⟨h, hlow, fun hs => ⟨hs, rfl⟩⟩ fun z hz => ?_
    have hsound := h.sound.onResumeUpgradeAction (.inl hcache) hz
    obtain ⟨hl, top, htop, hlen, -, rfl⟩ := onResumeUpgradeAction_eq_ok_iff.mp hz
    obtain ⟨j, hj, he⟩ := h.sound.stack_eq hl
    rw [he] at htop hlen
    obtain rfl := getLast?_range htop
    rw [List.length_range] at hlen
    refine ⟨h.setPartition (by omega) hsound, fun v hv hv2 hpos hf hex => ?_, fun hs => ⟨hs, rfl⟩⟩
    -- the partition is still on top, so that the second unit has not been completed
    have hlt := hlow v hv hv2 hpos hf hex
    omega
  | other =>
    cases hy
    exact ⟨h, hlow, fun hs => ⟨hs, rfl⟩⟩

end Instance


/-! ## Dispatches -/

open Instance

theorem Core.take {event : Event} (h : Core c w) (hcharm : event ≠ .upgradeCharm) :
    Core c (w.take u event) := by
  cases event with
  | upgradeCharm => exact absurd rfl hcharm
  | _ => exact { h with }

theorem Lowered.take (h : Lowered c w) (u : ℕ) (event : Event) : Lowered c (w.take u event) := by
  cases event <;> exact h

theorem NoReady.take (h : NoReady w) (u : ℕ) (event : Event) : NoReady (w.take u event) :=
  ⟨by rw [World.databag_take]; exact h.databag, by rw [World.view_take]; exact h.view⟩

/-- A deferred `pebble-ready`, emitted again. -/
theorem Steady.redeliver {view : Databag} {env : Env} (hcore : Core c w) (hlow : Lowered c w)
    (hsafe : Safe c w) (hn : NoReady w) (hu : u < c.units) (hview : w.view u = some view)
    (hp : env.patches = true) :
    (w.redeliver c env u view).Steady c ∧ (w.redeliver c env u view).Unloaded ∧
      Lowered c (w.redeliver c env u view).world ∧
        ((w.redeliver c env u view).state = some .upgrading →
          (w.redeliver c env u view).world.deferred u = w.deferred u) := by
  have hstart : ∀ deferred,
      (Instance.mk u view { w with deferred := deferred } none).Steady c := fun _ =>
    ⟨⟨{ hsafe with }, hu, hview, fun _ l hl => by cases hl⟩,
      NoReady.instance ⟨hn.databag, hn.view⟩ hview, { hcore with }, fun _ l hl => by cases hl⟩
  unfold World.redeliver
  split_ifs with hd
  · obtain ⟨hx, hxu, hxlow, hdue⟩ :=
      (hstart (Function.update w.deferred u false)).onPgbouncerPebbleReady (fun _ => rfl) hlow hp
    exact ⟨hx, hxu, hxlow, fun hs => (hdue hs).trans hd.symm⟩
  · exact ⟨hstart w.deferred, fun _ => rfl, hlow, fun _ => rfl⟩

/-- Refreshes only go to revisions that accept the dependencies of the older
    ones. -/
def Compatible (c : Cluster) : Prop :=
  ∀ r r', r ≤ r' → upgradeSupportedCheck c (c.dependencyModel r) (c.dependencyModel r') = .ok ()

/-- The new pod of a unit finds the upgrade prepared. -/
theorem Steady.onUpgradeCharm {view : Databag} {d : ℕ → Bool} (h : Steady c w) (hsafe : Safe c w)
    (hcompat : Compatible c) (hu : u < c.units) (hview : w.view u = some view)
    (hp : w.pending u = true) :
    w.databag.state u = some .idle ∧ w.finished u ≠ w.target ∧ w.revision u = w.target ∧
      let x : Instance := ⟨u, view, { w.take u .upgradeCharm with deferred := d }, none⟩
      x.onUpgradeCharm c = some (x.setState .upgrading) := by
  have hrev := hsafe.pending u hu hp
  have hopen : w.finished u ≠ w.target := fun hf => by
    rw [(h.core.finished u hu hf).1] at hp
    cases hp
  have hidle : w.databag.state u = some .idle := by
    rcases h.core.unfinished u hu hopen with ⟨hs, -⟩ | ⟨-, hp'⟩
    · exact hs
    · rw [hp'] at hp
      cases hp
  refine ⟨hidle, hopen, hrev, ?_⟩
  intro x
  -- the stack of the databag holds the unit
  obtain ⟨k, -, hstack, hfin⟩ := hsafe.stack
  have hne : w.databag.stack ≠ [] := by
    intro he
    rw [hstack, List.range_eq_nil] at he
    exact hopen (hfin u hu (he ▸ Nat.zero_le u))
  obtain ⟨hvne, r, hr, hvdeps⟩ := h.core.viewOpen u hu view hview hopen hrev
  have hread : x.stack ≠ [] ∧ ∃ r ≤ w.target, x.databag.dependencies =
      some (c.dependencyModel r) := by
    unfold Instance.stack Instance.databag
    cases hl : x.isLeader with
    | true =>
      refine ⟨hne, ?_⟩
      obtain ⟨stored, hs⟩ := Option.ne_none_iff_exists'.mp
        (h.core.active (.inr ⟨u, hu, .inl hopen⟩)).1
      obtain ⟨r, hr, rfl⟩ := h.core.stored stored hs
      exact ⟨r, hr, hs⟩
    | false => exact ⟨hvne, r, hr, hvdeps⟩
  obtain ⟨hxne, r, hr, hdeps⟩ := hread
  unfold Instance.onUpgradeCharm
  rw [if_neg hxne]
  split_ifs with hlast
  · have hxrev : x.world.revision x.unit = w.target := hrev
    rw [hdeps, Option.map_some, hxrev, hcompat r w.target hr]
  · rfl

theorem Core.upgrading {d : ℕ → Bool} (h : Core c w) (hu : u < c.units)
    (hopen : w.finished u ≠ w.target) :
    Core c { w.take u .upgradeCharm with
      deferred := d
      databag := { w.databag with
        state := Function.update w.databag.state u (some .upgrading) } } := by
  refine { h with
    state := ?_, active := ?_, unfinished := ?_, finished := ?_, stack := ?_, viewStack := ?_ }
  · intro v hv
    simp only [Function.update_apply]
    split_ifs
    · exact ⟨by decide, by decide⟩
    · exact h.state v hv
  · intro ha
    have ha' : w.Active c := by
      rcases ha with hne | ⟨v, hv, hf | hc⟩
      · exact .inl hne
      · exact .inr ⟨v, hv, .inl hf⟩
      · simp only [Function.update_apply] at hc
        split_ifs at hc
        · cases hc
        · exact .inr ⟨v, hv, .inr hc⟩
    refine ⟨(h.active ha').1, fun v hv => ?_⟩
    simp only [Function.update_apply]
    split_ifs
    · simp
    · exact (h.active ha').2 v hv
  · intro v hv hf
    simp only [World.take, Function.update_apply]
    split_ifs
    · exact .inr ⟨rfl, rfl⟩
    · exact h.unfinished v hv hf
  · intro v hv hf
    have hvu : v ≠ u := by
      rintro rfl
      exact hopen hf
    simp only [World.take, Function.update_of_ne hvu]
    exact h.finished v hv hf
  · intro v hv hin hf
    have hvu : v ≠ u := by
      rintro rfl
      exact hopen hf
    left
    simp only [Function.update_of_ne hvu]
    exact (h.stack v hv hin hf).resolve_right fun hall => hopen (hall u hu).2
  · intro t ht b hb hempty hs
    simp only [Function.update_apply] at hs
    split_ifs at hs
    · cases hs
    · exact h.viewStack t ht b hb hempty hs

theorem Steady.idle (h : Steady c w) (u : ℕ) : Steady c (w.idle u) where
  core :=
    have key : ∀ v b, (w.idle u).view v = some b → w.view v = some b := fun v b hb => by
      simp only [World.idle, Function.update_apply] at hb
      split_ifs at hb
      exact hb
    { h.core with
      viewFailed := fun v hv b hb => h.core.viewFailed v hv b (key v b hb)
      viewStack := fun v hv b hb => h.core.viewStack v hv b (key v b hb)
      viewOpen := fun v hv b hb => h.core.viewOpen v hv b (key v b hb) }
  lowered := h.lowered
  due := h.due

theorem World.pending_take {event : Event} (he : event ≠ .upgradeCharm) :
    (w.take u event).pending = w.pending := by
  cases event with
  | upgradeCharm => exact absurd rfl he
  | _ => rfl

theorem World.pebble_take {event : Event} (he : event ≠ .pebbleReady) :
    (w.take u event).pebble = w.pebble := by
  cases event with
  | pebbleReady => exact absurd rfl he
  | _ => rfl

/-- A dispatch on `u` takes no event from the other units. -/
theorem Due.of_frame {event : Event} {view : Databag} {y : Instance} (h : Due c w)
    (hf : Frame ⟨u, view, w.take u event, none⟩ y)
    (hu : (y.world.pending u = true → y.world.pebble u = true) ∧
      (y.world.databag.state u = some .upgrading →
        y.world.pebble u = true ∨ y.world.deferred u = true)) : Due c y.world := by
  intro v hv
  by_cases hv' : v = u
  · subst hv'
    exact hu
  · have hpebble : (w.take u event).pebble v = w.pebble v := by
      cases event with
      | pebbleReady => exact Function.update_of_ne hv' _ _
      | _ => rfl
    have hpending : (w.take u event).pending v = w.pending v := by
      cases event with
      | upgradeCharm => exact Function.update_of_ne hv' _ _
      | _ => rfl
    rw [hf.pending, hf.pebble, hf.state v hv', hf.deferred v hv', hpebble, hpending,
      World.databag_take, World.deferred_take]
    exact h v hv

theorem Steady.dispatch {event : Event} {early late : Env} {raises : Bool} {view : Databag}
    (h : Steady c w) (hsafe : Safe c w) (hn : NoReady w) (hcompat : Compatible c)
    (hu : u < c.units) (hview : w.view u = some view) (hen : event.enabled c w u = true)
    (hh : Healthy c w (.dispatch u event early late raises)) :
    Steady c (w.dispatch c u event early late raises view) := by
  obtain ⟨⟨-, hcheck⟩, ⟨rfl, hearly, hlate⟩, hidle, hresume⟩ := hh
  by_cases hcharm : event = .upgradeCharm
  · subst hcharm
    obtain ⟨hs, hopen, hrev, -⟩ := h.onUpgradeCharm (d := w.deferred) hsafe hcompat hu hview hen
    obtain ⟨d, hd⟩ := redeliver_idle (c := c) (w := w.take u .upgradeCharm) (u := u) view
      ⟨by rw [World.databag_take, hs]; decide,
        by rw [World.databag_take, hs]; decide⟩ early
    obtain ⟨-, -, -, hy⟩ := h.onUpgradeCharm (d := d) hsafe hcompat hu hview hen
    unfold World.dispatch
    simp only [hd, Event.handle]
    rw [hy]
    have hf := Frame.redeliver (c := c) early (w.take u .upgradeCharm) u view
    rw [hd] at hf
    refine ⟨h.core.upgrading hu hopen, h.lowered,
      h.due.of_frame (hf.setState (by decide)) ⟨fun hp => ?_, fun _ => .inl ((h.due u hu).1 hen)⟩⟩
    simp [Instance.setState, World.take] at hp
  · have hview' : (w.take u event).view u = some view := by rw [World.view_take, hview]
    obtain ⟨hx, hxu, hxlow, hxdue⟩ := Steady.redeliver (h.core.take hcharm)
      (h.lowered.take u event) (hsafe.take u event) (hn.take u event) hu hview' hearly
    have hframe := Frame.redeliver (c := c) early (w.take u event) u view
    have hpending : w.pending u = false := by
      cases event with
      | upgradeCharm => exact absurd rfl hcharm
      | pebbleReady => exact Bool.not_eq_true' _ |>.mp (Bool.and_eq_true_iff.mp hen).1
      | upgradeCreated => exact Bool.not_eq_true' _ |>.mp (Bool.and_eq_true_iff.mp hen).1
      | preUpgradeCheck _ => exact Bool.not_eq_true' _ |>.mp (Bool.and_eq_true_iff.mp hen).1
      | _ => exact Bool.not_eq_true' _ |>.mp hen
    have hstart : w.deferred u = false →
        (w.take u event).redeliver c early u view = ⟨u, view, w.take u event, none⟩ := fun hd => by
      unfold World.redeliver
      rw [World.deferred_take, hd]
      rfl
    obtain ⟨y, hy⟩ : ∃ y, event.handle c late ((w.take u event).redeliver c early u view) =
        some y := by
      cases event with
      | upgradeCharm => exact absurd rfl hcharm
      | _ => exact ⟨_, rfl⟩
    have hcreated : event = .upgradeCreated →
        ((w.take u event).redeliver c early u view).state = none := by
      rintro rfl
      have hs : w.databag.state u = none :=
        Option.isNone_iff_eq_none.mp (Bool.and_eq_true_iff.mp hen).2
      obtain ⟨d, hd⟩ := redeliver_idle (c := c) (w := w.take u .upgradeCreated) (u := u) view
        ⟨by rw [World.databag_take, hs]; simp,
          by rw [World.databag_take, hs]; simp⟩ early
      rw [hd]
      exact hs
    obtain ⟨hyy, hylow, hydue⟩ := hx.handle hxu hxlow hlate hcharm hcreated
      (fun order he => by
        subst he
        rw [hstart (hcheck rfl).1]
        obtain ⟨hdeps, hall⟩ := hidle rfl
        exact ⟨of_decide_eq_true (Bool.and_eq_true_iff.mp hen).2, hdeps, hall⟩)
      (fun he => by
        subst he
        rw [hstart (hresume rfl).1]
        exact ⟨rfl, (hresume rfl).2⟩) hy
    have hf := hframe.handle hy
    unfold World.dispatch
    simp only [hy]
    refine ⟨hyy.core, hylow, h.due.of_frame hf ⟨fun hp => ?_, fun hs => ?_⟩⟩
    · rw [hf.pending, World.pending_take hcharm, hpending] at hp
      cases hp
    · have hs' := hydue (by rw [Instance.state, hf.unit]; exact hs)
      split_ifs at hs' with hready
      · right
        rw [hframe.unit] at hs'
        exact hs'
      · obtain ⟨hup, hdeferred⟩ := hs'
        rw [hdeferred, hxdue hup, World.deferred_take, hf.pebble, World.pebble_take hready]
        cases hd : w.deferred u with
        | true => exact .inr rfl
        | false =>
          rw [hstart hd] at hup
          have hw : w.databag.state u = some .upgrading := by
            have htake : (w.take u event).databag = w.databag := World.databag_take
            rw [← htake]
            exact hup
          exact (h.due u hu).2 hw |>.imp_right fun hd' => hd.symm.trans hd'

/-! ## Runs -/

theorem Steady.start (h : Steady c w) (hsafe : Safe c w) (u : ℕ) :
    Steady c { w with view := Function.update w.view u (some w.databag) } where
  core := by
    have key : ∀ t b, Function.update w.view u (some w.databag) t = some b →
        b = w.databag ∨ w.view t = some b := by
      intro t b hb
      simp only [Function.update_apply] at hb
      split_ifs at hb
      · exact .inl (Option.some.inj hb).symm
      · exact .inr hb
    refine { h.core with viewFailed := ?_, viewStack := ?_, viewOpen := ?_ }
    · intro t ht b hb v hv
      rcases key t b hb with rfl | hb
      · exact (h.core.state v hv).1
      · exact h.core.viewFailed t ht b hb v hv
    · intro t ht b hb hempty hs
      rcases key t b hb with rfl | hb
      · exact hempty
      · exact h.core.viewStack t ht b hb hempty hs
    · intro t ht b hb hopen hrev
      rcases key t b hb with rfl | hb
      · obtain ⟨k, -, hstack, hfin⟩ := hsafe.stack
        refine ⟨fun he => ?_, ?_⟩
        · rw [hstack, List.range_eq_nil] at he
          exact hopen (hfin t ht (he ▸ Nat.zero_le t))
        · obtain ⟨stored, hs⟩ := Option.ne_none_iff_exists'.mp
            (h.core.active (.inr ⟨t, ht, .inl hopen⟩)).1
          obtain ⟨r, hr, rfl⟩ := h.core.stored stored hs
          exact ⟨r, hr, hs⟩
      · exact h.core.viewOpen t ht b hb hopen hrev
  lowered := h.lowered
  due := h.due

/-- A refresh leaves all units idle and outdated. -/
theorem Steady.refresh (h : Steady c w) (hsafe : Safe c w) (hn : NoReady w)
    (ho : Orderly c w .refresh) : Steady c { w with target := w.target + 1 } := by
  obtain ⟨-, hstack, hall⟩ := ho
  have hopen : ∀ v < c.units, w.finished v ≠ w.target + 1 ∧ w.revision v ≠ w.target + 1 := by
    intro v hv
    have hb := hsafe.bound v hv
    omega
  have hactive : (∃ v, v < c.units) → w.Active c := by
    rintro ⟨v, hv⟩
    refine .inl fun he => ?_
    rw [hstack, List.range_eq_nil] at he
    omega
  have hidle : ∀ v < c.units, w.databag.state v = some .idle := by
    intro v hv
    obtain ⟨s, hs⟩ := Option.ne_none_iff_exists'.mp ((h.core.active (hactive ⟨v, hv⟩)).2 v hv)
    cases s with
    | idle => exact hs
    | recovery => exact absurd hs (h.core.state v hv).2
    | failed => exact absurd hs (h.core.state v hv).1
    | ready => exact absurd hs (hn.databag v)
    | upgrading => exact absurd hs (hall v hv).1
    | completed => exact absurd hs (hall v hv).2.1
  refine ⟨?_, fun v hv _ _ hf => absurd hf (hopen v hv).1, h.due⟩
  refine { h.core with
    stored := ?_, active := ?_, unfinished := ?_, finished := ?_, stack := ?_, viewOpen := ?_ }
  · intro d hd
    obtain ⟨r, hr, he⟩ := h.core.stored d hd
    exact ⟨r, hr.trans (Nat.le_succ _), he⟩
  · rintro (hne | ⟨v, hv, -⟩)
    · exact h.core.active (.inl hne)
    · exact h.core.active (hactive ⟨v, hv⟩)
  · exact fun v hv _ => .inl ⟨hidle v hv, .inl (hopen v hv).2⟩
  · exact fun v hv hf => absurd hf (hopen v hv).1
  · exact fun v hv _ hf => absurd hf (hopen v hv).1
  · intro t ht b hb
    rw [(hall t ht).2.2.2] at hb
    cases hb

/-- Kubernetes replaces an idle pod. -/
theorem Steady.roll (h : Steady c w) (hsafe : Safe c w) (hu : u < c.units)
    (hr : w.revision u ≠ w.target) : Steady c (w.boot u w.target) := by
  have hopen : w.finished u ≠ w.target := fun hf => hr (hsafe.revision_eq hu hf)
  have hidle : w.databag.state u = some .idle := by
    rcases h.core.unfinished u hu hopen with ⟨hs, -⟩ | ⟨hs, -⟩
    · exact hs
    · exact absurd (hsafe.upgrading u hu hs) hr
  have key : ∀ t b, (w.boot u w.target).view t = some b → t ≠ u ∧ w.view t = some b := by
    intro t b hb
    simp only [World.boot, Function.update_apply] at hb
    split_ifs at hb with he
    exact ⟨he, hb⟩
  refine ⟨?_, h.lowered, fun v hv => ?_⟩
  · refine { h.core with
      unfinished := ?_, finished := ?_, viewFailed := ?_, viewStack := ?_, viewOpen := ?_ }
    · intro v hv hf
      simp only [World.boot, Function.update_apply]
      split_ifs with he
      · exact .inl ⟨he ▸ hidle, .inr rfl⟩
      · exact h.core.unfinished v hv hf
    · intro v hv hf
      have hvu : v ≠ u := by
        rintro rfl
        exact hopen hf
      simp only [World.boot, Function.update_of_ne hvu]
      exact h.core.finished v hv hf
    · exact fun t ht b hb => h.core.viewFailed t ht b (key t b hb).2
    · exact fun t ht b hb => h.core.viewStack t ht b (key t b hb).2
    · intro t ht b hb hf hrev
      obtain ⟨htu, hb⟩ := key t b hb
      simp only [World.boot, Function.update_of_ne htu] at hrev
      exact h.core.viewOpen t ht b hb hf hrev
  · simp only [World.boot, Function.update_apply]
    split_ifs
    · exact ⟨fun _ => rfl, fun _ => .inl rfl⟩
    · exact h.due v hv

theorem Steady.step {a : Action} (h : Steady c w) (hsafe : Safe c w) (hn : NoReady w)
    (hcompat : Compatible c) (hh : Healthy c w a) (hs : step c w a = some w') : Steady c w' := by
  cases a with
  | start u =>
    obtain ⟨-, he⟩ := Option.ite_none_right_eq_some.mp hs
    cases he
    exact h.start hsafe u
  | dispatch u event early late raises =>
    obtain ⟨view, hview, he⟩ := Option.bind_eq_some_iff.mp hs
    obtain ⟨⟨hu, hen⟩, he⟩ := Option.ite_none_right_eq_some.mp he
    cases he
    exact (h.dispatch hsafe hn hcompat hu hview hen hh).idle u
  | elect u =>
    obtain ⟨-, he⟩ := Option.ite_none_right_eq_some.mp hs
    cases he
    exact ⟨{ h.core with }, h.lowered, h.due⟩
  | refresh =>
    cases hs
    exact h.refresh hsafe hn hh.1
  | roll u =>
    obtain ⟨⟨hu, -, hr⟩, he⟩ := Option.ite_none_right_eq_some.mp hs
    cases he
    exact h.roll hsafe hu hr
  | restart u => exact hh.2.elim
  | restartContainer u =>
    obtain ⟨-, he⟩ := Option.ite_none_right_eq_some.mp hs
    cases he
    refine ⟨{ h.core with }, h.lowered, fun v hv => ?_⟩
    simp only [Function.update_apply]
    split_ifs
    · exact ⟨fun _ => rfl, fun _ => .inl rfl⟩
    · exact h.due v hv

/-- A healthy run is orderly. -/
theorem orderly_of_healthy (h : (machine c).Reach (Healthy c) w) :
    (machine c).Reach (Orderly c) w :=
  h.mono fun _ _ hh => hh.1

theorem steady_of_reach (hcompat : Compatible c) (h : (machine c).Reach (Healthy c) w) :
    Steady c w :=
  h.invariant (fun _ => steady_of_deployed) fun _ _ _ hreach hsteady hh hs =>
    hsteady.step (safe_of_reach (orderly_of_healthy hreach)) (noReady_of_reach hreach) hcompat hh hs

end PgBouncerK8s.DataUpgrade
