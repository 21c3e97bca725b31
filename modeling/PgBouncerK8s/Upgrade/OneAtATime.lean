import PgBouncerK8s.Upgrade.DataUpgrade

/-!
# One pod at a time

In orderly runs a rolling upgrade replaces the pods from the highest unit down,
and no pod before all higher units have been completed. A unit is completed, here
and in the modules above, when `set_unit_completed` has run on it in the target
revision. That patches the StatefulSet, so the next pod can be replaced even if
the dispatch raises later and drops what it wrote into the databag.

Orderly runs refresh the application only behind an accepted `pre-upgrade-check`,
with no unit upgrading or completed and no hook running or due for a new pod;
pods that have not been replaced yet do not restart, nor do they handle
`pebble-ready` in recovery; `pre-upgrade-check` is not run in a dispatch that
emits a deferred `pebble-ready`, and prepares a rollback only while all units are
in the stack.

* `safe_of_reach`: the invariant `Safe`, over all interleavings of hooks that
  see outdated databags.
* `replaced_in_order`: a pod is replaced only when all higher units have been
  completed, and at most one unit is in flight.
-/

namespace PgBouncerK8s.DataUpgrade

open Machine

variable {c : Cluster} {w w' : World} {u v : ℕ}

/-! ## Orderly runs -/

def Event.isPreUpgradeCheck : Event → Bool
  | .preUpgradeCheck _ => true
  | _ => false

/-- `u` finds the cluster failed. -/
def World.findsFailed (c : Cluster) (w : World) (u : ℕ) : Bool :=
  (w.view u).any fun view => (Instance.mk u view w none).clusterState c = some .failed

/-- Which actions orderly runs perform. -/
def Orderly (c : Cluster) (w : World) : Action → Prop
  | .refresh => w.partition = c.units - 1 ∧ w.databag.stack = List.range c.units ∧
      ∀ u < c.units, w.databag.state u ≠ some .upgrading ∧
        w.databag.state u ≠ some .completed ∧ w.pending u = false ∧ w.view u = none
  | .restart u => w.revision u = w.target
  | .dispatch u event _ _ _ =>
      (w.databag.state u = some .recovery → event = .pebbleReady ∨ w.deferred u = true →
        w.revision u = w.target) ∧
      (event.isPreUpgradeCheck = true → w.deferred u = false ∧
        (w.findsFailed c u = true → w.databag.stack.length = c.units))
  | _ => True

instance (a : Action) : Decidable (Orderly c w a) := by
  cases a <;> unfold Orderly <;> infer_instance

/-! ## The invariant -/

/-- Where a rollout stands. The stack holds the units below some `k`; the units
    that are not in it and those above the partition have been completed, and
    where a unit has its new pod all higher ones have. -/
structure Safe (c : Cluster) (w : World) : Prop where
  bound : ∀ v < c.units, w.finished v ≤ w.revision v ∧ w.revision v ≤ w.target
  above : ∀ u v, u < v → v < c.units → w.revision u = w.target → w.finished v = w.target
  partition : ∀ v < c.units, w.partition < v → w.finished v = w.target
  stack : ∃ k ≤ c.units, w.databag.stack = List.range k ∧
    ∀ v < c.units, k ≤ v → w.finished v = w.target
  upgrading : ∀ v < c.units, w.databag.state v = some .upgrading → w.revision v = w.target
  completed : ∀ v < c.units, w.databag.state v = some .completed → w.finished v = w.target
  pending : ∀ v < c.units, w.pending v = true → w.revision v = w.target
  view : ∀ u < c.units, ∀ b, w.view u = some b → ∀ v < c.units, b.state v = some .completed →
    w.finished v = w.target

theorem Safe.revision_eq (h : Safe c w) (hv : v < c.units) (hf : w.finished v = w.target) :
    w.revision v = w.target :=
  le_antisymm (h.bound v hv).2 (hf ▸ (h.bound v hv).1)

/-- Above a completed unit all have been completed. -/
theorem Safe.finished_of_le (h : Safe c w) (hv : v < c.units) (huv : u ≤ v)
    (hf : w.finished u = w.target) : w.finished v = w.target := by
  rcases eq_or_lt_of_le huv with rfl | hlt
  · exact hf
  · exact h.above u v hlt hv (h.revision_eq (hlt.trans hv) hf)

theorem safe_of_deployed (h : Deployed w) : Safe c w where
  bound v _ := by simp [h.finished, h.revision]
  above u v _ _ _ := by simp [h.finished, h.target]
  partition v _ _ := by simp [h.finished, h.target]
  stack := ⟨0, Nat.zero_le _, by simp [h.stack], fun v _ _ => by simp [h.finished, h.target]⟩
  upgrading v _ hs := by simp [h.state] at hs
  completed v _ hs := by simp [h.state] at hs
  pending v _ hp := by simp [h.pending] at hp
  view u _ b hb := by simp [h.view] at hb

/-! ## The handlers -/

namespace Instance

/-- The invariant during a dispatch. The leader has loaded the units below some
    `j`. -/
structure Sound (c : Cluster) (x : Instance) : Prop where
  safe : Safe c x.world
  unit : x.unit < c.units
  view : x.world.view x.unit = some x.view
  stack : x.isLeader = true → ∀ l, x.upgradeStack = some l → ∃ j ≤ c.units, l = List.range j

variable {x : Instance} {st : UpgradeState} {l : List ℕ} {k : ℕ}

theorem Sound.databag_completed (h : x.Sound c) (hv : v < c.units)
    (hs : x.databag.state v = some .completed) : x.world.finished v = x.world.target := by
  unfold databag at hs
  simp only at hs
  split_ifs at hs with he
  · exact h.safe.completed v hv hs
  · exact h.safe.view _ h.unit _ h.view v hv hs

/-- The stack the leader works on. -/
theorem Sound.stack_eq (h : x.Sound c) (hl : x.isLeader = true) :
    ∃ j ≤ c.units, x.stack = List.range j := by
  unfold Instance.stack
  cases hs : x.upgradeStack with
  | some l => exact h.stack hl l hs
  | none =>
    obtain ⟨k, hk, he, -⟩ := h.safe.stack
    exact ⟨k, hk, by simp [databag, hl, he]⟩

theorem Sound.setState (h : x.Sound c)
    (hup : st = .upgrading → x.world.revision x.unit = x.world.target)
    (hco : st = .completed → x.world.finished x.unit = x.world.target) :
    (x.setState st).Sound c where
  safe := by
    have key : ∀ v s, (x.setState st).world.databag.state v = some s →
        v = x.unit ∧ s = st ∨ x.world.databag.state v = some s := by
      intro v s hs
      rw [state_setState] at hs
      split_ifs at hs with he
      · exact .inl ⟨he, (Option.some.inj hs).symm⟩
      · exact .inr hs
    refine { h.safe with upgrading := ?_, completed := ?_ }
    · intro v hv hs
      rcases key v _ hs with ⟨rfl, he⟩ | hs
      · exact hup he.symm
      · exact h.safe.upgrading v hv hs
    · intro v hv hs
      rcases key v _ hs with ⟨rfl, he⟩ | hs
      · exact hco he.symm
      · exact h.safe.completed v hv hs
  unit := h.unit
  view := h.view
  stack := h.stack

theorem Sound.writeStack (h : x.Sound c) (hk : k ≤ c.units)
    (hf : ∀ v < c.units, k ≤ v → x.world.finished v = x.world.target) :
    (x.writeStack (List.range k)).Sound c where
  safe := { h.safe with stack := ⟨k, hk, rfl, hf⟩ }
  unit := h.unit
  view := h.view
  stack := h.stack

theorem Sound.cached (h : x.Sound c) (hj : x.isLeader = true → ∃ j ≤ c.units, l = List.range j) :
    (x.cached l).Sound c where
  safe := h.safe
  unit := h.unit
  view := h.view
  stack hl l' hl' := by
    obtain ⟨j, hj, he⟩ := hj hl
    exact ⟨j, hj, by rw [← he]; exact (Option.some.inj hl').symm⟩

theorem Sound.refreshed (h : x.Sound c) : x.refreshed.Sound c := by
  unfold Instance.refreshed
  split_ifs
  · exact ⟨h.safe, h.unit, h.view, fun _ l hl => by cases hl⟩
  · exact h

theorem Sound.writeDependencies (h : x.Sound c) : (x.writeDependencies c).Sound c where
  safe := { h.safe with }
  unit := h.unit
  view := h.view
  stack := h.stack

theorem Sound.setPartition (h : x.Sound c) {p : ℕ}
    (hp : ∀ v < c.units, p < v → x.world.finished v = x.world.target) :
    (x.setPartition p).Sound c where
  safe := { h.safe with partition := hp }
  unit := h.unit
  view := h.view
  stack := h.stack

theorem Sound.defer (h : x.Sound c) : x.defer.Sound c where
  safe := { h.safe with }
  unit := h.unit
  view := h.view
  stack := h.stack

theorem Sound.setUnitFailed (h : x.Sound c) : x.setUnitFailed.Sound c :=
  h.refreshed.setState (fun he => by cases he) fun he => by cases he

/-! ### `on_upgrade_changed` -/

theorem getLast?_range {j top : ℕ} (h : (List.range j).getLast? = some top) : j = top + 1 := by
  cases j with
  | zero => cases h
  | succ j =>
    rw [List.range_succ, List.getLast?_concat] at h
    rw [Option.some.inj h]

theorem dropLast_range (j : ℕ) : (List.range (j + 1)).dropLast = List.range j := by
  rw [List.range_succ, List.dropLast_concat]

/-- The leader takes a completed unit from the stack. -/
theorem Sound.pop (h : x.Sound c) {top : ℕ} (htop : x.stack.getLast? = some top)
    (hl : x.isLeader = true) (hs : x.databag.state top = some .completed) :
    ((x.cached x.stack.dropLast).writeStack x.stack.dropLast).Sound c := by
  obtain ⟨j, hj, he⟩ := h.stack_eq hl
  rw [he] at htop ⊢
  obtain rfl := getLast?_range htop
  have hf := h.databag_completed (Nat.lt_of_succ_le hj) hs
  rw [dropLast_range]
  exact (h.cached fun _ => ⟨top, (Nat.le_succ top).trans hj, rfl⟩).writeStack
    ((Nat.le_succ top).trans hj) fun v hv htv => h.safe.finished_of_le hv htv hf

theorem Sound.markIdle (h : x.Sound c) : (x.markIdle c).Sound c := by
  have hidle : (x.setState .idle).Sound c :=
    h.setState (fun he => by cases he) fun he => by cases he
  unfold Instance.markIdle
  simp only
  split_ifs
  · exact hidle.writeDependencies
  · exact hidle
  · exact h

theorem Sound.stop (h : x.Sound c) : (x.cached x.stack.dropLast).Sound c :=
  h.cached fun hl => by
    obtain ⟨j, hj, he⟩ := h.stack_eq hl
    refine ⟨j - 1, (Nat.sub_le j 1).trans hj, ?_⟩
    rw [he]
    cases j with
    | zero => rfl
    | succ j => exact dropLast_range j

theorem Sound.onUpgradeChanged (h : x.Sound c) (hn : x.NoReady c) :
    (x.onUpgradeChanged c).Sound c :=
  hn.onUpgradeChanged_rule (fun _ _ hx htop hl hs => hx.pop htop hl hs) (fun _ hx _ => hx)
    (fun _ hx _ => hx.markIdle) (fun _ _ hx _ _ => hx.stop) h

/-! ### The other handlers -/

/-- A completed unit of the new revision. -/
def Done (x : Instance) : Prop := x.world.finished x.unit = x.world.target

theorem Sound.finish (h : x.Sound c) (hr : x.world.revision x.unit = x.world.target) :
    x.finish.Sound c where
  safe := by
    have hf : ∀ v, x.world.finished v = x.world.target →
        x.finish.world.finished v = x.world.target := by
      intro v hv
      show Function.update x.world.finished x.unit (x.world.revision x.unit) v = _
      rw [Function.update_apply]
      split_ifs
      · exact hr
      · exact hv
    refine { h.safe with
      bound := ?_, above := ?_, partition := ?_, stack := ?_, completed := ?_, view := ?_ }
    · intro v hv
      show Function.update x.world.finished x.unit (x.world.revision x.unit) v ≤ _ ∧ _
      rw [Function.update_apply]
      split_ifs with he
      · rw [he]
        exact ⟨le_rfl, hr.le⟩
      · exact h.safe.bound v hv
    · exact fun u v huv hv hu => hf v (h.safe.above u v huv hv hu)
    · exact fun v hv hp => hf v (h.safe.partition v hv hp)
    · obtain ⟨k, hk, he, hfin⟩ := h.safe.stack
      exact ⟨k, hk, he, fun v hv hkv => hf v (hfin v hv hkv)⟩
    · exact fun v hv hs => hf v (h.safe.completed v hv hs)
    · exact fun u hu b hb v hv hs => hf v (h.safe.view u hu b hb v hv hs)
  unit := h.unit
  view := h.view
  stack := h.stack

/-- A completed unit stays completed. -/
theorem Sound.done (h : x.Sound c) (hd : x.Done) {y : Instance} (hf : Frame x y) : y.Done := by
  unfold Done
  rw [hf.unit, hf.target]
  rcases hf.finished x.unit with he | ⟨-, he⟩
  · rw [he]
    exact hd
  · rw [he]
    exact h.safe.revision_eq h.unit hd

/-- A completed unit lets Kubernetes replace the next pod below it. -/
theorem Sound.onUpgradeFinished (h : x.Sound c) (hn : x.NoReady c) (hd : x.Done) (env : Env) :
    (x.onUpgradeFinished c env).Sound c ∧ (x.onUpgradeFinished c env).Done := by
  have hend : ∀ y : Instance, y.Sound c → y.Done →
      (if y.unit + 1 = c.units then y else if y.unit = 0 then y
        else if env.patches then y.setPartition (y.unit - 1) else y.setUnitFailed).Sound c := by
    intro y hy hyd
    split_ifs
    · exact hy
    · exact hy
    · exact hy.setPartition fun v hv hp => hy.safe.finished_of_le hv (by omega) hyd
    · exact hy.setUnitFailed
  refine ⟨?_, h.done hd (Frame.refl x).onUpgradeFinished⟩
  unfold Instance.onUpgradeFinished
  simp only
  cases x.isLeader with
  | false => exact hend x h hd
  | true => exact hend _ (h.onUpgradeChanged hn) (h.done hd (Frame.refl x).onUpgradeChanged)

theorem Sound.setUnitCompleted (h : x.Sound c) (hn : x.NoReady c)
    (hr : x.world.revision x.unit = x.world.target) (env : Env) :
    (x.setUnitCompleted c env).Sound c ∧ (x.setUnitCompleted c env).Done := by
  have hf := (Frame.refl x).refreshed
  have hr' : x.refreshed.world.revision x.refreshed.unit = x.refreshed.world.target := by
    rw [hf.revision, hf.unit, hf.target]
    exact hr
  have hd : x.refreshed.finish.Done := by
    unfold Done Instance.finish
    simp only [Function.update_self]
    exact hr'
  have hcompleted : (x.refreshed.finish.setState .completed).Sound c :=
    (h.refreshed.finish hr').setState (fun he => by cases he) fun _ => hd
  exact hcompleted.onUpgradeFinished (hn.frame (hf.finish.setState (by decide))) hd env

/-- `pebble-ready` completes a unit with a new pod, or leaves it as it is. -/
theorem Sound.onPgbouncerPebbleReady (h : x.Sound c) (hn : x.NoReady c)
    (hr : x.state = some .recovery → x.world.revision x.unit = x.world.target) (env : Env) :
    (x.onPgbouncerPebbleReady c env).Sound c ∧
      ((x.onPgbouncerPebbleReady c env).upgradeStack = x.upgradeStack ∨
        (x.onPgbouncerPebbleReady c env).Done) := by
  unfold Instance.onPgbouncerPebbleReady
  split_ifs with hplanned hstate hhealthy
  · exact ⟨h.defer, .inl rfl⟩
  · exact ⟨h.defer, .inl rfl⟩
  · have hrev : x.world.revision x.unit = x.world.target := by
      rcases hstate with hs | hs
      · exact h.safe.upgrading _ h.unit hs
      · exact hr hs
    obtain ⟨hsound, hdone⟩ := h.setUnitCompleted hn hrev env
    exact ⟨hsound, .inr hdone⟩
  · exact ⟨h, .inl rfl⟩

theorem Sound.onUpgradeCharm {y : Instance} (h : x.Sound c)
    (hr : x.world.revision x.unit = x.world.target) (hy : x.onUpgradeCharm c = some y) :
    y.Sound c := by
  have hupgrading : (x.setState .upgrading).Sound c :=
    h.setState (fun _ => hr) fun he => by cases he
  unfold Instance.onUpgradeCharm at hy
  split_ifs at hy with hstack hlast
  · cases hy
    exact h
  · obtain ⟨stored, -, he⟩ := Option.map_eq_some_iff.mp hy
    rw [← he]
    split
    · exact h.setUnitFailed
    · exact hupgrading
  · cases hy
    exact hupgrading

theorem Sound.onUpgradeCreated (h : x.Sound c) : (x.onUpgradeCreated c).Sound c := by
  have hidle : (x.setState .idle).Sound c :=
    h.setState (fun he => by cases he) fun he => by cases he
  unfold Instance.onUpgradeCreated
  simp only
  split_ifs
  · exact hidle.writeDependencies
  · exact hidle

theorem insertionSort_order {n : ℕ} {order : List ℕ} (h : order.Perm (List.range n)) :
    order.insertionSort (· ≤ ·) = List.range n := by
  have hrange : (List.range n).Pairwise (· ≤ ·) := List.pairwise_lt_range.imp le_of_lt
  have hperm := (List.perm_insertionSort (· ≤ ·) order).trans h
  exact hperm.eq_of_pairwise (fun _ _ _ _ => le_antisymm) (List.pairwise_insertionSort _ _) hrange

/-- An accepted check builds the full stack and puts the partition on top; with
    a failed unit the leader enters recovery. -/
theorem Sound.onPreUpgradeCheckAction {y : Instance} {env : Env} {order : List ℕ} (h : x.Sound c)
    (ho : order.Perm (List.range c.units))
    (hfull : x.isLeader = true → x.clusterState c = some .failed → x.stack.length = c.units)
    (hy : x.onPreUpgradeCheckAction c env order = .ok y) : y.Sound c := by
  obtain ⟨hl, ⟨hfailed, rfl⟩ | ⟨-, -, -, rfl⟩⟩ := onPreUpgradeCheckAction_eq_ok_iff.mp hy
  · have hrepair : x.repairUpgradeStack c order = x := by
      unfold Instance.repairUpgradeStack
      rw [if_neg]
      exact fun hg => hg.2.2.1 (hfull hl hfailed)
    rw [hrepair]
    exact h.setState (fun he => by cases he) fun he => by cases he
  · rw [insertionSort_order ho]
    have hpart := h.setPartition (p := c.units - 1) fun v hv hp => by omega
    exact (hpart.cached fun _ => ⟨c.units, le_rfl, rfl⟩).writeStack le_rfl fun v hv hp => by omega

/-- The unit the leader resumes on is the one below those that are completed. -/
theorem Sound.onResumeUpgradeAction {y : Instance} {env : Env} (h : x.Sound c)
    (hcache : x.upgradeStack = none ∨ x.Done) (hy : x.onResumeUpgradeAction c env = .ok y) :
    y.Sound c := by
  obtain ⟨hl, top, htop, hlen, -, rfl⟩ := onResumeUpgradeAction_eq_ok_iff.mp hy
  obtain ⟨j, hj, he⟩ := h.stack_eq hl
  rw [he] at htop hlen
  obtain rfl := getLast?_range htop
  rw [List.length_range] at hlen
  have hu := h.unit
  have hlast : x.world.finished (c.units - 1) = x.world.target := by
    rcases hcache with hnone | hd
    · obtain ⟨k, hk, hstack, hf⟩ := h.safe.stack
      have hrange : List.range (top + 1) = List.range k := by
        rw [← he, ← hstack]
        simp [Instance.stack, hnone, databag, hl]
      have hk' : top + 1 = k := by simpa using congrArg List.length hrange
      exact hf _ (by omega) (by omega)
    · exact h.safe.finished_of_le (by omega) (Nat.le_sub_one_of_lt hu) hd
  refine h.setPartition fun v hv hp => ?_
  have hv' : v = c.units - 1 := by omega
  rw [hv']
  exact hlast

end Instance

/-! ## Dispatches -/

open Instance

/-- What a raise leaves of a dispatch. -/
theorem Safe.rollback (h : Safe c w) (h' : Safe c w') (hr : w'.revision = w.revision)
    (ht : w'.target = w.target)
    (hf : ∀ v < c.units, w.finished v = w.target → w'.finished v = w.target) :
    Safe c (w.rollback w') where
  bound v hv := by
    have hb := h'.bound v hv
    rw [hr, ht] at hb
    exact hb
  above u v huv hv hu := hf v hv (h.above u v huv hv hu)
  partition v hv hp := ht ▸ h'.partition v hv hp
  stack := by
    obtain ⟨k, hk, he, hfin⟩ := h.stack
    exact ⟨k, hk, he, fun v hv hkv => hf v hv (hfin v hv hkv)⟩
  upgrading := h.upgrading
  completed v hv hs := hf v hv (h.completed v hv hs)
  pending := h.pending
  view u hu b hb v hv hs := hf v hv (h.view u hu b hb v hv hs)

theorem Safe.take (h : Safe c w) (u : ℕ) (event : Event) : Safe c (w.take u event) := by
  cases event with
  | upgradeCharm =>
    refine { h with pending := fun v hv hp => h.pending v hv ?_ }
    simp only [World.take, Function.update_apply] at hp
    split_ifs at hp
    exact hp
  | _ => exact { h with }

theorem Safe.idle (h : Safe c w) (u : ℕ) : Safe c (w.idle u) where
  bound := h.bound
  above := h.above
  partition := h.partition
  stack := h.stack
  upgrading := h.upgrading
  completed := h.completed
  pending := h.pending
  view v hv b hb := by
    simp only [World.idle, Function.update_apply] at hb
    split_ifs at hb
    exact h.view v hv b hb

/-- The handlers of an event, on a unit that has its new pod if the event is
    for one. -/
theorem Instance.Sound.handle {x y : Instance} {event : Event} {env : Env} (h : x.Sound c)
    (hn : x.NoReady c) (hcache : x.upgradeStack = none ∨ x.Done)
    (hcharm : event = .upgradeCharm → x.world.revision x.unit = x.world.target)
    (hpebble : event = .pebbleReady → x.state = some .recovery →
      x.world.revision x.unit = x.world.target)
    (hcheck : ∀ order, event = .preUpgradeCheck order → order.Perm (List.range c.units) ∧
      (x.isLeader = true → x.clusterState c = some .failed → x.stack.length = c.units))
    (hy : event.handle c env x = some y) : y.Sound c := by
  cases event with
  | upgradeCreated =>
    cases hy
    exact h.onUpgradeCreated
  | upgradeChanged =>
    cases hy
    exact h.onUpgradeChanged hn
  | upgradeCharm => exact h.onUpgradeCharm (hcharm rfl) hy
  | pebbleReady =>
    cases hy
    exact (h.onPgbouncerPebbleReady hn (hpebble rfl) env).1
  | preUpgradeCheck order =>
    cases hy
    obtain ⟨hperm, hfull⟩ := hcheck order rfl
    exact getD_toOption h fun z hz => h.onPreUpgradeCheckAction hperm hfull hz
  | resumeUpgrade =>
    cases hy
    exact getD_toOption h fun z hz => h.onResumeUpgradeAction hcache hz
  | other =>
    cases hy
    exact h

/-- An outdated unit outside of recovery is not completed by `pebble-ready`. -/
theorem Instance.Sound.onPgbouncerPebbleReady_state {x : Instance} (h : x.Sound c)
    (hr : x.world.revision x.unit ≠ x.world.target) (hs : x.state ≠ some .recovery) (env : Env) :
    (x.onPgbouncerPebbleReady c env).state = x.state := by
  unfold Instance.onPgbouncerPebbleReady
  split_ifs with hplanned hstate
  · rfl
  · rfl
  · rcases hstate with hup | hrec
    · exact absurd (h.safe.upgrading _ h.unit hup) hr
    · exact absurd hrec hs
  · rfl

/-- A deferred `pebble-ready`, emitted again. -/
theorem Safe.redeliver {view : Databag} (h : Safe c w) (hn : NoReady w) (hu : u < c.units)
    (hview : w.view u = some view)
    (hrec : w.databag.state u = some .recovery → w.deferred u = true → w.revision u = w.target)
    (env : Env) :
    (w.redeliver c env u view).Sound c ∧
      ((w.redeliver c env u view).upgradeStack = none ∨ (w.redeliver c env u view).Done) ∧
        (w.revision u ≠ w.target → w.databag.state u ≠ some .recovery →
          (w.redeliver c env u view).state = w.databag.state u) := by
  have hstart : ∀ deferred, (Instance.mk u view { w with deferred := deferred } none).Sound c :=
    fun _ => ⟨{ h with }, hu, hview, fun _ l hl => by cases hl⟩
  unfold World.redeliver
  split_ifs with hd
  · have hsound := hstart (Function.update w.deferred u false)
    obtain ⟨hsound', hcache⟩ := hsound.onPgbouncerPebbleReady
      (NoReady.instance ⟨hn.databag, hn.view⟩ hview) (fun hs => hrec hs hd) env
    exact ⟨hsound', hcache, fun hr hs => hsound.onPgbouncerPebbleReady_state hr hs env⟩
  · exact ⟨hstart w.deferred, .inl rfl, fun _ _ => rfl⟩

theorem Safe.dispatch {event : Event} {early late : Env} {raises : Bool} {view : Databag}
    (h : Safe c w) (hn : NoReady w) (hu : u < c.units) (hview : w.view u = some view)
    (hen : event.enabled c w u = true) (ho : Orderly c w (.dispatch u event early late raises)) :
    Safe c (w.dispatch c u event early late raises view) := by
  obtain ⟨hrec, hcheck⟩ := ho
  have hview' : (w.take u event).view u = some view := by rw [World.view_take, hview]
  have hn' : NoReady (w.take u event) := by
    constructor
    · rw [World.databag_take]
      exact hn.databag
    · rw [World.view_take]
      exact hn.view
  obtain ⟨hx, hcache, hkept⟩ := (h.take u event).redeliver hn' hu hview' (fun hs hd => by
    rw [World.revision_take, World.target_take]
    exact hrec (World.databag_take ▸ hs) (.inr (World.deferred_take ▸ hd))) early
  have hframe := Frame.redeliver (c := c) early (w.take u event) u view
  have hroll : ∀ y : Instance, y.Sound c → Frame ⟨u, view, w.take u event, none⟩ y →
      Safe c (w.rollback y.world) := by
    intro y hy hf
    refine h.rollback hy.safe (hf.revision.trans World.revision_take)
      (hf.target.trans World.target_take) fun v hv hfin => ?_
    rcases hf.finished v with he | ⟨-, he⟩
    · rw [he]
      exact (congrFun World.finished_take v).trans hfin
    · rw [he]
      exact (congrFun World.revision_take v).trans (h.revision_eq hv hfin)
  refine World.dispatch_rule (fun _ => hroll _ hx hframe) fun y hy => ?_
  have hsound : y.Sound c := by
    refine hx.handle ((hn'.instance hview').frame hframe) hcache ?_ ?_ ?_ hy
    · rintro rfl
      rw [hframe.revision, hframe.unit, hframe.target]
      exact h.pending u hu hen
    · rintro rfl hs
      rw [hframe.revision, hframe.unit, hframe.target]
      by_contra hr
      by_cases hw : w.databag.state u = some .recovery
      · exact hr (hrec hw (.inl rfl))
      · rw [hkept hr hw] at hs
        exact hw hs
    · rintro order rfl
      obtain ⟨hdeferred, hfull⟩ := hcheck rfl
      have hstart : (w.take u (.preUpgradeCheck order)).redeliver c early u view =
          ⟨u, view, w, none⟩ := by
        unfold World.redeliver
        rw [World.deferred_take, hdeferred]
        rfl
      rw [hstart]
      refine ⟨of_decide_eq_true (Bool.and_eq_true_iff.mp hen).2, fun hl hf => ?_⟩
      have hfinds : w.findsFailed c u = true := by
        unfold World.findsFailed
        rw [hview]
        exact decide_eq_true hf
      rw [← hfull hfinds]
      show (Instance.databag _).stack.length = _
      unfold Instance.databag
      rw [hl]
      rfl
  exact ⟨hsound.safe, hroll y hsound (hframe.handle hy)⟩

/-! ## Runs -/

theorem Safe.boot {r : ℕ} (h : Safe c w) (hle : w.finished u ≤ r)
    (hr : r = w.target) (habove : ∀ v, u < v → v < c.units → w.finished v = w.target) :
    Safe c (w.boot u r) := by
  subst hr
  have hrev : ∀ v, (w.boot u w.target).revision v = if v = u then w.target else w.revision v :=
    fun v => Function.update_apply _ _ _ _
  refine { h with bound := ?_, above := ?_, upgrading := ?_, pending := ?_, view := ?_ }
  · intro v hv
    rw [hrev]
    split_ifs with he
    · rw [he]
      exact ⟨hle, le_rfl⟩
    · exact h.bound v hv
  · intro t v htv hv ht
    rw [hrev] at ht
    split_ifs at ht with he
    · exact habove v (he ▸ htv) hv
    · exact h.above t v htv hv ht
  · intro v hv hs
    rw [hrev]
    split_ifs
    · rfl
    · exact h.upgrading v hv hs
  · intro v hv hp
    rw [hrev]
    split_ifs with he
    · rfl
    · simp only [World.boot, Function.update_of_ne he] at hp
      exact h.pending v hv hp
  · intro t ht b hb
    refine h.view t ht b ?_
    simp only [World.boot, Function.update_apply] at hb
    split_ifs at hb
    exact hb

theorem Safe.step {a : Action} (h : Safe c w) (hn : NoReady w) (ho : Orderly c w a)
    (hs : step c w a = some w') : Safe c w' := by
  cases a with
  | start u =>
    obtain ⟨⟨hu, -⟩, he⟩ := Option.ite_none_right_eq_some.mp hs
    cases he
    refine { h with view := fun t ht b hb v hv => ?_ }
    simp only [Function.update_apply] at hb
    split_ifs at hb
    · cases hb
      exact h.completed v hv
    · exact h.view t ht b hb v hv
  | dispatch u event early late raises =>
    obtain ⟨view, hview, he⟩ := Option.bind_eq_some_iff.mp hs
    obtain ⟨⟨hu, hen⟩, he⟩ := Option.ite_none_right_eq_some.mp he
    cases he
    exact (h.dispatch hn hu hview hen ho).idle u
  | elect u =>
    obtain ⟨-, he⟩ := Option.ite_none_right_eq_some.mp hs
    cases he
    exact { h with }
  | refresh =>
    cases hs
    obtain ⟨hp, hstack, hall⟩ := ho
    have hlt : ∀ v < c.units, w.revision v < w.target + 1 := fun v hv =>
      Nat.lt_succ_of_le (h.bound v hv).2
    refine ⟨fun v hv => ⟨(h.bound v hv).1, (hlt v hv).le⟩, ?_, ?_, ?_, ?_, ?_, ?_, ?_⟩
    · exact fun t v htv hv hr => absurd hr (hlt t (htv.trans hv)).ne
    · intro v hv hpv
      have hpv' : c.units - 1 < v := hp ▸ hpv
      omega
    · exact ⟨c.units, le_rfl, hstack, fun v hv hle => absurd hv (not_lt.mpr hle)⟩
    · exact fun v hv hs => absurd hs (hall v hv).1
    · exact fun v hv hs => absurd hs (hall v hv).2.1
    · intro v hv hpend
      rw [(hall v hv).2.2.1] at hpend
      cases hpend
    · intro t ht b hb
      rw [(hall t ht).2.2.2] at hb
      cases hb
  | roll u =>
    obtain ⟨⟨hu, hp, hr⟩, he⟩ := Option.ite_none_right_eq_some.mp hs
    cases he
    have hb := h.bound u hu
    exact h.boot (hb.1.trans hb.2) rfl fun v huv hv => h.partition v hv (by omega)
  | restart u =>
    obtain ⟨hu, he⟩ := Option.ite_none_right_eq_some.mp hs
    cases he
    exact h.boot (h.bound u hu).1 ho fun v huv hv => h.above u v huv hv ho
  | restartContainer u =>
    obtain ⟨-, he⟩ := Option.ite_none_right_eq_some.mp hs
    cases he
    exact { h with }

theorem safe_of_reach (h : (machine c).Reach (Orderly c) w) : Safe c w :=
  h.invariant (fun _ => safe_of_deployed) fun _ _ _ hreach hsafe ho hs =>
    hsafe.step (noReady_of_reach hreach) ho hs

/-- The unit has its new pod and has not been completed. -/
def World.InFlight (w : World) (u : ℕ) : Prop :=
  w.revision u = w.target ∧ w.finished u ≠ w.target

/-- Kubernetes only ever replaces a pod whose higher units have been completed,
    and at most one unit is in flight. -/
theorem replaced_in_order (h : (machine c).Reach (Orderly c) w) :
    (∀ u w', step c w (.roll u) = some w' → ∀ v < c.units, u < v → w.finished v = w.target) ∧
      ∀ u v, u < c.units → v < c.units → w.InFlight u → w.InFlight v → u = v := by
  have hsafe := safe_of_reach h
  constructor
  · intro u w' hroll v hv huv
    obtain ⟨⟨-, hp, -⟩, -⟩ := Option.ite_none_right_eq_some.mp hroll
    exact hsafe.partition v hv (lt_of_le_of_lt hp huv)
  · intro u v hu hv hfu hfv
    rcases lt_trichotomy u v with hlt | heq | hlt
    · exact absurd (hsafe.above u v hlt hv hfu.1) hfv.2
    · exact heq
    · exact absurd (hsafe.above v u hlt hu hfv.1) hfu.2

/-! ## A run -/

/-- The dependencies of `dependency.json`. -/
def dependencies : PgbouncerDependencyModel where
  charm := ⟨"pgbouncer", ">0", "1"⟩
  rock := ⟨"charmed-postgresql", "^1", "1.18.0"⟩

def threeUnits : Cluster where
  units := 3
  dependencyModel _ := dependencies
  verifyRequirements version requirement :=
    (version, requirement) ∈ [("1", ">0"), ("1.18.0", "^1")]

def deployed : World where
  databag := { state := fun _ => none, stack := [], dependencies := none }
  leader := 0
  partition := 0
  target := 0
  revision _ := 0
  pending _ := false
  pebble _ := true
  deferred _ := false
  view _ := none
  finished _ := 0

theorem deployed_init : Deployed deployed :=
  ⟨rfl, rfl, rfl, rfl, rfl, rfl, rfl, rfl, rfl, rfl, rfl⟩

/-- A hook that finds all well. -/
def hook (u : ℕ) (event : Event) : List Action :=
  [.start u, .dispatch u event ⟨true, true, true⟩ ⟨true, true, true⟩ false]

/-- An upgrade up to the second pod: unit 2 has been completed, and the upgrade
    resumed. -/
def untilResumed : List Action :=
  hook 0 .upgradeCreated ++ hook 1 .upgradeCreated ++ hook 2 .upgradeCreated ++
    hook 0 (.preUpgradeCheck [1, 2, 0]) ++ [.refresh, .roll 2] ++ hook 2 .upgradeCharm ++
      hook 2 .pebbleReady ++ hook 0 .upgradeChanged ++ hook 0 .resumeUpgrade

theorem replaced_in_order_sample : ∃ w, (machine threeUnits).Reach (Orderly threeUnits) w ∧
    (step threeUnits w (.roll 1)).isSome = true ∧ w.finished 2 = w.target := by
  obtain ⟨w, hreach, hw⟩ := exists_reach_of_exec (machine threeUnits) (Orderly threeUnits) deployed
    untilResumed (fun w => (step threeUnits w (.roll 1)).isSome) deployed_init (by decide +kernel)
  obtain ⟨w', hroll⟩ := Option.isSome_iff_exists.mp hw
  exact ⟨w, hreach, hw, (replaced_in_order hreach).1 1 w' hroll 2 (by decide) (by decide)⟩

end PgBouncerK8s.DataUpgrade
