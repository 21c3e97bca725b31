import PgBouncerK8s.Upgrade.OneAtATime

/-!
# The upgrade stack

`_repair_upgrade_stack` (lines 699–721) puts the units that have left the stack
back below its top, in the iteration order of a set. In every run, orderly or
not, the stack holds each unit at most once, so that a repair leaves each unit
exactly once, whatever the order: the unit that failed rolls back first, and the
units that were still in the stack keep their order.

* `repaired_of_reach`: the repair, in any reachable state.
-/

namespace PgBouncerK8s.DataUpgrade

open Machine

variable {c : Cluster} {w w' : World} {u v : ℕ} {l order : List ℕ}

/-! ## Stacks -/

/-- Each unit is in the list at most once, and nothing else is. -/
structure IsStack (c : Cluster) (l : List ℕ) : Prop where
  nodup : l.Nodup
  lt : ∀ u ∈ l, u < c.units

theorem isStack_nil : IsStack c [] := ⟨List.nodup_nil, by simp⟩

theorem isStack_of_perm (h : l.Perm (List.range c.units)) : IsStack c l where
  nodup := h.nodup_iff.mpr List.nodup_range
  lt _ hu := List.mem_range.mp (h.mem_iff.mp hu)

theorem IsStack.dropLast (h : IsStack c l) : IsStack c l.dropLast where
  nodup := h.nodup.sublist (List.dropLast_sublist l)
  lt _ hu := h.lt _ ((List.dropLast_sublist l).subset hu)

/-- `insert(-1, id)` puts the unit below the top. -/
theorem insertIdx_concat (l : List ℕ) (a id : ℕ) :
    (l ++ [a]).insertIdx l.length id = l ++ [id, a] := by
  induction l with
  | nil => rfl
  | cons b l ih => rw [List.cons_append, List.length_cons, List.insertIdx_succ_cons, ih]; rfl

/-- A missing unit is inserted once, below the top. -/
theorem insertMissing_spec (hne : l ≠ []) (id : ℕ) :
    l.Sublist (Instance.insertMissing l id) ∧
      (Instance.insertMissing l id).getLast? = l.getLast? ∧
        (∀ u, u ∈ Instance.insertMissing l id ↔ u = id ∨ u ∈ l) ∧
          (l.Nodup → (Instance.insertMissing l id).Nodup) := by
  unfold Instance.insertMissing
  split_ifs with hmem
  · refine ⟨List.Sublist.refl _, rfl, fun u => ⟨.inr, ?_⟩, fun h => h⟩
    rintro (rfl | hu)
    · exact hmem
    · exact hu
  · obtain ⟨l, a, rfl⟩ : ∃ l' a, l = l' ++ [a] :=
      ⟨l.dropLast, l.getLast hne, (List.dropLast_append_getLast hne).symm⟩
    rw [List.length_append, List.length_singleton, Nat.add_sub_cancel, insertIdx_concat]
    refine ⟨?_, ?_, fun u => ?_, fun hnodup => ?_⟩
    · exact List.Sublist.append_left (List.sublist_cons_self id [a]) l
    · simp
    · simp only [List.mem_append, List.mem_cons, List.not_mem_nil, or_false]
      tauto
    · have hperm : (l ++ [id, a]).Perm (id :: (l ++ [a])) := List.perm_middle
      exact hperm.nodup_iff.mpr (List.nodup_cons.mpr ⟨hmem, hnodup⟩)

/-- The repair of a stack: the old stack in its order, the same top, and the
    units of `order`. -/
theorem foldl_insertMissing (hne : l ≠ []) (order : List ℕ) :
    l.Sublist (order.foldl Instance.insertMissing l) ∧
      (order.foldl Instance.insertMissing l).getLast? = l.getLast? ∧
        (∀ u, u ∈ order.foldl Instance.insertMissing l ↔ u ∈ order ∨ u ∈ l) ∧
          (l.Nodup → (order.foldl Instance.insertMissing l).Nodup) := by
  induction order generalizing l with
  | nil => exact ⟨List.Sublist.refl _, rfl, fun u => by simp, fun h => h⟩
  | cons id order ih =>
    obtain ⟨hsub, hlast, hmem, hnodup⟩ := insertMissing_spec hne id
    have hne' : Instance.insertMissing l id ≠ [] := fun he => by
      rw [he] at hsub
      exact hne (List.sublist_nil.mp hsub)
    obtain ⟨hsub', hlast', hmem', hnodup'⟩ := ih hne'
    refine ⟨hsub.trans hsub', hlast'.trans hlast, fun u => ?_, fun h => hnodup' (hnodup h)⟩
    rw [List.foldl_cons, hmem', hmem, List.mem_cons]
    tauto

/-- The repaired stack has each unit once. -/
theorem IsStack.repair (h : IsStack c l) (hne : l ≠ [])
    (ho : order.Perm (List.range c.units)) :
    (order.foldl Instance.insertMissing l).Perm (List.range c.units) := by
  obtain ⟨-, -, hmem, hnodup⟩ := foldl_insertMissing hne order
  refine (List.perm_ext_iff_of_nodup (hnodup h.nodup) List.nodup_range).mpr fun u => ?_
  rw [hmem, ho.mem_iff]
  exact or_iff_left_of_imp fun hu => List.mem_range.mpr (h.lt u hu)

/-! ## The handlers -/

namespace Instance

variable {x y : Instance} {env : Env}

/-- All stacks a unit can work on. -/
structure Stacked (c : Cluster) (x : Instance) : Prop where
  databag : IsStack c x.world.databag.stack
  view : IsStack c x.view.stack
  cached : ∀ l, x.upgradeStack = some l → IsStack c l

theorem Stacked.loaded (h : x.Stacked c) : IsStack c x.stack := by
  unfold Instance.stack
  cases hs : x.upgradeStack with
  | some l => exact h.cached l hs
  | none =>
    show IsStack c (if x.isLeader then x.world.databag.stack else x.view.stack)
    split_ifs
    · exact h.databag
    · exact h.view

theorem Stacked.cache (h : x.Stacked c) (hl : IsStack c l) : (x.cached l).Stacked c :=
  ⟨h.databag, h.view, fun l' he => by
    obtain rfl := Option.some.inj he
    exact hl⟩

theorem Stacked.write (h : x.Stacked c) (hl : IsStack c l) :
    ((x.cached l).writeStack l).Stacked c :=
  ⟨hl, h.view, (h.cache hl).cached⟩

theorem Stacked.setState (h : x.Stacked c) (st : UpgradeState) : (x.setState st).Stacked c :=
  ⟨h.databag, h.view, h.cached⟩

theorem Stacked.refreshed (h : x.Stacked c) : x.refreshed.Stacked c := by
  unfold Instance.refreshed
  split_ifs
  · exact ⟨h.databag, h.view, fun l hl => by cases hl⟩
  · exact h

theorem Stacked.setPartition (h : x.Stacked c) (p : ℕ) : (x.setPartition p).Stacked c :=
  ⟨h.databag, h.view, h.cached⟩

theorem Stacked.setUnitFailed (h : x.Stacked c) : x.setUnitFailed.Stacked c :=
  h.refreshed.setState _

theorem Stacked.created (h : x.Stacked c) :
    (if x.isLeader then x.writeDependencies c else x).Stacked c := by
  split_ifs
  · exact ⟨h.databag, h.view, h.cached⟩
  · exact h

theorem Stacked.markIdle (h : x.Stacked c) : (x.markIdle c).Stacked c := by
  unfold Instance.markIdle
  split
  · exact (h.setState .idle).created
  · exact h

theorem Stacked.onUpgradeChanged (h : x.Stacked c) : (x.onUpgradeChanged c).Stacked c := by
  refine onUpgradeChanged_rule (P := Stacked c) (fun y _ hy _ _ _ => hy.write hy.loaded.dropLast)
    (fun _ hy _ => hy) (fun _ hy _ => hy.markIdle) (fun y top hy _ _ => ?_) h
  unfold Instance.grant
  split_ifs
  · exact (hy.cache hy.loaded.dropLast).setState _
  · exact hy.cache hy.loaded.dropLast

theorem Stacked.onPgbouncerPebbleReady (h : x.Stacked c) (env : Env) :
    (x.onPgbouncerPebbleReady c env).Stacked c := by
  have hend : ∀ y : Instance, y.Stacked c → (if y.unit + 1 = c.units then y
      else if y.unit = 0 then y
      else if env.patches then y.setPartition (y.unit - 1) else y.setUnitFailed).Stacked c := by
    intro y hy
    split_ifs
    · exact hy
    · exact hy
    · exact hy.setPartition _
    · exact hy.setUnitFailed
  have hset : (x.refreshed.finish.setState .completed).Stacked c :=
    ⟨h.refreshed.databag, h.refreshed.view, h.refreshed.cached⟩
  unfold Instance.onPgbouncerPebbleReady
  split_ifs
  · exact ⟨h.databag, h.view, h.cached⟩
  · exact ⟨h.databag, h.view, h.cached⟩
  · unfold Instance.setUnitCompleted Instance.onUpgradeFinished
    simp only
    cases (x.refreshed.finish.setState .completed).isLeader with
    | false => exact hend _ hset
    | true => exact hend _ hset.onUpgradeChanged
  · exact h

theorem Stacked.repairUpgradeStack (h : x.Stacked c) (ho : order.Perm (List.range c.units)) :
    (x.repairUpgradeStack c order).Stacked c := by
  unfold Instance.repairUpgradeStack
  split_ifs with hg
  · exact h.write (isStack_of_perm (h.loaded.repair hg.2.1 ho))
  · exact h

theorem Stacked.handle {event : Event} (h : x.Stacked c)
    (ho : ∀ order, event = .preUpgradeCheck order → order.Perm (List.range c.units))
    (hy : event.handle c env x = some y) : y.Stacked c := by
  cases event with
  | upgradeCreated =>
    cases hy
    exact (h.setState .idle).created
  | upgradeChanged =>
    cases hy
    exact h.onUpgradeChanged
  | upgradeCharm =>
    unfold Event.handle Instance.onUpgradeCharm at hy
    split_ifs at hy
    · cases hy
      exact h
    · obtain ⟨stored, -, he⟩ := Option.map_eq_some_iff.mp hy
      rw [← he]
      split
      · exact h.setUnitFailed
      · exact h.setState _
    · cases hy
      exact h.setState _
  | pebbleReady =>
    cases hy
    exact h.onPgbouncerPebbleReady env
  | preUpgradeCheck order =>
    cases hy
    refine getD_toOption (P := Stacked c) h fun z hz => ?_
    obtain ⟨-, ⟨-, rfl⟩ | ⟨-, -, -, rfl⟩⟩ := onPreUpgradeCheckAction_eq_ok_iff.mp hz
    · exact (h.repairUpgradeStack (ho order rfl)).setState _
    · exact (h.setPartition _).write
        (isStack_of_perm ((List.perm_insertionSort _ order).trans (ho order rfl)))
  | resumeUpgrade =>
    cases hy
    refine getD_toOption (P := Stacked c) h fun z hz => ?_
    obtain ⟨-, top, -, -, -, rfl⟩ := onResumeUpgradeAction_eq_ok_iff.mp hz
    exact h.setPartition top
  | other =>
    cases hy
    exact h

end Instance

/-! ## Runs -/

/-- The stacks in the databag and in the views. -/
structure Stacks (c : Cluster) (w : World) : Prop where
  databag : IsStack c w.databag.stack
  view : ∀ u b, w.view u = some b → IsStack c b.stack

theorem Stacks.dispatch {event : Event} {early late : Env} {raises : Bool} {view : Databag}
    (h : Stacks c w) (hview : w.view u = some view) (hen : event.enabled c w u = true) :
    Stacks c (w.dispatch c u event early late raises view) := by
  have hstart : ∀ d, (Instance.mk u view { w.take u event with deferred := d } none).Stacked c :=
    fun _ => ⟨by
      show IsStack c (w.take u event).databag.stack
      rw [World.databag_take]
      exact h.databag, h.view u view hview, fun l hl => by cases hl⟩
  have hframe := Instance.Frame.redeliver (c := c) early (w.take u event) u view
  have hx : ((w.take u event).redeliver c early u view).Stacked c := by
    unfold World.redeliver
    split_ifs
    · exact (hstart _).onPgbouncerPebbleReady early
    · exact hstart _
  refine World.dispatch_rule (fun _ => ⟨h.databag, h.view⟩) fun y hy => ?_
  refine ⟨⟨(hx.handle ?_ hy).databag, ?_⟩, ⟨h.databag, h.view⟩⟩
  · rintro order rfl
    exact of_decide_eq_true (Bool.and_eq_true_iff.mp hen).2
  · rw [(hframe.handle hy).view]
    show ∀ u b, (w.take _ event).view u = some b → _
    rw [World.view_take]
    exact h.view

theorem Stacks.step {a : Action} (h : Stacks c w) (hs : step c w a = some w') : Stacks c w' := by
  have hdrop : ∀ w : World, Stacks c w → ∀ u r, Stacks c (w.idle u) ∧ Stacks c (w.boot u r) := by
    intro w h u r
    have hview : ∀ t b, Function.update w.view u none t = some b → IsStack c b.stack := by
      intro t b hb
      rw [Function.update_apply] at hb
      split_ifs at hb
      exact h.view t b hb
    exact ⟨⟨h.databag, hview⟩, ⟨h.databag, hview⟩⟩
  cases a with
  | start u =>
    obtain ⟨-, he⟩ := Option.ite_none_right_eq_some.mp hs
    cases he
    refine ⟨h.databag, fun t b hb => ?_⟩
    simp only [Function.update_apply] at hb
    split_ifs at hb
    · cases hb
      exact h.databag
    · exact h.view t b hb
  | dispatch u event early late raises =>
    obtain ⟨view, hview, he⟩ := Option.bind_eq_some_iff.mp hs
    obtain ⟨⟨-, hen⟩, he⟩ := Option.ite_none_right_eq_some.mp he
    cases he
    exact (hdrop _ (h.dispatch hview hen) u 0).1
  | elect u =>
    obtain ⟨-, he⟩ := Option.ite_none_right_eq_some.mp hs
    cases he
    exact ⟨h.databag, h.view⟩
  | refresh =>
    cases hs
    exact ⟨h.databag, h.view⟩
  | roll u =>
    obtain ⟨-, he⟩ := Option.ite_none_right_eq_some.mp hs
    cases he
    exact (hdrop w h u w.target).2
  | restart u =>
    obtain ⟨-, he⟩ := Option.ite_none_right_eq_some.mp hs
    cases he
    exact (hdrop w h u (w.revision u)).2
  | restartContainer u =>
    obtain ⟨-, he⟩ := Option.ite_none_right_eq_some.mp hs
    cases he
    exact ⟨h.databag, h.view⟩

/-- In any run the stack holds each unit at most once. -/
theorem stacks_of_reach {guard : World → Action → Prop} (h : (machine c).Reach guard w) :
    Stacks c w :=
  h.invariant (fun w hw => ⟨by rw [hw.stack]; exact isStack_nil, fun u b hb => by
    rw [hw.view] at hb
    cases hb⟩) fun _ _ _ _ hw _ hs => hw.step hs

/-- Where the leader finds the cluster failed in the middle of an upgrade, in any
    run, `pre-upgrade-check` leaves a stack with each unit once, the old stack in
    its order, and the old top, for any iteration order of the units. -/
theorem repaired_of_reach {guard : World → Action → Prop} {view : Databag} {env : Env}
    (h : (machine c).Reach guard w) (hl : w.leader = u)
    (hf : (Instance.mk u view w none).clusterState c = some .failed)
    (hne : w.databag.stack ≠ []) (ho : order.Perm (List.range c.units)) :
    ∃ y, (Instance.mk u view w none).onPreUpgradeCheckAction c env order = .ok y ∧
      y.world.databag.stack.Perm (List.range c.units) ∧
        y.world.databag.stack.getLast? = w.databag.stack.getLast? ∧
          w.databag.stack.Sublist y.world.databag.stack := by
  have hstack := (stacks_of_reach h).databag
  have hleader : (Instance.mk u view w none).isLeader = true := decide_eq_true hl
  have hloaded : (Instance.mk u view w none).stack = w.databag.stack := by
    simp [Instance.stack, Instance.databag, hleader]
  refine ⟨_, Instance.onPreUpgradeCheckAction_eq_ok_iff.mpr ⟨hleader, .inl ⟨hf, rfl⟩⟩, ?_⟩
  show ((Instance.mk u view w none).repairUpgradeStack c order).world.databag.stack.Perm _ ∧
    ((Instance.mk u view w none).repairUpgradeStack c order).world.databag.stack.getLast? = _ ∧
      List.Sublist _ ((Instance.mk u view w none).repairUpgradeStack c order).world.databag.stack
  unfold Instance.repairUpgradeStack
  split_ifs with hg
  · obtain ⟨hsub, hlast, -, -⟩ := foldl_insertMissing hne order
    rw [hloaded]
    exact ⟨hstack.repair hne ho, hlast, hsub⟩
  · have hlen : w.databag.stack.length = c.units := by
      by_contra hlen
      exact hg ⟨.inl hf, hloaded ▸ hne, hloaded ▸ hlen, hleader⟩
    refine ⟨?_, rfl, List.Sublist.refl _⟩
    have hsub : w.databag.stack.Subperm (List.range c.units) :=
      List.subperm_of_subset hstack.nodup fun u hu => List.mem_range.mpr (hstack.lt u hu)
    exact hsub.perm_of_length_le (by rw [List.length_range, hlen])

/-- Unit 1 of three cannot patch the StatefulSet, and fails. -/
def untilFailed : List Action :=
  untilResumed ++ [.roll 1] ++ hook 1 .upgradeCharm ++
    [.start 1, .dispatch 1 .pebbleReady ⟨true, true, true⟩ ⟨true, true, false⟩ false, .start 0]

/-- The unit that has left the stack is below the failed one again. -/
theorem repaired_of_reach_sample : ∃ w view y, (machine threeUnits).Reach always w ∧
    w.databag.stack = [0, 1] ∧
      (Instance.mk 0 view w none).onPreUpgradeCheckAction threeUnits ⟨true, true, true⟩ [2, 0, 1] =
        .ok y ∧ y.world.databag.stack.Perm [0, 1, 2] ∧
          y.world.databag.stack.getLast? = some 1 := by
  obtain ⟨w, hreach, hw⟩ := exists_reach_of_exec (machine threeUnits) always deployed
    untilFailed (fun w => decide (w.leader = 0 ∧ w.databag.stack = [0, 1]) &&
      (w.view 0).any fun view =>
        decide ((Instance.mk 0 view w none).clusterState threeUnits = some .failed))
    deployed_init (by decide +kernel)
  obtain ⟨hw, hview⟩ := Bool.and_eq_true_iff.mp hw
  obtain ⟨hl, hstack⟩ := of_decide_eq_true hw
  obtain ⟨view, -, hf⟩ := (Option.any_eq_true _ _).mp hview
  obtain ⟨y, hy, hperm, hlast, -⟩ : ∃ y, (Instance.mk 0 view w none).onPreUpgradeCheckAction
      threeUnits ⟨true, true, true⟩ [2, 0, 1] = .ok y ∧ _ :=
    repaired_of_reach hreach hl (of_decide_eq_true hf) (by rw [hstack]; decide) (by decide)
  exact ⟨w, view, y, hreach, hstack, hy, hperm, by rw [hlast, hstack]; rfl⟩

end PgBouncerK8s.DataUpgrade
