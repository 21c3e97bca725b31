import Mathlib.Data.Nat.Count
import PgBouncerK8s.Upgrade.OneAtATime

/-!
# An upgrade is a sequential rollout

What a rolling upgrade is for: the units are upgraded one after the other, from
the highest down. A `Rollout` says how many units are left and whether the
highest of them is being replaced; it knows no stack, no partition, no leader
and no hooks.

* `rollout_step`: what the actions of the units are for the rollout.
* `rollout_of_reach`: orderly runs of the units are runs of the rollout with the
  same refreshes and replacements, in which the units that are left are those
  below `left`.
-/

namespace PgBouncerK8s.DataUpgrade

open Machine

/-! ## The rollout -/

/-- The units `0 … left - 1` are to be upgraded, unit `left - 1` next. -/
@[ext]
structure Rollout (units : ℕ) where
  left : ℕ
  replacing : Bool
  le : left ≤ units
  pos : replacing = true → 0 < left

namespace Rollout

variable {units : ℕ}

inductive Action
  | refresh
  | replace
  | complete
  deriving DecidableEq

def step (r : Rollout units) : Action → Option (Rollout units)
  | .refresh => some ⟨units, false, le_rfl, fun h => by cases h⟩
  | .replace =>
    if h : 0 < r.left ∧ r.replacing = false then
      some { r with replacing := true, pos := fun _ => h.1 }
    else none
  | .complete =>
    if r.replacing then
      some ⟨r.left - 1, false, (Nat.sub_le _ _).trans r.le, fun h => by cases h⟩
    else none

/-- Runs start with all units upgraded. -/
def machine (units : ℕ) : Machine (Rollout units) Action where
  init r := r.left = 0
  step := step

/-- What shows of an action in the actions of the units: a completion does not. -/
def Action.visible : Action → Option Action
  | .complete => none
  | a => some a

end Rollout

/-! ## The rollout of the application -/

variable {c : Cluster} {w w' : World} {u v : ℕ}

/-- How many units have not been completed. -/
def World.left (c : Cluster) (w : World) : ℕ :=
  Nat.count (fun v => w.finished v ≠ w.target) c.units

def World.rollout (c : Cluster) (w : World) : Rollout c.units where
  left := w.left c
  replacing := decide (0 < w.left c ∧ w.revision (w.left c - 1) = w.target)
  le := Nat.count_le _
  pos h := (of_decide_eq_true h).1

/-- Where `p` holds of an initial segment of the numbers, counting finds its end. -/
theorem lt_count_iff {p : ℕ → Prop} [DecidablePred p] {n : ℕ}
    (h : ∀ u v, u < v → v < n → p v → p u) (hv : v < n) : p v ↔ v < Nat.count p n := by
  induction n with
  | zero => exact absurd hv (Nat.not_lt_zero v)
  | succ n ih =>
    have ih := ih fun u v huv hvn => h u v huv (hvn.trans (Nat.lt_succ_self n))
    rw [Nat.count_succ]
    by_cases hp : p n
    · have hall : ∀ k < n, p k := fun k hk => h k n hk (Nat.lt_succ_self n) hp
      rw [if_pos hp, Nat.count_iff_forall.mpr hall]
      refine iff_of_true ?_ hv
      rcases Nat.lt_succ_iff_lt_or_eq.mp hv with hlt | rfl
      · exact hall v hlt
      · exact hp
    · rw [if_neg hp, Nat.add_zero]
      rcases Nat.lt_succ_iff_lt_or_eq.mp hv with hlt | rfl
      · exact ih hlt
      · exact iff_of_false hp (not_lt.mpr (Nat.count_le _))

theorem count_eq_of_lt_iff {p : ℕ → Prop} [DecidablePred p] {n m : ℕ} (hm : m ≤ n)
    (h : ∀ v < n, p v ↔ v < m) : Nat.count p n = m := by
  obtain ⟨k, rfl⟩ := Nat.exists_eq_add_of_le hm
  have hlow : Nat.count p m = m :=
    Nat.count_iff_forall.mpr fun v hv => (h v (Nat.lt_add_right k hv)).mpr hv
  have hhigh : Nat.count (fun i => p (m + i)) k = 0 :=
    Nat.count_iff_forall_not.mpr fun i hi hp => by
      have hlt := (h (m + i) (Nat.add_lt_add_left hi m)).mp hp
      omega
  rw [Nat.count_add, hlow, hhigh, Nat.add_zero]

/-- The units that have not been completed are those below `left`. -/
theorem Safe.unfinished_iff (h : Safe c w) (hv : v < c.units) :
    w.finished v ≠ w.target ↔ v < w.left c :=
  lt_count_iff (p := fun v => w.finished v ≠ w.target)
    (fun _ _ huv hvn hp hu => hp (h.finished_of_le hvn huv.le hu)) hv

theorem left_eq {m : ℕ} (hm : m ≤ c.units)
    (hf : ∀ v < c.units, w.finished v = w.target ↔ m ≤ v) : w.left c = m :=
  count_eq_of_lt_iff hm fun v hv => by rw [Ne, hf v hv, not_le]

/-- Only the highest of the units that are left can be in flight. -/
theorem Safe.inFlight_iff (h : Safe c w) (hu : u < c.units) :
    w.InFlight u ↔ u + 1 = w.left c ∧ (w.rollout c).replacing = true := by
  have hle : w.left c ≤ c.units := Nat.count_le _
  constructor
  · rintro ⟨hr, hf⟩
    have hlt := (h.unfinished_iff hu).mp hf
    have hlast : u + 1 = w.left c := by
      by_contra hne
      exact (h.unfinished_iff (v := u + 1) (by omega)).mpr (by omega)
        (h.above u (u + 1) (Nat.lt_succ_self u) (by omega) hr)
    refine ⟨hlast, decide_eq_true ⟨by omega, ?_⟩⟩
    rw [← hlast]
    exact hr
  · rintro ⟨hlast, hreplacing⟩
    obtain ⟨-, hr⟩ := of_decide_eq_true hreplacing
    rw [← hlast] at hr
    exact ⟨hr, (h.unfinished_iff hu).mpr (by omega)⟩

/-! ## The simulation -/

/-- The rollout is the same where the same units are upgraded. -/
theorem rollout_congr (h : Safe c w) (hr : w'.revision = w.revision) (ht : w'.target = w.target)
    (hf : ∀ v < c.units, w'.finished v = w.target ↔ w.finished v = w.target) :
    w'.rollout c = w.rollout c := by
  have hleft : w'.left c = w.left c := by
    refine count_eq_of_lt_iff (Nat.count_le _) fun v hv => ?_
    rw [ht, Ne, hf v hv]
    exact h.unfinished_iff hv
  ext
  · exact hleft
  · unfold World.rollout
    simp only
    rw [hleft, hr, ht]

/-- A step that upgrades at most the unit `u` is none of the rollout, or it
    completes the unit in flight. -/
theorem rollout_complete (h : Safe c w) (hu : u < c.units)
    (hr : w'.revision = w.revision) (ht : w'.target = w.target)
    (hf : ∀ v, w'.finished v = w.finished v ∨ v = u ∧ w'.finished v = w.revision v) :
    w'.rollout c = w.rollout c ∨
      (w.rollout c).step .complete = some (w'.rollout c) := by
  have hother : ∀ v, v ≠ u → w'.finished v = w.finished v := fun v hv =>
    (hf v).resolve_right fun hvu => hv hvu.1
  by_cases hsame : w'.finished u = w.target ↔ w.finished u = w.target
  · left
    refine rollout_congr h hr ht fun v _ => ?_
    by_cases hv : v = u
    · exact hv ▸ hsame
    · rw [hother v hv]
  · right
    have hfu : w'.finished u = w.revision u := by
      rcases hf u with he | ⟨-, he⟩
      · rw [he] at hsame
        exact absurd Iff.rfl hsame
      · exact he
    have hnot : w.finished u ≠ w.target := fun he =>
      hsame (iff_of_true (hfu.trans (h.revision_eq hu he)) he)
    have hfin : w.revision u = w.target := by
      by_contra hne
      exact hsame (iff_of_false (hfu ▸ hne) hnot)
    obtain ⟨hlast, hreplacing⟩ := (h.inFlight_iff hu).mp ⟨hfin, hnot⟩
    have hleft : w'.left c = u := by
      refine left_eq hu.le fun v hv => ?_
      rw [ht]
      by_cases hvu : v = u
      · subst hvu
        exact iff_of_true (hfu.trans hfin) le_rfl
      · have hiff := h.unfinished_iff hv
        rw [hother v hvu, ← not_iff_not, ← Ne, hiff]
        omega
    have hstop : (w'.rollout c).replacing = false := by
      refine decide_eq_false ?_
      rintro ⟨hpos, hrev⟩
      rw [hleft] at hpos hrev
      rw [hr, ht] at hrev
      exact hnot (h.above (u - 1) u (by omega) hu hrev)
    unfold Rollout.step
    rw [if_pos hreplacing, Option.some.injEq]
    ext
    · show w.left c - 1 = w'.left c
      omega
    · exact hstop.symm

/-- The step of the rollout that an action is. -/
def Action.rollout : Action → Option Rollout.Action
  | .refresh => some .refresh
  | .roll _ => some .replace
  | _ => none

/-- How an action advances the rollout: a refresh and a new pod are steps of it,
    a dispatch can complete the unit in flight, all else is no step. -/
def Action.Advances {units : ℕ} (r r' : Rollout units) : Action → Prop
  | .refresh => r.step .refresh = some r'
  | .roll _ => r.step .replace = some r'
  | .dispatch .. => r' = r ∨ r.step .complete = some r'
  | _ => r' = r

theorem rollout_step {a : Action} (h : Safe c w) (hs : step c w a = some w') :
    a.Advances (w.rollout c) (w'.rollout c) := by
  have hsame : w'.revision = w.revision → w'.target = w.target → w'.finished = w.finished →
      w'.rollout c = w.rollout c := fun hr ht hf =>
    rollout_congr h hr ht fun v _ => by rw [hf]
  cases a with
  | start u =>
    obtain ⟨-, he⟩ := Option.ite_none_right_eq_some.mp hs
    cases he
    exact hsame rfl rfl rfl
  | dispatch u event early late raises =>
    obtain ⟨view, -, he⟩ := Option.bind_eq_some_iff.mp hs
    obtain ⟨⟨hu, -⟩, he⟩ := Option.ite_none_right_eq_some.mp he
    cases he
    obtain ⟨hr, ht, hf⟩ := World.dispatch_frame c w u event early late raises view
    exact rollout_complete h hu hr ht hf
  | elect u =>
    obtain ⟨-, he⟩ := Option.ite_none_right_eq_some.mp hs
    cases he
    exact hsame rfl rfl rfl
  | refresh =>
    cases hs
    unfold Action.Advances Rollout.step
    simp only
    rw [Option.some.injEq]
    have hlt : ∀ v < c.units, w.revision v < w.target + 1 := fun v hv =>
      Nat.lt_succ_of_le (h.bound v hv).2
    have hleft : World.left c { w with target := w.target + 1 } = c.units :=
      left_eq le_rfl fun v hv => by
        have hle := (h.bound v hv).1
        have hv' := hlt v hv
        exact iff_of_false (by show w.finished v ≠ w.target + 1; omega) (by omega)
    ext
    · exact hleft.symm
    · symm
      refine decide_eq_false ?_
      rintro ⟨hpos, hrev⟩
      rw [hleft] at hpos hrev
      exact (hlt (c.units - 1) (by omega)).ne hrev
  | roll u =>
    obtain ⟨⟨hu, hp, hr⟩, he⟩ := Option.ite_none_right_eq_some.mp hs
    cases he
    have hfin : ∀ v < c.units, w.finished v = w.target ↔ u + 1 ≤ v := fun v hv => by
      constructor
      · intro hf
        by_contra hlt
        exact hr (h.revision_eq hu (h.finished_of_le hu (by omega) hf))
      · exact fun hlt => h.partition v hv (by omega)
    have hleft : w.left c = u + 1 := left_eq hu hfin
    have hleft' : (w.boot u w.target).left c = u + 1 := hleft
    unfold Action.Advances Rollout.step
    simp only
    have hidle : (w.rollout c).replacing = false := by
      refine decide_eq_false ?_
      rintro ⟨-, hrev⟩
      rw [hleft] at hrev
      exact hr hrev
    rw [dif_pos ⟨by rw [show (w.rollout c).left = u + 1 from hleft]; omega, hidle⟩,
      Option.some.injEq]
    ext
    · exact hleft.trans hleft'.symm
    · symm
      refine decide_eq_true ⟨by omega, ?_⟩
      rw [hleft']
      exact Function.update_self _ _ _
  | restart u =>
    obtain ⟨-, he⟩ := Option.ite_none_right_eq_some.mp hs
    cases he
    exact hsame (Function.update_eq_self _ _) rfl rfl
  | restartContainer u =>
    obtain ⟨-, he⟩ := Option.ite_none_right_eq_some.mp hs
    cases he
    exact hsame rfl rfl rfl

/-- An action is matched by at most one step of the rollout, which shows exactly
    where the action is a step of it. -/
theorem Action.Advances.exec {a : Action} {r r' : Rollout c.units} (h : a.Advances r r') :
    ∃ bs, (Rollout.machine c.units).exec always r bs = some r' ∧
      bs.filterMap Rollout.Action.visible = a.rollout.toList := by
  have hnone : r' = r → ∃ bs, (Rollout.machine c.units).exec always r bs = some r' ∧
      bs.filterMap Rollout.Action.visible = [] := fun he => ⟨[], congrArg some he.symm, rfl⟩
  have hone : ∀ b, r.step b = some r' → ∃ bs, (Rollout.machine c.units).exec always r bs = some r' ∧
      bs.filterMap Rollout.Action.visible = b.visible.toList := by
    intro b hb
    refine ⟨[b], exec_cons_eq_some.mpr ⟨r', trivial, hb, rfl⟩, ?_⟩
    cases b <;> rfl
  cases a with
  | refresh => exact hone .refresh h
  | roll u => exact hone .replace h
  | dispatch u event early late raises =>
    rcases h with he | hb
    · exact hnone he
    · exact hone .complete hb
  | start u => exact hnone h
  | elect u => exact hnone h
  | restart u => exact hnone h
  | restartContainer u => exact hnone h

/-- Orderly runs are runs of the rollout. The units below `left` are those that
    have not been completed, and the one in flight is the highest of them; each
    step is the step of the rollout that it should be, and a run has the same
    refreshes and replacements as its image. -/
theorem rollout_of_reach (h : (machine c).Reach (Orderly c) w) :
    (∀ v < c.units, w.finished v = w.target ↔ (w.rollout c).left ≤ v) ∧
      (∀ u < c.units, w.InFlight u ↔
        u + 1 = (w.rollout c).left ∧ (w.rollout c).replacing = true) ∧
      (∀ a w', step c w a = some w' → a.Advances (w.rollout c) (w'.rollout c)) ∧
        ∀ l w', (machine c).exec (Orderly c) w l = some w' →
          ∃ bs, (Rollout.machine c.units).exec always (w.rollout c) bs = some (w'.rollout c) ∧
            bs.filterMap Rollout.Action.visible = l.filterMap Action.rollout := by
  have hsafe := safe_of_reach h
  refine ⟨fun v hv => ?_, fun u hu => hsafe.inFlight_iff hu, fun a w' => rollout_step hsafe,
    fun l w' hl => ?_⟩
  · rw [← not_iff_not, ← Ne, hsafe.unfinished_iff hv, not_le]
    rfl
  · exact exec_simulation (I := (machine c).Reach (Orderly c))
      (fun w a w' hw ho hs => ⟨hw.step ho hs, (rollout_step (safe_of_reach hw) hs).exec⟩) h hl

/-- In the middle of an upgrade the next pod is a replacement, which its
    `pebble-ready` completes. -/
theorem rollout_of_reach_sample : ∃ w, (machine threeUnits).Reach (Orderly threeUnits) w ∧
    (w.rollout threeUnits).left = 2 ∧ ∃ w', step threeUnits w (.roll 1) = some w' ∧
      (w.rollout threeUnits).step .replace = some (w'.rollout threeUnits) := by
  obtain ⟨w, hreach, hw⟩ := exists_reach_of_exec (machine threeUnits) (Orderly threeUnits) deployed
    untilResumed (fun w => decide (w.left threeUnits = 2) && (step threeUnits w (.roll 1)).isSome)
    deployed_init (by decide +kernel)
  obtain ⟨hleft, hroll⟩ := Bool.and_eq_true_iff.mp hw
  obtain ⟨w', hroll⟩ := Option.isSome_iff_exists.mp hroll
  exact ⟨w, hreach, of_decide_eq_true hleft, w', hroll,
    (rollout_of_reach hreach).2.2.1 (.roll 1) w' hroll⟩

end PgBouncerK8s.DataUpgrade
