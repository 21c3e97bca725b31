import PgBouncerK8s.Operator.Deployment

/-!
# Who writes application data

Every handler tests for leadership before it writes to the peer application
databag or to a secret of the application, except `_on_relation_broken` of the
legacy relations: it stores the relation-database map and tests afterwards. It
comes that far on a unit that has set the relation up as the leader, and whose
own databag therefore has a user and a database.

* `refused_iff`: when a handler attempts a write that ops refuses.
* `leader_writes_only`: the runs in which it never happens.
-/

namespace PgBouncerK8s.Operator

open PgBouncerK8s.Action
open Text (str)

variable {env : Env} {s : State} {lower : String → String}

/-- The handler of a legacy relation gets past its checks on a follower. -/
def refuses (env : Env) (s : State) : Event → Bool
  | .broken rid =>
    (s.app.relations.get? rid).any fun r =>
      r.endpoint.legacy && !isLeader env s &&
        !(unitDatabag env s).contains (departFlag r.endpoint rid) && decide (Torn env s r)
  | _ => false

/-! ## One handler -/

theorem access_of_leader (h : isLeader env s = true) (ev : Event) :
    ((handle env lower ev).run s).1 ≠ .error .relationDataAccessError := by
  have hu := unit_eq_leader h
  apply Within.run_ne (S := fun e => e ≠ Failure.relationDataAccessError) (I := Framed s.app)
  · exact within_handle ⟨by decide, by decide, by decide, by decide⟩ (.inr (by decide)) lower ev
      fun _ => .inl hu
  · exact .refl s
  · exact fun hne => hne rfl

theorem access_of_not_broken {ev : Event} (h : ∀ rid, ev ≠ .broken rid) :
    ((handle env lower ev).run s).1 ≠ .error .relationDataAccessError := by
  apply Within.run_ne (S := fun e => e ≠ Failure.relationDataAccessError) (I := Framed s.app)
  · exact within_handle ⟨by decide, by decide, by decide, by decide⟩ (.inr (by decide)) lower ev
      fun ⟨rid, he⟩ => absurd he (h rid)
  · exact .refl s
  · exact fun hne => hne rfl

/-- On a follower the handler of a legacy relation fails at the first write of a
    teardown. -/
theorem db_broken_refused_iff (hl : isLeader env s = false) (rid : RelId) (r : Relation) :
    ((DbProvides.onRelationBroken env rid r).run s).1 = .error .relationDataAccessError ↔
      (unitDatabag env s).contains (departFlag r.endpoint rid) = false ∧ Torn env s r := by
  cases hf : (unitDatabag env s).contains (departFlag r.endpoint rid) with
  | true =>
    rw [db_broken_flagged hf]
    simp
  | false =>
    by_cases ht : Torn env s r
    · refine iff_of_true ?_ ⟨rfl, ht⟩
      obtain ⟨hready, hus, hdb⟩ := ht
      obtain ⟨user, hus⟩ := Option.isSome_iff_exists.mp hus
      rw [db_broken_torn hf hready hus hdb]
      unfold DbProvides.teardown setRelationDatabases
      rw [run_get_bind, run_bind_error (writeApplication_follower hl _)]
    · refine iff_of_false ?_ fun h => ht h.2
      obtain ⟨t, hc, -⟩ := checkBackend_run env s
      rw [db_broken_abandoned hf ht hc]
      apply Within.run_ne (S := fun e => e ≠ Failure.relationDataAccessError) (I := Framed t.app)
      · unfold DbProvides.abandon
        apply Within.get_bind
        intro s hs
        exact .ite (fun _ => within_defer) fun _ =>
          within_checkForBlockingRelations (fun _ hs => hs.activated) rid
      · exact .refl _
      · exact fun hne => hne rfl

/-- When a handler attempts to write application data on a unit that is not the
    leader: the legacy relation is gone, this unit has set it up, and the
    backend is ready. -/
theorem refused_iff (ev : Event) :
    ((handle env lower ev).run s).1 = .error .relationDataAccessError ↔
      refuses env s ev = true := by
  cases hl : isLeader env s with
  | true =>
    refine iff_of_false (access_of_leader hl ev) ?_
    cases ev <;> simp [refuses, hl]
  | false =>
    by_cases hb : ∀ rid, ev ≠ .broken rid
    · refine iff_of_false (access_of_not_broken hb) ?_
      cases ev with
      | broken rid => exact absurd rfl (hb rid)
      | _ => simp [refuses]
    obtain ⟨rid, rfl⟩ : ∃ rid, ev = .broken rid := by simpa using hb
    unfold handle withRelation refuses
    rw [run_get_bind]
    rcases hr : s.app.relations.get? rid with _ | r
    · simp [hr]
    simp only [hr, Option.any_some, hl, Bool.not_false, Bool.and_true]
    cases hleg : r.endpoint.legacy with
    | false =>
      simp only [Bool.false_eq_true, if_false, Bool.false_and, iff_false]
      apply Within.run_ne (S := fun e => e ≠ Failure.relationDataAccessError) (I := Framed s.app)
      · exact within_client_onRelationBroken ⟨by decide, by decide, by decide, by decide⟩ rid r
      · exact .refl _
      · exact fun hne => hne rfl
    | true =>
      simp only [if_true, Bool.true_and, Bool.and_eq_true, Bool.not_eq_true', decide_eq_true_eq]
      exact db_broken_refused_iff hl rid r

/-! ## All runs -/

/-- The step is a handler that ops refuses a write. -/
def Step.Refused (w : Deployment) : Step → Prop
  | .handle env ev => refuses env (w.view env.hook.unit) ev = true
  | _ => False

instance (w : Deployment) (a : Step) : Decidable (a.Refused w) := by
  cases a <;> unfold Step.Refused <;> infer_instance

theorem step_refused {w w' : Deployment} {a : Step} (ha : step lower w a = some w')
    (hw : w.refused = false) : w'.refused = true ↔ a.Refused w := by
  cases a with
  | relate rid ep =>
    simp only [step] at ha
    split_ifs at ha
    cases ha
    simp [Step.Refused, hw]
  | write rid data =>
    obtain ⟨r, -, rfl⟩ := Option.map_eq_some_iff.mp ha
    simp [Step.Refused, hw]
  | gone rid =>
    cases ha
    simp [Step.Refused, hw]
  | elect u =>
    cases ha
    simp [Step.Refused, hw]
  | backend relation =>
    cases ha
    simp [Step.Refused, hw]
  | services u services =>
    cases ha
    simp [Step.Refused, hw, Deployment.setUnit]
  | handle env ev =>
    cases ha
    have hiff : ((handle env lower ev).run (w.view env.hook.unit)).1 =
        .error .relationDataAccessError ↔ (Step.handle env ev).Refused w := refused_iff ev
    rw [← hiff]
    unfold Deployment.run
    rcases hr : (handle env lower ev).run (w.view env.hook.unit) with ⟨e | _, s⟩
    · simp [hr, hw]
    · simp [hr, hw, Deployment.commit, Deployment.setUnit]

/-- In every run none of whose steps is the removal of a legacy relation on a
    former leader that set it up, only the leader writes application data; and
    the first such step is the first write that ops refuses. -/
theorem leader_writes_only {w : Deployment}
    (hw : (machine lower).Reach (fun w a => ¬ a.Refused w) w) :
    w.refused = false ∧
      ∀ a w', step lower w a = some w' → (w'.refused = true ↔ a.Refused w) := by
  have hrefused : w.refused = false := by
    apply hw.invariant (I := fun w => w.refused = false)
    · exact fun w hw => hw.2
    · intro w a w' _ hi hg ha
      have hiff := step_refused ha hi
      cases h : w'.refused with
      | false => rfl
      | true => exact absurd (hiff.mp h) hg
  exact ⟨hrefused, fun a w' ha => step_refused ha hrefused⟩

/-- A `db` relation that unit 0 sets up. -/
def setupRun : List Step :=
  [.relate 1 .db, .write 1 (Setup.asking "a"), .handle (sampleEnv 0) (.joined 1)]

/-- Unit 0 loses leadership after it has set the relation up; its handler of
    the removal is refused. -/
theorem refused_after_election :
    ∃ w w', (machine Text.asciiLower).Reach Machine.always w ∧ w.app.leader = 1 ∧
      ((handle (sampleEnv 0) Text.asciiLower (.broken 1)).run (w.view 0)).1 =
        .error .relationDataAccessError ∧
      step Text.asciiLower w (.handle (sampleEnv 0) (.broken 1)) = some w' ∧
      w'.refused = true := by
  obtain ⟨w, hw, hp⟩ := Machine.exists_reach_of_exec (machine Text.asciiLower) Machine.always
    sampleDeployment (setupRun ++ [.elect 1])
    (fun w => w.app.leader == 1 && !w.refused && refuses (sampleEnv 0) (w.view 0) (.broken 1))
    ⟨rfl, rfl⟩ (by decide +kernel)
  obtain ⟨⟨hl, hno⟩, hr⟩ : (w.app.leader = 1 ∧ w.refused = false) ∧
      refuses (sampleEnv 0) (w.view 0) (.broken 1) = true := by simpa using hp
  have hstep : step Text.asciiLower w (.handle (sampleEnv 0) (.broken 1)) =
      some (w.run Text.asciiLower (sampleEnv 0) (.broken 1)) := rfl
  exact ⟨w, _, hw, hl, (refused_iff _).mpr hr, hstep, (step_refused hstep hno).mpr hr⟩

/-- Unit 0 removes the relation as the leader. -/
theorem accepted_from_leader :
    ∃ w, (machine Text.asciiLower).Reach (fun w a => ¬ a.Refused w) w ∧ w.refused = false ∧
      w.app.relations.contains 1 = false := by
  obtain ⟨w, hw, hp⟩ := Machine.exists_reach_of_exec (machine Text.asciiLower)
    (fun w a => ¬ a.Refused w) sampleDeployment
    (setupRun ++ [.handle (sampleEnv 0) (.broken 1), .gone 1])
    (fun w => !w.app.relations.contains 1) ⟨rfl, rfl⟩ (by decide +kernel)
  exact ⟨w, hw, (leader_writes_only hw).1, by simpa using hp⟩

end PgBouncerK8s.Operator
