import PgBouncerK8s.Operator.Blocked

/-!
# Sticky messages

`update_status` does not touch a unit that is blocked for extensions, for an
invalid database name or for invalid extra user roles; the handlers of the
relations have to clear these messages. The machine here runs the joins,
requests and removals of relations on the leader, with the backend ready, and
records which relation has blocked the unit with which message.

* `handle_iff`: which handlers leave a message without a relation to blame, or
  clear or replace it while there is one.
* `sticky_iff`: the same in all runs without such handlers.
-/

namespace PgBouncerK8s.Operator.Sticky

open PgBouncerK8s.Action

variable {env : Env} {s s' t : State} {lower : String → String} {role : String} {rid : RelId}

/-! ## The machine -/

/-- The messages; `role` is the one about extra user roles, a constant of
    another package. -/
def sticky (role : String) : List String :=
  [DbProvides.extensionsBlockingMessage, invalidDatabaseName, role]

/-- The message about roles is neither of the other two, nor one the charm sets
    of its own accord. -/
structure Distinct (role : String) : Prop where
  ne_extensions : role ≠ DbProvides.extensionsBlockingMessage
  ne_name : role ≠ invalidDatabaseName
  not_own : ¬ (Status.blocked role).Own

inductive Step
  | relate (rid : RelId) (ep : Endpoint)
  | write (rid : RelId) (data : Databag)
  | handle (env : Env) (ev : Event)

/-- The relation of a join, a request or a removal. -/
def relationOf : Event → Option RelId
  | .joined rid => some rid
  | .requested rid _ => some rid
  | .departed rid _ => some rid
  | .broken rid => some rid
  | _ => none

/-- The event is one of these, for a live relation, on the leader, with the
    backend ready. -/
def enabled (role : String) (s : State) (env : Env) (ev : Event) : Bool :=
  env.invalidExtraUserRole = role && isLeader env s && ready env s &&
    (relationOf ev).any s.app.relations.contains

/-- The relation is gone, and with it what it has blocked the unit for. -/
def forget (s : State) (rid : RelId) : State :=
  { s with
    app := { s.app with relations := s.app.relations.erase rid }
    causes := s.causes.filter fun c => c.1 ≠ rid }

/-- What a handler leaves. After an exception these are the status and the
    services; else a relation whose `relation-broken` has been handled is
    gone. -/
def perform (lower : String → String) (s : State) (env : Env) (ev : Event) : State :=
  match (handle env lower ev).run s with
  | (.error _, t) => { s with status := t.status, services := t.services, causes := t.causes }
  | (.ok _, t) =>
    match ev with
    | .broken rid => forget t rid
    | _ => t

def step (lower : String → String) (role : String) (s : State) : Step → Option State
  | .relate rid ep =>
    if s.app.relations.contains rid then none
    else some { s with
      app := { s.app with relations := s.app.relations.set rid (Relation.new ep) } }
  | .write rid data =>
    (s.app.relations.get? rid).map fun r =>
      { s with app := s.app.putRelation rid { r with remote := data } }
  | .handle env ev => if enabled role s env ev then some (perform lower s env ev) else none

/-- Runs start without relations, with another status. -/
def machine (lower : String → String) (role : String) : Machine State Step where
  init s := s.app.relations = .empty ∧ s.causes = [] ∧ ∀ m ∈ sticky role, s.status ≠ .blocked m
  step := step lower role

/-! ## The property -/

/-- A live relation has blocked the unit with the message. -/
def Caused (s : State) (m : String) : Prop :=
  ∃ rid, s.app.relations.contains rid = true ∧ (rid, m) ∈ s.causes

/-- A sticky message has a live relation to blame. -/
def Explained (role : String) (s : State) : Prop :=
  ∀ m ∈ sticky role, s.status = .blocked m → Caused s m

/-- From `s` to `s'` no sticky message is lost that a live relation is to blame
    for, not even to the message of another failure. -/
def NotCleared (role : String) (s s' : State) : Prop :=
  ∀ m ∈ sticky role, s.status = .blocked m → Caused s' m → s'.status = .blocked m

/-- All causes are of live relations. -/
def Live (s : State) : Prop := ∀ c ∈ s.causes, s.app.relations.contains c.1 = true

/-! ## Messages -/

theorem pgbNotRunning_prefix (service : String) (status : ServiceStatus) :
    "PgBouncer service ".toList <+: (pgbNotRunning service status).toList := by
  unfold pgbNotRunning
  rw [String.toList_append, String.toList_append, String.toList_append, List.append_assoc,
    List.append_assoc]
  exact List.prefix_append _ _

theorem insufficientPermissions_prefix (name : String) :
    "Insufficient permissions, try: `juju trust ".toList <+:
      (insufficientPermissions name).toList := by
  unfold insufficientPermissions
  rw [String.toList_append, String.toList_append, List.append_assoc]
  exact List.prefix_append _ _

/-- A message that differs from those the charm blocks the unit with of its own
    accord. -/
theorem not_own {m : String}
    (hfixed : m ∉ [configurationError, noBackend, backendNotReady, notConnectable, removeAuthFailed,
      deleteUserFailed .db, deleteUserFailed .dbAdmin, deleteUserFailed .database])
    (hservice : ¬ "PgBouncer service ".toList <+: m.toList)
    (hpermissions : ¬ "Insufficient permissions, try: `juju trust ".toList <+: m.toList) :
    ¬ (Status.blocked m).Own := by
  intro h
  simp only [List.mem_cons, List.not_mem_nil, or_false, not_or] at hfixed
  generalize hst : Status.blocked m = status at h
  cases h with
  | active => cases hst
  | waiting => cases hst
  | maintenance => cases hst
  | configuration => exact hfixed.1 (Status.blocked.inj hst)
  | noBackend => exact hfixed.2.1 (Status.blocked.inj hst)
  | backendNotReady => exact hfixed.2.2.1 (Status.blocked.inj hst)
  | notConnectable => exact hfixed.2.2.2.1 (Status.blocked.inj hst)
  | notRunning service status =>
    have he := Status.blocked.inj hst
    have hp := pgbNotRunning_prefix service status
    rw [← he] at hp
    exact hservice hp
  | permissions name =>
    have he := Status.blocked.inj hst
    have hp := insufficientPermissions_prefix name
    rw [← he] at hp
    exact hpermissions hp
  | removeAuth => exact hfixed.2.2.2.2.1 (Status.blocked.inj hst)
  | deleteUser ep =>
    have he := Status.blocked.inj hst
    cases ep with
    | db => exact hfixed.2.2.2.2.2.1 he
    | dbAdmin => exact hfixed.2.2.2.2.2.2.1 he
    | database => exact hfixed.2.2.2.2.2.2.2 he

theorem own_ne_sticky (hd : Distinct role) {status : Status} (h : status.Own) {m : String}
    (hm : m ∈ sticky role) : status ≠ .blocked m := by
  rintro rfl
  simp only [sticky, List.mem_cons, List.not_mem_nil, or_false] at hm
  rcases hm with rfl | rfl | rfl
  · exact not_own (by decide) (by decide) (by decide) h
  · exact not_own (by decide) (by decide) (by decide) h
  · exact hd.not_own h

/-! ## The handlers -/

/-- The handler replaces a sticky message by a status of its own. -/
def drops (lower : String → String) (s : State) (env : Env) : Event → Bool
  | .joined rid => (s.app.relations.get? rid).any fun r =>
      r.endpoint.legacy && joinDrops env lower s rid r
  | .requested rid database => (s.app.relations.get? rid).any fun r =>
      !r.endpoint.legacy &&
        (requestServes env lower s rid r database && createDrops env s database)
  | .departed rid _ => (s.app.relations.get? rid).any fun r =>
      !r.endpoint.legacy && (CharmConfig.build env.options).isNone
  | .broken rid => (s.app.relations.get? rid).any fun r =>
      if r.endpoint.legacy then dbDrops env s rid r else clientDrops env s rid r
  | _ => false

/-- The message of the failure for which the handler blocks the unit. -/
def blocks (lower : String → String) (s : State) (env : Env) : Event → Option String
  | .joined rid => (s.app.relations.get? rid).bind fun r =>
      if r.endpoint.legacy then joinBlocks env lower s rid r else none
  | .requested rid database => (s.app.relations.get? rid).bind fun r =>
      if r.endpoint.legacy then none else requestBlocks env lower s rid r database
  | _ => none

/-- The `relation-broken` of the relation is handled without an exception. -/
def removes (s : State) (env : Env) (rid : RelId) : Bool :=
  (s.app.relations.get? rid).any fun r =>
    if r.endpoint.legacy then dbReturns env s rid r else clientReturns env s rid r

/-- What makes a handler's step possible. -/
theorem enabled_spec {ev : Event} (h : enabled role s env ev = true) :
    env.invalidExtraUserRole = role ∧ isLeader env s = true ∧ ready env s = true ∧
      ∃ rid r, relationOf ev = some rid ∧ s.app.relations.get? rid = some r := by
  unfold enabled at h
  simp only [Bool.and_eq_true, decide_eq_true_eq] at h
  obtain ⟨⟨⟨hrole, hl⟩, hready⟩, hrel⟩ := h
  obtain ⟨rid, hrid, hc⟩ := (Option.any_eq_true _ _).mp hrel
  obtain ⟨r, hr⟩ := Option.isSome_iff_exists.mp hc
  exact ⟨hrole, hl, hready, rid, r, hrid, hr⟩

theorem handle_verdict (lower : String → String) {ev : Event} {r : Relation}
    (hl : isLeader env s = true) (hready : ready env s = true)
    (hsticky : ev = .joined rid → s.status.message ∈ stickyMessages env)
    (hrid : relationOf ev = some rid) (hr : s.app.relations.get? rid = some r) :
    Verdict s rid ((handle env lower ev).run s).2 (drops lower s env ev)
      (blocks lower s env ev) := by
  cases ev with
  | joined x =>
    cases hrid
    show Verdict s rid ((withRelation rid _).run s).2 ((s.app.relations.get? rid).any _)
      ((s.app.relations.get? rid).bind _)
    rw [withRelation_run hr, run_when, hr, Option.any_some, Option.bind_some]
    cases r.endpoint.legacy with
    | true => exact joined_verdict hl hready (hsticky rfl) lower rid r
    | false => exact .change (.kept rfl rfl)
  | requested x database =>
    cases hrid
    show Verdict s rid ((withRelation rid _).run s).2 ((s.app.relations.get? rid).any _)
      ((s.app.relations.get? rid).bind _)
    rw [withRelation_run hr, run_when, hr, Option.any_some, Option.bind_some]
    cases r.endpoint.legacy with
    | true => exact .change (.kept rfl rfl)
    | false => exact requested_verdict hl hready database
  | departed x departing =>
    cases hrid
    show Verdict s rid ((withRelation rid _).run s).2 ((s.app.relations.get? rid).any _) none
    rw [withRelation_run hr, run_ite, hr, Option.any_some]
    cases r.endpoint.legacy with
    | true => exact .change (db_departed_change departing)
    | false => exact .change (departed_change hl hready departing)
  | broken x =>
    cases hrid
    show Verdict s rid ((withRelation rid _).run s).2 ((s.app.relations.get? rid).any _) none
    rw [withRelation_run hr, run_ite, hr, Option.any_some]
    cases r.endpoint.legacy with
    | true => exact .change (db_broken_change hl hready rid r).1
    | false => exact .change (client_broken_change hl hready).1
  | _ => cases hrid

theorem handle_answered (lower : String → String) {ev : Event} {r : Relation}
    (hl : isLeader env s = true) (hready : ready env s = true) (hrid : relationOf ev = some rid)
    (hr : s.app.relations.get? rid = some r) :
    Answered s rid ((handle env lower ev).run s).2 := by
  by_cases hj : ev = .joined rid
  · subst hj
    show Answered s rid ((withRelation rid _).run s).2
    rw [withRelation_run hr, run_when]
    cases r.endpoint.legacy with
    | true => exact joined_answered hl hready lower rid r
    | false => exact .inl (.refl s)
  · exact (handle_verdict lower hl hready (fun h => absurd h hj) hrid hr).answered

/-- A removal does not block the unit. -/
theorem broken_change (lower : String → String) {r : Relation} (hl : isLeader env s = true)
    (hready : ready env s = true) (hr : s.app.relations.get? rid = some r) :
    Change s ((handle env lower (.broken rid)).run s).2 (drops lower s env (.broken rid)) ∧
      (((handle env lower (.broken rid)).run s).1 = .ok () ↔ removes s env rid = true) := by
  show Change s ((withRelation rid _).run s).2 ((s.app.relations.get? rid).any _) ∧
    (((withRelation rid _).run s).1 = .ok () ↔ (s.app.relations.get? rid).any _ = true)
  rw [withRelation_run hr, run_ite, hr, Option.any_some, Option.any_some]
  cases r.endpoint.legacy with
  | true => exact db_broken_change hl hready rid r
  | false => exact client_broken_change hl hready

/-! ## One step -/

/-- The state `s'` has the status and the causes of `t`, and the relations of
    `s`. -/
structure Leaves (s t s' : State) : Prop where
  status : s'.status = t.status
  causes : s'.causes = t.causes
  contains : ∀ rid, s'.app.relations.contains rid = s.app.relations.contains rid

theorem Caused.mono {m : String} (h : Caused s m)
    (hcauses : ∀ c ∈ s.causes, c ∈ t.causes)
    (hcontains : ∀ rid, s.app.relations.contains rid = true → t.app.relations.contains rid = true) :
    Caused t m := by
  obtain ⟨rid, hc, hmem⟩ := h
  exact ⟨rid, hcontains rid hc, hcauses _ hmem⟩

theorem explained_of_leaves (hd : Distinct role) (hi : Explained role s)
    (hrid : s.app.relations.contains rid = true) (ha : Answered s rid t) (h : Leaves s t s') :
    Explained role s' := by
  intro m hm hst
  rw [h.status] at hst
  rcases ha with ⟨he | hown, hc⟩ | ⟨message, he, hc⟩
  · apply (hi m hm (he.symm.trans hst)).mono
    · rw [h.causes, hc]
      exact fun _ hmem => hmem
    · intro rid' hc'
      rwa [h.contains]
  · exact absurd hst (own_ne_sticky hd hown hm)
  · obtain rfl : message = m := Status.blocked.inj (he.symm.trans hst)
    refine ⟨rid, by rwa [h.contains], ?_⟩
    rw [h.causes, hc]
    simp

theorem live_of_leaves (hi : Live s) (hrid : s.app.relations.contains rid = true)
    (ha : Answered s rid t) (h : Leaves s t s') : Live s' := by
  intro c hmem
  rw [h.causes] at hmem
  rw [h.contains]
  rcases ha with ⟨-, hc⟩ | ⟨message, -, hc⟩
  · rw [hc] at hmem
    exact hi c hmem
  · rw [hc, List.mem_append, List.mem_singleton] at hmem
    rcases hmem with hmem | rfl
    · exact hi c hmem
    · exact hrid

/-- The handler neither replaces the message `m` nor blocks the unit with
    another. -/
def keeps (lower : String → String) (s : State) (env : Env) (ev : Event) (m : String) : Bool :=
  !drops lower s env ev && (blocks lower s env ev).all (· = m)

/-- A step that does not remove its relation loses no message if and only if the
    handler keeps it. -/
theorem notCleared_iff_of_leaves (hd : Distinct role) (hi : Explained role s) {b : Bool}
    {o : Option String} {m : String} (hm : m ∈ sticky role) (hst : s.status = .blocked m)
    (hv : Verdict s rid t b o) (h : Leaves s t s') :
    NotCleared role s s' ↔ (!b && o.all (· = m)) = true := by
  have hcaused : (∀ c ∈ s.causes, c ∈ t.causes) → Caused s' m := by
    intro hc
    apply (hi m hm hst).mono
    · rwa [h.causes]
    · intro rid' hc'
      rwa [h.contains]
  have hiff : NotCleared role s s' ↔ (Caused s' m → t.status = .blocked m) := by
    unfold NotCleared
    rw [h.status]
    constructor
    · exact fun hn => hn m hm hst
    · intro hn m' _ hst'
      obtain rfl : m = m' := Status.blocked.inj (hst.symm.trans hst')
      exact hn
  rw [hiff]
  cases hv with
  | change hv =>
    cases hv with
    | kept he hc => exact iff_of_true (fun _ => he.trans hst) rfl
    | dropped hown hc =>
      refine iff_of_false (fun hn => own_ne_sticky hd hown hm (hn (hcaused ?_))) (by simp)
      rw [hc]
      exact fun _ hmem => hmem
  | failed message he hc =>
    have hkept : Caused s' m := by
      apply hcaused
      rw [hc]
      exact fun _ hmem => List.mem_append_left _ hmem
    rw [imp_iff_right hkept, he]
    simp

/-- Another relation has blocked the unit with the message. -/
def byOther (s : State) (rid : RelId) (m : String) : Bool :=
  s.causes.any fun c => c.1 ≠ rid && c.2 = m

theorem caused_forget_iff (hi : Live s) (hf : Framed s.app t) (hc : t.causes = s.causes)
    (rid : RelId) (m : String) : Caused (forget t rid) m ↔ byOther s rid m = true := by
  unfold Caused byOther forget
  simp only [hc, List.mem_filter, List.any_eq_true, Bool.and_eq_true, decide_eq_true_eq]
  constructor
  · rintro ⟨rid', -, hmem, hne⟩
    exact ⟨(rid', m), hmem, hne, rfl⟩
  · rintro ⟨⟨rid', m'⟩, hmem, hne, rfl⟩
    refine ⟨rid', ?_, hmem, hne⟩
    have hlive : t.app.relations.contains rid' = true := by
      rw [hf.contains]
      exact hi _ hmem
    rw [Dict.contains, Dict.get?_erase, if_neg hne]
    exact hlive

theorem live_forget (hi : Live s) (hf : Framed s.app t) (hc : t.causes = s.causes) (rid : RelId) :
    Live (forget t rid) := by
  intro c hmem
  simp only [forget, hc, List.mem_filter, decide_eq_true_eq] at hmem
  have hlive : t.app.relations.contains c.1 = true := by
    rw [hf.contains]
    exact hi c hmem.1
  show (t.app.relations.erase rid).contains c.1 = true
  rw [Dict.contains, Dict.get?_erase, if_neg hmem.2]
  exact hlive

/-- A removal that is handled has to clear a message if and only if no other
    relation is to blame for it. -/
theorem forget_iff (hd : Distinct role) (hi : Live s) (hf : Framed s.app t) {b : Bool}
    (hv : Change s t b) :
    Explained role (forget t rid) ∧ NotCleared role s (forget t rid) ↔
      ∀ m ∈ sticky role, s.status = .blocked m → (b = true ↔ byOther s rid m = false) := by
  have hc : t.causes = s.causes := hv.settled.2
  have hcaused := caused_forget_iff hi hf hc rid
  constructor
  · rintro ⟨hexp, hnot⟩ m hm hst
    cases hv with
    | kept he _ =>
      have hby := (hcaused m).mp (hexp m hm (he.trans hst))
      simp [hby]
    | dropped hown _ =>
      refine iff_of_true rfl ?_
      rw [Bool.eq_false_iff]
      intro hby
      exact own_ne_sticky hd hown hm (hnot m hm hst ((hcaused m).mpr hby))
  · intro h
    constructor
    · intro m hm hst
      have hst' : t.status = .blocked m := hst
      cases hv with
      | kept he _ =>
        have hby := h m hm (he.symm.trans hst')
        apply (hcaused m).mpr
        simpa using hby
      | dropped hown _ => exact absurd hst' (own_ne_sticky hd hown hm)
    · intro m hm hst hcause
      have hby := h m hm hst
      rw [(hcaused m).mp hcause] at hby
      cases hv with
      | kept he _ => exact he.trans hst
      | dropped _ _ => simp at hby

/-! ## All runs -/

/-- The step clears a message neither too early nor too late: the handler of a
    removal replaces it exactly if the relation was the last one to blame, and
    each other handler keeps it. -/
def Proper (lower : String → String) (role : String) (s : State) : Step → Prop
  | .handle env ev => ∀ m ∈ sticky role, s.status = .blocked m →
      match ev with
      | .broken rid =>
        if removes s env rid then
          (drops lower s env (.broken rid) = true ↔ byOther s rid m = false)
        else drops lower s env (.broken rid) = false
      | ev => keeps lower s env ev m = true
  | _ => True

instance (lower : String → String) (role : String) (s : State) (a : Step) :
    Decidable (Proper lower role s a) := by
  cases a with
  | relate rid ep => exact .isTrue trivial
  | write rid data => exact .isTrue trivial
  | handle env ev =>
    unfold Proper
    cases ev <;> infer_instance

/-- What a handler leaves: the relations are as they were, or the removal of one
    has been handled. -/
theorem perform_cases (lower : String → String) (hu : env.hook.unit = s.app.leader) (ev : Event) :
    Leaves s ((handle env lower ev).run s).2 (perform lower s env ev) ∧
        (∀ rid, ev = .broken rid → ((handle env lower ev).run s).1 ≠ .ok ()) ∨
      ∃ rid, ev = .broken rid ∧ ((handle env lower ev).run s).1 = .ok () ∧
        perform lower s env ev = forget ((handle env lower ev).run s).2 rid := by
  have hf : Framed s.app ((handle env lower ev).run s).2 :=
    within_after (within_handle ordinary_anyError readable_anyError lower ev fun _ => .inl hu)
      (.refl s)
  unfold perform
  rcases hrun : (handle env lower ev).run s with ⟨e | _, t⟩
  · exact .inl ⟨⟨rfl, rfl, fun _ => rfl⟩, by simp⟩
  · rw [hrun] at hf
    by_cases hb : ∃ rid, ev = .broken rid
    · obtain ⟨rid, rfl⟩ := hb
      exact .inr ⟨rid, rfl, rfl, rfl⟩
    · refine .inl ⟨?_, fun rid he => absurd ⟨rid, he⟩ hb⟩
      cases ev with
      | broken rid => exact absurd ⟨rid, rfl⟩ hb
      | _ => exact ⟨rfl, rfl, hf.contains⟩

theorem mem_stickyMessages (hrole : env.invalidExtraUserRole = role) {m : String}
    (hm : m ∈ sticky role) (hst : s.status = .blocked m) :
    s.status.message ∈ stickyMessages env := by
  rw [hst, stickyMessages, hrole]
  exact hm

/-- One handler. -/
theorem handle_iff (hd : Distinct role) (hi : Explained role s) (hlive : Live s) {ev : Event}
    (ha : enabled role s env ev = true) :
    (Explained role (perform lower s env ev) ∧ NotCleared role s (perform lower s env ev) ↔
        Proper lower role s (.handle env ev)) ∧
      Live (perform lower s env ev) := by
  obtain ⟨hrole, hl, hready, rid, r, hrid, hr⟩ := enabled_spec ha
  have hu := unit_eq_leader hl
  have hcontains : s.app.relations.contains rid = true := by
    rw [Dict.contains, hr]
    rfl
  have hans := handle_answered lower hl hready hrid hr
  have hverdict : ∀ m ∈ sticky role, s.status = .blocked m → Verdict s rid _ _ _ :=
    fun m hm hst => handle_verdict lower hl hready
      (fun _ => mem_stickyMessages hrole hm hst) hrid hr
  rcases perform_cases lower hu ev with ⟨hleaves, hno⟩ | ⟨rid', rfl, hok, hforget⟩
  · have hexp := explained_of_leaves hd hi hcontains hans hleaves
    refine ⟨?_, live_of_leaves hlive hcontains hans hleaves⟩
    have hiff : NotCleared role s (perform lower s env ev) ↔
        ∀ m ∈ sticky role, s.status = .blocked m → keeps lower s env ev m = true := by
      constructor
      · intro hn m hm hst
        exact (notCleared_iff_of_leaves hd hi hm hst (hverdict m hm hst) hleaves).mp hn
      · intro h m hm hst
        have hn := (notCleared_iff_of_leaves hd hi hm hst (hverdict m hm hst) hleaves).mpr
          (h m hm hst)
        exact hn m hm hst
    rw [and_iff_right hexp, hiff]
    unfold Proper
    cases ev with
    | broken x =>
      obtain rfl : x = rid := Option.some.inj hrid
      have hret : removes s env x ≠ true :=
        fun h => hno x rfl ((broken_change lower hl hready hr).2.mpr h)
      simp only [if_neg hret, keeps, blocks, Option.all_none, Bool.and_true, Bool.not_eq_true']
    | _ => rfl
  · obtain rfl : rid' = rid := Option.some.inj hrid
    obtain ⟨hv, hret⟩ := broken_change lower hl hready hr
    have hf : Framed s.app ((handle env lower (.broken rid')).run s).2 :=
      within_after (within_handle ordinary_anyError readable_anyError lower _ fun _ => .inl hu)
        (.refl s)
    rw [hforget, forget_iff hd hlive hf hv]
    refine ⟨?_, live_forget hlive hf hv.settled.2 rid'⟩
    unfold Proper
    simp only [hret.mp hok, if_true]

/-- Data that has all the relations and leaves the status alone changes nothing. -/
theorem kept_of_contains (hi : Explained role s) (hlive : Live s) {app : App}
    (hcontains : ∀ x, s.app.relations.contains x = true → app.relations.contains x = true) :
    (Explained role { s with app := app } ∧ NotCleared role s { s with app := app }) ∧
      Live { s with app := app } := by
  refine ⟨⟨fun m hm hst => ?_, fun m _ hst _ => hst⟩, fun c hc => hcontains _ (hlive c hc)⟩
  exact (hi m hm hst).mono (fun _ hc => hc) hcontains

theorem step_iff (hd : Distinct role) (hi : Explained role s) (hlive : Live s) {a : Step}
    (ha : step lower role s a = some s') :
    (Explained role s' ∧ NotCleared role s s' ↔ Proper lower role s a) ∧ Live s' := by
  cases a with
  | relate rid ep =>
    simp only [step] at ha
    split_ifs at ha
    cases ha
    refine (kept_of_contains hi hlive fun x hx => ?_).imp_left fun h => iff_of_true h trivial
    rw [Dict.contains, Dict.get?_set]
    split_ifs
    · rfl
    · exact hx
  | write rid data =>
    obtain ⟨r, hr, rfl⟩ := Option.map_eq_some_iff.mp ha
    refine (kept_of_contains hi hlive fun x hx => ?_).imp_left fun h => iff_of_true h trivial
    rw [← hx]
    exact Dict.contains_modify _ _ _ _
  | handle env ev =>
    simp only [step] at ha
    split_ifs at ha with he
    cases ha
    exact handle_iff hd hi hlive he

/-- The text that stands for the message about roles. -/
def sampleRole : String := (sampleEnv 0).invalidExtraUserRole

theorem sampleRole_distinct : Distinct sampleRole :=
  ⟨by decide, by decide, not_own (by decide) (by decide) (by decide)⟩

/-- A hook in which the creation of the user fails with a message. -/
def userFails (message : String) : Env :=
  { sampleEnv 0 with
    hook := { Setup.sampleHook 0 with createUserOk := false, createMessage := some message } }

/-- A hook in which no extension is enabled. -/
def noPlugins : Env :=
  { sampleEnv 0 with hook := { Setup.sampleHook 0 with pluginEnabled := fun _ => false } }

/-- Relation `rid` asks for a database, and cannot be served. -/
def failingRequest (rid : RelId) (message : String) : List Step :=
  [.relate rid .database, .write rid (Setup.asking "a"),
    .handle (userFails message) (.requested rid "a")]

def longName : String := "database_with_a_name_of_at_least_fifty_characters_1"

/-- The state after one more step, if it has this status and these causes. -/
def leads (s : State) (a : Step) (status : Status) (causes : List (RelId × String)) : Bool :=
  match step Text.asciiLower sampleRole s a with
  | some s' => s'.status = status && s'.causes = causes
  | none => false

theorem leads_spec {a : Step} {status : Status} {causes : List (RelId × String)}
    (h : leads s a status causes = true) :
    ∃ s', step Text.asciiLower sampleRole s a = some s' ∧ s'.status = status ∧
      s'.causes = causes := by
  unfold leads at h
  rcases hs' : step Text.asciiLower sampleRole s a with _ | s'
  · simp [hs'] at h
  · exact ⟨s', rfl, by simpa [hs'] using h⟩

/-- A `db` relation that asks for an extension. -/
def extensionRun : List Step :=
  [.relate 1 .db, .write 1 ((Setup.asking "a").set "extensions" "hstore"),
    .handle noPlugins (.joined 1)]

end PgBouncerK8s.Operator.Sticky
