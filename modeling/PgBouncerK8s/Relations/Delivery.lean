import PgBouncerK8s.Relations.Setup

/-!
# The delivery of database requests

Juju delivers `relation-joined` once to each unit for each remote unit, and
`relation-changed` to each unit after each write of the client; a deferred event
stays in the queue of the unit that deferred it. `database_requested` is emitted
while `relation-changed` is handled on the leader, once per relation, which the
key `data` of the application databag records. All handlers return at once on a
unit that does not lead.

Deferred events are re-emitted one by one here, in any order and between any
other steps, which includes the order of a single hook.

* `noRequestDropped_of_reach`: no request is lost in a run in which leadership
  passes only to units that still have the events of all unfinished relations
  pending themselves.
* `request_dropped`: a run in which the leader defers a request and another
  unit takes over.
-/

namespace PgBouncerK8s

namespace Delivery

/-! ## The machine -/

inductive Event
  | joined (rid : RelId)
  | changed (rid : RelId)
  | requested (rid : RelId)
  deriving DecidableEq

/-- The application with the event queues of its units; `blocked rid` says that
    the request of relation `rid` has ended with `BlockedStatus`. -/
structure World where
  app : App
  undelivered : UnitId → List Event
  deferred : UnitId → List Event
  blocked : RelId → Bool

/-- `relate` brings the first remote unit of a relation, `remoteJoin` another
    one; `deliver` is the hook of an undelivered event, `reemit` the emission
    of a deferred one, both on the unit of the `Hook`. -/
inductive Action
  | relate (rid : RelId) (ep : Endpoint)
  | remoteJoin (rid : RelId)
  | write (rid : RelId) (data : Databag)
  | elect (u : UnitId)
  | deliver (h : Hook) (ev : Event)
  | reemit (h : Hook) (ev : Event)

variable (lower : String → String)

/-- The end of a handler: a deferred event goes to the queue of its unit, a
    blocked request is marked. -/
def settle (h : Hook) (ev : Event) (rid : RelId) (w : World) (res : Result) : World :=
  match res.outcome with
  | .returned => { w with app := res.app }
  | .deferred =>
    { w with
      app := res.app
      deferred := Function.update w.deferred h.unit (w.deferred h.unit ++ [ev]) }
  | .blocked _ => { w with app := res.app, blocked := Function.update w.blocked rid true }

/-- `database_requested` on unit `h.unit`. -/
def emitRequested (h : Hook) (w : World) (rid : RelId) (r : Relation) : World :=
  match r.remote.get "database" with
  | some database => settle h (.requested rid) rid w
      (PgBouncerProvider.onDatabaseRequested lower h w.app rid r database)
  | none => w

/-- The handlers of an event on unit `h.unit`. -/
def handle (h : Hook) (w : World) : Event → World
  | .joined rid =>
    match w.app.relations.get? rid with
    | some r =>
      if r.endpoint.legacy then
        settle h (.joined rid) rid w (DbProvides.onRelationJoined lower h w.app rid r)
      else w
    | none => w
  | .changed rid =>
    match w.app.relations.get? rid with
    | some r =>
      if r.endpoint.legacy then
        settle h (.changed rid) rid w (DbProvides.onRelationChanged h w.app rid r)
      else
        let (r, emitted) := PgBouncerProvider.onRelationChangedEvent w.app h.unit r
        let w := { w with app := w.app.putRelation rid r }
        if emitted then emitRequested lower h w rid r else w
    | none => w
  | .requested rid =>
    match w.app.relations.get? rid with
    | some r => if r.endpoint.legacy then w else emitRequested lower h w rid r
    | none => w

/-- Put an event into the queues of all units. -/
def World.notify (w : World) (ev : Event) : World :=
  { w with undelivered := fun u => w.undelivered u ++ [ev] }

def step (w : World) : Action → Option World
  | .relate rid ep =>
    if w.app.relations.contains rid then none
    else some (World.notify
      { w with app := { w.app with relations := w.app.relations.set rid (Relation.new ep) } }
      (.joined rid))
  | .remoteJoin rid =>
    if w.app.relations.contains rid then some (w.notify (.joined rid)) else none
  | .write rid data =>
    (w.app.relations.get? rid).bind fun r =>
      if r.asked ∧ data.get "database" ≠ r.remote.get "database" ∨
          data.contains "entity-type" = true then none
      else some (World.notify { w with app := w.app.putRelation rid { r with remote := data } }
        (.changed rid))
  | .elect u => some { w with app := { w.app with leader := u } }
  | .deliver h ev =>
    if ev ∈ w.undelivered h.unit then
      some (handle lower h { w with
        undelivered := Function.update w.undelivered h.unit
          ((w.undelivered h.unit).erase ev) } ev)
    else none
  | .reemit h ev =>
    if ev ∈ w.deferred h.unit then
      some (handle lower h { w with
        deferred := Function.update w.deferred h.unit ((w.deferred h.unit).erase ev) } ev)
    else none

/-- Runs start without relations. -/
def machine : Machine World Action where
  init w := w.app.relations = .empty ∧ w.undelivered = (fun _ => []) ∧
    w.deferred = (fun _ => []) ∧ w.blocked = fun _ => false
  step := step lower

/-! ## The property -/

/-- The event that has the request of relation `rid` handled is pending on unit
    `u`. An undelivered `relation-changed` counts while it will still emit
    `database_requested`. -/
def Pending (w : World) (u : UnitId) (rid : RelId) (r : Relation) : Prop :=
  if r.endpoint.legacy then .joined rid ∈ w.undelivered u ∨ .joined rid ∈ w.deferred u
  else .requested rid ∈ w.deferred u ∨
    .changed rid ∈ w.undelivered u ∧ r.diffData.contains "database" = false

/-- Credentials are published, or the request was ended with `BlockedStatus`, or
    its event is pending on unit `u`. -/
def Settled (w : World) (u : UnitId) (rid : RelId) (r : Relation) : Prop :=
  r.published = true ∨ w.blocked rid = true ∨ Pending w u rid r

/-- No request of a live relation is lost. -/
def NoRequestDropped (w : World) : Prop :=
  ∀ rid r, w.app.relations.get? rid = some r → r.asked = true → Settled w w.app.leader rid r

/-- Unit `u` has pending itself what is not finished: every legacy relation, and
    every client relation that has asked. -/
def Inherits (w : World) (u : UnitId) : Prop :=
  ∀ rid r, w.app.relations.get? rid = some r → r.endpoint.legacy = true ∨ r.asked = true →
    Settled w u rid r

/-- Leadership passes only to units that inherit all unfinished requests. -/
def InheritedElections (w : World) : Action → Prop
  | .elect u => Inherits w u
  | _ => True

/-! ## What the handlers do to a relation -/

open Setup

variable {lower} {h : Hook} {s s' : App} {rid : RelId} {r r' : Relation} {w w₀ w' : World}
  {ev : Event} {database : String}

/-- The handler works on relation `rid` only, leaves what the client wrote and
    withdraws nothing. -/
structure Advances (s s' : App) (rid : RelId) (r r' : Relation) : Prop where
  touches : Touches s s' rid r'
  endpoint : r'.endpoint = r.endpoint
  remote : r'.remote = r.remote
  diffData : r'.diffData = r.diffData
  published : r.published = true → r'.published = true

theorem Advances.refl (hr : s.relations.get? rid = some r) : Advances s s rid r r :=
  ⟨.refl hr, rfl, rfl, rfl, id⟩

theorem Advances.copies (ht : Touches s s' rid r') (hc : DbProvides.CopiesExtensions r r') :
    Advances s s' rid r r' :=
  ⟨ht, hc.endpoint, hc.remote, hc.diffData, fun hp => by rwa [published_copies hc]⟩

theorem published_updateDatabags (hleg : r.endpoint.legacy = true) {user password : String}
    (hu : user ≠ "") (hpw : password ≠ "") (hdb : database ≠ "") (u : UnitId) :
    (r.updateDatabags u true
      [("user", user), ("password", password), ("database", database)]).published = true := by
  rw [← credentialUpdates_legacy 0 hleg]
  exact published_of_update (r := r) 0 hu hpw hdb rfl rfl

theorem published_setCredentials (rid : RelId) (hleg : r.endpoint.legacy = false)
    {password : String} (hpw : password ≠ "") (hdb : database ≠ "") :
    (PgBouncerProvider.setCredentials (PgBouncerProvider.relationUser rid) password database
      r).published = true := by
  have hu : "user" ≠ "" := by decide
  refine published_of_update (r := r) rid hu hpw hdb rfl ?_
  unfold PgBouncerProvider.setCredentials credentialUpdates owner
  rw [userKey_of_client hleg, if_neg (by simp [hleg])]
  rfl

theorem joined_advances (lower : String → String) (h : Hook)
    (hr : s.relations.get? rid = some r) (hleg : r.endpoint.legacy = true) :
    ∃ r', Advances s (DbProvides.onRelationJoined lower h s rid r).app rid r r' ∧
      (h.unit = s.leader → (DbProvides.onRelationJoined lower h s rid r).outcome = .returned →
        r'.published = true) := by
  have he := DbProvides.joined_effect lower h s rid r
  generalize DbProvides.onRelationJoined lower h s rid r = res at he
  cases he with
  | follower hne => exact ⟨r, .refl hr, fun hu => absurd hu hne⟩
  | notReady _ _ => exact ⟨r, .refl hr, fun _ ho => by cases ho⟩
  | blocked _ _ _ hc => exact ⟨_, .copies (.put hr _) hc, fun _ ho => by cases ho⟩
  | noDatabase _ _ _ hc _ => exact ⟨_, .copies (.put hr _) hc, fun _ ho => by cases ho⟩
  | unsynced _ _ _ hc _ _ =>
    exact ⟨_, .copies ((Touches.put hr _).setDatabases _) hc, fun _ ho => by cases ho⟩
  | @served r'' database _ _ _ hc hdb _ =>
    have hpub := published_updateDatabags (r := r'') (by rw [hc.endpoint, hleg])
      (generateUsername_ne s rid) (joinPassword_ne h (r.unit h.unit))
      (Databag.ne_empty_of_get hdb) h.unit
    exact ⟨_, ⟨touches_publishAndCreate ((Touches.put hr _).setDatabases _) _ _ _, hc.endpoint,
      hc.remote, hc.diffData, fun _ => hpub⟩, fun _ _ => hpub⟩

theorem requested_advances (lower : String → String) (h : Hook)
    (hr : s.relations.get? rid = some r) (hleg : r.endpoint.legacy = false)
    (hdb : r.remote.get "database" = some database) :
    ∃ r', Advances s (PgBouncerProvider.onDatabaseRequested lower h s rid r database).app rid r r' ∧
      (h.unit = s.leader →
        (PgBouncerProvider.onDatabaseRequested lower h s rid r database).outcome = .returned →
        r'.published = true) := by
  have hpub := published_setCredentials rid hleg h.newPassword_ne
    (Databag.ne_empty_of_get hdb)
  have he := PgBouncerProvider.requested_effect lower h s rid r database
  generalize PgBouncerProvider.onDatabaseRequested lower h s rid r database = res at he
  cases he with
  | follower hne => exact ⟨r, .refl hr, fun hu => absurd hu hne⟩
  | notReady _ _ => exact ⟨r, .refl hr, fun _ ho => by cases ho⟩
  | unsynced _ _ _ _ =>
    exact ⟨r, ⟨(Touches.refl hr).setDatabases _, rfl, rfl, rfl, id⟩, fun _ ho => by cases ho⟩
  | served _ _ _ _ =>
    unfold PgBouncerProvider.createAndPublish
    simp only
    split_ifs
    · exact ⟨r, ⟨((Touches.refl hr).setDatabases _).setBackend _, rfl, rfl, rfl, id⟩,
        fun _ ho => by cases ho⟩
    · exact ⟨_, ⟨(((Touches.refl hr).setDatabases _).setBackend _).put_put _, rfl, rfl, rfl,
        fun _ => hpub⟩, fun _ _ => hpub⟩

theorem changed_advances (h : Hook) (hr : s.relations.get? rid = some r)
    (hleg : r.endpoint.legacy = true) :
    ∃ r', Advances s (DbProvides.onRelationChanged h s rid r).app rid r r' := by
  rcases DbProvides.changed_cases h s rid r with ⟨o, he⟩ | ⟨_, _, _, -, hu, hp, hd, he⟩
  · rw [he]
    exact ⟨r, .refl hr⟩
  · rw [he]
    have hpub := published_updateDatabags hleg (Databag.ne_empty_of_get hu)
      (Databag.ne_empty_of_get hp) (Databag.ne_empty_of_get hd) h.unit
    exact ⟨_, .put hr _, rfl, rfl, rfl, fun _ => hpub⟩

/-! ## Queues -/

/-- Pending events stay pending and marks stay. -/
structure Grows (w w' : World) : Prop where
  undelivered : ∀ u ev, ev ∈ w.undelivered u → ev ∈ w'.undelivered u
  deferred : ∀ u ev, ev ∈ w.deferred u → ev ∈ w'.deferred u
  blocked : ∀ x, w.blocked x = true → w'.blocked x = true

/-- Up to one event on unit `u`, pending events stay pending. -/
structure Forgets (w w' : World) (u : UnitId) (ev : Event) : Prop where
  undelivered : ∀ v ev', v ≠ u ∨ ev' ≠ ev → ev' ∈ w.undelivered v → ev' ∈ w'.undelivered v
  deferred : ∀ v ev', v ≠ u ∨ ev' ≠ ev → ev' ∈ w.deferred v → ev' ∈ w'.deferred v
  blocked : w'.blocked = w.blocked

theorem settle_app (h : Hook) (ev : Event) (rid : RelId) (w : World) (res : Result) :
    (settle h ev rid w res).app = res.app := by
  unfold settle
  cases res.outcome <;> rfl

theorem grows_settle (h : Hook) (ev : Event) (rid : RelId) (w : World) (res : Result) :
    Grows w (settle h ev rid w res) := by
  unfold settle
  cases res.outcome with
  | returned => exact ⟨fun _ _ => id, fun _ _ => id, fun _ => id⟩
  | deferred =>
    refine ⟨fun _ _ => id, fun u e he => ?_, fun _ => id⟩
    by_cases hu : u = h.unit
    · subst hu
      simp [he]
    · simp [hu, he]
  | blocked m =>
    refine ⟨fun _ _ => id, fun _ _ => id, fun x hx => ?_⟩
    by_cases hr : x = rid
    · simp [hr]
    · simp [hr, hx]

theorem mem_erase_update {q : UnitId → List Event} {u v : UnitId} {ev ev' : Event}
    (hne : v ≠ u ∨ ev' ≠ ev) (hm : ev' ∈ q v) :
    ev' ∈ Function.update q u ((q u).erase ev) v := by
  by_cases hv : v = u
  · subst hv
    rcases hne with hne | hne
    · exact absurd rfl hne
    · simpa using (List.mem_erase_of_ne hne).mpr hm
  · simpa [hv] using hm

theorem forgets_undelivered (w : World) (u : UnitId) (ev : Event) :
    Forgets w { w with
      undelivered := Function.update w.undelivered u ((w.undelivered u).erase ev) } u ev :=
  ⟨fun _ _ hne hm => mem_erase_update hne hm, fun _ _ _ => id, rfl⟩

theorem forgets_deferred (w : World) (u : UnitId) (ev : Event) :
    Forgets w { w with
      deferred := Function.update w.deferred u ((w.deferred u).erase ev) } u ev :=
  ⟨fun _ _ _ => id, fun _ _ hne hm => mem_erase_update hne hm, rfl⟩

/-- The event may be what relation `x` with data `q` is waiting for. -/
def Concerns (ev : Event) (x : RelId) (q : Relation) : Prop :=
  match ev with
  | .joined y => y = x ∧ q.endpoint.legacy = true
  | .changed y => y = x ∧ q.endpoint.legacy = false
  | .requested y => y = x ∧ q.endpoint.legacy = false

section Settled

variable {u v : UnitId} {x : RelId} {q q' : Relation}

theorem Settled.grow (hs : Settled w u x q) (hg : Grows w w') : Settled w' u x q := by
  rcases hs with hp | hb | hp
  · exact .inl hp
  · exact .inr (.inl (hg.blocked x hb))
  · refine .inr (.inr ?_)
    unfold Pending at hp ⊢
    split_ifs at hp ⊢
    · exact hp.imp (hg.undelivered u _) (hg.deferred u _)
    · exact hp.imp (hg.deferred u _) fun ⟨hm, hd⟩ => ⟨hg.undelivered u _ hm, hd⟩

theorem Settled.forget (hs : Settled w u x q) (hf : Forgets w w' v ev)
    (hne : u ≠ v ∨ ¬ Concerns ev x q) : Settled w' u x q := by
  rcases hs with hp | hb | hp
  · exact .inl hp
  · exact .inr (.inl (by rwa [hf.blocked]))
  · refine .inr (.inr ?_)
    have hkeep : ∀ ev', Concerns ev' x q → u ≠ v ∨ ev' ≠ ev := by
      intro ev' hc
      refine hne.imp id fun hn he => hn ?_
      rwa [← he]
    unfold Pending at hp ⊢
    split_ifs at hp ⊢ with hleg
    · have hj := hkeep (.joined x) ⟨rfl, hleg⟩
      exact hp.imp (hf.undelivered u _ hj) (hf.deferred u _ hj)
    · have hreq := hkeep (.requested x) ⟨rfl, by simpa using hleg⟩
      have hch := hkeep (.changed x) ⟨rfl, by simpa using hleg⟩
      exact hp.imp (hf.deferred u _ hreq) fun ⟨hm, hd⟩ => ⟨hf.undelivered u _ hch hm, hd⟩

theorem Settled.congr (hs : Settled w u x q) (hep : q'.endpoint = q.endpoint)
    (hdiff : q'.diffData = q.diffData) (hpub : q.published = true → q'.published = true) :
    Settled w u x q' := by
  unfold Settled Pending at hs ⊢
  rw [hep, hdiff]
  exact hs.imp hpub id

end Settled

/-- The event that has the request of the relation handled. -/
def requestEvent (rid : RelId) (r : Relation) : Event :=
  if r.endpoint.legacy then .joined rid else .requested rid

theorem settled_settle {res : Result} (hep : r'.endpoint = r.endpoint)
    (hret : res.outcome = .returned → r'.published = true) :
    Settled (settle h (requestEvent rid r) rid w res) h.unit rid r' := by
  unfold settle
  cases ho : res.outcome with
  | returned => exact .inl (hret ho)
  | blocked m => exact .inr (.inl (by simp))
  | deferred =>
    refine .inr (.inr ?_)
    unfold Pending requestEvent
    rw [hep]
    split_ifs
    · exact .inr (by simp)
    · exact .inl (by simp)

/-! ## The invariant -/

/-- The leader inherits all unfinished requests, the marker of a client relation
    is set only once its client has asked, and clients ask for databases. -/
structure Inv (w : World) : Prop where
  inherits : Inherits w w.app.leader
  marker : ∀ rid r, w.app.relations.get? rid = some r → r.endpoint.legacy = false →
    r.diffData.contains "database" = true → r.asked = true
  entity : ∀ rid r, w.app.relations.get? rid = some r →
    r.remote.contains "entity-type" = false

/-- A handler that works on one relation keeps the invariant if that relation
    and the queues of the others are in order. -/
theorem Inv.touch (hi : Inv w) (hr : w.app.relations.get? rid = some r)
    (ht : Touches w.app w'.app rid r') (hep : r'.endpoint = r.endpoint)
    (hremote : r'.remote = r.remote)
    (hmark : r'.diffData = r.diffData ∨ r'.diffData = r.remote)
    (hother : ∀ x q, x ≠ rid → Settled w w.app.leader x q → Settled w' w.app.leader x q)
    (hself : (r.endpoint.legacy = true ∨ r.asked = true) → Settled w w.app.leader rid r →
      Settled w' w.app.leader rid r') : Inv w' := by
  have hasked : r'.asked = r.asked := by rw [Relation.asked, hremote, Relation.asked]
  refine ⟨?_, ?_, ?_⟩
  · refine ht.forall_relations (fun hopen => ?_) fun x q hx hq hopen => ?_
    · rw [ht.leader]
      rw [hep, hasked] at hopen
      exact hself hopen (hi.inherits rid r hr hopen)
    · rw [ht.leader]
      exact hother x q hx (hi.inherits x q hq hopen)
  · refine ht.forall_relations (fun hleg hd => ?_) fun x q _ hq => hi.marker x q hq
    rw [hasked]
    rcases hmark with hm | hm
    · rw [hm] at hd
      exact hi.marker rid r hr (by rwa [← hep]) hd
    · rwa [hm] at hd
  · refine ht.forall_relations ?_ fun x q _ hq => hi.entity x q hq
    rw [hremote]
    exact hi.entity rid r hr

/-- The handler of a request, run for an event of the same relation. -/
theorem Inv.request {res : Result} (hi : Inv w) (hr : w.app.relations.get? rid = some r)
    (hf : Forgets w w₀ h.unit ev) (hev : ∀ x q, x ≠ rid → ¬ Concerns ev x q)
    (ht : Touches w.app res.app rid r') (hep : r'.endpoint = r.endpoint)
    (hremote : r'.remote = r.remote)
    (hmark : r'.diffData = r.diffData ∨ h.unit = w.app.leader ∧ r'.diffData = r.remote)
    (hpub : r.published = true → r'.published = true)
    (hret : h.unit = w.app.leader → res.outcome = .returned → r'.published = true) :
    Inv (settle h (requestEvent rid r) rid w₀ res) := by
  have hg := grows_settle h (requestEvent rid r) rid w₀ res
  refine hi.touch hr (by rwa [settle_app]) hep hremote (hmark.imp id And.right) ?_ ?_
  · exact fun x q hx hs => (hs.forget hf (.inr (hev x q hx))).grow hg
  · intro _ hs
    by_cases hu : h.unit = w.app.leader
    · rw [← hu]
      exact settled_settle hep (hret hu)
    · have hdiff := hmark.resolve_right fun hm => hu hm.1
      exact ((hs.forget hf (.inl (Ne.symm hu))).grow hg).congr hep hdiff hpub

/-- An event that is not what any relation waits for can go. -/
theorem Inv.forget (hi : Inv w) (hf : Forgets w w₀ h.unit ev) (happ : w₀.app = w.app)
    (hev : ∀ x q, w.app.relations.get? x = some q → (q.endpoint.legacy = true ∨ q.asked = true) →
      ¬ Concerns ev x q) : Inv w₀ := by
  refine ⟨fun x q hq hopen => ?_, fun x q hq => ?_, fun x q hq => ?_⟩
  · rw [happ] at hq ⊢
    exact (hi.inherits x q hq hopen).forget hf (.inr (hev x q hq hopen))
  · rw [happ] at hq
    exact hi.marker x q hq
  · rw [happ] at hq
    exact hi.entity x q hq

/-- An event of a relation that is gone can go. -/
theorem Inv.forget_of_none (hi : Inv w) (hf : Forgets w w₀ h.unit ev) (happ : w₀.app = w.app)
    (hr : w.app.relations.get? rid = none) (hev : ∀ x q, x ≠ rid → ¬ Concerns ev x q) : Inv w₀ := by
  refine hi.forget hf happ fun x q hq _ => hev x q ?_
  rintro rfl
  rw [hr] at hq
  cases hq

theorem Inv.joined (hi : Inv w) (hf : Forgets w w₀ h.unit (.joined rid)) (happ : w₀.app = w.app) :
    Inv (handle lower h w₀ (.joined rid)) := by
  simp only [handle, happ]
  cases hr : w.app.relations.get? rid with
  | none => exact hi.forget_of_none hf happ hr fun x q hx hc => hx hc.1.symm
  | some r =>
    by_cases hleg : r.endpoint.legacy = true
    · simp only [hleg, if_true]
      obtain ⟨r', ha, hret⟩ := joined_advances lower h hr hleg
      rw [show Event.joined rid = requestEvent rid r by rw [requestEvent, if_pos hleg]]
      exact hi.request hr hf (fun x q hx hc => hx hc.1.symm) ha.touches ha.endpoint ha.remote
        (.inl ha.diffData) ha.published hret
    · simp only [hleg]
      refine hi.forget hf happ ?_
      rintro x q hq - ⟨rfl, hq'⟩
      obtain rfl : r = q := by simpa [hr] using hq
      exact hleg hq'

/-- The emission of `database_requested` for a relation whose client has asked. -/
theorem Inv.emit {r₁ : Relation} (hi : Inv w) (hr : w.app.relations.get? rid = some r)
    (hleg : r.endpoint.legacy = false) (hf : Forgets w w₀ h.unit ev)
    (hev : ∀ x q, x ≠ rid → ¬ Concerns ev x q) (ht : Touches w.app w₀.app rid r₁)
    (hep : r₁.endpoint = r.endpoint) (hremote : r₁.remote = r.remote)
    (hmark : r₁.diffData = r.diffData ∨ h.unit = w.app.leader ∧ r₁.diffData = r.remote)
    (hpub : r.published = true → r₁.published = true)
    (hdb : r.remote.get "database" = some database) :
    Inv (emitRequested lower h w₀ rid r₁) := by
  have hleg₁ : r₁.endpoint.legacy = false := by rw [hep, hleg]
  have hdb₁ : r₁.remote.get "database" = some database := by rw [hremote, hdb]
  obtain ⟨r', ha, hret⟩ := requested_advances lower h ht.self hleg₁ hdb₁
  unfold emitRequested
  simp only [hdb₁]
  rw [show Event.requested rid = requestEvent rid r by rw [requestEvent, if_neg (by simp [hleg])]]
  rw [ht.leader] at hret
  exact hi.request hr hf hev (ht.trans ha.touches) (ha.endpoint.trans hep)
    (ha.remote.trans hremote) (by rwa [ha.diffData]) (fun hp => ha.published (hpub hp)) hret

theorem Inv.requested (hi : Inv w) (hf : Forgets w w₀ h.unit (.requested rid))
    (happ : w₀.app = w.app) : Inv (handle lower h w₀ (.requested rid)) := by
  simp only [handle, happ]
  cases hr : w.app.relations.get? rid with
  | none => exact hi.forget_of_none hf happ hr fun x q hx hc => hx hc.1.symm
  | some r =>
    by_cases hleg : r.endpoint.legacy = true
    · simp only [if_pos hleg]
      refine hi.forget hf happ ?_
      rintro x q hq - ⟨rfl, hq'⟩
      obtain rfl : r = q := by simpa [hr] using hq
      rw [hleg] at hq'
      cases hq'
    · simp only [if_neg hleg]
      have hleg : r.endpoint.legacy = false := by simpa using hleg
      cases hdb : r.remote.get "database" with
      | some database =>
        exact hi.emit hr hleg hf (fun x q hx hc => hx hc.1.symm) (by rw [happ]; exact .refl hr)
          rfl rfl (.inl rfl) id hdb
      | none =>
        unfold emitRequested
        simp only [hdb]
        refine hi.forget hf happ ?_
        rintro x q hq hopen ⟨rfl, -⟩
        obtain rfl : r = q := by simpa [hr] using hq
        simp [hleg, Relation.asked, Databag.contains, hdb] at hopen

theorem Inv.changed (hi : Inv w) (hf : Forgets w w₀ h.unit (.changed rid))
    (happ : w₀.app = w.app) : Inv (handle lower h w₀ (.changed rid)) := by
  have hev : ∀ x q, x ≠ rid → ¬ Concerns (.changed rid) x q := fun x q hx hc => hx hc.1.symm
  simp only [handle, happ]
  cases hr : w.app.relations.get? rid with
  | none => exact hi.forget_of_none hf happ hr fun x q hx hc => hx hc.1.symm
  | some r =>
    by_cases hleg : r.endpoint.legacy = true
    · simp only [if_pos hleg]
      obtain ⟨r', ha⟩ := changed_advances h hr hleg
      have hg := grows_settle h (.changed rid) rid w₀ (DbProvides.onRelationChanged h w.app rid r)
      refine hi.touch hr (by rw [settle_app]; exact ha.touches) ha.endpoint ha.remote
        (.inl ha.diffData) (fun x q hx hs => (hs.forget hf (.inr (hev x q hx))).grow hg) ?_
      intro _ hs
      have hnot : ¬ Concerns (.changed rid) rid r := fun hc => by
        rw [Concerns, hleg] at hc
        cases hc.2
      exact ((hs.forget hf (.inr hnot)).grow hg).congr ha.endpoint ha.diffData ha.published
    · simp only [if_neg hleg]
      have hleg : r.endpoint.legacy = false := by simpa using hleg
      by_cases hu : h.unit = w.app.leader
      · have he : PgBouncerProvider.onRelationChangedEvent w.app h.unit r =
            ({ r with diffData := r.remote }, PgBouncerProvider.added r "database" &&
              !PgBouncerProvider.added r "entity-type") := if_neg (not_not.mpr hu)
        simp only [he]
        have hput := Touches.put hr { r with diffData := r.remote }
        have hf' : Forgets w
            { w₀ with app := w.app.putRelation rid { r with diffData := r.remote } }
            h.unit (.changed rid) := ⟨hf.undelivered, hf.deferred, hf.blocked⟩
        split_ifs with hem
        · simp only [PgBouncerProvider.added, Bool.and_eq_true] at hem
          obtain ⟨database, hdb⟩ := Option.isSome_iff_exists.mp hem.1.1
          exact hi.emit hr hleg hf' hev hput rfl rfl (.inr ⟨hu, rfl⟩) id hdb
        · -- nothing is emitted: the marker was set before, or the client has not asked
          refine hi.touch hr hput rfl rfl (.inr rfl)
            (fun x q hx hs => hs.forget hf' (.inr (hev x q hx))) fun hopen hs => ?_
          have hasked : r.remote.contains "database" = true := by
            simpa [hleg, Relation.asked] using hopen
          have hset : r.diffData.contains "database" = true := by
            simpa [PgBouncerProvider.added, hasked, hi.entity rid r hr] using hem
          rcases hs with hp | hb | hp
          · exact .inl hp
          · exact .inr (.inl (by rwa [← hf.blocked] at hb))
          · refine .inr (.inr ?_)
            simp only [Pending, hleg, Bool.false_eq_true, if_false, hset, Bool.true_eq_false,
              and_false, or_false] at hp ⊢
            exact .inl (hf.deferred _ _ (.inr (by simp)) hp)
      · have he : PgBouncerProvider.onRelationChangedEvent w.app h.unit r = (r, false) := if_pos hu
        simp only [he]
        refine hi.touch hr (Touches.put hr r) rfl rfl (.inl rfl)
          (fun x q hx hs => hs.forget ⟨hf.undelivered, hf.deferred, hf.blocked⟩ (.inr (hev x q hx)))
          fun _ hs => hs.forget ⟨hf.undelivered, hf.deferred, hf.blocked⟩ (.inl (Ne.symm hu))

theorem Inv.handle (hi : Inv w) (hf : Forgets w w₀ h.unit ev) (happ : w₀.app = w.app) :
    Inv (handle lower h w₀ ev) := by
  cases ev with
  | joined rid => exact hi.joined hf happ
  | changed rid => exact hi.changed hf happ
  | requested rid => exact hi.requested hf happ

/-! ## Runs -/

theorem grows_notify (w : World) (ev : Event) (s : App) :
    Grows w (World.notify { w with app := s } ev) :=
  ⟨fun _ _ he => List.mem_append_left _ he, fun _ _ he => he, fun _ hx => hx⟩

theorem mem_notify (w : World) (ev : Event) (u : UnitId) : ev ∈ (w.notify ev).undelivered u :=
  List.mem_append_right _ (List.mem_singleton.mpr rfl)

theorem Inv.relate {ep : Endpoint} (hi : Inv w) :
    Inv (World.notify
      { w with app := { w.app with relations := w.app.relations.set rid (Relation.new ep) } }
      (.joined rid)) := by
  have hempty : ∀ k, Databag.empty.contains k = false := fun _ => rfl
  refine ⟨?_, ?_, ?_⟩
  · refine Dict.forall_get?_set (fun hopen => .inr (.inr ?_)) fun x q _ hq hopen => ?_
    · have hleg : (Relation.new ep).endpoint.legacy = true :=
        hopen.resolve_right (by simp [Relation.asked, Relation.new, hempty])
      rw [Pending, if_pos hleg]
      exact .inl (mem_notify _ _ _)
    · exact (hi.inherits x q hq hopen).grow (grows_notify w _ _)
  · refine Dict.forall_get?_set (fun _ hd => ?_) fun x q _ hq => hi.marker x q hq
    simp [Relation.new, hempty] at hd
  · refine Dict.forall_get?_set ?_ fun x q _ hq => hi.entity x q hq
    simp [Relation.new, hempty]

theorem Inv.write {data : Databag} (hi : Inv w) (hr : w.app.relations.get? rid = some r)
    (hkeep : r.asked = true → data.get "database" = r.remote.get "database")
    (hdata : data.contains "entity-type" = false) :
    Inv (World.notify { w with app := w.app.putRelation rid { r with remote := data } }
      (.changed rid)) := by
  have hg := grows_notify w (.changed rid) (w.app.putRelation rid { r with remote := data })
  have hasked : r.asked = true → data.contains "database" = true := by
    intro ha
    rw [Databag.contains, hkeep ha]
    exact ha
  have ht := Touches.put hr { r with remote := data }
  refine ⟨?_, ?_, ?_⟩
  · refine ht.forall_relations (fun _ => ?_) fun x q _ hq hopen =>
      (hi.inherits x q hq hopen).grow hg
    by_cases hold : r.endpoint.legacy = true ∨ r.asked = true
    · exact ((hi.inherits rid r hr hold).grow hg).congr rfl rfl id
    · -- the client asks now, so the marker is not set yet
      obtain ⟨hleg, hnot⟩ := not_or.mp hold
      refine .inr (.inr ?_)
      rw [Pending, if_neg hleg]
      refine .inr ⟨mem_notify _ _ _, ?_⟩
      by_contra hd
      exact hnot (hi.marker rid r hr (by simpa using hleg) (by simpa using hd))
  · refine ht.forall_relations (fun hleg hd => ?_) fun x q _ hq => hi.marker x q hq
    exact hasked (hi.marker rid r hr hleg hd)
  · exact ht.forall_relations hdata fun x q _ hq => hi.entity x q hq

theorem inv_step (lower : String → String) {a : Action} (hi : Inv w)
    (hg : InheritedElections w a) (ha : step lower w a = some w') : Inv w' := by
  cases a with
  | relate rid ep =>
    simp only [step] at ha
    by_cases hc : w.app.relations.contains rid = true
    · rw [if_pos hc] at ha
      cases ha
    · rw [if_neg hc] at ha
      cases ha
      exact hi.relate
  | remoteJoin rid =>
    simp only [step] at ha
    split_ifs at ha
    cases ha
    have hgrow := grows_notify w (.joined rid) w.app
    exact ⟨fun x q hq hopen => (hi.inherits x q hq hopen).grow hgrow, hi.marker, hi.entity⟩
  | write rid data =>
    simp only [step, Option.bind_eq_some_iff] at ha
    obtain ⟨r, hr, ha⟩ := ha
    split_ifs at ha with hw
    cases ha
    obtain ⟨hkeep, hdata⟩ := not_or.mp hw
    rw [not_and, not_not] at hkeep
    exact hi.write hr hkeep (by simpa using hdata)
  | elect u =>
    cases ha
    exact ⟨fun x q hq hopen => hg x q hq hopen, hi.marker, hi.entity⟩
  | deliver h ev =>
    simp only [step] at ha
    split_ifs at ha
    cases ha
    exact hi.handle (forgets_undelivered w h.unit ev) rfl
  | reemit h ev =>
    simp only [step] at ha
    split_ifs at ha
    cases ha
    exact hi.handle (forgets_deferred w h.unit ev) rfl

theorem inv_of_reach (hw : (machine lower).Reach InheritedElections w) : Inv w := by
  refine hw.invariant (I := Inv) (fun w hw => ?_) fun w a w' _ hi hg ha => inv_step lower hi hg ha
  exact ⟨forall_of_empty hw.1, forall_of_empty hw.1, forall_of_empty hw.1⟩

/-- In every run in which leadership passes only to units that inherit all
    unfinished requests, no request is dropped, whatever is deferred. -/
theorem noRequestDropped_of_reach (hw : (machine lower).Reach InheritedElections w) :
    NoRequestDropped w :=
  fun rid r hr hasked => (inv_of_reach hw).inherits rid r hr (.inr hasked)

/-! ## Two runs -/

/-- Nothing has happened yet. -/
def sampleWorld : World := ⟨sampleApp, fun _ => [], fun _ => [], fun _ => false⟩

/-- A hook on unit `u` while the backend is not ready. -/
def waitingHook (u : UnitId) : Hook := { sampleHook u with ready := false }

/-- A client asks, both units see it, the leader defers because the backend is
    not ready, and unit 1 becomes leader. -/
def takeoverTrace : List Action :=
  [.relate 1 .database, .write 1 (asking "a"), .deliver (waitingHook 0) (.changed 1),
    .deliver (sampleHook 1) (.changed 1), .elect 1]

/-- The request is not published, not blocked, and pending on unit 0 only. -/
theorem request_dropped :
    ∃ w r, (machine Text.asciiLower).Reach Machine.always w ∧ w.app.leader = 1 ∧
      w.app.relations.get? 1 = some r ∧ r.asked = true ∧ ¬ Settled w 1 1 r ∧
      ¬ NoRequestDropped w := by
  obtain ⟨w, hw, hp⟩ := Machine.exists_reach_of_exec (machine Text.asciiLower)
    Machine.always sampleWorld takeoverTrace
    (fun w => w.app.leader == 1 && !w.blocked 1 && w.deferred 1 == [] &&
      w.undelivered 1 == [.joined 1] && (w.app.relations.get? 1).any fun r =>
        r.asked && !r.published && !r.endpoint.legacy) ⟨rfl, rfl, rfl, rfl⟩ (by decide)
  simp only [Bool.and_eq_true, Option.any_eq_true, beq_iff_eq, Bool.not_eq_true'] at hp
  obtain ⟨⟨⟨⟨hlead, hblocked⟩, hdef⟩, hund⟩, r, hr, ⟨hasked, hpub⟩, hleg⟩ := hp
  have hnot : ¬ Settled w 1 1 r := by
    rintro (hp | hb | hp)
    · rw [hpub] at hp
      cases hp
    · rw [hblocked] at hb
      cases hb
    · rw [Pending, if_neg (by simp [hleg]), hdef, hund] at hp
      simp at hp
  refine ⟨w, r, hw, hlead, hr, hasked, hnot, fun hn => hnot ?_⟩
  have := hn 1 r hr hasked
  rwa [hlead] at this

/-- The same client with unit 0 staying in charge. -/
theorem request_kept :
    ∃ w, (machine Text.asciiLower).Reach InheritedElections w ∧
      (w.deferred 0 = [.requested 1]) ∧ NoRequestDropped w := by
  have h₀ : (machine Text.asciiLower).Reach InheritedElections sampleWorld :=
    .init ⟨rfl, rfl, rfl, rfl⟩
  have h₁ := Machine.Reach.step (a := Action.relate 1 .database) h₀ trivial rfl
  have h₂ := Machine.Reach.step (a := Action.write 1 (asking "a")) h₁ trivial rfl
  have h₃ := Machine.Reach.step (a := Action.deliver (waitingHook 0) (.changed 1)) h₂ trivial rfl
  exact ⟨_, h₃, by decide, noRequestDropped_of_reach h₃⟩

end Delivery

end PgBouncerK8s
