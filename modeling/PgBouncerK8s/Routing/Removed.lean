import PgBouncerK8s.Routing.Emitted
import PgBouncerK8s.Routing.Injection

/-!
# What a removed relation leaves in the files

The leader's `relation-broken` changes the stored map and renders nothing. The
files follow at the next `peer-changed` (`relations/peers.py`, lines 116–142):
the new map is a change for every other unit, and a unit that writes a new
acknowledgement is a change for every unit but itself. So the leader renders
only if some follower's acknowledgement changes.

* `settled_names`: what the files list when no hook is left.
* `exists_settled`: the hooks come to an end.
* `traceless_iff`: when no file has a name of the removed database.
* `trace_on_single_unit`: in a deployment of one unit nothing renders.
-/

namespace PgBouncerK8s

open Text (str)

namespace Removed

/-! ## Model -/

/-- What a unit writes to its own peer databag: `private-address` and `pgb_dbs`,
    where the hash is the map it was taken of. -/
structure PeerData where
  address : Option String
  pgbDbs : Option Dbs
  deriving DecidableEq

/-- The deployment. `names u` are the names of the `[databases]` section of the
    file on unit `u`, and `pending u` says that `u` is yet to run
    `peer-changed`. -/
structure World where
  app : App
  units : List UnitId
  hostname : UnitId → String
  shared : Shared
  configValid : Bool
  names : UnitId → List String
  peer : UnitId → PeerData
  pending : UnitId → Bool

/-- An order in which Python iterates the sets of one process. -/
structure SetOrder where
  iter : List String → List String
  perm : IsSetOrder iter

/-- A write of unit `u` to a peer databag is a change for the others. -/
def World.changedBy (w : World) (u : UnitId) : World :=
  { w with pending := fun v => w.pending v || decide (v ≠ u) }

/-- `relation-broken` of relation `rid` on the leader, after which the relation
    is gone; `none` where there is no such relation or the handler raises. -/
def onBroken (h : Hook) (w : World) (rid : RelId) : Option World :=
  let u := w.app.leader
  (w.app.relations.get? rid).bind fun r =>
    (Setup.onBroken { h with unit := u } w.app rid r).map fun res =>
      let app : App := { res.app with relations := res.app.relations.erase rid }
      let flag := departFlag r.endpoint rid
      if app.pgbDbsConfig = w.app.pgbDbsConfig ∧
          (app.peerUnit u).get flag = (w.app.peerUnit u).get flag then
        { w with app := app }
      else ({ w with app := app } : World).changedBy u

/-- `render_pgb_config` on unit `u`; `none` where it raises. -/
def World.renderPgbConfig (w : World) (o : SetOrder) (u : UnitId) : Option World :=
  if !w.configValid then some w
  else
    (Injection.sectionNames o.iter w.shared (getRelationDatabases w.app u)).map fun names =>
      { w with names := Function.update w.names u names }

/-- What unit `u` writes in `Peers._on_changed`. -/
def World.acknowledgement (w : World) (u : UnitId) : PeerData :=
  ⟨some (w.hostname u), some w.app.databases⟩

/-- The acknowledgement is a change only if it differs from the stored one. -/
def World.acknowledge (w : World) (u : UnitId) : World :=
  if w.peer u = w.acknowledgement u then w
  else ({ w with peer := Function.update w.peer u (w.acknowledgement u) } : World).changedBy u

/-- `Peers._on_changed` on unit `u`, whose container is ready; `none` where it
    raises. -/
def onPeerChanged (w : World) (o : SetOrder) (u : UnitId) : Option World :=
  (w.renderPgbConfig o u).map fun w => w.acknowledge u

/-- A pending unit runs its hook. -/
def machine : Machine World (SetOrder × UnitId) where
  init _ := True
  step w a :=
    if a.2 ∈ w.units ∧ w.pending a.2 = true then
      onPeerChanged { w with pending := Function.update w.pending a.2 false } a.1 a.2
    else none

/-- No hook is left. -/
def Settled (w : World) : Prop := ∀ u ∈ w.units, w.pending u = false

/-! ## The names of a file -/

section Names

variable {iter : List String → List String} {sh : Shared} {dbs : Dbs} {names : List String}
  {n : String}

/-- The files rendered from the map list the name `n`: as a database or alias,
    as the wildcard, or as a listed database beside it. -/
def Emits (sh : Shared) (dbs : Dbs) (n : String) : Prop :=
  ¬ Unused sh.backend dbs ∧
    ((∃ d ∈ dbs.values, d.name ≠ "*" ∧ (n = d.name ∨ n ∈ d.aliases)) ∨
      dbs.contains "*" = true ∧ (n = "*" ∨ readOnlyHosts sh.backend.readOnlySet ≠ "" ∧
        ∃ listed ∈ sh.readonlyDbs.getD [], n = listed ++ "_readonly"))

theorem exists_mem_routes_iff (d : DbEntry) (n : String) :
    (∃ route, (n, route) ∈ d.routes) ↔ d.name ≠ "*" ∧ (n = d.name ∨ n ∈ d.aliases) := by
  unfold DbEntry.routes
  by_cases hname : d.name = "*"
  · simp [hname]
  · simp only [hname, if_false, List.mem_cons, List.mem_map, Prod.mk.injEq, ne_eq,
      not_false_eq_true, true_and]
    constructor
    · rintro ⟨route, ⟨rfl, -⟩ | ⟨m, hm, rfl, -⟩⟩
      · exact .inl rfl
      · exact .inr hm
    · rintro (rfl | hm)
      · exact ⟨_, .inl ⟨rfl, rfl⟩⟩
      · exact ⟨_, .inr ⟨n, hm, rfl, rfl⟩⟩

theorem mem_keys_routes_iff (dbs : Dbs) (n : String) :
    n ∈ (routes dbs).keys ↔
      (∃ d ∈ dbs.values, d.name ≠ "*" ∧ (n = d.name ∨ n ∈ d.aliases)) ∨
        dbs.contains "*" = true ∧ n = "*" := by
  have hwrites : (Dict.empty.setAll (dbs.values.flatMap DbEntry.routes)).contains n = true ↔
      ∃ d ∈ dbs.values, d.name ≠ "*" ∧ (n = d.name ∨ n ∈ d.aliases) := by
    rw [Dict.contains_setAll_empty]
    simp only [List.mem_flatMap, ← exists_mem_routes_iff]
    exact ⟨fun ⟨v, d, hd, hv⟩ => ⟨d, hd, v, hv⟩, fun ⟨d, hd, v, hv⟩ => ⟨v, d, hd, hv⟩⟩
  rw [Emitted.mem_keys_iff, ← hwrites]
  unfold routes Dict.contains
  cases dbs.get? "*" with
  | none => simp
  | some d =>
    by_cases hn : n = "*"
    · simp [hn]
    · simp [hn, Dict.get?_set_of_ne]

theorem mem_keys_readonly_iff {databases readonlyDatabases : Dict String PgbDb}
    {star : Option PgbDb} (hi : IsSetOrder iter) (hrel : sh.backend.related = true)
    (hstar : databases.get? "*" = star)
    (h : getReadonlyDbs iter sh.backend sh.readonlyDbs databases = some readonlyDatabases) :
    n ∈ readonlyDatabases.keys ↔ star.isSome = true ∧
      readOnlyHosts sh.backend.readOnlySet ≠ "" ∧
        ∃ listed ∈ sh.readonlyDbs.getD [], n = listed ++ "_readonly" := by
  cases star with
  | none =>
    rw [getReadonlyDbs_of_no_star _ _ _ hstar, Option.some_inj] at h
    subst h
    simp [Dict.keys, Dict.empty]
  | some d =>
    rw [getReadonlyDbs_eq hrel iter _ _ hstar, getReadOnlyEndpoints_eq hi,
      readOnlyHosts_perm (hi _)] at h
    split_ifs at h with hh
    · rw [Option.some_inj] at h
      subst h
      simp [hh, Dict.keys, Dict.empty]
    · obtain ⟨rPort, -, rfl⟩ := Option.map_eq_some_iff.mp h
      rw [Emitted.keys_mapValues, Emitted.mem_readonlyNames_iff]
      simp [hh]

/-- What the names of a file are. -/
theorem mem_sectionNames_iff (hi : IsSetOrder iter)
    (h : Injection.sectionNames iter sh dbs = some names) : n ∈ names ↔ Emits sh dbs n := by
  obtain ⟨databases, hcfg, h⟩ := Option.bind_eq_some_iff.mp h
  obtain ⟨readonlyDatabases, hro, rfl⟩ := Option.map_eq_some_iff.mp h
  unfold Emits
  by_cases hu : Unused sh.backend dbs
  · obtain ⟨rfl, rfl⟩ := sections_of_unused hu hcfg hro
    simp [hu, Dict.keys, Dict.empty]
  · obtain ⟨host, port, hreads⟩ := reads_of_relationConfig hu hcfg
    rw [getRelationConfig_of_reads hreads] at hcfg
    obtain ⟨r, -, rfl⟩ := Option.map_eq_some_iff.mp hcfg
    have hstar : ((routes dbs).mapValues
        (Route.toDb ⟨host, port, r.1, sh.backend.authUser⟩ r.2)).get? "*" = _ :=
      get?_star_mapValues _
    have hreadonly := mem_keys_readonly_iff hi hreads.related hstar hro (n := n)
    rw [Option.isSome_map] at hreadonly
    rw [List.mem_append, Emitted.keys_mapValues, mem_keys_routes_iff, hreadonly, and_iff_right hu,
      or_assoc, Dict.contains, and_or_left]

end Names

/-! ## One hook -/

section Step

variable {w w' : World} {o : SetOrder} {u v : UnitId} {names : UnitId → List String}

/-- The next `peer-changed` changes the databag of the unit. -/
def Behind (w : World) (u : UnitId) : Prop := w.peer u ≠ w.acknowledgement u

instance (w : World) (u : UnitId) : Decidable (Behind w u) :=
  inferInstanceAs (Decidable (w.peer u ≠ w.acknowledgement u))

/-- The deployment once unit `u` has run its hook, with these names. -/
def World.after (w : World) (u : UnitId) (names : UnitId → List String) : World :=
  { w with
    names := names
    peer := Function.update w.peer u (w.acknowledgement u)
    pending := fun v => decide (v ≠ u) && (w.pending v || decide (Behind w u)) }

@[simp] theorem after_app : (w.after u names).app = w.app := rfl

@[simp] theorem after_units : (w.after u names).units = w.units := rfl

@[simp] theorem after_shared : (w.after u names).shared = w.shared := rfl

@[simp] theorem after_configValid : (w.after u names).configValid = w.configValid := rfl

@[simp] theorem after_names : (w.after u names).names = names := rfl

@[simp] theorem after_pending : (w.after u names).pending v = true ↔
    v ≠ u ∧ (w.pending v = true ∨ Behind w u) := by
  simp [World.after]

theorem behind_after : Behind (w.after u names) v ↔ v ≠ u ∧ Behind w v := by
  unfold Behind
  change Function.update w.peer u (w.acknowledgement u) v ≠ w.acknowledgement v ↔ _
  by_cases hv : v = u
  · subst hv
    simp
  · simp [hv, Function.update_of_ne]

theorem acknowledge_eq (w : World) (u : UnitId) (names : UnitId → List String) :
    ({ w with names := names, pending := Function.update w.pending u false } :
      World).acknowledge u = w.after u names := by
  have hpending : ∀ b : Bool, (b = true ↔ Behind w u) →
      (fun v => Function.update w.pending u false v || (b && decide (v ≠ u))) =
        fun v => decide (v ≠ u) && (w.pending v || decide (Behind w u)) := by
    intro b hb
    funext v
    by_cases hv : v = u
    · subst hv
      simp
    · simp [hv, ← hb]
  change (if w.peer u = w.acknowledgement u then _ else _) = _
  unfold World.after
  by_cases hb : Behind w u
  · rw [if_neg hb, ← hpending true (by simp [hb])]
    rfl
  · have hack : w.peer u = w.acknowledgement u := not_not.mp hb
    rw [if_pos hack, ← hpending false (by simp [hb]), ← hack, Function.update_eq_self]
    simp only [Bool.false_and, Bool.or_false]

theorem renderPgbConfig_cases (h : w.renderPgbConfig o u = some w') :
    w.configValid = false ∧ w' = w ∨ w.configValid = true ∧ ∃ l,
      Injection.sectionNames o.iter w.shared (getRelationDatabases w.app u) = some l ∧
        w' = { w with names := Function.update w.names u l } := by
  unfold World.renderPgbConfig at h
  by_cases hc : w.configValid = true
  · rw [if_neg (by simp [hc]), Option.map_eq_some_iff] at h
    obtain ⟨l, hl, rfl⟩ := h
    exact .inr ⟨hc, l, hl, rfl⟩
  · rw [if_pos (by simp [hc]), Option.some_inj] at h
    exact .inl ⟨Bool.eq_false_iff.mpr hc, h.symm⟩

/-- What a unit does in its hook: it renders, if the configuration is valid, and
    acknowledges the map. -/
theorem step_cases (h : machine.step w (o, u) = some w') :
    u ∈ w.units ∧ w.pending u = true ∧
      (w.configValid = false ∧ w' = w.after u w.names ∨
        w.configValid = true ∧ ∃ l, Injection.sectionNames o.iter w.shared
          (getRelationDatabases w.app u) = some l ∧
            w' = w.after u (Function.update w.names u l)) := by
  simp only [machine, Option.ite_none_right_eq_some] at h
  obtain ⟨⟨hu, hp⟩, h⟩ := h
  obtain ⟨t, ht, rfl⟩ := Option.map_eq_some_iff.mp h
  refine ⟨hu, hp, ?_⟩
  rcases renderPgbConfig_cases ht with ⟨hc, rfl⟩ | ⟨hc, l, hl, rfl⟩
  · exact .inl ⟨hc, acknowledge_eq w u w.names⟩
  · exact .inr ⟨hc, l, hl, acknowledge_eq w u _⟩

/-- The file of a unit lists what the stored map gives; with an invalid
    configuration no file is rendered. -/
def Current (w : World) (u : UnitId) : Prop :=
  w.configValid = true → ∀ n, n ∈ w.names u ↔ Emits w.shared w.app.databases n

theorem step_effect (hs : w.app.pgbDbsConfig.isSome = true)
    (h : machine.step w (o, u) = some w') :
    u ∈ w.units ∧ w.pending u = true ∧ ∃ names, w' = w.after u names ∧
      (w.configValid = false → names = w.names) ∧ (∀ v, v ≠ u → names v = w.names v) ∧
        Current (w.after u names) u := by
  obtain ⟨hu, hp, ⟨hc, rfl⟩ | ⟨hc, l, hl, rfl⟩⟩ := step_cases h
  · refine ⟨hu, hp, w.names, rfl, fun _ => rfl, fun _ _ => rfl, fun hc' => ?_⟩
    rw [after_configValid, hc] at hc'
    cases hc'
  · refine ⟨hu, hp, _, rfl, fun hc' => ?_, fun v hv => Function.update_of_ne hv _ _, fun _ n => ?_⟩
    · rw [hc] at hc'
      cases hc'
    · have hdbs : getRelationDatabases w.app u = w.app.databases := by
        obtain ⟨dbs, hdbs⟩ := Option.isSome_iff_exists.mp hs
        simp [getRelationDatabases, App.databases, hdbs]
      rw [hdbs] at hl
      rw [after_names, Function.update_self]
      exact mem_sectionNames_iff o.perm hl

end Step

/-! ## All hooks -/

section Run

variable {w w' : World} {a : SetOrder × UnitId} {names₀ : UnitId → List String} {stir : Prop}

/-- The invariant of the hooks behind one change of the map. `names₀` are the
    names before, and `stir` says whether some follower's acknowledgement was
    of another map. -/
structure Inv (names₀ : UnitId → List String) (stir : Prop) (w : World) : Prop where
  stored : w.app.pgbDbsConfig.isSome = true
  invalid : w.configValid = false → w.names = names₀
  follower : ∀ u ∈ w.units, u ≠ w.app.leader → w.pending u = true ∨ Current w u
  calm : ¬ stir → w.pending w.app.leader = false ∧ w.names w.app.leader = names₀ w.app.leader ∧
    ∀ u ∈ w.units, u ≠ w.app.leader → ¬ Behind w u
  stirred : stir → (∃ u ∈ w.units, u ≠ w.app.leader ∧ w.pending u = true ∧ Behind w u) ∨
    w.pending w.app.leader = true ∨ Current w w.app.leader

theorem inv_step (hi : Inv names₀ stir w) (h : machine.step w a = some w') :
    Inv names₀ stir w' := by
  obtain ⟨o, u⟩ := a
  obtain ⟨hu, hp, names, rfl, hsame, hothers, hcurrent⟩ := step_effect hi.stored h
  have hkeep : ∀ v, Current w v → Current (w.after u names) v := by
    intro v hv
    by_cases hvu : v = u
    · rwa [hvu]
    · intro hc n
      rw [after_names, hothers v hvu]
      exact hv hc n
  refine ⟨hi.stored, fun hc => (hsame hc).trans (hi.invalid hc), fun v hv hl => ?_, fun hs => ?_,
    fun hs => ?_⟩
  · by_cases hvu : v = u
    · rw [hvu]
      exact .inr hcurrent
    · rcases hi.follower v hv hl with hpv | hcv
      · exact .inl (after_pending.mpr ⟨hvu, .inl hpv⟩)
      · exact .inr (hkeep v hcv)
  · obtain ⟨hpl, hnl, hb⟩ := hi.calm hs
    have hul : u ≠ w.app.leader := by
      rintro rfl
      rw [hpl] at hp
      cases hp
    refine ⟨?_, (hothers _ hul.symm).trans hnl, fun v hv hvl hbv =>
      hb v hv hvl (behind_after.mp hbv).2⟩
    rw [after_app, ← Bool.not_eq_true, after_pending]
    rintro ⟨-, hpl' | hbu⟩
    · rw [hpl] at hpl'
      cases hpl'
    · exact hb u hu hul hbu
  · by_cases hul : u = w.app.leader
    · exact .inr (.inr (by rw [after_app, ← hul]; exact hcurrent))
    · rcases hi.stirred hs with ⟨v, hv, hvl, hpv, hbv⟩ | hpl | hcl
      · by_cases hvu : v = u
        · exact .inr (.inl (after_pending.mpr ⟨Ne.symm hul, .inr (hvu ▸ hbv)⟩))
        · exact .inl ⟨v, hv, hvl, after_pending.mpr ⟨hvu, .inl hpv⟩, behind_after.mpr ⟨hvu, hbv⟩⟩
      · exact .inr (.inl (after_pending.mpr ⟨Ne.symm hul, .inl hpl⟩))
      · exact .inr (.inr (hkeep _ hcl))

/-- No hook changes what all units share. -/
structure SameDeployment (w w' : World) : Prop where
  app : w'.app = w.app
  units : w'.units = w.units
  shared : w'.shared = w.shared
  configValid : w'.configValid = w.configValid

theorem sameDeployment_step (h : machine.step w a = some w') : SameDeployment w w' := by
  obtain ⟨o, u⟩ := a
  obtain ⟨-, -, ⟨-, rfl⟩ | ⟨-, l, -, rfl⟩⟩ := step_cases h
  · exact ⟨rfl, rfl, rfl, rfl⟩
  · exact ⟨rfl, rfl, rfl, rfl⟩

theorem sameDeployment_run {l : List (SetOrder × UnitId)}
    (h : machine.exec Machine.always w l = some w') : SameDeployment w w' := by
  induction l generalizing w with
  | nil =>
    obtain rfl : w = w' := by simpa [Machine.exec_nil] using h
    exact ⟨rfl, rfl, rfl, rfl⟩
  | cons a l ih =>
    obtain ⟨t, -, ht, hl⟩ := Machine.exec_cons_eq_some.mp h
    have hstep := sameDeployment_step ht
    have hrun := ih hl
    exact ⟨hrun.app.trans hstep.app, hrun.units.trans hstep.units,
      hrun.shared.trans hstep.shared, hrun.configValid.trans hstep.configValid⟩

theorem inv_run {l : List (SetOrder × UnitId)} (hi : Inv names₀ stir w)
    (h : machine.exec Machine.always w l = some w') : Inv names₀ stir w' := by
  induction l generalizing w with
  | nil =>
    obtain rfl : w = w' := by simpa [Machine.exec_nil] using h
    exact hi
  | cons a l ih =>
    obtain ⟨t, -, ht, hl⟩ := Machine.exec_cons_eq_some.mp h
    exact ih (inv_step hi ht) hl

/-- A unit renders in one of the hooks: every follower, and the leader if some
    follower's acknowledgement was of another map. -/
def Rerenders (stir : Prop) (w : World) (u : UnitId) : Prop :=
  w.configValid = true ∧ (u = w.app.leader → stir)

/-- What the files list when no hook is left. -/
theorem settled_names (hi : Inv names₀ stir w) (hs : Settled w) {u : UnitId} (hu : u ∈ w.units) :
    (Rerenders stir w u → ∀ n, n ∈ w.names u ↔ Emits w.shared w.app.databases n) ∧
      (¬ Rerenders stir w u → w.names u = names₀ u) := by
  constructor
  · rintro ⟨hc, hl⟩
    by_cases hul : u = w.app.leader
    · rcases hi.stirred (hl hul) with ⟨v, hv, -, hp, -⟩ | hp | hcl
      · rw [hs v hv] at hp
        cases hp
      · rw [← hul, hs u hu] at hp
        cases hp
      · rw [hul]
        exact hcl hc
    · rcases hi.follower u hu hul with hp | hcu
      · rw [hs u hu] at hp
        cases hp
      · exact hcu hc
  · intro hr
    by_cases hc : w.configValid = true
    · obtain ⟨hul, hstir⟩ : u = w.app.leader ∧ ¬ stir := by
        simpa [Rerenders, hc] using hr
      rw [hul]
      exact (hi.calm hstir).2.1
    · rw [hi.invalid (Bool.eq_false_iff.mpr hc)]

end Run

/-! ## The end of the hooks -/

section Termination

variable {w w' : World} {o : SetOrder} {u : UnitId}

theorem countP_le {p q : UnitId → Bool} (l : List UnitId) (h : ∀ v ∈ l, q v = true → p v = true) :
    l.countP q ≤ l.countP p := List.countP_mono_left h

theorem countP_lt {p q : UnitId → Bool} {l : List UnitId} (hu : u ∈ l)
    (h : ∀ v ∈ l, q v = true → p v = true) (hp : p u = true) (hq : q u = false) :
    l.countP q < l.countP p := by
  induction l with
  | nil => cases hu
  | cons v l ih =>
    have hl : ∀ x ∈ l, q x = true → p x = true := fun x hx => h x (List.mem_cons_of_mem _ hx)
    have hle := countP_le l hl
    rw [List.countP_cons, List.countP_cons]
    by_cases huv : u = v
    · subst huv
      rw [if_pos hp, if_neg (by simp [hq])]
      omega
    · have hlt := ih ((List.mem_cons.mp hu).resolve_left huv) hl
      have hv := h v List.mem_cons_self
      split_ifs with hqv hpv
      · omega
      · exact absurd (hv hqv) hpv
      · omega
      · omega

/-- The units whose acknowledgement will change, each of which may set the
    others going, and the hooks that are left. -/
def World.remaining (w : World) : ℕ :=
  w.units.countP (fun u => decide (Behind w u)) * (w.units.length + 1) + w.units.countP w.pending

/-- Every hook brings the end nearer. -/
theorem remaining_lt (h : machine.step w (o, u) = some w') : w'.remaining < w.remaining := by
  have hafter : ∃ names, w' = w.after u names := by
    obtain ⟨-, -, ⟨-, rfl⟩ | ⟨-, l, -, rfl⟩⟩ := step_cases h
    · exact ⟨_, rfl⟩
    · exact ⟨_, rfl⟩
  obtain ⟨names, rfl⟩ := hafter
  obtain ⟨hu, hp, -⟩ := step_cases h
  unfold World.remaining
  rw [after_units]
  by_cases hb : Behind w u
  · have hlt : w.units.countP (fun v => decide (Behind (w.after u names) v)) <
        w.units.countP fun v => decide (Behind w v) :=
      countP_lt hu (fun v _ hv => by simpa using (behind_after.mp (of_decide_eq_true hv)).2)
        (by simpa using hb) (by simp [behind_after])
    have hpending : w.units.countP (w.after u names).pending ≤ w.units.length :=
      List.countP_le_length
    have hmul := Nat.mul_le_mul_right (w.units.length + 1) (Nat.succ_le_of_lt hlt)
    rw [Nat.succ_mul] at hmul
    omega
  · have hle : w.units.countP (fun v => decide (Behind (w.after u names) v)) ≤
        w.units.countP fun v => decide (Behind w v) :=
      countP_le _ fun v _ hv => by simpa using (behind_after.mp (of_decide_eq_true hv)).2
    have hlt : w.units.countP (w.after u names).pending < w.units.countP w.pending := by
      refine countP_lt hu (fun v _ hv => ?_) hp ?_
      · exact (after_pending.mp hv).2.resolve_right hb
      · rw [← Bool.not_eq_true, after_pending]
        exact fun h => h.1 rfl
    have hmul := Nat.mul_le_mul_right (w.units.length + 1) hle
    omega

/-- The stored map can be rendered. -/
def Renders (w : World) (o : SetOrder) : Prop :=
  ∀ u, (Injection.sectionNames o.iter w.shared (getRelationDatabases w.app u)).isSome = true

/-- Where rendering does not raise, the hooks can run until none is left. -/
theorem exists_settled (hr : Renders w o) :
    ∃ l w', machine.exec Machine.always w l = some w' ∧ Settled w' := by
  have hstep : ∀ w, Renders w o → ¬ Settled w → ∃ a w', machine.step w a = some w' ∧
      Renders w' o ∧ w'.remaining < w.remaining := by
    intro w hr hs
    obtain ⟨u, hu, hp⟩ : ∃ u ∈ w.units, w.pending u = true := by
      simpa [Settled] using hs
    obtain ⟨w', h⟩ : ∃ w', machine.step w (o, u) = some w' := by
      obtain ⟨l, hl⟩ := Option.isSome_iff_exists.mp (hr u)
      simp only [machine, hu, hp, and_self, if_true, onPeerChanged, World.renderPgbConfig, hl,
        Option.map_some]
      split_ifs <;> exact ⟨_, rfl⟩
    have hsame := sameDeployment_step h
    refine ⟨(o, u), w', h, fun v => ?_, remaining_lt h⟩
    rw [hsame.app, hsame.shared]
    exact hr v
  obtain ⟨l, w', hrun, -, hs⟩ :=
    Machine.exists_exec_of_measure (Renders · o) Settled World.remaining hstep w hr
  exact ⟨l, w', hrun, hs⟩

end Termination

/-! ## A removed relation -/

section Removal

variable {h : Hook} {w w₀ w' : World} {rid : RelId} {r : Relation} {d : DbEntry}

/-- The names under which files list a database. -/
def traces (database : String) : List String :=
  [database, database ++ "_readonly", database ++ "_standby"]

/-- A remaining relation has the database. -/
def Needed (dbs : Dbs) (rid : RelId) (database : String) : Prop :=
  ∃ d ∈ (dbs.erase (str rid)).values, d.name = database

/-- No file lists the database, unless it is needed. -/
def Traceless (w : World) (dbs : Dbs) (rid : RelId) (database : String) : Prop :=
  Needed dbs rid database ∨ ∀ u ∈ w.units, ∀ n ∈ traces database, n ∉ w.names u

/-- Some follower has not acknowledged the map without the relation. -/
def FollowerBehind (w : World) (rid : RelId) : Prop :=
  ∃ f ∈ w.units, f ≠ w.app.leader ∧
    w.peer f ≠ ⟨some (w.hostname f), some (w.app.databases.erase (str rid))⟩

/-- The handler takes the entry away, and unit `u` renders behind that. -/
def Follows (w : World) (rid : RelId) (r : Relation) (u : UnitId) : Prop :=
  Setup.OwnsSetup w.app.leader r ∧ Rerenders (FollowerBehind w rid) w u

/-- The database is needed, or no unit that renders lists one of its names for
    the remaining relations, and no other unit has listed one before. -/
def NothingLeft (w : World) (rid : RelId) (r : Relation) (database : String) : Prop :=
  Needed w.app.databases rid database ∨ ∀ u ∈ w.units, ∀ n ∈ traces database,
    (Follows w rid r u → ¬ Emits w.shared (w.app.databases.erase (str rid)) n) ∧
      (¬ Follows w rid r u → n ∉ w.names u)

/-- What the leader's handler does to the stored map. -/
theorem setup_onBroken (hr : h.ready = true) (hu : h.unit = w.app.leader)
    (hflag : (w.app.peerUnit h.unit).contains (departFlag r.endpoint rid) = false) {res : Result}
    (hres : Setup.onBroken h w.app rid r = some res) :
    res.app.leader = w.app.leader ∧ res.app.peerUnit = w.app.peerUnit ∧
      (Setup.OwnsSetup h.unit r ∧
          res.app.pgbDbsConfig = some (w.app.databases.erase (str rid)) ∨
        ¬ Setup.OwnsSetup h.unit r ∧ res.app.pgbDbsConfig = w.app.pgbDbsConfig) := by
  unfold Setup.onBroken at hres
  unfold Setup.OwnsSetup Databag.contains
  split_ifs at hres with hl
  · have he := Lifecycle.broken_effect h w.app rid r
    rw [hres] at he
    cases he with
    | flagged hf =>
      rw [hflag] at hf
      cases hf
    | notOwned o ho =>
      refine ⟨rfl, rfl, .inr ⟨fun hown => ?_, rfl⟩⟩
      obtain ⟨huser, hdatabase⟩ := hown hl
      rcases ho with ho | ho | ho
      · rw [hr] at ho
        cases ho
      · simp [ho] at huser
      · simp [ho] at hdatabase
    | done _ huser hdatabase _ _ =>
      exact ⟨rfl, rfl, .inl ⟨fun _ => by simp [huser, hdatabase], rfl⟩⟩
  · have he := Lifecycle.clientBroken_effect h w.app rid r
    rw [hres] at he
    cases he with
    | skipped hs =>
      rcases hs with hs | hs
      · rw [hr] at hs
        cases hs
      · exact absurd hu hs
    | departing _ hf => simp [Databag.contains, hf] at hflag
    | done _ _ _ => exact ⟨rfl, rfl, .inl ⟨fun hl' => absurd hl' hl, rfl⟩⟩

/-- The leader's handler in the deployment: where it takes the entry away, that
    is a change for every other unit. -/
theorem onBroken_cases (hready : h.ready = true) (hr : w.app.relations.get? rid = some r)
    (hflag : (w.app.peerUnit w.app.leader).contains (departFlag r.endpoint rid) = false)
    (hd : w.app.databases.get? (str rid) = some d) (hb : onBroken h w rid = some w₀) :
    ∃ app : App, app.leader = w.app.leader ∧
      (Setup.OwnsSetup w.app.leader r ∧
          app.pgbDbsConfig = some (w.app.databases.erase (str rid)) ∧
          w₀ = ({ w with app := app } : World).changedBy w.app.leader ∨
        ¬ Setup.OwnsSetup w.app.leader r ∧ w₀ = { w with app := app }) := by
  simp only [onBroken, hr, Option.bind_some, Option.map_eq_some_iff] at hb
  obtain ⟨res, hres, hw₀⟩ := hb
  obtain ⟨hleader, hpeer, hcases⟩ :=
    setup_onBroken (h := { h with unit := w.app.leader }) hready rfl hflag hres
  refine ⟨{ res.app with relations := res.app.relations.erase rid }, hleader, ?_⟩
  rcases hcases with ⟨hown, hdbs⟩ | ⟨hown, hdbs⟩
  · refine .inl ⟨hown, hdbs, ?_⟩
    rw [if_neg] at hw₀
    · exact hw₀.symm
    · rintro ⟨he, -⟩
      have herase : w.app.databases = w.app.databases.erase (str rid) :=
        congrArg (Option.getD · Dict.empty) (hdbs.symm.trans he).symm
      rw [herase, Dict.get?_erase, if_pos rfl] at hd
      cases hd
  · refine .inr ⟨hown, ?_⟩
    rw [if_pos ⟨hdbs, by rw [hpeer]⟩] at hw₀
    exact hw₀.symm

/-- Without a pending unit there is no hook to run. -/
theorem eq_of_quiet (hq : ∀ u, w.pending u = false) {l : List (SetOrder × UnitId)}
    (hrun : machine.exec Machine.always w l = some w') : w = w' := by
  cases l with
  | nil => simpa [Machine.exec_nil] using hrun
  | cons a l =>
    obtain ⟨t, -, ht, -⟩ := Machine.exec_cons_eq_some.mp hrun
    obtain ⟨-, hp, -⟩ := step_cases (o := a.1) (u := a.2) ht
    rw [hq] at hp
    cases hp

/-- The state behind the handler that takes the entry away. -/
theorem inv_changedBy (hq : ∀ u, w.pending u = false) {app : App}
    (hl : app.leader = w.app.leader)
    (hdbs : app.pgbDbsConfig = some (w.app.databases.erase (str rid))) :
    Inv w.names (FollowerBehind w rid)
      (({ w with app := app } : World).changedBy w.app.leader) := by
  have hmap : app.databases = w.app.databases.erase (str rid) := by rw [App.databases, hdbs]; rfl
  have hbehind : ∀ f, Behind (({ w with app := app } : World).changedBy w.app.leader) f ↔
      w.peer f ≠ ⟨some (w.hostname f), some (w.app.databases.erase (str rid))⟩ := by
    intro f
    rw [← hmap]
    rfl
  have hpending : ∀ f, (({ w with app := app } : World).changedBy w.app.leader).pending f = true ↔
      f ≠ w.app.leader := by
    intro f
    simp [World.changedBy, hq]
  refine ⟨by simp [World.changedBy, hdbs], fun _ => rfl, fun f hf hne => .inl ?_, fun hs => ?_,
    fun hs => ?_⟩
  · exact (hpending f).mpr (hl ▸ hne)
  · refine ⟨Bool.eq_false_iff.mpr fun hp => (hpending _).mp hp hl, rfl, fun f hf hne hb => ?_⟩
    exact hs ⟨f, hf, hl ▸ hne, (hbehind f).mp hb⟩
  · obtain ⟨f, hf, hne, hb⟩ := hs
    exact .inl ⟨f, hf, hl.symm ▸ hne, (hpending f).mpr hne, (hbehind f).mpr hb⟩

/-- When the leader has handled `relation-broken` and no hook is left, no file
    has a name of the relation's database exactly when the database is needed,
    or each unit either renders and lists none for the remaining relations, or
    has listed none before. -/
theorem traceless_iff (hq : ∀ u, w.pending u = false) (hready : h.ready = true)
    (hr : w.app.relations.get? rid = some r)
    (hflag : (w.app.peerUnit w.app.leader).contains (departFlag r.endpoint rid) = false)
    (hd : w.app.databases.get? (str rid) = some d) (hb : onBroken h w rid = some w₀)
    {l : List (SetOrder × UnitId)} (hrun : machine.exec Machine.always w₀ l = some w')
    (hs : Settled w') :
    Traceless w' w.app.databases rid d.name ↔ NothingLeft w rid r d.name := by
  obtain ⟨app, hl, ⟨hown, hdbs, rfl⟩ | ⟨hown, rfl⟩⟩ := onBroken_cases hready hr hflag hd hb
  · have hi := inv_run (inv_changedBy hq hl hdbs) hrun
    obtain ⟨happ, hunits, hshared, hvalid⟩ := sameDeployment_run hrun
    have hfollows : ∀ u, Follows w rid r u ↔ Rerenders (FollowerBehind w rid) w' u := by
      intro u
      rw [Follows, Rerenders, Rerenders, and_iff_right hown, hvalid, happ]
      exact and_congr Iff.rfl (imp_congr (by rw [← hl]; rfl) Iff.rfl)
    have hmap : w'.app.databases = w.app.databases.erase (str rid) := by
      rw [happ, App.databases]
      exact congrArg (Option.getD · Dict.empty) hdbs
    unfold Traceless NothingLeft
    refine or_congr Iff.rfl ?_
    rw [hunits]
    refine forall₂_congr fun u hu => forall₂_congr fun n _ => ?_
    obtain ⟨hren, hold⟩ := settled_names hi hs (hunits ▸ hu)
    rw [hfollows]
    by_cases hf : Rerenders (FollowerBehind w rid) w' u
    · rw [hren hf n, hmap, hshared]
      exact ⟨fun hn => ⟨fun _ => hn, fun hf' => absurd hf hf'⟩, fun hn => hn.1 hf⟩
    · rw [hold hf]
      exact ⟨fun hn => ⟨fun hf' => absurd hf' hf, fun _ => hn⟩, fun hn => hn.2 hf⟩
  · obtain rfl := eq_of_quiet (w := { w with app := app }) hq hrun
    have hfollows : ∀ u, ¬ Follows w rid r u := fun u hf => hown hf.1
    refine or_congr Iff.rfl (forall₂_congr fun u hu => forall₂_congr fun n _ => ?_)
    exact ⟨fun hn => ⟨fun hf => absurd hf (hfollows u), fun _ => hn⟩, fun hn => hn.2 (hfollows u)⟩

end Removal

/-! ## Two deployments -/

instance (dbs : Dbs) (rid : RelId) (database : String) : Decidable (Needed dbs rid database) :=
  inferInstanceAs (Decidable (∃ d ∈ (dbs.erase (str rid)).values, d.name = database))

instance (w : World) (dbs : Dbs) (rid : RelId) (database : String) :
    Decidable (Traceless w dbs rid database) :=
  inferInstanceAs (Decidable (Needed dbs rid database ∨ _))

instance (w : World) : Decidable (Settled w) :=
  inferInstanceAs (Decidable (∀ u ∈ w.units, w.pending u = false))

/-- The application once `db` relation 1 has been set up with database `a`. -/
def setUp : Option App :=
  (Setup.machine Text.asciiLower).exec Machine.always Setup.sampleApp
    [.relate 1 .db, .write 1 (Setup.asking "a"), .joined (Setup.sampleHook 0) 1]

/-- A deployment in which every unit has rendered and acknowledged the map. -/
def rendered (app : App) (units : List UnitId) : World where
  app := app
  units := units
  hostname _ := "pgbouncer"
  shared := sampleShared sampleBackend
  configValid := true
  names _ := (Injection.sectionNames id (sampleShared sampleBackend) app.databases).getD []
  peer _ := ⟨some "pgbouncer", some app.databases⟩
  pending _ := false

/-- The order in which the sets are written down. -/
def writtenOrder : SetOrder := ⟨id, isSetOrder_id⟩

/-- The only relation of a deployment of one unit is removed: no hook is left,
    and the file has all its names. -/
theorem trace_on_single_unit :
    ∃ app w₀, (Setup.machine Text.asciiLower).Reach Machine.always app ∧
      onBroken (Setup.sampleHook 0) (rendered app [0]) 1 = some w₀ ∧ Settled w₀ ∧
      w₀.app.databases = .empty ∧ w₀.names 0 = ["a", "a_readonly", "a_standby"] ∧
      ¬ Traceless w₀ app.databases 1 "a" := by
  have hrun : setUp.any (fun app => (onBroken (Setup.sampleHook 0) (rendered app [0]) 1).any
      fun w₀ => decide (Settled w₀) && decide (w₀.app.databases = .empty) &&
        decide (w₀.names 0 = ["a", "a_readonly", "a_standby"]) &&
        !decide (Traceless w₀ app.databases 1 "a")) = true := by decide +kernel
  obtain ⟨app, happ, hrun⟩ := (Option.any_eq_true _ _).mp hrun
  obtain ⟨w₀, hw₀, hp⟩ := (Option.any_eq_true _ _).mp hrun
  simp only [Bool.and_eq_true, decide_eq_true_eq, Bool.not_eq_true',
    decide_eq_false_iff_not] at hp
  exact ⟨app, w₀, .exec (.init (s := Setup.sampleApp) rfl) happ, hw₀, hp.1.1.1, hp.1.1.2, hp.1.2,
    hp.2⟩

/-- With a follower the leader's file is rendered behind the acknowledgement. -/
theorem traceless_on_two_units :
    ∃ app w₀ w', onBroken (Setup.sampleHook 0) (rendered app [0, 1]) 1 = some w₀ ∧
      machine.exec Machine.always w₀ [(writtenOrder, 1), (writtenOrder, 0), (writtenOrder, 1)] =
        some w' ∧ Traceless w' app.databases 1 "a" ∧
      ∃ r, app.relations.get? 1 = some r ∧ NothingLeft (rendered app [0, 1]) 1 r "a" := by
  have hrun : setUp.any (fun app => app.leader == 0 && (app.relations.get? 1).any (fun r =>
      !(app.peerUnit 0).contains (departFlag r.endpoint 1)) &&
        app.databases.get? "1" == some ⟨"a", true, none⟩ &&
        (onBroken (Setup.sampleHook 0) (rendered app [0, 1]) 1).any fun w₀ =>
          (machine.exec Machine.always w₀ [(writtenOrder, 1), (writtenOrder, 0),
            (writtenOrder, 1)]).any fun w' =>
              decide (Settled w') && decide (Traceless w' app.databases 1 "a")) = true := by
    decide +kernel
  obtain ⟨app, -, hrun⟩ := (Option.any_eq_true _ _).mp hrun
  simp only [Bool.and_eq_true, Option.any_eq_true, beq_iff_eq, decide_eq_true_eq,
    Bool.not_eq_true'] at hrun
  obtain ⟨⟨⟨hl, r, hr, hflag⟩, hd⟩, w₀, hb, w', hexec, hs, ht⟩ := hrun
  have hl' : (rendered app [0, 1]).app.leader = 0 := hl
  refine ⟨app, w₀, w', hb, hexec, ht, r, hr, ?_⟩
  exact (traceless_iff (d := ⟨"a", true, none⟩) (fun _ => rfl) rfl hr
    (by rw [hl']; exact hflag) hd hb hexec hs).mp ht

end Removed

end PgBouncerK8s
