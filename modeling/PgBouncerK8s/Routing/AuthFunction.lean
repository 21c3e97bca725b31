import PgBouncerK8s.Routing.Lifecycle

/-!
# The auth function and its users

`remove_auth_function` takes the auth function out of a database. Both broken
handlers call it for the name of the entry they remove, unless another entry of
the stored map has the same name: the map counts the users of the function.

* `removals_erase`: what one handler adds to the calls.
* `removals_breakAll`: over any order of removals, the function is removed from
  a database exactly once, when its last entry goes.
-/

namespace PgBouncerK8s

open Text (str)

namespace AuthFunction

/-! ## Removing relations -/

/-- `relation-broken` of a live relation, after which it is gone; `none` where
    the handler raises. -/
def breakRelation (s : App) (p : Hook × RelId) : Option App :=
  (s.relations.get? p.2).bind fun r =>
    (Setup.onBroken p.1 s p.2 r).map fun res =>
      { res.app with relations := res.app.relations.erase p.2 }

/-- The relations break in the order of the list. -/
def breakAll (s : App) (l : List (Hook × RelId)) : Option App := l.foldlM breakRelation s

/-- How often the auth function has been removed from a database. -/
def removals (s : App) (database : String) : ℕ :=
  s.backend.calls.count (.removeAuthFunction database)

/-- An entry of the map has the name. -/
def Used (dbs : Dbs) (database : String) : Prop := database ∈ dbs.values.map DbEntry.name

instance (dbs : Dbs) (database : String) : Decidable (Used dbs database) :=
  inferInstanceAs (Decidable (_ ∈ _))

/-- The unit is being removed, and its handler leaves the relation to others. -/
def Departing (h : Hook) (s : App) (rid : RelId) (r : Relation) : Prop :=
  if r.endpoint.legacy then (s.peerUnit h.unit).contains (departFlag r.endpoint rid) = true
  else (s.peerUnit h.unit).get (departFlag r.endpoint rid) = some "true"

/-! ## One removal -/

variable {h : Hook} {s s' : App} {rid : RelId} {r : Relation} {D : String}

theorem used_iff (dbs : Dbs) (D : String) :
    Used dbs D ↔ ∃ k d, dbs.get? k = some d ∧ d.name = D := by
  simp only [Used, List.mem_map, Dict.mem_values_iff]
  exact ⟨fun ⟨d, ⟨k, hk⟩, hn⟩ => ⟨k, d, hk, hn⟩, fun ⟨k, d, hk, hn⟩ => ⟨d, ⟨k, hk⟩, hn⟩⟩

/-- A name is used by the entry that goes or by one that stays. -/
theorem used_iff_erase (dbs : Dbs) (k D : String) :
    Used dbs D ↔ (dbs.get? k).map DbEntry.name = some D ∨ Used (dbs.erase k) D := by
  simp only [used_iff, Dict.get?_erase, Option.map_eq_some_iff]
  constructor
  · rintro ⟨k', d, hk', hn⟩
    by_cases hk : k' = k
    · exact .inl ⟨d, hk ▸ hk', hn⟩
    · exact .inr ⟨k', d, by rwa [if_neg hk], hn⟩
  · rintro (⟨d, hd, hn⟩ | ⟨k', d, hd, hn⟩)
    · exact ⟨k, d, hd, hn⟩
    · split_ifs at hd
      exact ⟨k', d, hd, hn⟩

theorem count_popName (dbs : Dbs) (k : String) (b : Backend) (hD : D ≠ "") :
    (Lifecycle.popName dbs k b).calls.count (.removeAuthFunction D) =
      b.calls.count (.removeAuthFunction D) +
        if Used dbs D ∧ ¬ Used (dbs.erase k) D then 1 else 0 := by
  have hused := used_iff_erase dbs k D
  unfold Lifecycle.popName
  cases hname : (dbs.get? k).map DbEntry.name with
  | none =>
    rw [hname] at hused
    simp [hused]
  | some name =>
    rw [hname, Option.some_inj] at hused
    have hmem : name ∈ (dbs.erase k).values.map DbEntry.name ↔ Used (dbs.erase k) name := Iff.rfl
    simp only [hmem]
    by_cases hn : name = D
    · subst hn
      by_cases hu : Used (dbs.erase k) name <;> simp [hused, hu, hD, Backend.removeAuthFunction]
    · have hcall : (Call.removeAuthFunction name == .removeAuthFunction D) = false := by
        simpa using hn
      simp only [hused, hn, false_or, and_not_self, if_false, Nat.add_zero]
      split_ifs
      · simp [Backend.removeAuthFunction, List.count_cons, hcall]
      · rfl

/-- What the handler of a relation leaves: the map, which has lost the entry
    unless the unit is departing, and as many calls as names that are no longer
    used. -/
structure Broke (s s' : App) (rid : RelId) (departing : Prop) : Prop where
  relations : s'.relations = s.relations.erase rid
  leader : s'.leader = s.leader
  kept : departing → s'.databases = s.databases
  erased : ¬ departing → s'.databases = s.databases.erase (str rid)
  removals : ∀ D, D ≠ "" → removals s' D =
    removals s D + if Used s.databases D ∧ ¬ Used s'.databases D then 1 else 0

theorem count_deleteUser (b : Backend) (user D : String) :
    (b.deleteUser user).calls.count (.removeAuthFunction D) =
      b.calls.count (.removeAuthFunction D) := by
  simp [Backend.deleteUser]

theorem breakRelation_legacy (hr : s.relations.get? rid = some r) (hu : h.unit = s.leader)
    (hready : h.ready = true) (hok : h.deleteUserOk = true) (hown : Setup.OwnsSetup h.unit r)
    (hleg : r.endpoint.legacy = true) :
    ∃ s', breakRelation s (h, rid) = some s' ∧ Broke s s' rid (Departing h s rid r) := by
  obtain ⟨hus, hdb⟩ := hown hleg
  unfold breakRelation Setup.onBroken
  simp only [hr, Option.bind_some]
  rw [if_pos hleg]
  have he := Lifecycle.broken_effect h s rid r
  generalize DbProvides.onRelationBroken h s rid r = result at he
  cases he with
  | flagged hf =>
    refine ⟨_, rfl, rfl, rfl, fun _ => rfl, fun hn => absurd ?_ hn, fun D _ => by
      simp [removals, App.databases]⟩
    unfold Departing
    rwa [if_pos hleg]
  | notOwned o hn =>
    rcases hn with hn | hn | hn
    · rw [hready] at hn
      cases hn
    · simp [Databag.contains, hn] at hus
    · simp [Databag.contains, hn] at hdb
  | raised _ _ hor =>
    rcases hor with hne | hfail
    · exact absurd hu hne
    · rw [hok] at hfail
      cases hfail
  | @done user database hf _ _ _ _ =>
    refine ⟨_, rfl, rfl, rfl, fun hd => ?_, fun _ => rfl, fun D hD => ?_⟩
    · unfold Departing at hd
      rw [if_pos hleg, hf] at hd
      cases hd
    have hc := count_popName s.databases (str rid) (s.backend.deleteUser user) hD
    rw [count_deleteUser] at hc
    exact hc

theorem breakRelation_client (hr : s.relations.get? rid = some r) (hu : h.unit = s.leader)
    (hready : h.ready = true) (hok : h.deleteUserOk = true) (hleg : ¬ r.endpoint.legacy = true) :
    ∃ s', breakRelation s (h, rid) = some s' ∧ Broke s s' rid (Departing h s rid r) := by
  unfold breakRelation Setup.onBroken
  simp only [hr, Option.bind_some]
  rw [if_neg hleg]
  have he := Lifecycle.clientBroken_effect h s rid r
  generalize PgBouncerProvider.onRelationBroken h s rid r = result at he
  cases he with
  | skipped hor =>
    rcases hor with hn | hne
    · rw [hready] at hn
      cases hn
    · exact absurd hu hne
  | departing flags hf =>
    refine ⟨_, rfl, rfl, rfl, fun _ => rfl, fun hn => absurd ?_ hn, fun D _ => by
      simp [removals, App.databases]⟩
    unfold Departing
    rwa [if_neg hleg]
  | raised hfail =>
    rw [hok] at hfail
    cases hfail
  | done hf _ _ =>
    refine ⟨_, rfl, rfl, rfl, fun hd => ?_, fun _ => rfl, fun D hD => ?_⟩
    · unfold Departing at hd
      rw [if_neg hleg] at hd
      exact absurd hd hf
    have hc := count_popName s.databases (str rid) s.backend hD
    rw [← count_deleteUser _ (PgBouncerProvider.relationUser rid)] at hc
    exact hc

theorem breakRelation_spec (hr : s.relations.get? rid = some r) (hu : h.unit = s.leader)
    (hready : h.ready = true) (hok : h.deleteUserOk = true) (hown : Setup.OwnsSetup h.unit r) :
    ∃ s', breakRelation s (h, rid) = some s' ∧ Broke s s' rid (Departing h s rid r) := by
  by_cases hleg : r.endpoint.legacy = true
  · exact breakRelation_legacy hr hu hready hok hown hleg
  · exact breakRelation_client hr hu hready hok hleg

/-! ## Any order of removals -/

variable {l pre post : List (Hook × RelId)} {p : Hook × RelId}

/-- The relations of the list are distinct and live, the leader has set up
    those that are legacy, and the handlers run on the leader with the backend
    ready. -/
structure Breaks (s : App) (l : List (Hook × RelId)) : Prop where
  distinct : (l.map Prod.snd).Nodup
  live : ∀ p ∈ l, ∃ r, s.relations.get? p.2 = some r ∧ Setup.OwnsSetup s.leader r
  leader : ∀ p ∈ l, p.1.unit = s.leader
  ready : ∀ p ∈ l, p.1.ready = true
  deleteUserOk : ∀ p ∈ l, p.1.deleteUserOk = true

/-- The first removal of the list returns, and the others can follow. -/
theorem Breaks.head (hb : Breaks s (p :: l)) :
    ∃ r s₁, s.relations.get? p.2 = some r ∧ breakRelation s p = some s₁ ∧
      Broke s s₁ p.2 (Departing p.1 s p.2 r) ∧ Breaks s₁ l := by
  obtain ⟨r, hr, hown⟩ := hb.live p List.mem_cons_self
  have hu := hb.leader p List.mem_cons_self
  obtain ⟨s₁, hs₁, hbroke⟩ := breakRelation_spec (h := p.1) hr hu (hb.ready p List.mem_cons_self)
    (hb.deleteUserOk p List.mem_cons_self) (by rwa [hu])
  have hdistinct := hb.distinct
  rw [List.map_cons, List.nodup_cons] at hdistinct
  refine ⟨r, s₁, hr, hs₁, hbroke, hdistinct.2, fun q hq => ?_, fun q hq => ?_,
    fun q hq => hb.ready q (List.mem_cons_of_mem _ hq),
    fun q hq => hb.deleteUserOk q (List.mem_cons_of_mem _ hq)⟩
  · have hne : q.2 ≠ p.2 := by
      intro he
      exact hdistinct.1 (List.mem_map.mpr ⟨q, hq, he⟩)
    rw [hbroke.relations, Dict.get?_erase, if_neg hne, hbroke.leader]
    exact hb.live q (List.mem_cons_of_mem _ hq)
  · rw [hbroke.leader]
    exact hb.leader q (List.mem_cons_of_mem _ hq)

theorem breakAll_cons (s : App) (p : Hook × RelId) (l : List (Hook × RelId)) :
    breakAll s (p :: l) = (breakRelation s p).bind fun s₁ => breakAll s₁ l := rfl

/-- A part of the list can be done first. -/
theorem Breaks.split (hb : Breaks s (pre ++ post)) :
    ∃ s₁, breakAll s pre = some s₁ ∧ Breaks s₁ post := by
  induction pre generalizing s with
  | nil => exact ⟨s, rfl, hb⟩
  | cons p pre ih =>
    obtain ⟨r, s₁, -, hs₁, -, hb₁⟩ := Breaks.head (l := pre ++ post) hb
    obtain ⟨s₂, hs₂, hb₂⟩ := ih hb₁
    exact ⟨s₂, by rw [breakAll_cons, hs₁, Option.bind_some, hs₂], hb₂⟩

theorem Broke.used {departing : Prop} (hbroke : Broke s s' rid departing)
    (hused : Used s'.databases D) : Used s.databases D := by
  by_cases hd : departing
  · rwa [hbroke.kept hd] at hused
  · rw [hbroke.erased hd] at hused
    exact (used_iff_erase _ (str rid) D).mpr (.inr hused)

/-- A name that another entry has is still used afterwards. -/
theorem Broke.still_used {departing : Prop} (hbroke : Broke s s' rid departing)
    (hused : Used (s.databases.erase (str rid)) D) : Used s'.databases D := by
  by_cases hd : departing
  · rw [hbroke.kept hd]
    exact (used_iff_erase _ (str rid) D).mpr (.inr hused)
  · rwa [hbroke.erased hd]

/-- Over the whole list: one call for a name that is used at the start and not
    at the end, and no other. -/
theorem Breaks.removals (hb : Breaks s l) (hD : D ≠ "") :
    ∃ s', breakAll s l = some s' ∧ (Used s'.databases D → Used s.databases D) ∧
      AuthFunction.removals s' D = AuthFunction.removals s D +
        if Used s.databases D ∧ ¬ Used s'.databases D then 1 else 0 := by
  induction l generalizing s with
  | nil => exact ⟨s, rfl, id, by simp⟩
  | cons p l ih =>
    obtain ⟨r, s₁, -, hs₁, hbroke, hb₁⟩ := hb.head
    obtain ⟨s', hs', hused, hcount⟩ := ih hb₁
    refine ⟨s', by rw [breakAll_cons, hs₁, Option.bind_some, hs'],
      fun hu => hbroke.used (hused hu), ?_⟩
    have hfirst := hbroke.removals D hD
    have hstart : Used s₁.databases D → Used s.databases D := hbroke.used
    rw [hcount, hfirst]
    by_cases h₀ : Used s.databases D
    · by_cases h₁ : Used s₁.databases D
      · simp [h₀, h₁]
      · have h₂ : ¬ Used s'.databases D := fun hu => h₁ (hused hu)
        simp [h₀, h₁, h₂]
    · have h₁ : ¬ Used s₁.databases D := fun hu => h₀ (hstart hu)
      simp [h₀, h₁]

/-- A `db` and a `database` relation share the database `a`. -/
def sharing : App :=
  { Setup.sampleApp with
    relations := (Dict.empty.set 1 ((Relation.new .db).updateDatabags 0 true
      [("user", "u"), ("password", "p"), ("database", "a")])).set 2 (Relation.new .database)
    pgbDbsConfig := some ((Dict.empty.set "1" ⟨"a", true, none⟩).set "2" ⟨"a", false, none⟩) }

/-- The client relation breaks first. -/
def clientFirst : List (Hook × RelId) := [(Setup.sampleHook 0, 2), (Setup.sampleHook 0, 1)]

end AuthFunction

end PgBouncerK8s
