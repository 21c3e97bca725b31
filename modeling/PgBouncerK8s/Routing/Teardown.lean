import PgBouncerK8s.Routing.Wildcard

/-!
# Tearing a relation down

Both `_on_relation_broken` handlers remove the entry of their own relation from
the stored map and nothing else: the wildcard stays, whether or not the
relation it was added for is still there. The legacy handler removes nothing
where the leader's own databag was never written, which is the case once
leadership has moved.

* `undone_iff`: when the teardown leaves no trace in the map.
* `wildcard_survives`: the only relation of a deployment, a `db-admin` one, is
  removed and its wildcard stays.
-/

namespace PgBouncerK8s

open Text (str)

namespace Setup

variable {lower : String → String} {h : Hook} {s : App} {rid : RelId} {r : Relation} {res : Result}

/-- `relation-broken` of a live relation. -/
def onBroken (h : Hook) (s : App) (rid : RelId) (r : Relation) : Option Result :=
  if r.endpoint.legacy then DbProvides.onRelationBroken h s rid r
  else PgBouncerProvider.onRelationBroken h s rid r

/-- The map `dbs'` has no trace of relation `rid` and is otherwise `dbs`. -/
structure Undone (lower : String → String) (s : App) (rid : RelId) (dbs dbs' : Dbs) : Prop where
  removed : dbs'.get? (str rid) = none
  others : ∀ x, x ≠ rid → dbs'.get? (str x) = dbs.get? (str x)
  admin : dbs'.contains "*" = true → ∃ x, x ≠ rid ∧ AdminAt lower s x
  authDbname : ∀ star, dbs'.get? "*" = some star →
    ∃ k d, k ≠ "*" ∧ dbs'.get? k = some d ∧ star.authDbname = some d.name

/-- The leader's databag shows the relation as set up; a client relation needs
    no databag of the unit. -/
def OwnsSetup (u : UnitId) (r : Relation) : Prop :=
  r.endpoint.legacy = true →
    (r.unit u).contains "user" = true ∧ (r.unit u).contains "database" = true

/-- Another live relation is admin, and another entry than that of `rid` is the
    database the wildcard authenticates against. -/
def WildcardShared (lower : String → String) (s : App) (rid : RelId) : Prop :=
  ∀ star, s.databases.get? "*" = some star →
    (∃ x, x ≠ rid ∧ AdminAt lower s x) ∧
      ∃ k d, k ≠ "*" ∧ k ≠ str rid ∧ s.databases.get? k = some d ∧ star.authDbname = some d.name

/-! ## What the handlers do to the map -/

theorem getRelationDatabases_leader (hu : h.unit = s.leader) :
    getRelationDatabases s h.unit = s.databases := by
  unfold getRelationDatabases App.databases
  cases s.pgbDbsConfig with
  | some dbs => rfl
  | none => simp [hu]

theorem onBroken_databases (hu : h.unit = s.leader) (hready : h.ready = true)
    (hflag : (s.peerUnit h.unit).contains (departFlag r.endpoint rid) = false)
    (hres : onBroken h s rid r = some res) :
    (OwnsSetup h.unit r → res.app.databases = s.databases.erase (str rid)) ∧
      (¬ OwnsSetup h.unit r → res.app.databases = s.databases) := by
  unfold onBroken at hres
  by_cases hleg : r.endpoint.legacy = true
  · rw [if_pos hleg] at hres
    unfold DbProvides.onRelationBroken at hres
    simp only [hflag, hready, getRelationDatabases_leader hu, Bool.false_eq_true, if_false] at hres
    unfold OwnsSetup Databag.contains
    rcases hus : (r.unit h.unit).get "user" with _ | user
    · simp only [hus] at hres
      refine ⟨fun ho => by simpa using ho hleg, fun _ => ?_⟩
      split_ifs at hres <;> cases hres <;> rfl
    rcases hdb : (r.unit h.unit).get "database" with _ | database
    · simp only [hus, hdb] at hres
      refine ⟨fun ho => by simpa using ho hleg, fun _ => ?_⟩
      split_ifs at hres <;> cases hres <;> rfl
    simp only [hus, hdb] at hres
    refine ⟨fun _ => ?_, fun ho => absurd (fun _ => ⟨rfl, rfl⟩) ho⟩
    split_ifs at hres
    cases hres
    rfl
  · rw [if_neg hleg] at hres
    refine ⟨fun _ => ?_, fun ho => absurd (fun hl => absurd hl hleg) ho⟩
    have hflag : ¬ (s.peerUnit h.unit).get (departFlag r.endpoint rid) = some "true" := by
      intro he
      simp [Databag.contains, he] at hflag
    unfold PgBouncerProvider.onRelationBroken at hres
    rw [if_neg (by simp [hready, hu]), if_neg hflag] at hres
    simp only [getRelationDatabases_leader hu] at hres
    split_ifs at hres
    cases hres
    rfl

/-! ## When nothing is left -/

theorem undone_iff_of_erased {dbs : Dbs} (hdbs : dbs = s.databases.erase (str rid)) :
    Undone lower s rid s.databases dbs ↔ WildcardShared lower s rid := by
  subst hdbs
  have hget : ∀ k, k ≠ str rid → (s.databases.erase (str rid)).get? k = s.databases.get? k :=
    fun k hk => by rw [Dict.get?_erase, if_neg hk]
  have hstar := hget "*" (str_ne_star rid).symm
  constructor
  · intro hi star hs
    refine ⟨hi.admin (by rw [Dict.contains, hstar, hs]; rfl), ?_⟩
    obtain ⟨k, d, hk, hd, hname⟩ := hi.authDbname star (by rw [hstar, hs])
    have hne : k ≠ str rid := by
      rintro rfl
      rw [Dict.get?_erase, if_pos rfl] at hd
      cases hd
    exact ⟨k, d, hk, hne, by rwa [hget k hne] at hd, hname⟩
  · intro hw
    refine ⟨by rw [Dict.get?_erase, if_pos rfl], fun x hx => ?_, fun hc => ?_, fun star hs => ?_⟩
    · exact hget _ fun he => hx (Text.str_injective he)
    · obtain ⟨star, hs⟩ := Option.isSome_iff_exists.mp hc
      rw [hstar] at hs
      exact (hw star hs).1
    · rw [hstar] at hs
      obtain ⟨k, d, hk, hne, hd, hname⟩ := (hw star hs).2
      exact ⟨k, d, hk, by rwa [hget k hne], hname⟩

theorem erase_of_not_contains {dbs : Dbs} {k : String} (hk : dbs.get? k = none) :
    dbs.erase k = dbs := by
  have hall : ∀ p ∈ dbs.items, p.1 ≠ k := by
    rintro ⟨k', d⟩ hp rfl
    rw [← Dict.get?_eq_some_iff, hk] at hp
    cases hp
  ext1
  unfold Dict.erase
  exact List.filter_eq_self.mpr fun p hp => by simpa using hall p hp

/-- The teardown of a relation leaves no trace of it in the map exactly when the
    leader's databag shows the relation as set up, or there was no entry, and
    the wildcard, if there is one, is also another relation's. -/
theorem undone_iff (hu : h.unit = s.leader) (hready : h.ready = true)
    (hflag : (s.peerUnit h.unit).contains (departFlag r.endpoint rid) = false)
    (hres : onBroken h s rid r = some res) :
    Undone lower s rid s.databases res.app.databases ↔
      (OwnsSetup h.unit r ∨ s.databases.get? (str rid) = none) ∧ WildcardShared lower s rid := by
  obtain ⟨herase, hsame⟩ := onBroken_databases hu hready hflag hres
  by_cases ho : OwnsSetup h.unit r
  · rw [undone_iff_of_erased (herase ho)]
    exact ⟨fun hw => ⟨.inl ho, hw⟩, fun hw => hw.2⟩
  · rw [hsame ho]
    by_cases hnone : s.databases.get? (str rid) = none
    · rw [undone_iff_of_erased (erase_of_not_contains hnone).symm]
      exact ⟨fun hw => ⟨.inr hnone, hw⟩, fun hw => hw.2⟩
    · refine ⟨fun hi => absurd hi.removed hnone, ?_⟩
      rintro ⟨h1 | h1, -⟩
      · exact absurd h1 ho
      · exact absurd h1 hnone

/-! ## Two deployments -/

/-- The only relation of the deployment is a `db-admin` one: after it is gone,
    the map still has the wildcard, which authenticates against its database. -/
theorem wildcard_survives :
    ∃ s r res, (machine Text.asciiLower).Reach Machine.always s ∧ s.relations.get? 1 = some r ∧
      onBroken (sampleHook 0) s 1 r = some res ∧
      res.app.databases.get? "*" = some ⟨"*", false, some "a"⟩ ∧
      ¬ Undone Text.asciiLower s 1 s.databases res.app.databases := by
  obtain ⟨s, hs, hp⟩ := Machine.exists_reach_of_exec (machine Text.asciiLower)
    Machine.always sampleApp [.relate 1 .dbAdmin, .write 1 (asking "a"), .joined (sampleHook 0) 1]
    (fun s => s.relations.keys == [1] && (s.relations.get? 1).any fun r =>
      (onBroken (sampleHook 0) s 1 r).any fun res =>
        res.app.databases.get? "*" == some ⟨"*", false, some "a"⟩) rfl (by decide)
  simp only [Bool.and_eq_true, Option.any_eq_true, beq_iff_eq] at hp
  obtain ⟨hkeys, r, hr, res, hres, hstar⟩ := hp
  refine ⟨s, r, res, hs, hr, hres, hstar, fun hi => ?_⟩
  obtain ⟨x, hx, q, hq, -⟩ := hi.admin (by rw [Dict.contains, hstar]; rfl)
  have hmem : x ∈ s.relations.keys := by
    rw [← Dict.get?_isSome_iff, hq]
    rfl
  rw [hkeys, List.mem_singleton] at hmem
  exact hx hmem

/-- A plain `db` relation leaves nothing behind. -/
theorem undone_plain :
    ∃ s r res, (machine Text.asciiLower).Reach Machine.always s ∧ s.relations.get? 1 = some r ∧
      onBroken (sampleHook 0) s 1 r = some res ∧
      Undone Text.asciiLower s 1 s.databases res.app.databases := by
  obtain ⟨s, hs, hp⟩ := Machine.exists_reach_of_exec (machine Text.asciiLower)
    Machine.always sampleApp [.relate 1 .db, .write 1 (asking "a"), .joined (sampleHook 0) 1]
    (fun s => s.leader == 0 && (s.databases.get? "*").isNone &&
      (s.relations.get? 1).any fun r => (r.unit 0).contains "user" &&
        (r.unit 0).contains "database" && !(s.peerUnit 0).contains (departFlag r.endpoint 1) &&
        (onBroken (sampleHook 0) s 1 r).isSome) rfl (by decide)
  simp only [Bool.and_eq_true, Option.any_eq_true, beq_iff_eq, Bool.not_eq_true',
    Option.isNone_iff_eq_none] at hp
  obtain ⟨⟨hleader, hstar⟩, r, hr, ⟨⟨huser, hdb⟩, hflag⟩, hsome⟩ := hp
  obtain ⟨res, hres⟩ := Option.isSome_iff_exists.mp hsome
  refine ⟨s, r, res, hs, hr, hres, (undone_iff (h := sampleHook 0) hleader.symm rfl hflag hres).mpr
    ⟨.inl fun _ => ⟨huser, hdb⟩, fun star hs => ?_⟩⟩
  rw [hstar] at hs
  cases hs

end Setup

end PgBouncerK8s
