import PgBouncerK8s.Routing.Emitted

/-!
# Reading the databases out of an old configuration

Before the map of the databases was kept in the peer databag, the whole ini file
was, as the secret `cfg_file`. `get_relation_databases` (`charm.py`,
lines 877–902) reads the databases back from its `[databases]` section by
dropping the names that look like aliases. It does so on followers only.

* `mem_keys_of_generated`: the names of a generated section are databases and
  aliases.
* `recovered_of_generated`: every follower gets the databases back, each once;
  the leader gets the empty map until it rebuilds it.
* `not_recovered_leader`: the leader does not read the old file.
-/

namespace PgBouncerK8s

/-! ## Model -/

/-- The name looks like an alias (`charm.py`, line 894). -/
def looksLikeAlias (name : String) : Bool :=
  Text.endswith name "_standby" || Text.endswith name "_readonly"

/-- A `[databases]` section that `_get_relation_config` makes for the databases
    `names`: their names and their aliases. -/
def Generated (names options : List String) : Prop :=
  ∃ iter b old config, getRelationConfig iter b old = some config ∧
    (∀ d ∈ old.values, d.name ∈ names) ∧ old.get? "*" = none ∧
    (∀ name ∈ names, name ∈ config.keys) ∧ options = config.keys

/-- The peer data holds the old secret only, with `options` in its section; the
    reader pops `DEFAULT`. -/
def OldData (s : App) (options : List String) : Prop :=
  s.pgbDbsConfig = none ∧ s.cfgDatabases = some (options.filter (· ≠ "DEFAULT"))

/-- Unit `u` gets an entry for each of the databases `names`, once, and no
    other. -/
def Recovered (s : App) (u : UnitId) (names : List String) : Prop :=
  ((getRelationDatabases s u).values.map DbEntry.name).Perm names

/-! ## Names and aliases -/

variable {names options : List String} {s : App} {u : UnitId} {d : DbEntry} {n : String}

theorem endswith_append (s t : String) : Text.endswith (s ++ t) t = true := by
  rw [Text.endswith, List.isSuffixOf_iff_suffix, String.toList_append]
  exact List.suffix_append _ _

theorem looksLikeAlias_of_mem_aliases (h : n ∈ d.aliases) : looksLikeAlias n = true := by
  unfold looksLikeAlias
  rcases ((Emitted.mem_aliases_iff d n).mp h).2 with ⟨-, rfl⟩ | ⟨-, -, rfl⟩
  · rw [endswith_append, Bool.or_true]
  · rw [endswith_append, Bool.true_or]

/-- Without the wildcard the keys of the routes are the databases and their
    aliases. -/
theorem mem_keys_routes {dbs : Dbs} (hstar : dbs.get? "*" = none)
    (h : n ∈ (routes dbs).keys) : ∃ d ∈ dbs.values, n = d.name ∨ n ∈ d.aliases := by
  rw [Emitted.mem_keys_iff] at h
  unfold routes at h
  simp only [hstar] at h
  obtain ⟨v, hv⟩ := (Dict.contains_setAll_empty _ _).mp h
  obtain ⟨d, hd, hmem⟩ := List.mem_flatMap.mp hv
  refine ⟨d, hd, ?_⟩
  unfold DbEntry.routes at hmem
  split_ifs at hmem
  · cases hmem
  · rcases List.mem_cons.mp hmem with hmem | hmem
    · exact .inl (congrArg Prod.fst hmem)
    · obtain ⟨a, hal, he⟩ := List.mem_map.mp hmem
      obtain rfl : a = n := congrArg Prod.fst he
      exact .inr hal

/-- A name of a generated section that does not look like an alias is a
    database. -/
theorem mem_of_generated (h : Generated names options) (hn : n ∈ options)
    (halias : looksLikeAlias n = false) : n ∈ names := by
  obtain ⟨iter, b, old, config, hcfg, hold, hstar, -, rfl⟩ := h
  rcases Emitted.getRelationConfig_cases hcfg with rfl | ⟨_, _, _, -, -, rfl⟩
  · exact absurd hn List.not_mem_nil
  · rw [Emitted.keys_mapValues] at hn
    obtain ⟨d, hd, rfl | hal⟩ := mem_keys_routes hstar hn
    · exact hold d hd
    · rw [looksLikeAlias_of_mem_aliases hal] at halias
      cases halias

theorem Generated.nodup (h : Generated names options) : options.Nodup := by
  obtain ⟨iter, b, old, config, -, -, -, -, rfl⟩ := h
  exact config.nodup

/-! ## The databases a unit reads -/

/-- For databases whose names do not look like aliases, every follower gets the
    old databases back; the leader does not read the old file. -/
theorem recovered_of_generated (hnodup : names.Nodup)
    (hnames : ∀ name ∈ names, looksLikeAlias name = false ∧ name ≠ "DEFAULT")
    (hgen : Generated names options) (hs : OldData s options) :
    (u ≠ s.leader → Recovered s u names) ∧
      (u = s.leader → getRelationDatabases s u = .empty) := by
  obtain ⟨hnone, hcfg⟩ := hs
  constructor
  · intro hu
    unfold Recovered
    rw [(getRelationDatabases_old hnone hu).1, oldDatabases, hcfg, Option.getD_some]
    refine (List.perm_ext_iff_of_nodup ((hgen.nodup.filter _).filter _) hnodup).mpr fun n => ?_
    have hkeep : n ∈ (options.filter (· ≠ "DEFAULT")).filter (fun name => !looksLikeAlias name) ↔
        (n ∈ options ∧ n ≠ "DEFAULT") ∧ looksLikeAlias n = false := by
      simp only [List.mem_filter, decide_eq_true_eq, Bool.not_eq_true']
    refine hkeep.trans ⟨fun h => mem_of_generated hgen h.1.1 h.2, fun h => ?_⟩
    obtain ⟨halias, hdefault⟩ := hnames n h
    obtain ⟨iter, b, old, config, -, -, -, hall, rfl⟩ := hgen
    exact ⟨⟨hall n h, hdefault⟩, halias⟩
  · rintro rfl
    exact getRelationDatabases_leader_of_none hnone

/-! ## The leader -/

/-- The map of one legacy relation. -/
def oldMap : Dbs := Dict.empty.set "1" ⟨"app", true, none⟩

/-- An application that still has the old file of `oldMap`. -/
def oldApp : App :=
  { Setup.sampleApp with
    pgbDbsConfig := none
    cfgDatabases := some ["app", "app_readonly", "app_standby"] }

theorem generated_oldMap : Generated ["app"] ["app", "app_readonly", "app_standby"] := by
  obtain ⟨config, hcfg⟩ : ∃ config, getRelationConfig id sampleBackend oldMap = some config :=
    Option.isSome_iff_exists.mp (by decide)
  have hkeys : (getRelationConfig id sampleBackend oldMap).map Dict.keys =
      some ["app", "app_readonly", "app_standby"] := by decide
  rw [hcfg, Option.map_some, Option.some_inj] at hkeys
  refine ⟨id, sampleBackend, oldMap, config, hcfg, by decide, by decide, ?_, hkeys.symm⟩
  rw [hkeys]
  decide

/-- The leader has lost the database. -/
theorem not_recovered_leader :
    Generated ["app"] ["app", "app_readonly", "app_standby"] ∧
      OldData oldApp ["app", "app_readonly", "app_standby"] ∧
      ¬ Recovered oldApp oldApp.leader ["app"] := by
  refine ⟨generated_oldMap, ⟨rfl, by decide⟩, ?_⟩
  unfold Recovered
  decide

/-- Its followers have it. -/
theorem recovered_follower : Recovered oldApp (oldApp.leader + 1) ["app"] :=
  (recovered_of_generated (by decide) (by decide) generated_oldMap ⟨rfl, by decide⟩).1 (by decide)

end PgBouncerK8s
