import Mathlib.Algebra.Order.Floor.Div
import Mathlib.Data.Rat.Floor
import Mathlib.Tactic.Ring
import PgBouncerK8s.Routing.Injection

/-!
# Pool sizes and the connection budget

The pool settings that `render_pgb_config` computes (`charm.py`, lines 1035–1044)
and that every instance of the unit is rendered with (`pgb_config.j2`,
lines 30–34). The sizes are ceilings of parts of the number of connections for
one instance; `max_db_connections` itself is not divided.

* `poolSize_le_iff`: what a ceiling is below.
* `settings_rendered`: the lines of the files.
* `pools_iff`: when the pools of all instances are within the budget.
* `budget_exact`: the limits of the instances together never are.
-/

namespace PgBouncerK8s.PoolSizes

open Text (str)

/-! ## Model -/

/-- The settings of one instance. -/
structure Settings where
  maxDbConnections : ℕ
  defaultPoolSize : ℕ
  minPoolSize : ℕ
  reservePoolSize : ℕ

/-- A part of the connections of one instance, `math.ceil(effective / n)`. -/
def poolSize (effective : ℚ) (n : ℕ) : ℕ := ⌈effective / n⌉₊

section Model

variable (sh : Shared)

/-- `effective_db_connections` (line 1041). -/
def effectiveDbConnections : ℚ := sh.config.maxDbConnections / sh.cores

/-- The settings passed to the template (lines 1035–1044). -/
def settings : Settings :=
  let m := sh.config.maxDbConnections
  if m = 0 then ⟨m, 20, 10, 10⟩
  else
    let effective := effectiveDbConnections sh
    ⟨m, poolSize effective 2, poolSize effective 4, poolSize effective 4⟩

/-- The settings of the instances of a unit, which all get the same. -/
def instances : List Settings := (List.range sh.cores).map fun _ => settings sh

/-- The minimum is positive and not above the default. -/
def SizesOrdered : Prop :=
  1 ≤ (settings sh).minPoolSize ∧ (settings sh).minPoolSize ≤ (settings sh).defaultPoolSize

/-- The connections the instances together allow for one database. -/
def totalLimit : ℕ := ((instances sh).map Settings.maxDbConnections).sum

/-- The connections of the pools of one database over all instances. -/
def totalPools : ℕ :=
  ((instances sh).map fun s => s.defaultPoolSize + s.reservePoolSize).sum

/-- The rendered sizes are within the budget of `max_db_connections` for the
    unit. -/
structure RespectsBudget : Prop where
  ordered : SizesOrdered sh
  limit : totalLimit sh ≤ sh.config.maxDbConnections
  pools : totalPools sh ≤ sh.config.maxDbConnections

end Model

/-! ## The ceilings -/

variable {sh : Shared}

/-- A size is at most `k` when `n * k` of them are enough for all instances. -/
theorem poolSize_le_iff {n : ℕ} (hn : 0 < n) (k : ℕ) :
    poolSize (effectiveDbConnections sh) n ≤ k ↔ sh.config.maxDbConnections ≤ n * sh.cores * k := by
  have hcores : (0 : ℚ) < sh.cores := by exact_mod_cast cores_pos sh
  have hn : (0 : ℚ) < n := by exact_mod_cast hn
  rw [poolSize, Nat.ceil_le, effectiveDbConnections, div_div, div_le_iff₀ (mul_pos hcores hn)]
  have hprod : (k : ℚ) * (sh.cores * n) = ((n * sh.cores * k : ℕ) : ℚ) := by
    push_cast
    ring
  rw [hprod, Nat.cast_le]

/-- The sizes are those of the rendered file. -/
theorem poolSizes_eq (sh : Shared) :
    sh.poolSizes = ((settings sh).defaultPoolSize, (settings sh).minPoolSize,
      (settings sh).reservePoolSize) := by
  have hceil : ∀ n, 0 < n → (sh.config.maxDbConnections + (n * sh.cores - 1)) / (n * sh.cores) =
      poolSize (effectiveDbConnections sh) n := by
    intro n hn
    have hpos : 0 < n * sh.cores := Nat.mul_pos hn (cores_pos sh)
    refine eq_of_forall_ge_iff fun k => ?_
    rw [poolSize_le_iff hn, ← ceilDiv_le_iff_le_mul hpos, Nat.ceilDiv_eq_add_pred_div,
      Nat.add_sub_assoc hpos]
  unfold Shared.poolSizes settings
  by_cases h : sh.config.maxDbConnections = 0
  · simp [h]
  · simp [h, hceil 2 (by decide), hceil 4 (by decide)]

/-! ## The files -/

/-- The lines of the settings (`pgb_config.j2`, lines 30–34). -/
def Settings.lines (s : Settings) : List String :=
  ["max_db_connections = " ++ str s.maxDbConnections,
    "default_pool_size = " ++ str s.defaultPoolSize, "min_pool_size = " ++ str s.minPoolSize,
    "reserve_pool_size = " ++ str s.reservePoolSize]

/-- The text has the line, between two line breaks. -/
def HasLine (line text : String) : Prop := '\n' :: (line.toList ++ ['\n']) <:+: text.toList

theorem HasLine.append {line text : String} (h : HasLine line text) (t : String) :
    HasLine line (text ++ t) := by
  unfold HasLine
  rw [String.toList_append]
  exact h.trans (List.prefix_append _ _).isInfix

theorem hasLine_setting (text : String) {key key' value next : String}
    (hkey : key.toList = '\n' :: key'.toList) (hnext : next.toList.head? = some '\n') :
    HasLine (key' ++ value) (text ++ key ++ value ++ next) := by
  obtain ⟨rest, hrest⟩ := List.head?_eq_some_iff.mp hnext
  refine ⟨text.toList, rest, ?_⟩
  simp [String.toList_append, hkey, hrest]

theorem HasLine.mem_contentLines {line text : String} (h : HasLine line text)
    (hplain : '\n' ∉ line.toList) (hv : Lines.Visible Char.isWhitespace line.toList) :
    line.toList ∈ Injection.contentLines text := by
  obtain ⟨a, b, htext⟩ := h
  have htext : text.toList = a ++ '\n' :: (line.toList ++ '\n' :: b) := by
    rw [← htext]
    simp
  rw [Injection.contentLines, htext, Lines.content_append, Lines.content_append,
    Lines.content_of_not_mem hplain hv]
  simp

/-- A setting with a number is a line. -/
theorem HasLine.mem_contentLines_setting {key text : String} {n : ℕ}
    (h : HasLine (key ++ str n) text) (hplain : '\n' ∉ key.toList) (hkey : '_' ∈ key.toList) :
    (key ++ str n).toList ∈ Injection.contentLines text := by
  refine h.mem_contentLines ?_ ⟨'_', ?_, by decide⟩
  · rw [String.toList_append, List.mem_append, not_or]
    refine ⟨hplain, fun hmem => ?_⟩
    exact absurd (Text.isDigit_of_mem_str hmem) (by decide)
  · rw [String.toList_append]
    exact List.mem_append_left _ hkey

theorem maxDbConnections_settings (sh : Shared) :
    (settings sh).maxDbConnections = sh.config.maxDbConnections := by
  unfold settings
  by_cases h : sh.config.maxDbConnections = 0 <;> simp [h]

/-- Every file has the settings of its instance, each on its own line. -/
theorem settings_rendered {iter : List String → List String} {dbs : Dbs} {authFile text : String}
    {id : ℕ} (h : ini iter sh dbs authFile id = some text) :
    ∀ line ∈ (settings sh).lines, line.toList ∈ Injection.contentLines text := by
  obtain ⟨databases, -, h⟩ := Option.bind_eq_some_iff.mp h
  obtain ⟨readonlyDatabases, -, rfl⟩ := Option.map_eq_some_iff.mp h
  rw [Injection.contentLines_render]
  suffices hsection : ∀ line ∈ (settings sh).lines,
      line.toList ∈ Injection.contentLines (pgbouncerSection sh authFile id) from
    fun line hline => List.mem_cons_of_mem _ (List.mem_append_right _ (hsection line hline))
  unfold pgbouncerSection
  rw [poolSizes_eq, ← maxDbConnections_settings]
  simp only [Settings.lines, List.forall_mem_cons, List.not_mem_nil, false_imp_iff, implies_true,
    and_true]
  -- the texts of the section behind each of the settings are taken away first
  refine ⟨HasLine.mem_contentLines_setting ?_ (by decide) (by decide),
    HasLine.mem_contentLines_setting ?_ (by decide) (by decide),
    HasLine.mem_contentLines_setting ?_ (by decide) (by decide),
    HasLine.mem_contentLines_setting ?_ (by decide) (by decide)⟩
  · iterate 14 refine HasLine.append ?_ _
    exact hasLine_setting _ (by decide) (by decide)
  · iterate 10 refine HasLine.append ?_ _
    exact hasLine_setting _ (by decide) (by decide)
  · iterate 8 refine HasLine.append ?_ _
    exact hasLine_setting _ (by decide) (by decide)
  · iterate 6 refine HasLine.append ?_ _
    exact hasLine_setting _ (by decide) (by decide)

/-! ## The budget -/

theorem settings_of_pos (h : 0 < sh.config.maxDbConnections) :
    settings sh = ⟨sh.config.maxDbConnections, poolSize (effectiveDbConnections sh) 2,
      poolSize (effectiveDbConnections sh) 4, poolSize (effectiveDbConnections sh) 4⟩ :=
  if_neg h.ne'

theorem sizesOrdered (h : 0 < sh.config.maxDbConnections) : SizesOrdered sh := by
  have hmin : ∀ k, poolSize (effectiveDbConnections sh) 4 ≤ k ↔ _ := poolSize_le_iff (by decide)
  have hdefault : ∀ k, poolSize (effectiveDbConnections sh) 2 ≤ k ↔ _ := poolSize_le_iff (by decide)
  unfold SizesOrdered
  rw [settings_of_pos h]
  constructor
  · have hzero := (hmin 0).not.mpr (by omega)
    exact Nat.one_le_iff_ne_zero.mpr fun he => hzero he.le
  · rw [hmin]
    have hle := (hdefault _).mp le_rfl
    have hmono := Nat.mul_le_mul_right (poolSize (effectiveDbConnections sh) 2)
      (Nat.mul_le_mul_right sh.cores (by decide : 2 ≤ 4))
    exact hle.trans hmono

/-- Every instance enforces the whole of the limit. -/
theorem totalLimit_eq (sh : Shared) : totalLimit sh = sh.cores * sh.config.maxDbConnections := by
  simp [totalLimit, instances, maxDbConnections_settings]

theorem totalPools_eq (sh : Shared) : totalPools sh =
    sh.cores * ((settings sh).defaultPoolSize + (settings sh).reservePoolSize) := by
  simp [totalPools, instances]

/-- `c` times the ceilings of a half and of a quarter of `m / c` is at most `m`
    where rounding up twice costs no more than the quarter that is left. -/
theorem ceilings_le_iff {m c half quarter : ℕ} (hm : 0 < m)
    (hhalf : ∀ k, half ≤ k ↔ m ≤ 2 * c * k) (hquarter : ∀ k, quarter ≤ k ↔ m ≤ 4 * c * k) :
    c * (half + quarter) ≤ m ↔ m = 2 * c ∨ 3 * c ≤ m ∧ m ≤ 4 * c ∨ 5 * c ≤ m := by
  have hupper : ∀ i j, m ≤ 2 * c * i → m ≤ 4 * c * j → c * (half + quarter) ≤ c * (i + j) :=
    fun i j hi hj =>
      Nat.mul_le_mul_left c (Nat.add_le_add ((hhalf i).mpr hi) ((hquarter j).mpr hj))
  have hlower : ∀ i j, 2 * c * i < m → 4 * c * j < m →
      c * (i + 1 + (j + 1)) ≤ c * (half + quarter) := fun i j hi hj =>
    Nat.mul_le_mul_left c (Nat.add_le_add (not_le.mp ((hhalf i).not.mpr hi.not_ge))
      (not_le.mp ((hquarter j).not.mpr hj.not_ge)))
  constructor
  · intro hle
    by_contra hno
    by_cases h₁ : m < 2 * c
    · have := hlower 0 0 (by omega) (by omega)
      omega
    by_cases h₂ : m < 3 * c
    · have := hlower 1 0 (by omega) (by omega)
      omega
    · have := hlower 2 1 (by omega) (by omega)
      omega
  · rintro (h | ⟨h₁, h₂⟩ | h)
    · have := hupper 1 1 (by omega) (by omega)
      omega
    · have := hupper 2 1 (by omega) (by omega)
      omega
    by_cases h₁ : m ≤ 6 * c
    · have := hupper 3 2 (by omega) (by omega)
      omega
    by_cases h₂ : m ≤ 8 * c
    · have := hupper 4 2 (by omega) (by omega)
      omega
    -- each rounding costs less than one
    obtain ⟨i, rfl⟩ : ∃ i, half = i + 1 :=
      Nat.exists_eq_succ_of_ne_zero fun he => (hhalf 0).not.mpr (by omega) he.le
    obtain ⟨j, rfl⟩ : ∃ j, quarter = j + 1 :=
      Nat.exists_eq_succ_of_ne_zero fun he => (hquarter 0).not.mpr (by omega) he.le
    have hi : 2 * (c * i) < m := by
      rw [← Nat.mul_assoc]
      exact not_le.mp ((hhalf i).not.mp (by omega))
    have hj : 4 * (c * j) < m := by
      rw [← Nat.mul_assoc]
      exact not_le.mp ((hquarter j).not.mp (by omega))
    have hsum : c * (i + 1 + (j + 1)) = c * i + c * j + 2 * c := by ring
    omega

/-- The pools of all instances are within the budget exactly from five
    connections for each instance on, for three to four, and for two. -/
theorem pools_iff (h : 0 < sh.config.maxDbConnections) :
    totalPools sh ≤ sh.config.maxDbConnections ↔
      sh.config.maxDbConnections = 2 * sh.cores ∨
        3 * sh.cores ≤ sh.config.maxDbConnections ∧ sh.config.maxDbConnections ≤ 4 * sh.cores ∨
        5 * sh.cores ≤ sh.config.maxDbConnections := by
  rw [totalPools_eq, settings_of_pos h]
  exact ceilings_le_iff h (poolSize_le_iff (by decide)) (poolSize_le_iff (by decide))

/-- For every positive `max_db_connections` the sizes are ordered, but the unit
    is not kept within it: each of the instances, of which there are two at
    least, is given the whole of it as its limit. The pools alone are within it
    but for the smallest values. -/
theorem budget_exact (h : 0 < sh.config.maxDbConnections) :
    ¬ RespectsBudget sh ∧ SizesOrdered sh ∧ sh.config.maxDbConnections < totalLimit sh ∧
      (totalPools sh ≤ sh.config.maxDbConnections ↔
        sh.config.maxDbConnections = 2 * sh.cores ∨
          3 * sh.cores ≤ sh.config.maxDbConnections ∧
            sh.config.maxDbConnections ≤ 4 * sh.cores ∨
          5 * sh.cores ≤ sh.config.maxDbConnections) := by
  have hcores : 2 ≤ sh.cores := le_max_right _ _
  have hlimit : sh.config.maxDbConnections < totalLimit sh := by
    rw [totalLimit_eq]
    exact (Nat.lt_mul_iff_one_lt_left h).mpr hcores
  exact ⟨fun hb => hlimit.not_ge hb.limit, sizesOrdered h, hlimit, pools_iff h⟩

/-- With the default of 100 connections on four processors the limits allow for
    400. -/
theorem not_respectsBudget_default : ¬ RespectsBudget (sampleShared sampleBackend) := by
  intro h
  have hlimit := h.limit
  rw [totalLimit_eq] at hlimit
  revert hlimit
  decide

theorem budget_exact_default :
    ¬ RespectsBudget (sampleShared sampleBackend) ∧ SizesOrdered (sampleShared sampleBackend) ∧
      100 < totalLimit (sampleShared sampleBackend) ∧
      (totalPools (sampleShared sampleBackend) ≤ 100 ↔
        100 = 2 * 4 ∨ 3 * 4 ≤ 100 ∧ 100 ≤ 4 * 4 ∨ 5 * 4 ≤ 100) :=
  @budget_exact (sampleShared sampleBackend) (by decide)

end PgBouncerK8s.PoolSizes
