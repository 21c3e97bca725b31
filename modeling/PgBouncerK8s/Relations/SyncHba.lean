import Mathlib.Data.Prod.Lex
import PgBouncerK8s.Lib.Decimal
import PgBouncerK8s.Routing.Config

/-!
# Waiting for `pg_hba`

Models of `backend_version` and `sync_hba` (`backend_database.py`, lines 158–166
and 554–566). The wait is for versions from 14.16 on, and the versions are
compared as texts. `Retrying` swallows every exception of an attempt, and gives
up after the first attempt that ends 90 seconds or more after the start.

* `polls_poll`: the loop makes at least one and at most seven polls.
* `version_lt_iff`: the text order of versions is that of the major and then the
  minor number, each as a text.
* `gated_iff`: the versions for which the wait is decided by the numbers.
* `not_gated_minor`: 14.9 comes after 14.16.
-/

namespace PgBouncerK8s.SyncHba

open Text (str Misordered)

/-! ## Model -/

/-- `backend_version` (`backend_database.py`, lines 158–166). -/
def backendVersion (b : BackendData) : String :=
  if b.related then (b.databag.get "version").getD "" else ""

/-- What the attempts meet: the answer of `is_user_in_hba`, `none` where it
    raises, and the seconds each of them takes. -/
structure Polling where
  isUserInHba : ℕ → String → Option Bool
  duration : ℕ → ℕ

/-- How the wait ends, and after how many polls. -/
inductive HbaWait
  | skipped
  | found (polls : ℕ)
  | gaveUp (polls : ℕ)
  deriving DecidableEq

/-- The number of polls. -/
def HbaWait.polls : HbaWait → ℕ
  | .skipped => 0
  | .found polls => polls
  | .gaveUp polls => polls

/-- The loop over the attempts (lines 560–566), from the attempt `n` on, which
    begins `elapsed` seconds after the start. -/
def poll (w : Polling) (user : String) (n elapsed : ℕ) : HbaWait :=
  if w.isUserInHba n user = some true then .found (n + 1)
  else if 90 ≤ elapsed + w.duration n then .gaveUp (n + 1)
  else poll w user (n + 1) (elapsed + w.duration n + 15)
termination_by 90 - elapsed

/-- `sync_hba` (`backend_database.py`, lines 554–566). -/
def syncHba (b : BackendData) (w : Polling) (user : String) : HbaWait :=
  if backendVersion b ≠ "" ∧ backendVersion b < "14.16" then .skipped else poll w user 0 0

/-- The call returns without a poll exactly for versions below 14.16. -/
def GatedByVersion (b : BackendData) (w : Polling) (user : String) (major minor : ℕ) : Prop :=
  (syncHba b w user).polls = 0 ↔ toLex (major, minor) < toLex (14, 16)

/-! ## The loop -/

/-- An attempt begins at least 15 seconds after the one before. -/
theorem polls_poll (w : Polling) (user : String) {n elapsed : ℕ} (hn : 15 * n ≤ elapsed)
    (helapsed : elapsed < 105) :
    n < (poll w user n elapsed).polls ∧ (poll w user n elapsed).polls ≤ 7 := by
  induction n, elapsed using poll.induct w user with
  | case1 n elapsed hfound =>
    rw [poll, if_pos hfound, HbaWait.polls]
    omega
  | case2 n elapsed hfound hstop =>
    rw [poll, if_neg hfound, if_pos hstop, HbaWait.polls]
    omega
  | case3 n elapsed hfound hstop ih =>
    rw [poll, if_neg hfound, if_neg hstop]
    have ih := ih (by omega) (by omega)
    omega

/-- A call that polls does so at most seven times. -/
theorem polls_syncHba_le (b : BackendData) (w : Polling) (user : String) :
    (syncHba b w user).polls ≤ 7 := by
  unfold syncHba
  split_ifs
  · exact Nat.zero_le 7
  · exact (polls_poll w user (by decide : 15 * 0 ≤ 0) (by decide)).2

/-- The loop is skipped by the test of the version only. -/
theorem polls_syncHba_eq_zero_iff {b : BackendData} {w : Polling} {user : String} :
    (syncHba b w user).polls = 0 ↔ backendVersion b ≠ "" ∧ backendVersion b < "14.16" := by
  unfold syncHba
  split_ifs with h
  · exact iff_of_true rfl h
  · have hpos := (polls_poll w user (by decide : 15 * 0 ≤ 0) (by decide)).1
    exact iff_of_false hpos.ne' h

/-! ## Versions as texts -/

theorem dot_lt_of_mem_str {n : ℕ} {c : Char} (h : c ∈ (str n).toList) : '.' < c := by
  have hdigit := Text.isDigit_of_mem_str h
  simp only [Char.isDigit, Bool.and_eq_true, decide_eq_true_eq] at hdigit
  exact lt_of_lt_of_le (by decide : '.' < '0') hdigit.1

/-- The text order of versions goes by the texts of the major numbers and, for
    equal ones, by those of the minor numbers. -/
theorem version_lt_iff (major minor major' minor' : ℕ) :
    str major ++ "." ++ str minor < str major' ++ "." ++ str minor' ↔
      str major < str major' ∨ major = major' ∧ str minor < str minor' := by
  have htext : ∀ m n, (str m ++ "." ++ str n).toList = (str m).toList ++ '.' :: (str n).toList := by
    intro m n
    simp [String.toList_append]
  rw [String.lt_iff_toList_lt, htext, htext,
    Text.append_cons_lt_iff (fun _ => dot_lt_of_mem_str) fun _ => dot_lt_of_mem_str,
    String.toList_inj, Text.str_injective.eq_iff]
  rfl

/-- The wait is decided by the numbers exactly when the texts of the two parts
    are on the side of 14 and of 16 where the numbers are: the major version is
    not of one digit from 2 on nor of three or more that begin with 10 to 13,
    and the minor version of a 14 not of one digit from 2 on nor of three or
    more that begin with 10 to 15. -/
theorem gated_iff {b : BackendData} {major minor : ℕ}
    (hversion : backendVersion b = str major ++ "." ++ str minor) (w : Polling) (user : String) :
    GatedByVersion b w user major minor ↔
      ¬ Misordered 14 major ∧ (major = 14 → ¬ Misordered 16 minor) := by
  have hne : str major ++ "." ++ str minor ≠ "" := by
    intro h
    have hl := congrArg String.length h
    simp [String.length_append] at hl
  have hbound : "14.16" = str 14 ++ "." ++ str 16 := by decide
  have hmajor : (str major < str 14 ↔ major < 14) ↔ ¬ Misordered 14 major :=
    Text.str_lt_iff_iff (by decide) (by decide) major
  have hminor : (str minor < str 16 ↔ minor < 16) ↔ ¬ Misordered 16 minor :=
    Text.str_lt_iff_iff (by decide) (by decide) minor
  rw [GatedByVersion, polls_syncHba_eq_zero_iff, hversion, hbound, version_lt_iff,
    Prod.Lex.toLex_lt_toLex, ← hmajor, ← hminor]
  by_cases h : major = 14
  · subst h
    simp [hne]
  · simp [h, hne]

/-- PostgreSQL of the version. -/
def ofVersion (version : String) : BackendData := ⟨true, Databag.empty.set "version" version, none⟩

/-- No poll finds the user. -/
def unanswered : Polling := ⟨fun _ _ => some false, fun _ => 0⟩

/-- Version 14.9 is below 14.16, and its text is not. -/
theorem not_gated_minor : ¬ GatedByVersion (ofVersion "14.9") unanswered "u" 14 9 := by
  intro h
  have hlt : toLex (14, 9) < toLex (14, 16) := by decide
  have hzero := polls_syncHba_eq_zero_iff.mp (h.mpr hlt)
  revert hzero
  decide

/-- Version 14.15 is decided by its numbers. -/
theorem gated_belowBound : GatedByVersion (ofVersion "14.15") unanswered "u" 14 15 :=
  (gated_iff (by decide) unanswered "u").mpr
    ⟨Text.not_misordered (by decide) (by decide),
      fun _ => Text.not_misordered (by decide) (by decide)⟩

end PgBouncerK8s.SyncHba
