import Mathlib.Data.List.Forall2
import PgBouncerK8s.Lib.Text

/-!
# The userlist

The text of PgBouncer's `auth_file` (`backend_database.py`, lines 381–385): one
line `"user" "hash"` for each user, joined by newlines. User names and hashes
are `Plain`, they have neither quotes nor newlines: names are made of
application names and user names of the backend, hashes are MD5 digests or
SCRAM verifiers.

* `startswith_line_iff`, `user_of_startswith`: a line starts with the quoted
  name of its own user only.
* `wellFormed_pair`: one line for each of the two users.
* `WellFormed.append`, `WellFormed.rehash`: adding the line of another user and
  replacing hashes line by line keep a file well formed.
-/

namespace PgBouncerK8s.Auth

/-! ## Plain texts -/

/-- The text has no double quote and no newline. -/
def IsPlain (s : String) : Prop := ∀ c ∈ s.toList, c ≠ '\x22' ∧ c ≠ '\n'

-- over the characters of the text, not over all characters
instance (s : String) : Decidable (IsPlain s) := List.decidableBAll _ s.toList

/-- A text without double quotes and newlines. -/
abbrev Plain := { s : String // IsPlain s }

theorem IsPlain.append {s t : String} (hs : IsPlain s) (ht : IsPlain t) : IsPlain (s ++ t) := by
  intro c hc
  rw [String.toList_append, List.mem_append] at hc
  exact hc.elim (hs c) (ht c)

theorem IsPlain.replace {s : String} (hs : IsPlain s) {a b : Char} (hb : b ≠ '\x22' ∧ b ≠ '\n') :
    IsPlain (Text.replace a b s) := by
  intro c hc
  rw [Text.replace, String.toList_ofList, List.mem_map] at hc
  obtain ⟨d, hd, rfl⟩ := hc
  split_ifs
  · exact hb
  · exact hs d hd

/-- What the three users of the charm are for. -/
inductive Role
  | auth
  | stats
  | admin
  deriving DecidableEq

def Role.tag : Role → String
  | .auth => "auth"
  | .stats => "stats"
  | .admin => "admin"

/-- `f"pgbouncer_{tag}_{name}".replace("-", "_")` (`backend_database.py`,
    lines 161–182). -/
def systemUser (r : Role) (name : Plain) : Plain :=
  ⟨Text.replace '-' '_' ("pgbouncer_" ++ r.tag ++ "_" ++ name.1), by
    have htag : IsPlain r.tag := by cases r <;> decide
    have hpre : IsPlain "pgbouncer_" := by decide
    have hsep : IsPlain "_" := by decide
    exact (((hpre.append htag).append hsep).append name.2).replace (by decide)⟩

/-- The twelfth character of the name tells the users apart. -/
theorem systemUser_injective {r r' : Role} {name name' : Plain}
    (h : systemUser r name = systemUser r' name') : r = r' := by
  have hl := congrArg (fun u : Plain => u.1.toList[11]?) h
  cases r <;> cases r' <;> first | rfl | simp [systemUser, Text.replace, Role.tag] at hl

/-! ## Lines -/

/-- One line of the file. -/
structure Entry where
  user : Plain
  hash : Plain

/-- The opening of the line of a user: its quoted name and a blank. -/
def opening (user : Plain) : String := "\"" ++ user.1 ++ "\" "

/-- `f'"{user}" "{hash}"'`. -/
def Entry.line (e : Entry) : String := opening e.user ++ "\"" ++ e.hash.1 ++ "\""

theorem Entry.newline_not_mem (e : Entry) : '\n' ∉ e.line.toList := by
  intro h
  simp only [Entry.line, opening, String.toList_append, List.mem_append] at h
  rcases h with ((((h | h) | h) | h) | h) | h
  · revert h; decide
  · exact (e.user.2 _ h).2 rfl
  · revert h; decide
  · revert h; decide
  · exact (e.hash.2 _ h).2 rfl
  · revert h; decide

/-- Two texts that start with a quoted plain name start with the same name. -/
theorem opening_cancel {u v : Plain} {s t : List Char}
    (h : (opening u).toList ++ s = (opening v).toList ++ t) : u = v := by
  have hu : ∀ c ∈ u.1.toList, (c != '\x22') = true := fun c hc => by simpa using (u.2 c hc).1
  have hv : ∀ c ∈ v.1.toList, (c != '\x22') = true := fun c hc => by simpa using (v.2 c hc).1
  have hq : "\"".toList = ['\x22'] := by decide
  have hqb : "\" ".toList = ['\x22', ' '] := by decide
  simp only [opening, String.toList_append, hq, hqb, List.cons_append, List.cons.injEq, true_and,
    List.append_assoc, List.nil_append] at h
  have htake := congrArg (List.takeWhile (· != '\x22')) h
  rw [List.takeWhile_append_of_pos hu, List.takeWhile_append_of_pos hv] at htake
  simp only [List.takeWhile_cons, bne_self_eq_false, Bool.false_eq_true, if_false,
    List.append_nil] at htake
  exact Subtype.ext (String.toList_inj.mp htake)

theorem startswith_line_iff (e : Entry) (u : Plain) :
    Text.startswith e.line (opening u) = true ↔ e.user = u := by
  rw [Text.startswith, List.isPrefixOf_iff_prefix]
  constructor
  · rintro ⟨s, hs⟩
    simp only [Entry.line, String.toList_append, List.append_assoc] at hs
    exact (opening_cancel hs).symm
  · rintro rfl
    simp only [Entry.line, String.toList_append, List.append_assoc]
    exact List.prefix_append _ _

/-- `monitoring_prefix` (`upgrade.py`, line 118). -/
def monitoringPrefix (statsUser : Plain) : String := opening statsUser ++ "\"md5"

theorem user_of_startswith {e : Entry} {u : Plain}
    (h : Text.startswith e.line (monitoringPrefix u) = true) : e.user = u := by
  rw [← startswith_line_iff]
  rw [Text.startswith, List.isPrefixOf_iff_prefix] at h ⊢
  refine List.IsPrefix.trans ?_ h
  rw [monitoringPrefix, String.toList_append]
  exact List.prefix_append _ _

/-! ## Files -/

/-- The number of lines for a user. -/
def lineCount (user : Plain) (content : String) : ℕ :=
  (Text.split '\n' content).countP fun line => Text.startswith line (opening user)

/-- All lines have the shape of an entry, with one for the auth user, where
    there is one, and one for the stats user. -/
structure WellFormed (authUser : Option Plain) (statsUser : Plain) (content : String) : Prop where
  shape : ∀ line ∈ Text.split '\n' content, ∃ e : Entry, line = e.line
  auth : ∀ u, authUser = some u → lineCount u content = 1
  stats : lineCount statsUser content = 1

variable {authUser : Option Plain} {statsUser : Plain} {content : String}

theorem split_line (e : Entry) : Text.split '\n' e.line = [e.line] :=
  Text.split_of_not_mem e.newline_not_mem

theorem split_append_line (content : String) (e : Entry) :
    Text.split '\n' (content ++ "\n" ++ e.line) = Text.split '\n' content ++ [e.line] :=
  Text.split_append content (by decide) e.newline_not_mem

theorem lineCount_line (u : Plain) (e : Entry) :
    lineCount u e.line = if e.user = u then 1 else 0 := by
  simp only [lineCount, split_line, List.countP_singleton, startswith_line_iff]

theorem lineCount_append (u : Plain) (content : String) (e : Entry) :
    lineCount u (content ++ "\n" ++ e.line) =
      lineCount u content + if e.user = u then 1 else 0 := by
  simp only [lineCount, split_append_line, List.countP_append, List.countP_singleton,
    startswith_line_iff]

/-- A line for neither of the two users does no harm. -/
theorem WellFormed.append (h : WellFormed authUser statsUser content) {e : Entry}
    (hauth : ∀ u, authUser = some u → e.user ≠ u) (hstats : e.user ≠ statsUser) :
    WellFormed authUser statsUser (content ++ "\n" ++ e.line) where
  shape line hl := by
    rw [split_append_line, List.mem_append, List.mem_singleton] at hl
    rcases hl with hl | rfl
    · exact h.shape line hl
    · exact ⟨e, rfl⟩
  auth u hu := by rw [lineCount_append, if_neg (hauth u hu), h.auth u hu]
  stats := by rw [lineCount_append, if_neg hstats, h.stats]

/-- One line for each of two users. -/
theorem wellFormed_pair {a s : Entry} (hauth : ∀ u, authUser = some u → a.user = u ∧ s.user ≠ u)
    (hstats : s.user = statsUser) (hne : a.user ≠ statsUser) :
    WellFormed authUser statsUser (a.line ++ "\n" ++ s.line) where
  shape line hl := by
    rw [split_append_line, split_line, List.singleton_append, List.mem_cons,
      List.mem_singleton] at hl
    rcases hl with rfl | rfl
    · exact ⟨a, rfl⟩
    · exact ⟨s, rfl⟩
  auth u hu := by
    obtain ⟨h₁, h₂⟩ := hauth u hu
    rw [lineCount_append, lineCount_line, if_pos h₁, if_neg h₂]
  stats := by rw [lineCount_append, lineCount_line, if_neg hne, if_pos hstats]

/-- `line'` is `line`, or both are entries of the same user. -/
def Rehashed (line line' : String) : Prop :=
  line' = line ∨ ∃ e e' : Entry, line = e.line ∧ line' = e'.line ∧ e'.user = e.user

theorem Rehashed.startswith_eq {line line' : String} (h : Rehashed line line') (u : Plain) :
    Text.startswith line' (opening u) = Text.startswith line (opening u) := by
  rcases h with rfl | ⟨e, e', rfl, rfl, hu⟩
  · rfl
  · rw [Bool.eq_iff_iff, startswith_line_iff, startswith_line_iff, hu]

theorem shape_rehashed {lines lines' : List String} (hl : List.Forall₂ Rehashed lines lines')
    (h : ∀ line ∈ lines, ∃ e : Entry, line = e.line) :
    ∀ line ∈ lines', ∃ e : Entry, line = e.line := by
  induction hl with
  | nil => exact h
  | cons hr _ ih =>
    rw [List.forall_mem_cons] at h ⊢
    refine ⟨?_, ih h.2⟩
    rcases hr with rfl | ⟨_, e', -, rfl, -⟩
    · exact h.1
    · exact ⟨e', rfl⟩

theorem countP_rehashed {lines lines' : List String} (hl : List.Forall₂ Rehashed lines lines')
    (u : Plain) : lines'.countP (fun line => Text.startswith line (opening u)) =
      lines.countP fun line => Text.startswith line (opening u) := by
  induction hl with
  | nil => rfl
  | cons hr _ ih => rw [List.countP_cons, List.countP_cons, ih, hr.startswith_eq]

/-- Replacing hashes line by line. -/
theorem WellFormed.rehash (h : WellFormed authUser statsUser content) {lines : List String}
    (hl : List.Forall₂ Rehashed (Text.split '\n' content) lines) :
    WellFormed authUser statsUser (Text.join '\n' lines) := by
  have hshape := shape_rehashed hl h.shape
  have hsplit : Text.split '\n' (Text.join '\n' lines) = lines := by
    apply Text.split_join
    · rintro rfl
      exact Text.split_ne_nil '\n' content (List.forall₂_nil_right_iff.mp hl)
    · intro line hline
      obtain ⟨e, rfl⟩ := hshape line hline
      exact e.newline_not_mem
  have hcount : ∀ u, lineCount u (Text.join '\n' lines) = lineCount u content := by
    intro u
    rw [lineCount, hsplit, countP_rehashed hl, lineCount]
  refine ⟨?_, ?_, ?_⟩
  · rwa [hsplit]
  · intro u hu
    rw [hcount, h.auth u hu]
  · rw [hcount, h.stats]

end PgBouncerK8s.Auth
