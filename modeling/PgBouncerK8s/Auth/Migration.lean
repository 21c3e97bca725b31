import PgBouncerK8s.Auth.Userlist
import PgBouncerK8s.Lib.Lines
import PgBouncerK8s.Routing.Render

/-!
# From MD5 to SCRAM

`_handle_md5_monitoring_auth` (`upgrade.py`, lines 113–141) looks at the lines
of the `auth_file` secret one by one, with `startswith`; `render_pgb_config`
(`charm.py`, lines 1030–1033) searches the whole text for the same pattern.

* `rehash_ok`, `rehash_error`: the loop with all hashes, and with one that fails.
* `startswith_of_infix_line`: within a line of two quoted texts the pattern can
  only be at the beginning.
* `migration_exact`: the migration replaces the lines it is about and no others,
  all of them or none, once; the pattern is not found any more.
-/

namespace PgBouncerK8s.Auth

/-! ## Model -/

/-- `_handle_md5_monitoring_auth` (`upgrade.py`, lines 113–141) with the name of
    the stats user as an argument; `answer k` is what the `k`-th call of
    `generate_scram_hash` ends with. -/
def handleMd5MonitoringAuthFor (statsUser : Plain) (answer : ℕ → Except Failure Plain)
    (leader : Bool) (c : Charm) : Option Charm :=
  match leader, c.authFile with
  | true, some authFile =>
    match rehash statsUser answer 0 (Text.split '\n' authFile) with
    | .error .psycopg2Error => some c
    | .error .other => none
    | .ok newAuth =>
      let newAuthFile := Text.join '\n' newAuth
      if newAuthFile ≠ authFile then some (c.setAuthFile newAuthFile) else some c
  | _, _ => some c

theorem handleMd5MonitoringAuth_eq (h : UpgradeHook) (c : Charm) :
    handleMd5MonitoringAuth h c = handleMd5MonitoringAuthFor (c.ownUser .stats)
      (fun k => c.generateScramHash h.connected (h.rehashed k)) h.leader c := rfl

/-- The line has an MD5 hash of the stats user. -/
def isMd5 (statsUser : Plain) (line : String) : Bool :=
  Text.startswith line (monitoringPrefix statsUser)

/-- The number of hashes the migration asks for. -/
def md5Count (statsUser : Plain) (lines : List String) : ℕ := lines.countP (isMd5 statsUser)

/-- What the migration makes of one line. -/
def Migrates (statsUser : Plain) (answer : ℕ → Except Failure Plain) (line line' : String) : Prop :=
  if isMd5 statsUser line then ∃ k hash, answer k = .ok hash ∧ line' = Entry.line ⟨statsUser, hash⟩
  else line' = line

/-- The lines that are not about an MD5 hash of the stats user are where they
    were, and there is no other line left. -/
structure Migrated (statsUser : Plain) (text newText : String) : Prop where
  kept : List.Forall₂ (fun line line' => isMd5 statsUser line = false → line' = line)
    (Text.split '\n' text) (Text.split '\n' newText)
  gone : ∀ line ∈ Text.split '\n' newText, isMd5 statsUser line = false

/-! ## One line -/

variable {statsUser : Plain} {answer : ℕ → Except Failure Plain} {c : Charm}
  {line line' text : String} {lines lines' : List String} {k : ℕ}

/-- The line of a hash is to be migrated iff the hash starts with `md5`. -/
theorem isMd5_line {hash : Plain} :
    isMd5 statsUser (Entry.line ⟨statsUser, hash⟩) = Text.startswith hash.1 "md5" := by
  have hmd5 : "\"md5".toList = '\x22' :: "md5".toList := by decide
  have hquote : "\"".toList = ['\x22'] := by decide
  rw [Bool.eq_iff_iff]
  simp only [isMd5, Text.startswith, monitoringPrefix, Entry.line, List.isPrefixOf_iff_prefix,
    String.toList_append, List.append_assoc, List.prefix_append_right_inj, hmd5, hquote,
    List.cons_append, List.nil_append, List.cons_prefix_cons, true_and]
  constructor
  · intro h
    exact Lines.prefix_of_not_mem h (by decide)
  · rintro ⟨s, hs⟩
    exact ⟨s ++ ['\x22'], by rw [← List.append_assoc, hs]⟩

theorem Migrates.gone (h : Migrates statsUser answer line line')
    (hmd5 : ∀ k hash, answer k = .ok hash → Text.startswith hash.1 "md5" = false) :
    isMd5 statsUser line' = false := by
  unfold Migrates at h
  split_ifs at h with hl
  · obtain ⟨k, hash, hk, rfl⟩ := h
    rw [isMd5_line]
    exact hmd5 k hash hk
  · rw [h]
    simpa using hl

theorem Migrates.newline_not_mem (h : Migrates statsUser answer line line')
    (hl : '\n' ∉ line.toList) : '\n' ∉ line'.toList := by
  unfold Migrates at h
  split_ifs at h
  · obtain ⟨k, hash, -, rfl⟩ := h
    exact Entry.newline_not_mem _
  · rwa [h]

theorem Migrates.ne_empty (h : Migrates statsUser answer line line') (hne : line' ≠ line) :
    line' ≠ "" := by
  unfold Migrates at h
  split_ifs at h
  · obtain ⟨k, hash, -, rfl⟩ := h
    intro he
    have hl := congrArg String.length he
    simp [Entry.line, opening, String.length_append] at hl
  · exact absurd h hne

/-! ## The loop -/

theorem rehash_cons_md5 (h : isMd5 statsUser line = true) :
    rehash statsUser answer k (line :: lines) = (do
      let hash ← answer k
      let newAuth ← rehash statsUser answer (k + 1) lines
      return Entry.line ⟨statsUser, hash⟩ :: newAuth) :=
  if_pos h

theorem rehash_cons_keep (h : isMd5 statsUser line = false) :
    rehash statsUser answer k (line :: lines) = (do
      let newAuth ← rehash statsUser answer k lines
      return line :: newAuth) :=
  if_neg (ne_true_of_eq_false h)

theorem md5Count_cons_md5 (h : isMd5 statsUser line = true) :
    md5Count statsUser (line :: lines) = md5Count statsUser lines + 1 :=
  List.countP_cons_of_pos h

theorem md5Count_cons_keep (h : isMd5 statsUser line = false) :
    md5Count statsUser (line :: lines) = md5Count statsUser lines :=
  List.countP_cons_of_neg (ne_true_of_eq_false h)

theorem exists_of_isOk {x : Except Failure Plain} (h : x.isOk = true) : ∃ hash, x = .ok hash := by
  cases x with
  | ok hash => exact ⟨hash, rfl⟩
  | error e => cases h

/-- Where all hashes are generated the loop goes through. -/
theorem rehash_ok (h : ∀ i < md5Count statsUser lines, (answer (k + i)).isOk = true) :
    ∃ lines', rehash statsUser answer k lines = .ok lines' ∧
      List.Forall₂ (Migrates statsUser answer) lines lines' := by
  induction lines generalizing k with
  | nil => exact ⟨[], rfl, .nil⟩
  | cons line lines ih =>
    cases hl : isMd5 statsUser line with
    | true =>
      rw [md5Count_cons_md5 hl] at h
      obtain ⟨hash, hhash⟩ := exists_of_isOk (h 0 (Nat.succ_pos _))
      rw [Nat.add_zero] at hhash
      obtain ⟨newAuth, hr, hf⟩ := ih (k := k + 1) fun i hi => by
        have hi := h (i + 1) (Nat.succ_lt_succ hi)
        rwa [Nat.add_comm i 1, ← Nat.add_assoc] at hi
      refine ⟨Entry.line ⟨statsUser, hash⟩ :: newAuth, ?_, .cons ?_ hf⟩
      · rw [rehash_cons_md5 hl, hhash, hr]
        rfl
      · rw [Migrates, if_pos hl]
        exact ⟨k, hash, hhash, rfl⟩
    | false =>
      rw [md5Count_cons_keep hl] at h
      obtain ⟨newAuth, hr, hf⟩ := ih h
      refine ⟨line :: newAuth, ?_, .cons ?_ hf⟩
      · rw [rehash_cons_keep hl, hr]
        rfl
      · rw [Migrates, if_neg (ne_true_of_eq_false hl)]

/-- The first hash that is not generated ends the loop. -/
theorem rehash_error {i : ℕ} {e : Failure} (hi : i < md5Count statsUser lines)
    (hok : ∀ j < i, (answer (k + j)).isOk = true) (he : answer (k + i) = .error e) :
    rehash statsUser answer k lines = .error e := by
  induction lines generalizing k i with
  | nil => cases hi
  | cons line lines ih =>
    cases hl : isMd5 statsUser line with
    | true =>
      rw [md5Count_cons_md5 hl] at hi
      rw [rehash_cons_md5 hl]
      cases i with
      | zero =>
        rw [Nat.add_zero] at he
        rw [he]
        rfl
      | succ i =>
        obtain ⟨hash, hhash⟩ := exists_of_isOk (hok 0 (Nat.succ_pos _))
        rw [Nat.add_zero] at hhash
        have hrest : rehash statsUser answer (k + 1) lines = .error e := by
          refine ih (i := i) (Nat.lt_of_succ_lt_succ hi) (fun j hj => ?_) ?_
          · have hj := hok (j + 1) (Nat.succ_lt_succ hj)
            rwa [Nat.add_comm j 1, ← Nat.add_assoc] at hj
          · rwa [Nat.add_assoc, Nat.add_comm 1 i]
        rw [hhash, hrest]
        rfl
    | false =>
      rw [md5Count_cons_keep hl] at hi
      rw [rehash_cons_keep hl, ih hi hok he]
      rfl

/-- Without a line to migrate no hash is asked for. -/
theorem rehash_of_gone (h : ∀ line ∈ lines, isMd5 statsUser line = false) :
    rehash statsUser answer k lines = .ok lines := by
  induction lines with
  | nil => rfl
  | cons line lines ih =>
    obtain ⟨hl, h⟩ := List.forall_mem_cons.mp h
    rw [rehash_cons_keep hl, ih h]
    rfl

/-! ## The search in the whole text -/

theorem count_quote_eq_zero {s : Plain} : s.1.toList.count '\x22' = 0 :=
  List.count_eq_zero.mpr fun h => (s.2 _ h).1 rfl

theorem newline_not_mem_monitoringPrefix (u : Plain) : '\n' ∉ (monitoringPrefix u).toList := by
  intro h
  simp only [monitoringPrefix, opening, String.toList_append, List.mem_append] at h
  rcases h with ((h | h) | h) | h
  · revert h; decide
  · exact (u.2 _ h).2 rfl
  · revert h; decide
  · revert h; decide

theorem monitoringPrefix_ne_nil (u : Plain) : (monitoringPrefix u).toList ≠ [] := by
  have hmd5 : "\"md5".toList ≠ [] := by decide
  intro h
  rw [monitoringPrefix, String.toList_append, List.append_eq_nil_iff] at h
  exact hmd5 h.2

/-- The pattern is found within one line. -/
theorem infix_split (h : (monitoringPrefix statsUser).toList <:+: text.toList) :
    ∃ line ∈ Text.split '\n' text, (monitoringPrefix statsUser).toList <:+: line.toList := by
  have hjoin : ['\n'].intercalate (text.toList.splitOn '\n') = text.toList :=
    List.intercalate_splitOn '\n'
  rw [← hjoin] at h
  obtain ⟨part, hp, hinfix⟩ := Lines.infix_intercalate (monitoringPrefix_ne_nil statsUser)
    (newline_not_mem_monitoringPrefix statsUser) h
  exact ⟨String.ofList part, List.mem_map_of_mem hp, by rwa [String.toList_ofList]⟩

/-- Of the four quotes of a line the pattern has three, and the line ends with a
    quote: the pattern can only be at the beginning. -/
theorem startswith_of_infix_line {e : Entry}
    (h : (monitoringPrefix statsUser).toList <:+: e.line.toList) :
    isMd5 statsUser e.line = true := by
  have hopen : "\"".toList = ['\x22'] := by decide
  have hclose : "\" ".toList = ['\x22', ' '] := by decide
  have hmd5 : "\"md5".toList = ['\x22', 'm', 'd', '5'] := by decide
  have hline : e.line.toList =
      '\x22' :: (e.user.1.toList ++ '\x22' :: ' ' :: '\x22' :: e.hash.1.toList ++ ['\x22']) := by
    simp [Entry.line, opening, hopen, hclose]
  have hpattern : (monitoringPrefix statsUser).toList =
      '\x22' :: (statsUser.1.toList ++ ['\x22', ' ', '\x22', 'm', 'd', '5']) := by
    simp [monitoringPrefix, opening, hopen, hclose, hmd5]
  obtain ⟨a, b, hab⟩ := h
  cases a with
  | nil =>
    rw [isMd5, Text.startswith, List.isPrefixOf_iff_prefix]
    exact ⟨b, hab⟩
  | cons x a =>
    have hx : x = '\x22' := by
      rw [hline] at hab
      exact (List.cons.inj hab).1
    have hb : '\x22' ∉ b := by
      have hcount := congrArg (List.count '\x22') hab
      rw [hline, hpattern, hx] at hcount
      simp only [List.cons_append, List.append_assoc, List.count_cons_self, List.count_append,
        count_quote_eq_zero, List.count_cons_of_ne (by decide : ' ' ≠ '\x22'),
        List.count_cons_of_ne (by decide : 'm' ≠ '\x22'),
        List.count_cons_of_ne (by decide : 'd' ≠ '\x22'),
        List.count_cons_of_ne (by decide : '5' ≠ '\x22'), List.count_nil,
        List.nil_append] at hcount
      rw [← List.count_eq_zero]
      omega
    have hlast := congrArg List.getLast? hab
    rw [hline, ← List.cons_append, List.getLast?_concat, List.getLast?_append] at hlast
    cases hy : b.getLast? with
    | some y =>
      rw [hy] at hlast
      cases hlast
      exact absurd (List.mem_of_getLast? hy) hb
    | none =>
      rw [hy, List.getLast?_append, hpattern] at hlast
      simp [List.getLast?_cons, List.getLast?_append] at hlast

/-- A text without a line that starts with the pattern: `auth_type` is SCRAM
    when the lines have the shape of an entry. -/
theorem authTypeOf_of_gone (hshape : ∀ line ∈ Text.split '\n' text, ∃ e : Entry, line = e.line)
    (hgone : ∀ line ∈ Text.split '\n' text, isMd5 statsUser line = false) :
    Userlist.authTypeOf statsUser (some text) = .scramSha256 := by
  refine if_neg fun h => ?_
  obtain ⟨line, hl, hinfix⟩ := infix_split h
  obtain ⟨e, rfl⟩ := hshape line hl
  have hmd5 := startswith_of_infix_line hinfix
  rw [hgone _ hl] at hmd5
  cases hmd5

/-- The two models of `auth_type` agree. -/
theorem authType_eq (sh : Shared) (hu : sh.statsUser = statsUser.1) :
    sh.authType = match Userlist.authTypeOf statsUser sh.userlist with
      | .md5 => "md5"
      | .scramSha256 => "scram-sha-256" := by
  have hpattern : "\"" ++ sh.statsUser ++ "\" \"md5" = monitoringPrefix statsUser := by
    have hsplit : "\" \"md5" = "\" " ++ "\"md5" := by decide
    rw [hu, monitoringPrefix, opening, hsplit, String.append_assoc, String.append_assoc,
      String.append_assoc]
  unfold Shared.authType Userlist.authTypeOf
  rw [hpattern]
  split_ifs <;> rfl

/-! ## The migration -/

theorem exists_of_forall₂ {α β : Type} {R : α → β → Prop} {l : List α} {l' : List β}
    (h : List.Forall₂ R l l') : ∀ y ∈ l', ∃ x ∈ l, R x y := by
  induction h with
  | nil => exact fun y hy => absurd hy List.not_mem_nil
  | cons hxy _ ih =>
    rw [List.forall_mem_cons]
    exact ⟨⟨_, List.mem_cons_self, hxy⟩, fun y hy =>
      (ih y hy).imp fun _ h => ⟨List.mem_cons_of_mem _ h.1, h.2⟩⟩

theorem newline_not_mem_split (h : line ∈ Text.split '\n' text) : '\n' ∉ line.toList := by
  obtain ⟨part, hp, rfl⟩ := List.mem_map.mp h
  rw [String.toList_ofList]
  exact Lines.not_mem_of_mem_splitOn hp

/-- The lines of the new file are those the loop has made. -/
theorem split_join_migrates
    (hf : List.Forall₂ (Migrates statsUser answer) (Text.split '\n' text) lines) :
    Text.split '\n' (Text.join '\n' lines) = lines := by
  apply Text.split_join
  · rintro rfl
    exact Text.split_ne_nil '\n' text (List.forall₂_nil_right_iff.mp hf)
  · intro line' hl'
    obtain ⟨line, hl, hm⟩ := exists_of_forall₂ hf line' hl'
    exact hm.newline_not_mem (newline_not_mem_split hl)

theorem migrated_join (hmd5 : ∀ k hash, answer k = .ok hash →
      Text.startswith hash.1 "md5" = false)
    (hf : List.Forall₂ (Migrates statsUser answer) (Text.split '\n' text) lines) :
    Migrated statsUser text (Text.join '\n' lines) := by
  refine ⟨?_, ?_⟩ <;> rw [split_join_migrates hf]
  · refine hf.imp fun line line' h hl => ?_
    rwa [Migrates, if_neg (ne_true_of_eq_false hl)] at h
  · intro line' hl'
    obtain ⟨line, -, hm⟩ := exists_of_forall₂ hf line' hl'
    exact hm.gone hmd5

/-- A file with a new line is not empty: the line is not. -/
theorem join_ne_empty (hf : List.Forall₂ (Migrates statsUser answer) (Text.split '\n' text) lines)
    (hne : Text.join '\n' lines ≠ text) : Text.join '\n' lines ≠ "" := by
  intro he
  have hsplit := split_join_migrates hf
  have hempty : Text.split '\n' "" = [""] := by decide
  rw [he, hempty] at hsplit
  rw [← hsplit] at hf
  obtain ⟨line, rest, hm, hnil, htext⟩ := List.forall₂_cons_right_iff.mp hf
  rw [List.forall₂_nil_right_iff.mp hnil] at htext
  obtain rfl : "" = line := by
    by_contra hl
    exact hm.ne_empty hl rfl
  exact hne (by rw [he, ← Text.join_split '\n' text, htext]; rfl)

/-- The migration is exact, atomic and idempotent: where every hash it asks for
    is generated, it replaces the lines with an MD5 hash of the stats user and no
    others, a second run changes nothing, and, if the lines have the shape of
    entries, `auth_type` is SCRAM; where one fails, the file is as before. -/
theorem migration_exact (statsUser : Plain) (answer : ℕ → Except Failure Plain)
    (hmd5 : ∀ k hash, answer k = .ok hash → Text.startswith hash.1 "md5" = false)
    (hfile : c.authFile = some text) :
    ((∀ k < md5Count statsUser (Text.split '\n' text), (answer k).isOk = true) → ∃ newText,
      handleMd5MonitoringAuthFor statsUser answer true c =
        some { c with authFile := some newText } ∧
      Migrated statsUser text newText ∧
      (∀ answer', handleMd5MonitoringAuthFor statsUser answer' true
        { c with authFile := some newText } = some { c with authFile := some newText }) ∧
      ((∀ line ∈ Text.split '\n' text, ∃ e : Entry, line = e.line) →
        Userlist.authTypeOf statsUser (some newText) = .scramSha256 ∧
        ∀ sh : Shared, sh.statsUser = statsUser.1 → sh.userlist = some newText →
          sh.authType = "scram-sha-256")) ∧
    ∀ k < md5Count statsUser (Text.split '\n' text),
      (∀ j < k, (answer j).isOk = true) → answer k = .error .psycopg2Error →
        handleMd5MonitoringAuthFor statsUser answer true c = some c := by
  constructor
  · intro hok
    obtain ⟨lines, hr, hf⟩ := rehash_ok (k := 0) (by simpa using hok)
    have hmig := migrated_join hmd5 hf
    refine ⟨Text.join '\n' lines, ?_, hmig, fun answer' => ?_, fun hshape => ?_⟩
    · simp only [handleMd5MonitoringAuthFor, hfile, hr]
      split_ifs with hne
      · rw [Charm.setAuthFile, if_neg (join_ne_empty hf hne)]
      · rw [not_not.mp hne, ← hfile]
    · simp only [handleMd5MonitoringAuthFor, rehash_of_gone hmig.gone, Text.join_split]
      rw [if_neg (not_not.mpr rfl)]
    · have hscram : Userlist.authTypeOf statsUser (some (Text.join '\n' lines)) =
          .scramSha256 := by
        refine authTypeOf_of_gone ?_ hmig.gone
        rw [split_join_migrates hf]
        exact shape_rehashed (rehash_forall₂ hshape hr) hshape
      refine ⟨hscram, fun sh hu hs => ?_⟩
      rw [authType_eq sh hu, hs, hscram]
  · intro k hk hok he
    have hr := rehash_error (k := 0) hk (by simpa using hok) (by simpa using he)
    simp only [handleMd5MonitoringAuthFor, hfile, hr]

/-- A file with two MD5 lines of the stats user and one of another user. -/
def mixedCharm : Charm :=
  { sampleCharm with authFile := some "\"a\" \"md51\"\n\"s\" \"md52\"\n\"s\" \"md53\"" }

/-- The lines of the stats user are migrated when both hashes are generated, and
    none is when the second fails. -/
theorem migration_exact_mixedCharm :
    (∃ newText, handleMd5MonitoringAuthFor ⟨"s", by decide⟩ (fun _ => .ok sampleHash) true
        mixedCharm = some { mixedCharm with authFile := some newText } ∧
      Userlist.authTypeOf ⟨"s", by decide⟩ (some newText) = .scramSha256) ∧
    handleMd5MonitoringAuthFor ⟨"s", by decide⟩
      (fun k => if k = 0 then .ok sampleHash else .error .psycopg2Error) true mixedCharm =
        some mixedCharm := by
  constructor
  · obtain ⟨newText, h, -, -, hscram⟩ := (migration_exact (c := mixedCharm) ⟨"s", by decide⟩
      (fun _ => .ok sampleHash) (fun k hash hk => by cases hk; decide) rfl).1 fun _ _ => rfl
    refine ⟨newText, h, (hscram fun line hl => ?_).1⟩
    have hlines : line ∈ ["\"a\" \"md51\"", "\"s\" \"md52\"", "\"s\" \"md53\""] := hl
    simp only [List.mem_cons, List.not_mem_nil, or_false] at hlines
    rcases hlines with rfl | rfl | rfl
    · exact ⟨⟨⟨"a", by decide⟩, ⟨"md51", by decide⟩⟩, by decide⟩
    · exact ⟨⟨⟨"s", by decide⟩, ⟨"md52", by decide⟩⟩, by decide⟩
    · exact ⟨⟨⟨"s", by decide⟩, ⟨"md53", by decide⟩⟩, by decide⟩
  · refine (migration_exact (c := mixedCharm) ⟨"s", by decide⟩ _ ?_ rfl).2 1
      (by decide) (fun j hj => ?_) rfl
    · intro k hash hk
      split_ifs at hk
      cases hk
      decide
    · obtain rfl : j = 0 := by omega
      rfl

end PgBouncerK8s.Auth
