import Mathlib.Data.Bool.AllAny
import PgBouncerK8s.Lib.Lines
import PgBouncerK8s.Relations.Credentials

/-!
# The PostgreSQL roles of the relations

Several PgBouncer deployments, in one Juju model or in several, may share a
backend cluster. A legacy relation gets the role of `_generate_username`
(`relations/db.py`, lines 496–501), made of the application name, the relation
id and the model name; a client relation the role `relation_id_<id>`
(`pgbouncer_provider.py`, line 163). Relation ids are unique within a model only,
and PostgreSQL keeps the first 63 bytes of a name.

Juju's naming rules decide that the id is the first segment of a legacy name
that consists of digits, so names that are not cut clash for client relations
only.

* `name_prefix`: application and id can be read off a legacy name.
* `role_ne_iff`: when the roles of two relations differ.
* `roles_shared`: clients in two models that share a role.
-/

namespace PgBouncerK8s.Roles

open Text (str)

/-! ## Names -/

/-- One segment of an application name: lower-case letters and digits, with a
    letter. -/
def NameSegment (segment : List Char) : Prop :=
  (∀ c ∈ segment, c.isLower = true ∨ c.isDigit = true) ∧ ∃ c ∈ segment, c.isLower = true

instance (segment : List Char) : Decidable (NameSegment segment) :=
  @instDecidableAnd _ _ (List.decidableBAll _ segment) (List.decidableBEx _ segment)

/-- Juju's rule for application names: segments between dashes, the first one
    beginning with a letter. -/
structure ApplicationName (s : String) : Prop where
  segments : ∀ segment ∈ s.toList.splitOn '-', NameSegment segment
  head : s.toList.head?.any Char.isLower = true

/-- Juju's rule for model names. -/
structure ModelName (s : String) : Prop where
  chars : ∀ c ∈ s.toList, c.isLower = true ∨ c.isDigit = true ∨ c = '-'
  head : s.toList.head?.any (fun c => c.isLower || c.isDigit) = true

/-- A relation that PgBouncer serves: the deployment with its application and
    model names, the relation id and the endpoint. -/
structure Served where
  app : App
  rid : RelId
  endpoint : Endpoint
  applicationName : ApplicationName app.name
  modelName : ModelName app.model

/-- The role that is created for the relation. -/
def Served.role (r : Served) : String :=
  if r.endpoint.legacy then r.app.generateUsername r.rid else PgBouncerProvider.relationUser r.rid

/-- The longest prefix that takes at most `n` bytes. -/
def clip : ℕ → List Char → List Char
  | _, [] => []
  | n, c :: l => if c.utf8Size ≤ n then c :: clip (n - c.utf8Size) l else []

/-- The role that a name denotes: PostgreSQL keeps 63 bytes. -/
def identifier (role : String) : List Char := clip 63 role.toList

/-- Two relations: relation ids are unique within a model. -/
def Distinct (r r' : Served) : Prop := r.app.model ≠ r'.app.model ∨ r.rid ≠ r'.rid

/-! ## Clashes -/

/-- The decimal text of a relation id. -/
def Served.digits (r : Served) : List Char := (str r.rid).toList

/-- Two client relations: the ids agree on their first 51 digits. -/
def ClientsClash (r r' : Served) : Prop := r.digits.take 51 = r'.digits.take 51

/-- The length of `<application>_user_<id>`. -/
def Served.stemLength (r : Served) : ℕ := r.app.name.toList.length + 6 + r.digits.length

/-- Two legacy relations with one application name and one id: the model names
    agree on what is left of 63 characters. -/
def ModelsClash (r r' : Served) : Prop :=
  r.app.name = r'.app.name ∧ r.rid = r'.rid ∧ r.stemLength < 63 ∧
    r.app.model.toList.take (62 - r.stemLength) = r'.app.model.toList.take (62 - r.stemLength)

/-- The dash as an underscore. -/
def underscore (c : Char) : Char := if c = '-' then '_' else c

/-- `<application>_user_<id>` with underscores. -/
def Served.stem (r : Served) : List Char :=
  r.app.name.toList.map underscore ++ ("_user_".toList ++ r.digits)

/-- Two legacy relations whose application names and ids alone fill 63
    characters, and agree on them. -/
def StemsClash (r r' : Served) : Prop :=
  63 ≤ r.stemLength ∧ 63 ≤ r'.stemLength ∧ r.stem.take 63 = r'.stem.take 63

/-- A client and a legacy relation: the id has 51 digits at least, and the
    application name begins with `relation-id-` and these digits. -/
def MixedClash (client legacy : Served) : Prop :=
  51 ≤ client.digits.length ∧
    ("relation-id-".toList ++ client.digits.take 51) <+: legacy.app.name.toList

/-- The inputs on which the roles of two distinct relations are the same. -/
def Clash (r r' : Served) : Prop :=
  match r.endpoint.legacy, r'.endpoint.legacy with
  | false, false => ClientsClash r r'
  | true, true => ModelsClash r r' ∨ StemsClash r r'
  | false, true => MixedClash r r'
  | true, false => MixedClash r' r

/-! ## Bytes and characters -/

theorem clip_eq_take {l : List Char} (h : ∀ c ∈ l, c.utf8Size = 1) (n : ℕ) :
    clip n l = l.take n := by
  induction l generalizing n with
  | nil => simp [clip]
  | cons c l ih =>
    have hc := h c List.mem_cons_self
    have ih := ih fun d hd => h d (List.mem_cons_of_mem _ hd)
    cases n with
    | zero => simp [clip, hc]
    | succ n => simp [clip, hc, ih]

/-- The characters of role names. -/
def RoleChar (c : Char) : Prop := c.isLower = true ∨ c.isDigit = true ∨ c = '-' ∨ c = '_'

instance (c : Char) : Decidable (RoleChar c) :=
  inferInstanceAs (Decidable (c.isLower = true ∨ c.isDigit = true ∨ c = '-' ∨ c = '_'))

theorem toNat_of_isLower {c : Char} (h : c.isLower = true) :
    'a'.val.toNat ≤ c.val.toNat ∧ c.val.toNat ≤ 'z'.val.toNat := by
  have hrange : (decide (c.val ≥ 'a'.val) && decide (c.val ≤ 'z'.val)) = true := h
  simpa only [Bool.and_eq_true, decide_eq_true_eq, ge_iff_le, UInt32.le_iff_toNat_le] using hrange

theorem utf8Size_of_roleChar {c : Char} (h : RoleChar c) : c.utf8Size = 1 := by
  rw [Char.utf8Size_eq_one_iff, UInt32.le_iff_toNat_le]
  rcases h with h | h | rfl | rfl
  · exact (toNat_of_isLower h).2.trans (by decide)
  · simp only [Char.isDigit, Bool.and_eq_true, decide_eq_true_eq, ge_iff_le,
      UInt32.le_iff_toNat_le] at h
    exact h.2.trans (by decide)
  · decide
  · decide

/-! ## Segments -/

section Lists

variable {α : Type} {p : α → Bool}

/-- The first element with `p` and what is in front of it. -/
theorem eq_of_first {l l' r r' : List α} {d d' : α} (h : l ++ d :: r = l' ++ d' :: r')
    (hl : ∀ x ∈ l, p x = false) (hl' : ∀ x ∈ l', p x = false) (hd : p d = true)
    (hd' : p d' = true) : l = l' ∧ d = d' := by
  induction l generalizing l' with
  | nil =>
    cases l' with
    | nil => exact ⟨rfl, (List.cons.inj h).1⟩
    | cons x l' =>
      obtain rfl : d = x := (List.cons.inj h).1
      rw [hl' d List.mem_cons_self] at hd
      cases hd
  | cons x l ih =>
    cases l' with
    | nil =>
      obtain rfl : x = d' := (List.cons.inj h).1
      rw [hl x List.mem_cons_self] at hd'
      cases hd'
    | cons y l' =>
      obtain ⟨rfl, hrest⟩ := List.cons.inj h
      obtain ⟨rfl, rfl⟩ := ih hrest (fun z hz => hl z (List.mem_cons_of_mem _ hz))
        fun z hz => hl' z (List.mem_cons_of_mem _ hz)
      exact ⟨rfl, rfl⟩

end Lists

theorem not_isDigit_of_isLower {c : Char} (h : c.isLower = true) : c.isDigit = false := by
  rw [← Bool.not_eq_true]
  intro hd
  have hl := toNat_of_isLower h
  simp only [Char.isDigit, Bool.and_eq_true, decide_eq_true_eq, ge_iff_le,
    UInt32.le_iff_toNat_le] at hd
  have ha : 'a'.val.toNat = 97 := rfl
  have h9 : '9'.val.toNat = 57 := rfl
  omega

/-- The segments of an application name. -/
def Served.segments (r : Served) : List (List Char) := r.app.name.toList.splitOn '-'

variable {r r' : Served}

theorem mem_segments {segment : List Char} (h : segment ∈ r.segments) :
    '_' ∉ segment ∧ '-' ∉ segment ∧ segment.all Char.isDigit = false := by
  obtain ⟨hchars, c, hc, hlower⟩ := r.applicationName.segments segment h
  have hnot : ∀ d : Char, d.isLower = false → d.isDigit = false → d ∉ segment := by
    intro d hl hd hm
    simpa [hl, hd] using hchars d hm
  refine ⟨hnot '_' (by decide) (by decide), hnot '-' (by decide) (by decide), ?_⟩
  rw [List.all_eq_false]
  exact ⟨c, hc, by simp [not_isDigit_of_isLower hlower]⟩

theorem splitOn_map_underscore {l : List Char} (h : '_' ∉ l) :
    (l.map underscore).splitOn '_' = l.splitOn '-' := by
  induction l with
  | nil => rfl
  | cons c l ih =>
    obtain ⟨hc, hl⟩ := not_or.mp (mt List.mem_cons.mpr h)
    rw [List.map_cons, List.splitOn_cons_eq_if_modifyHead, List.splitOn_cons_eq_if_modifyHead,
      ih hl]
    unfold underscore
    by_cases hd : c = '-'
    · simp [hd]
    · simp [hd, Ne.symm hc]

theorem not_mem_name (r : Served) : '_' ∉ r.app.name.toList := by
  intro h
  obtain ⟨segment, hs, hc⟩ := Lines.exists_mem_splitOn h (show '_' ≠ '-' by decide)
  exact (mem_segments hs).1 hc

theorem not_mem_model (r : Served) : '_' ∉ r.app.model.toList := by
  intro h
  rcases r.modelName.chars '_' h with h | h | h <;> exact absurd h (by decide)

theorem isDigit_of_mem_digits {c : Char} (h : c ∈ r.digits) : c.isDigit = true :=
  Text.isDigit_of_mem_str h

theorem not_mem_digits (r : Served) : '_' ∉ r.digits := fun h =>
  absurd (isDigit_of_mem_digits h) (by decide)

/-- The texts without underscores are determined by the underscored ones. -/
theorem map_underscore_injective {l l' : List Char} (h : '_' ∉ l) (h' : '_' ∉ l')
    (he : l.map underscore = l'.map underscore) : l = l' := by
  have hjoin : ∀ l : List Char, ['-'].intercalate (l.splitOn '-') = l := fun _ =>
    List.intercalate_splitOn '-'
  rw [← hjoin l, ← hjoin l', ← splitOn_map_underscore h, ← splitOn_map_underscore h', he]

/-! ## Legacy names -/

theorem legacy_role (hl : r.endpoint.legacy = true) :
    r.role.toList = r.stem ++ '_' :: r.app.model.toList.map underscore := by
  have hmap : (fun c => if c = '-' then '_' else c) = underscore := rfl
  rw [Served.role, if_pos hl, Setup.generateUsername_toList, hmap]
  simp [Served.stem, Served.digits, String.toList_append, underscore]

theorem client_role (hl : r.endpoint.legacy = false) :
    r.role.toList = "relation_id_".toList ++ r.digits := by
  rw [Served.role, if_neg (by simp [hl]), PgBouncerProvider.relationUser, String.toList_append]
  rfl

theorem length_stem (r : Served) : r.stem.length = r.stemLength := by
  simp only [Served.stem, Served.stemLength, List.length_append, List.length_map, Nat.add_assoc]
  rfl

/-- The segments of a text that starts with application name and id. -/
theorem splitOn_stem (r : Served) (rest : List Char) :
    (r.stem ++ '_' :: rest).splitOn '_' =
      (r.segments ++ ["user".toList]) ++ r.digits :: rest.splitOn '_' := by
  have hstem : r.stem ++ '_' :: rest = r.app.name.toList.map underscore ++
      '_' :: ("user".toList ++ '_' :: (r.digits ++ '_' :: rest)) := by
    simp [Served.stem]
  rw [hstem, List.splitOn_append_cons_of_beq _ _ (beq_self_eq_true '_'),
    splitOn_map_underscore (not_mem_name r), List.splitOn_append_cons_self_of_not_mem (by decide),
    List.splitOn_append_cons_self_of_not_mem (not_mem_digits r)]
  simp [Served.segments]

/-- In front of the id there is no segment of digits. -/
theorem all_isDigit_segments {segment : List Char}
    (h : segment ∈ r.segments ++ ["user".toList]) : segment.all Char.isDigit = false := by
  rcases List.mem_append.mp h with h | h
  · exact (mem_segments h).2.2
  · rw [List.mem_singleton.mp h]
    decide

theorem all_isDigit_digits (r : Served) : r.digits.all Char.isDigit = true :=
  List.all_eq_true.mpr fun _ hc => isDigit_of_mem_digits hc

/-- Application and id can be read off a legacy name. -/
theorem name_prefix {rest rest' : List Char}
    (h : r.stem ++ '_' :: rest = r'.stem ++ '_' :: rest') :
    r.app.name = r'.app.name ∧ r.rid = r'.rid := by
  have hsplit := congrArg (List.splitOn '_') h
  rw [splitOn_stem, splitOn_stem] at hsplit
  obtain ⟨hsegments, hdigits⟩ := eq_of_first (p := fun segment => segment.all Char.isDigit) hsplit
    (fun _ => all_isDigit_segments) (fun _ => all_isDigit_segments) (all_isDigit_digits r)
    (all_isDigit_digits r')
  have hname : r.segments = r'.segments := List.append_cancel_right hsegments
  constructor
  · have hjoin : ∀ l : List Char, ['-'].intercalate (l.splitOn '-') = l := fun _ =>
      List.intercalate_splitOn '-'
    rw [← String.toList_inj, ← hjoin r.app.name.toList, ← hjoin r'.app.name.toList]
    exact congrArg _ hname
  · exact Text.str_injective (String.toList_inj.mp hdigits)

theorem stem_congr (hname : r.app.name = r'.app.name) (hrid : r.rid = r'.rid) :
    r.stem = r'.stem := by
  unfold Served.stem Served.digits
  rw [hname, hrid]

/-- What a legacy role is cut to where the stem leaves some room. -/
theorem take_legacy {stem rest : List Char} (h : stem.length < 63) :
    (stem ++ '_' :: rest).take 63 = stem ++ '_' :: rest.take (62 - stem.length) := by
  obtain ⟨k, hk⟩ : ∃ k, 63 - stem.length = k + 1 := ⟨62 - stem.length, by omega⟩
  rw [List.take_append, List.take_of_length_le (by omega), hk, List.take_succ_cons,
    show k = 62 - stem.length by omega]

/-- Where the stem leaves some room, the role that is left still has it. -/
theorem same_stem_of_take {rest rest' : List Char} (hlen : r.stemLength < 63)
    (h : (r.stem ++ '_' :: rest).take 63 = (r'.stem ++ '_' :: rest').take 63) :
    r.app.name = r'.app.name ∧ r.rid = r'.rid := by
  rw [← length_stem] at hlen
  rw [take_legacy hlen] at h
  have hcut : r.stem ++ '_' :: (rest.take (62 - r.stem.length) ++
      (r'.stem ++ '_' :: rest').drop 63) = r'.stem ++ '_' :: rest' := by
    rw [← List.cons_append, ← List.append_assoc, h, List.take_append_drop]
  exact name_prefix hcut

/-- When two legacy roles are cut to the same text. -/
theorem legacy_clash_iff (r r' : Served) :
    (r.stem ++ '_' :: r.app.model.toList.map underscore).take 63 =
        (r'.stem ++ '_' :: r'.app.model.toList.map underscore).take 63 ↔
      ModelsClash r r' ∨ StemsClash r r' := by
  constructor
  · intro h
    by_cases hlen : r.stemLength < 63
    · obtain ⟨hname, hrid⟩ := same_stem_of_take hlen h
      have hstem := stem_congr hname hrid
      refine .inl ⟨hname, hrid, hlen, ?_⟩
      have hlen' : r.stem.length < 63 := by rwa [length_stem]
      rw [← hstem, take_legacy hlen', take_legacy hlen', List.append_cancel_left_eq,
        List.cons.injEq, ← List.map_take, ← List.map_take, length_stem] at h
      refine map_underscore_injective (fun hm => ?_) (fun hm => ?_) h.2
      · exact not_mem_model r (List.mem_of_mem_take hm)
      · exact not_mem_model r' (List.mem_of_mem_take hm)
    · have hlen' : ¬ r'.stemLength < 63 := by
        intro hlen'
        obtain ⟨hname, hrid⟩ := same_stem_of_take hlen' h.symm
        rw [← length_stem, stem_congr hname hrid, length_stem] at hlen'
        exact hlen hlen'
      rw [Nat.not_lt] at hlen hlen'
      rw [List.take_append_of_le_length (by rwa [length_stem]),
        List.take_append_of_le_length (by rwa [length_stem])] at h
      exact .inr ⟨hlen, hlen', h⟩
  · rintro (⟨hname, hrid, hlen, hmodel⟩ | ⟨hlen, hlen', hstem⟩)
    · rw [← length_stem] at hlen hmodel
      rw [← stem_congr hname hrid, take_legacy hlen, take_legacy hlen, ← List.map_take,
        ← List.map_take, hmodel]
    · rw [List.take_append_of_le_length (by rwa [length_stem]),
        List.take_append_of_le_length (by rwa [length_stem]), hstem]

/-! ## Client names -/

theorem take_client (digits : List Char) :
    ("relation_id_".toList ++ digits).take 63 = "relation_id_".toList ++ digits.take 51 := by
  rw [List.take_append, List.take_of_length_le (by decide)]
  rfl

theorem splitOn_append_of_not_mem {d : List Char} (h : '_' ∉ d) (z : List Char) :
    (d ++ z).splitOn '_' = (z.splitOn '_').modifyHead (d ++ ·) := by
  induction d with
  | nil =>
    obtain ⟨first, rest, hz⟩ := List.exists_cons_of_ne_nil (List.splitOn_ne_nil '_' z)
    simp [hz]
  | cons c d ih =>
    obtain ⟨hc, hd⟩ := not_or.mp (mt List.mem_cons.mpr h)
    obtain ⟨first, rest, hz⟩ := List.exists_cons_of_ne_nil (List.splitOn_ne_nil '_' z)
    rw [List.cons_append, List.splitOn_cons_eq_if_modifyHead, if_neg (by simpa using Ne.symm hc),
      ih hd, hz]
    rfl

theorem digits_ne_nil (r : Served) : r.digits ≠ [] := by
  intro h
  have hempty : str r.rid = "" := String.toList_eq_nil_iff.mp h
  exact Nat.repr_ne_empty hempty

/-- The segments of a text that starts as a client role does. -/
theorem splitOn_client {d : List Char} (hd : '_' ∉ d) (z : List Char) :
    ∃ t rest, ("relation_id_".toList ++ d ++ z).splitOn '_' =
      "relation".toList :: "id".toList :: (d ++ t) :: rest := by
  obtain ⟨t, rest, hz⟩ := List.exists_cons_of_ne_nil (List.splitOn_ne_nil '_' z)
  refine ⟨t, rest, ?_⟩
  have hparts : "relation_id_".toList ++ d ++ z =
      "relation".toList ++ '_' :: ("id".toList ++ '_' :: (d ++ z)) := by simp
  rw [hparts, List.splitOn_append_cons_self_of_not_mem (by decide),
    List.splitOn_append_cons_self_of_not_mem (by decide), splitOn_append_of_not_mem hd, hz]
  rfl

theorem map_underscore_digits {d : List Char} (h : ∀ c ∈ d, c.isDigit = true) :
    d.map underscore = d := by
  refine (List.map_congr_left fun c hc => ?_).trans (List.map_id d)
  have hne : c ≠ '-' := by
    rintro rfl
    exact absurd (h '-' hc) (by decide)
  simp [underscore, hne]

/-- A legacy role that starts as a client role does comes from an application
    name that starts so. -/
theorem prefix_of_take {d rest : List Char} (hd : ∀ c ∈ d, c.isDigit = true) (hne : d ≠ [])
    (h : "relation_id_".toList ++ d = (r.stem ++ '_' :: rest).take 63) :
    ("relation-id-".toList ++ d) <+: r.app.name.toList := by
  have hmem : '_' ∉ d := fun hm => absurd (hd '_' hm) (by decide)
  obtain ⟨t, parts, hsplit⟩ := splitOn_client hmem ((r.stem ++ '_' :: rest).drop 63)
  rw [h, List.take_append_drop, splitOn_stem] at hsplit
  have hname : ['-'].intercalate r.segments = r.app.name.toList := List.intercalate_splitOn '-'
  match hsegments : r.segments with
  | [] => exact absurd hsegments (List.splitOn_ne_nil '-' _)
  | [_] =>
    rw [hsegments] at hsplit
    simp at hsplit
  | [_, _] =>
    obtain ⟨c, d, rfl⟩ := List.exists_cons_of_ne_nil hne
    rw [hsegments] at hsplit
    simp only [List.cons_append, List.nil_append, List.cons.injEq] at hsplit
    obtain ⟨rfl, -⟩ : 'u' = c ∧ _ := by simpa using hsplit.2.2.1
    exact absurd (hd 'u' List.mem_cons_self) (by decide)
  | s₁ :: s₂ :: s₃ :: more =>
    rw [hsegments] at hsplit hname
    simp only [List.cons_append, List.cons.injEq] at hsplit
    obtain ⟨rfl, rfl, rfl, -⟩ := hsplit
    rw [← hname]
    cases more <;> simp [List.intercalate]

/-- When a client and a legacy role are cut to the same text. -/
theorem mixed_clash_iff (client legacy : Served) (rest : List Char) :
    ("relation_id_".toList ++ client.digits).take 63 = (legacy.stem ++ '_' :: rest).take 63 ↔
      MixedClash client legacy := by
  rw [take_client]
  constructor
  · intro h
    have hprefix := prefix_of_take (fun c hc => isDigit_of_mem_digits (List.mem_of_mem_take hc))
      (by simp [digits_ne_nil]) h
    refine ⟨?_, hprefix⟩
    -- a shorter id would leave room for what follows it in the legacy role
    have hname := hprefix.length_le
    have hlen := congrArg List.length h
    simp only [List.length_append, List.length_take, List.length_cons, length_stem,
      Served.stemLength] at hname hlen
    have h12 : "relation-id-".toList.length = 12 := rfl
    have h12' : "relation_id_".toList.length = 12 := rfl
    omega
  · rintro ⟨hlen, tail, hname⟩
    have hdigits : ∀ c ∈ client.digits.take 51, c.isDigit = true :=
      fun c hc => isDigit_of_mem_digits (List.mem_of_mem_take hc)
    have hstem : legacy.stem = "relation_id_".toList ++ client.digits.take 51 ++
        (tail.map underscore ++ ("_user_".toList ++ legacy.digits)) := by
      rw [Served.stem, ← hname, List.map_append, List.map_append, map_underscore_digits hdigits]
      simp [underscore]
    have h63 : ("relation_id_".toList ++ client.digits.take 51).length = 63 := by
      rw [List.length_append, List.length_take, Nat.min_eq_left hlen]
      rfl
    rw [hstem, List.append_assoc, List.take_append_of_le_length h63.ge, ← h63, List.take_length]

/-! ## Roles -/

theorem roleChar_underscore {c : Char} (h : c.isLower = true ∨ c.isDigit = true ∨ c = '-') :
    RoleChar (underscore c) := by
  unfold underscore
  split
  · exact .inr (.inr (.inr rfl))
  · tauto

theorem roleChar_of_mem_stem {c : Char} (h : c ∈ r.stem) : RoleChar c := by
  rcases List.mem_append.mp h with h | h
  · obtain ⟨d, hd, rfl⟩ := List.mem_map.mp h
    refine roleChar_underscore ?_
    by_cases hdash : d = '-'
    · exact .inr (.inr hdash)
    · obtain ⟨segment, hs, hds⟩ := Lines.exists_mem_splitOn hd hdash
      rcases (r.applicationName.segments segment hs).1 d hds with hl | hn
      · exact .inl hl
      · exact .inr (.inl hn)
  · rcases List.mem_append.mp h with h | h
    · exact List.all_iff_forall_prop.mp (by decide : "_user_".toList.all fun c => RoleChar c) c h
    · exact .inr (.inl (isDigit_of_mem_digits h))

theorem roleChar_of_mem_role {c : Char} (h : c ∈ r.role.toList) : RoleChar c := by
  cases hl : r.endpoint.legacy with
  | false =>
    rw [client_role hl] at h
    rcases List.mem_append.mp h with h | h
    · have hall : "relation_id_".toList.all fun c => RoleChar c := by decide
      exact List.all_iff_forall_prop.mp hall c h
    · exact .inr (.inl (isDigit_of_mem_digits h))
  | true =>
    rw [legacy_role hl] at h
    rcases List.mem_append.mp h with h | h
    · exact roleChar_of_mem_stem h
    · rcases List.mem_cons.mp h with rfl | h
      · decide
      · obtain ⟨d, hd, rfl⟩ := List.mem_map.mp h
        exact roleChar_underscore (r.modelName.chars d hd)

/-- Role names have one byte a character. -/
theorem identifier_role (r : Served) : identifier r.role = r.role.toList.take 63 :=
  clip_eq_take (fun _ hc => utf8Size_of_roleChar (roleChar_of_mem_role hc)) 63

theorem clients_clash_iff (r r' : Served) :
    ("relation_id_".toList ++ r.digits).take 63 = ("relation_id_".toList ++ r'.digits).take 63 ↔
      ClientsClash r r' := by
  rw [take_client, take_client, List.append_cancel_left_eq]
  rfl

theorem identifier_eq_iff (r r' : Served) :
    identifier r.role = identifier r'.role ↔ Clash r r' := by
  rw [identifier_role, identifier_role]
  unfold Clash
  cases hl : r.endpoint.legacy <;> cases hl' : r'.endpoint.legacy
  · rw [client_role hl, client_role hl']
    exact clients_clash_iff r r'
  · rw [client_role hl, legacy_role hl']
    exact mixed_clash_iff r r' _
  · rw [legacy_role hl, client_role hl', eq_comm]
    exact mixed_clash_iff r' r _
  · rw [legacy_role hl, legacy_role hl']
    exact legacy_clash_iff r r'

/-- The roles of two relations differ unless their names clash. -/
theorem role_ne_iff (r r' : Served) :
    identifier r.role ≠ identifier r'.role ↔ ¬ Clash r r' :=
  not_congr (identifier_eq_iff r r')

/-- The role has room for the application name and the id. -/
def Served.Fits (r : Served) : Prop :=
  if r.endpoint.legacy then r.stemLength < 63 else r.digits.length ≤ 51

theorem not_mixedClash (hlen : r'.stemLength < 63) : ¬ MixedClash r r' := by
  rintro ⟨h51, hprefix⟩
  have hname := hprefix.length_le
  rw [List.length_append, List.length_take, Nat.min_eq_left h51] at hname
  have h12 : "relation-id-".toList.length = 12 := rfl
  unfold Served.stemLength at hlen
  omega

/-- Within a model, roles that have this room do not clash. -/
theorem not_clash_of_model_eq (h : Distinct r r') (hmodel : r.app.model = r'.app.model)
    (hfits : r.Fits) (hfits' : r'.Fits) : ¬ Clash r r' := by
  have hrid : r.rid ≠ r'.rid := h.resolve_left (not_not.mpr hmodel)
  unfold Clash
  unfold Served.Fits at hfits hfits'
  cases hl : r.endpoint.legacy <;> cases hl' : r'.endpoint.legacy <;>
    simp only [hl, hl', if_true, Bool.false_eq_true, if_false] at hfits hfits'
  · intro hclash
    rw [ClientsClash, List.take_of_length_le hfits, List.take_of_length_le hfits'] at hclash
    exact hrid (Text.str_injective (String.toList_inj.mp hclash))
  · exact not_mixedClash hfits'
  · exact not_mixedClash hfits
  · rintro (⟨-, hid, -⟩ | ⟨hcut, -⟩)
    · exact hrid hid
    · omega

/-- A deployment of the model with this name. -/
def deployment (model : String) : App :=
  ⟨"pgbouncer-k8s", model, 0, .empty, none, none, fun _ => .empty, ⟨fun _ => none, [], []⟩⟩

theorem applicationName_pgbouncer : ApplicationName "pgbouncer-k8s" := ⟨by decide, by decide⟩

theorem modelName_dev : ModelName "dev" :=
  ⟨List.all_iff_forall_prop.mp (by decide), by decide⟩

theorem modelName_prod : ModelName "prod" :=
  ⟨List.all_iff_forall_prop.mp (by decide), by decide⟩

/-- Two models number their relations independently, and the role of a client
    relation carries no model name. -/
theorem roles_shared :
    ∃ r r' : Served, Distinct r r' ∧ identifier r.role = identifier r'.role :=
  ⟨⟨deployment "dev", 7, .database, applicationName_pgbouncer, modelName_dev⟩,
    ⟨deployment "prod", 7, .database, applicationName_pgbouncer, modelName_prod⟩,
    .inl (by decide), (identifier_eq_iff _ _).mpr rfl⟩

end PgBouncerK8s.Roles
