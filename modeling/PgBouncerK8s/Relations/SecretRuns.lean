import PgBouncerK8s.Relations.SecretExchange

/-!
# What a requirer reads

Through all runs the provider's fields are one flat databag, whatever part of
them is kept in secrets.

* `fetch_exec`: each unit of the requirer, and the leader of the provider, read
  under each field the last value written under it.
* `secret_of_reach`: a field that has been asked for as a secret before it was
  written never comes to the databag.
-/

namespace PgBouncerK8s.SecretData

open Machine

variable {name : String} {w w' : World} {rid : ℕ} {data : Dict String String}

/-! ## One write -/

/-- The value of a field as Juju keeps it: an empty one is none. -/
def World.shown (name : String) (w : World) (rid : ℕ) (f : String) : Option String :=
  (w.value name rid f).filter (· ≠ "")

/-- What a write of the provider does to the world. -/
structure Updated (name : String) (rid : ℕ) (data : Dict String String) (w w' : World) : Prop where
  kept : Kept name w'
  enabled : w'.secretsEnabled = w.secretsEnabled
  same : SameRequirers w w'
  shown : ∀ rid' f, isSecretField f = false → w'.shown name rid' f =
    if rid' = rid then
      (data.get? f).elim (w.shown name rid' f) fun v => if v = "" then none else some v
    else w.shown name rid' f
  plain : w.secretsEnabled = true → ∀ rid',
    (∀ f ∈ (w.relations rid').requestedSecrets, (w.relations rid').provider.get? f = none) →
    ∀ f ∈ (w.relations rid').requestedSecrets, (w'.relations rid').provider.get? f = none

theorem filter_elim (v v' : Option String) :
    (v.or v').filter (· ≠ "") =
      v.elim (v'.filter (· ≠ "")) fun v => if v = "" then none else some v := by
  cases v with
  | none => rfl
  | some v =>
    by_cases hv : v = "" <;> simp [hv]

/-- Some fields are written to the databag. -/
theorem updated_putAll (rid : ℕ) (data : Dict String String) (h : Kept name w)
    (hdata : ∀ k ∈ data.keys, isSecretField k = false)
    (hsec : ∀ f ∈ (w.relations rid).requestedSecrets, data.get? f ≠ none →
      ∀ group, w.secretAt name rid group = none)
    (hplain : w.secretsEnabled = true →
      (∀ f ∈ (w.relations rid).requestedSecrets, (w.relations rid).provider.get? f = none) →
      ∀ f ∈ (w.relations rid).requestedSecrets, data.get? f = none) :
    Updated name rid data w (w.putRelation rid { w.relations rid with
      provider := putAll (w.relations rid).provider data.items }) where
  kept := h.putAll hdata hsec
  enabled := rfl
  same := sameRequirers_of_other (fun rid' hr => Function.update_of_ne hr _ _)
    (by simp only [World.putRelation, Function.update_self])
    (by simp only [World.putRelation, Function.update_self])
  shown rid' f hf := by
    by_cases hr : rid' = rid
    · subst hr
      rw [if_pos rfl]
      unfold World.shown World.value
      simp only [World.putRelation, Function.update_self, get?_putAll]
      show (if _ then Option.or ((w.secretAt name rid' (groupOf f)).bind _) _ else _).filter _ = _
      cases hd : data.get? f with
      | none => rfl
      | some v =>
        simp only [Option.elim_some]
        by_cases hreq : f ∈ (w.relations rid').requestedSecrets
        · rw [if_pos hreq, hsec f hreq (by simp [hd])]
          by_cases hv : v = "" <;> simp [hv]
        · rw [if_neg hreq]
          by_cases hv : v = "" <;> simp [hv]
    · rw [if_neg hr]
      unfold World.shown World.value
      simp only [World.putRelation, Function.update_of_ne hr]
      rfl
  plain hen rid' hbag f hf := by
    by_cases hr : rid' = rid
    · subst hr
      simp only [World.putRelation, Function.update_self, get?_putAll]
      rw [hplain hen hbag f hf]
      exact hbag f hf
    · simp only [World.putRelation, Function.update_of_ne hr]
      exact hbag f hf

theorem Grouped.provider {fs : List String} {groups : List SecretGroup}
    (h : Grouped name rid data fs groups w w') (rid' : ℕ) {f : String}
    (hf : isSecretField f = false) :
    (w'.relations rid').provider.get? f = (w.relations rid').provider.get? f := by
  by_cases hr : rid' = rid
  · subst hr
    exact h.plain f hf
  · rw [h.other rid' hr]

/-- The requested fields are written to the secrets. -/
theorem Grouped.shown {fs : List String} {groups : List SecretGroup}
    (h : Grouped name rid data fs groups w w') (hen : ∀ f, f ∈ fs ↔
      data.get? f ≠ none ∧ f ∈ (w.relations rid).requestedSecrets)
    (hgroups : ∀ f ∈ fs, groupOf f ∈ groups)
    (hbag : ∀ f ∈ (w.relations rid).requestedSecrets, (w.relations rid).provider.get? f = none)
    (rid' : ℕ) {f : String} (hf : isSecretField f = false) : w'.shown name rid' f =
      if rid' = rid ∧ f ∈ (w.relations rid).requestedSecrets then
        (data.get? f).elim (w.shown name rid' f) fun v => if v = "" then none else some v
      else w.shown name rid' f := by
  unfold World.shown World.value
  rw [h.content]
  by_cases hr : rid' = rid
  · subst hr
    rw [h.requested, h.plain f hf]
    by_cases hreq : f ∈ (w.relations rid').requestedSecrets
    · simp only [hreq, hbag f hreq, true_and, and_true, if_true, Option.or_none]
      by_cases hd : data.get? f = none
      · rw [if_neg fun hc => ((hen f).mp hc.2).1 hd, hd, Option.elim_none]
      · have hfs := (hen f).mpr ⟨hd, hreq⟩
        rw [if_pos ⟨hgroups f hfs, hfs⟩, filter_elim]
    · simp only [hreq, if_false, and_false]
  · simp only [hr, false_and, if_false, h.other rid' hr]

theorem fallbackToDatabag_eq_false {req : List String} {ours : Dict String String} :
    fallbackToDatabag true req ours = false ↔ ∀ f ∈ req, ours.get? f = none := by
  unfold fallbackToDatabag
  simp [Dict.contains]

/-- Where secrets are in use, a write goes to the secrets first. -/
theorem exists_grouped (data : Dict String String) (h : Kept name w)
    (hen : w.secretsEnabled = true)
    (hne : (w.relations rid).requestedSecrets ≠ [])
    (hbag : ∀ f ∈ (w.relations rid).requestedSecrets, (w.relations rid).provider.get? f = none) :
    ∃ fs groups w₁, (∀ f, f ∈ fs ↔ data.get? f ≠ none ∧ f ∈ (w.relations rid).requestedSecrets) ∧
      (∀ f ∈ fs, groupOf f ∈ groups) ∧ Grouped name rid data fs groups w w₁ ∧
      w.updateRelationData name rid data = w₁.putRelation rid { w₁.relations rid with
        provider := putAll (w₁.relations rid).provider
          (data.filter fun k => k ∉ (w.relations rid).requestedSecrets).items } := by
  have hmem : ∀ f ∈ data.keys.filter (· ∈ (w.relations rid).requestedSecrets),
      f ∈ (w.relations rid).requestedSecrets :=
    fun f hf => of_decide_eq_true (List.mem_filter.mp hf).2
  obtain ⟨hgrouped, hnormal⟩ := grouped_foldl data h hen hbag hmem hne
    (groupSecretFields (data.keys.filter (· ∈ (w.relations rid).requestedSecrets))).items
    (data.keys.filter (· ∉ (w.relations rid).requestedSecrets))
  refine ⟨_, _, _, fun f => ?_, fun f hf => ?_, hgrouped, ?_⟩
  · rw [List.mem_filter, decide_eq_true_eq, Ne, Dict.get?_eq_none_iff, not_not]
  · exact List.mem_map.mpr ⟨_, mem_groupSecretFields.mpr ⟨rfl, f, hf, rfl⟩, rfl⟩
  · have hitems : (data.items.filter fun p =>
        p.1 ∈ data.keys.filter (· ∉ (w.relations rid).requestedSecrets)) =
        (data.filter fun k => k ∉ (w.relations rid).requestedSecrets).items := by
      refine List.filter_congr fun p hp => ?_
      have hk : p.1 ∈ data.keys := List.mem_map.mpr ⟨p, hp, rfl⟩
      simp [List.mem_filter, hk]
    unfold World.updateRelationData processSecretFields
    simp only [if_pos (And.intro hne (And.intro hen (fallbackToDatabag_eq_false.mpr hbag))),
      hnormal, hitems]

/-- Where they are not, all of it goes to the databag. -/
theorem updateRelationData_of_inactive
    (hactive : ¬((w.relations rid).requestedSecrets ≠ [] ∧ w.secretsEnabled = true ∧
      fallbackToDatabag true (w.relations rid).requestedSecrets
        (w.relations rid).provider = false)) :
    w.updateRelationData name rid data = w.putRelation rid { w.relations rid with
      provider := putAll (w.relations rid).provider data.items } := by
  have hall : (data.items.filter fun p => p.1 ∈ data.keys) = data.items := by
    rw [List.filter_eq_self]
    intro p hp
    exact decide_eq_true (List.mem_map.mpr ⟨p, hp, rfl⟩)
  unfold World.updateRelationData processSecretFields
  simp only [if_neg hactive, hall]

theorem Kept.enabled_of_secret (h : Kept name w) {group : SecretGroup} {s : Secret}
    (hs : w.secretAt name rid group = some s) : w.secretsEnabled = true := by
  by_contra hoff
  have hnone := h.enabled (Bool.not_eq_true _ ▸ hoff) (secretLabel name rid group)
  rw [World.secretAt, hnone] at hs
  cases hs

/-- The fields are written, wherever they are kept. -/
theorem updated_updateRelationData (rid : ℕ) (h : Kept name w)
    (hdata : ∀ k ∈ data.keys, isSecretField k = false) :
    Updated name rid data w (w.updateRelationData name rid data) := by
  by_cases hactive : (w.relations rid).requestedSecrets ≠ [] ∧ w.secretsEnabled = true ∧
      fallbackToDatabag true (w.relations rid).requestedSecrets (w.relations rid).provider = false
  · obtain ⟨hne, hen, hfall⟩ := hactive
    have hbag := fallbackToDatabag_eq_false.mp hfall
    obtain ⟨fs, groups, w₁, hfs, hgroups, hgrouped, hrun⟩ := exists_grouped data h hen hne hbag
    have hrest : ∀ f ∈ (w₁.relations rid).requestedSecrets,
        (data.filter fun k => k ∉ (w.relations rid).requestedSecrets).get? f = none := by
      intro f hf
      rw [hgrouped.requested] at hf
      rw [Dict.get?_filter, if_neg]
      simpa using hf
    have hput := updated_putAll rid
      (data.filter fun k => k ∉ (w.relations rid).requestedSecrets) hgrouped.kept (fun k hk => ?_)
      (fun f hf hd => absurd (hrest f hf) hd) fun _ _ => hrest
    · rw [hrun]
      constructor
      case kept => exact hput.kept
      case enabled => exact hput.enabled.trans (hgrouped.enabled.trans hen.symm)
      case same =>
        have hsame := sameRequirers_of_other hgrouped.other hgrouped.requirer hgrouped.requested
        exact fun rid' => ⟨(hput.same rid').1.trans (hsame rid').1,
          (hput.same rid').2.trans (hsame rid').2⟩
      case shown =>
        intro rid' f hf
        rw [hput.shown rid' f hf, hgrouped.shown hfs hgroups hbag rid' hf, Dict.get?_filter]
        by_cases hr : rid' = rid
        · by_cases hreq : f ∈ (w.relations rid).requestedSecrets <;> simp [hr, hreq]
        · simp [hr]
      case plain =>
        intro _ rid' hbag' f hf
        have hreq := (sameRequirers_of_other hgrouped.other hgrouped.requirer
          hgrouped.requested rid').2
        refine hput.plain hgrouped.enabled rid' (fun g hg => ?_) f (hreq ▸ hf)
        rw [hreq] at hg
        rw [hgrouped.provider rid' (h.requested rid' g hg).1]
        exact hbag' g hg
    · exact hdata k ((data.items.filter_sublist.map Prod.fst).subset hk)
  · rw [updateRelationData_of_inactive hactive]
    refine updated_putAll rid data h hdata (fun f hf hd group => ?_) fun hen hbag f hf => ?_
    · by_contra hs
      obtain ⟨s, hs⟩ := Option.ne_none_iff_exists'.mp hs
      exact hactive ⟨List.ne_nil_of_mem hf, h.enabled_of_secret hs,
        fallbackToDatabag_eq_false.mpr (h.plain rid group s hs)⟩
    · exact absurd ⟨List.ne_nil_of_mem hf, hen, fallbackToDatabag_eq_false.mpr hbag⟩ hactive

/-! ## Runs -/

/-- No side names a field like the URI of a secret, and a requirer asks for
    fields of the provider only. -/
def WellFormed (_ : World) : Action → Prop
  | .request _ requestedSecrets data => data.contains "database" ∧
      (∀ k ∈ data.keys, isSecretField k = false) ∧
      ∀ f ∈ requestedSecrets, isSecretField f = false ∧ f ∉ requirerSecretFields ∧ f ∉ data.keys
  | .update _ data => ∀ k ∈ data.keys, isSecretField k = false
  | .enableSecrets => True

instance (w : World) (a : Action) : Decidable (WellFormed w a) := by
  cases a <;> unfold WellFormed <;> infer_instance

/-- The relation is requested: nothing has been kept in secrets before. -/
theorem Kept.request (h : Kept name w) {requestedSecrets : List String}
    (hempty : (w.relations rid).requirer.items = [])
    (hw : WellFormed w (.request rid requestedSecrets data)) :
    Kept name (w.putRelation rid
      { w.relations rid with requirer := data, requestedSecrets := requestedSecrets }) := by
  obtain ⟨hdatabase, hdata, hreq⟩ := hw
  set w' := w.putRelation rid _ with hw'
  have hself : w'.relations rid =
      { w.relations rid with requirer := data, requestedSecrets := requestedSecrets } :=
    Function.update_self _ _ _
  have hother : ∀ rid', rid' ≠ rid → w'.relations rid' = w.relations rid' :=
    fun rid' hr => Function.update_of_ne hr _ _
  have hnone : ∀ group, w.secretAt name rid group = none := by
    intro group
    by_contra hs
    obtain ⟨s, hs⟩ := Option.ne_none_iff_exists'.mp hs
    exact h.asked rid group s hs hempty
  have hat : ∀ rid' group, w'.secretAt name rid' group = w.secretAt name rid' group :=
    fun _ _ => rfl
  have hne : ∀ rid' group s, w'.secretAt name rid' group = some s → rid' ≠ rid := by
    rintro rid' group s hs rfl
    rw [hat, hnone] at hs
    cases hs
  constructor
  case toAsked =>
    constructor
    case requirer =>
      intro rid' group
      by_cases hr : rid' = rid
      · subst hr
        rw [hself, Dict.get?_eq_none_iff]
        intro hk
        have hfield := hdata _ hk
        rw [isSecretField_secretFieldName] at hfield
        cases hfield
      · rw [hother rid' hr]
        exact h.requirer rid' group
    case requested =>
      intro rid' f hf
      by_cases hr : rid' = rid
      · subst hr
        rw [hself] at hf ⊢
        exact ⟨(hreq f hf).1, (hreq f hf).2.1, (Dict.get?_eq_none_iff _ _).mpr (hreq f hf).2.2⟩
      · rw [hother rid' hr] at hf ⊢
        exact h.requested rid' f hf
    case unasked =>
      intro rid' hnil
      by_cases hr : rid' = rid
      · subst hr
        rw [hself] at hnil
        obtain ⟨v, hv⟩ := Option.isSome_iff_exists.mp hdatabase
        exact absurd hnil (Dict.items_ne_nil hv)
      · rw [hother rid' hr] at hnil ⊢
        exact h.unasked rid' hnil
  case enabled => exact h.enabled
  case unique => exact h.unique
  case fresh => exact h.fresh
  case uri =>
    intro rid' group
    rw [hat, ← h.uri]
    by_cases hr : rid' = rid
    · subst hr
      rw [hself]
    · rw [hother rid' hr]
  case content =>
    intro rid' group s f v hs
    rw [hother rid' (hne rid' group s hs)]
    exact h.content rid' group s f v hs
  case plain =>
    intro rid' group s hs
    rw [hother rid' (hne rid' group s hs)]
    exact h.plain rid' group s hs
  case asked =>
    intro rid' group s hs
    rw [hother rid' (hne rid' group s hs)]
    exact h.asked rid' group s hs

/-- What is left of a databag of the provider. -/
def Action.write (rid : ℕ) (b : Databag) : Action → Databag
  | .update rid' data => if rid' = rid then b.update data.items else b
  | _ => b

theorem Action.write_update (rid' : ℕ) (b : Databag) : (Action.update rid data).write rid' b =
    if rid = rid' then b.update data.items else b := rfl

/-- The databag of the provider where all its fields are written to it. -/
def written (rid : ℕ) (l : List Action) : Databag := l.foldl (Action.write rid) Databag.empty

theorem get_update (b : Databag) (data : Dict String String) (f : String) :
    (b.update data.items).get f =
      (data.get? f).elim (b.get f) fun v => if v = "" then none else some v :=
  Dict.read_foldl (fun b p f => Databag.get_set b p.1 p.2 f) b data f

/-- Every step keeps the invariant, and does to each databag what it does to the
    flat one. -/
theorem Kept.step {a : Action} (h : Kept name w) (hw : WellFormed w a)
    (hs : SecretData.step name w a = some w') :
    Kept name w' ∧ ∀ rid b f, isSecretField f = false → w.shown name rid f = b.get f →
      w'.shown name rid f = (a.write rid b).get f := by
  cases a with
  | request rid requestedSecrets data =>
    obtain ⟨hempty, hs⟩ := Option.ite_none_right_eq_some.mp hs
    cases hs
    refine ⟨h.request hempty hw, fun rid' b f hf hb => hb ▸ ?_⟩
    unfold World.shown World.value
    by_cases hr : rid' = rid
    · subst hr
      have hnone : w.secretAt name rid' (groupOf f) = none := by
        by_contra hs
        obtain ⟨s, hs⟩ := Option.ne_none_iff_exists'.mp hs
        exact h.asked rid' _ s hs hempty
      simp only [World.putRelation, Function.update_self, h.unasked rid' hempty,
        List.not_mem_nil, if_false]
      show (if _ then Option.or ((w.secretAt name rid' (groupOf f)).bind _) _ else _).filter _ = _
      rw [hnone, Option.bind_none, Option.none_or, ite_self]
    · simp only [World.putRelation, Function.update_of_ne hr]
      rfl
  | update rid data =>
    obtain ⟨-, hs⟩ := Option.ite_none_left_eq_some.mp hs
    cases hs
    have hup := updated_updateRelationData rid h hw
    refine ⟨hup.kept, fun rid' b f hf hb => ?_⟩
    rw [hup.shown rid' f hf, Action.write_update]
    by_cases hr : rid' = rid
    · rw [if_pos hr, if_pos hr.symm, get_update, hb]
    · rw [if_neg hr, if_neg (Ne.symm hr), hb]
  | enableSecrets =>
    cases hs
    exact ⟨{ h with enabled := fun hoff => by cases hoff }, fun rid b f _ hb => hb⟩

/-- After a run the fields are those of the flat databag. -/
theorem shown_exec {l : List Action} (hw : Initial w)
    (h : (machine name).exec WellFormed w l = some w') :
    Kept name w' ∧ ∀ rid f, isSecretField f = false →
      w'.shown name rid f = (written rid l).get f := by
  have key : ∀ (l : List Action) (w : World) (b : ℕ → Databag), Kept name w →
      (∀ rid f, isSecretField f = false → w.shown name rid f = (b rid).get f) →
      (machine name).exec WellFormed w l = some w' →
      Kept name w' ∧ ∀ rid f, isSecretField f = false →
        w'.shown name rid f = (l.foldl (Action.write rid) (b rid)).get f := by
    intro l
    induction l with
    | nil =>
      intro w b hk hb h
      obtain rfl : w = w' := by simpa [exec_nil] using h
      exact ⟨hk, hb⟩
    | cons a l ih =>
      intro w b hk hb h
      obtain ⟨t, hg, hs, hl⟩ := exec_cons_eq_some.mp h
      obtain ⟨hkept, hshown⟩ := hk.step hg hs
      exact ih t (fun rid => a.write rid (b rid)) hkept
        (fun rid f hf => hshown rid (b rid) f hf (hb rid f hf)) hl
  refine key l w (fun _ => Databag.empty) (kept_of_initial hw) (fun rid f _ => ?_) h
  unfold World.shown World.value
  simp [hw.relations, Databag.empty]

/-! ## Reading -/

/-- A unit of the requirer reads what the provider has under a field. -/
theorem Kept.fetchRelationData (h : Kept name w) (leader : Bool) {secretsEnabled : Bool}
    (hen : secretsEnabled = false → (w.relations rid).requestedSecrets = []) {fields : List String}
    {f : String} (hfield : isSecretField f = false) (hf : fields = [] ∨ f ∈ fields) :
    (w.fetchRelationData rid leader secretsEnabled (w.relations rid).requestedSecrets
      fields).get? f = w.value name rid f := by
  have hsecret : ∀ f ∈ (w.relations rid).requestedSecrets,
      w.requirerSecret rid (groupOf f) = w.secretAt name rid (groupOf f) := fun f hf =>
    h.requirerSecret rid (groupOf_ne_mtls (h.requested rid f hf).2.1)
  have hfall : fallbackToDatabag leader (w.relations rid).requestedSecrets
      (w.relations rid).requirer = false := by
    unfold fallbackToDatabag
    have hnone : ((w.relations rid).requestedSecrets.any (w.relations rid).requirer.contains) =
        false := by
      rw [List.any_eq_false]
      intro f hf
      simp [Dict.contains, (h.requested rid f hf).2.2]
    rw [hnone, Bool.and_false]
  unfold World.fetchRelationData World.value
  rw [get?_fetch_of_mem (fun f hf s hs k v hk => ?_) (fun f hf hs => ?_) hfield hf]
  · by_cases hreq : f ∈ (w.relations rid).requestedSecrets
    · have hon : secretsEnabled = true := by
        by_contra hoff
        rw [hen (Bool.not_eq_true _ ▸ hoff)] at hreq
        cases hreq
      rw [if_pos ⟨⟨hon, hfall⟩, hreq⟩, if_pos hreq, hsecret f hreq]
    · rw [if_neg fun hc => hreq hc.2, if_neg hreq]
  · rw [hsecret f hf] at hs
    exact (h.content rid _ s k v hs hk).2
  · rw [hsecret f hf] at hs
    obtain ⟨s, hs⟩ := Option.ne_none_iff_exists'.mp hs
    exact h.plain rid _ s hs f hf

/-- So does the leader of the provider. -/
theorem Kept.fetchMyRelationData (h : Kept name w) {fields : List String} {f : String}
    (hfield : isSecretField f = false) (hf : fields = [] ∨ f ∈ fields) :
    (w.fetchMyRelationData name rid fields).get? f = w.value name rid f := by
  unfold World.fetchMyRelationData World.value
  rw [get?_fetch_of_mem (fun f hf s hs k v hk => ?_) (fun f hf hs => ?_) hfield hf,
    h.providerSecret]
  · by_cases hreq : f ∈ (w.relations rid).requestedSecrets
    · rw [if_pos hreq]
      cases hs : w.secretAt name rid (groupOf f) with
      | none => rw [Option.bind_none, Option.none_or, ite_self]
      | some s =>
        rw [if_pos ⟨⟨h.enabled_of_secret hs,
          fallbackToDatabag_eq_false.mpr (h.plain rid _ s hs)⟩, hreq⟩]
    · rw [if_neg fun hc => hreq hc.2, if_neg hreq]
  · rw [h.providerSecret] at hs
    exact (h.content rid _ s k v hs hk).2
  · rw [h.providerSecret] at hs
    obtain ⟨s, hs⟩ := Option.ne_none_iff_exists'.mp hs
    exact h.plain rid _ s hs f hf

/-- No relation yet, on a Juju without secrets. -/
def sampleWorld (secretsEnabled : Bool) : World :=
  ⟨fun _ => ⟨Dict.empty, Dict.empty, []⟩, Dict.empty, 0, secretsEnabled⟩

/-- Two relations that ask for the password, the first of them before the upgrade
    of Juju. -/
def sampleRun : List Action :=
  [.request 7 ["username", "password"] (Dict.empty.set "database" "first"),
    .update 7 (Dict.empty.setAll [("username", "relation-7"), ("password", "old")]),
    .enableSecrets,
    .request 8 ["username", "password"] (Dict.empty.set "database" "second"),
    .update 8 (Dict.empty.setAll [("username", "relation-8"), ("password", "other")]),
    .update 7 (Dict.empty.set "password" "new"), .update 8 (Dict.empty.set "endpoints" "db:6432")]

/-- A request that comes before the fields it wants to be secret, to a provider
    that has secrets. -/
def Early (w : World) (a : Action) : Prop :=
  WellFormed w a ∧ match a with
    | .request rid requestedSecrets _ => w.secretsEnabled = true ∧
        ∀ f ∈ requestedSecrets, (w.relations rid).provider.get? f = none
    | _ => True

instance (w : World) (a : Action) : Decidable (Early w a) := by
  unfold Early
  cases a <;> infer_instance

/-- In every run of such requests no field that was asked for as a secret is ever in
    the databag. -/
theorem secret_of_reach (h : (machine name).Reach Early w) (rid : ℕ) {f : String}
    (hf : f ∈ (w.relations rid).requestedSecrets) :
    (w.relations rid).provider.get? f = none := by
  have hinv : Kept name w ∧ ∀ rid, (w.relations rid).requestedSecrets ≠ [] →
      w.secretsEnabled = true ∧ ∀ f ∈ (w.relations rid).requestedSecrets,
        (w.relations rid).provider.get? f = none := by
    refine h.invariant (I := fun w => Kept name w ∧ ∀ rid,
      (w.relations rid).requestedSecrets ≠ [] → w.secretsEnabled = true ∧
        ∀ f ∈ (w.relations rid).requestedSecrets, (w.relations rid).provider.get? f = none)
      (fun s hs => ⟨kept_of_initial hs, fun rid hne => ?_⟩) ?_
    · rw [hs.relations] at hne
      exact absurd rfl hne
    · rintro s a s' - ⟨hk, hi⟩ ⟨hw, hearly⟩ hs
      refine ⟨(hk.step hw hs).1, fun rid hne => ?_⟩
      cases a with
      | request rid' requestedSecrets data =>
        obtain ⟨-, hs⟩ := Option.ite_none_right_eq_some.mp hs
        cases hs
        by_cases hr : rid = rid'
        · subst hr
          simp only [World.putRelation, Function.update_self]
          exact hearly
        · simp only [World.putRelation, Function.update_of_ne hr] at hne ⊢
          exact hi rid hne
      | update rid' data =>
        obtain ⟨-, hs⟩ := Option.ite_none_left_eq_some.mp hs
        cases hs
        have hup := updated_updateRelationData rid' hk hw
        rw [(hup.same rid).2] at hne ⊢
        obtain ⟨hen, hbag⟩ := hi rid hne
        exact ⟨hup.enabled.trans hen, hup.plain hen rid hbag⟩
      | enableSecrets =>
        cases hs
        exact ⟨rfl, (hi rid hne).2⟩
  exact (hinv.2 rid (List.ne_nil_of_mem hf)).2 f hf

theorem secret_of_reach_sample : ∃ w, (machine "database").Reach Early w ∧
    "password" ∈ (w.relations 7).requestedSecrets ∧
      (w.relations 7).provider.get? "password" = none ∧
      w.value "database" 7 "password" = some "new" := by
  obtain ⟨w, h, hp⟩ := exists_reach_of_exec (machine "database") Early (sampleWorld true)
    sampleRun
    (fun w => decide ("password" ∈ (w.relations 7).requestedSecrets ∧
      w.value "database" 7 "password" = some "new")) ⟨rfl, rfl⟩ (by decide +kernel)
  obtain ⟨hreq, hvalue⟩ := of_decide_eq_true hp
  exact ⟨w, h, hreq, secret_of_reach h 7 hreq, hvalue⟩

end PgBouncerK8s.SecretData
