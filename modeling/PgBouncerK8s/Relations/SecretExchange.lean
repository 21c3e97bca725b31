import PgBouncerK8s.Relations.SecretData

/-!
# Grouped secrets and the databag

The data of a relation is in the provider's databag and in one secret for each
group of fields that the requirer has asked for.

* `get?_fetch`: `_fetch_relation_data_with_secrets` reads a field from the secret
  of its group first, then from the databag.
* `Kept`: the URIs in the databag name the secrets of the relation, which hold
  requested fields of their group only, and none that is in the databag too.
* `grouped_foldl`: `_add_or_update_relation_secrets`, group by group, keeps this
  and writes the given fields only.
-/

namespace PgBouncerK8s.SecretData

open Machine

variable {name : String} {w w' : World} {rid : ℕ} {data : Dict String String}

/-! ## Reading -/

section Fetch

variable {secretOf : SecretGroup → Option Secret} {secretFields : List String}

/-- What a group has under a field that is asked for. -/
def readGroup (secretOf : SecretGroup → Option Secret) (secretFields : List String)
    (group : SecretGroup) (k : String) : Option String :=
  if k ∈ secretFields then (secretOf group).bind fun s => s.content.get? k else none

theorem groupSecretContents_eq (hne : secretFields ≠ []) (group : SecretGroup) :
    groupSecretContents (secretOf group) secretFields =
      ((secretOf group).elim Dict.empty
        fun s => s.content.filter fun k => k ∈ secretFields).items := by
  unfold groupSecretContents
  cases secretOf group with
  | none => rfl
  | some s => simp [Dict.filter, hne]

theorem get?_setAll_groupSecretContents (hne : secretFields ≠ []) (group : SecretGroup)
    (d : Dict String String) (k : String) :
    (d.setAll (groupSecretContents (secretOf group) secretFields)).get? k =
      (readGroup secretOf secretFields group k).or (d.get? k) := by
  rw [groupSecretContents_eq hne, Dict.get?_setAll_dict]
  unfold readGroup
  cases secretOf group with
  | none => simp
  | some s =>
    simp only [Option.elim_some, Option.bind_some, Dict.get?_filter, decide_eq_true_eq]

theorem groupSecretContents_eq_nil_iff (hne : secretFields ≠ []) (group : SecretGroup) :
    groupSecretContents (secretOf group) secretFields = [] ↔
      ∀ k, readGroup secretOf secretFields group k = none := by
  rw [groupSecretContents_eq hne, Dict.items_eq_nil_iff]
  unfold readGroup
  cases secretOf group with
  | none => simp
  | some s =>
    simp only [Option.elim_some, Option.bind_some, Dict.get?_filter, decide_eq_true_eq]

/-- The loop over the groups, where each secret has fields of its group only. -/
theorem foldl_fetch (hne : secretFields ≠ [])
    (l : List (SecretGroup × List String))
    (hgroup : ∀ p ∈ l, ∀ k v, readGroup secretOf secretFields p.1 k = some v → groupOf k = p.1)
    (result : Dict String String) (normalFields : List String) :
    let out := l.foldl (fun (acc : Dict String String × List String) p =>
      let contents := groupSecretContents (secretOf p.1) secretFields
      (acc.1.setAll contents, if !contents.isEmpty then acc.2 else acc.2 ++ p.2))
      (result, normalFields)
    (∀ k, out.1.get? k = if groupOf k ∈ l.map Prod.fst then
        (readGroup secretOf secretFields (groupOf k) k).or (result.get? k) else result.get? k) ∧
      ∀ f, f ∈ out.2 ↔ f ∈ normalFields ∨ ∃ p ∈ l,
        groupSecretContents (secretOf p.1) secretFields = [] ∧ f ∈ p.2 := by
  induction l generalizing result normalFields with
  | nil => simp
  | cons p l ih =>
    obtain ⟨hresult, hnormal⟩ := ih (fun q hq => hgroup q (List.mem_cons_of_mem _ hq))
      (result.setAll (groupSecretContents (secretOf p.1) secretFields))
      (if !(groupSecretContents (secretOf p.1) secretFields).isEmpty then normalFields
        else normalFields ++ p.2)
    refine ⟨fun k => (hresult k).trans ?_, fun f => (hnormal f).trans ?_⟩
    · rw [get?_setAll_groupSecretContents hne, List.map_cons]
      by_cases hk : groupOf k = p.1
      · rw [if_pos (List.mem_cons.mpr (.inl hk)), ← hk]
        split_ifs
        · rw [← Option.or_assoc, Option.or_self]
        · rfl
      · have hnone : readGroup secretOf secretFields p.1 k = none := by
          cases h : readGroup secretOf secretFields p.1 k with
          | none => rfl
          | some v => exact absurd (hgroup p List.mem_cons_self _ _ h) hk
        have hmem : groupOf k ∈ p.1 :: l.map Prod.fst ↔ groupOf k ∈ l.map Prod.fst := by simp [hk]
        simp only [hnone, Option.none_or, hmem]
    · simp only [List.mem_cons, exists_eq_or_imp, ← or_assoc]
      refine or_congr_left ?_
      cases hc : groupSecretContents (secretOf p.1) secretFields <;> simp

theorem get?_setAll_fetchRelationDataWithoutSecrets (d bag : Dict String String)
    (fields : List String) (f : String) :
    (d.setAll (fetchRelationDataWithoutSecrets bag fields)).get? f =
      if f ∈ fields then (bag.get? f).or (d.get? f) else d.get? f := by
  unfold fetchRelationDataWithoutSecrets
  induction fields generalizing d with
  | nil => rfl
  | cons k fields ih =>
    have hmem : f ∈ k :: fields ↔ f = k ∨ f ∈ fields := List.mem_cons
    cases hk : bag.get? k with
    | none =>
      rw [List.filterMap_cons_none (by rw [hk]; rfl), ih]
      by_cases he : f = k
      · subst he
        simp [hk]
      · simp [he]
    | some v =>
      rw [List.filterMap_cons_some (by rw [hk]; rfl), Dict.setAll_cons, ih, Dict.get?_set]
      by_cases he : f = k
      · subst he
        simp [hk]
      · simp [he]

/-- The loop over the groups of the fields that are asked for: what it finds, and
    what it leaves to the databag. -/
theorem foldl_groupSecretFields (hne : secretFields ≠ [])
    (hcontent : ∀ f ∈ secretFields, ∀ s, secretOf (groupOf f) = some s → ∀ k v,
      s.content.get? k = some v → groupOf k = groupOf f) (normalFields : List String) (f : String) :
    let out := (groupSecretFields secretFields).items.foldl
      (fun (acc : Dict String String × List String) p =>
        let contents := groupSecretContents (secretOf p.1) secretFields
        (acc.1.setAll contents, if !contents.isEmpty then acc.2 else acc.2 ++ p.2))
      (Dict.empty, normalFields)
    out.1.get? f = readGroup secretOf secretFields (groupOf f) f ∧
      (f ∈ out.2 ↔ f ∈ normalFields ∨
        f ∈ secretFields ∧ groupSecretContents (secretOf (groupOf f)) secretFields = []) := by
  have hgroup : ∀ p ∈ (groupSecretFields secretFields).items, ∀ k v,
      readGroup secretOf secretFields p.1 k = some v → groupOf k = p.1 := by
    intro p hp k v hk
    obtain ⟨-, g, hg, he⟩ := mem_groupSecretFields.mp hp
    unfold readGroup at hk
    obtain ⟨-, hk⟩ := Option.ite_none_right_eq_some.mp hk
    obtain ⟨s, hs, hk⟩ := Option.bind_eq_some_iff.mp hk
    rw [← he] at hs ⊢
    exact hcontent g hg s hs k v hk
  have hkey : f ∈ secretFields →
      (groupOf f, secretFields.filter (groupOf · = groupOf f)) ∈
        (groupSecretFields secretFields).items :=
    fun hf => mem_groupSecretFields.mpr ⟨rfl, f, hf, rfl⟩
  obtain ⟨hresult, hnormal⟩ := foldl_fetch hne _ hgroup Dict.empty normalFields
  refine ⟨(hresult f).trans ?_, (hnormal f).trans (or_congr_right ?_)⟩
  · rw [Dict.get?_empty, Option.or_none]
    split_ifs with hg
    · rfl
    · exact (if_neg fun hf => hg (List.mem_map.mpr ⟨_, hkey hf, rfl⟩)).symm
  · constructor
    · rintro ⟨p, hp, hc, hf⟩
      obtain ⟨he, -⟩ := mem_groupSecretFields.mp hp
      rw [he, List.mem_filter, decide_eq_true_eq] at hf
      exact ⟨hf.1, hf.2 ▸ hc⟩
    · rintro ⟨hf, hc⟩
      exact ⟨_, hkey hf, hc, List.mem_filter.mpr ⟨hf, decide_eq_true rfl⟩⟩

/-- The databag gives what the groups do not have, where no field of a group with
    a secret is in the databag. -/
theorem get?_foldl_groups {component : Dict String String} {fields : List String}
    (hne : secretFields ≠ [])
    (hcontent : ∀ f ∈ secretFields, ∀ s, secretOf (groupOf f) = some s → ∀ k v,
      s.content.get? k = some v → groupOf k = groupOf f)
    (hplain : ∀ f ∈ secretFields, secretOf (groupOf f) ≠ none → component.get? f = none)
    (f : String) :
    let out := (groupSecretFields secretFields).items.foldl
      (fun (acc : Dict String String × List String) p =>
        let contents := groupSecretContents (secretOf p.1) secretFields
        (acc.1.setAll contents, if !contents.isEmpty then acc.2 else acc.2 ++ p.2))
      (Dict.empty, fields)
    (out.1.setAll (fetchRelationDataWithoutSecrets component out.2)).get? f =
      if f ∈ secretFields then
        ((secretOf (groupOf f)).bind fun s => s.content.get? f).or (component.get? f)
      else if f ∈ fields then component.get? f else none := by
  obtain ⟨hread, hleft⟩ := foldl_groupSecretFields hne hcontent fields f
  intro out
  rw [get?_setAll_fetchRelationDataWithoutSecrets, hread]
  by_cases hf : f ∈ secretFields
  · have hgroup : readGroup secretOf secretFields (groupOf f) f =
        (secretOf (groupOf f)).bind fun s => s.content.get? f := if_pos hf
    rw [if_pos hf]
    by_cases hc : groupSecretContents (secretOf (groupOf f)) secretFields = []
    · -- nothing of the group is found, the databag is the second chance
      rw [if_pos (hleft.mpr (.inr ⟨hf, hc⟩)), ← hgroup,
        (groupSecretContents_eq_nil_iff hne _).mp hc f, Option.or_none, Option.none_or]
    · have hsome : secretOf (groupOf f) ≠ none := fun hn => hc (by rw [hn]; rfl)
      rw [hgroup, hplain f hf hsome, Option.or_none, Option.none_or, ite_self]
  · have hnone : readGroup secretOf secretFields (groupOf f) f = none := if_neg hf
    have hmem : f ∈ out.2 ↔ f ∈ fields := hleft.trans (or_iff_left fun h => hf h.1)
    rw [if_neg hf, hnone, Option.or_none]
    simp only [hmem]

/-- The fields that are read: without a list, those of the databag that are no
    URIs, and the secret ones. -/
def fieldsToFetch (component : Dict String String) (req fields : List String) : List String :=
  if fields = [] then component.keys.filter (fun field => !isSecretField field) ++ req else fields

/-- A field is read from the secret of its group, or else from the databag. -/
theorem get?_fetch {secretsEnabled fallback : Bool} {component : Dict String String}
    {req : List String}
    (hcontent : ∀ f ∈ req, ∀ s, secretOf (groupOf f) = some s → ∀ k v,
      s.content.get? k = some v → groupOf k = groupOf f)
    (hplain : ∀ f ∈ req, secretOf (groupOf f) ≠ none → component.get? f = none)
    (fields : List String) (f : String) :
    (fetchRelationDataWithSecrets secretsEnabled fallback secretOf component req fields).get? f =
      if f ∈ fieldsToFetch component req fields then
        if (req ≠ [] ∧ secretsEnabled = true ∧ fallback = false) ∧ f ∈ req then
          ((secretOf (groupOf f)).bind fun s => s.content.get? f).or (component.get? f)
        else component.get? f
      else none := by
  have hfields : (if fields = [] then
      component.keys.filter (fun field => !isSecretField field) ++ req else fields) =
        fieldsToFetch component req fields := rfl
  unfold fetchRelationDataWithSecrets
  simp only [hfields]
  generalize fieldsToFetch component req fields = fields
  unfold processSecretFields
  by_cases hactive : req ≠ [] ∧ secretsEnabled = true ∧ fallback = false
  · rw [if_pos hactive]
    simp only [and_iff_right hactive]
    have hsecret : ∀ k, k ∈ fields.filter (· ∈ req) ↔ k ∈ fields ∧ k ∈ req := fun k => by simp
    have hnormal : ∀ k, k ∈ fields.filter (· ∉ req) ↔ k ∈ fields ∧ k ∉ req := fun k => by simp
    by_cases hsf : fields.filter (· ∈ req) = []
    · have hreq : ∀ k ∈ fields, k ∉ req := fun k hk hr => by
        have hmem := (hsecret k).mpr ⟨hk, hr⟩
        rw [hsf] at hmem
        cases hmem
      rw [hsf]
      show (Dict.empty.setAll (fetchRelationDataWithoutSecrets component
        (fields.filter (· ∉ req)))).get? f = _
      rw [get?_setAll_fetchRelationDataWithoutSecrets, Dict.get?_empty, Option.or_none]
      by_cases hf : f ∈ fields
      · rw [if_pos ((hnormal f).mpr ⟨hf, hreq f hf⟩), if_pos hf, if_neg (hreq f hf)]
      · rw [if_neg fun hm => hf ((hnormal f).mp hm).1, if_neg hf]
    · refine (get?_foldl_groups hsf (fun k hk => hcontent k ((hsecret k).mp hk).2)
        (fun k hk => hplain k ((hsecret k).mp hk).2) f).trans ?_
      simp only [hsecret, hnormal]
      by_cases hf : f ∈ fields <;> by_cases hr : f ∈ req <;> simp only [hf, hr, and_self,
        not_true, not_false_eq_true, and_true, and_false, if_true, if_false]
  · rw [if_neg hactive, get?_setAll_fetchRelationDataWithoutSecrets]
    simp only [hactive, false_and, if_false, Dict.get?_empty, Option.or_none]

/-- What is read under a field that is asked for. -/
theorem get?_fetch_of_mem {secretsEnabled fallback : Bool} {component : Dict String String}
    {req fields : List String}
    (hcontent : ∀ f ∈ req, ∀ s, secretOf (groupOf f) = some s → ∀ k v,
      s.content.get? k = some v → groupOf k = groupOf f)
    (hplain : ∀ f ∈ req, secretOf (groupOf f) ≠ none → component.get? f = none) {f : String}
    (hfield : isSecretField f = false) (hf : fields = [] ∨ f ∈ fields) :
    (fetchRelationDataWithSecrets secretsEnabled fallback secretOf component req fields).get? f =
      if (secretsEnabled = true ∧ fallback = false) ∧ f ∈ req then
        ((secretOf (groupOf f)).bind fun s => s.content.get? f).or (component.get? f)
      else component.get? f := by
  have hcond : ((req ≠ [] ∧ secretsEnabled = true ∧ fallback = false) ∧ f ∈ req) ↔
      (secretsEnabled = true ∧ fallback = false) ∧ f ∈ req :=
    ⟨fun h => ⟨h.1.2, h.2⟩, fun h => ⟨⟨List.ne_nil_of_mem h.2, h.1⟩, h.2⟩⟩
  rw [get?_fetch hcontent hplain]
  simp only [hcond]
  rw [ite_eq_left_iff]
  intro hm
  unfold fieldsToFetch at hm
  rcases hf with rfl | hf
  · rw [if_pos rfl, List.mem_append, List.mem_filter, hfield] at hm
    have hr : f ∉ req := fun hr => hm (.inr hr)
    have hk : component.get? f = none :=
      (Dict.get?_eq_none_iff _ _).mpr fun hk => hm (.inl ⟨hk, rfl⟩)
    rw [if_neg fun hc => hr hc.2, hk]
  · rw [if_neg (List.ne_nil_of_mem hf)] at hm
    exact absurd hf hm

end Fetch

/-! ## The invariant -/

/-- The secret of a group of a relation. -/
def World.secretAt (name : String) (w : World) (rid : ℕ) (group : SecretGroup) : Option Secret :=
  w.secrets.get? (secretLabel name rid group)

/-- The databags of the requirers. -/
structure Asked (w : World) : Prop where
  requirer : ∀ rid group, (w.relations rid).requirer.get? (secretFieldName group) = none
  requested : ∀ rid, ∀ f ∈ (w.relations rid).requestedSecrets, isSecretField f = false ∧
    f ∉ requirerSecretFields ∧ (w.relations rid).requirer.get? f = none
  unasked : ∀ rid, (w.relations rid).requirer.items = [] →
    (w.relations rid).requestedSecrets = []

/-- The secrets are named by the databags, have the fields of their groups, and
    keep all requested fields of their relation out of the databag. -/
structure Kept (name : String) (w : World) : Prop extends Asked w where
  enabled : w.secretsEnabled = false → ∀ label, w.secrets.get? label = none
  unique : ∀ label label' s s', w.secrets.get? label = some s → w.secrets.get? label' = some s' →
    s.id = s'.id → label = label'
  fresh : ∀ label s, w.secrets.get? label = some s → ∃ n < w.next, s.id = "secret:" ++ Text.str n
  uri : ∀ rid group, (w.relations rid).provider.get? (secretFieldName group) =
    (w.secretAt name rid group).map Secret.id
  content : ∀ rid group s f v, w.secretAt name rid group = some s → s.content.get? f = some v →
    f ∈ (w.relations rid).requestedSecrets ∧ groupOf f = group
  plain : ∀ rid group s, w.secretAt name rid group = some s →
    ∀ f ∈ (w.relations rid).requestedSecrets, (w.relations rid).provider.get? f = none
  asked : ∀ rid group s, w.secretAt name rid group = some s →
    (w.relations rid).requirer.items ≠ []

/-- A step of the provider: the requirers' databags stay as they are. -/
def SameRequirers (w w' : World) : Prop :=
  ∀ rid, (w'.relations rid).requirer = (w.relations rid).requirer ∧
    (w'.relations rid).requestedSecrets = (w.relations rid).requestedSecrets

theorem sameRequirers_of_other (hother : ∀ rid', rid' ≠ rid → w'.relations rid' = w.relations rid')
    (hrequirer : (w'.relations rid).requirer = (w.relations rid).requirer)
    (hrequested : (w'.relations rid).requestedSecrets = (w.relations rid).requestedSecrets) :
    SameRequirers w w' := by
  intro rid'
  by_cases hr : rid' = rid
  · subst hr
    exact ⟨hrequirer, hrequested⟩
  · rw [hother rid' hr]
    exact ⟨rfl, rfl⟩

theorem Asked.congr (h : Asked w) (hsame : SameRequirers w w') : Asked w' where
  requirer rid group := by
    rw [(hsame rid).1]
    exact h.requirer rid group
  requested rid f hf := by
    rw [(hsame rid).2] at hf
    rw [(hsame rid).1]
    exact h.requested rid f hf
  unasked rid hempty := by
    rw [(hsame rid).1] at hempty
    rw [(hsame rid).2]
    exact h.unasked rid hempty

theorem kept_of_initial (h : Initial w) : Kept name w where
  enabled _ _ := by simp [h.secrets]
  unique _ _ _ _ hs := by simp [h.secrets] at hs
  fresh _ _ hs := by simp [h.secrets] at hs
  uri _ _ := by simp [h.relations, World.secretAt, h.secrets]
  content _ _ _ _ _ hs := by simp [World.secretAt, h.secrets] at hs
  plain _ _ _ hs := by simp [World.secretAt, h.secrets] at hs
  asked _ _ _ hs := by simp [World.secretAt, h.secrets] at hs
  requirer _ _ := by simp [h.relations]
  requested _ f hf := by simp [h.relations] at hf
  unasked _ _ := by simp [h.relations]

theorem Kept.secretOfUri (h : Kept name w) {label : String} {s : Secret}
    (hs : w.secrets.get? label = some s) : w.secretOfUri s.id = some s := by
  unfold World.secretOfUri
  cases hf : w.secrets.values.find? fun s' => s'.id = s.id with
  | none =>
    have hmem := (Dict.mem_values_iff _ _).mpr ⟨label, hs⟩
    have hne := List.find?_eq_none.mp hf s hmem
    simp at hne
  | some s' =>
    have hid : s'.id = s.id := by simpa using List.find?_some hf
    obtain ⟨label', hs'⟩ := (Dict.mem_values_iff _ _).mp (List.mem_of_find?_eq_some hf)
    obtain rfl := h.unique _ _ _ _ hs' hs hid
    exact hs'.symm.trans hs

/-- The provider finds its secrets by their labels. -/
theorem Kept.providerSecret (h : Kept name w) (rid : ℕ) (group : SecretGroup) :
    w.providerSecret name rid group = w.secretAt name rid group := by
  unfold World.providerSecret World.secretAt
  cases hs : w.secrets.get? (secretLabel name rid group) with
  | some s => rfl
  | none =>
    have huri := h.uri rid group
    rw [World.secretAt, hs, Option.map_none] at huri
    show (getSecretUri _ _ _ _).bind w.secretOfUri = none
    unfold getSecretUri
    rw [huri, h.requirer, ite_self, Option.bind_none]

/-- The requirer finds them by their URIs. -/
theorem Kept.requirerSecret (h : Kept name w) (rid : ℕ) {group : SecretGroup}
    (hg : group ≠ .mtls) : w.requirerSecret rid group = w.secretAt name rid group := by
  have hlocal :
      group ∉ requirerSecretFields.filterMap fun field => secretLabelMap.lookup field := by
    revert hg
    cases group <;> decide
  unfold World.requirerSecret getSecretUri
  simp only [if_neg hlocal, h.uri]
  cases hs : w.secretAt name rid group with
  | none => rfl
  | some s => exact h.secretOfUri hs

theorem groupOf_ne_mtls {f : String} (h : f ∉ requirerSecretFields) : groupOf f ≠ .mtls := by
  intro hg
  have hlookup : secretLabelMap.lookup f = some .mtls := by
    simpa using (groupOf_eq_iff f .mtls).mp hg
  obtain ⟨l, l', he, -⟩ := List.lookup_eq_some_iff.mp hlookup
  have hmem : (f, SecretGroup.mtls) ∈ secretLabelMap := by
    rw [he]
    simp
  have hf : f = "mtls-cert" := by simpa [secretLabelMap] using hmem
  subst hf
  exact h (by decide)

theorem secretFieldName_injective : Function.Injective secretFieldName := by
  intro group group' h
  revert h
  cases group <;> cases group' <;> decide

theorem isSecretField_secretFieldName (group : SecretGroup) :
    isSecretField (secretFieldName group) = true := by
  cases group <;> decide

/-! ## The value of a field -/

/-- What a field holds, in a secret or in the databag. -/
def World.value (name : String) (w : World) (rid : ℕ) (f : String) : Option String :=
  if f ∈ (w.relations rid).requestedSecrets then
    ((w.secretAt name rid (groupOf f)).bind fun s => s.content.get? f).or
      ((w.relations rid).provider.get? f)
  else (w.relations rid).provider.get? f

/-! ## Writing -/

/-- One secret of a relation is written, under a new id or its own. -/
theorem Kept.put {group : SecretGroup} {id : String} {content : Dict String String}
    (h : Kept name w)
    (hen : w'.secretsEnabled = true) (hnext : w.next ≤ w'.next)
    (hsecrets : ∀ label, w'.secrets.get? label =
      if label = secretLabel name rid group then some ⟨id, content⟩ else w.secrets.get? label)
    (hid : ∀ label s, w.secrets.get? label = some s → s.id = id →
      label = secretLabel name rid group)
    (hfresh : ∃ n < w'.next, id = "secret:" ++ Text.str n)
    (hother : ∀ rid', rid' ≠ rid → w'.relations rid' = w.relations rid')
    (hrequirer : (w'.relations rid).requirer = (w.relations rid).requirer)
    (hrequested : (w'.relations rid).requestedSecrets = (w.relations rid).requestedSecrets)
    (hprovider : ∀ f, (w'.relations rid).provider.get? f =
      if f = secretFieldName group then some id else (w.relations rid).provider.get? f)
    (hcontent : ∀ f v, content.get? f = some v →
      f ∈ (w.relations rid).requestedSecrets ∧ groupOf f = group)
    (hbag : ∀ f ∈ (w.relations rid).requestedSecrets, (w.relations rid).provider.get? f = none)
    (hasked : (w.relations rid).requestedSecrets ≠ []) : Kept name w' := by
  have hat : ∀ rid' group', w'.secretAt name rid' group' =
      if rid' = rid ∧ group' = group then some ⟨id, content⟩ else w.secretAt name rid' group' := by
    intro rid' group'
    unfold World.secretAt
    rw [hsecrets]
    simp only [secretLabel_inj]
  have hplain : ∀ f ∈ (w.relations rid).requestedSecrets,
      (w'.relations rid).provider.get? f = none := by
    intro f hf
    rw [hprovider, if_neg, hbag f hf]
    rintro rfl
    have hsec := (h.requested rid _ hf).1
    rw [isSecretField_secretFieldName] at hsec
    cases hsec
  have hsame := sameRequirers_of_other hother hrequirer hrequested
  constructor
  case toAsked => exact h.toAsked.congr hsame
  case enabled =>
    intro hd
    rw [hen] at hd
    cases hd
  case unique =>
    intro label label' s s' hs hs' he
    rw [hsecrets] at hs hs'
    by_cases hl : label = secretLabel name rid group
    · rw [if_pos hl] at hs
      cases hs
      by_cases hl' : label' = secretLabel name rid group
      · rw [hl, hl']
      · rw [if_neg hl'] at hs'
        exact hl.trans (hid label' s' hs' he.symm).symm
    · rw [if_neg hl] at hs
      by_cases hl' : label' = secretLabel name rid group
      · rw [if_pos hl'] at hs'
        cases hs'
        exact (hid label s hs he).trans hl'.symm
      · rw [if_neg hl'] at hs'
        exact h.unique _ _ _ _ hs hs' he
  case fresh =>
    intro label s hs
    rw [hsecrets] at hs
    split_ifs at hs
    · cases hs
      exact hfresh
    · obtain ⟨n, hn, he⟩ := h.fresh label s hs
      exact ⟨n, hn.trans_le hnext, he⟩
  case uri =>
    intro rid' group'
    rw [hat]
    by_cases hr : rid' = rid
    · subst hr
      rw [hprovider]
      by_cases hg : group' = group
      · rw [if_pos (congrArg secretFieldName hg), if_pos ⟨rfl, hg⟩]
        rfl
      · rw [if_neg (secretFieldName_injective.ne hg), if_neg fun hc => hg hc.2, h.uri]
    · rw [hother rid' hr, h.uri, if_neg fun hc => hr hc.1]
  case content =>
    intro rid' group' s f v hs hf
    rw [(hsame rid').2]
    rw [hat] at hs
    split_ifs at hs with hc
    · obtain ⟨rfl, rfl⟩ := hc
      cases hs
      exact hcontent f v hf
    · exact h.content rid' group' s f v hs hf
  case plain =>
    intro rid' group' s hs f hf
    rw [(hsame rid').2] at hf
    by_cases hr : rid' = rid
    · subst hr
      exact hplain f hf
    · rw [hat, if_neg fun hc => hr hc.1] at hs
      rw [hother rid' hr]
      exact h.plain rid' group' s hs f hf
  case asked =>
    intro rid' group' s hs hempty
    rw [(hsame rid').1] at hempty
    rw [hat] at hs
    split_ifs at hs with hc
    · obtain ⟨rfl, -⟩ := hc
      exact hasked (h.unasked _ hempty)
    · exact h.asked rid' group' s hs hempty

/-- What `_add_or_update_relation_secrets` has done for some groups of a relation:
    their secrets have the data, under the fields `fs`. -/
structure Grouped (name : String) (rid : ℕ) (data : Dict String String) (fs : List String)
    (groups : List SecretGroup) (w w' : World) : Prop where
  kept : Kept name w'
  enabled : w'.secretsEnabled = true
  other : ∀ rid', rid' ≠ rid → w'.relations rid' = w.relations rid'
  requirer : (w'.relations rid).requirer = (w.relations rid).requirer
  requested : (w'.relations rid).requestedSecrets = (w.relations rid).requestedSecrets
  plain : ∀ f, isSecretField f = false →
    (w'.relations rid).provider.get? f = (w.relations rid).provider.get? f
  content : ∀ rid' group f, ((w'.secretAt name rid' group).bind fun s => s.content.get? f) =
    if rid' = rid ∧ group ∈ groups ∧ f ∈ fs ∧ groupOf f = group then
      (data.get? f).or ((w.secretAt name rid' group).bind fun s => s.content.get? f)
    else (w.secretAt name rid' group).bind fun s => s.content.get? f

/-- The content of the secret of a group after the data. -/
def newContent (name : String) (w : World) (rid : ℕ) (data : Dict String String)
    (fs : List String) (group : SecretGroup) : Dict String String :=
  ((w.secretAt name rid group).elim Dict.empty Secret.content).setAll
    (contentForSecretGroup data fs group)

theorem get?_newContent (fs : List String) (group : SecretGroup) (f : String) :
    (newContent name w rid data fs group).get? f =
      if f ∈ fs ∧ groupOf f = group then
        (data.get? f).or ((w.secretAt name rid group).bind fun s => s.content.get? f)
      else (w.secretAt name rid group).bind fun s => s.content.get? f := by
  have hold : ((w.secretAt name rid group).elim Dict.empty Secret.content).get? f =
      (w.secretAt name rid group).bind fun s => s.content.get? f := by
    cases w.secretAt name rid group <;> rfl
  unfold newContent
  rw [get?_setAll_contentForSecretGroup, hold]

/-- One group is written. -/
theorem grouped_put {fs : List String} {group : SecretGroup} (id : String) (h : Kept name w)
    (hen : w'.secretsEnabled = true) (hnext : w.next ≤ w'.next)
    (hsecrets : ∀ label, w'.secrets.get? label =
      if label = secretLabel name rid group then some ⟨id, newContent name w rid data fs group⟩
      else w.secrets.get? label)
    (hid : ∀ label s, w.secrets.get? label = some s → s.id = id →
      label = secretLabel name rid group)
    (hfresh : ∃ n < w'.next, id = "secret:" ++ Text.str n)
    (hother : ∀ rid', rid' ≠ rid → w'.relations rid' = w.relations rid')
    (hrequirer : (w'.relations rid).requirer = (w.relations rid).requirer)
    (hrequested : (w'.relations rid).requestedSecrets = (w.relations rid).requestedSecrets)
    (hprovider : ∀ f, (w'.relations rid).provider.get? f =
      if f = secretFieldName group then some id else (w.relations rid).provider.get? f)
    (hfs : ∀ f ∈ fs, f ∈ (w.relations rid).requestedSecrets)
    (hbag : ∀ f ∈ (w.relations rid).requestedSecrets, (w.relations rid).provider.get? f = none)
    (hasked : (w.relations rid).requestedSecrets ≠ []) :
    Grouped name rid data fs [group] w w' where
  kept := by
    refine h.put hen hnext hsecrets hid hfresh hother hrequirer hrequested hprovider
      (fun f v hf => ?_) hbag hasked
    rw [get?_newContent] at hf
    have hold : ((w.secretAt name rid group).bind fun s => s.content.get? f) = some v →
        f ∈ (w.relations rid).requestedSecrets ∧ groupOf f = group := fun hf => by
      obtain ⟨s, hs, hf⟩ := Option.bind_eq_some_iff.mp hf
      exact h.content rid group s f v hs hf
    split_ifs at hf with hc
    · exact ⟨hfs f hc.1, hc.2⟩
    · exact hold hf
  enabled := hen
  other := hother
  requirer := hrequirer
  requested := hrequested
  plain f hf := by
    rw [hprovider, if_neg]
    rintro rfl
    rw [isSecretField_secretFieldName] at hf
    cases hf
  content rid' group' f := by
    have hat : w'.secretAt name rid' group' =
        if rid' = rid ∧ group' = group then some ⟨id, newContent name w rid data fs group⟩
        else w.secretAt name rid' group' := by
      unfold World.secretAt
      rw [hsecrets]
      simp only [secretLabel_inj]
    rw [hat]
    by_cases hc : rid' = rid ∧ group' = group
    · obtain ⟨rfl, rfl⟩ := hc
      rw [if_pos ⟨rfl, rfl⟩, Option.bind_some, get?_newContent]
      simp
    · rw [if_neg hc, if_neg fun hc' => hc ⟨hc'.1, List.mem_singleton.mp hc'.2.1⟩]

theorem grouped_addOrUpdate (data : Dict String String) {fs : List String} (h : Kept name w)
    (hen : w.secretsEnabled = true)
    (hbag : ∀ f ∈ (w.relations rid).requestedSecrets, (w.relations rid).provider.get? f = none)
    (hfs : ∀ f ∈ fs, f ∈ (w.relations rid).requestedSecrets)
    (hasked : (w.relations rid).requestedSecrets ≠ []) (group : SecretGroup) :
    Grouped name rid data fs [group] w (w.addOrUpdateRelationSecrets name rid data group fs).1 ∧
      (w.addOrUpdateRelationSecrets name rid data group fs).2 = true := by
  unfold World.addOrUpdateRelationSecrets
  rw [h.providerSecret]
  have huri := h.uri rid group
  cases hs : w.secretAt name rid group with
  | some s =>
    rw [hs, Option.map_some] at huri
    refine ⟨grouped_put s.id h hen le_rfl (fun label => ?_)
      (fun label s' hs' he => h.unique _ _ _ _ hs' hs he) (h.fresh _ s hs) (fun _ _ => rfl) rfl
      rfl (fun f => ?_) hfs hbag hasked, rfl⟩
    · show (w.secrets.mapValues _).get? label = _
      rw [Dict.get?_mapValues]
      by_cases hl : label = secretLabel name rid group
      · subst hl
        have hs' : w.secrets.get? (secretLabel name rid group) = some s := hs
        rw [hs', if_pos rfl, Option.map_some, if_pos rfl]
        unfold newContent
        rw [hs]
        rfl
      · rw [if_neg hl]
        cases hs' : w.secrets.get? label with
        | none => rfl
        | some s' =>
          rw [Option.map_some, if_neg fun he => hl (h.unique _ _ _ _ hs' hs he)]
    · split_ifs with he
      · rw [he]
        exact huri
      · rfl
  | none =>
    rw [hs, Option.map_none] at huri
    have hnone : getSecretUri (w.relations rid).provider (w.relations rid).requirer
        (w.relations rid).requestedSecrets group = none := by
      unfold getSecretUri
      rw [huri, h.requirer, ite_self]
    unfold World.addRelationSecret
    simp only [hnone, Option.isSome_none, Bool.false_eq_true, if_false]
    refine ⟨grouped_put ("secret:" ++ Text.str w.next) h hen (Nat.le_succ _) (fun label => ?_)
      (fun label s hs' he => ?_) ⟨w.next, Nat.lt_succ_self _, rfl⟩
      (fun rid' hr => Function.update_of_ne hr _ _) ?_ ?_ (fun f => ?_) hfs hbag hasked, trivial⟩
    · show (w.secrets.set _ _).get? label = _
      rw [Dict.get?_set]
      unfold newContent
      rw [hs]
      rfl
    · -- the new id is not in use
      obtain ⟨n, hn, he'⟩ := h.fresh label s hs'
      rw [he'] at he
      exact absurd (Text.str_injective ((String.append_right_inj _).mp he)) hn.ne
    · simp only [World.putRelation, Function.update_self]
    · simp only [World.putRelation, Function.update_self]
    · simp only [World.putRelation, Function.update_self, Dict.get?_set]

theorem Grouped.trans {w₁ : World} {fs : List String} {groups groups' : List SecretGroup}
    (h : Grouped name rid data fs groups w w₁) (h' : Grouped name rid data fs groups' w₁ w') :
    Grouped name rid data fs (groups ++ groups') w w' where
  kept := h'.kept
  enabled := h'.enabled
  other rid' hr := (h'.other rid' hr).trans (h.other rid' hr)
  requirer := h'.requirer.trans h.requirer
  requested := h'.requested.trans h.requested
  plain f hf := (h'.plain f hf).trans (h.plain f hf)
  content rid' group f := by
    rw [h'.content, h.content]
    by_cases hw : rid' = rid ∧ f ∈ fs ∧ groupOf f = group
    · obtain ⟨rfl, hf, hg⟩ := hw
      simp only [hf, hg, true_and, and_true, List.mem_append]
      by_cases hm : group ∈ groups <;> by_cases hm' : group ∈ groups' <;>
        simp only [hm, hm', if_true, if_false, or_true, or_false, ← Option.or_assoc,
          Option.or_self]
    · rw [if_neg fun hc => hw ⟨hc.1, hc.2.2⟩, if_neg fun hc => hw ⟨hc.1, hc.2.2⟩,
        if_neg fun hc => hw ⟨hc.1, hc.2.2⟩]

/-- All groups are written, and nothing is left to the databag. -/
theorem grouped_foldl (data : Dict String String) {fs : List String} (h : Kept name w)
    (hen : w.secretsEnabled = true)
    (hbag : ∀ f ∈ (w.relations rid).requestedSecrets, (w.relations rid).provider.get? f = none)
    (hfs : ∀ f ∈ fs, f ∈ (w.relations rid).requestedSecrets)
    (hasked : (w.relations rid).requestedSecrets ≠ []) (l : List (SecretGroup × List String))
    (normalFields : List String) :
    let out := l.foldl (fun acc p =>
      let result := World.addOrUpdateRelationSecrets name rid data p.1 fs acc.1
      (result.1, if result.2 then acc.2 else acc.2 ++ p.2)) (w, normalFields)
    Grouped name rid data fs (l.map Prod.fst) w out.1 ∧ out.2 = normalFields := by
  induction l generalizing w with
  | nil => exact ⟨⟨h, hen, fun _ _ => rfl, rfl, rfl, fun _ _ => rfl, fun _ _ _ => by simp⟩, rfl⟩
  | cons p l ih =>
    obtain ⟨hone, htrue⟩ := grouped_addOrUpdate data h hen hbag hfs hasked p.1
    have hbag₁ : ∀ f ∈ ((w.addOrUpdateRelationSecrets name rid data p.1 fs).1.relations
        rid).requestedSecrets, ((w.addOrUpdateRelationSecrets name rid data p.1 fs).1.relations
        rid).provider.get? f = none := by
      intro f hf
      rw [hone.requested] at hf
      rw [hone.plain f (h.requested rid f hf).1]
      exact hbag f hf
    obtain ⟨hrest, hnormal⟩ := ih hone.kept hone.enabled hbag₁
      (fun f hf => hone.requested ▸ hfs f hf) (hone.requested ▸ hasked)
    simp only [List.foldl_cons, htrue, if_true, List.map_cons]
    exact ⟨hone.trans hrest, hnormal⟩

/-- Fields are written to the databag of a relation, no secret field and no
    requested field of a relation with secrets. -/
theorem Kept.putAll (h : Kept name w) (hdata : ∀ k ∈ data.keys, isSecretField k = false)
    (hsec : ∀ f ∈ (w.relations rid).requestedSecrets, data.get? f ≠ none →
      ∀ group, w.secretAt name rid group = none) :
    Kept name (w.putRelation rid { w.relations rid with
      provider := putAll (w.relations rid).provider data.items }) := by
  set w' := w.putRelation rid _ with hw'
  have hself : w'.relations rid = { w.relations rid with
      provider := SecretData.putAll (w.relations rid).provider data.items } :=
    Function.update_self _ _ _
  have hother : ∀ rid', rid' ≠ rid → w'.relations rid' = w.relations rid' :=
    fun rid' hr => Function.update_of_ne hr _ _
  have hsame : SameRequirers w w' :=
    sameRequirers_of_other hother (by rw [hself]) (by rw [hself])
  have hat : ∀ rid' group, w'.secretAt name rid' group = w.secretAt name rid' group :=
    fun _ _ => rfl
  constructor
  case toAsked => exact h.toAsked.congr hsame
  case enabled => exact h.enabled
  case unique => exact h.unique
  case fresh => exact h.fresh
  case uri =>
    intro rid' group
    rw [hat, ← h.uri]
    by_cases hr : rid' = rid
    · subst hr
      have hnone : data.get? (secretFieldName group) = none := by
        rw [Dict.get?_eq_none_iff]
        intro hk
        have hfield := hdata _ hk
        rw [isSecretField_secretFieldName] at hfield
        cases hfield
      rw [hself, get?_putAll, hnone, Option.elim_none]
    · rw [hother rid' hr]
  case content =>
    intro rid' group s f v hs hf
    rw [(hsame rid').2]
    exact h.content rid' group s f v hs hf
  case plain =>
    intro rid' group s hs f hf
    rw [(hsame rid').2] at hf
    rw [hat] at hs
    by_cases hr : rid' = rid
    · subst hr
      have hnone : data.get? f = none := by
        by_contra hd
        rw [hsec f hf hd group] at hs
        cases hs
      rw [hself, get?_putAll, hnone, Option.elim_none]
      exact h.plain rid' group s hs f hf
    · rw [hother rid' hr]
      exact h.plain rid' group s hs f hf
  case asked =>
    intro rid' group s hs
    rw [(hsame rid').1]
    exact h.asked rid' group s hs

end PgBouncerK8s.SecretData
