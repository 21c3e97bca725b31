import Mathlib.Data.List.Induction
import PgBouncerK8s.Lib.Dict
import PgBouncerK8s.Lib.Machine
import PgBouncerK8s.Lib.Text
import PgBouncerK8s.Model.Databag

/-!
# Relation data with secrets

`Data`, `ProviderData` and `RequirerData` (`data_interfaces.py`, lines 1122–1798,
1860–2052 and 2055–2212): a provider writes fields for a requirer, and those that
the requirer has asked for as secrets go to Juju secrets, one for each group of
fields, whose URIs are in the databag of the provider. A relation that has begun
with such a field in the databag stays there.

Juju keeps the secrets of the provider under labels, and shows them by their URI
to both sides. The caches of secrets last for one dispatch and read back what was
written through them; they are left out. Sets of fields are lists, in the order
of the data. `legacy` functions do nothing on these classes.

* `relationFromSecretLabel_secretLabel`: a label determines its relation.
-/

namespace PgBouncerK8s.SecretData

/-! ## Fields and groups -/

/-- `SECRET_GROUPS`. -/
inductive SecretGroup
  | user
  | tls
  | mtls
  | entity
  | extra
  deriving DecidableEq

def SecretGroup.name : SecretGroup → String
  | user => "user"
  | tls => "tls"
  | mtls => "mtls"
  | entity => "entity"
  | extra => "extra"

/-- `SECRET_LABEL_MAP`. -/
def secretLabelMap : List (String × SecretGroup) :=
  [("username", .user), ("password", .user), ("uris", .user), ("read-only-uris", .user),
    ("tls", .tls), ("tls-ca", .tls), ("mtls-cert", .mtls), ("entity-name", .entity),
    ("entity-password", .entity)]

/-- The group that holds a field. -/
def groupOf (field : String) : SecretGroup := (secretLabelMap.lookup field).getD .extra

/-- `_generate_secret_field_name`. -/
def secretFieldName (group : SecretGroup) : String := "secret-" ++ group.name

/-- `_is_secret_field`. -/
def isSecretField (field : String) : Bool := Text.startswith field "secret-"

/-- `_generate_secret_label`. -/
def secretLabel (relationName : String) (relationId : ℕ) (group : SecretGroup) : String :=
  relationName ++ "." ++ Text.str relationId ++ "." ++ group.name ++ "." ++ "secret"

/-- `_relation_from_secret_label` (lines 1455–1476), up to the relation of that
    name and id. -/
def relationFromSecretLabel (label : String) : Option (String × ℕ) :=
  let contents := Text.split '.' label
  if contents.length < 3 then none
  else
    let contents := contents.dropLast.dropLast
    (contents.getLast?.bind Text.int).map fun relationId =>
      (Text.join '.' contents.dropLast, relationId)

/-- `_group_secret_fields` (lines 1478–1490). -/
def groupSecretFields (secretFields : List String) : Dict SecretGroup (List String) :=
  secretFields.foldl (fun grouped key =>
    grouped.set (groupOf key) ((grouped.get? (groupOf key)).getD [] ++ [key])) Dict.empty

/-- `_content_for_secret_group` (lines 1507–1522). -/
def contentForSecretGroup (content : Dict String String) (secretFields : List String)
    (group : SecretGroup) : List (String × String) :=
  if group = .extra then
    content.items.filter fun p => p.1 ∈ secretFields ∧ p.1 ∉ secretLabelMap.map Prod.fst
  else content.items.filter fun p => p.1 ∈ secretFields ∧ secretLabelMap.lookup p.1 = some group

/-! ## The state -/

/-- A secret of the provider. -/
structure Secret where
  id : String
  content : Dict String String
  deriving DecidableEq

/-- The two application databags of a relation. `requestedSecrets` is what
    `get_encoded_list` makes of `requested-secrets` in that of the requirer, the
    empty list before it is there. -/
structure Relation where
  provider : Dict String String
  requirer : Dict String String
  requestedSecrets : List String

/-- The relations under their ids, and the secrets of the provider under their
    labels. -/
structure World where
  relations : ℕ → Relation
  secrets : Dict String Secret
  next : ℕ
  secretsEnabled : Bool

namespace World

def putRelation (w : World) (rid : ℕ) (r : Relation) : World :=
  { w with relations := Function.update w.relations rid r }

/-- `get_secret(id=uri)`. -/
def secretOfUri (w : World) (uri : String) : Option Secret :=
  w.secrets.values.find? fun s => s.id = uri

end World

/-- `relation.data[app].update(data)`: Juju drops the key of an empty value. -/
def putAll (bag : Dict String String) (data : List (String × String)) : Dict String String :=
  data.foldl (fun bag p => if p.2 = "" then bag.erase p.1 else bag.set p.1 p.2) bag

/-- `get_secret_uri` (lines 1679–1689): the databag of this application for its own
    groups, else that of the other. -/
def getSecretUri (ours theirs : Dict String String) (localSecretFields : List String)
    (group : SecretGroup) : Option String :=
  if group ∈ localSecretFields.filterMap (fun field => secretLabelMap.lookup field) then
    ours.get? (secretFieldName group)
  else theirs.get? (secretFieldName group)

/-! ## Secret fields -/

/-- `fallback_to_databag`. -/
def fallbackToDatabag (leader : Bool) (reqSecretFields : List String)
    (ours : Dict String String) : Bool :=
  leader && reqSecretFields.any ours.contains

/-- `_process_secret_fields` (lines 1536–1573): runs the operation on each group, and
    returns the fields left to the databag. The operation tells whether it was
    successful; if not, its fields get a second chance. -/
def processSecretFields {σ : Type} (secretsEnabled fallback : Bool)
    (reqSecretFields impactedRelFields : List String)
    (operation : SecretGroup → List String → σ → σ × Bool) (s : σ) : σ × List String :=
  if reqSecretFields ≠ [] ∧ secretsEnabled = true ∧ fallback = false then
    let secretFields := impactedRelFields.filter (· ∈ reqSecretFields)
    (groupSecretFields secretFields).items.foldl (fun acc p =>
        let result := operation p.1 secretFields acc.1
        (result.1, if result.2 then acc.2 else acc.2 ++ p.2))
      (s, impactedRelFields.filter (· ∉ reqSecretFields))
  else (s, impactedRelFields)

/-- `_get_group_secret_contents` (lines 1492–1505) of the secret that was found. -/
def groupSecretContents (secret : Option Secret) (secretFields : List String) :
    List (String × String) :=
  (secret.map fun s => s.content.items.filter fun p =>
    secretFields = [] ∨ p.1 ∈ secretFields).getD []

/-- `_fetch_relation_data_without_secrets` (lines 1575–1593), for some fields. -/
def fetchRelationDataWithoutSecrets (bag : Dict String String) (fields : List String) :
    List (String × String) :=
  fields.filterMap fun k => (bag.get? k).map (k, ·)

/-- `_fetch_relation_data_with_secrets` (lines 1595–1631). -/
def fetchRelationDataWithSecrets (secretsEnabled fallback : Bool)
    (secretOf : SecretGroup → Option Secret) (component : Dict String String)
    (reqSecretFields fields : List String) : Dict String String :=
  let fields := if fields = [] then
      component.keys.filter (fun field => !isSecretField field) ++ reqSecretFields
    else fields
  let (result, normalFields) := processSecretFields secretsEnabled fallback reqSecretFields fields
    (fun group secretFields (result : Dict String String) =>
      let contents := groupSecretContents (secretOf group) secretFields
      (result.setAll contents, !contents.isEmpty)) Dict.empty
  result.setAll (fetchRelationDataWithoutSecrets component normalFields)

/-! ## The provider -/

namespace World

/-- `_get_relation_secret` (lines 1200–1216) of the provider. -/
def providerSecret (name : String) (w : World) (rid : ℕ) (group : SecretGroup) : Option Secret :=
  let r := w.relations rid
  match w.secrets.get? (secretLabel name rid group) with
  | some secret => some secret
  | none =>
    (getSecretUri r.provider r.requirer r.requestedSecrets group).bind w.secretOfUri

/-- `_add_relation_secret` (lines 1284–1311). -/
def addRelationSecret (name : String) (rid : ℕ) (data : Dict String String)
    (group : SecretGroup) (secretFields : List String) (w : World) : World × Bool :=
  let r := w.relations rid
  if (getSecretUri r.provider r.requirer r.requestedSecrets group).isSome then (w, false)
  else
    let id := "secret:" ++ Text.str w.next
    let content := Dict.empty.setAll (contentForSecretGroup data secretFields group)
    ({ w with
        secrets := w.secrets.set (secretLabel name rid group) ⟨id, content⟩
        next := w.next + 1 }.putRelation rid
      { r with provider := r.provider.set (secretFieldName group) id }, true)

/-- `_update_relation_secret` (lines 1314–1336) of the secret that was found. -/
def updateRelationSecret (w : World) (secret : Secret) (data : Dict String String)
    (group : SecretGroup) (secretFields : List String) : World × Bool :=
  ({ w with
      secrets := w.secrets.mapValues fun s => if s.id = secret.id then
        { s with content := s.content.setAll (contentForSecretGroup data secretFields group) }
      else s }, true)

/-- `_add_or_update_relation_secrets` (lines 1269–1281). -/
def addOrUpdateRelationSecrets (name : String) (rid : ℕ) (data : Dict String String)
    (group : SecretGroup) (secretFields : List String) (w : World) : World × Bool :=
  match w.providerSecret name rid group with
  | some secret => w.updateRelationSecret secret data group secretFields
  | none => w.addRelationSecret name rid data group secretFields

/-- `_update_relation_data` (lines 1254–1267) on the leader. -/
def updateRelationData (name : String) (w : World) (rid : ℕ) (data : Dict String String) : World :=
  let r := w.relations rid
  let fallback := fallbackToDatabag true r.requestedSecrets r.provider
  let (w, normalFields) := processSecretFields w.secretsEnabled fallback r.requestedSecrets
    data.keys (addOrUpdateRelationSecrets name rid data) w
  let r := w.relations rid
  w.putRelation rid
    { r with provider := putAll r.provider (data.items.filter fun p => p.1 ∈ normalFields) }

/-- `_update_relation_data` of the provider (lines 1898–1907); `none` is the
    `PrematureDataAccessError`. No list of provided secrets has `database`. -/
def update (name : String) (w : World) (rid : ℕ) (data : Dict String String) : Option World :=
  if (w.relations rid).requirer.get? "database" = none ∧
      data.keys.any (· ∉ ["endpoints", "read-only-endpoints", "replset"]) then none
  else some (w.updateRelationData name rid data)

/-- `_fetch_my_specific_relation_data` (lines 1241–1252) on the leader of the
    provider. -/
def fetchMyRelationData (name : String) (w : World) (rid : ℕ) (fields : List String) :
    Dict String String :=
  let r := w.relations rid
  fetchRelationDataWithSecrets w.secretsEnabled
    (fallbackToDatabag true r.requestedSecrets r.provider) (w.providerSecret name rid) r.provider
    r.requestedSecrets fields

end World

/-! ## The requirer -/

/-- `SECRET_FIELDS` of `RequirerData`. -/
def secretFields : List String :=
  ["username", "password", "tls", "tls-ca", "uris", "read-only-uris", "entity-name",
    "entity-password"]

/-- `_local_secret_fields` of `RequirerData`. -/
def requirerSecretFields : List String :=
  (secretLabelMap.map Prod.fst).filter (· ∉ secretFields)

namespace World

/-- `_get_relation_secret` of the requirer: the label it puts on a secret comes
    from the URI. -/
def requirerSecret (w : World) (rid : ℕ) (group : SecretGroup) : Option Secret :=
  let r := w.relations rid
  (getSecretUri r.requirer r.provider requirerSecretFields group).bind w.secretOfUri

/-- `_fetch_specific_relation_data` (lines 1230–1239) on a unit of the requirer,
    with the list of secret fields it has asked for. -/
def fetchRelationData (w : World) (rid : ℕ) (leader secretsEnabled : Bool)
    (remoteSecretFields fields : List String) : Dict String String :=
  let r := w.relations rid
  fetchRelationDataWithSecrets secretsEnabled
    (fallbackToDatabag leader remoteSecretFields r.requirer) (w.requirerSecret rid) r.provider
    remoteSecretFields fields

end World

/-! ## The machine -/

/-- `request` is `relation-created` on the leader of the requirer, `update` a write of
    the provider; `enableSecrets` brings a Juju version with secrets. -/
inductive Action
  | request (rid : ℕ) (requestedSecrets : List String) (data : Dict String String)
  | update (rid : ℕ) (data : Dict String String)
  | enableSecrets

def step (name : String) (w : World) : Action → Option World
  | .request rid requestedSecrets data =>
    if (w.relations rid).requirer.items = [] then
      some (w.putRelation rid
        { w.relations rid with requirer := data, requestedSecrets := requestedSecrets })
    else none
  | .update rid data => w.update name rid data
  | .enableSecrets => some { w with secretsEnabled := true }

/-- No relation has been created. -/
structure Initial (w : World) : Prop where
  relations : w.relations = fun _ => ⟨Dict.empty, Dict.empty, []⟩
  secrets : w.secrets = Dict.empty

def machine (name : String) : Machine World Action where
  init := Initial
  step := step name

/-! ## Labels -/

theorem split_secretLabel (name : String) (rid : ℕ) (group : SecretGroup) :
    Text.split '.' (secretLabel name rid group) =
      Text.split '.' name ++ [Text.str rid] ++ [group.name] ++ ["secret"] := by
  have hrid : '.' ∉ (Text.str rid).toList := fun h => by
    have hd := Text.isDigit_of_mem_str h
    revert hd
    decide
  have hgroup : '.' ∉ group.name.toList := by cases group <;> decide
  unfold secretLabel
  rw [Text.split_append _ (by decide) (by decide), Text.split_append _ (by decide) hgroup,
    Text.split_append _ (by decide) hrid]

theorem relationFromSecretLabel_secretLabel (name : String) (rid : ℕ) (group : SecretGroup) :
    relationFromSecretLabel (secretLabel name rid group) = some (name, rid) := by
  have hlen :
      ¬(Text.split '.' name ++ [Text.str rid] ++ [group.name] ++ ["secret"]).length < 3 := by
    simp
  unfold relationFromSecretLabel
  simp only [split_secretLabel]
  rw [if_neg hlen, List.dropLast_concat, List.dropLast_concat, List.getLast?_concat,
    List.dropLast_concat, Option.bind_some, Text.int_str, Text.join_split]
  rfl

theorem name_injective : Function.Injective SecretGroup.name := by
  intro group group' h
  revert h
  cases group <;> cases group' <;> decide

/-- The relations and groups of a relation name have different labels. -/
theorem secretLabel_inj {name : String} {rid rid' : ℕ} {group group' : SecretGroup} :
    secretLabel name rid group = secretLabel name rid' group' ↔ rid = rid' ∧ group = group' := by
  constructor
  · intro h
    have hsplit := congrArg (fun label => (Text.split '.' label).dropLast) h
    simp only [split_secretLabel, List.dropLast_concat] at hsplit
    obtain ⟨hinit, hgroup⟩ := List.append_inj' hsplit rfl
    obtain ⟨-, hrid⟩ := List.append_inj' hinit rfl
    exact ⟨Text.str_injective (List.singleton_inj.mp hrid),
      name_injective (List.singleton_inj.mp hgroup)⟩
  · rintro ⟨rfl, rfl⟩
    rfl

/-! ## Fields -/

theorem groupOf_eq_iff (field : String) (group : SecretGroup) : groupOf field = group ↔
    if group = .extra then field ∉ secretLabelMap.map Prod.fst
    else secretLabelMap.lookup field = some group := by
  unfold groupOf
  cases h : secretLabelMap.lookup field with
  | none =>
    have hmem : field ∉ secretLabelMap.map Prod.fst := by
      intro hm
      obtain ⟨p, hp, rfl⟩ := List.mem_map.mp hm
      have hne := List.lookup_eq_none_iff.mp h p hp
      simp at hne
    cases group <;> simp_all
  | some g =>
    have hmem : (field, g) ∈ secretLabelMap := by
      obtain ⟨l, l', he, -⟩ := List.lookup_eq_some_iff.mp h
      rw [he]
      simp
    have hne : g ≠ .extra := by
      rintro rfl
      simp [secretLabelMap] at hmem
    have hkey : field ∈ secretLabelMap.map Prod.fst := List.mem_map.mpr ⟨_, hmem, rfl⟩
    cases group <;> simp_all

/-- A group takes its own secret fields from the data. -/
theorem contentForSecretGroup_eq (data : Dict String String) (secretFields : List String)
    (group : SecretGroup) : contentForSecretGroup data secretFields group =
      (data.filter fun k => k ∈ secretFields ∧ groupOf k = group).items := by
  unfold contentForSecretGroup Dict.filter
  split_ifs with hg
  · simp only [groupOf_eq_iff, hg, if_true]
  · simp only [groupOf_eq_iff, hg, if_false]

theorem get?_setAll_contentForSecretGroup (d data : Dict String String)
    (secretFields : List String) (group : SecretGroup) (k : String) :
    (d.setAll (contentForSecretGroup data secretFields group)).get? k =
      if k ∈ secretFields ∧ groupOf k = group then (data.get? k).or (d.get? k)
      else d.get? k := by
  rw [contentForSecretGroup_eq, Dict.get?_setAll_dict, Dict.get?_filter]
  by_cases h : k ∈ secretFields ∧ groupOf k = group
  · rw [if_pos (decide_eq_true h), if_pos h]
  · rw [if_neg (by simpa using h), if_neg h, Option.none_or]

theorem get?_putAll (bag data : Dict String String) (k : String) :
    (putAll bag data.items).get? k =
      (data.get? k).elim (bag.get? k) fun v => if v = "" then none else some v := by
  refine Dict.read_foldl (fun bag p k => ?_) bag data k
  by_cases hp : p.2 = ""
  · rw [if_pos hp, if_pos hp, Dict.get?_erase]
  · rw [if_neg hp, if_neg hp, Dict.get?_set]

/-- The fields under their groups. -/
theorem get?_groupSecretFields (fields : List String) (group : SecretGroup) :
    (groupSecretFields fields).get? group =
      if fields.filter (groupOf · = group) = [] then none
      else some (fields.filter (groupOf · = group)) := by
  induction fields using List.reverseRecOn with
  | nil => rfl
  | append_singleton fields key ih =>
    unfold groupSecretFields at ih ⊢
    rw [List.foldl_append, List.foldl_cons, List.foldl_nil, Dict.get?_set, List.filter_append]
    by_cases hk : group = groupOf key
    · subst hk
      have hkey : [key].filter (groupOf · = groupOf key) = [key] := by simp
      rw [if_pos rfl, ih, hkey, if_neg (List.append_ne_nil_of_right_ne_nil _ (by simp))]
      split_ifs with hnil
      · rw [hnil]
        rfl
      · rfl
    · have hk' : ¬groupOf key = group := fun he => hk he.symm
      rw [if_neg hk, ih]
      simp [hk']

theorem mem_groupSecretFields {fields : List String} {group : SecretGroup} {l : List String} :
    (group, l) ∈ (groupSecretFields fields).items ↔
      l = fields.filter (groupOf · = group) ∧ ∃ f ∈ fields, groupOf f = group := by
  rw [← Dict.get?_eq_some_iff, get?_groupSecretFields]
  have hne : fields.filter (groupOf · = group) = [] ↔ ¬∃ f ∈ fields, groupOf f = group := by
    simp [List.filter_eq_nil_iff]
  split_ifs with h
  · simp [hne.mp h]
  · have hex := not_not.mp (hne.not.mp h)
    rw [Option.some_inj, eq_comm]
    exact (and_iff_left hex).symm

end PgBouncerK8s.SecretData
