import Mathlib.Data.List.Induction
import PgBouncerK8s.Lib.Text
import PgBouncerK8s.Model.Databag

/-!
# Secrets of the peer relation

Models of `get_secret`, `set_secret` and `remove_secret` (`charm.py`,
lines 759–804) on a Juju version with secrets. A value can live in three
places: in the databag under its raw key, in the Juju secret under the
translated key, and in the databag under the translated key. `set_secret` drops
both copies in the databag; `remove_secret` deletes the translated field only.

Of `DataPeerData`, which the charm delegates to, the model takes that it stores,
reads and deletes a field of the secret, and falls back to the field of the
databag of the same name where the secret has none. A field that is stored is
dropped from the databag; one that is deleted is kept in the secret with the
value `None`.

* `translate_translate`: a translated key is its own translation.
* `getSecret_run_iff`: when the last write is what `get_secret` returns, for any
  layout and any sequence of calls.
* `stale_after_remove`: a plain-text copy survives `remove_secret`.
-/

namespace PgBouncerK8s.PeerSecrets

/-! ## Keys -/

/-- `SECRET_KEY_OVERRIDES` (`constants.py`, lines 48–52). -/
def secretKeyOverrides (key : String) : String :=
  if key = "ca" then "cauth"
  else if key = "monitoring_password" then "monitoring-password"
  else if key = "auth_file" then "auth-file"
  else key

/-- `_translate_field_to_secret_key` (`charm.py`, lines 759–765). -/
def translateFieldToSecretKey (key : String) : String :=
  Text.strip '-' (Text.replace '_' '-' (secretKeyOverrides key))

/-- The character is neither of those that `_translate_field_to_secret_key`
    strips. -/
def Inner (c : Char) : Prop := c ≠ '_' ∧ c ≠ '-'

instance (c : Char) : Decidable (Inner c) := inferInstanceAs (Decidable (_ ∧ _))

/-- A key that neither starts nor ends with `_` or `-`. -/
structure Key where
  name : String
  head : ∀ c, name.toList.head? = some c → Inner c
  last : ∀ c, name.toList.getLast? = some c → Inner c

theorem inner_of_all {o : Option Char} (h : (o.all fun c => decide (Inner c)) = true) :
    ∀ c, o = some c → Inner c := by
  rintro c rfl
  simpa using h

/-- The translated key. -/
def Key.secretKey (k : Key) : String := translateFieldToSecretKey k.name

theorem strip_replace (k : Key) :
    Text.strip '-' (Text.replace '_' '-' k.name) = Text.replace '_' '-' k.name := by
  have hmap : ∀ o : Option Char, (∀ c, o = some c → Inner c) →
      (o.map fun c => if c = '_' then '-' else c) ≠ some '-' := by
    intro o ho h
    obtain ⟨c, hc, he⟩ := Option.map_eq_some_iff.mp h
    rw [if_neg (ho c hc).1] at he
    exact (ho c hc).2 he
  apply Text.strip_eq_self
  · rw [Text.toList_replace, List.head?_map]
    exact hmap _ k.head
  · rw [Text.toList_replace, List.getLast?_map]
    exact hmap _ k.last

/-- The overrides apply to three keys only. -/
theorem secretKeyOverrides_eq {key : String} (hca : key ≠ "ca")
    (hmon : key ≠ "monitoring_password") (hauth : key ≠ "auth_file") :
    secretKeyOverrides key = key := by
  simp [secretKeyOverrides, hca, hmon, hauth]

/-- A translated key is its own translation. -/
theorem translate_translate (k : Key) : translateFieldToSecretKey k.secretKey = k.secretKey := by
  unfold Key.secretKey
  by_cases hca : k.name = "ca"
  · rw [hca]
    decide
  by_cases hmon : k.name = "monitoring_password"
  · rw [hmon]
    decide
  by_cases hauth : k.name = "auth_file"
  · rw [hauth]
    decide
  have hnot : '_' ∉ (Text.replace '_' '-' k.name).toList := Text.not_mem_replace (by decide) _
  have htr : translateFieldToSecretKey k.name = Text.replace '_' '-' k.name := by
    rw [translateFieldToSecretKey, secretKeyOverrides_eq hca hmon hauth, strip_replace]
  have hover : secretKeyOverrides (Text.replace '_' '-' k.name) = Text.replace '_' '-' k.name := by
    apply secretKeyOverrides_eq
    · intro he
      exact hca ((Text.eq_of_replace (by rw [he]; decide)).symm.trans he)
    · intro he
      exact absurd (he ▸ hnot) (by decide)
    · intro he
      exact absurd (he ▸ hnot) (by decide)
  rw [htr, translateFieldToSecretKey, hover, Text.replace_of_not_mem hnot, strip_replace]

/-! ## Model -/

/-- `SECRET_DELETED_LABEL` (`constants.py`). -/
def deletedLabel : String := "None"

/-- The data of one scope: the databag and the content of the Juju secret, whose
    fields have translated keys. -/
structure PeerData where
  databag : Databag
  secret : Databag
  secret_keys : ∀ k, secret.contains k = true → translateFieldToSecretKey k = k

theorem deletedLabel_ne : deletedLabel ≠ "" := by decide

namespace PeerData

/-- The field of the secret, unless it is marked as deleted. -/
def secretField (d : PeerData) (k : String) : Option String :=
  (d.secret.get k).filter fun v => v != deletedLabel

/-- `DataPeerData.fetch_my_relation_field` and `DataPeerData.get_secret`. -/
def fetchMyRelationField (d : PeerData) (k : String) : Option String :=
  (d.secretField k).or (d.databag.get k)

/-- The secret with a new value in a field. -/
def putSecret (d : PeerData) (key : Key) (value : String) : PeerData where
  databag := d.databag
  secret := d.secret.set key.secretKey value
  secret_keys k hk := by
    by_cases h : k = key.secretKey
    · rw [h, translate_translate]
    · rw [Databag.contains, Databag.get_set_of_ne _ h] at hk
      exact d.secret_keys k hk

/-- `DataPeerData.set_secret`: what is stored in the secret leaves the databag
    (`_legacy_migration_remove_secret_from_databag`). -/
def storeSecret (d : PeerData) (key : Key) (value : String) : PeerData :=
  ({ d with databag := d.databag.pop key.secretKey } : PeerData).putSecret key value

/-- `DataPeerData.delete_relation_data` of one field. -/
def deleteRelationData (d : PeerData) (key : Key) : PeerData :=
  if (d.secretField key.secretKey).isSome then d.putSecret key deletedLabel
  else { d with databag := d.databag.pop key.secretKey }

/-- `get_secret` (`charm.py`, lines 767–781). -/
def getSecret (d : PeerData) (key : Key) : Option String :=
  (d.fetchMyRelationField key.name).or (d.fetchMyRelationField key.secretKey)

/-- `remove_secret` (`charm.py`, lines 797–804). -/
def removeSecret (d : PeerData) (key : Key) : PeerData := d.deleteRelationData key

/-- `set_secret` (`charm.py`, lines 783–795). -/
def setSecret (d : PeerData) (key : Key) (value : Option String) : PeerData :=
  match value with
  | none => d.removeSecret key
  | some v =>
    if v = "" then d.removeSecret key
    else ({ d with databag := d.databag.pop key.name } : PeerData).storeSecret key v

end PeerData

/-- `Scopes` (`constants.py`). -/
inductive Scope
  | app
  | unit
  deriving DecidableEq

/-- One call. -/
inductive Op
  | set (scope : Scope) (key : Key) (value : Option String)
  | remove (scope : Scope) (key : Key)
  | get (scope : Scope) (key : Key)

/-- The data of both scopes after a call. -/
def Op.apply (w : Scope → PeerData) : Op → Scope → PeerData
  | .set scope key value => Function.update w scope ((w scope).setSecret key value)
  | .remove scope key => Function.update w scope ((w scope).removeSecret key)
  | .get _ _ => w

/-- A sequence of calls. -/
def run (w : Scope → PeerData) (ops : List Op) : Scope → PeerData := ops.foldl Op.apply w

/-! ## The map -/

/-- The call writes the key, up to translation. -/
def Op.Writes (scope : Scope) (key : Key) : Op → Prop
  | .set s k _ => s = scope ∧ k.secretKey = key.secretKey
  | .remove s k => s = scope ∧ k.secretKey = key.secretKey
  | .get _ _ => False

instance (scope : Scope) (key : Key) : (op : Op) → Decidable (op.Writes scope key)
  | .set _ _ _ => inferInstanceAs (Decidable (_ ∧ _))
  | .remove _ _ => inferInstanceAs (Decidable (_ ∧ _))
  | .get _ _ => inferInstanceAs (Decidable False)

/-- What a write leaves under its key: an empty value removes it. -/
def Op.value : Op → Option String
  | .set _ _ value => value.filter fun v => v != ""
  | _ => none

/-- What a map would hold under the key after the calls. -/
def lastWritten (scope : Scope) (key : Key) (initial : Option String) (ops : List Op) :
    Option String :=
  ops.foldl (fun v op => if op.Writes scope key then op.value else v) initial

/-- The databag has a copy that `get_secret` reads for `key` after the write and
    that is not what was written: a raw copy that the write does not drop, or,
    where the field is deleted in the secret, a copy under the translated key. -/
def Leftover (d : PeerData) (key : Key) : Op → Prop
  | .set _ k value =>
    match value.filter fun v => v != "" with
    | some v => key.name ≠ k.name ∧ key.name ≠ key.secretKey ∧
        ∃ old, d.databag.get key.name = some old ∧ old ≠ v
    | none => (key.name ≠ key.secretKey ∧ d.databag.contains key.name = true) ∨
        ((d.secretField key.secretKey).isSome = true ∧ d.databag.contains key.secretKey = true)
  | _ => (key.name ≠ key.secretKey ∧ d.databag.contains key.name = true) ∨
      ((d.secretField key.secretKey).isSome = true ∧ d.databag.contains key.secretKey = true)

/-! ## One call -/

variable {d : PeerData} {key k : Key} {v : String}

/-- A raw key that is translated is no field of the secret. -/
theorem secretField_name (d : PeerData) (h : key.name ≠ key.secretKey) :
    d.secretField key.name = none := by
  cases hg : d.secret.get key.name with
  | none => rw [PeerData.secretField, hg, Option.filter_none]
  | some v => exact absurd (d.secret_keys _ (by rw [Databag.contains, hg]; rfl)).symm h

/-- `get_secret` reads the raw copy first, then the secret, then the databag. -/
theorem getSecret_eq (d : PeerData) (key : Key) :
    d.getSecret key = (if key.name = key.secretKey then none else d.databag.get key.name).or
      ((d.secretField key.secretKey).or (d.databag.get key.secretKey)) := by
  unfold PeerData.getSecret PeerData.fetchMyRelationField
  split_ifs with h
  · rw [h, Option.or_self, Option.none_or]
  · rw [secretField_name d h, Option.none_or]

theorem secretField_putSecret (d : PeerData) (k : Key) (x : String) (hv : v ≠ "") :
    (d.putSecret k v).secretField x =
      if x = k.secretKey then (some v).filter fun v => v != deletedLabel
      else d.secretField x := by
  unfold PeerData.secretField PeerData.putSecret
  simp only [Databag.get_set, if_neg hv]
  split_ifs <;> rfl

theorem secretField_deleted (d : PeerData) (k : Key) :
    (d.putSecret k deletedLabel).secretField k.secretKey = none := by
  rw [secretField_putSecret d k _ deletedLabel_ne, if_pos rfl]
  rfl

@[simp] theorem secretField_databag (d : PeerData) (b : Databag) (x : String) :
    PeerData.secretField { d with databag := b } x = d.secretField x := rfl

theorem get_pop (b : Databag) (x y : String) :
    (b.pop x).get y = if y = x then none else b.get y := rfl

/-- What `set_secret` stores is the field of the secret. -/
theorem secretField_storeSecret (d : PeerData) (k : Key) (x : String) (hv : v ≠ "") :
    (d.storeSecret k v).secretField x =
      if x = k.secretKey then (some v).filter fun v => v != deletedLabel
      else d.secretField x := by
  unfold PeerData.storeSecret
  rw [secretField_putSecret _ k x hv, secretField_databag]

/-- The databag after `set_secret`. -/
theorem databag_storeSecret (d : PeerData) (k : Key) (v x : String) :
    (d.storeSecret k v).databag.get x = if x = k.secretKey then none else d.databag.get x := by
  unfold PeerData.storeSecret PeerData.putSecret
  exact get_pop _ _ _

/-- Keys with different translations share no name. -/
theorem names_ne (h : k.secretKey ≠ key.secretKey) :
    key.name ≠ k.name ∧ key.secretKey ≠ k.name ∧ key.name ≠ k.secretKey := by
  refine ⟨fun he => h ?_, fun he => h ?_, fun he => h ?_⟩
  · unfold Key.secretKey
    rw [he]
  · rw [← translate_translate key, he]
    rfl
  · rw [← translate_translate k, ← he]
    rfl

theorem getSecret_removeSecret_of_ne (h : k.secretKey ≠ key.secretKey) :
    (d.removeSecret k).getSecret key = d.getSecret key := by
  obtain ⟨-, -, hname⟩ := names_ne h
  unfold PeerData.removeSecret PeerData.deleteRelationData
  rw [getSecret_eq, getSecret_eq]
  by_cases hs : (d.secretField k.secretKey).isSome = true
  · rw [if_pos hs, secretField_putSecret d k _ deletedLabel_ne, if_neg h.symm]
    rfl
  · rw [if_neg hs]
    simp only [secretField_databag, get_pop, if_neg h.symm, if_neg hname]

theorem getSecret_setSecret_of_ne (h : k.secretKey ≠ key.secretKey) (value : Option String) :
    (d.setSecret k value).getSecret key = d.getSecret key := by
  obtain ⟨hname, hsecret, hraw⟩ := names_ne h
  unfold PeerData.setSecret
  rcases value with _ | v
  · exact getSecret_removeSecret_of_ne h
  simp only
  split_ifs with hv
  · exact getSecret_removeSecret_of_ne h
  · rw [getSecret_eq, getSecret_eq, secretField_storeSecret _ k _ hv, if_neg h.symm,
      databag_storeSecret, databag_storeSecret, if_neg h.symm, if_neg hraw]
    simp [get_pop, hname, hsecret]

/-- After a removal `get_secret` returns nothing, unless a copy is left over. -/
theorem getSecret_removeSecret (h : k.secretKey = key.secretKey) :
    (d.removeSecret k).getSecret key = none ↔
      ¬ ((key.name ≠ key.secretKey ∧ d.databag.contains key.name = true) ∨
        ((d.secretField key.secretKey).isSome = true ∧
          d.databag.contains key.secretKey = true)) := by
  unfold PeerData.removeSecret PeerData.deleteRelationData Databag.contains
  rw [getSecret_eq, h]
  cases hs : d.secretField key.secretKey with
  | some v =>
    have hdel := secretField_deleted d k
    rw [h] at hdel
    simp only [Option.isSome_some, if_true, hdel, Option.none_or, true_and]
    by_cases hn : key.name = key.secretKey
    · simp [hn, PeerData.putSecret]
    · simp [hn, PeerData.putSecret]
  | none =>
    simp only [Option.isSome_none, Bool.false_eq_true, if_false, secretField_databag, hs,
      false_and, or_false]
    by_cases hn : key.name = key.secretKey
    · simp [hn, get_pop]
    · simp [hn, get_pop]

/-- After a value has been set `get_secret` returns it, unless a raw copy of
    another value is left over. -/
theorem getSecret_setSecret (h : k.secretKey = key.secretKey) (hv : v ≠ "")
    (hdel : v ≠ deletedLabel) :
    (d.setSecret k (some v)).getSecret key = some v ↔
      ¬ (key.name ≠ k.name ∧ key.name ≠ key.secretKey ∧
        ∃ old, d.databag.get key.name = some old ∧ old ≠ v) := by
  unfold PeerData.setSecret
  simp only [if_neg hv]
  rw [getSecret_eq, secretField_storeSecret _ k _ hv, databag_storeSecret, h, if_pos rfl]
  have hfilter : (some v).filter (fun v => v != deletedLabel) = some v := by simp [hdel]
  rw [hfilter, Option.some_or]
  by_cases hn : key.name = key.secretKey
  · rw [if_pos hn, Option.none_or]
    exact iff_of_true rfl fun hl => hl.2.1 hn
  rw [if_neg hn, if_neg hn, get_pop]
  by_cases hk : key.name = k.name
  · rw [if_pos hk, Option.none_or]
    exact iff_of_true rfl fun hl => hl.1 hk
  · rw [if_neg hk]
    cases hg : d.databag.get key.name with
    | none => simp
    | some old => simp [hn, hk]

/-! ## Sequences of calls -/

variable {w : Scope → PeerData} {scope : Scope} {op : Op} {ops : List Op}

/-- A call that does not write the key leaves it alone. -/
theorem getSecret_apply_of_not_writes (h : ¬ op.Writes scope key) :
    (op.apply w scope).getSecret key = (w scope).getSecret key := by
  cases op with
  | set s k value =>
    simp only [Op.apply]
    by_cases hs : s = scope
    · subst hs
      rw [Function.update_self, getSecret_setSecret_of_ne fun hk => h ⟨rfl, hk⟩]
    · rw [Function.update_of_ne (Ne.symm hs)]
  | remove s k =>
    simp only [Op.apply]
    by_cases hs : s = scope
    · subst hs
      rw [Function.update_self, getSecret_removeSecret_of_ne fun hk => h ⟨rfl, hk⟩]
    · rw [Function.update_of_ne (Ne.symm hs)]
  | get _ _ => rfl

/-- Setting an empty value is a removal. -/
theorem setSecret_of_filter_none {value : Option String}
    (hv : value.filter (fun v => v != "") = none) : d.setSecret k value = d.removeSecret k := by
  rcases value with _ | v
  · rfl
  · have hv : v = "" := by simpa using hv
    simp only [PeerData.setSecret, if_pos hv]

/-- A write of the key shows unless something is left over. -/
theorem getSecret_apply_of_writes (h : op.Writes scope key) (hdel : op.value ≠ some deletedLabel) :
    (op.apply w scope).getSecret key = op.value ↔ ¬ Leftover (w scope) key op := by
  cases op with
  | set s k value =>
    obtain ⟨rfl, hk⟩ := h
    simp only [Op.value] at hdel
    simp only [Op.apply, Op.value, Leftover, Function.update_self]
    cases hv : value.filter fun v => v != "" with
    | none =>
      rw [setSecret_of_filter_none hv]
      exact getSecret_removeSecret hk
    | some v =>
      obtain ⟨rfl, hne⟩ := Option.filter_eq_some_iff.mp hv
      rw [hv] at hdel
      exact getSecret_setSecret hk (by simpa using hne) (by simpa using hdel)
  | remove s k =>
    obtain ⟨rfl, hk⟩ := h
    simp only [Op.apply, Op.value, Leftover, Function.update_self]
    exact getSecret_removeSecret hk
  | get _ _ => exact absurd h id

/-- The last call of the list that writes the key leaves nothing over. -/
def LastWriteClean (w : Scope → PeerData) (scope : Scope) (key : Key) (ops : List Op) : Prop :=
  ∀ pre op post, ops = pre ++ op :: post → op.Writes scope key →
    (∀ o ∈ post, ¬ o.Writes scope key) → ¬ Leftover (run w pre scope) key op

theorem lastWriteClean_append_of_writes (h : op.Writes scope key) :
    LastWriteClean w scope key (ops ++ [op]) ↔ ¬ Leftover (run w ops scope) key op := by
  constructor
  · intro hc
    exact hc ops op [] rfl h fun _ ho => by cases ho
  · intro hl pre o post he ho hpost
    rcases List.eq_nil_or_concat post with rfl | ⟨post, last, rfl⟩
    · obtain ⟨rfl, hop⟩ := List.append_inj' he rfl
      obtain rfl : op = o := by simpa using hop
      exact hl
    · have hlast : [op] = [last] := by
        rw [List.concat_eq_append, ← List.cons_append, ← List.append_assoc] at he
        exact (List.append_inj' he rfl).2
      obtain rfl : op = last := by simpa using hlast
      exact absurd h (hpost op (by simp))

theorem lastWriteClean_append_of_not_writes (h : ¬ op.Writes scope key) :
    LastWriteClean w scope key (ops ++ [op]) ↔ LastWriteClean w scope key ops := by
  constructor
  · intro hc pre o post he ho hpost
    refine hc pre o (post ++ [op]) (by rw [he]; simp) ho fun x hx => ?_
    rcases List.mem_append.mp hx with hx | hx
    · exact hpost x hx
    · rwa [List.mem_singleton.mp hx]
  · intro hc pre o post he ho hpost
    rcases List.eq_nil_or_concat post with rfl | ⟨post, last, rfl⟩
    · have hop : [op] = [o] := (List.append_inj' he rfl).2
      obtain rfl : op = o := by simpa using hop
      exact absurd ho h
    · rw [List.concat_eq_append, ← List.cons_append, ← List.append_assoc] at he
      obtain ⟨he, -⟩ := List.append_inj' he rfl
      exact hc pre o post he ho fun x hx => hpost x (by simp [hx])

theorem run_append (w : Scope → PeerData) (ops : List Op) (op : Op) :
    run w (ops ++ [op]) = op.apply (run w ops) := by
  simp [run]

theorem lastWritten_append (initial : Option String) (ops : List Op) (op : Op) :
    lastWritten scope key initial (ops ++ [op]) =
      if op.Writes scope key then op.value else lastWritten scope key initial ops := by
  simp [lastWritten]

/-- For any layout of the two scopes and any sequence of calls, `get_secret`
    returns what was last written under the key exactly when that write left no
    plain-text copy over. Without a write it returns what it did at the start,
    and a write to a key with another translation changes nothing. -/
theorem getSecret_run_iff (w : Scope → PeerData) (ops : List Op) (scope : Scope) (key : Key)
    (hdel : ∀ op ∈ ops, op.value ≠ some deletedLabel) :
    ((run w ops scope).getSecret key = lastWritten scope key ((w scope).getSecret key) ops ↔
      LastWriteClean w scope key ops) ∧
    ∀ op : Op, ¬ op.Writes scope key →
      (run w (ops ++ [op]) scope).getSecret key = (run w ops scope).getSecret key := by
  refine ⟨?_, fun op h => by rw [run_append, getSecret_apply_of_not_writes h]⟩
  induction ops using List.reverseRecOn with
  | nil =>
    refine iff_of_true rfl fun pre op post he => ?_
    simp at he
  | append_singleton ops op ih =>
    rw [run_append, lastWritten_append]
    by_cases h : op.Writes scope key
    · rw [if_pos h, lastWriteClean_append_of_writes h]
      exact getSecret_apply_of_writes h (hdel op (by simp))
    · rw [if_neg h, lastWriteClean_append_of_not_writes h, getSecret_apply_of_not_writes h]
      exact ih fun o ho => hdel o (List.mem_append_left _ ho)

/-! ## A deployment that was upgraded -/

/-- `auth_file`. -/
def authFileKey : Key := ⟨"auth_file", inner_of_all (by decide), inner_of_all (by decide)⟩

/-- The databag has a plain-text copy from before the upgrade, the secret is
    empty. -/
def upgraded : Scope → PeerData := fun _ =>
  ⟨Databag.empty.set "auth_file" "old", .empty, fun _ hk => by
    simp [Databag.contains, Databag.empty] at hk⟩

/-- The plain-text copy survives `remove_secret` and is returned afterwards. -/
theorem stale_after_remove :
    (run upgraded [.remove .app authFileKey] .app).getSecret authFileKey = some "old" ∧
      lastWritten .app authFileKey ((upgraded .app).getSecret authFileKey)
        [.remove .app authFileKey] = none := by
  decide

/-- A value that is set replaces it, and can be removed. -/
theorem removed_after_set :
    (run upgraded [.set .app authFileKey (some "new"), .remove .app authFileKey] .app).getSecret
      authFileKey = none := by
  have hdel : ∀ op ∈ [Op.set .app authFileKey (some "new"), .remove .app authFileKey],
      op.value ≠ some deletedLabel := by
    intro op hop
    simp only [List.mem_cons, List.not_mem_nil, or_false] at hop
    rcases hop with rfl | rfl <;> decide
  have hclean : LastWriteClean upgraded .app authFileKey
      ([.set .app authFileKey (some "new")] ++ [.remove .app authFileKey]) := by
    have hwrites : (Op.remove .app authFileKey).Writes .app authFileKey := ⟨rfl, rfl⟩
    rw [lastWriteClean_append_of_writes hwrites]
    unfold Leftover
    decide
  exact (getSecret_run_iff upgraded _ .app authFileKey hdel).1.mpr hclean

end PgBouncerK8s.PeerSecrets
