import Mathlib.Data.List.Infix
import Mathlib.Data.List.TakeWhile
import PgBouncerK8s.Relations.PgbouncerProvider

/-!
# The endpoints of the client relations

Model of `PgBouncerProvider.update_endpoints` (`relations/pgbouncer_provider.py`,
lines 268–312) on the leader. What `set_tls`, `set_uris` and the other setters
of `data_interfaces.py` write is one field of the data the client reads; that
the library may keep the field in a Juju secret does not show here, and an
empty value reads as an absent one.

The loop goes on with `continue` where the client has written nothing, and
leaves with `return` where the database or the password is missing.

* `get?_updateEndpoints`: which relations the loop reaches, and what it leaves
  in them.
* `refreshes_iff_no_stale_behind_unset`: every initialised relation is
  refreshed, and no other one changed, exactly when the initialised relations
  behind one that is not initialised are up to date already.
* `not_refreshes_twoClients`: the relation behind a new client stays without
  endpoints.
-/

namespace PgBouncerK8s

open Text (str)

/-! ## Model -/

/-- What `update_endpoints` reads besides the relations: `get_tls_files`
    (`postgresql_tls.py`, lines 221–236) and the two endpoint properties
    (`charm.py`, lines 587–595). -/
structure Offer where
  key : Option String
  ca : Option String
  cert : Option String
  readWriteEndpoints : String
  readOnlyEndpoints : String

/-- `bool(s)` for a string or `None`. -/
def truthy (s : Option String) : Bool := s.any (· ≠ "")

/-- `all((key, ca, cert))`. -/
def Offer.tls (o : Offer) : Bool := truthy o.key && truthy o.ca && truthy o.cert

/-- `tls_flag`. -/
def Offer.tlsFlag (o : Offer) : String := if o.tls then "True" else "False"

/-- `tls_ca`. -/
def Offer.tlsCa (o : Offer) : String := if o.tls then o.ca.getD "" else ""

/-- The parts of a connection URI. -/
structure Uri where
  user : String
  password : String
  endpoints : String
  database : String

/-- `f"postgresql://{user}:{password}@{endpoints}/{database}"`. -/
def Uri.text (u : Uri) : String :=
  "postgresql://" ++ u.user ++ ":" ++ u.password ++ "@" ++ u.endpoints ++ "/" ++ u.database

/-- A relation of `self.model.relations[self.relation_name]`. `hasRemoteData`
    is `bool(relation.data.get(relation.app))`: the client application is still
    there and has written something. -/
structure ClientRelation where
  data : Relation
  hasRemoteData : Bool
  hasRemoteData_iff : hasRemoteData = true ↔ ∃ k, data.remote.contains k = true

namespace PgBouncerProvider

/-- `"read-only-uris" in secret_fields` (lines 300–304). -/
def requestsReadOnlyUris (r : Relation) : Bool :=
  match r.remote.get "requested-secrets" with
  | some secretFields => "read-only-uris".toList <:+: secretFields.toList
  | none => false

/-- The database of the read-only URI (lines 307–309). -/
def readonlyDatabase (database : String) : String :=
  if (database ++ "_readonly").length < 64 then database ++ "_readonly" else database

/-- What the loop body sets for one relation. -/
structure EndpointData where
  tls : String
  tlsCa : String
  endpoints : String
  readOnlyEndpoints : String
  uris : Uri
  readOnlyUris : Option Uri

/-- The data for the relation `rid`; `none` where the database or the password
    is missing (lines 284–288). -/
def endpointData (o : Offer) (rid : RelId) (r : Relation) : Option EndpointData :=
  match r.remote.get "database", r.app.get "password" with
  | some database, some password =>
    some {
      tls := o.tlsFlag
      tlsCa := o.tlsCa
      endpoints := o.readWriteEndpoints
      readOnlyEndpoints := o.readOnlyEndpoints
      uris := ⟨relationUser rid, password, o.readWriteEndpoints, database⟩
      readOnlyUris :=
        if requestsReadOnlyUris r then
          some ⟨relationUser rid, password, o.readWriteEndpoints, readonlyDatabase database⟩
        else none }
  | _, _ => none

/-- The fields in the order in which the setters are called (lines 290–312). -/
def EndpointData.fields (d : EndpointData) : List (String × String) :=
  [("tls", d.tls), ("tls-ca", d.tlsCa), ("endpoints", d.endpoints),
    ("read-only-endpoints", d.readOnlyEndpoints), ("uris", d.uris.text)] ++
  match d.readOnlyUris with
  | some uri => [("read-only-uris", uri.text)]
  | none => []

/-- The relation with these fields set. -/
def EndpointData.publish (d : EndpointData) (c : ClientRelation) : ClientRelation :=
  { c with data := { c.data with app := c.data.app.update d.fields } }

/-- The loop of `update_endpoints` (lines 279–312) over the relations `rids`. -/
def updateEndpoints (o : Offer) :
    List RelId → Dict RelId ClientRelation → Dict RelId ClientRelation
  | [], relations => relations
  | rid :: rids, relations =>
    match relations.get? rid with
    | none => updateEndpoints o rids relations
    | some c =>
      if !c.hasRemoteData then updateEndpoints o rids relations
      else
        match endpointData o rid c.data with
        | none => relations
        | some d => updateEndpoints o rids (relations.modify rid d.publish)

/-- `update_endpoints()` without argument. -/
def updateAllEndpoints (o : Offer) (relations : Dict RelId ClientRelation) :
    Dict RelId ClientRelation :=
  updateEndpoints o relations.keys relations

end PgBouncerProvider

open PgBouncerProvider

/-! ## The part of a list in front of a test -/

section TakeWhile

variable {α : Type} {p q : α → Bool}

theorem takeWhile_congr {l : List α} (h : ∀ a ∈ l, p a = q a) : l.takeWhile p = l.takeWhile q := by
  induction l with
  | nil => rfl
  | cons a l ih =>
    rw [List.takeWhile_cons, List.takeWhile_cons, h a List.mem_cons_self,
      ih fun b hb => h b (List.mem_cons_of_mem _ hb)]

/-- An element that passes the test is cut off exactly when it comes after one
    that does not. -/
theorem not_mem_takeWhile_iff {l : List α} (hnd : l.Nodup) {b : α} (hb : b ∈ l)
    (hpb : p b = true) : b ∉ l.takeWhile p ↔ ∃ a, p a = false ∧ [a, b].Sublist l := by
  induction l with
  | nil => cases hb
  | cons x l ih =>
    obtain ⟨hx, hnd⟩ := List.nodup_cons.mp hnd
    cases hpx : p x with
    | false =>
      have hbl : b ∈ l := by
        rcases List.mem_cons.mp hb with rfl | hb
        · rw [hpb] at hpx
          cases hpx
        · exact hb
      rw [List.takeWhile_cons_of_neg (by simp [hpx])]
      exact ⟨fun _ => ⟨x, hpx, List.cons_sublist_cons.mpr (List.singleton_sublist.mpr hbl)⟩,
        fun _ => List.not_mem_nil⟩
    | true =>
      have hcut : ∀ a, p a = false → ([a, b].Sublist (x :: l) ↔ [a, b].Sublist l) := by
        intro a ha
        have hax : a ≠ x := by
          rintro rfl
          rw [ha] at hpx
          cases hpx
        simp [List.sublist_cons_iff, hax]
      rw [List.takeWhile_cons_of_pos hpx, List.mem_cons, not_or]
      by_cases hbx : b = x
      · subst hbx
        refine ⟨fun h => absurd rfl h.1, ?_⟩
        rintro ⟨a, ha, hs⟩
        exact absurd (((hcut a ha).mp hs).subset (by simp)) hx
      · have hbl : b ∈ l := (List.mem_cons.mp hb).resolve_left hbx
        rw [ih hnd hbl]
        constructor
        · rintro ⟨-, a, ha, hs⟩
          exact ⟨a, ha, (hcut a ha).mpr hs⟩
        · rintro ⟨a, ha, hs⟩
          exact ⟨hbx, a, ha, (hcut a ha).mp hs⟩

end TakeWhile

/-! ## One pass of the loop -/

/-- Database and password are there. -/
def ClientRelation.initialised (c : ClientRelation) : Bool :=
  c.data.remote.contains "database" && c.data.app.contains "password"

/-- The client has written something, but the relation is not initialised:
    the loop leaves here. -/
def ClientRelation.unset (c : ClientRelation) : Bool := c.hasRemoteData && !c.initialised

/-- What the loop leaves in a relation it reaches. -/
def ClientRelation.refresh (o : Offer) (rid : RelId) (c : ClientRelation) : ClientRelation :=
  match endpointData o rid c.data with
  | some d => d.publish c
  | none => c

theorem ClientRelation.hasRemoteData_of_initialised {c : ClientRelation}
    (h : c.initialised = true) : c.hasRemoteData = true := by
  rw [initialised, Bool.and_eq_true] at h
  exact c.hasRemoteData_iff.mpr ⟨"database", h.1⟩

theorem ClientRelation.initialised_of_hasRemoteData {c : ClientRelation}
    (hu : c.unset = false) (hr : c.hasRemoteData = true) : c.initialised = true := by
  simpa [unset, hr] using hu

theorem endpointData_isSome (o : Offer) (rid : RelId) (c : ClientRelation) :
    (endpointData o rid c.data).isSome = c.initialised := by
  unfold endpointData ClientRelation.initialised Databag.contains
  cases c.data.remote.get "database" with
  | none => rfl
  | some database => cases c.data.app.get "password" <;> rfl

theorem endpointData_eq_none {c : ClientRelation} (h : c.initialised = false) (o : Offer)
    (rid : RelId) : endpointData o rid c.data = none := by
  rw [← Option.isNone_iff_eq_none, ← Option.isSome_eq_false_iff, endpointData_isSome, h]

theorem refresh_of_not_initialised {c : ClientRelation} (h : c.initialised = false) (o : Offer)
    (rid : RelId) : c.refresh o rid = c := by
  rw [ClientRelation.refresh, endpointData_eq_none h]

/-- The relation `rid` makes the loop leave. -/
def unsetAt (relations : Dict RelId ClientRelation) (rid : RelId) : Bool :=
  (relations.get? rid).any ClientRelation.unset

/-- The loop leaves at a relation that is not initialised. -/
theorem updateEndpoints_unset {o : Offer} {rid : RelId} {relations : Dict RelId ClientRelation}
    (h : unsetAt relations rid = true) (rids : List RelId) :
    updateEndpoints o (rid :: rids) relations = relations := by
  obtain ⟨c, hc, hu⟩ := (Option.any_eq_true _ _).mp h
  obtain ⟨hr, hi⟩ : c.hasRemoteData = true ∧ c.initialised = false := by
    simpa [ClientRelation.unset] using hu
  simp [updateEndpoints, hc, hr, endpointData_eq_none hi]

/-- One turn of the loop that does not leave it. -/
theorem updateEndpoints_cons {o : Offer} {rid : RelId} {relations : Dict RelId ClientRelation}
    (h : unsetAt relations rid = false) (rids : List RelId) :
    updateEndpoints o (rid :: rids) relations =
      updateEndpoints o rids (relations.modify rid (ClientRelation.refresh o rid)) := by
  rw [updateEndpoints]
  cases hc : relations.get? rid with
  | none =>
    rw [Dict.modify_eq_self]
    simp [hc]
  | some c =>
    have hu : c.unset = false := by simpa [unsetAt, hc] using h
    cases hr : c.hasRemoteData with
    | false =>
      have hi : c.initialised = false := by
        rw [← Bool.not_eq_true]
        intro hi
        simp [c.hasRemoteData_of_initialised hi] at hr
      rw [Dict.modify_eq_self]
      · simp [hr]
      · intro c' hc'
        obtain rfl : c = c' := by simpa [hc] using hc'
        exact refresh_of_not_initialised hi o rid
    | true =>
      obtain ⟨d, hd⟩ : ∃ d, endpointData o rid c.data = some d := by
        rw [← Option.isSome_iff_exists, endpointData_isSome]
        exact c.initialised_of_hasRemoteData hu hr
      have hmod : relations.modify rid d.publish =
          relations.modify rid (ClientRelation.refresh o rid) := by
        refine Dict.modify_congr fun c' hc' => ?_
        obtain rfl : c = c' := by simpa [hc] using hc'
        rw [ClientRelation.refresh, hd]
      simp [hr, hd, hmod]

theorem unsetAt_modify_of_ne (relations : Dict RelId ClientRelation) {a rid : RelId}
    (h : rid ≠ a) (f : ClientRelation → ClientRelation) :
    unsetAt (relations.modify a f) rid = unsetAt relations rid := by
  rw [unsetAt, Dict.get?_modify, if_neg h, unsetAt]

/-- The loop refreshes the relations in front of the first one that makes it
    leave, and no other. -/
theorem get?_updateEndpoints (o : Offer) {rids : List RelId} (hnd : rids.Nodup)
    (relations : Dict RelId ClientRelation) (rid : RelId) :
    (updateEndpoints o rids relations).get? rid =
      if rid ∈ rids.takeWhile (fun a => !unsetAt relations a) then
        (relations.get? rid).map (ClientRelation.refresh o rid)
      else relations.get? rid := by
  induction rids generalizing relations with
  | nil => simp [updateEndpoints]
  | cons a rids ih =>
    obtain ⟨ha, hnd⟩ := List.nodup_cons.mp hnd
    cases hu : unsetAt relations a with
    | true => simp [updateEndpoints_unset hu, hu]
    | false =>
      have htake : rids.takeWhile (fun b => !unsetAt
          (relations.modify a (ClientRelation.refresh o a)) b) =
          rids.takeWhile fun b => !unsetAt relations b := by
        refine takeWhile_congr fun b hb => ?_
        rw [unsetAt_modify_of_ne]
        rintro rfl
        exact ha hb
      rw [updateEndpoints_cons hu, ih hnd, htake, List.takeWhile_cons_of_pos (by simp [hu]),
        Dict.get?_modify]
      by_cases he : rid = a
      · subst he
        have hnot : rid ∉ rids.takeWhile fun b => !unsetAt relations b :=
          fun hm => ha ((List.takeWhile_prefix _).subset hm)
        simp [hnot]
      · simp [he]

/-! ## What a client reads -/

/-- What a databag reads back after `v` has been written. -/
def stored (v : String) : Option String := if v = "" then none else some v

/-- The data of an initialised relation is what the offer says now. -/
structure ClientRelation.UpToDate (o : Offer) (rid : RelId) (c : ClientRelation) : Prop where
  tls : c.data.app.get "tls" = some o.tlsFlag
  tlsCa : c.data.app.get "tls-ca" = stored o.tlsCa
  endpoints : c.data.app.get "endpoints" = stored o.readWriteEndpoints
  readOnlyEndpoints : c.data.app.get "read-only-endpoints" = stored o.readOnlyEndpoints
  uris : ∀ database password, c.data.remote.get "database" = some database →
    c.data.app.get "password" = some password →
    c.data.app.get "uris" =
      some (Uri.text ⟨relationUser rid, password, o.readWriteEndpoints, database⟩)
  readOnlyUris : requestsReadOnlyUris c.data = true →
    ∀ database password, c.data.remote.get "database" = some database →
    c.data.app.get "password" = some password →
    c.data.app.get "read-only-uris" = some (Uri.text
      ⟨relationUser rid, password, o.readWriteEndpoints, readonlyDatabase database⟩)

theorem Uri.text_ne (u : Uri) : u.text ≠ "" := by
  unfold text
  simp only [String.append_assoc]
  exact Text.append_ne (by decide) _

theorem Offer.tlsFlag_ne (o : Offer) : o.tlsFlag ≠ "" := by
  unfold tlsFlag
  split_ifs <;> decide

theorem exists_of_initialised {c : ClientRelation} (h : c.initialised = true) :
    ∃ database password, c.data.remote.get "database" = some database ∧
      c.data.app.get "password" = some password := by
  simp only [ClientRelation.initialised, Databag.contains, Bool.and_eq_true,
    Option.isSome_iff_exists] at h
  obtain ⟨⟨database, hdb⟩, ⟨password, hpw⟩⟩ := h
  exact ⟨database, password, hdb, hpw⟩

@[simp] theorem requestsReadOnlyUris_publish (d : EndpointData) (c : ClientRelation) :
    requestsReadOnlyUris (d.publish c).data = requestsReadOnlyUris c.data := rfl

/-- A refreshed relation is up to date. -/
theorem upToDate_refresh {c : ClientRelation} (h : c.initialised = true) (o : Offer)
    (rid : RelId) : (c.refresh o rid).UpToDate o rid := by
  obtain ⟨database, password, hdb, hpw⟩ := exists_of_initialised h
  have hd : endpointData o rid c.data = some
      ⟨o.tlsFlag, o.tlsCa, o.readWriteEndpoints, o.readOnlyEndpoints,
        ⟨relationUser rid, password, o.readWriteEndpoints, database⟩,
        if requestsReadOnlyUris c.data then
          some ⟨relationUser rid, password, o.readWriteEndpoints, readonlyDatabase database⟩
        else none⟩ := by
    rw [endpointData, hdb, hpw]
  rw [ClientRelation.refresh, hd]
  cases hro : requestsReadOnlyUris c.data with
  | false =>
    constructor
    case readOnlyUris =>
      intro hreq
      rw [requestsReadOnlyUris_publish, hro] at hreq
      cases hreq
    all_goals
      simp [EndpointData.publish, EndpointData.fields, Databag.update, Databag.get_set, stored,
        Uri.text_ne, Offer.tlsFlag_ne, hdb, hpw]
  | true =>
    constructor <;>
      simp [EndpointData.publish, EndpointData.fields, Databag.update, Databag.get_set, stored,
        Uri.text_ne, Offer.tlsFlag_ne, hdb, hpw]

/-! ## Every relation is refreshed -/

/-- Every initialised relation is up to date afterwards, and the others have
    the data they had. -/
structure Refreshes (o : Offer) (relations relations' : Dict RelId ClientRelation) : Prop where
  upToDate : ∀ rid c, relations.get? rid = some c → c.initialised = true →
    ∃ c', relations'.get? rid = some c' ∧ c'.UpToDate o rid
  others : ∀ rid c, relations.get? rid = some c → c.initialised = false →
    relations'.get? rid = some c

/-- An initialised relation enumerated behind one that is not initialised, and
    whose client is there, has the current data already. -/
def NoStaleBehindUnset (o : Offer) (relations : Dict RelId ClientRelation) : Prop :=
  ∀ a b ca cb, [a, b].Sublist relations.keys → relations.get? a = some ca → ca.unset = true →
    relations.get? b = some cb → cb.initialised = true → cb.UpToDate o b

/-- The relations the loop reaches. -/
def reached (relations : Dict RelId ClientRelation) : List RelId :=
  relations.keys.takeWhile fun a => !unsetAt relations a

theorem get?_updateAllEndpoints (o : Offer) (relations : Dict RelId ClientRelation)
    (rid : RelId) :
    (updateAllEndpoints o relations).get? rid =
      if rid ∈ reached relations then (relations.get? rid).map (ClientRelation.refresh o rid)
      else relations.get? rid :=
  get?_updateEndpoints o relations.nodup relations rid

theorem not_reached_iff {relations : Dict RelId ClientRelation} {b : RelId} {cb : ClientRelation}
    (hb : relations.get? b = some cb) (hi : cb.initialised = true) :
    b ∉ reached relations ↔
      ∃ a ca, [a, b].Sublist relations.keys ∧ relations.get? a = some ca ∧ ca.unset = true := by
  have hnd : relations.keys.Nodup := relations.nodup
  have hmem : b ∈ relations.keys := by
    rw [← Dict.get?_isSome_iff, hb]
    rfl
  rw [reached, not_mem_takeWhile_iff hnd hmem (by simp [unsetAt, hb, ClientRelation.unset, hi])]
  constructor
  · rintro ⟨a, ha, hs⟩
    obtain ⟨ca, hca, hu⟩ := (Option.any_eq_true _ _).mp (by simpa [unsetAt] using ha)
    exact ⟨a, ca, hs, hca, hu⟩
  · rintro ⟨a, ca, hs, hca, hu⟩
    exact ⟨a, by simp [unsetAt, hca, hu], hs⟩

/-- `update_endpoints()` refreshes every initialised relation iff those behind
    a relation that is not initialised need no refresh. -/
theorem refreshes_iff_no_stale_behind_unset (o : Offer) (relations : Dict RelId ClientRelation) :
    Refreshes o relations (updateAllEndpoints o relations) ↔ NoStaleBehindUnset o relations := by
  constructor
  · intro h a b ca cb hs ha hu hb hi
    have hnot : b ∉ reached relations := (not_reached_iff hb hi).mpr ⟨a, ca, hs, ha, hu⟩
    obtain ⟨c', hc', hup⟩ := h.upToDate b cb hb hi
    obtain rfl : cb = c' := by
      rw [get?_updateAllEndpoints, if_neg hnot, hb] at hc'
      exact Option.some_inj.mp hc'
    exact hup
  · intro h
    refine ⟨fun b cb hb hi => ?_, fun b cb hb hi => ?_⟩
    · by_cases hm : b ∈ reached relations
      · refine ⟨cb.refresh o b, ?_, upToDate_refresh hi o b⟩
        rw [get?_updateAllEndpoints, if_pos hm, hb]
        rfl
      · obtain ⟨a, ca, hs, hca, hu⟩ := (not_reached_iff hb hi).mp hm
        refine ⟨cb, ?_, h a b ca cb hs hca hu hb hi⟩
        rw [get?_updateAllEndpoints, if_neg hm, hb]
    · rw [get?_updateAllEndpoints, hb]
      split_ifs
      · rw [Option.map_some, refresh_of_not_initialised hi]
      · rfl

/-- A client that has asked for the database `app`, with `app` published to it. -/
def askingClient (app : Databag) : ClientRelation where
  data := ⟨.database, Databag.empty.set "database" "app", app, fun _ => .empty, .empty⟩
  hasRemoteData := true
  hasRemoteData_iff := iff_of_true rfl ⟨"database", rfl⟩

/-- Relation 1 waits for its credentials, relation 2 has got them. -/
def twoClients : Dict RelId ClientRelation :=
  (Dict.empty.set 1 (askingClient .empty)).set 2
    (askingClient (Databag.empty.set "password" "pw"))

/-- An offer without TLS. -/
def plainOffer : Offer := ⟨none, none, none, "h:6432", "h:6432"⟩

/-- Relation 2 is initialised and is not refreshed. -/
theorem not_refreshes_twoClients :
    ¬ Refreshes plainOffer twoClients (updateAllEndpoints plainOffer twoClients) := by
  intro h
  obtain ⟨c', hc', hup⟩ := h.upToDate 2 (askingClient (Databag.empty.set "password" "pw")) rfl
    (by decide)
  have hnone : ((updateAllEndpoints plainOffer twoClients).get? 2).bind
      (fun c => c.data.app.get "tls") = none := by decide
  rw [hc', Option.bind_some, hup.tls] at hnone
  cases hnone

end PgBouncerK8s
