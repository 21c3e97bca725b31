import PgBouncerK8s.Lib.KeyValue
import PgBouncerK8s.Relations.LegacyHost
import PgBouncerK8s.Relations.Setup

/-!
# Connection strings

Models of `parse_kv_string_to_dict` and `parse_dict_to_kv_string` (`pgb.py`,
lines 46–74). `update_connection_info` writes the two connection strings of a
legacy client with the latter, which quotes nothing.

* `readsBack_iff`: a connection string is read back exactly when none of its
  values has a blank or an equals sign.
* `stringsDecode_iff`: the same for the strings in the databags, by what the
  call reads.
* `stringsDecode_of_reach`: of that only the name of the database can have one.
* `not_stringsDecode_injected`: a name that replaces the host.
-/

namespace PgBouncerK8s.ConnectionString

open Text (str)
open HostsPorts (Cluster HostPort hostOf offer)

/-! ## Model -/

/-- `parse_kv_string_to_dict` (`pgb.py`, lines 46–61); `none` where a pair does
    not have two parts, which raises `ValueError`. -/
def parseKvStringToDict (string : String) : Option (Dict String String) :=
  KeyValue.parse ' ' '=' string

/-- `parse_dict_to_kv_string` (`pgb.py`, lines 64–74). -/
def parseDictToKvString (dictionary : Dict String String) : String :=
  KeyValue.encode ' ' '=' dictionary

/-- `master_dbconnstr` and `standby_dbconnstr` (`relations/db.py`, lines 380–387
    and 402–406), with the values as texts. -/
def dbconnstr (c : Connection) : Dict String String where
  items := [("host", c.host), ("dbname", c.dbname), ("port", c.port), ("user", c.user),
    ("password", c.password), ("fallback_application_name", c.fallbackApplicationName)]
  nodup := (by decide :
    ["host", "dbname", "port", "user", "password", "fallback_application_name"].Nodup)

/-- The connection is read back from the entry of the databag. -/
def ReadsBack (b : Databag) (key : String) (c : Connection) : Prop :=
  ∃ text d, b.get key = some text ∧ parseKvStringToDict text = some d ∧
    ∀ k, d.get? k = (dbconnstr c).get? k

/-- `get_databags` (`relations/db.py`, lines 503–512). -/
def getDatabags (u : UnitId) (leader : Bool) (r : Relation) : List Databag :=
  r.unit u :: if leader then [r.app] else []

/-- What `update_connection_info` writes under `master` and `standbys` is read
    back. -/
def StringsDecode (w : Cluster) (configured : Bool) (port : ℕ) (externalApp : String) (u : UnitId)
    (leader : Bool) (r : Relation) : Prop :=
  ∀ info r', w.connectionUpdates configured port externalApp u r = some info →
    w.updateConnectionInfo configured port externalApp u leader r = some r' →
    ∀ b ∈ getDatabags u leader r',
      ReadsBack b "master" info.master ∧ ReadsBack b "standbys" info.standbys

/-- The text has neither a blank nor an equals sign. -/
abbrev Plain (s : String) : Prop := KeyValue.Clean ' ' '=' s

/-! ## One string -/

theorem text_eq (c : Connection) : c.text = parseDictToKvString (dbconnstr c) := rfl

theorem text_ne_empty (c : Connection) : c.text ≠ "" := by
  intro h
  have hl := congrArg (fun s => s.toList.length) h
  simp [Connection.text, Text.join] at hl

/-- All values of the connection are plain. -/
def PlainValues (c : Connection) : Prop :=
  Plain c.host ∧ Plain c.dbname ∧ Plain c.port ∧ Plain c.user ∧ Plain c.password ∧
    Plain c.fallbackApplicationName

/-- A connection string is read back exactly when its values are plain. -/
theorem readsBack_iff {b : Databag} {key : String} {c : Connection}
    (hget : b.get key = some c.text) : ReadsBack b key c ↔ PlainValues c := by
  have hround : ReadsBack b key c ↔ KeyValue.RoundTrips ' ' '=' (dbconnstr c) := by
    rw [text_eq] at hget
    constructor
    · rintro ⟨text, d, htext, hparse, hd⟩
      obtain rfl := Option.some_inj.mp (hget.symm.trans htext)
      exact ⟨d, hparse, hd⟩
    · rintro ⟨d, hparse, hd⟩
      exact ⟨_, d, hget, hparse, hd⟩
  rw [hround, KeyValue.roundTrips_iff (by decide) (List.cons_ne_nil _ _)]
  have hkeys : Plain "host" ∧ Plain "dbname" ∧ Plain "port" ∧ Plain "user" ∧ Plain "password" ∧
      Plain "fallback_application_name" := by decide
  simp only [dbconnstr, List.forall_mem_cons, List.not_mem_nil, false_imp_iff, implies_true,
    and_true, hkeys, true_and, PlainValues]

/-! ## The values -/

theorem plain_str (n : ℕ) : Plain (str n) := by
  constructor <;> exact fun h => absurd (Text.isDigit_of_mem_str h) (by decide)

theorem plain_append_iff {s t : String} : Plain (s ++ t) ↔ Plain s ∧ Plain t := by
  simp only [Plain, KeyValue.Clean, String.toList_append, List.mem_append, not_or]
  tauto

/-- The suffix of the standby is plain. -/
theorem plain_standbyDatabase_iff (database : String) :
    Plain (DbProvides.standbyDatabase database) ↔ Plain database := by
  unfold DbProvides.standbyDatabase
  split_ifs
  · rw [plain_append_iff]
    exact and_iff_left (by decide)
  · exact Iff.rfl

section Written

variable {o : Offer} {listenPort port : ℕ} {externalApp : String} {u : UnitId} {leader : Bool}
  {r : Relation} {database user password : String}

/-- Every databag that is written has both strings. -/
theorem get_written (info : DbProvides.ConnectionInfo) {b : Databag}
    (hb : b ∈ getDatabags u leader (r.updateDatabags u leader info.fields)) :
    b.get "master" = some info.master.text ∧ b.get "standbys" = some info.standbys.text := by
  have hget : ∀ b : Databag, (b.update info.fields).get "master" = some info.master.text ∧
      (b.update info.fields).get "standbys" = some info.standbys.text := by
    intro b
    simp [Databag.update, DbProvides.ConnectionInfo.fields, Databag.get_set, text_ne_empty]
  rcases List.mem_cons.mp hb with rfl | hb
  · rw [Relation.updateDatabags_unit, if_pos rfl]
    exact hget _
  · cases leader with
    | false => cases hb
    | true =>
      obtain rfl := List.mem_singleton.mp hb
      exact hget _

theorem readsBack_written_iff (info : DbProvides.ConnectionInfo) :
    (∀ b ∈ getDatabags u leader (r.updateDatabags u leader info.fields),
      ReadsBack b "master" info.master ∧ ReadsBack b "standbys" info.standbys) ↔
    PlainValues info.master ∧ PlainValues info.standbys := by
  have hone : ∀ b ∈ getDatabags u leader (r.updateDatabags u leader info.fields),
      (ReadsBack b "master" info.master ∧ ReadsBack b "standbys" info.standbys ↔
        PlainValues info.master ∧ PlainValues info.standbys) := by
    intro b hb
    obtain ⟨hmaster, hstandbys⟩ := get_written info hb
    rw [readsBack_iff hmaster, readsBack_iff hstandbys]
  constructor
  · exact fun h => (hone _ List.mem_cons_self).mp (h _ List.mem_cons_self)
  · exact fun h b hb => (hone b hb).mpr h

/-- What the two strings of an initialised relation are made of. -/
theorem connectionInfo_eq (hdb : (r.unit u).get "database" = some database)
    (huser : (r.unit u).get "user" = some user) (hpw : (r.unit u).get "password" = some password)
    {info : DbProvides.ConnectionInfo}
    (hinfo : DbProvides.connectionInfo o listenPort port externalApp u r = some info) :
    ∃ n host standby, info = ⟨⟨host, database, str n, user, password, externalApp⟩, str n, host,
      ⟨standby, DbProvides.standbyDatabase database, str n, user, password, externalApp⟩⟩ := by
  unfold DbProvides.connectionInfo at hinfo
  rw [hdb, huser, hpw] at hinfo
  exact ⟨_, _, _, (Option.some_inj.mp hinfo).symm⟩

/-- The values of an initialised relation. -/
theorem plainValues_iff (hdb : (r.unit u).get "database" = some database)
    (huser : (r.unit u).get "user" = some user) (hpw : (r.unit u).get "password" = some password)
    {info : DbProvides.ConnectionInfo}
    (hinfo : DbProvides.connectionInfo o listenPort port externalApp u r = some info) :
    PlainValues info.master ∧ PlainValues info.standbys ↔
      (Plain database ∧ Plain user ∧ Plain password) ∧ Plain externalApp ∧
        Plain info.master.host ∧ Plain info.standbys.host := by
  obtain ⟨n, host, standby, rfl⟩ := connectionInfo_eq hdb huser hpw hinfo
  simp only [PlainValues, plain_standbyDatabase_iff, plain_str, true_and]
  tauto

end Written

/-! ## The strings of a relation -/

section Cluster

variable {w : Cluster} {configured : Bool} {port : ℕ} {externalApp : String} {u : UnitId}
  {leader : Bool} {r : Relation}

/-- The credentials the unit has for the client are plain. -/
def PlainCredentials (u : UnitId) (r : Relation) : Prop :=
  ∀ key ∈ ["database", "user", "password"], ∀ value, (r.unit u).get key = some value → Plain value

theorem plainCredentials_iff {database user password : String}
    (hdb : (r.unit u).get "database" = some database) (huser : (r.unit u).get "user" = some user)
    (hpw : (r.unit u).get "password" = some password) :
    PlainCredentials u r ↔ Plain database ∧ Plain user ∧ Plain password := by
  simp [PlainCredentials, hdb, huser, hpw]

/-- What the first and the last endpoint have in front of their first colon is
    plain. -/
def PlainHosts (w : Cluster) : Prop :=
  ∀ e, w.published.head? = some e ∨ w.published.getLast? = some e →
    Plain (String.ofList (e.toList.takeWhile (· ≠ ':')))

theorem hostOf_eq (endpoint : String) :
    hostOf endpoint = String.ofList (endpoint.toList.takeWhile (· ≠ ':')) := by
  rw [hostOf, Text.split, ← Lines.headD_splitOn]
  exact List.headD_map (f := String.ofList) (l := endpoint.toList.splitOn ':') (a := [])

/-- The two hosts that are taken out of the text. -/
theorem plainHosts_iff {text : String} (htext : w.getHostsPorts = some text) :
    Plain (hostOf ((Text.split ',' text).headD "")) ∧
      Plain (hostOf ((Text.split ',' text).getLastD "")) ↔ PlainHosts w := by
  by_cases hne : w.endpoints = []
  · obtain rfl := (Cluster.getHostsPorts_eq_empty_iff htext).mpr hne
    have hnone : w.published = [] :=
      not_ne_iff.mp (mt HostsPorts.published_ne_nil.mp (not_not.mpr hne))
    refine iff_of_true (by decide) fun e he => ?_
    simp [hnone] at he
  · rw [Cluster.split_getHostsPorts htext hne]
    obtain ⟨first, rest, hpub⟩ :=
      List.exists_cons_of_ne_nil (HostsPorts.published_ne_nil.mpr hne)
    have hpub' : Text.sortedSet (w.endpoints.map HostPort.text) = first :: rest := hpub
    simp only [PlainHosts, ← hostOf_eq]
    rw [hpub, hpub', List.headD_cons, List.head?_cons, List.getLastD_eq_getLast?]
    constructor
    · rintro ⟨hfirst, hlast⟩ e (he | he)
      · rwa [← Option.some_inj.mp he]
      · rwa [he] at hlast
    · intro h
      obtain ⟨last, hlast⟩ := Option.isSome_iff_exists.mp
        (List.getLast?_isSome.mpr (List.cons_ne_nil first rest))
      exact ⟨h first (.inl rfl), by rw [hlast]; exact h last (.inr hlast)⟩

/-- The strings of an initialised relation, by the text of the endpoints. -/
theorem stringsDecode_text_iff (hinit : HostsPorts.Initialised u r) :
    StringsDecode w configured port externalApp u leader r ↔
      (configured = true → ∀ text, w.getHostsPorts = some text →
        PlainCredentials u r ∧ Plain externalApp ∧
          Plain (hostOf ((Text.split ',' text).headD "")) ∧
          Plain (hostOf ((Text.split ',' text).getLastD ""))) := by
  cases configured with
  | false =>
    refine iff_of_true (fun info r' h => ?_) fun h => ?_
    · cases h
    · cases h
  | true =>
    cases htext : w.getHostsPorts with
    | none =>
      refine iff_of_true (fun info r' h => ?_) fun _ text h => ?_
      · simp [Cluster.connectionUpdates, htext] at h
      · cases h
    | some text =>
      obtain ⟨database, user, password, hdb, huser, hpw⟩ := id hinit
      obtain ⟨info, hinfo, hmaster, -, hstandbys⟩ :=
        HostsPorts.connectionInfo_hosts hinit text w.listenPort port externalApp
      have hupdates : w.connectionUpdates true port externalApp u r = some info := by
        simp [Cluster.connectionUpdates, htext, hinfo]
      have hwritten : w.updateConnectionInfo true port externalApp u leader r =
          some (r.updateDatabags u leader info.fields) := by
        simp [Cluster.updateConnectionInfo, htext, DbProvides.updateConnectionInfo, hinfo]
      have hstrings : StringsDecode w true port externalApp u leader r ↔
          PlainValues info.master ∧ PlainValues info.standbys := by
        refine Iff.trans ⟨fun h => h info _ hupdates hwritten, fun h info' r' hinfo' hr' => ?_⟩
          (readsBack_written_iff info)
        obtain rfl := Option.some_inj.mp (hupdates.symm.trans hinfo')
        obtain rfl := Option.some_inj.mp (hwritten.symm.trans hr')
        exact h
      rw [hstrings, plainValues_iff hdb huser hpw hinfo, hmaster, hstandbys,
        plainCredentials_iff hdb huser hpw]
      simp

/-- The strings of an initialised relation are read back exactly when nothing is
    written, because the configuration is invalid or an endpoint property
    raises, or all that goes into them is plain. -/
theorem stringsDecode_iff (hinit : HostsPorts.Initialised u r) :
    StringsDecode w configured port externalApp u leader r ↔
      (configured = true → w.getHostsPorts ≠ none →
        PlainCredentials u r ∧ Plain externalApp ∧ PlainHosts w) := by
  rw [stringsDecode_text_iff hinit]
  cases htext : w.getHostsPorts with
  | none => simp
  | some text =>
    rw [← plainHosts_iff htext]
    simp

end Cluster

/-- A relation whose client chose the database. -/
def chosen (database : String) : Relation :=
  { Relation.new .dbAdmin with
    unit := fun _ => ((Databag.empty.set "database" database).set "user" "pgb_user_3_dev").set
      "password" "s3cret" }

theorem get_chosen (u : UnitId) {database : String} (h : database ≠ "") :
    ((chosen database).unit u).get "database" = some database ∧
      ((chosen database).unit u).get "user" = some "pgb_user_3_dev" ∧
      ((chosen database).unit u).get "password" = some "s3cret" := by
  simp [chosen, Databag.get_set, h]

/-- A unit with a `ClusterIP` service. -/
def clusterIP : Cluster :=
  { HostsPorts.missing with service := some ⟨.clusterIP, [⟨"pgbouncer", none⟩], []⟩ }

/-- A name of a database that adds a host. -/
theorem not_stringsDecode_injected :
    ¬ StringsDecode clusterIP true 6432 "mailman" 0 true (chosen "lists host=evil") := by
  obtain ⟨hdb, huser, hpw⟩ := get_chosen 0 (show "lists host=evil" ≠ "" by decide)
  rw [stringsDecode_text_iff ⟨_, _, _, hdb, huser, hpw⟩]
  intro h
  obtain ⟨hplain, -⟩ := h rfl _ rfl
  exact absurd ((plainCredentials_iff hdb huser hpw).mp hplain).1 (by decide)

/-- The reader takes the last host. -/
example : (parseKvStringToDict "host=a dbname=lists host=evil").bind (·.get? "host") =
    some "evil" := by
  decide +kernel

/-- A name without a blank is read back. -/
theorem stringsDecode_lists :
    StringsDecode clusterIP true 6432 "mailman" 0 true (chosen "lists") := by
  obtain ⟨hdb, huser, hpw⟩ := get_chosen 0 (show "lists" ≠ "" by decide)
  refine (stringsDecode_iff ⟨_, _, _, hdb, huser, hpw⟩).mpr fun _ _ => ⟨?_, by decide, ?_⟩
  · exact (plainCredentials_iff hdb huser hpw).mpr (by decide)
  · intro e he
    have hpub : clusterIP.published = ["pgbouncer-service.clients.svc.cluster.local:6432"] := by
      decide
    rw [hpub] at he
    obtain rfl : _ = e := Option.some_inj.mp (he.elim id id)
    decide

/-! ## Only the database -/

section Reach

variable {lower : String → String} {h : Hook} {s s' : App} {a : Setup.Action} {rid : RelId}
  {r r' : Relation} {u : UnitId}

/-- `generate_password` draws letters and digits. -/
def DrawsPlain (_ : App) : Setup.Action → Prop
  | .joined h _ => Plain h.newPassword
  | _ => True

/-- The passwords in the databags of the units are plain. -/
def PlainPasswords (r : Relation) : Prop :=
  ∀ v p, (r.unit v).get "password" = some p → Plain p

/-- The passwords of all live relations are plain. -/
def AllPlain (s : App) : Prop := ∀ rid r, s.relations.get? rid = some r → PlainPasswords r

theorem PlainPasswords.updateDatabags {user password database : String} (hi : PlainPasswords r)
    (hpw : Plain password) (u : UnitId) :
    PlainPasswords (r.updateDatabags u true
      [("user", user), ("password", password), ("database", database)]) := by
  intro v p hp
  rw [Relation.updateDatabags_unit] at hp
  split_ifs at hp
  · have hget : ∀ b : Databag,
        (b.update [("user", user), ("password", password), ("database", database)]).get "password" =
          if password = "" then none else some password := by
      intro b
      simp [Databag.update, Databag.get_set]
    rw [hget] at hp
    split_ifs at hp
    exact Option.some_inj.mp hp ▸ hpw
  · exact hi v p hp

theorem PlainPasswords.copies (hi : PlainPasswords r) (hc : DbProvides.CopiesExtensions r r') :
    PlainPasswords r' := by
  intro v p hp
  rw [hc.unit v "password" (by decide)] at hp
  exact hi v p hp

theorem AllPlain.touch (hi : AllPlain s) (ht : Setup.Touches s s' rid r')
    (hr' : PlainPasswords r') : AllPlain s' :=
  ht.forall_relations hr' fun x q _ hq => hi x q hq

theorem allPlain_step (hi : AllPlain s) (hg : DrawsPlain s a)
    (ha : Setup.step lower s a = some s') : AllPlain s' := by
  cases Setup.step_effect lower ha with
  | relate hnone =>
    refine Dict.forall_get?_set (fun v p hp => ?_) fun x q _ hq => hi x q hq
    cases hp
  | @write rid r data hr hw => exact hi.touch (.put hr _) fun v p hp => hi rid r hr v p hp
  | elect => exact hi
  | @joined h rid r hr hleg =>
    obtain ⟨r'', r', hc, ht, rfl | ⟨database, hdb, rfl⟩⟩ := Setup.touches_joined lower h hr
    · exact hi.touch ht ((hi rid r hr).copies hc)
    · refine hi.touch ht (((hi rid r hr).copies hc).updateDatabags ?_ h.unit)
      -- a password that the unit has already is kept
      cases hp : (r.unit h.unit).get "password" with
      | none => exact hg
      | some p => exact hi rid r hr _ p hp
  | @changed h rid r hr =>
    obtain ⟨r', ht, rfl | rfl | ⟨user, password, database, -, -, hp, -, rfl⟩⟩ :=
      Setup.touches_changed h hr
    · exact hi.touch ht (hi rid _ hr)
    · exact hi.touch ht (hi rid r hr)
    · exact hi.touch ht ((hi rid r hr).updateDatabags (hi rid r hr _ _ hp) h.unit)
  | @requested h rid r database hr hleg hdb =>
    obtain ⟨r', ht, rfl | rfl⟩ := Setup.touches_requested lower h hr database
    · exact hi.touch ht (hi rid _ hr)
    · exact hi.touch ht (hi rid r hr)

theorem allPlain_of_reach (hs : (Setup.machine lower).Reach DrawsPlain s) : AllPlain s := by
  exact hs.invariant (I := AllPlain) (fun s hs => Setup.forall_of_empty hs)
    fun s a s' _ hi hg ha => allPlain_step hi hg ha

/-- The user name has the characters of the names it is made of. -/
theorem plain_generateUsername (hname : Plain s.name) (hmodel : Plain s.model) (rid : RelId) :
    Plain (s.generateUsername rid) := by
  have htext : Plain (s.name ++ "_user_" ++ str rid ++ "_" ++ s.model) := by
    simp only [plain_append_iff]
    exact ⟨⟨⟨⟨hname, by decide⟩, plain_str rid⟩, by decide⟩, hmodel⟩
  have hreplace : ∀ c, c ≠ '_' → c ∈ (s.generateUsername rid).toList →
      c ∈ (s.name ++ "_user_" ++ str rid ++ "_" ++ s.model).toList := by
    intro c hc hmem
    rw [App.generateUsername, Text.toList_replace, List.mem_map] at hmem
    obtain ⟨d, hd, hdc⟩ := hmem
    split_ifs at hdc
    · exact absurd hdc.symm hc
    · exact hdc ▸ hd
  exact ⟨fun h => htext.1 (hreplace _ (by decide) h), fun h => htext.2 (hreplace _ (by decide) h)⟩

/-- Endpoints with plain addresses have plain hosts. -/
theorem plainHosts_of_addresses {w : Cluster} (hw : ∀ address ∈ w.addresses, Plain address.1) :
    PlainHosts w := by
  intro e he
  have hmem : e ∈ w.published := he.elim List.mem_of_mem_head? List.mem_of_getLast?
  obtain ⟨e, hend, rfl⟩ := List.mem_map.mp (Text.mem_sortedSet.mp hmem)
  have hhost : Plain (HostsPorts.hostText e.host) := by
    cases ha : e.host with
    | none => decide
    | some address => exact hw address (Cluster.host_mem_addresses hend ha)
  -- nothing behind the colon is taken
  have hsub : e.text.toList.takeWhile (· ≠ ':') ⊆ (HostsPorts.hostText e.host).toList := by
    rw [HostPort.text, HostsPorts.endpointText, String.append_assoc, String.toList_append,
      List.takeWhile_append]
    split_ifs
    · simp [String.toList_append]
    · exact List.takeWhile_subset _
  constructor
  · rw [String.toList_ofList]
    exact fun h => hhost.1 (hsub h)
  · rw [String.toList_ofList]
    exact fun h => hhost.2 (hsub h)

/-- In every reachable state, with names as Juju has them and addresses as
    Kubernetes has them, the name of the database decides. -/
theorem stringsDecode_of_reach {w : Cluster} {configured : Bool} {port : ℕ} {externalApp : String}
    {leader : Bool} {database : String} (hs : (Setup.machine lower).Reach DrawsPlain s)
    (hname : Plain s.name) (hmodel : Plain s.model) (happ : Plain externalApp)
    (hw : ∀ address ∈ w.addresses, Plain address.1) (hr : s.relations.get? rid = some r)
    (hleg : r.endpoint.legacy = true) (hpw : (r.unit u).contains "password" = true)
    (hdb : (r.unit u).get "database" = some database) :
    StringsDecode w configured port externalApp u leader r ↔
      (configured = true → w.getHostsPorts ≠ none → Plain database) := by
  have hk := Setup.kept_of_reach hs rid r hr
  obtain ⟨huser, -, -⟩ := hk.unit_together u hpw
  rw [Setup.userKey_of_legacy hleg] at huser
  obtain ⟨user, huser⟩ := Option.isSome_iff_exists.mp huser
  obtain ⟨password, hpw⟩ := Option.isSome_iff_exists.mp hpw
  have hu : Plain user := by
    have howner := hk.unit_user u user (by rw [Setup.userKey_of_legacy hleg, huser])
    rw [howner, Setup.owner, if_pos hleg]
    exact plain_generateUsername hname hmodel rid
  have hp : Plain password := allPlain_of_reach hs rid r hr u password hpw
  rw [stringsDecode_text_iff ⟨database, user, password, hdb, huser, hpw⟩]
  constructor
  · intro h hc hne
    obtain ⟨text, htext⟩ := Option.ne_none_iff_exists'.mp hne
    exact ((plainCredentials_iff hdb huser hpw).mp (h hc text htext).1).1
  · intro h hc text htext
    have hdatabase : Plain database := h hc (by simp [htext])
    exact ⟨(plainCredentials_iff hdb huser hpw).mpr ⟨hdatabase, hu, hp⟩, happ,
      (plainHosts_iff htext).mpr (plainHosts_of_addresses hw)⟩

end Reach

end PgBouncerK8s.ConnectionString
