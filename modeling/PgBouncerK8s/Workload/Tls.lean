import PgBouncerK8s.Lib.Machine
import PgBouncerK8s.Lib.Text
import PgBouncerK8s.Model.Databag

/-!
# The TLS files

Model of `PostgreSQLTLS` (`postgresql_tls.py`, lines 78–161), of
`push_tls_files_to_workload` (`charm.py`, lines 806–828) and of the hooks that
render the ini files, on one unit. The secrets of the unit survive a restart of
its pod, the files in the container do not.

The files are pushed one at a time, and a push that fails leaves those before it
in place; where the container cannot be reached, `push_file` returns silently,
and each call finds out anew whether it can be. Rendering does not look at the
files: it puts the `client_tls_*` settings into the ini files where the secrets
are set.

* `pushTlsFiles_cases`: what the three pushes leave.
* `consistent_iff`: one handler keeps the settings with their files unless a
  rendering hook finds the secrets set and a file missing.
* `consistent_of_reach`: runs without such hooks.
* `tls_without_files`: a push fails, and a later `config-changed` enables TLS.
-/

namespace PgBouncerK8s.Tls

/-! ## Model -/

/-- The container: the contents of `key.pem`, `ca.pem` and `cert.pem`, and
    whether its ini files, if there are any, carry the `client_tls_*` settings. -/
structure Container where
  keyPem : Option String
  caPem : Option String
  certPem : Option String
  iniTls : Option Bool
  deriving DecidableEq

/-- A container as it starts. -/
def Container.fresh : Container := ⟨none, none, none, none⟩

/-- One unit: its secrets, whether its databag has `container_initialised`, and
    its container. -/
structure State where
  secrets : Databag
  initialised : Bool
  container : Container

/-- What `push_file` does: it writes the file, returns silently without the
    container, or fails with a Pebble error. -/
inductive Push
  | written
  | unreachable
  | raises
  deriving DecidableEq

/-- What a hook meets: the container can be reached at its start
    (`canConnect`), and by `render_pgb_config` (`renderConnects`); `keyPem`,
    `caPem` and `certPem` are the pushes of the files. -/
structure Hook where
  canConnect : Bool
  configValid : Bool
  reconcileOk : Bool
  keyPem : Push
  caPem : Push
  certPem : Push
  renderConnects : Bool

/-- The data of a `certificate_available` event. -/
structure Certificate where
  certificateSigningRequest : String
  certificate : String
  ca : String
  chain : Option (List String)

/-- `get_tls_files` (`postgresql_tls.py`, lines 221–236): key, CA file and
    certificate. A secret is never empty. -/
def getTlsFiles (secrets : Databag) : Option String × Option String × Option String :=
  (secrets.get "key", (secrets.get "chain").or (secrets.get "ca"), secrets.get "cert")

/-- `enable_tls` (`charm.py`, line 1049). -/
def enableTls (secrets : Databag) : Bool :=
  let (key, ca, cert) := getTlsFiles secrets
  key.isSome && ca.isSome && cert.isSome

section Handlers

variable (h : Hook)

/-- `push_file` (`charm.py`, lines 842–859) of a file that now has the content
    `old`, where there is a `new` one; `none` where the push raises. -/
def pushFile (push : Push) (new old : Option String) : Option (Option String) :=
  match new, push with
  | none, _ => some old
  | some content, .written => some (some content)
  | some _, .unreachable => some old
  | some _, .raises => none

/-- `push_tls_files_to_workload(False)` (`charm.py`, lines 806–825), and whether
    it returns. -/
def pushTlsFiles (s : State) : State × Bool :=
  let (key, ca, cert) := getTlsFiles s.secrets
  match pushFile h.keyPem key s.container.keyPem with
  | none => (s, false)
  | some keyPem =>
    let s := { s with container := { s.container with keyPem := keyPem } }
    match pushFile h.caPem ca s.container.caPem with
    | none => (s, false)
    | some caPem =>
      let s := { s with container := { s.container with caPem := caPem } }
      match pushFile h.certPem cert s.container.certPem with
      | none => (s, false)
      | some certPem => ({ s with container := { s.container with certPem := certPem } }, true)

/-- `render_pgb_config` (`charm.py`, lines 1011–1098), also `update_config`. -/
def renderPgbConfig (s : State) : State :=
  if !h.configValid || !h.renderConnects then s
  else { s with container := { s.container with iniTls := some (enableTls s.secrets) } }

/-- `_request_certificate` (`postgresql_tls.py`, lines 84–99), which handles the
    action `set-tls-private-key` and a new TLS relation. -/
def requestCertificate (key csr : String) (s : State) : State :=
  { s with secrets := (s.secrets.set "key" key).set "csr" csr }

/-- `_on_tls_relation_broken` (`postgresql_tls.py`, lines 118–126). -/
def onTlsRelationBroken (s : State) : State :=
  renderPgbConfig h { s with secrets := ((s.secrets.pop "ca").pop "cert").pop "chain" }

/-- The secrets of a certificate (`postgresql_tls.py`, lines 141–144). -/
def storeCertificate (c : Certificate) (secrets : Databag) : Databag :=
  ((secrets.set "chain" ((c.chain.map (Text.join '\n')).getD "")).set "cert" c.certificate).set
    "ca" c.ca

/-- `_on_certificate_available` (`postgresql_tls.py`, lines 128–155); `strip` is
    `str.strip`. -/
def onCertificateAvailable (strip : String → String) (c : Certificate) (s : State) : State :=
  if strip c.certificateSigningRequest ≠ strip ((s.secrets.get "csr").getD "None") then s
  else if c.certificate = "" then s
  else
    let (s, returned) := pushTlsFiles h { s with secrets := storeCertificate c s.secrets }
    if returned then renderPgbConfig h s else s

/-- `_on_pgbouncer_pebble_ready` (`charm.py`, lines 331–362). -/
def onPebbleReady (s : State) : State :=
  if !h.canConnect then s
  else
    let (s, returned) := if enableTls s.secrets then pushTlsFiles h s else (s, true)
    if returned then { renderPgbConfig h s with initialised := true } else s

/-- `is_container_ready` (`charm.py`, lines 364–370). -/
def isContainerReady (s : State) : Bool := h.canConnect && s.initialised

/-- `_on_config_changed` (`charm.py`, lines 372–405). -/
def onConfigChanged (s : State) : State :=
  if !isContainerReady h s then s
  else if !h.configValid then s
  else if !h.reconcileOk then s
  else renderPgbConfig h s

/-- `Peers._on_changed` (`relations/peers.py`, lines 116–142). -/
def onPeerChanged (s : State) : State :=
  if !isContainerReady h s then s else renderPgbConfig h s

end Handlers

/-! ## The machine -/

inductive Action
  | requestCertificate (key csr : String)
  | certificateAvailable (h : Hook) (c : Certificate)
  | tlsRelationBroken (h : Hook)
  | podRestart
  | pebbleReady (h : Hook)
  | configChanged (h : Hook)
  | peerChanged (h : Hook)

def step (strip : String → String) (s : State) : Action → State
  | .requestCertificate key csr => requestCertificate key csr s
  | .certificateAvailable h c => onCertificateAvailable h strip c s
  | .tlsRelationBroken h => onTlsRelationBroken h s
  | .podRestart => { s with container := .fresh }
  | .pebbleReady h => onPebbleReady h s
  | .configChanged h => onConfigChanged h s
  | .peerChanged h => onPeerChanged h s

/-- Runs start with a fresh container. -/
def machine (strip : String → String) : Machine State Action where
  init s := s.container = .fresh
  step s a := some (step strip s a)

/-- The three files are in the container. -/
def FilesInPlace (c : Container) : Prop :=
  c.keyPem.isSome = true ∧ c.caPem.isSome = true ∧ c.certPem.isSome = true

/-- The settings are enabled only with the files in place. -/
def Consistent (s : State) : Prop := s.container.iniTls = some true → FilesInPlace s.container

/-- `render_pgb_config` writes the ini files. -/
def Renders (h : Hook) : Prop := h.configValid = true ∧ h.renderConnects = true

/-- No push raises. -/
def PushesReturn (h : Hook) : Prop := h.keyPem ≠ .raises ∧ h.caPem ≠ .raises ∧ h.certPem ≠ .raises

/-- Each file is written, or has been in the container before. -/
def FilesPushed (h : Hook) (c : Container) : Prop :=
  (h.keyPem = .written ∨ c.keyPem.isSome = true) ∧ (h.caPem = .written ∨ c.caPem.isSome = true) ∧
    (h.certPem = .written ∨ c.certPem.isSome = true)

/-- The certificate is one for the current request. -/
def Accepts (strip : String → String) (c : Certificate) (s : State) : Prop :=
  strip c.certificateSigningRequest = strip ((s.secrets.get "csr").getD "None") ∧
    c.certificate ≠ ""

/-- A hook that gets to rendering while the TLS secrets are set finds the files
    in place, those it has pushed itself included. -/
def FindsFiles (strip : String → String) (s : State) : Action → Prop
  | .certificateAvailable h c => Accepts strip c s → PushesReturn h → Renders h →
      enableTls (storeCertificate c s.secrets) = true → FilesPushed h s.container
  | .pebbleReady h => h.canConnect = true → PushesReturn h → Renders h →
      enableTls s.secrets = true → FilesPushed h s.container
  | .configChanged h => isContainerReady h s = true → h.reconcileOk = true → Renders h →
      enableTls s.secrets = true → FilesInPlace s.container
  | .peerChanged h => isContainerReady h s = true → Renders h → enableTls s.secrets = true →
      FilesInPlace s.container
  | _ => True

instance (c : Container) : Decidable (FilesInPlace c) := inferInstanceAs (Decidable (_ ∧ _ ∧ _))

instance (s : State) : Decidable (Consistent s) := inferInstanceAs (Decidable (_ → _))

instance (h : Hook) : Decidable (Renders h) := inferInstanceAs (Decidable (_ ∧ _))

instance (h : Hook) : Decidable (PushesReturn h) := inferInstanceAs (Decidable (_ ∧ _ ∧ _))

instance (h : Hook) (c : Container) : Decidable (FilesPushed h c) :=
  inferInstanceAs (Decidable ((_ ∨ _) ∧ (_ ∨ _) ∧ (_ ∨ _)))

instance (strip : String → String) (c : Certificate) (s : State) : Decidable (Accepts strip c s) :=
  inferInstanceAs (Decidable (_ ∧ _))

instance (strip : String → String) (s : State) : (a : Action) → Decidable (FindsFiles strip s a)
  | .requestCertificate _ _ => inferInstanceAs (Decidable True)
  | .certificateAvailable _ _ => inferInstanceAs (Decidable (_ → _ → _ → _ → _))
  | .tlsRelationBroken _ => inferInstanceAs (Decidable True)
  | .podRestart => inferInstanceAs (Decidable True)
  | .pebbleReady _ => inferInstanceAs (Decidable (_ → _ → _ → _ → _))
  | .configChanged _ => inferInstanceAs (Decidable (_ → _ → _ → _ → _))
  | .peerChanged _ => inferInstanceAs (Decidable (_ → _ → _ → _))

/-! ## Pushing and rendering -/

variable {h : Hook} {s s' : State} {strip : String → String}

/-- The files that were there are still there. -/
def Keeps (c c' : Container) : Prop :=
  (c.keyPem.isSome = true → c'.keyPem.isSome = true) ∧
    (c.caPem.isSome = true → c'.caPem.isSome = true) ∧
    (c.certPem.isSome = true → c'.certPem.isSome = true) ∧ c'.iniTls = c.iniTls

theorem pushFile_keeps {push : Push} {new old pem : Option String}
    (hp : pushFile push new old = some pem) : old.isSome = true → pem.isSome = true := by
  cases new with
  | none =>
    obtain rfl : old = pem := Option.some_inj.mp hp
    exact id
  | some content =>
    cases push with
    | written =>
      obtain rfl : some content = pem := Option.some_inj.mp hp
      exact fun _ => rfl
    | unreachable =>
      obtain rfl : old = pem := Option.some_inj.mp hp
      exact id
    | raises => cases hp

/-- The push of a file that is set. -/
theorem pushFile_cases (push : Push) (content : String) (old : Option String) :
    push = .raises ∧ pushFile push (some content) old = none ∨
      push ≠ .raises ∧ ∃ pem, pushFile push (some content) old = some pem ∧
        (pem.isSome = true ↔ push = .written ∨ old.isSome = true) := by
  cases push with
  | written => exact .inr ⟨nofun, some content, rfl, by simp⟩
  | unreachable => exact .inr ⟨nofun, old, rfl, by simp⟩
  | raises => exact .inl ⟨rfl, rfl⟩

theorem Keeps.refl (c : Container) : Keeps c c := ⟨id, id, id, rfl⟩

/-- No file is lost by the three pushes. -/
theorem pushTlsFiles_keeps (h : Hook) (s : State) :
    ∃ c, (pushTlsFiles h s).1 = { s with container := c } ∧ Keeps s.container c := by
  unfold pushTlsFiles
  obtain ⟨key, ca, cert⟩ := getTlsFiles s.secrets
  dsimp only
  cases hk : pushFile h.keyPem key s.container.keyPem with
  | none => exact ⟨_, rfl, .refl _⟩
  | some keyPem =>
    have hkey := pushFile_keeps hk
    cases hc : pushFile h.caPem ca s.container.caPem with
    | none => exact ⟨_, rfl, hkey, id, id, rfl⟩
    | some caPem =>
      have hca := pushFile_keeps hc
      cases hcert : pushFile h.certPem cert s.container.certPem with
      | none => exact ⟨_, rfl, hkey, hca, id, rfl⟩
      | some certPem => exact ⟨_, rfl, hkey, hca, pushFile_keeps hcert, rfl⟩

/-- Where the secrets are set, the pushes return unless one raises, and then
    each file is there that has been written or was there before. -/
theorem pushTlsFiles_cases (h : Hook) (htls : enableTls s.secrets = true) :
    ((pushTlsFiles h s).2 = true ↔ PushesReturn h) ∧
      ((pushTlsFiles h s).2 = true →
        (FilesInPlace (pushTlsFiles h s).1.container ↔ FilesPushed h s.container)) := by
  unfold enableTls at htls
  unfold pushTlsFiles PushesReturn
  generalize getTlsFiles s.secrets = files at htls ⊢
  obtain ⟨key, ca, cert⟩ := files
  simp only [Bool.and_eq_true, Option.isSome_iff_exists] at htls
  obtain ⟨⟨⟨key, rfl⟩, ca, rfl⟩, cert, rfl⟩ := htls
  dsimp only
  rcases pushFile_cases h.keyPem key s.container.keyPem with ⟨hk, hp⟩ | ⟨hk, keyPem, hp, hkey⟩
  · rw [hp]
    simp [hk]
  rcases pushFile_cases h.caPem ca s.container.caPem with ⟨hc, hp'⟩ | ⟨hc, caPem, hp', hca⟩
  · simp only [hp, hp']
    simp [hc]
  rcases pushFile_cases h.certPem cert s.container.certPem with
    ⟨hr, hp''⟩ | ⟨hr, certPem, hp'', hcert⟩
  · simp only [hp, hp', hp'']
    simp [hr]
  · simp only [hp, hp', hp'', FilesInPlace, FilesPushed, hkey, hca, hcert]
    simp [hk, hc, hr]

theorem FilesInPlace.mono {c c' : Container} (hk : Keeps c c') (hf : FilesInPlace c) :
    FilesInPlace c' :=
  ⟨hk.1 hf.1, hk.2.1 hf.2.1, hk.2.2.1 hf.2.2⟩

/-- What is consistent stays so where files are only added. -/
theorem Consistent.mono {c : Container} (hs : Consistent s) (hk : Keeps s.container c) :
    Consistent { s with container := c } := by
  intro htls
  have hold : s.container.iniTls = some true := hk.2.2.2.symm.trans htls
  exact (hs hold).mono hk

/-- Rendering is consistent iff it does not enable TLS without the files. -/
theorem consistent_render (hs : Consistent s) :
    Consistent (renderPgbConfig h s) ↔
      (Renders h → enableTls s.secrets = true → FilesInPlace s.container) := by
  unfold renderPgbConfig Renders
  split_ifs with hr
  · refine iff_of_true hs fun hc => ?_
    simp [hc.1, hc.2] at hr
  · have hc : h.configValid = true ∧ h.renderConnects = true := by simpa using hr
    constructor
    · intro hcons _ htls
      exact hcons (congrArg some htls)
    · intro hfiles htls
      exact hfiles hc (Option.some_inj.mp htls)

/-- Rendering behind the pushes. -/
theorem consistent_pushed (hs : Consistent s) :
    Consistent (if (pushTlsFiles h s).2 then renderPgbConfig h (pushTlsFiles h s).1
        else (pushTlsFiles h s).1) ↔
      (PushesReturn h → Renders h → enableTls s.secrets = true → FilesPushed h s.container) := by
  obtain ⟨c, hc, hkeeps⟩ := pushTlsFiles_keeps h s
  have hpushed : Consistent (pushTlsFiles h s).1 := hc ▸ hs.mono hkeeps
  have hsecrets : (pushTlsFiles h s).1.secrets = s.secrets := by rw [hc]
  cases htls : enableTls s.secrets with
  | false =>
    refine iff_of_true ?_ (by simp)
    split_ifs
    · refine (consistent_render hpushed).mpr fun _ ht => ?_
      rw [hsecrets, htls] at ht
      cases ht
    · exact hpushed
  | true =>
    obtain ⟨hreturns, hfiles⟩ := pushTlsFiles_cases h htls
    split_ifs with hret
    · rw [consistent_render hpushed, hsecrets, htls, hfiles hret,
        imp_iff_right (hreturns.mp hret)]
    · exact iff_of_true hpushed fun h => absurd (hreturns.mpr h) hret

/-! ## One handler -/

theorem consistent_certificateAvailable (hs : Consistent s) (c : Certificate) :
    Consistent (onCertificateAvailable h strip c s) ↔
      (Accepts strip c s → PushesReturn h → Renders h →
        enableTls (storeCertificate c s.secrets) = true → FilesPushed h s.container) := by
  unfold onCertificateAvailable Accepts
  split_ifs with hcsr hcert
  · exact iff_of_true hs fun ha => absurd ha.1 hcsr
  · exact iff_of_true hs fun ha => absurd hcert ha.2
  · rw [imp_iff_right ⟨not_not.mp hcsr, hcert⟩]
    exact consistent_pushed (s := { s with secrets := storeCertificate c s.secrets }) hs

theorem consistent_tlsRelationBroken (hs : Consistent s) :
    Consistent (onTlsRelationBroken h s) := by
  unfold onTlsRelationBroken
  refine (consistent_render (s := { s with
    secrets := ((s.secrets.pop "ca").pop "cert").pop "chain" }) hs).mpr fun _ htls => ?_
  simp [enableTls, getTlsFiles, Databag.pop] at htls

theorem consistent_pebbleReady (hs : Consistent s) :
    Consistent (onPebbleReady h s) ↔ (h.canConnect = true → PushesReturn h → Renders h →
      enableTls s.secrets = true → FilesPushed h s.container) := by
  unfold onPebbleReady
  cases h.canConnect with
  | false => exact iff_of_true hs (by simp)
  | true =>
    rw [imp_iff_right rfl]
    cases htls : enableTls s.secrets with
    | false =>
      refine iff_of_true ?_ (by simp)
      exact (consistent_render (h := h) hs).mpr fun _ ht => by simp [htls] at ht
    | true =>
      have hpushed := consistent_pushed (h := h) hs
      rw [htls] at hpushed
      rw [← hpushed]
      show Consistent (if (pushTlsFiles h s).2 then _ else _) ↔ _
      split_ifs <;> exact Iff.rfl

theorem consistent_peerChanged (hs : Consistent s) :
    Consistent (onPeerChanged h s) ↔
      (isContainerReady h s = true → Renders h → enableTls s.secrets = true →
        FilesInPlace s.container) := by
  unfold onPeerChanged
  cases isContainerReady h s with
  | false => exact iff_of_true hs (by simp)
  | true => exact (consistent_render hs).trans (imp_iff_right rfl).symm

theorem consistent_configChanged (hs : Consistent s) :
    Consistent (onConfigChanged h s) ↔
      (isContainerReady h s = true → h.reconcileOk = true → Renders h →
        enableTls s.secrets = true → FilesInPlace s.container) := by
  unfold onConfigChanged
  cases isContainerReady h s with
  | false => exact iff_of_true hs (by simp)
  | true =>
    cases hvalid : h.configValid with
    | false => exact iff_of_true hs (by simp [Renders, hvalid])
    | true =>
      cases h.reconcileOk with
      | false => exact iff_of_true hs (by simp)
      | true => simpa using consistent_render (h := h) hs

/-- One handler keeps the settings with their files iff it does not render with
    the secrets set and a file missing. -/
theorem consistent_iff (hs : Consistent s) (a : Action) :
    Consistent (step strip s a) ↔ FindsFiles strip s a := by
  cases a with
  | requestCertificate key csr => exact iff_of_true hs trivial
  | certificateAvailable h c => exact consistent_certificateAvailable hs c
  | tlsRelationBroken h => exact iff_of_true (consistent_tlsRelationBroken hs) trivial
  | podRestart => exact iff_of_true (fun htls => by cases htls) trivial
  | pebbleReady h => exact consistent_pebbleReady hs
  | configChanged h => exact consistent_configChanged hs
  | peerChanged h => exact consistent_peerChanged hs

/-! ## Runs -/

/-- In every run whose rendering hooks find the files of the secrets that are
    set, TLS is enabled only with its files in place. -/
theorem consistent_of_reach (hs : (machine strip).Reach (FindsFiles strip) s) : Consistent s := by
  refine hs.invariant (fun s hinit htls => ?_) fun s a s' _ hi hg ha => ?_
  · rw [show s.container = .fresh from hinit] at htls
    cases htls
  · rw [← Option.some_inj.mp ha]
    exact (consistent_iff hi a).mpr hg

/-! ## Two runs -/

/-- A unit before any hook. -/
def sampleUnit : State := ⟨.empty, false, .fresh⟩

/-- A hook in which nothing fails but the push of the CA file, if at all. -/
def sampleHook (caPem : Push) : Hook := ⟨true, true, true, .written, caPem, .written, true⟩

def sampleCertificate : Certificate := ⟨"csr", "cert", "ca", none⟩

/-- The second push fails, in the event and when it is emitted again in front of
    `config-changed`. -/
theorem tls_without_files :
    ∃ s, (machine id).Reach Machine.always s ∧ s.container.iniTls = some true ∧
      s.container.keyPem = some "key" ∧ s.container.caPem = none ∧ s.container.certPem = none ∧
      ¬ Consistent s := by
  obtain ⟨s, hs, hp⟩ := Machine.exists_reach_of_exec (machine id) Machine.always sampleUnit
    [.pebbleReady (sampleHook .written), .requestCertificate "key" "csr",
      .certificateAvailable (sampleHook .raises) sampleCertificate,
      .certificateAvailable (sampleHook .raises) sampleCertificate,
      .configChanged (sampleHook .written)]
    (fun s => decide (s.container = ⟨some "key", none, none, some true⟩) && !decide (Consistent s))
    rfl (by decide +kernel)
  simp only [Bool.and_eq_true, decide_eq_true_eq, Bool.not_eq_true', decide_eq_false_iff_not] at hp
  obtain ⟨hc, hn⟩ := hp
  exact ⟨s, hs, by rw [hc], by rw [hc], by rw [hc], by rw [hc], hn⟩

/-- The pushes of the retried event return, and TLS is enabled. -/
theorem tls_enabled :
    ∃ s, (machine id).Reach (FindsFiles id) s ∧ s.container.iniTls = some true ∧
      Consistent s := by
  obtain ⟨s, hs, hp⟩ := Machine.exists_reach_of_exec (machine id) (FindsFiles id) sampleUnit
    [.pebbleReady (sampleHook .written), .requestCertificate "key" "csr",
      .certificateAvailable (sampleHook .raises) sampleCertificate,
      .certificateAvailable (sampleHook .written) sampleCertificate,
      .configChanged (sampleHook .written)]
    (fun s => s.container.iniTls = some true) rfl (by decide +kernel)
  exact ⟨s, hs, of_decide_eq_true hp, consistent_of_reach hs⟩

end PgBouncerK8s.Tls
