import PgBouncerK8s.Lib.Machine
import PgBouncerK8s.Lib.RemoveLoop
import PgBouncerK8s.Workload.Tls

/-!
# Certificates

The units of the charm and the leader of a TLS certificates provider:
`PostgreSQLTLS` (`postgresql_tls.py`, lines 88–182), and both sides of the
certificates relation (`TLSCertificatesRequiresV2` and `TLSCertificatesProvidesV2`,
`tls_certificates.py`, v2). A unit puts its certificate signing requests (CSRs)
into its own databag; the provider answers all units of the application in one list of
certificates. The hooks of the units, those of the provider and what the provider's
charm does come in any order.

CSRs and certificates stand without the white space at their ends, which the code
strips wherever it compares or sends them. All requests have `ca: false`. The
charm of the provider answers what it has been asked for at any time, and any number of
times; it can revoke all certificates and remove one. A dispatch whose handler raises
changes nothing. What the secrets of the library add are events at chosen times:
`secret_expired` and `update_status` come at any time, with any outcome of the
comparison with the clock.
-/

namespace PgBouncerK8s.Certificates

open Machine
open Tls (Certificate)

deriving instance DecidableEq for Certificate

/-- What is generated: the `n`-th CSR of a unit, which holds a UUID, and the `k`-th
    certificate of the provider, with its serial number. -/
structure Pki where
  csr : ℕ → ℕ → String
  certificate : ℕ → String
  csr_inj : ∀ {u v m n}, csr u m = csr v n → u = v ∧ m = n
  csr_ne : ∀ u n, csr u n ∉ ["", "None"]
  certificate_inj : ∀ {k l}, certificate k = certificate l → k = l
  certificate_ne : ∀ k, certificate k ∉ ["", "None"]
  certificate_ne_csr : ∀ k u n, certificate k ≠ csr u n

/-- A member of `certificates` in the databag of the provider. -/
structure Entry extends Certificate where
  revoked : Bool
  deriving DecidableEq

/-- A unit: its secrets, `certificate_signing_requests` of its databag, and its
    deferred `certificate_available` events. `related` is whether it has the relation,
    and `keys` are the keys of the CSRs it has generated so far. -/
structure Unit where
  secrets : Databag
  requests : List String
  deferred : List Certificate
  related : Bool
  keys : List String

/-! ## The requirer -/

/-- `_add_requirer_csr` (lines 1551–1576). -/
def addRequirerCsr (csr : String) (requirerCsrs : List String) : List String :=
  if csr ∈ requirerCsrs then requirerCsrs else requirerCsrs ++ [csr]

/-- `_remove_requirer_csr` (lines 1578–1600). -/
def removeRequirerCsr (csr : String) (requirerCsrs : List String) : List String :=
  if requirerCsrs = [] then requirerCsrs else removeLoop (· = csr) requirerCsrs

/-- `request_certificate_renewal` (lines 1639–1662). -/
def requestCertificateRenewal (old new : String) (requirerCsrs : List String) : List String :=
  addRequirerCsr new (removeRequirerCsr old requirerCsrs)

namespace Unit

variable (pki : Pki) (u : ℕ)

/-- `_request_certificate` (`postgresql_tls.py`, lines 92–106), for the action
    `set-tls-private-key` and for `relation-joined`. -/
def requestCertificate (key : String) (x : Unit) : Unit :=
  let csr := pki.csr u x.keys.length
  { x with
    secrets := (x.secrets.set "key" key).set "csr" csr
    requests := if x.related then addRequirerCsr csr x.requests else x.requests
    keys := x.keys ++ [key] }

/-- `_on_tls_relation_broken` (`postgresql_tls.py`, lines 124–132): `update_config` is
    always true. The databag of the unit goes with the relation. -/
def onTlsRelationBroken (x : Unit) : Unit :=
  { x with
    secrets := ((x.secrets.pop "ca").pop "cert").pop "chain"
    requests := []
    related := false }

/-- `_on_certificate_available` (`postgresql_tls.py`, lines 134–161). `pushes` tells of
    the next pushes of the TLS files whether they return; the last argument goes on
    with the rest of them. -/
def onCertificateAvailable (event : Certificate) (s : Unit × List Bool) : Unit × List Bool :=
  let (x, pushes) := s
  if event.certificateSigningRequest ≠ (x.secrets.get "csr").getD "None" then (x, pushes)
  else if event.certificate = "" then ({ x with deferred := x.deferred ++ [event] }, pushes)
  else
    let x := { x with secrets := Tls.storeCertificate event x.secrets }
    if pushes.headD false then (x, pushes.tail)
    else ({ x with deferred := x.deferred ++ [event] }, pushes.tail)

/-- `_on_certificate_expiring` (`postgresql_tls.py`, lines 163–182). A certificate is
    stored only with a key and a CSR. -/
def onCertificateExpiring (certificate : String) (x : Unit) : Unit :=
  if certificate ≠ (x.secrets.get "cert").getD "None" then x
  else match x.secrets.get "key", x.secrets.get "csr" with
    | some key, some oldCsr =>
      let newCsr := pki.csr u x.keys.length
      { x with
        requests := requestCertificateRenewal oldCsr newCsr x.requests
        secrets := x.secrets.set "csr" newCsr
        keys := x.keys ++ [key] }
    | _, _ => x

/-- The loop of `_on_relation_changed` (lines 1766–1829), over an entry of the provider. -/
def onProviderCertificate (requirerCsrs : List String) (s : Unit × List Bool) (entry : Entry) :
    Unit × List Bool :=
  if entry.certificateSigningRequest ∈ requirerCsrs then
    if entry.revoked then (s.1.onCertificateExpiring pki u entry.certificate, s.2)
    else onCertificateAvailable entry.toCertificate s
  else s

/-- `_on_relation_changed` (lines 1766–1829). -/
def onRelationChanged (certificates : List Entry) (s : Unit × List Bool) : Unit × List Bool :=
  certificates.foldl (onProviderCertificate pki u s.1.requests) s

/-- A certificate that expires or, if `expired`, has expired (lines 1892–1915 and
    1939–1960): what should revoke it takes the certificate for its CSR. -/
def onExpiry (certificate : String) (expired : Bool) (x : Unit) : Unit :=
  let x := x.onCertificateExpiring pki u certificate
  if expired then { x with requests := removeRequirerCsr certificate x.requests } else x

/-- `_on_secret_expired` (lines 1865–1915) of the secret for a CSR; `expired` is none
    where the certificate cannot be read. -/
def onSecretExpired (certificates : List Entry) (csr : String) (expired : Option Bool) (x : Unit) :
    Unit :=
  match certificates.find? fun entry => entry.certificateSigningRequest = csr, expired with
  | some entry, some expired => x.onExpiry pki u entry.certificate expired
  | _, _ => x

/-- `_on_update_status` (lines 1925–1960), without Juju secrets; `expired` is none for
    the certificates that have time. -/
def onUpdateStatus (certificates : List Entry) (expired : String → Option Bool) (x : Unit) :
    Unit :=
  certificates.foldl (fun x entry => match expired entry.certificate with
    | some expired => x.onExpiry pki u entry.certificate expired
    | none => x) x

/-- The deferred events are emitted again, before the event of the dispatch. -/
def reemit (s : Unit × List Bool) : Unit × List Bool :=
  s.1.deferred.foldl (fun s event => onCertificateAvailable event s)
    ({ s.1 with deferred := [] }, s.2)

end Unit

/-- The events of a unit that the relation is concerned with. -/
inductive Event
  | joined (key : String)
  | changed
  | broken
  | setTlsPrivateKey (key : String)
  | secretExpired (csr : String) (expired : Option Bool)
  | updateStatus (expired : String → Option Bool)
  | other

/-- One dispatch. -/
def Unit.dispatch (pki : Pki) (u : ℕ) (certificates : List Entry) (event : Event)
    (pushes : List Bool) (x : Unit) : Unit :=
  let s := Unit.reemit (x, pushes)
  match event with
  | .joined key | .setTlsPrivateKey key => s.1.requestCertificate pki u key
  | .changed => (Unit.onRelationChanged pki u certificates s).1
  | .broken => s.1.onTlsRelationBroken
  | .secretExpired csr expired =>
    if s.1.related then s.1.onSecretExpired pki u certificates csr expired else s.1
  | .updateStatus expired =>
    if s.1.related then s.1.onUpdateStatus pki u certificates expired else s.1
  | .other => s.1

/-- The events that only a unit with the relation gets. -/
def Event.needsRelation : Event → Bool
  | joined _ | changed | broken => true
  | _ => false

/-- The key for the next CSR: without one `generate_csr` raises. -/
def Event.key : Event → Option String
  | joined key | setTlsPrivateKey key => some key
  | _ => none

/-! ## The provider -/

/-- `_add_certificate` (lines 1101–1142). -/
def addCertificate (new : Certificate) (certificates : List Entry) : List Entry :=
  if ⟨new, false⟩ ∈ certificates then certificates else certificates ++ [⟨new, false⟩]

/-- `set_relation_certificate` (lines 1209–1246), with `_remove_certificate` (lines
    1144–1179) of a CSR. -/
def setRelationCertificate (new : Certificate) (certificates : List Entry) : List Entry :=
  addCertificate new (removeLoop
    (fun entry => entry.certificateSigningRequest = new.certificateSigningRequest) certificates)

/-- `remove_certificate` (lines 1248–1261), with `_remove_certificate` of a certificate. -/
def removeCertificate (certificate : String) (certificates : List Entry) : List Entry :=
  removeLoop (fun entry => entry.certificate = certificate) certificates

/-- `revoke_all_certificates` (lines 1197–1207). -/
def revokeAllCertificates (certificates : List Entry) : List Entry :=
  certificates.map fun entry => { entry with revoked := true }

/-- `_revoke_certificates_for_which_no_csr_exists` (lines 1347–1379). -/
def revokeCertificatesForWhichNoCsrExists (listOfCsrs : List String) (certificates : List Entry) :
    List Entry :=
  certificates.foldl (fun kept entry =>
    if entry.certificateSigningRequest ∉ listOfCsrs then removeCertificate entry.certificate kept
    else kept) certificates

/-! ## The machine -/

/-- The units, the databag of the provider, the CSRs for which its charm has got a
    `certificate_creation_request`, and all certificates it has issued. A unit is `pending` when the
    provider's databag has changed since its last `relation-changed`, and `outdated`
    when its own has since that of the provider. -/
structure World where
  units : ℕ → Unit
  certificates : List Entry
  asked : List String
  issued : List Certificate
  pending : ℕ → Bool
  outdated : ℕ → Bool

/-- `provide u` is the provider's `relation-changed` for the unit, `issue` a call of
    `set_relation_certificate`. -/
inductive Action
  | relate
  | dispatch (u : ℕ) (event : Event) (pushes : List Bool)
  | provide (u : ℕ)
  | issue (csr ca : String) (chain : List String)
  | revokeAll
  | remove (certificate : String)

namespace World

/-- The databag of the provider is written. -/
def setCertificates (w : World) (certificates : List Entry) : World :=
  { w with
    certificates := certificates
    pending := fun v => w.pending v || decide (certificates ≠ w.certificates) }

/-- The CSRs in the databags of all units. -/
def listOfCsrs (units : ℕ) (w : World) : List String :=
  (List.range units).flatMap fun v => (w.units v).requests

/-- A hook of a unit. -/
def dispatch (pki : Pki) (w : World) (u : ℕ) (event : Event) (pushes : List Bool) : World :=
  let x := (w.units u).dispatch pki u w.certificates event pushes
  { w with
    units := Function.update w.units u x
    pending := match event with
      | .changed => Function.update w.pending u false
      | _ => w.pending
    outdated := Function.update w.outdated u
      (w.outdated u || decide (x.requests ≠ (w.units u).requests)) }

/-- `_on_relation_changed` of the provider (lines 1300–1345): without the field
    `certificate_signing_requests` the data is not valid. -/
def provide (units : ℕ) (w : World) (u : ℕ) : World :=
  let requirerCsrs := (w.units u).requests
  let w := { w with outdated := Function.update w.outdated u false }
  if requirerCsrs = [] then w
  else
    let providerCsrs := w.certificates.map fun entry => entry.certificateSigningRequest
    { w with asked := w.asked ++ requirerCsrs.filter (· ∉ providerCsrs) }.setCertificates
      (revokeCertificatesForWhichNoCsrExists (w.listOfCsrs units) w.certificates)

/-- The provider's charm answers a request. -/
def issue (pki : Pki) (w : World) (csr ca : String) (chain : List String) : World :=
  let new : Certificate := ⟨csr, pki.certificate w.issued.length, ca, some chain⟩
  { w with issued := w.issued ++ [new] }.setCertificates (setRelationCertificate new w.certificates)

end World

/-- A step of an application with the given number of units. -/
def step (pki : Pki) (units : ℕ) (w : World) : Action → Option World
  | .relate =>
    if ∀ u < units, (w.units u).related = false then
      some { w with
        units := fun u => if u < units then { w.units u with related := true } else w.units u
        certificates := []
        asked := []
        pending := fun _ => false
        outdated := fun _ => false }
    else none
  | .dispatch u event pushes =>
    if u < units ∧ (event.needsRelation = true → (w.units u).related = true) ∧
        event.key ≠ some "" then
      some (w.dispatch pki u event pushes)
    else none
  | .provide u =>
    if u < units ∧ (w.units u).related = true then some (w.provide units u) else none
  | .issue csr ca chain => if csr ∈ w.asked then some (w.issue pki csr ca chain) else none
  | .revokeAll => some (w.setCertificates (revokeAllCertificates w.certificates))
  | .remove certificate => some (w.setCertificates (removeCertificate certificate w.certificates))

/-- The charm is deployed. -/
structure Initial (w : World) : Prop where
  units : w.units = fun _ => ⟨Databag.empty, [], [], false, []⟩
  certificates : w.certificates = []
  asked : w.asked = []
  issued : w.issued = []

def machine (pki : Pki) (units : ℕ) : Machine World Action where
  init := Initial
  step := step pki units

end PgBouncerK8s.Certificates
