import Mathlib.Data.List.NodupEquivFin
import PgBouncerK8s.Certificates.Removal

/-!
# Renewals without an end

`relation-changed` walks the entries of the provider in their order. Where the stored
certificate has been revoked, the walk renews the CSR before it comes to the answer to the
last one, which stands further back.

* `livelock_of_exec`: a unit that has already asked for another certificate when its own is
  revoked keeps the revoked one, and every `relation-changed` asks for one more.

The entries of the provider stand in the order in which they were issued
(`World.Ordered`). The certificate that a unit has is older than all answers to a later CSR, so
that the walk always comes to it first.
-/

namespace PgBouncerK8s.Certificates

open Machine
open Tls (Certificate)

variable {pki : Pki} {u v units : ℕ} {x y : Unit} {w w' : World} {a : Entry}

/-- The entry stands before all entries for the CSR. -/
def Before (a : Entry) (csr : String) (certificates : List Entry) : Prop :=
  ∃ pre post, certificates = pre ++ a :: post ∧
    ∀ entry ∈ pre, entry.certificateSigningRequest ≠ csr

namespace Before

variable {csr : String} {certificates : List Entry}

theorem filter (h : Before a csr certificates) {p : Entry → Bool} (ha : p a = true) :
    Before a csr (certificates.filter p) := by
  obtain ⟨pre, post, rfl, hpre⟩ := h
  refine ⟨pre.filter p, post.filter p, ?_, fun entry hm => hpre entry (List.mem_of_mem_filter hm)⟩
  rw [List.filter_append, List.filter_cons, if_pos ha]

theorem append (h : Before a csr certificates) (l : List Entry) :
    Before a csr (certificates ++ l) := by
  obtain ⟨pre, post, rfl, hpre⟩ := h
  exact ⟨pre, post ++ l, by simp, hpre⟩

theorem revokeAll (h : Before a csr certificates) (ha : a.revoked = true) :
    Before a csr (revokeAllCertificates certificates) := by
  obtain ⟨pre, post, rfl, hpre⟩ := h
  refine ⟨revokeAllCertificates pre, revokeAllCertificates post, ?_, fun entry hm => ?_⟩
  · simp only [revokeAllCertificates, List.map_append, List.map_cons, ← ha]
  · obtain ⟨old, hold, rfl⟩ := List.mem_map.mp hm
    exact hpre old hold

end Before

/-! ## The order of the answers -/

namespace Unit

/-- The stored certificate answers the current CSR, or it is older than all answers to the current
    CSR and none of these is deferred. -/
def Placed (issued : List Certificate) (x : Unit) : Prop :=
  ∀ certificate, x.secrets.get "cert" = some certificate →
    ∃ (i : ℕ) (e : Certificate), issued[i]? = some e ∧ e.certificate = certificate ∧
      (e.certificateSigningRequest = x.csr ∨ x.awaited = [] ∧
        ∀ (j : ℕ) (f : Certificate), issued[j]? = some f →
          f.certificateSigningRequest = x.csr → i < j)

variable {m : ℕ} {issued issued' : List Certificate}

/-- A new CSR has no answers yet. -/
theorem Placed.fresh (h : x.Placed issued) (hcert : y.secrets.get "cert" = x.secrets.get "cert")
    (hfresh : y.Fresh pki u m) (hdeferred : ∀ e ∈ y.deferred, e ∈ issued)
    (hold : ∀ e ∈ issued, Old pki u m e.certificateSigningRequest) : y.Placed issued := by
  intro certificate hc
  obtain ⟨i, e, hi, he, -⟩ := h certificate (hcert ▸ hc)
  refine ⟨i, e, hi, he, .inr ⟨hfresh.awaited fun e he => hold e (hdeferred e he), ?_⟩⟩
  intro j f hj hf
  exact absurd hf (hfresh.ne (hold f (List.mem_of_getElem? hj)))

/-- What is issued later comes later. -/
theorem Placed.mono (h : x.Placed issued) (hissued : issued <+: issued') : x.Placed issued' := by
  intro certificate hc
  obtain ⟨i, e, hi, he, hplaced⟩ := h certificate hc
  obtain ⟨l, rfl⟩ := hissued
  have hlt : i < issued.length := (List.getElem?_eq_some_iff.mp hi).1
  refine ⟨i, e, (List.getElem?_append_left hlt).trans hi, he, hplaced.imp_right ?_⟩
  rintro ⟨hawaited, hlater⟩
  refine ⟨hawaited, fun j f hj hf => ?_⟩
  by_cases hjl : j < issued.length
  · exact hlater j f ((List.getElem?_append_left hjl).symm.trans hj) hf
  · omega

theorem Placed.dispatch {certificates : List Entry} {event : Event} (h : x.Placed issued)
    (hold : ∀ e ∈ issued, Old pki u x.keys.length e.certificateSigningRequest)
    (hevents : ∀ e, (e ∈ x.deferred ∨ ∃ entry ∈ certificates,
      entry.revoked = false ∧ entry.toCertificate = e) → e ∈ issued ∧ e.certificate ≠ "")
    (pushes : List Bool) : (x.dispatch pki u certificates event pushes).Placed issued := by
  refine (dispatch_rule (I := fun y => x.keys.length ≤ y.keys.length ∧
      (∀ e ∈ y.deferred, e ∈ issued) ∧ y.Placed issued)
    ⟨le_rfl, (fun e he => by cases he), ?_⟩ (fun event hm s hs => ?_) (fun entry _ y hy => ?_)
    (fun _ _ _ hy => hy) (fun key _ y hy => ?_) (fun _ y hy => ?_)).2.2
  · intro certificate hc
    obtain ⟨i, e, hi, he, hplaced⟩ := h certificate hc
    exact ⟨i, e, hi, he, hplaced.imp_right fun hlater => ⟨rfl, hlater.2⟩⟩
  · obtain ⟨hissued, hne⟩ := hevents event hm
    have hdeferred : ∀ e ∈ (onCertificateAvailable event s).1.deferred, e ∈ issued := fun e he =>
      (deferred_available event s e he).elim (hs.2.1 e) fun heq => heq ▸ hissued
    have hcsr' := csr_available event s
    refine ⟨(sameRequests_available event s).keys ▸ hs.1, hdeferred, ?_⟩
    obtain ⟨-, he⟩ | ⟨-, hnil, -⟩ | ⟨hcsr, -, he⟩ := onCertificateAvailable_cases event s
    · rw [he]
      exact hs.2.2
    · exact absurd hnil hne
    · intro certificate hc
      rw [he] at hc
      obtain ⟨i, hi⟩ := List.getElem?_of_mem hissued
      refine ⟨i, event, hi, ?_, .inl (hcsr.trans hcsr'.symm)⟩
      exact Option.some.inj ((get_cert_storeCertificate event _ hne).symm.trans hc)
  · have hkeys : x.keys.length ≤ (y.onCertificateExpiring pki u entry.certificate).keys.length :=
      hy.1.trans (length_keys_onCertificateExpiring _ _)
    have hdeferred : ∀ e ∈ (y.onCertificateExpiring pki u entry.certificate).deferred,
        e ∈ issued := by
      rw [deferred_onCertificateExpiring]
      exact hy.2.1
    refine ⟨hkeys, hdeferred, ?_⟩
    obtain he | ⟨key, oldCsr, -, -, -, he⟩ :=
      onCertificateExpiring_cases pki u entry.certificate y
    · rw [he]
      exact hy.2.2
    · rw [he] at hdeferred ⊢
      exact hy.2.2.fresh (Databag.get_set_of_ne _ (by decide) _)
        ⟨y.keys.length, hy.1, Sound.get_set_csr _ _⟩ hdeferred hold
  · refine ⟨hy.1.trans (by simp [requestCertificate]), hy.2.1, ?_⟩
    refine hy.2.2.fresh ?_ ⟨y.keys.length, hy.1, Sound.get_set_csr _ _⟩ hy.2.1 hold
    exact (Databag.get_set_of_ne _ (by decide) _).trans (Databag.get_set_of_ne _ (by decide) _)
  · refine ⟨hy.1, hy.2.1, fun certificate hc => ?_⟩
    have hnone : y.onTlsRelationBroken.secrets.get "cert" = none := rfl
    rw [hnone] at hc
    cases hc

/-- A unit with a CSR has a key. -/
def Keyed (x : Unit) : Prop := x.keys ≠ [] → ∃ key, x.secrets.get "key" = some key

theorem Keyed.dispatch {certificates : List Entry} {event : Event} (h : x.Keyed)
    (hkey : event.key ≠ some "") (pushes : List Bool) :
    (x.dispatch pki u certificates event pushes).Keyed := by
  refine dispatch_rule (I := Keyed) h (fun event _ s hs => ?_) (fun entry _ y hy => ?_)
    (fun _ _ _ hy => hy) (fun key he y _ _ => ⟨key, ?_⟩) (fun _ _ hy => hy)
  · have hsame := sameRequests_available event s
    unfold Keyed
    rw [hsame.keys, hsame.key]
    exact hs
  · obtain he | ⟨key, oldCsr, -, hget, -, he⟩ :=
      onCertificateExpiring_cases pki u entry.certificate y
    · rw [he]
      exact hy
    · rw [he]
      exact fun _ => ⟨key, (Databag.get_set_of_ne _ (by decide) _).trans hget⟩
  · have hne : key ≠ "" := by
      rintro rfl
      rcases he with rfl | rfl <;> exact hkey rfl
    refine (Databag.get_set_of_ne _ (by decide) _).trans ?_
    rw [Databag.get_set, if_pos rfl, if_neg hne]

end Unit

/-- The entries of the provider stand in the order in which they were issued. -/
structure World.Ordered (pki : Pki) (units : ℕ) (w : World) : Prop extends w.Sound pki units where
  sublist : (w.certificates.map Entry.toCertificate).Sublist w.issued
  placed : ∀ u, (w.units u).Placed w.issued
  keyed : ∀ u, (w.units u).Keyed

theorem sublist_step {action : Action} (h : w.Sound pki units)
    (hsublist : (w.certificates.map Entry.toCertificate).Sublist w.issued)
    (hs : (machine pki units).step w action = some w') :
    (w'.certificates.map Entry.toCertificate).Sublist w'.issued := by
  have hfilter : ∀ p : Entry → Bool,
      ((w.certificates.filter p).map Entry.toCertificate).Sublist w.issued :=
    fun p => (List.filter_sublist.map _).trans hsublist
  cases action with
  | relate =>
    obtain ⟨-, hs⟩ := Option.ite_none_right_eq_some.mp hs
    cases hs
    exact List.nil_sublist _
  | dispatch v event pushes =>
    obtain ⟨-, hs⟩ := Option.ite_none_right_eq_some.mp hs
    cases hs
    exact hsublist
  | provide v =>
    obtain ⟨-, hs⟩ := Option.ite_none_right_eq_some.mp hs
    cases hs
    unfold World.provide
    simp only
    split_ifs
    · exact hsublist
    · rw [revokeCertificates_eq _ h.nodup_certificate]
      exact hfilter _
  | issue csr ca chain =>
    obtain ⟨-, hs⟩ := Option.ite_none_right_eq_some.mp hs
    cases hs
    simp only [World.issue, World.setCertificates]
    rw [setRelationCertificate_eq _ h.nodup, List.map_append]
    exact (hfilter _).append (List.Sublist.refl _)
  | revokeAll =>
    cases hs
    simp only [World.setCertificates, revokeAllCertificates]
    rw [List.map_map]
    exact hsublist
  | remove certificate =>
    cases hs
    simp only [World.setCertificates]
    rw [removeCertificate_eq h.nodup_certificate]
    exact hfilter _

namespace World.Ordered

theorem of_initial (h : Initial w) : w.Ordered pki units where
  toSound := .of_initial h
  sublist := by simp [h.certificates]
  placed u certificate hc := by simp [h.units, Databag.empty] at hc
  keyed u hne := absurd (by rw [h.units]) hne

theorem step {action : Action} (h : w.Ordered pki units)
    (hs : (machine pki units).step w action = some w') : w'.Ordered pki units where
  toSound := h.toSound.step hs
  sublist := sublist_step h.toSound h.sublist hs
  placed u := by
    refine Unit.Placed.mono ?_ (issued_step hs)
    obtain ⟨event, pushes, rfl, -, he⟩ | he | he := unit_step hs u
    · rw [he]
      refine (h.placed u).dispatch (fun e hm => (h.issued e hm).old u) (fun e hm => ?_) pushes
      have hissued : e ∈ w.issued := by
        obtain hm | ⟨entry, hm, -, rfl⟩ := hm
        · exact h.deferred u e hm
        · exact h.entries entry hm
      exact ⟨hissued, h.certificate_ne hissued⟩
    · rw [he]
      exact h.placed u
    · rw [he]
      exact h.placed u
  keyed u := by
    obtain ⟨event, pushes, rfl, -, he⟩ | he | he := unit_step hs u
    · obtain ⟨⟨-, -, hkey⟩, -⟩ := Option.ite_none_right_eq_some.mp hs
      rw [he]
      exact (h.keyed u).dispatch hkey pushes
    · rw [he]
      exact h.keyed u
    · rw [he]
      exact h.keyed u

end World.Ordered

theorem ordered_of_reach (h : (machine pki units).Reach always w) : w.Ordered pki units :=
  h.invariant (fun _ hs => .of_initial hs) fun _ _ _ _ hs _ ha => hs.step ha

/-! ## One unit -/

def Event.isChanged : Event → Bool
  | changed => true
  | _ => false

namespace Unit

/-- The unit has the certificate of the entry, but has asked for another one since. -/
structure Overtaken (a : Entry) (certificates : List Entry) (x : Unit) : Prop where
  cert : x.secrets.get "cert" = some a.certificate
  key : ∃ key, x.secrets.get "key" = some key
  sent : a.certificateSigningRequest ∈ x.requests
  ne : a.certificateSigningRequest ≠ x.csr
  awaited : x.awaited = []
  before : Before a x.csr certificates

/-- The handlers of a dispatch, after the deferred events. -/
structure Waiting (pki : Pki) (u : ℕ) (a : Entry) (x y : Unit) : Prop where
  sound : y.Sound pki u
  related : y.related = true
  deferred : y.deferred = []
  cert : y.secrets.get "cert" = some a.certificate
  key : ∃ key, y.secrets.get "key" = some key
  sent : a.certificateSigningRequest ∈ y.requests
  ne : a.certificateSigningRequest ≠ y.csr
  csr : y.csr = x.csr ∨ y.Fresh pki u x.keys.length
  keys : x.keys.length ≤ y.keys.length

theorem Overtaken.related {certificates : List Entry} (h : x.Overtaken a certificates)
    (hsound : x.Sound pki u) : x.related = true := by
  by_contra hr
  have hsent := h.sent
  rw [hsound.unrelated (Bool.not_eq_true _ ▸ hr)] at hsent
  cases hsent

theorem Overtaken.waiting {certificates : List Entry} (h : x.Overtaken a certificates)
    (hsound : x.Sound pki u) : Waiting pki u a x { x with deferred := [] } where
  sound := hsound.congr rfl rfl rfl rfl rfl
  related := h.related hsound
  deferred := rfl
  cert := h.cert
  key := h.key
  sent := h.sent
  ne := h.ne
  csr := .inl rfl
  keys := le_rfl

/-- What has been sent is not the next CSR. -/
theorem Sound.ne_next (h : x.Sound pki u) {r : String} (hr : r ∈ x.requests) :
    r ≠ pki.csr u x.keys.length := by
  obtain ⟨n, hn, rfl⟩ := h.own r hr
  intro he
  exact hn.ne (pki.csr_inj he).2

theorem Waiting.onCertificateExpiring (h : Waiting pki u a x y) (certificate : String) :
    Waiting pki u a x (y.onCertificateExpiring pki u certificate) := by
  have hsound := h.sound.onCertificateExpiring h.related certificate
  obtain he | ⟨key, oldCsr, -, hkey, hcsr, he⟩ := onCertificateExpiring_cases pki u certificate y
  · rw [he]
    exact h
  · have hold : a.certificateSigningRequest ≠ oldCsr := by
      have hne := h.ne
      unfold Unit.csr at hne
      rwa [hcsr] at hne
    rw [he] at hsound ⊢
    constructor
    case sound => exact hsound
    case related => exact h.related
    case deferred => exact h.deferred
    case cert => exact (Databag.get_set_of_ne _ (by decide) _).trans h.cert
    case key => exact ⟨key, (Databag.get_set_of_ne _ (by decide) _).trans hkey⟩
    case sent =>
      refine mem_addRequirerCsr.mpr (.inl ?_)
      rw [removeRequirerCsr_eq h.sound.nodup]
      exact List.mem_filter.mpr ⟨h.sent, decide_eq_true hold⟩
    case ne =>
      unfold Unit.csr
      rw [Sound.get_set_csr]
      exact h.sound.ne_next h.sent
    case csr => exact .inr ⟨_, h.keys, Sound.get_set_csr _ _⟩
    case keys => exact h.keys.trans (by simp)

theorem Waiting.onExpiry (h : Waiting pki u a x y) {certificate : String}
    (hcert : ∀ n, certificate ≠ pki.csr u n) (expired : Bool) :
    Waiting pki u a x (y.onExpiry pki u certificate expired) := by
  refine onExpiry_rule (I := fun y => Waiting pki u a x y)
    (fun y hy => hy.onCertificateExpiring certificate) (fun y hy => ?_) h
  rw [removeRequirerCsr_eq_self hy.sound hcert]
  exact hy

theorem Waiting.requestCertificate (h : Waiting pki u a x y) {key : String} (hkey : key ≠ "") :
    Waiting pki u a x (y.requestCertificate pki u key) where
  sound := h.sound.requestCertificate key
  related := h.related
  deferred := h.deferred
  cert := (Databag.get_set_of_ne _ (by decide) _).trans
    ((Databag.get_set_of_ne _ (by decide) _).trans h.cert)
  key := by
    refine ⟨key, (Databag.get_set_of_ne _ (by decide) _).trans ?_⟩
    rw [Databag.get_set, if_pos rfl, if_neg hkey]
  sent := by
    unfold Unit.requestCertificate
    simp only [h.related, if_true]
    exact mem_addRequirerCsr.mpr (.inl h.sent)
  ne := by
    unfold Unit.csr Unit.requestCertificate
    rw [Sound.get_set_csr]
    exact h.sound.ne_next h.sent
  csr := .inr ⟨_, h.keys, Sound.get_set_csr _ _⟩
  keys := h.keys.trans (by simp [Unit.requestCertificate])

/-- An entry that is neither for the current CSR nor the stored certificate. -/
theorem onProviderCertificate_of_ne {requirerCsrs : List String} {entry : Entry}
    {s : Unit × List Bool} (hcsr : entry.certificateSigningRequest ≠ s.1.csr)
    (hcert : s.1.secrets.get "cert" = some a.certificate)
    (hne : entry.certificate ≠ a.certificate) :
    onProviderCertificate pki u requirerCsrs s entry = s := by
  unfold onProviderCertificate
  split_ifs
  · have hunknown : s.1.onCertificateExpiring pki u entry.certificate = s.1 := by
      unfold Unit.onCertificateExpiring
      rw [hcert, Option.getD_some, if_pos hne]
    rw [hunknown]
  · exact onCertificateAvailable_of_ne hcsr
  · rfl

theorem foldl_onProviderCertificate_of_ne {requirerCsrs : List String} {l : List Entry}
    {s : Unit × List Bool} (hcert : s.1.secrets.get "cert" = some a.certificate)
    (h : ∀ entry ∈ l, entry.certificateSigningRequest ≠ s.1.csr ∧
      entry.certificate ≠ a.certificate) :
    l.foldl (onProviderCertificate pki u requirerCsrs) s = s := by
  refine List.foldlRecOn (motive := fun t => t = s) _ _ rfl fun t ht entry hm => ?_
  rw [ht]
  exact onProviderCertificate_of_ne (h entry hm).1 hcert (h entry hm).2

/-- The walk renews the CSR, and does nothing else. -/
theorem Waiting.onRelationChanged (h : Waiting pki u a x y) (hsame : y.csr = x.csr)
    (hkeys : y.keys = x.keys) {certificates : List Entry} (hbefore : Before a x.csr certificates)
    (hrevoked : a.revoked = true)
    (hold : ∀ entry ∈ certificates, Old pki u x.keys.length entry.certificateSigningRequest)
    (hnodup : (certificates.map fun entry => entry.certificate).Nodup) (pushes : List Bool) :
    Waiting pki u a x (onRelationChanged pki u certificates (y, pushes)).1 ∧
      (onRelationChanged pki u certificates (y, pushes)).1.keys.length = x.keys.length + 1 := by
  obtain ⟨pre, post, rfl, hpre⟩ := hbefore
  obtain ⟨key, hkey⟩ := h.key
  have hunknown : ∀ entry, entry ∈ pre ∨ entry ∈ post → entry.certificate ≠ a.certificate := by
    rw [List.map_append, List.map_cons, List.nodup_middle, List.nodup_cons] at hnodup
    intro entry hm he
    refine hnodup.1 (he ▸ ?_)
    rw [← List.map_append]
    exact List.mem_map_of_mem (List.mem_append.mpr hm)
  obtain ⟨c, hc, hcsr⟩ := h.sound.current (List.ne_nil_of_mem h.sent)
  have hrenewed : y.onCertificateExpiring pki u a.certificate = { y with
      requests := requestCertificateRenewal c (pki.csr u y.keys.length) y.requests
      secrets := y.secrets.set "csr" (pki.csr u y.keys.length)
      keys := y.keys ++ [key] } := by
    unfold Unit.onCertificateExpiring
    rw [h.cert, hkey, hcsr, Option.getD_some, if_neg (not_not.mpr rfl)]
  have hwaiting := h.onCertificateExpiring a.certificate
  have hfresh : (y.onCertificateExpiring pki u a.certificate).Fresh pki u x.keys.length := by
    rw [hrenewed]
    exact ⟨y.keys.length, h.keys, Sound.get_set_csr _ _⟩
  have hwalk : Unit.onRelationChanged pki u (pre ++ a :: post) (y, pushes) =
      (y.onCertificateExpiring pki u a.certificate, pushes) := by
    unfold Unit.onRelationChanged
    rw [List.foldl_append, List.foldl_cons, foldl_onProviderCertificate_of_ne h.cert
      fun entry hm => ⟨hsame ▸ hpre entry hm, hunknown entry (.inl hm)⟩]
    unfold onProviderCertificate
    rw [if_pos h.sent, if_pos hrevoked]
    refine foldl_onProviderCertificate_of_ne hwaiting.cert fun entry hm =>
      ⟨hfresh.ne (hold entry ?_), hunknown entry (.inr hm)⟩
    exact List.mem_append_right _ (List.mem_cons_of_mem _ hm)
  rw [hwalk]
  refine ⟨hwaiting, ?_⟩
  rw [hrenewed]
  simp [hkeys]

/-- A dispatch; `relation-changed` makes a new CSR. -/
theorem Overtaken.dispatch {certificates : List Entry} (h : x.Overtaken a certificates)
    (hsound : x.Sound pki u) (hrevoked : a.revoked = true) {event : Event}
    (hevent : event ≠ .broken) (hkey : event.key ≠ some "")
    (hentries : ∀ entry ∈ certificates,
      Old pki u x.keys.length entry.certificateSigningRequest ∧
        ∀ n, entry.certificate ≠ pki.csr u n)
    (hnodup : (certificates.map fun entry => entry.certificate).Nodup) (pushes : List Bool) :
    Waiting pki u a x (x.dispatch pki u certificates event pushes) ∧
      x.keys.length + (if event.isChanged then 1 else 0) ≤
        (x.dispatch pki u certificates event pushes).keys.length := by
  have hwaiting := h.waiting hsound
  have hexpiry : ∀ entry ∈ certificates, ∀ b y, Waiting pki u a x y →
      Waiting pki u a x (y.onExpiry pki u entry.certificate b) :=
    fun entry hm b y hy => hy.onExpiry (hentries entry hm).2 b
  have hother : ∀ y, Waiting pki u a x y →
      Waiting pki u a x y ∧ x.keys.length + 0 ≤ y.keys.length := fun y hy => ⟨hy, hy.keys⟩
  unfold Unit.dispatch
  rw [reemit_of_awaited h.awaited]
  cases event with
  | joined key => exact hother _ (hwaiting.requestCertificate fun he => hkey (he ▸ rfl))
  | setTlsPrivateKey key => exact hother _ (hwaiting.requestCertificate fun he => hkey (he ▸ rfl))
  | changed =>
    obtain ⟨hwalked, hkeys⟩ := hwaiting.onRelationChanged rfl rfl h.before hrevoked
      (fun entry hm => (hentries entry hm).1) hnodup pushes
    exact ⟨hwalked, hkeys.ge⟩
  | broken => exact absurd rfl hevent
  | secretExpired csr expired =>
    refine hother _ ?_
    simp only
    split_ifs
    · exact onSecretExpired_rule (I := fun y => Waiting pki u a x y) hexpiry hwaiting
    · exact hwaiting
  | updateStatus expired =>
    refine hother _ ?_
    simp only
    split_ifs
    · exact onUpdateStatus_rule (I := fun y => Waiting pki u a x y) hexpiry hwaiting
    · exact hwaiting
  | other => exact hother _ hwaiting

/-- No entry is for a new CSR. -/
theorem Waiting.overtaken {certificates : List Entry} (h : Waiting pki u a x y)
    (hbefore : Before a x.csr certificates)
    (hold : ∀ entry ∈ certificates, Old pki u x.keys.length entry.certificateSigningRequest) :
    y.Overtaken a certificates where
  cert := h.cert
  key := h.key
  sent := h.sent
  ne := h.ne
  awaited := by
    unfold awaited
    rw [h.deferred]
    rfl
  before := by
    obtain he | hfresh := h.csr
    · exact he ▸ hbefore
    · obtain ⟨pre, post, rfl, -⟩ := hbefore
      exact ⟨pre, post, rfl, fun entry hm => hfresh.ne (hold entry (List.mem_append_left _ hm))⟩

end Unit

/-! ## All parties -/

/-- The unit keeps the relation, and the provider neither answers the CSR of the entry again nor
    removes its certificate. -/
def Unaided (u : ℕ) (a : Entry) (_ : World) : Action → Prop
  | .dispatch v .broken _ => v ≠ u
  | .issue csr _ _ => csr ≠ a.certificateSigningRequest
  | .remove certificate => certificate ≠ a.certificate
  | _ => True

instance (u : ℕ) (a : Entry) (w : World) : (action : Action) → Decidable (Unaided u a w action)
  | .dispatch v .broken _ => inferInstanceAs (Decidable (v ≠ u))
  | .issue csr _ _ => inferInstanceAs (Decidable (csr ≠ a.certificateSigningRequest))
  | .remove certificate => inferInstanceAs (Decidable (certificate ≠ a.certificate))
  | .dispatch _ (.joined _) _ | .dispatch _ .changed _ | .dispatch _ (.setTlsPrivateKey _) _
  | .dispatch _ (.secretExpired _ _) _ | .dispatch _ (.updateStatus _) _ | .dispatch _ .other _
  | .relate | .provide _ | .revokeAll => inferInstanceAs (Decidable True)

/-- A hook `relation-changed` of the unit. -/
def Action.changes (u : ℕ) : Action → Bool
  | .dispatch v event _ => v == u && event.isChanged
  | _ => false

theorem Unit.Overtaken.of_before {certificates certificates' : List Entry}
    (h : x.Overtaken a certificates) (hbefore : Before a x.csr certificates') :
    x.Overtaken a certificates' :=
  { h with before := hbefore }

theorem overtaken_step {action : Action} (hrevoked : a.revoked = true) (h : w.Sound pki units)
    (ho : (w.units u).Overtaken a w.certificates) (hg : Unaided u a w action)
    (hs : (machine pki units).step w action = some w') :
    (w'.units u).Overtaken a w'.certificates ∧
      (w.units u).keys.length + (if action.changes u then 1 else 0) ≤
        (w'.units u).keys.length := by
  have hold : ∀ entry ∈ w.certificates,
      Unit.Old pki u (w.units u).keys.length entry.certificateSigningRequest :=
    fun entry hm => (h.issued _ (h.entries entry hm)).old u
  have hrelated := ho.related (h.unit u)
  have hu : u < units := by
    by_contra hout
    rw [h.outside u (Nat.not_lt.mp hout)] at hrelated
    cases hrelated
  cases action with
  | relate =>
    -- only an application without the relation gets one
    obtain ⟨hnone, -⟩ := Option.ite_none_right_eq_some.mp hs
    rw [hnone u hu] at hrelated
    cases hrelated
  | dispatch v event pushes =>
    obtain ⟨⟨-, -, hkey⟩, hs⟩ := Option.ite_none_right_eq_some.mp hs
    cases hs
    simp only [World.dispatch]
    by_cases hv : v = u
    · subst hv
      have hchanges : Action.changes v (.dispatch v event pushes) = event.isChanged := by
        simp [Action.changes]
      have hevent : event ≠ .broken := by
        rintro rfl
        exact hg rfl
      obtain ⟨hwaiting, hkeys⟩ := ho.dispatch (h.unit v) hrevoked hevent hkey
        (fun entry hm => ⟨hold entry hm, h.certificate_ne_csr (h.entries entry hm) v⟩)
        h.nodup_certificate pushes
      rw [Function.update_self, hchanges]
      exact ⟨hwaiting.overtaken ho.before hold, hkeys⟩
    · have hchanges : Action.changes u (.dispatch v event pushes) = false := by
        simp [Action.changes, hv]
      rw [Function.update_of_ne (Ne.symm hv), hchanges]
      exact ⟨ho, le_rfl⟩
  | provide v =>
    obtain ⟨-, hs⟩ := Option.ite_none_right_eq_some.mp hs
    cases hs
    unfold World.provide
    simp only
    by_cases hnil : (w.units v).requests = []
    · rw [if_pos hnil]
      exact ⟨ho, le_rfl⟩
    · rw [if_neg hnil]
      refine ⟨ho.of_before ?_, le_rfl⟩
      simp only [World.setCertificates]
      rw [revokeCertificates_eq _ h.nodup_certificate]
      refine ho.before.filter (decide_eq_true ?_)
      exact List.mem_flatMap.mpr ⟨u, List.mem_range.mpr hu, ho.sent⟩
  | issue csr ca chain =>
    obtain ⟨-, hs⟩ := Option.ite_none_right_eq_some.mp hs
    cases hs
    refine ⟨ho.of_before ?_, le_rfl⟩
    simp only [World.issue, World.setCertificates]
    rw [setRelationCertificate_eq _ h.nodup]
    exact (ho.before.filter (decide_eq_true (Ne.symm hg))).append _
  | revokeAll =>
    cases hs
    exact ⟨ho.of_before (ho.before.revokeAll hrevoked), le_rfl⟩
  | remove certificate =>
    cases hs
    refine ⟨ho.of_before ?_, le_rfl⟩
    simp only [World.setCertificates]
    rw [removeCertificate_eq h.nodup_certificate]
    exact ho.before.filter (decide_eq_true (Ne.symm hg))

/-- The entry that stands first was issued first. -/
theorem World.Ordered.issued_before (h : w.Ordered pki units) {pre post : List Entry}
    (hl : w.certificates = pre ++ a :: post) {entry : Entry} (hm : entry ∈ pre) :
    ∃ j k : ℕ, w.issued[j]? = some entry.toCertificate ∧ w.issued[k]? = some a.toCertificate ∧
      j < k := by
  obtain ⟨place, hplace⟩ := List.sublist_iff_exists_orderEmbedding_getElem?_eq.mp h.sublist
  rw [hl, List.map_append, List.map_cons] at hplace
  obtain ⟨p, hp⟩ := List.getElem?_of_mem (List.mem_map_of_mem (f := Entry.toCertificate) hm)
  have hlt : p < (pre.map Entry.toCertificate).length := (List.getElem?_eq_some_iff.mp hp).1
  refine ⟨place p, place (pre.map Entry.toCertificate).length, ?_, ?_, place.lt_iff_lt.mpr hlt⟩
  · rw [← hplace, List.getElem?_append_left hlt, hp]
  · rw [← hplace, List.getElem?_append_right le_rfl, Nat.sub_self, List.getElem?_cons_zero]

/-- A certificate that was issued before the current CSR was sent stands before its answers. -/
theorem World.Ordered.overtaken (h : w.Ordered pki units) (ha : a ∈ w.certificates)
    (hcert : (w.units u).secrets.get "cert" = some a.certificate)
    (hsent : a.certificateSigningRequest ∈ (w.units u).requests)
    (hne : a.certificateSigningRequest ≠ (w.units u).csr) :
    (w.units u).Overtaken a w.certificates := by
  obtain ⟨i, e, hi, he, hplaced⟩ := h.placed u a.certificate hcert
  have hindex : ∀ j, w.issued[j]? = some a.toCertificate → j = i := by
    intro j hj
    refine pki.certificate_inj ?_
    rw [← h.text j _ hj, ← h.text i e hi, he]
  obtain ⟨k, hk⟩ := List.getElem?_of_mem (h.entries a ha)
  obtain rfl := hindex k hk
  obtain rfl := Option.some.inj (hk.symm.trans hi)
  obtain ⟨hawaited, hlater⟩ := hplaced.resolve_left hne
  have hkeys : (w.units u).keys ≠ [] := by
    obtain ⟨n, hn, -⟩ := (h.unit u).own _ hsent
    exact List.ne_nil_of_length_pos (Nat.zero_lt_of_lt hn)
  obtain ⟨pre, post, hl⟩ := List.append_of_mem ha
  refine ⟨hcert, h.keyed u hkeys, hsent, hne, hawaited, pre, post, hl, fun entry hm hcsr => ?_⟩
  obtain ⟨j, k', hj, hk', hlt⟩ := h.issued_before hl hm
  have hle := hlater j _ hj hcsr
  rw [hindex k' hk'] at hlt
  exact absurd hlt hle.not_gt

/-- A unit has the certificate of the entry, and has asked for another one since. When the entry is
    revoked, and as long as the provider does not come back to it, the unit keeps its revoked
    certificate, whatever else is answered, and sends a CSR for each `relation-changed`. -/
theorem livelock_of_exec {l : List Action} (hw : (machine pki units).Reach always w)
    (ha : a ∈ w.certificates) (hrevoked : a.revoked = true)
    (hcert : (w.units u).secrets.get "cert" = some a.certificate)
    (hsent : a.certificateSigningRequest ∈ (w.units u).requests)
    (hne : a.certificateSigningRequest ≠ (w.units u).csr)
    (hl : (machine pki units).exec (Unaided u a) w l = some w') :
    (w'.units u).secrets.get "cert" = some a.certificate ∧
      (w.units u).keys.length + l.countP (Action.changes u) ≤ (w'.units u).keys.length := by
  obtain ⟨⟨-, ho'⟩, hkeys⟩ := exec_countP
    (I := fun w => w.Sound pki units ∧ (w.units u).Overtaken a w.certificates)
    (μ := fun w => (w.units u).keys.length)
    (fun s b s' hs hg hb =>
      have hstep := overtaken_step hrevoked hs.1 hs.2 hg hb
      ⟨⟨hs.1.step hb, hstep.1⟩, hstep.2⟩)
    ⟨sound_of_reach hw, (ordered_of_reach hw).overtaken ha hcert hsent hne⟩ hl
  exact ⟨ho'.cert, hkeys⟩

/-- The private key is replaced, and all certificates are revoked before the new CSR is
    answered. -/
theorem livelock_of_exec_sample : ∃ w w', (machine numbered 2).Reach always w ∧
    (machine numbered 2).exec (Unaided 0 ⟨⟨"csr-0", "cert-0", "ca", some []⟩, true⟩) w
      [.dispatch 0 .changed [], .provide 0, .issue "csr-4" "ca" [], .dispatch 0 .changed [true],
        .provide 0, .issue "csr-9" "ca" [], .dispatch 0 .changed [true]] = some w' ∧
    (w'.units 0).secrets.get "cert" = some "cert-0" ∧ 2 + 3 ≤ (w'.units 0).keys.length := by
  obtain ⟨w, hw, hp⟩ := exists_reach_of_exec (machine numbered 2) always deployed
    [.relate, .dispatch 0 (.joined "key") [], .provide 0, .issue "csr-0" "ca" [],
      .dispatch 0 .changed [true], .dispatch 0 (.setTlsPrivateKey "new") [], .revokeAll]
    (fun w => decide (⟨⟨"csr-0", "cert-0", "ca", some []⟩, true⟩ ∈ w.certificates ∧
      (w.units 0).secrets.get "cert" = some "cert-0" ∧ "csr-0" ∈ (w.units 0).requests ∧
      "csr-0" ≠ (w.units 0).csr ∧ (w.units 0).keys.length = 2 ∧
      ((machine numbered 2).exec (Unaided 0 ⟨⟨"csr-0", "cert-0", "ca", some []⟩, true⟩) w
        [.dispatch 0 .changed [], .provide 0, .issue "csr-4" "ca" [], .dispatch 0 .changed [true],
          .provide 0, .issue "csr-9" "ca" [], .dispatch 0 .changed [true]]).isSome = true))
    initial_deployed (by decide +kernel)
  obtain ⟨ha, hcert, hsent, hne, hkeys, hl⟩ := of_decide_eq_true hp
  obtain ⟨w', hl⟩ := Option.isSome_iff_exists.mp hl
  obtain ⟨hcert', hkeys'⟩ := livelock_of_exec hw ha rfl hcert hsent hne hl
  rw [hkeys] at hkeys'
  exact ⟨w, w', hw, hl, hcert', hkeys'⟩

end PgBouncerK8s.Certificates
