import Mathlib.Data.List.Induction
import PgBouncerK8s.Certificates.Requests

/-!
# The certificates of the units

An event that is deferred is emitted again before all later ones. A unit therefore ends with
the provider's certificate for its current CSR, as long as the workload does not come
back in the middle of a dispatch: then a deferred event would be overtaken, and its
older certificate stored over a newer one.

* `answered_of_reach`: when everything has been delivered and answered, each unit has the
  certificate of its current CSR.
* `matched_of_exec`: once a certificate for the current key is stored, key and
  certificate belong together until another key is made.
-/

namespace PgBouncerK8s.Certificates

open Machine
open Tls (Certificate)

variable {pki : Pki} {u v units : ℕ} {x : Unit} {s : Unit × List Bool} {w w' : World}

/-! ## The order of the events -/

namespace Unit

/-- The CSR that a `certificate_available` event is compared with. -/
def csr (x : Unit) : String := (x.secrets.get "csr").getD "None"

/-- The deferred events for the current CSR. -/
def awaited (x : Unit) : List Certificate :=
  x.deferred.filter fun event => event.certificateSigningRequest = x.csr

/-- The last event for the current CSR that was deferred was the last to be handled. -/
def Last (x : Unit) : Prop :=
  ∀ event, x.awaited.getLast? = some event → x.secrets.get "cert" = some event.certificate

/-- In a dispatch where the pushes of the TLS files fail from some point on, that
    point has passed if an event for the current CSR has been deferred. -/
structure InOrder (s : Unit × List Bool) : Prop where
  last : s.1.Last
  blocked : s.1.awaited ≠ [] → ∀ b ∈ s.2, b = false
  sorted : s.2.Pairwise fun a b => b = true → a = true

theorem get_cert_storeCertificate (event : Certificate) (b : Databag) (h : event.certificate ≠ "") :
    (Tls.storeCertificate event b).get "cert" = some event.certificate := by
  unfold Tls.storeCertificate
  rw [Databag.get_set_of_ne _ (by decide), Databag.get_set, if_pos rfl, if_neg h]

theorem csr_available (event : Certificate) (s : Unit × List Bool) :
    (onCertificateAvailable event s).1.csr = s.1.csr :=
  congrArg (Option.getD · "None") (sameRequests_available event s).csr

/-- One event, whether it is stored only, or pushed. -/
theorem InOrder.available (h : InOrder s) (event : Certificate) (hne : event.certificate ≠ "") :
    InOrder (onCertificateAvailable event s) ∧
      (onCertificateAvailable event s).1.secrets.get "cert" =
        if event.certificateSigningRequest = s.1.csr then some event.certificate
        else s.1.secrets.get "cert" := by
  have hcsr' := csr_available event s
  obtain ⟨hcsr, he⟩ | ⟨-, hnil, -⟩ | ⟨hcsr, -, he⟩ := onCertificateAvailable_cases event s
  · have hcsr : ¬event.certificateSigningRequest = s.1.csr := hcsr
    rw [he, if_neg hcsr]
    exact ⟨h, rfl⟩
  · exact absurd hnil hne
  · have hcsr : event.certificateSigningRequest = s.1.csr := hcsr
    have hcert : (onCertificateAvailable event s).1.secrets.get "cert" =
        some event.certificate := by
      rw [he]
      exact get_cert_storeCertificate event _ hne
    rw [if_pos hcsr]
    refine ⟨?_, hcert⟩
    have hdeferred := congrArg (fun t => t.1.deferred) he
    have hpushes := congrArg Prod.snd he
    simp only at hdeferred hpushes
    by_cases hb : s.2.headD false = true
    · -- the push returns, so that no event for the current CSR is deferred
      have hnone : s.1.awaited = [] := by
        by_contra hsome
        cases hp : s.2 with
        | nil => simp [hp] at hb
        | cons b l =>
          rw [hp] at hb
          have hfalse := h.blocked hsome b (by simp [hp])
          simp [hfalse] at hb
      have hnone' : (onCertificateAvailable event s).1.awaited = [] := by
        unfold awaited
        rw [hdeferred, if_pos hb, hcsr']
        exact hnone
      refine ⟨fun e he => ?_, fun hsome => absurd hnone' hsome, ?_⟩
      · rw [hnone'] at he
        cases he
      · rw [hpushes]
        exact h.sorted.sublist (List.tail_sublist _)
    · have hlast : (onCertificateAvailable event s).1.awaited = s.1.awaited ++ [event] := by
        unfold awaited
        rw [hdeferred, if_neg hb, hcsr', List.filter_append]
        simp [hcsr]
      refine ⟨fun e he => ?_, fun _ b hm => ?_, ?_⟩
      · rw [hlast, List.getLast?_concat] at he
        cases he
        exact hcert
      · rw [hpushes] at hm
        cases hp : s.2 with
        | nil => simp [hp] at hm
        | cons b' l =>
          have hb' : b' = false := by simpa [hp] using hb
          have hrest := (List.pairwise_cons.mp (hp ▸ h.sorted)).1
          rw [hp, List.tail_cons] at hm
          cases hbb : b with
          | false => rfl
          | true => exact absurd (hrest b hm hbb) (by simp [hb'])
      · rw [hpushes]
        exact h.sorted.sublist (List.tail_sublist _)

/-- Events in a row: the last one for the current CSR stays. -/
theorem InOrder.foldl_available (h : InOrder s) {l : List Certificate}
    (hne : ∀ event ∈ l, event.certificate ≠ "") :
    let t := l.foldl (fun s event => onCertificateAvailable event s) s
    InOrder t ∧ t.1.csr = s.1.csr ∧ t.1.secrets.get "cert" =
      ((l.filter fun event => event.certificateSigningRequest = s.1.csr).getLast?.map
        Certificate.certificate).or (s.1.secrets.get "cert") := by
  induction l generalizing s with
  | nil => exact ⟨h, rfl, rfl⟩
  | cons event l ih =>
    obtain ⟨hevent, hcert⟩ := h.available event (hne event List.mem_cons_self)
    obtain ⟨hrest, hcsr, hl⟩ := ih hevent fun e he => hne e (List.mem_cons_of_mem _ he)
    have hsame := csr_available event s
    rw [hsame] at hcsr hl
    refine ⟨hrest, hcsr, hl.trans ?_⟩
    rw [hcert]
    by_cases hc : event.certificateSigningRequest = s.1.csr
    · rw [if_pos hc, List.filter_cons, if_pos (decide_eq_true hc), List.getLast?_cons]
      cases (l.filter fun event => event.certificateSigningRequest = s.1.csr).getLast? <;> rfl
    · rw [if_neg hc, List.filter_cons, if_neg (by simpa using hc)]

/-- The re-emission of the deferred events changes nothing in the end. -/
theorem Last.reemit (h : x.Last) (hne : ∀ event ∈ x.deferred, event.certificate ≠ "")
    {pushes : List Bool} (hsorted : pushes.Pairwise fun a b => b = true → a = true) :
    InOrder (reemit (x, pushes)) ∧
      (reemit (x, pushes)).1.secrets.get "cert" = x.secrets.get "cert" := by
  have hstart : InOrder ({ x with deferred := [] }, pushes) :=
    ⟨(fun e he => by cases he), fun hsome => absurd rfl hsome, hsorted⟩
  obtain ⟨horder, -, hcert⟩ := hstart.foldl_available hne
  refine ⟨horder, hcert.trans ?_⟩
  have hlast : ∀ e, (x.deferred.filter fun event =>
      event.certificateSigningRequest = x.csr).getLast? = some e →
        x.secrets.get "cert" = some e.certificate := h
  show ((x.deferred.filter fun event => event.certificateSigningRequest = x.csr).getLast?.map
    Certificate.certificate).or (x.secrets.get "cert") = _
  cases he : (x.deferred.filter fun event =>
      event.certificateSigningRequest = x.csr).getLast? with
  | none => rfl
  | some e => exact (hlast e he).symm

/-! ## New CSRs -/

/-- A text that is none of the CSRs of the unit from the `m`-th one on. -/
def Old (pki : Pki) (u m : ℕ) (c : String) : Prop := ∀ n, m ≤ n → c ≠ pki.csr u n

/-- The current CSR is one of these. -/
def Fresh (pki : Pki) (u m : ℕ) (x : Unit) : Prop :=
  ∃ n, m ≤ n ∧ x.secrets.get "csr" = some (pki.csr u n)

/-- The unit has the certificate for its current CSR, if there is one. -/
def Answered (certificates : List Entry) (x : Unit) : Prop :=
  ∀ entry ∈ certificates, entry.certificateSigningRequest = x.csr → entry.revoked = false →
    x.secrets.get "cert" = some entry.certificate

variable {m : ℕ}

theorem Fresh.ne (h : x.Fresh pki u m) {c : String} (hc : Old pki u m c) : c ≠ x.csr := by
  obtain ⟨n, hn, he⟩ := h
  unfold csr
  rw [he]
  exact hc n hn

theorem Fresh.awaited (h : x.Fresh pki u m)
    (hold : ∀ event ∈ x.deferred, Old pki u m event.certificateSigningRequest) :
    x.awaited = [] :=
  List.filter_eq_nil_iff.mpr fun event he => by simpa using h.ne (hold event he)

theorem Fresh.last (h : x.Fresh pki u m)
    (hold : ∀ event ∈ x.deferred, Old pki u m event.certificateSigningRequest) : x.Last := by
  intro event he
  rw [h.awaited hold] at he
  cases he

theorem Fresh.inOrder {pushes : List Bool} (h : x.Fresh pki u m)
    (hold : ∀ event ∈ x.deferred, Old pki u m event.certificateSigningRequest)
    (hsorted : pushes.Pairwise fun a b => b = true → a = true) : InOrder (x, pushes) :=
  ⟨h.last hold, fun hsome => absurd (h.awaited hold) hsome, hsorted⟩

theorem Fresh.answered (h : x.Fresh pki u m) {certificates : List Entry}
    (hold : ∀ entry ∈ certificates, Old pki u m entry.certificateSigningRequest) :
    x.Answered certificates :=
  fun entry hm he => absurd he (h.ne (hold entry hm))

/-- A certificate that expires leads to a new CSR, or to nothing. -/
theorem onCertificateExpiring_fresh (pki : Pki) (u : ℕ) (hm : m ≤ x.keys.length)
    (certificate : String) :
    x.onCertificateExpiring pki u certificate = x ∨
      (x.onCertificateExpiring pki u certificate).Fresh pki u m := by
  obtain he | ⟨key, oldCsr, -, -, -, he⟩ := onCertificateExpiring_cases pki u certificate x
  · exact .inl he
  · refine .inr ⟨x.keys.length, hm, ?_⟩
    rw [he]
    exact Sound.get_set_csr _ _

theorem deferred_onCertificateExpiring (certificate : String) (x : Unit) :
    (x.onCertificateExpiring pki u certificate).deferred = x.deferred := by
  obtain he | ⟨key, oldCsr, -, -, -, he⟩ := onCertificateExpiring_cases pki u certificate x <;>
    rw [he]

/-! ## The certificates of the provider -/

/-- The loop of `relation-changed` after some entries. -/
structure Walked (pki : Pki) (u m : ℕ) (requirerCsrs : List String) (seen : List Entry)
    (s : Unit × List Bool) : Prop where
  order : InOrder s
  current : s.1.csr ∈ requirerCsrs ∨ s.1.Fresh pki u m
  deferred : ∀ event ∈ s.1.deferred, Old pki u m event.certificateSigningRequest
  keys : m ≤ s.1.keys.length
  answered : s.1.Answered seen

theorem deferred_available (event : Certificate) (s : Unit × List Bool) :
    ∀ e ∈ (onCertificateAvailable event s).1.deferred, e ∈ s.1.deferred ∨ e = event := by
  intro e hm
  obtain ⟨-, he⟩ | ⟨-, -, he⟩ | ⟨-, -, he⟩ := onCertificateAvailable_cases event s
  · rw [he] at hm
    exact .inl hm
  · rw [he] at hm
    exact (List.mem_append.mp hm).imp_right List.mem_singleton.mp
  · rw [he] at hm
    simp only at hm
    split_ifs at hm
    · exact .inl hm
    · exact (List.mem_append.mp hm).imp_right List.mem_singleton.mp

theorem deferred_reemit (s : Unit × List Bool) :
    ∀ e ∈ (reemit s).1.deferred, e ∈ s.1.deferred :=
  reemit_rule (I := fun t => ∀ e ∈ t.1.deferred, e ∈ s.1.deferred) (fun e he => by cases he)
    fun event hm t ht e he => (deferred_available event t e he).elim (ht e) fun h => h ▸ hm

/-- One entry, with a CSR that no entry before had. -/
theorem Walked.step {requirerCsrs : List String} {seen : List Entry} {entry : Entry}
    (h : Walked pki u m requirerCsrs seen s)
    (hold : ∀ e ∈ seen ++ [entry], Old pki u m e.certificateSigningRequest)
    (hne : entry.certificate ≠ "")
    (hnew : ∀ e ∈ seen, e.certificateSigningRequest ≠ entry.certificateSigningRequest) :
    Walked pki u m requirerCsrs (seen ++ [entry])
      (onProviderCertificate pki u requirerCsrs s entry) := by
  have hentry := hold entry (List.mem_append_right _ (List.mem_singleton_self _))
  unfold onProviderCertificate
  by_cases hcsr : entry.certificateSigningRequest ∈ requirerCsrs
  · rw [if_pos hcsr]
    cases hr : entry.revoked with
    | true =>
      rw [if_pos rfl]
      obtain he | hfresh := onCertificateExpiring_fresh pki u h.keys entry.certificate
      · rw [he]
        refine ⟨h.order, h.current, h.deferred, h.keys, fun e hm hc hrev => ?_⟩
        rcases List.mem_append.mp hm with hm | hm
        · exact h.answered e hm hc hrev
        · rw [List.mem_singleton.mp hm, hr] at hrev
          cases hrev
      · have hdeferred : ∀ event ∈ (s.1.onCertificateExpiring pki u entry.certificate).deferred,
            Old pki u m event.certificateSigningRequest := by
          rw [deferred_onCertificateExpiring]
          exact h.deferred
        exact ⟨hfresh.inOrder hdeferred h.order.sorted, .inr hfresh, hdeferred,
          h.keys.trans (length_keys_onCertificateExpiring _ _), hfresh.answered hold⟩
    | false =>
      rw [if_neg (by simp)]
      obtain ⟨horder, hcert⟩ := h.order.available entry.toCertificate hne
      have hsame := csr_available entry.toCertificate s
      have hkeys := (sameRequests_available entry.toCertificate s).keys
      refine ⟨horder, ?_, fun event hm => ?_, ?_, fun e hm hc hrev => ?_⟩
      · rw [hsame]
        exact h.current.imp_right fun ⟨n, hn, hc⟩ =>
          ⟨n, hn, (sameRequests_available entry.toCertificate s).csr.trans hc⟩
      · obtain hm | rfl := deferred_available _ _ event hm
        · exact h.deferred event hm
        · exact hentry
      · rw [hkeys]
        exact h.keys
      · rw [hsame] at hc
        rw [hcert]
        rcases List.mem_append.mp hm with hm | hm
        · rw [if_neg fun he => hnew e hm (hc.trans he.symm)]
          exact h.answered e hm hc hrev
        · rw [List.mem_singleton.mp hm] at hc ⊢
          rw [if_pos hc]
  · -- the current CSR has been sent, or it is new
    rw [if_neg hcsr]
    refine ⟨h.order, h.current, h.deferred, h.keys, fun e hm hc hrev => ?_⟩
    rcases List.mem_append.mp hm with hm | hm
    · exact h.answered e hm hc hrev
    · rw [List.mem_singleton.mp hm] at hc
      rcases h.current with hcur | hfresh
      · exact absurd (hc ▸ hcur) hcsr
      · exact absurd hc (hfresh.ne hentry)

theorem Walked.loop {certificates : List Entry}
    (h : Walked pki u m s.1.requests [] s)
    (hold : ∀ entry ∈ certificates, Old pki u m entry.certificateSigningRequest)
    (hne : ∀ entry ∈ certificates, entry.certificate ≠ "")
    (hnodup : (certificates.map fun entry => entry.certificateSigningRequest).Nodup) :
    Walked pki u m s.1.requests certificates (onRelationChanged pki u certificates s) := by
  unfold onRelationChanged
  generalize s.1.requests = requirerCsrs at h
  induction certificates using List.reverseRecOn with
  | nil => exact h
  | append_singleton l entry ih =>
    rw [List.foldl_append, List.foldl_cons, List.foldl_nil]
    rw [List.map_append, List.map_singleton, List.nodup_append] at hnodup
    refine (ih (fun e hm => hold e (List.mem_append_left _ hm))
      (fun e hm => hne e (List.mem_append_left _ hm)) hnodup.1).step hold
      (hne entry (List.mem_append_right _ (List.mem_singleton_self _))) fun e hm he => ?_
    exact hnodup.2.2 _ (List.mem_map.mpr ⟨e, hm, rfl⟩) _ (List.mem_singleton_self _) he

/-! ## One dispatch -/

/-- The clock leads to a new CSR, or to nothing. -/
def Unmoved (pki : Pki) (u : ℕ) (x y : Unit) : Prop :=
  x.keys.length ≤ y.keys.length ∧ (y.Fresh pki u x.keys.length ∨
    y.secrets = x.secrets ∧ y.deferred = x.deferred ∧ y.requests = x.requests)

theorem Unmoved.onExpiry {y : Unit} (h : x.Sound pki u) {certificate : String}
    (hcert : ∀ n, certificate ≠ pki.csr u n) (expired : Bool) (hy : x.Unmoved pki u y) :
    x.Unmoved pki u (y.onExpiry pki u certificate expired) := by
  refine onExpiry_rule (I := fun y => x.Unmoved pki u y) (fun y hy => ?_) (fun y hy => ?_) hy
  · obtain he | hfresh := onCertificateExpiring_fresh pki u hy.1 certificate
    · rw [he]
      exact hy
    · exact ⟨hy.1.trans (length_keys_onCertificateExpiring _ _), .inl hfresh⟩
  · refine ⟨hy.1, hy.2.imp id fun ⟨hsecrets, hdeferred, hrequests⟩ =>
      ⟨hsecrets, hdeferred, ?_⟩⟩
    show removeRequirerCsr certificate y.requests = x.requests
    rw [hrequests]
    exact removeRequirerCsr_eq_self h hcert

/-- What a dispatch leaves: a new CSR, or the old requests, with the certificate that was
    there or that the provider has. -/
structure Served (certificates : List Entry) (event : Event) (x y : Unit) : Prop where
  requests : y.requests = x.requests
  csr : y.csr = x.csr
  last : x.requests ≠ [] → x.Last → y.Last
  answered : x.requests ≠ [] → x.Last → event = .changed → y.Answered certificates
  kept : x.requests ≠ [] → x.Last → event ≠ .changed →
    y.secrets.get "cert" = x.secrets.get "cert"

/-- `relation-changed`, after the deferred events. -/
theorem served_changed {certificates : List Entry} (h : x.Sound pki u)
    (hsame : x.SameRequests s.1)
    (hreemit : x.Last → InOrder s ∧ s.1.secrets.get "cert" = x.secrets.get "cert")
    (hold : ∀ e ∈ s.1.deferred, Old pki u x.keys.length e.certificateSigningRequest)
    (hentries : ∀ e ∈ certificates, Old pki u x.keys.length e.certificateSigningRequest ∧
      e.certificate ≠ "" ∧ ∀ n, e.certificate ≠ pki.csr u n)
    (hnodup : (certificates.map fun entry => entry.certificateSigningRequest).Nodup) :
    (onRelationChanged pki u certificates s).1.Fresh pki u x.keys.length ∨
      x.Served certificates .changed (onRelationChanged pki u certificates s).1 := by
  have hrule : x.keys.length ≤ (onRelationChanged pki u certificates s).1.keys.length ∧
      ((onRelationChanged pki u certificates s).1.Fresh pki u x.keys.length ∨
        x.SameRequests (onRelationChanged pki u certificates s).1) := by
    refine onRelationChanged_rule (I := fun t => x.keys.length ≤ t.1.keys.length ∧
      (t.1.Fresh pki u x.keys.length ∨ x.SameRequests t.1)) ⟨hsame.keys ▸ le_rfl, .inr hsame⟩
      (fun entry _ _ _ t ht => ?_) fun entry _ _ _ t ht => ?_
    · have hs := sameRequests_available entry.toCertificate t
      exact ⟨hs.keys ▸ ht.1, ht.2.imp (fun ⟨n, hn, hc⟩ => ⟨n, hn, hs.csr.trans hc⟩)
        fun hx => hx.trans hs⟩
    · obtain he | hfresh := onCertificateExpiring_fresh pki u ht.1 entry.certificate
      · rw [he]
        exact ht
      · exact ⟨ht.1.trans (length_keys_onCertificateExpiring _ _), .inl hfresh⟩
  refine hrule.2.imp_right fun hx => ?_
  have hwalked : x.requests ≠ [] → x.Last → Walked pki u x.keys.length s.1.requests certificates
      (onRelationChanged pki u certificates s) := by
    intro hne hlast
    obtain ⟨c, hc, hcsr⟩ := h.current hne
    have hcur : s.1.csr ∈ s.1.requests := by
      unfold Unit.csr
      rw [hsame.csr, hsame.requests, hcsr]
      exact hc
    refine Walked.loop ⟨(hreemit hlast).1, .inl hcur, hold, hsame.keys ▸ le_rfl, ?_⟩
      (fun e hm => (hentries e hm).1) (fun e hm => (hentries e hm).2.1) hnodup
    exact fun e hm => by cases hm
  exact ⟨hx.requests, congrArg (Option.getD · "None") hx.csr,
    fun hne hlast => (hwalked hne hlast).order.last,
    fun hne hlast _ => (hwalked hne hlast).answered, fun _ _ he => absurd rfl he⟩

theorem dispatch_served {certificates : List Entry} {event : Event} {pushes : List Bool}
    (h : x.Sound pki u)
    (hdeferred : ∀ e ∈ x.deferred, Old pki u x.keys.length e.certificateSigningRequest ∧
      e.certificate ≠ "")
    (hentries : ∀ e ∈ certificates, Old pki u x.keys.length e.certificateSigningRequest ∧
      e.certificate ≠ "" ∧ ∀ n, e.certificate ≠ pki.csr u n)
    (hnodup : (certificates.map fun entry => entry.certificateSigningRequest).Nodup)
    (hsorted : pushes.Pairwise fun a b => b = true → a = true) (hevent : event ≠ .broken) :
    (x.dispatch pki u certificates event pushes).Fresh pki u x.keys.length ∨
      x.Served certificates event (x.dispatch pki u certificates event pushes) := by
  have hsame := sameRequests_reemit (x, pushes)
  have hreemit : x.Last → InOrder (reemit (x, pushes)) ∧
      (reemit (x, pushes)).1.secrets.get "cert" = x.secrets.get "cert" :=
    fun hlast => hlast.reemit (fun e he => (hdeferred e he).2) hsorted
  have hold : ∀ e ∈ (reemit (x, pushes)).1.deferred,
      Old pki u x.keys.length e.certificateSigningRequest := fun e he =>
    (hdeferred e (deferred_reemit _ e he)).1
  have hother : ∀ y : Unit, (reemit (x, pushes)).1.Unmoved pki u y → event ≠ .changed →
      y.Fresh pki u x.keys.length ∨ x.Served certificates event y := by
    rintro y ⟨-, hfresh | ⟨hsecrets, hdef, hreq⟩⟩ hne
    · exact .inl (hsame.keys ▸ hfresh)
    · have hcsr : y.csr = x.csr := by
        unfold Unit.csr
        rw [hsecrets, hsame.csr]
      refine .inr ⟨hreq.trans hsame.requests, hcsr, fun _ hlast => ?_, fun _ _ he => absurd he hne,
        fun _ hlast _ => hsecrets ▸ (hreemit hlast).2⟩
      have hl := (hreemit hlast).1.last
      unfold Last awaited Unit.csr at hl ⊢
      rw [hsecrets, hdef]
      exact hl
  have hsound := hsame.sound h
  unfold Unit.dispatch
  generalize reemit (x, pushes) = s at *
  cases event with
  | joined key => exact .inl ⟨s.1.keys.length, hsame.keys ▸ le_rfl, Sound.get_set_csr _ _⟩
  | setTlsPrivateKey key => exact .inl ⟨s.1.keys.length, hsame.keys ▸ le_rfl, Sound.get_set_csr _ _⟩
  | changed => exact served_changed h hsame hreemit hold hentries hnodup
  | broken => exact absurd rfl hevent
  | secretExpired csr expired =>
    refine hother _ ?_ (by simp)
    simp only
    split_ifs
    · exact onSecretExpired_rule (I := fun y => s.1.Unmoved pki u y) (fun entry hm b y hy =>
        hy.onExpiry hsound (hentries entry hm).2.2 b) ⟨le_rfl, .inr ⟨rfl, rfl, rfl⟩⟩
    · exact ⟨le_rfl, .inr ⟨rfl, rfl, rfl⟩⟩
  | updateStatus expired =>
    refine hother _ ?_ (by simp)
    simp only
    split_ifs
    · exact onUpdateStatus_rule (I := fun y => s.1.Unmoved pki u y) (fun entry hm b y hy =>
        hy.onExpiry hsound (hentries entry hm).2.2 b) ⟨le_rfl, .inr ⟨rfl, rfl, rfl⟩⟩
    · exact ⟨le_rfl, .inr ⟨rfl, rfl, rfl⟩⟩
  | other => exact hother _ ⟨le_rfl, .inr ⟨rfl, rfl, rfl⟩⟩ (by simp)

end Unit

/-! ## All parties -/

namespace World

theorem Generated.old {c : String} (h : w.Generated pki c) (u : ℕ) :
    Unit.Old pki u (w.units u).keys.length c := by
  obtain ⟨v, k, hk, rfl⟩ := h
  intro n hn he
  obtain ⟨rfl, rfl⟩ := pki.csr_inj he
  exact absurd hk (Nat.not_lt.mpr hn)

theorem Sound.certificate_ne (h : w.Sound pki units) {e : Certificate} (he : e ∈ w.issued) :
    e.certificate ≠ "" := by
  obtain ⟨i, hi⟩ := List.getElem?_of_mem he
  rw [h.text i e hi]
  exact fun hnil => pki.certificate_ne i (by simp [hnil])

/-- The units that have seen what the provider has, have the certificates for their current
    CSRs; the provider's charm has been asked for what it has seen. -/
structure Served (pki : Pki) (units : ℕ) (w : World) : Prop extends w.Sound pki units where
  last : ∀ u, (w.units u).requests ≠ [] → (w.units u).Last
  answered : ∀ u, (w.units u).requests ≠ [] → w.pending u = false →
    (w.units u).Answered w.certificates
  entriesAsked : ∀ entry ∈ w.certificates, entry.certificateSigningRequest ∈ w.asked
  requestsAsked : ∀ u, w.outdated u = false → ∀ r ∈ (w.units u).requests, r ∈ w.asked

theorem served_of_initial (h : Initial w) : w.Served pki units where
  toSound := .of_initial h
  last u hne := absurd (by rw [h.units]) hne
  answered u hne := absurd (by rw [h.units]) hne
  entriesAsked entry hm := by simp [h.certificates] at hm
  requestsAsked u _ r hr := by simp [h.units] at hr

theorem pending_dispatch {event : Event} (w : World) (pushes : List Bool)
    (h : v ≠ u ∨ event ≠ .changed) :
    (w.dispatch pki u event pushes).pending v = w.pending v := by
  cases event with
  | changed => exact Function.update_of_ne (h.resolve_right (by simp)) _ _
  | _ => rfl

theorem Served.dispatch (h : w.Served pki units) {event : Event} {pushes : List Bool}
    (hu : u < units) (hrel : event.needsRelation = true → (w.units u).related = true)
    (hsorted : pushes.Pairwise fun a b => b = true → a = true) :
    (w.dispatch pki u event pushes).Served pki units := by
  have hentries : ∀ e ∈ w.certificates, Unit.Old pki u (w.units u).keys.length
      e.certificateSigningRequest ∧ e.certificate ≠ "" ∧ ∀ n, e.certificate ≠ pki.csr u n :=
    fun e he => ⟨(h.issued _ (h.entries e he)).old u, h.certificate_ne (h.entries e he),
      h.certificate_ne_csr (h.entries e he) u⟩
  have hdeferred : ∀ e ∈ (w.units u).deferred, Unit.Old pki u (w.units u).keys.length
      e.certificateSigningRequest ∧ e.certificate ≠ "" :=
    fun e he => ⟨(h.issued _ (h.deferred u e he)).old u, h.certificate_ne (h.deferred u e he)⟩
  have hself : (w.dispatch pki u event pushes).units u =
      (w.units u).dispatch pki u w.certificates event pushes := Function.update_self _ _ _
  have hunit : event ≠ .broken →
      ((w.units u).dispatch pki u w.certificates event pushes).requests ≠ [] →
      ((w.units u).dispatch pki u w.certificates event pushes).Last ∧
        ((w.dispatch pki u event pushes).pending u = false →
          ((w.units u).dispatch pki u w.certificates event pushes).Answered w.certificates) := by
    intro hevent hne
    obtain hfresh | hserved := Unit.dispatch_served (h.unit u) hdeferred hentries h.nodup hsorted
      hevent
    · refine ⟨hfresh.last fun e he => ?_, fun _ => hfresh.answered fun e he => (hentries e he).1⟩
      obtain he | ⟨entry, hm, -, rfl⟩ := Unit.deferred_dispatch _ _ _ _ e he
      · exact (hdeferred e he).1
      · exact (hentries entry hm).1
    · rw [hserved.requests] at hne
      have hlast := h.last u hne
      refine ⟨hserved.last hne hlast, fun hpending => ?_⟩
      by_cases hchanged : event = .changed
      · exact hserved.answered hne hlast hchanged
      · intro entry hm hc hr
        rw [pending_dispatch w pushes (.inr hchanged)] at hpending
        rw [hserved.kept hne hlast hchanged]
        exact h.answered u hne hpending entry hm (hc.trans hserved.csr) hr
  have hbroken : event = .broken →
      ((w.units u).dispatch pki u w.certificates event pushes).requests = [] := by
    rintro rfl
    rfl
  constructor
  case toSound => exact h.toSound.dispatch hu hrel pushes
  case last =>
    intro v hne
    by_cases hv : v = u
    · subst hv
      rw [hself] at hne ⊢
      exact (hunit (fun he => hne (hbroken he)) hne).1
    · simp only [World.dispatch, Function.update_of_ne hv] at hne ⊢
      exact h.last v hne
  case answered =>
    intro v hne hpending
    by_cases hv : v = u
    · subst hv
      rw [hself] at hne ⊢
      exact (hunit (fun he => hne (hbroken he)) hne).2 hpending
    · rw [pending_dispatch w pushes (.inl hv)] at hpending
      simp only [World.dispatch, Function.update_of_ne hv] at hne ⊢
      exact h.answered v hne hpending
  case entriesAsked => exact h.entriesAsked
  case requestsAsked =>
    intro v hout r hr
    by_cases hv : v = u
    · subst hv
      rw [hself] at hr
      simp only [World.dispatch, Function.update_self, Bool.or_eq_false_iff,
        decide_eq_false_iff_not, not_not] at hout
      exact h.requestsAsked v hout.1 r (hout.2 ▸ hr)
    · simp only [World.dispatch, Function.update_of_ne hv] at hout hr
      exact h.requestsAsked v hout r hr

/-- The provider writes: a unit that is not pending has seen it. -/
theorem Served.answered_setCertificates (h : w.Served pki units) {certificates : List Entry}
    (hne : (w.units u).requests ≠ []) (hp : (w.setCertificates certificates).pending u = false) :
    (w.units u).Answered certificates := by
  simp only [setCertificates, Bool.or_eq_false_iff, decide_eq_false_iff_not, not_not] at hp
  rw [hp.2]
  exact h.answered u hne hp.1

theorem Served.filter (h : w.Served pki units) (p : Entry → Bool) :
    (w.setCertificates (w.certificates.filter p)).Served pki units :=
  { h with
    toSound := h.toSound.filter p
    answered := fun _ hne hp => h.answered_setCertificates hne hp
    entriesAsked := fun entry hm => h.entriesAsked entry (List.mem_of_mem_filter hm) }

theorem Served.provide (h : w.Served pki units) (u : ℕ) : (w.provide units u).Served pki units := by
  have hsound := h.toSound.provide u
  unfold World.provide at hsound ⊢
  simp only at hsound ⊢
  split_ifs at hsound ⊢ with hnil
  · refine { h with toSound := hsound, requestsAsked := fun v hout r hr => ?_ }
    by_cases hv : v = u
    · subst hv
      have hr : r ∈ (w.units v).requests := hr
      rw [hnil] at hr
      cases hr
    · simp only [Function.update_of_ne hv] at hout
      exact h.requestsAsked v hout r hr
  · refine { h with
      toSound := hsound
      answered := fun v hne hp => h.answered_setCertificates hne hp
      entriesAsked := fun entry hm => ?_
      requestsAsked := fun v hout r hr => ?_ }
    · simp only [setCertificates, revokeCertificates_eq _ h.nodup_certificate] at hm
      exact List.mem_append_left _ (h.entriesAsked entry (List.mem_of_mem_filter hm))
    · by_cases hv : v = u
      · subst hv
        have hr : r ∈ (w.units v).requests := hr
        by_cases hm : r ∈ w.certificates.map fun entry => entry.certificateSigningRequest
        · obtain ⟨entry, hentry, rfl⟩ := List.mem_map.mp hm
          exact List.mem_append_left _ (h.entriesAsked entry hentry)
        · exact List.mem_append_right _ (List.mem_filter.mpr ⟨hr, by simpa using hm⟩)
      · simp only [setCertificates, Function.update_of_ne hv] at hout
        exact List.mem_append_left _ (h.requestsAsked v hout r hr)

theorem Served.issue (h : w.Served pki units) {csr : String} (hcsr : csr ∈ w.asked) (ca : String)
    (chain : List String) : (w.issue pki csr ca chain).Served pki units := by
  refine { h with
    toSound := h.toSound.issue hcsr ca chain
    answered := fun v hne hp => h.answered_setCertificates hne hp
    entriesAsked := fun entry hm => ?_ }
  simp only [World.issue, setCertificates, setRelationCertificate_eq _ h.nodup] at hm
  rcases List.mem_append.mp hm with hm | hm
  · exact h.entriesAsked entry (List.mem_of_mem_filter hm)
  · rw [List.mem_singleton.mp hm]
    exact hcsr

theorem Served.revokeAll (h : w.Served pki units) :
    (w.setCertificates (revokeAllCertificates w.certificates)).Served pki units := by
  refine { h with
    toSound := h.toSound.revokeAll
    answered := fun v hne hp => h.answered_setCertificates hne hp
    entriesAsked := fun entry hm => ?_ }
  obtain ⟨old, hold, rfl⟩ := List.mem_map.mp hm
  exact h.entriesAsked old hold

theorem Served.relate (h : w.Served pki units) (hrel : ∀ u < units, (w.units u).related = false) :
    Served pki units { w with
      units := fun u => if u < units then { w.units u with related := true } else w.units u
      certificates := []
      asked := []
      pending := fun _ => false
      outdated := fun _ => false } := by
  have hnil : ∀ u, (if u < units then { w.units u with related := true }
      else w.units u).requests = [] := by
    intro u
    split_ifs with hu
    · exact (h.unit u).unrelated (hrel u hu)
    · exact (h.unit u).unrelated (h.outside u (Nat.not_lt.mp hu))
  constructor
  case toSound => exact h.toSound.relate
  case last => exact fun u hne => absurd (hnil u) hne
  case answered => exact fun u hne => absurd (hnil u) hne
  case entriesAsked => exact fun entry hm => by cases hm
  case requestsAsked =>
    intro u _ r hr
    have hr : r ∈ (if u < units then { w.units u with related := true }
      else w.units u).requests := hr
    rw [hnil] at hr
    cases hr

end World

/-- In no dispatch does the workload come back: the pushes of the TLS files fail from some
    point on, or not at all. -/
def Steady (_ : World) : Action → Prop
  | .dispatch _ _ pushes => pushes.Pairwise fun a b => b = true → a = true
  | _ => True

instance (w : World) : (a : Action) → Decidable (Steady w a)
  | .dispatch _ _ pushes =>
      inferInstanceAs (Decidable (pushes.Pairwise fun a b => b = true → a = true))
  | .relate | .provide _ | .issue _ _ _ | .revokeAll | .remove _ =>
      inferInstanceAs (Decidable True)

theorem World.Served.step {a : Action} (h : w.Served pki units) (hg : Steady w a)
    (hs : (machine pki units).step w a = some w') : w'.Served pki units := by
  cases a with
  | relate =>
    obtain ⟨hrel, hs⟩ := Option.ite_none_right_eq_some.mp hs
    cases hs
    exact h.relate hrel
  | dispatch u event pushes =>
    obtain ⟨⟨hu, hrel, -⟩, hs⟩ := Option.ite_none_right_eq_some.mp hs
    cases hs
    exact h.dispatch hu hrel hg
  | provide u =>
    obtain ⟨-, hs⟩ := Option.ite_none_right_eq_some.mp hs
    cases hs
    exact h.provide u
  | issue csr ca chain =>
    obtain ⟨hcsr, hs⟩ := Option.ite_none_right_eq_some.mp hs
    cases hs
    exact h.issue hcsr ca chain
  | revokeAll =>
    cases hs
    exact h.revokeAll
  | remove certificate =>
    cases hs
    rw [removeCertificate_eq h.nodup_certificate]
    exact h.filter _

theorem served_of_reach (h : (machine pki units).Reach Steady w) : w.Served pki units :=
  h.invariant (fun _ hs => World.served_of_initial hs) fun _ _ _ _ hs hg ha => hs.step hg ha

/-- No certificate is lost: a unit that has sent requests, to a provider that has seen
    them and whose charm has answered, and that has seen the answers, has the certificate
    for its current CSR, or this one has been revoked. -/
theorem answered_of_reach (hw : (machine pki units).Reach Steady w)
    (hne : (w.units u).requests ≠ []) (hseen : w.pending u = false) (hsent : w.outdated u = false)
    (hanswered : ∀ c ∈ (w.units u).requests, c ∈ w.asked →
      ∃ entry ∈ w.certificates, entry.certificateSigningRequest = c) :
    ∃ entry ∈ w.certificates,
      (w.units u).secrets.get "csr" = some entry.certificateSigningRequest ∧
      (entry.revoked = false → (w.units u).secrets.get "cert" = some entry.certificate) := by
  have hserved := served_of_reach hw
  obtain ⟨c, hc, hcsr⟩ := (hserved.unit u).current hne
  obtain ⟨entry, hm, rfl⟩ := hanswered c hc (hserved.requestsAsked u hsent c hc)
  refine ⟨entry, hm, hcsr, fun hr => hserved.answered u hne hseen entry hm ?_ hr⟩
  unfold Unit.csr
  rw [hcsr, Option.getD_some]

theorem answered_of_reach_sample : ∃ w, (machine numbered 2).Reach Steady w ∧
    ∃ entry ∈ w.certificates,
      (w.units 0).secrets.get "csr" = some entry.certificateSigningRequest ∧
      (entry.revoked = false → (w.units 0).secrets.get "cert" = some entry.certificate) := by
  obtain ⟨w, hw, hp⟩ := exists_reach_of_exec (machine numbered 2) Steady deployed
    [.relate, .dispatch 0 (.joined "key") [], .provide 0, .issue "csr-0" "ca" ["ca"],
      .dispatch 0 .changed [false], .issue "csr-0" "ca" ["ca"], .dispatch 0 .changed [true, true]]
    (fun w => decide ((w.units 0).requests ≠ [] ∧ w.pending 0 = false ∧ w.outdated 0 = false ∧
      ∀ c ∈ (w.units 0).requests, c ∈ w.asked →
        ∃ entry ∈ w.certificates, entry.certificateSigningRequest = c)) initial_deployed
    (by decide +kernel)
  obtain ⟨hne, hseen, hsent, hanswered⟩ := of_decide_eq_true hp
  exact ⟨w, hw, answered_of_reach hw hne hseen hsent hanswered⟩

/-! ## Keys -/

namespace Unit

/-- The stored certificate is for a CSR that was made with the stored key. -/
def Matched (pki : Pki) (u : ℕ) (issued : List Certificate) (x : Unit) : Prop :=
  ∀ certificate key, x.secrets.get "cert" = some certificate → x.secrets.get "key" = some key →
    ∃ e ∈ issued, e.certificate = certificate ∧
      ∃ n, e.certificateSigningRequest = pki.csr u n ∧ x.keys[n]? = some key

variable {issued : List Certificate}

theorem Current.onCertificateExpiring (h : x.Current pki u) (certificate : String) :
    (x.onCertificateExpiring pki u certificate).Current pki u := by
  obtain he | ⟨key, oldCsr, -, hkey, -, he⟩ := onCertificateExpiring_cases pki u certificate x
  · rw [he]
    exact h
  · rw [he]
    refine .generate (Sound.get_set_csr _ _) fun k hk => ?_
    rw [Databag.get_set_of_ne _ (by decide), hkey] at hk
    exact (Option.some.inj hk).symm

/-- A certificate for the current CSR is one for the current key. -/
theorem Current.matched (h : x.Current pki u) {e : Certificate} (he : e ∈ issued)
    (hcsr : x.secrets.get "csr" = some e.certificateSigningRequest)
    (hcert : x.secrets.get "cert" = some e.certificate) : x.Matched pki u issued := by
  intro certificate key hc hk
  obtain ⟨n, hn, hcsr⟩ := (h.csr _).mp hcsr
  refine ⟨e, he, Option.some.inj (hcert.symm.trans hc), n, hcsr, ?_⟩
  have hlast := h.key key hk
  rwa [List.getLast?_eq_getElem?, hn] at hlast

theorem Matched.congr {y : Unit} (h : x.Matched pki u issued)
    (hcert : y.secrets.get "cert" = x.secrets.get "cert")
    (hkey : y.secrets.get "key" = x.secrets.get "key") (hkeys : x.keys <+: y.keys) :
    y.Matched pki u issued := by
  intro certificate key hc hk
  obtain ⟨e, he, hce, n, hcsr, hn⟩ := h certificate key (hcert ▸ hc) (hkey ▸ hk)
  obtain ⟨l, hl⟩ := hkeys
  refine ⟨e, he, hce, n, hcsr, ?_⟩
  rw [← hl, List.getElem?_append_left (List.getElem?_eq_some_iff.mp hn).1]
  exact hn

theorem Matched.dispatch {certificates : List Entry} {event : Event}
    (h : x.Current pki u ∧ x.Matched pki u issued)
    (hissued : ∀ e, (e ∈ x.deferred ∨ ∃ entry ∈ certificates,
      entry.revoked = false ∧ entry.toCertificate = e) →
        e ∈ issued ∧ e.certificateSigningRequest ≠ "None" ∧ e.certificate ≠ "")
    (hjoined : ∀ key, event ≠ .joined key) (hset : ∀ key, event ≠ .setTlsPrivateKey key)
    (pushes : List Bool) :
    (x.dispatch pki u certificates event pushes).Matched pki u issued := by
  refine (dispatch_rule (I := fun y => y.Current pki u ∧ y.Matched pki u issued)
    ⟨h.1.congr rfl rfl rfl, h.2.congr rfl rfl (List.prefix_refl _)⟩ (fun event hm s hs => ?_)
    (fun entry _ y hy => ⟨hy.1.onCertificateExpiring _, ?_⟩)
    (fun entry _ y hy => ⟨hy.1.congr rfl rfl rfl, hy.2.congr rfl rfl (List.prefix_refl _)⟩)
    (fun key he => (he.elim (hjoined key) (hset key)).elim)
    fun _ y hy => ⟨hy.1.congr rfl rfl rfl, fun certificate key hc => ?_⟩).2
  · have hsame := sameRequests_available event s
    have hcurrent := hs.1.congr hsame.csr hsame.key hsame.keys
    refine ⟨hcurrent, ?_⟩
    obtain ⟨he, hnone, hne⟩ := hissued event hm
    obtain ⟨-, heq⟩ | ⟨-, hnil, -⟩ | ⟨hcsr, -, heq⟩ := onCertificateAvailable_cases event s
    · rw [heq]
      exact hs.2
    · exact absurd hnil hne
    · refine hcurrent.matched he ?_ ?_
      · rw [hsame.csr]
        cases hget : s.1.secrets.get "csr" with
        | none => exact absurd (hcsr.trans (by rw [hget]; rfl)) hnone
        | some c =>
          rw [hcsr, hget]
          rfl
      · rw [heq]
        exact get_cert_storeCertificate event _ hne
  · obtain heq | ⟨key, oldCsr, -, -, -, heq⟩ :=
      onCertificateExpiring_cases pki u entry.certificate y
    · rw [heq]
      exact hy.2
    · rw [heq]
      exact hy.2.congr (Databag.get_set_of_ne _ (by decide) _)
        (Databag.get_set_of_ne _ (by decide) _) (List.prefix_append _ _)
  · have hnone : y.onTlsRelationBroken.secrets.get "cert" = none := rfl
    rw [hnone] at hc
    cases hc

end Unit

/-- The unit makes no other key. -/
def KeepsKey (u : ℕ) (_ : World) : Action → Prop
  | .dispatch v (.joined _) _ | .dispatch v (.setTlsPrivateKey _) _ => v ≠ u
  | _ => True

instance (u : ℕ) (w : World) : (a : Action) → Decidable (KeepsKey u w a)
  | .dispatch v (.joined _) _ | .dispatch v (.setTlsPrivateKey _) _ =>
      inferInstanceAs (Decidable (v ≠ u))
  | .dispatch _ .changed _ | .dispatch _ .broken _ | .dispatch _ (.secretExpired _ _) _
  | .dispatch _ (.updateStatus _) _ | .dispatch _ .other _
  | .relate | .provide _ | .issue _ _ _ | .revokeAll | .remove _ => inferInstanceAs (Decidable True)

theorem issued_step {a : Action} (hs : (machine pki units).step w a = some w') :
    w.issued <+: w'.issued := by
  cases a with
  | relate =>
    obtain ⟨-, hs⟩ := Option.ite_none_right_eq_some.mp hs
    cases hs
    exact List.prefix_refl _
  | dispatch v event pushes =>
    obtain ⟨-, hs⟩ := Option.ite_none_right_eq_some.mp hs
    cases hs
    exact List.prefix_refl _
  | provide v =>
    obtain ⟨-, hs⟩ := Option.ite_none_right_eq_some.mp hs
    cases hs
    unfold World.provide
    simp only
    split_ifs <;> exact List.prefix_refl _
  | issue csr ca chain =>
    obtain ⟨-, hs⟩ := Option.ite_none_right_eq_some.mp hs
    cases hs
    exact List.prefix_append _ _
  | revokeAll =>
    cases hs
    exact List.prefix_refl _
  | remove certificate =>
    cases hs
    exact List.prefix_refl _

theorem matched_step {a : Action} (h : w.Sound pki units)
    (hm : (w.units u).Matched pki u w.issued) (hg : KeepsKey u w a)
    (hs : (machine pki units).step w a = some w') : (w'.units u).Matched pki u w'.issued := by
  suffices hmatched : (w'.units u).Matched pki u w.issued by
    intro certificate key hc hk
    obtain ⟨e, he, hrest⟩ := hmatched certificate key hc hk
    exact ⟨e, (issued_step hs).subset he, hrest⟩
  obtain ⟨event, pushes, rfl, -, he⟩ | he | he := unit_step hs u
  · rw [he]
    have hissued : ∀ e ∈ w.issued, e ∈ w.issued ∧ e.certificateSigningRequest ≠ "None" ∧
        e.certificate ≠ "" := by
      intro e he
      refine ⟨he, fun hnone => ?_, h.certificate_ne he⟩
      obtain ⟨v, n, -, hc⟩ := h.issued e he
      exact pki.csr_ne v n (by simp [← hc, hnone])
    refine Unit.Matched.dispatch ⟨(h.unit u).toCurrent, hm⟩ (fun e he => ?_) (fun key he => ?_)
      (fun key he => ?_) pushes
    · obtain he | ⟨entry, hentry, -, rfl⟩ := he
      · exact hissued e (h.deferred u e he)
      · exact hissued _ (h.entries entry hentry)
    · subst he
      exact hg rfl
    · subst he
      exact hg rfl
  · rw [he]
    exact hm
  · rwa [he]

/-- Once a unit has a certificate for its current CSR, the certificate it has is for its key,
    through all renewals, revocations, deferred events and relations, until it makes
    another key. -/
theorem matched_of_exec {l : List Action} {e : Certificate}
    (hw : (machine pki units).Reach always w) (he : e ∈ w.issued)
    (hcsr : (w.units u).secrets.get "csr" = some e.certificateSigningRequest)
    (hcert : (w.units u).secrets.get "cert" = some e.certificate)
    (hl : (machine pki units).exec (KeepsKey u) w l = some w') :
    (w'.units u).Matched pki u w'.issued := by
  have hsound := sound_of_reach hw
  exact (exec_invariant
    (I := fun w => w.Sound pki units ∧ (w.units u).Matched pki u w.issued)
    (fun s a s' hs hg ha => ⟨hs.1.step ha, matched_step hs.1 hs.2 hg ha⟩)
    ⟨hsound, (hsound.unit u).toCurrent.matched he hcsr hcert⟩ hl).2

theorem matched_of_exec_sample : ∃ w w', (machine numbered 2).Reach always w ∧
    (machine numbered 2).exec (KeepsKey 0) w
      [.revokeAll, .dispatch 0 .changed [], .provide 0, .issue "csr-1" "ca" [],
        .dispatch 0 .changed [true]] = some w' ∧
    (w'.units 0).secrets.get "cert" = some "cert-1" ∧
    (w'.units 0).Matched numbered 0 w'.issued := by
  obtain ⟨w, hw, hp⟩ := exists_reach_of_exec (machine numbered 2) always deployed
    [.relate, .dispatch 0 (.joined "key") [], .provide 0, .issue "csr-0" "ca" [],
      .dispatch 0 .changed [true]]
    (fun w => decide ((⟨"csr-0", "cert-0", "ca", some []⟩ : Certificate) ∈ w.issued ∧
      (w.units 0).secrets.get "csr" = some "csr-0" ∧
      (w.units 0).secrets.get "cert" = some "cert-0") &&
      ((machine numbered 2).exec (KeepsKey 0) w
        [.revokeAll, .dispatch 0 .changed [], .provide 0, .issue "csr-1" "ca" [],
          .dispatch 0 .changed [true]]).any fun w : World =>
            decide ((w.units 0).secrets.get "cert" = some "cert-1")) initial_deployed
    (by decide +kernel)
  obtain ⟨hcurrent, hl⟩ := Bool.and_eq_true_iff.mp hp
  obtain ⟨he, hcsr, hcert⟩ := of_decide_eq_true hcurrent
  obtain ⟨w', hl, hnew⟩ := (Option.any_eq_true _ _).mp hl
  exact ⟨w, w', hw, hl, of_decide_eq_true hnew, matched_of_exec hw he hcsr hcert hl⟩

end PgBouncerK8s.Certificates
