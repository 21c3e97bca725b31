import Mathlib.Data.Nat.Pairing
import PgBouncerK8s.Certificates.Protocol

/-!
# The requests of the units

* `requested_of_exec`: from its first request on, and as long as it has the relation, the
  current CSR of a unit is in its databag, exactly once.
* `provided_of_reach`: a hook of the provider leaves the certificates that have their
  CSR in the databag of a unit, and no others.
-/

namespace PgBouncerK8s.Certificates

open Machine
open Tls (Certificate)

variable {pki : Pki} {u v units : ℕ} {x : Unit} {s : Unit × List Bool} {w w' : World}

/-! ## Lists of requests -/

theorem mem_addRequirerCsr {csr r : String} {l : List String} :
    r ∈ addRequirerCsr csr l ↔ r ∈ l ∨ r = csr := by
  unfold addRequirerCsr
  split_ifs with h
  · exact ⟨.inl, fun hr => hr.elim id fun he => he ▸ h⟩
  · rw [List.mem_append, List.mem_singleton]

theorem nodup_addRequirerCsr {csr : String} {l : List String} (h : l.Nodup) :
    (addRequirerCsr csr l).Nodup := by
  unfold addRequirerCsr
  split_ifs with hm
  · exact h
  · rw [← List.concat_eq_append]
    exact h.concat hm

/-- In a list without duplicates the loop finds the CSR. -/
theorem removeRequirerCsr_eq {csr : String} {l : List String} (h : l.Nodup) :
    removeRequirerCsr csr l = l.filter (· ≠ csr) := by
  unfold removeRequirerCsr
  split_ifs with hl
  · rw [hl]
    rfl
  · exact removeLoop_eq h

/-! ## The handlers -/

namespace Unit

theorem onCertificateAvailable_cases (event : Certificate) (s : Unit × List Bool) :
    event.certificateSigningRequest ≠ (s.1.secrets.get "csr").getD "None" ∧
      onCertificateAvailable event s = s ∨
    event.certificateSigningRequest = (s.1.secrets.get "csr").getD "None" ∧
      event.certificate = "" ∧ onCertificateAvailable event s =
        ({ s.1 with deferred := s.1.deferred ++ [event] }, s.2) ∨
    event.certificateSigningRequest = (s.1.secrets.get "csr").getD "None" ∧
      event.certificate ≠ "" ∧ onCertificateAvailable event s =
        ({ s.1 with
            secrets := Tls.storeCertificate event s.1.secrets
            deferred := if s.2.headD false then s.1.deferred else s.1.deferred ++ [event] },
          s.2.tail) := by
  unfold onCertificateAvailable
  by_cases hcsr : event.certificateSigningRequest = (s.1.secrets.get "csr").getD "None"
  · simp only [hcsr, ne_eq, not_true, if_false, false_and, false_or, true_and]
    by_cases hcert : event.certificate = ""
    · simp [hcert]
    · simp only [hcert, if_false, false_and, false_or, not_false_eq_true, true_and]
      split_ifs <;> rfl
  · simp [hcsr]

theorem onCertificateExpiring_cases (pki : Pki) (u : ℕ) (certificate : String) (x : Unit) :
    x.onCertificateExpiring pki u certificate = x ∨
    ∃ key oldCsr, certificate = (x.secrets.get "cert").getD "None" ∧
      x.secrets.get "key" = some key ∧ x.secrets.get "csr" = some oldCsr ∧
      x.onCertificateExpiring pki u certificate =
        { x with
          requests := requestCertificateRenewal oldCsr (pki.csr u x.keys.length) x.requests
          secrets := x.secrets.set "csr" (pki.csr u x.keys.length)
          keys := x.keys ++ [key] } := by
  unfold onCertificateExpiring
  by_cases hcert : certificate = (x.secrets.get "cert").getD "None"
  · rw [if_neg (not_not.mpr hcert)]
    cases hkey : x.secrets.get "key" with
    | none => exact .inl rfl
    | some key =>
      cases hcsr : x.secrets.get "csr" with
      | none => exact .inl rfl
      | some oldCsr => exact .inr ⟨key, oldCsr, hcert, rfl, rfl, rfl⟩
  · exact .inl (if_pos hcert)

/-! ## Rules for the dispatches -/

theorem reemit_rule {I : Unit × List Bool → Prop} (hstart : I ({ s.1 with deferred := [] }, s.2))
    (havailable : ∀ event ∈ s.1.deferred, ∀ s, I s → I (onCertificateAvailable event s)) :
    I (reemit s) :=
  List.foldlRecOn _ _ hstart fun s hs event hm => havailable event hm s hs

theorem onRelationChanged_rule {I : Unit × List Bool → Prop} {certificates : List Entry} (hs : I s)
    (havailable : ∀ entry ∈ certificates, entry.certificateSigningRequest ∈ s.1.requests →
      entry.revoked = false → ∀ s, I s → I (onCertificateAvailable entry.toCertificate s))
    (hexpiring : ∀ entry ∈ certificates, entry.certificateSigningRequest ∈ s.1.requests →
      entry.revoked = true → ∀ s, I s →
        I (s.1.onCertificateExpiring pki u entry.certificate, s.2)) :
    I (onRelationChanged pki u certificates s) := by
  refine List.foldlRecOn _ _ hs fun t ht entry hm => ?_
  unfold onProviderCertificate
  split_ifs with hcsr hrevoked
  · exact hexpiring entry hm hcsr hrevoked t ht
  · exact havailable entry hm hcsr (Bool.not_eq_true _ ▸ hrevoked) t ht
  · exact ht

theorem onExpiry_rule {I : Unit → Prop} {certificate : String} {expired : Bool}
    (hexpiring : ∀ x, I x → I (x.onCertificateExpiring pki u certificate))
    (hremove : ∀ x, I x → I { x with requests := removeRequirerCsr certificate x.requests })
    (hx : I x) : I (x.onExpiry pki u certificate expired) := by
  unfold onExpiry
  split_ifs
  · exact hremove _ (hexpiring x hx)
  · exact hexpiring x hx

theorem onSecretExpired_rule {I : Unit → Prop} {certificates : List Entry} {csr : String}
    {expired : Option Bool}
    (hexpiry : ∀ entry ∈ certificates, ∀ b x, I x → I (x.onExpiry pki u entry.certificate b))
    (hx : I x) : I (x.onSecretExpired pki u certificates csr expired) := by
  unfold onSecretExpired
  cases hfind : certificates.find? fun entry => entry.certificateSigningRequest = csr with
  | none => exact hx
  | some entry =>
    cases expired with
    | none => exact hx
    | some b => exact hexpiry entry (List.mem_of_find?_eq_some hfind) b x hx

theorem onUpdateStatus_rule {I : Unit → Prop} {certificates : List Entry}
    {expired : String → Option Bool}
    (hexpiry : ∀ entry ∈ certificates, ∀ b x, I x → I (x.onExpiry pki u entry.certificate b))
    (hx : I x) : I (x.onUpdateStatus pki u certificates expired) := by
  refine List.foldlRecOn _ _ hx fun y hy entry hm => ?_
  split
  · exact hexpiry entry hm _ y hy
  · exact hy

/-- What all handlers keep, a dispatch keeps. -/
theorem dispatch_rule {I : Unit → Prop} {certificates : List Entry} {event : Event}
    {pushes : List Bool} (hstart : I { x with deferred := [] })
    (havailable : ∀ event, (event ∈ x.deferred ∨ ∃ entry ∈ certificates,
      entry.revoked = false ∧ entry.toCertificate = event) → ∀ s : Unit × List Bool, I s.1 →
        I (onCertificateAvailable event s).1)
    (hexpiring : ∀ entry ∈ certificates, ∀ y, I y →
      I (y.onCertificateExpiring pki u entry.certificate))
    (hremove : ∀ entry ∈ certificates, ∀ y, I y →
      I { y with requests := removeRequirerCsr entry.certificate y.requests })
    (hrequest : ∀ key, event = .joined key ∨ event = .setTlsPrivateKey key →
      ∀ y, I y → I (y.requestCertificate pki u key))
    (hbroken : event = .broken → ∀ y, I y → I y.onTlsRelationBroken) :
    I (x.dispatch pki u certificates event pushes) := by
  have hreemit : I (reemit (x, pushes)).1 :=
    reemit_rule (I := fun s => I s.1) hstart fun event hm s hs => havailable event (.inl hm) s hs
  have hexpiry : ∀ entry ∈ certificates, ∀ b y, I y → I (y.onExpiry pki u entry.certificate b) :=
    fun entry hm b y hy => onExpiry_rule (hexpiring entry hm) (hremove entry hm) hy
  unfold dispatch
  generalize reemit (x, pushes) = s at hreemit
  cases event with
  | joined key => exact hrequest key (.inl rfl) s.1 hreemit
  | setTlsPrivateKey key => exact hrequest key (.inr rfl) s.1 hreemit
  | changed =>
    exact onRelationChanged_rule (I := fun s => I s.1) hreemit
      (fun entry hm _ hr s hs => havailable _ (.inr ⟨entry, hm, hr, rfl⟩) s hs)
      fun entry hm _ _ s hs => hexpiring entry hm s.1 hs
  | broken => exact hbroken rfl s.1 hreemit
  | secretExpired csr expired =>
    simp only
    split_ifs
    · exact onSecretExpired_rule hexpiry hreemit
    · exact hreemit
  | updateStatus expired =>
    simp only
    split_ifs
    · exact onUpdateStatus_rule hexpiry hreemit
    · exact hreemit
  | other => exact hreemit

theorem length_keys_onCertificateExpiring (certificate : String) (x : Unit) :
    x.keys.length ≤ (x.onCertificateExpiring pki u certificate).keys.length := by
  obtain he | ⟨key, oldCsr, -, -, -, he⟩ := onCertificateExpiring_cases pki u certificate x
  · rw [he]
  · rw [he]
    simp

theorem length_keys_dispatch (x : Unit) (certificates : List Entry) (event : Event)
    (pushes : List Bool) :
    x.keys.length ≤ (x.dispatch pki u certificates event pushes).keys.length := by
  refine dispatch_rule (I := fun y => x.keys.length ≤ y.keys.length) le_rfl
    (fun event _ s hs => ?_) (fun entry _ y hy => hy.trans (length_keys_onCertificateExpiring _ _))
    (fun entry _ y hy => hy) (fun key _ y hy => hy.trans (by simp [requestCertificate]))
    fun _ y hy => hy
  obtain ⟨-, he⟩ | ⟨-, -, he⟩ | ⟨-, -, he⟩ := onCertificateAvailable_cases event s <;> rwa [he]

/-- What is deferred was deferred before, or comes from the provider. -/
theorem deferred_dispatch (x : Unit) (certificates : List Entry) (event : Event)
    (pushes : List Bool) : ∀ e ∈ (x.dispatch pki u certificates event pushes).deferred,
      e ∈ x.deferred ∨ ∃ entry ∈ certificates, entry.revoked = false ∧ entry.toCertificate = e := by
  refine dispatch_rule (I := fun y => ∀ e ∈ y.deferred, e ∈ x.deferred ∨
    ∃ entry ∈ certificates, entry.revoked = false ∧ entry.toCertificate = e)
    (fun e he => by cases he) (fun event hevent s hs => ?_) (fun entry _ y hy => ?_)
    (fun entry _ y hy => hy) (fun key _ y hy => hy) fun _ y hy => hy
  · have happend : ∀ e ∈ s.1.deferred ++ [event], e ∈ x.deferred ∨
        ∃ entry ∈ certificates, entry.revoked = false ∧ entry.toCertificate = e := by
      intro e hm
      rcases List.mem_append.mp hm with hm | hm
      · exact hs e hm
      · exact List.mem_singleton.mp hm ▸ hevent
    obtain ⟨-, he⟩ | ⟨-, -, he⟩ | ⟨-, -, he⟩ := onCertificateAvailable_cases event s
    · rwa [he]
    · rw [he]
      exact happend
    · rw [he]
      simp only
      split_ifs
      · exact hs
      · exact happend
  · obtain he | ⟨key, oldCsr, -, -, -, he⟩ := onCertificateExpiring_cases pki u entry.certificate y
    · rwa [he]
    · rw [he]
      exact hy

end Unit

/-! ## One unit -/

/-- The current CSR is the last one that has been generated, with the current key. -/
structure Unit.Current (pki : Pki) (u : ℕ) (x : Unit) : Prop where
  csr : ∀ c, x.secrets.get "csr" = some c ↔ ∃ n, x.keys.length = n + 1 ∧ c = pki.csr u n
  key : ∀ k, x.secrets.get "key" = some k → x.keys.getLast? = some k

/-- The requests are CSRs that have been generated, among them the current one. -/
structure Unit.Sound (pki : Pki) (u : ℕ) (x : Unit) : Prop extends x.Current pki u where
  nodup : x.requests.Nodup
  own : ∀ r ∈ x.requests, ∃ n < x.keys.length, r = pki.csr u n
  current : x.requests ≠ [] → ∃ c ∈ x.requests, x.secrets.get "csr" = some c
  unrelated : x.related = false → x.requests = []

/-- A CSR is generated with the next key and stored. -/
theorem Unit.Current.generate {key : String} {secrets : Databag} {requests : List String}
    (hcsr : secrets.get "csr" = some (pki.csr u x.keys.length))
    (hkey : ∀ k, secrets.get "key" = some k → k = key) : Unit.Current pki u { x with
      secrets := secrets, requests := requests, keys := x.keys ++ [key] } where
  csr c := by
    rw [hcsr, Option.some_inj]
    simp only [List.length_append, List.length_singleton]
    constructor
    · rintro rfl
      exact ⟨x.keys.length, rfl, rfl⟩
    · rintro ⟨n, hn, rfl⟩
      rw [Nat.succ_injective hn]
  key k hk := by
    rw [hkey k hk]
    simp

theorem Unit.Current.congr {y : Unit} (h : x.Current pki u)
    (hcsr : y.secrets.get "csr" = x.secrets.get "csr")
    (hkey : y.secrets.get "key" = x.secrets.get "key") (hkeys : y.keys = x.keys) :
    y.Current pki u where
  csr := hcsr ▸ hkeys ▸ h.csr
  key := hkey ▸ hkeys ▸ h.key

namespace Unit.Sound

/-- The new CSR is sent or not. -/
theorem generate (h : x.Sound pki u) {key : String} {secrets : Databag} {requests : List String}
    (hcsr : secrets.get "csr" = some (pki.csr u x.keys.length))
    (hkey : ∀ k, secrets.get "key" = some k → k = key) (hnodup : requests.Nodup)
    (hown : ∀ r ∈ requests, r ∈ x.requests ∨ r = pki.csr u x.keys.length)
    (hcurrent : requests ≠ [] → pki.csr u x.keys.length ∈ requests)
    (hunrelated : x.related = false → requests = []) :
    Unit.Sound pki u { x with
      secrets := secrets, requests := requests, keys := x.keys ++ [key] } where
  toCurrent := .generate hcsr hkey
  nodup := hnodup
  own r hr := by
    simp only [List.length_append, List.length_singleton]
    rcases hown r hr with hr | rfl
    · obtain ⟨n, hn, he⟩ := h.own r hr
      exact ⟨n, hn.trans (Nat.lt_succ_self _), he⟩
    · exact ⟨x.keys.length, Nat.lt_succ_self _, rfl⟩
  current hne := ⟨_, hcurrent hne, hcsr⟩
  unrelated := hunrelated

theorem get_set_csr (b : Databag) (n : ℕ) :
    (b.set "csr" (pki.csr u n)).get "csr" = some (pki.csr u n) := by
  have hne : pki.csr u n ≠ "" := fun he => pki.csr_ne u n (by simp [he])
  rw [Databag.get_set, if_pos rfl, if_neg hne]

theorem requestCertificate (h : x.Sound pki u) (key : String) :
    (x.requestCertificate pki u key).Sound pki u := by
  refine h.generate (get_set_csr _ _) (fun k hk => ?_) ?_ (fun r hr => ?_) (fun hne => ?_)
    fun hr => ?_
  · rw [Databag.get_set_of_ne _ (by decide), Databag.get_set, if_pos rfl] at hk
    split_ifs at hk
    exact (Option.some.inj hk).symm
  · split_ifs
    · exact nodup_addRequirerCsr h.nodup
    · exact h.nodup
  · split_ifs at hr
    · exact mem_addRequirerCsr.mp hr
    · exact .inl hr
  · split_ifs at hne ⊢ with hrel
    · exact mem_addRequirerCsr.mpr (.inr rfl)
    · exact absurd (h.unrelated (Bool.not_eq_true _ ▸ hrel)) hne
  · rw [if_neg (by simp [hr])]
    exact h.unrelated hr

theorem onCertificateExpiring (h : x.Sound pki u) (hrel : x.related = true)
    (certificate : String) : (x.onCertificateExpiring pki u certificate).Sound pki u := by
  obtain he | ⟨key, oldCsr, -, hkey, -, he⟩ :=
    Unit.onCertificateExpiring_cases pki u certificate x
  · rw [he]
    exact h
  · rw [he]
    unfold requestCertificateRenewal
    rw [removeRequirerCsr_eq h.nodup]
    refine h.generate (get_set_csr _ _) (fun k hk => ?_) (nodup_addRequirerCsr (h.nodup.filter _))
      (fun r hr => ?_) (fun _ => mem_addRequirerCsr.mpr (.inr rfl)) fun hr => ?_
    · rw [Databag.get_set_of_ne _ (by decide), hkey] at hk
      exact (Option.some.inj hk).symm
    · exact (mem_addRequirerCsr.mp hr).imp_left fun hr => List.mem_of_mem_filter hr
    · rw [hrel] at hr
      cases hr

theorem congr {y : Unit} (h : x.Sound pki u) (hcsr : y.secrets.get "csr" = x.secrets.get "csr")
    (hkey : y.secrets.get "key" = x.secrets.get "key") (hrequests : y.requests = x.requests)
    (hkeys : y.keys = x.keys) (hrelated : y.related = x.related) : y.Sound pki u where
  toCurrent := h.toCurrent.congr hcsr hkey hkeys
  nodup := hrequests ▸ h.nodup
  own := hrequests ▸ hkeys ▸ h.own
  current := hrequests ▸ hcsr ▸ h.current
  unrelated := hrelated ▸ hrequests ▸ h.unrelated

theorem onTlsRelationBroken (h : x.Sound pki u) : x.onTlsRelationBroken.Sound pki u where
  toCurrent := h.toCurrent.congr rfl rfl rfl
  nodup := List.nodup_nil
  own r hr := by cases hr
  current hne := absurd rfl hne
  unrelated _ := rfl

end Unit.Sound

/-! ## What a hook leaves alone -/

theorem get_storeCertificate_of_ne (event : Certificate) (b : Databag) {k : String}
    (h : k ∉ ["ca", "cert", "chain"]) : (Tls.storeCertificate event b).get k = b.get k := by
  simp only [List.mem_cons, List.not_mem_nil, or_false, not_or] at h
  unfold Tls.storeCertificate
  rw [Databag.get_set_of_ne _ h.1, Databag.get_set_of_ne _ h.2.1, Databag.get_set_of_ne _ h.2.2]

/-- All but the certificate and what is deferred. -/
structure Unit.SameRequests (x y : Unit) : Prop where
  csr : y.secrets.get "csr" = x.secrets.get "csr"
  key : y.secrets.get "key" = x.secrets.get "key"
  requests : y.requests = x.requests
  keys : y.keys = x.keys
  related : y.related = x.related

namespace Unit

theorem SameRequests.refl (x : Unit) : x.SameRequests x := ⟨rfl, rfl, rfl, rfl, rfl⟩

theorem SameRequests.trans {y z : Unit} (h : x.SameRequests y) (h' : y.SameRequests z) :
    x.SameRequests z :=
  ⟨h'.csr.trans h.csr, h'.key.trans h.key, h'.requests.trans h.requests, h'.keys.trans h.keys,
    h'.related.trans h.related⟩

theorem SameRequests.sound {y : Unit} (hs : x.SameRequests y) (h : x.Sound pki u) :
    y.Sound pki u :=
  h.congr hs.csr hs.key hs.requests hs.keys hs.related

theorem sameRequests_available (event : Certificate) (s : Unit × List Bool) :
    s.1.SameRequests (onCertificateAvailable event s).1 := by
  obtain ⟨-, he⟩ | ⟨-, -, he⟩ | ⟨-, -, he⟩ := onCertificateAvailable_cases event s
  · rw [he]
    exact .refl _
  · rw [he]
    exact ⟨rfl, rfl, rfl, rfl, rfl⟩
  · rw [he]
    exact ⟨get_storeCertificate_of_ne _ _ (by decide), get_storeCertificate_of_ne _ _ (by decide),
      rfl, rfl, rfl⟩

theorem sameRequests_reemit (s : Unit × List Bool) : s.1.SameRequests (reemit s).1 :=
  reemit_rule (I := fun t => s.1.SameRequests t.1) ⟨rfl, rfl, rfl, rfl, rfl⟩
    fun event _ t ht => ht.trans (sameRequests_available event t)

theorem related_onCertificateExpiring (certificate : String) (x : Unit) :
    (x.onCertificateExpiring pki u certificate).related = x.related := by
  obtain he | ⟨key, oldCsr, -, -, -, he⟩ :=
    onCertificateExpiring_cases pki u certificate x <;> rw [he]

/-- The revocation of a certificate that has expired looks for a CSR that is none. -/
theorem removeRequirerCsr_eq_self (h : x.Sound pki u) {certificate : String}
    (hcert : ∀ n, certificate ≠ pki.csr u n) :
    removeRequirerCsr certificate x.requests = x.requests := by
  refine (removeRequirerCsr_eq h.nodup).trans (List.filter_eq_self.mpr fun r hr => ?_)
  obtain ⟨n, -, rfl⟩ := h.own r hr
  exact decide_eq_true (hcert n).symm

theorem Sound.onExpiry (h : x.Sound pki u ∧ x.related = true) {certificate : String}
    (hcert : ∀ n, certificate ≠ pki.csr u n) (expired : Bool) :
    (x.onExpiry pki u certificate expired).Sound pki u ∧
      (x.onExpiry pki u certificate expired).related = true := by
  exact onExpiry_rule (I := fun x => x.Sound pki u ∧ x.related = true)
    (fun x hx => ⟨hx.1.onCertificateExpiring hx.2 _,
      (related_onCertificateExpiring _ _).trans hx.2⟩)
    (fun x hx => ⟨hx.1.congr rfl rfl (removeRequirerCsr_eq_self hx.1 hcert) rfl rfl, hx.2⟩) h

theorem Sound.dispatch (h : x.Sound pki u) {certificates : List Entry} {event : Event}
    (hrel : event.needsRelation = true → x.related = true)
    (hcert : ∀ entry ∈ certificates, ∀ n, entry.certificate ≠ pki.csr u n) (pushes : List Bool) :
    (x.dispatch pki u certificates event pushes).Sound pki u := by
  have hsame := sameRequests_reemit (x, pushes)
  have hsound := hsame.sound h
  unfold Unit.dispatch
  generalize reemit (x, pushes) = s at hsame hsound
  cases event with
  | joined key => exact hsound.requestCertificate key
  | setTlsPrivateKey key => exact hsound.requestCertificate key
  | changed =>
    have hrel' := hsame.related.trans (hrel rfl)
    exact (onRelationChanged_rule (I := fun t => t.1.Sound pki u ∧ t.1.related = true)
      ⟨hsound, hrel'⟩
      (fun entry _ _ _ t ht =>
        have hs := sameRequests_available entry.toCertificate t
        ⟨hs.sound ht.1, hs.related.trans ht.2⟩)
      fun entry _ _ _ t ht => ⟨ht.1.onCertificateExpiring ht.2 _,
        (related_onCertificateExpiring _ _).trans ht.2⟩).1
  | broken =>
    exact hsound.onTlsRelationBroken
  | secretExpired csr expired =>
    simp only
    split_ifs with hr
    · exact (onSecretExpired_rule (I := fun y => y.Sound pki u ∧ y.related = true)
        (fun entry hm b y hy => Sound.onExpiry hy (hcert entry hm) b) ⟨hsound, hr⟩).1
    · exact hsound
  | updateStatus expired =>
    simp only
    split_ifs with hr
    · exact (onUpdateStatus_rule (I := fun y => y.Sound pki u ∧ y.related = true)
        (fun entry hm b y hy => Sound.onExpiry hy (hcert entry hm) b) ⟨hsound, hr⟩).1
    · exact hsound
  | other => exact hsound

/-- As long as a unit has the relation, it does not take back all its requests. -/
theorem requests_dispatch {certificates : List Entry} {event : Event} (h : x.Sound pki u)
    (hne : x.requests ≠ []) (hevent : event ≠ .broken)
    (hcert : ∀ entry ∈ certificates, ∀ n, entry.certificate ≠ pki.csr u n) (pushes : List Bool) :
    (x.dispatch pki u certificates event pushes).requests ≠ [] := by
  have hrel : x.related = true := by
    by_contra hr
    exact hne (h.unrelated (Bool.not_eq_true _ ▸ hr))
  refine (dispatch_rule (I := fun y => (y.Sound pki u ∧ y.related = true) ∧ y.requests ≠ [])
    ⟨⟨h.congr rfl rfl rfl rfl rfl, hrel⟩, hne⟩ (fun event _ s hs => ?_) (fun entry _ y hy => ?_)
    (fun entry hm y hy => ?_) (fun key _ y hy => ?_) fun he => absurd he hevent).2
  · have hsame := sameRequests_available event s
    exact ⟨⟨hsame.sound hs.1.1, hsame.related.trans hs.1.2⟩, hsame.requests ▸ hs.2⟩
  · refine ⟨⟨hy.1.1.onCertificateExpiring hy.1.2 _,
      (related_onCertificateExpiring _ _).trans hy.1.2⟩, ?_⟩
    obtain he | ⟨key, oldCsr, -, -, -, he⟩ := onCertificateExpiring_cases pki u entry.certificate y
    · rw [he]
      exact hy.2
    · rw [he]
      exact List.ne_nil_of_mem (mem_addRequirerCsr.mpr (.inr rfl))
  · have hsame := removeRequirerCsr_eq_self hy.1.1 (hcert entry hm)
    exact ⟨⟨hy.1.1.congr rfl rfl hsame rfl rfl, hy.1.2⟩, by rw [hsame]; exact hy.2⟩
  · refine ⟨⟨hy.1.1.requestCertificate key, hy.1.2⟩, ?_⟩
    unfold Unit.requestCertificate
    simp only [hy.1.2, if_true]
    exact List.ne_nil_of_mem (mem_addRequirerCsr.mpr (.inr rfl))

end Unit

/-! ## The databag of the provider -/

theorem removeCertificate_eq {certificates : List Entry} {certificate : String}
    (h : (certificates.map fun entry => entry.certificate).Nodup) :
    removeCertificate certificate certificates =
      certificates.filter fun entry => entry.certificate ≠ certificate :=
  removeLoop_map_eq _ h

theorem setRelationCertificate_eq {certificates : List Entry} (new : Certificate)
    (h : (certificates.map fun entry => entry.certificateSigningRequest).Nodup) :
    setRelationCertificate new certificates =
      (certificates.filter fun entry =>
        entry.certificateSigningRequest ≠ new.certificateSigningRequest) ++ [⟨new, false⟩] := by
  unfold setRelationCertificate addCertificate
  rw [removeLoop_map_eq (fun entry : Entry => entry.certificateSigningRequest) h, if_neg]
  intro hm
  simpa using (List.mem_filter.mp hm).2

/-- The loop of the provider removes what it should: each certificate stands in one
    entry. -/
theorem revokeCertificates_eq {certificates : List Entry} (listOfCsrs : List String)
    (h : (certificates.map fun entry => entry.certificate).Nodup) :
    revokeCertificatesForWhichNoCsrExists listOfCsrs certificates =
      certificates.filter fun entry => entry.certificateSigningRequest ∈ listOfCsrs := by
  have key : ∀ (l kept : List Entry), (kept.map fun entry => entry.certificate).Nodup →
      l.foldl (fun kept entry =>
        if entry.certificateSigningRequest ∉ listOfCsrs then
          removeCertificate entry.certificate kept else kept) kept =
        kept.filter fun entry => ∀ d ∈ l, d.certificateSigningRequest ∉ listOfCsrs →
          entry.certificate ≠ d.certificate := by
    intro l
    induction l with
    | nil => simp
    | cons d l ih =>
      intro kept hk
      rw [List.foldl_cons]
      by_cases hd : d.certificateSigningRequest ∈ listOfCsrs
      · rw [if_neg (not_not.mpr hd), ih kept hk]
        simp [hd]
      · rw [if_pos hd, removeCertificate_eq hk, ih _ (hk.sublist (List.filter_sublist.map _)),
          List.filter_filter]
        refine List.filter_congr fun entry _ => ?_
        simp [hd, Bool.and_comm]
  unfold revokeCertificatesForWhichNoCsrExists
  rw [key certificates certificates h]
  refine List.filter_congr fun entry hm => ?_
  rw [decide_eq_decide]
  constructor
  · intro hall
    by_contra hout
    exact hall entry hm hout rfl
  · intro hin d hd hout he
    exact hout (List.inj_on_of_nodup_map h hm hd he ▸ hin)

/-! ## All parties -/

/-- A text that some unit has generated as a CSR. -/
def World.Generated (pki : Pki) (w : World) (c : String) : Prop :=
  ∃ v n, n < (w.units v).keys.length ∧ c = pki.csr v n

/-- The units are sound, and all that has been sent comes from where it should. -/
structure World.Sound (pki : Pki) (units : ℕ) (w : World) : Prop where
  unit : ∀ u, (w.units u).Sound pki u
  entries : ∀ entry ∈ w.certificates, entry.toCertificate ∈ w.issued
  deferred : ∀ u, ∀ event ∈ (w.units u).deferred, event ∈ w.issued
  asked : ∀ c ∈ w.asked, w.Generated pki c
  issued : ∀ e ∈ w.issued, w.Generated pki e.certificateSigningRequest
  text : ∀ i e, w.issued[i]? = some e → e.certificate = pki.certificate i
  nodup : (w.certificates.map fun entry => entry.certificateSigningRequest).Nodup
  outside : ∀ u, units ≤ u → (w.units u).related = false

namespace World.Sound

theorem of_initial (h : Initial w) : w.Sound pki units where
  unit u := by
    rw [h.units]
    exact ⟨⟨fun c => by simp [Databag.empty], fun k hk => by simp [Databag.empty] at hk⟩,
      List.nodup_nil, fun r hr => by simp at hr, fun hne => absurd rfl hne, fun _ => rfl⟩
  entries entry hm := by simp [h.certificates] at hm
  deferred u event hm := by simp [h.units] at hm
  asked c hc := by simp [h.asked] at hc
  issued e he := by simp [h.issued] at he
  text i e he := by simp [h.issued] at he
  nodup := by simp [h.certificates]
  outside u _ := by simp [h.units]

theorem certificate_ne_csr (h : w.Sound pki units) {e : Certificate} (he : e ∈ w.issued) (u n : ℕ) :
    e.certificate ≠ pki.csr u n := by
  obtain ⟨i, hi⟩ := List.getElem?_of_mem he
  rw [h.text i e hi]
  exact pki.certificate_ne_csr i u n

/-- The databag of the provider is written with entries it has or had issued. -/
theorem setCertificates (h : w.Sound pki units) {certificates : List Entry}
    (hentries : ∀ entry ∈ certificates, entry.toCertificate ∈ w.issued)
    (hnodup : (certificates.map fun entry => entry.certificateSigningRequest).Nodup) :
    (w.setCertificates certificates).Sound pki units :=
  { h with entries := hentries, nodup := hnodup }

/-- A certificate stands in one entry of the provider. -/
theorem nodup_certificate (h : w.Sound pki units) :
    (w.certificates.map fun entry => entry.certificate).Nodup := by
  refine List.pairwise_map.mpr (List.Pairwise.imp_of_mem (fun {e d} he hd hne heq => ?_)
    (List.pairwise_map.mp h.nodup))
  obtain ⟨i, hi⟩ := List.getElem?_of_mem (h.entries e he)
  obtain ⟨j, hj⟩ := List.getElem?_of_mem (h.entries d hd)
  rw [h.text i _ hi, h.text j _ hj] at heq
  obtain rfl := pki.certificate_inj heq
  exact hne (congrArg Certificate.certificateSigningRequest (Option.some.inj (hi.symm.trans hj)))

theorem filter (h : w.Sound pki units) (p : Entry → Bool) :
    (w.setCertificates (w.certificates.filter p)).Sound pki units :=
  h.setCertificates (fun entry hm => h.entries entry (List.mem_of_mem_filter hm))
    (h.nodup.sublist (List.filter_sublist.map _))

theorem provide (h : w.Sound pki units) (u : ℕ) : (w.provide units u).Sound pki units := by
  unfold World.provide
  simp only
  split_ifs
  · exact { h with }
  · rw [revokeCertificates_eq _ h.nodup_certificate]
    have hasked : ∀ c ∈ w.asked ++ (w.units u).requests.filter
        (· ∉ w.certificates.map fun entry => entry.certificateSigningRequest),
        w.Generated pki c := by
      intro c hc
      rcases List.mem_append.mp hc with hc | hc
      · exact h.asked c hc
      · obtain ⟨n, hn, rfl⟩ := (h.unit u).own c (List.mem_of_mem_filter hc)
        exact ⟨u, n, hn, rfl⟩
    have hfilter := h.filter fun entry => entry.certificateSigningRequest ∈ w.listOfCsrs units
    exact { h with entries := hfilter.entries, nodup := hfilter.nodup, asked := hasked }

theorem issue (h : w.Sound pki units) {csr : String} (hcsr : csr ∈ w.asked) (ca : String)
    (chain : List String) : (w.issue pki csr ca chain).Sound pki units := by
  unfold World.issue
  simp only
  rw [setRelationCertificate_eq _ h.nodup]
  constructor
  case unit => exact h.unit
  case entries =>
    intro entry hm
    rcases List.mem_append.mp hm with hm | hm
    · exact List.mem_append_left _ (h.entries entry (List.mem_of_mem_filter hm))
    · rw [List.mem_singleton.mp hm]
      exact List.mem_append_right _ (List.mem_singleton_self _)
  case deferred => exact fun v e he => List.mem_append_left _ (h.deferred v e he)
  case asked => exact h.asked
  case issued =>
    intro e he
    rcases List.mem_append.mp he with he | he
    · exact h.issued e he
    · rw [List.mem_singleton.mp he]
      exact h.asked csr hcsr
  case text =>
    intro i e hi
    simp only [World.setCertificates] at hi
    rw [List.getElem?_append] at hi
    split_ifs at hi with hlt
    · exact h.text i e hi
    · rw [List.getElem?_singleton] at hi
      split_ifs at hi with hz
      obtain rfl : i = w.issued.length := by omega
      cases hi
      rfl
  case nodup =>
    simp only [World.setCertificates, List.map_append, List.map_cons, List.map_nil]
    rw [← List.concat_eq_append]
    refine (h.nodup.sublist (List.filter_sublist.map _)).concat fun hm => ?_
    obtain ⟨entry, hm, he⟩ := List.mem_map.mp hm
    simpa [he] using (List.mem_filter.mp hm).2
  case outside => exact h.outside

theorem revokeAll (h : w.Sound pki units) :
    (w.setCertificates (revokeAllCertificates w.certificates)).Sound pki units := by
  refine h.setCertificates (fun entry hm => ?_) ?_
  · obtain ⟨old, hold, rfl⟩ := List.mem_map.mp hm
    exact h.entries old hold
  · unfold revokeAllCertificates
    rw [List.map_map]
    exact h.nodup

theorem relate (h : w.Sound pki units) : World.Sound pki units { w with
    units := fun u => if u < units then { w.units u with related := true } else w.units u
    certificates := []
    asked := []
    pending := fun _ => false
    outdated := fun _ => false } where
  unit u := by
    simp only
    split_ifs
    · exact { h.unit u with unrelated := fun hr => by cases hr }
    · exact h.unit u
  entries entry hm := by cases hm
  deferred u event he := by
    simp only at he
    split_ifs at he <;> exact h.deferred u event he
  asked c hc := by cases hc
  issued e he := by
    obtain ⟨v, n, hn, hc⟩ := h.issued e he
    refine ⟨v, n, ?_, hc⟩
    simp only
    split_ifs <;> exact hn
  text := h.text
  nodup := List.nodup_nil
  outside u hu := by
    simp only
    rw [if_neg (Nat.not_lt.mpr hu)]
    exact h.outside u hu

theorem dispatch (h : w.Sound pki units) {event : Event} (hu : u < units)
    (hrel : event.needsRelation = true → (w.units u).related = true) (pushes : List Bool) :
    (w.dispatch pki u event pushes).Sound pki units := by
  have hcert : ∀ entry ∈ w.certificates, ∀ n, entry.certificate ≠ pki.csr u n :=
    fun entry hm n => h.certificate_ne_csr (h.entries entry hm) u n
  have hgenerated : ∀ c, w.Generated pki c → (w.dispatch pki u event pushes).Generated pki c := by
    rintro c ⟨v, n, hn, rfl⟩
    refine ⟨v, n, ?_, rfl⟩
    simp only [World.dispatch]
    by_cases hv : v = u
    · subst hv
      rw [Function.update_self]
      exact hn.trans_le (Unit.length_keys_dispatch _ _ _ _)
    · rwa [Function.update_of_ne hv]
  constructor
  case unit =>
    intro v
    simp only [World.dispatch]
    by_cases hv : v = u
    · subst hv
      rw [Function.update_self]
      exact (h.unit v).dispatch hrel hcert pushes
    · rw [Function.update_of_ne hv]
      exact h.unit v
  case entries => exact h.entries
  case deferred =>
    intro v e he
    simp only [World.dispatch] at he ⊢
    by_cases hv : v = u
    · subst hv
      rw [Function.update_self] at he
      obtain he | ⟨entry, hm, -, rfl⟩ := Unit.deferred_dispatch _ _ _ _ e he
      · exact h.deferred v e he
      · exact h.entries entry hm
    · rw [Function.update_of_ne hv] at he
      exact h.deferred v e he
  case asked => exact fun c hc => hgenerated c (h.asked c hc)
  case issued => exact fun e he => hgenerated _ (h.issued e he)
  case text => exact h.text
  case nodup => exact h.nodup
  case outside =>
    intro v hv
    simp only [World.dispatch]
    rw [Function.update_of_ne (Nat.ne_of_gt (hu.trans_le hv))]
    exact h.outside v hv

theorem step {a : Action} (h : w.Sound pki units)
    (hs : (machine pki units).step w a = some w') :
    w'.Sound pki units := by
  cases a with
  | relate =>
    obtain ⟨-, hs⟩ := Option.ite_none_right_eq_some.mp hs
    cases hs
    exact h.relate
  | dispatch u event pushes =>
    obtain ⟨⟨hu, hrel, -⟩, hs⟩ := Option.ite_none_right_eq_some.mp hs
    cases hs
    exact h.dispatch hu hrel pushes
  | provide u =>
    obtain ⟨-, hs⟩ := Option.ite_none_right_eq_some.mp hs
    cases hs
    exact h.provide u
  | issue csr ca chain =>
    obtain ⟨hcsr, hs⟩ := Option.ite_none_right_eq_some.mp hs
    cases hs
    exact h.issue hcsr ca chain
  | revokeAll =>
    cases hs
    exact h.revokeAll
  | remove certificate =>
    cases hs
    rw [removeCertificate_eq h.nodup_certificate]
    exact h.filter _

end World.Sound

theorem sound_of_reach {guard : World → Action → Prop} (h : (machine pki units).Reach guard w) :
    w.Sound pki units :=
  h.invariant (fun _ hs => .of_initial hs) fun _ _ _ _ hs _ ha => hs.step ha

/-! ## Requests -/

/-- The unit keeps the relation. -/
def KeepsRelation (u : ℕ) (_ : World) : Action → Prop
  | .dispatch v .broken _ => v ≠ u
  | _ => True

instance (u : ℕ) (w : World) : (a : Action) → Decidable (KeepsRelation u w a)
  | .dispatch v .broken _ => inferInstanceAs (Decidable (v ≠ u))
  | .dispatch _ (.joined _) _ | .dispatch _ .changed _ | .dispatch _ (.setTlsPrivateKey _) _
  | .dispatch _ (.secretExpired _ _) _ | .dispatch _ (.updateStatus _) _ | .dispatch _ .other _
  | .relate | .provide _ | .issue _ _ _ | .revokeAll | .remove _ => inferInstanceAs (Decidable True)

/-- What a step does to one unit. -/
theorem unit_step {a : Action} (hs : (machine pki units).step w a = some w') (u : ℕ) :
    (∃ event pushes, a = .dispatch u event pushes ∧
      (event.needsRelation = true → (w.units u).related = true) ∧
      w'.units u = (w.units u).dispatch pki u w.certificates event pushes) ∨
    w'.units u = { w.units u with related := true } ∨ w'.units u = w.units u := by
  cases a with
  | relate =>
    obtain ⟨-, hs⟩ := Option.ite_none_right_eq_some.mp hs
    cases hs
    by_cases hu : u < units
    · exact .inr (.inl (if_pos hu))
    · exact .inr (.inr (if_neg hu))
  | dispatch v event pushes =>
    obtain ⟨⟨-, hneeds, -⟩, hs⟩ := Option.ite_none_right_eq_some.mp hs
    cases hs
    by_cases hv : u = v
    · subst hv
      exact .inl ⟨event, pushes, rfl, hneeds, Function.update_self _ _ _⟩
    · exact .inr (.inr (Function.update_of_ne hv _ _))
  | provide v =>
    obtain ⟨-, hs⟩ := Option.ite_none_right_eq_some.mp hs
    cases hs
    refine .inr (.inr ?_)
    unfold World.provide
    simp only
    split_ifs <;> rfl
  | issue csr ca chain =>
    obtain ⟨-, hs⟩ := Option.ite_none_right_eq_some.mp hs
    cases hs
    exact .inr (.inr rfl)
  | revokeAll =>
    cases hs
    exact .inr (.inr rfl)
  | remove certificate =>
    cases hs
    exact .inr (.inr rfl)

theorem World.Sound.requests_step {a : Action} (h : w.Sound pki units)
    (hne : (w.units u).requests ≠ []) (hg : KeepsRelation u w a)
    (hs : (machine pki units).step w a = some w') : (w'.units u).requests ≠ [] := by
  obtain ⟨event, pushes, rfl, -, he⟩ | he | he := unit_step hs u
  · rw [he]
    refine Unit.requests_dispatch (h.unit u) hne (fun hbroken => ?_)
      (fun entry hm n => h.certificate_ne_csr (h.entries entry hm) u n) pushes
    subst hbroken
    exact hg rfl
  · rw [he]
    exact hne
  · rwa [he]

/-- No request is lost: from its first request on, through all events, new keys,
    renewals and revocations, the current CSR of a unit stands in its databag once, until
    the relation is broken. -/
theorem requested_of_exec {l : List Action} (hw : (machine pki units).Reach always w)
    (hne : (w.units u).requests ≠ [])
    (hl : (machine pki units).exec (KeepsRelation u) w l = some w') :
    ∃ c, (w'.units u).secrets.get "csr" = some c ∧ (w'.units u).requests.count c = 1 := by
  obtain ⟨hsound, hrequests⟩ := exec_invariant
    (I := fun w => w.Sound pki units ∧ (w.units u).requests ≠ [])
    (fun s a s' hs hg ha => ⟨hs.1.step ha, hs.1.requests_step hs.2 hg ha⟩)
    ⟨sound_of_reach hw, hne⟩ hl
  obtain ⟨c, hc, hcsr⟩ := (hsound.unit u).current hrequests
  exact ⟨c, hcsr, List.count_eq_one_of_mem (hsound.unit u).nodup hc⟩

/-- CSRs and certificates with numbers. -/
def numbered : Pki where
  csr u n := "csr-" ++ Text.str (Nat.pair u n)
  certificate k := "cert-" ++ Text.str k
  csr_inj h := Nat.pair_eq_pair.mp (Text.str_injective ((String.append_right_inj _).mp h))
  csr_ne u n h := by
    rcases List.mem_pair.mp h with h | h <;> simpa using congrArg String.toList h
  certificate_inj h := Text.str_injective ((String.append_right_inj _).mp h)
  certificate_ne k h := by
    rcases List.mem_pair.mp h with h | h <;> simpa using congrArg String.toList h
  certificate_ne_csr k u n h := by simpa using congrArg String.toList h

def deployed : World :=
  ⟨fun _ => ⟨Databag.empty, [], [], false, []⟩, [], [], [], fun _ => false, fun _ => false⟩

theorem initial_deployed : Initial deployed := ⟨rfl, rfl, rfl, rfl⟩

theorem requested_of_exec_sample : ∃ w w', (machine numbered 2).Reach always w ∧
    (machine numbered 2).exec (KeepsRelation 0) w
      [.provide 0, .issue "csr-0" "ca" [], .dispatch 0 .changed [false], .revokeAll,
        .dispatch 0 .changed [true, true]] = some w' ∧
    ∃ c, (w'.units 0).secrets.get "csr" = some c ∧ (w'.units 0).requests.count c = 1 := by
  obtain ⟨w, hw, hp⟩ := exists_reach_of_exec (machine numbered 2) always deployed
    [.relate, .dispatch 0 (.joined "key") []]
    (fun w => decide ((w.units 0).requests ≠ [] ∧ ((machine numbered 2).exec (KeepsRelation 0) w
      [.provide 0, .issue "csr-0" "ca" [], .dispatch 0 .changed [false], .revokeAll,
        .dispatch 0 .changed [true, true]]).isSome = true)) initial_deployed (by decide +kernel)
  obtain ⟨hne, hl⟩ := of_decide_eq_true hp
  obtain ⟨w', hl⟩ := Option.isSome_iff_exists.mp hl
  exact ⟨w, w', hw, hl, requested_of_exec hw hne hl⟩

/-- After a hook of the provider its certificates are those that had their CSR in the
    databag of a unit: none is left over, whatever loops have run over the lists. -/
theorem provided_of_reach (hw : (machine pki units).Reach always w)
    (hne : (w.units u).requests ≠ []) :
    (w.provide units u).certificates =
      w.certificates.filter fun entry =>
        ∃ v < units, entry.certificateSigningRequest ∈ (w.units v).requests := by
  have hsound := sound_of_reach hw
  unfold World.provide
  simp only [if_neg hne, World.setCertificates]
  rw [revokeCertificates_eq _ hsound.nodup_certificate]
  refine List.filter_congr fun entry _ => ?_
  simp [World.listOfCsrs]

theorem provided_of_reach_sample : ∃ w, (machine numbered 2).Reach always w ∧
    w.certificates ≠ [] ∧ (w.provide 2 0).certificates =
      w.certificates.filter fun entry =>
        ∃ v < (2 : ℕ), entry.certificateSigningRequest ∈ (w.units v).requests := by
  obtain ⟨w, hw, hp⟩ := exists_reach_of_exec (machine numbered 2) always deployed
    [.relate, .dispatch 0 (.joined "key") [], .provide 0, .issue "csr-0" "ca" [],
      .dispatch 0 .changed [true], .revokeAll, .dispatch 0 .changed []]
    (fun w => decide ((w.units 0).requests ≠ [] ∧ w.certificates ≠ [])) initial_deployed
    (by decide +kernel)
  obtain ⟨hne, hcert⟩ := of_decide_eq_true hp
  exact ⟨w, hw, hcert, provided_of_reach hw hne⟩

end PgBouncerK8s.Certificates
