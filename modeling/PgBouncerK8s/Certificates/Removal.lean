import PgBouncerK8s.Certificates.Answers

/-!
# The relation is broken

`relation-broken` deletes the certificate, but neither the CSR nor the deferred events.

* `no_tls_of_reach`: a unit without the relation has no certificate, if no event for its CSR
  is deferred when the relation is broken.
* `tls_after_removal`: such an event enables TLS again.
-/

namespace PgBouncerK8s.Certificates

open Machine
open Tls (Certificate)

variable {pki : Pki} {u v units : ℕ} {x : Unit} {w w' : World}

namespace Unit

theorem onCertificateAvailable_of_ne {event : Certificate} {s : Unit × List Bool}
    (h : event.certificateSigningRequest ≠ s.1.csr) : onCertificateAvailable event s = s := by
  obtain ⟨-, he⟩ | ⟨hcsr, -⟩ | ⟨hcsr, -⟩ := onCertificateAvailable_cases event s
  · exact he
  · exact absurd hcsr h
  · exact absurd hcsr h

/-- Events for other CSRs are dropped. -/
theorem reemit_of_awaited (h : x.awaited = []) (pushes : List Bool) :
    reemit (x, pushes) = ({ x with deferred := [] }, pushes) := by
  refine reemit_rule (I := fun s => s = ({ x with deferred := [] }, pushes)) rfl
    fun event hm s hs => ?_
  have hne := List.filter_eq_nil_iff.mp h event hm
  rw [decide_eq_true_eq] at hne
  rw [hs]
  exact onCertificateAvailable_of_ne hne

/-- No certificate, and none to come. -/
structure Bare (x : Unit) : Prop where
  secrets : ∀ k ∈ ["ca", "cert", "chain"], x.secrets.get k = none
  awaited : x.awaited = []

theorem bare_broken (h : x.awaited = []) : x.onTlsRelationBroken.Bare where
  secrets k hk := by
    simp only [List.mem_cons, List.not_mem_nil, or_false] at hk
    rcases hk with rfl | rfl | rfl <;> rfl
  awaited := h

/-- A dispatch of a unit without the relation. -/
theorem Bare.dispatch (h : x.Bare) (hrel : x.related = false) {certificates : List Entry}
    {event : Event} (hevent : event.needsRelation = false) (pushes : List Bool) :
    (x.dispatch pki u certificates event pushes).Bare := by
  unfold Unit.dispatch
  rw [reemit_of_awaited h.awaited]
  have hdropped : Bare { x with deferred := [] } := ⟨h.secrets, rfl⟩
  cases event with
  | joined key => cases hevent
  | changed => cases hevent
  | broken => cases hevent
  | setTlsPrivateKey key =>
    refine ⟨fun k hk => ?_, rfl⟩
    have hne : k ≠ "csr" ∧ k ≠ "key" := by
      simp only [List.mem_cons, List.not_mem_nil, or_false] at hk
      rcases hk with rfl | rfl | rfl <;> decide
    exact (Databag.get_set_of_ne _ hne.1 _).trans
      ((Databag.get_set_of_ne _ hne.2 _).trans (h.secrets k hk))
  | secretExpired csr expired =>
    simp only
    rw [if_neg (by simp [hrel])]
    exact hdropped
  | updateStatus expired =>
    simp only
    rw [if_neg (by simp [hrel])]
    exact hdropped
  | other => exact hdropped

/-- Only `relation-broken` takes the relation. -/
theorem related_dispatch (x : Unit) (certificates : List Entry) {event : Event}
    (hevent : event ≠ .broken) (pushes : List Bool) :
    (x.dispatch pki u certificates event pushes).related = x.related :=
  dispatch_rule (I := fun y => y.related = x.related) rfl
    (fun event _ s hs => (sameRequests_available event s).related.trans hs)
    (fun _ _ y hy => (related_onCertificateExpiring _ y).trans hy) (fun _ _ _ hy => hy)
    (fun _ _ _ hy => hy) fun he => absurd he hevent

end Unit

/-- When the relation is broken, no event for the CSR of the unit stays deferred. -/
def Clean (w : World) : Action → Prop
  | .dispatch u .broken pushes => (Unit.reemit (w.units u, pushes)).1.awaited = []
  | _ => True

theorem bare_step {a : Action} (h : ∀ u, (w.units u).related = false → (w.units u).Bare)
    (hg : Clean w a) (hs : (machine pki units).step w a = some w') :
    ∀ u, (w'.units u).related = false → (w'.units u).Bare := by
  intro u hrel
  obtain ⟨event, pushes, rfl, hneeds, he⟩ | he | he := unit_step hs u
  · rw [he] at hrel ⊢
    by_cases hbroken : event = .broken
    · subst hbroken
      exact Unit.bare_broken hg
    · rw [Unit.related_dispatch _ _ hbroken] at hrel
      refine (h u hrel).dispatch hrel ?_ pushes
      by_contra hn
      rw [hneeds (Bool.not_eq_false _ ▸ hn)] at hrel
      cases hrel
  · rw [he] at hrel
    cases hrel
  · rw [he] at hrel ⊢
    exact h u hrel

/-- A unit that does not have the relation has neither a certificate nor TLS. -/
theorem no_tls_of_reach (hw : (machine pki units).Reach Clean w)
    (hrel : (w.units u).related = false) :
    (∀ k ∈ ["ca", "cert", "chain"], (w.units u).secrets.get k = none) ∧
      Tls.enableTls (w.units u).secrets = false := by
  have hbare := hw.invariant (I := fun w => ∀ u, (w.units u).related = false → (w.units u).Bare)
    (fun s hs u _ => by
      rw [hs.units]
      exact ⟨fun _ _ => rfl, rfl⟩)
    (fun s a s' _ hs hg ha => bare_step hs hg ha) u hrel
  refine ⟨hbare.secrets, ?_⟩
  have hcert := hbare.secrets "cert" (by simp)
  simp [Tls.enableTls, Tls.getTlsFiles, hcert]

instance (w : World) : (a : Action) → Decidable (Clean w a)
  | .dispatch u .broken pushes =>
      inferInstanceAs (Decidable ((Unit.reemit (w.units u, pushes)).1.awaited = []))
  | .dispatch _ (.joined _) _ | .dispatch _ .changed _ | .dispatch _ (.setTlsPrivateKey _) _
  | .dispatch _ (.secretExpired _ _) _ | .dispatch _ (.updateStatus _) _ | .dispatch _ .other _
  | .relate | .provide _ | .issue _ _ _ | .revokeAll | .remove _ => inferInstanceAs (Decidable True)

theorem no_tls_of_reach_sample : ∃ w, (machine numbered 2).Reach Clean w ∧
    w.issued.length = 1 ∧ (w.units 0).related = false ∧
    Tls.enableTls (w.units 0).secrets = false := by
  obtain ⟨w, hw, hp⟩ := exists_reach_of_exec (machine numbered 2) Clean deployed
    [.relate, .dispatch 0 (.joined "key") [], .provide 0, .issue "csr-0" "ca" [],
      .dispatch 0 .changed [false], .dispatch 0 .broken [true], .dispatch 0 .other []]
    (fun w => decide (w.issued.length = 1 ∧ (w.units 0).related = false)) initial_deployed
    (by decide +kernel)
  obtain ⟨hissued, hrel⟩ := of_decide_eq_true hp
  exact ⟨w, hw, hissued, hrel, (no_tls_of_reach hw hrel).2⟩

/-- The push fails until the relation has been broken; then the deferred event stores the
    certificate again. -/
theorem tls_after_removal : ∃ w, (machine numbered 2).Reach Steady w ∧
    (w.units 0).related = false ∧ Tls.enableTls (w.units 0).secrets = true := by
  obtain ⟨w, hw, hp⟩ := exists_reach_of_exec (machine numbered 2) Steady deployed
    [.relate, .dispatch 0 (.joined "key") [], .provide 0, .issue "csr-0" "ca" [],
      .dispatch 0 .changed [false], .dispatch 0 .broken [false], .dispatch 0 .other [true]]
    (fun w => decide ((w.units 0).related = false ∧ Tls.enableTls (w.units 0).secrets = true))
    initial_deployed (by decide +kernel)
  exact ⟨w, hw, of_decide_eq_true hp⟩

end PgBouncerK8s.Certificates
