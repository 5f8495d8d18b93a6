import DaemonPki.Certificate.LifecyclePass
import DaemonPki.Validation.Chain

/-!
# The end of a validity window

Two modules decide when a certificate has expired: the lifecycle manager for the tracked
certificates (`daemon-pki-core/src/certificate/lifecycle.rs`), from the end of the window on, and
the validator (`daemon-pki-core/src/validation/certificate.rs`), after it. They part at one
instant, the end itself.

## Main definitions

* `DaemonPki.CertificateMetadata.validity`: the window of a tracked certificate.
* `DaemonPki.LifecycleManager.Expires`, `DaemonPki.LifecycleManager.ExpiryAgrees`.

## Main results

* `DaemonPki.LifecycleManager.expiryAgrees_iff`: when the two modules agree.
* `DaemonPki.LifecycleManager.isTerminal_of_accepted_iff`: when a tracked certificate whose chain
  is accepted is terminal.
-/

namespace DaemonPki

open Foundation

/-- The window of a tracked certificate, as the validator takes it. -/
def CertificateMetadata.validity (c : CertificateMetadata) : CertificateValidity :=
  ⟨c.notBefore, c.notAfter⟩

/-- A window is reported as expired after its end, unless it has not begun. -/
theorem CertificateValidity.validate_eq_expired_iff {validity : CertificateValidity}
    {now : OffsetDateTime} :
    validity.validate now = .error .expired ↔
      validity.notBefore ≤ now ∧ validity.notAfter < now := by
  rw [validate, ← Int.not_lt]
  split_ifs <;> simp [*]

namespace LifecycleManager

variable {clock : EvaluationClock} {now : OffsetDateTime} {c c' : CertificateMetadata}

/-- Evaluation moves the certificate to `Expired`. -/
def Expires (clock : EvaluationClock) (c : CertificateMetadata) : Prop :=
  ∃ c', evaluate clock c = .ok c' ∧ c'.state = .expired

/-- Every state that is not terminal may be left for `Expired`. -/
theorem allowed_expired (hstate : c.state.isTerminal = false) :
    allowed c.state .expired = true := by
  cases h : c.state <;> rw [h] at hstate <;> first | rfl | cases hstate

theorem ne_expired (hstate : c.state.isTerminal = false) : c.state ≠ .expired := by
  intro h
  rw [h] at hstate
  cases hstate

/-- A certificate that is not terminal expires from the end of its window on. -/
theorem expires_iff (hstate : c.state.isTerminal = false) :
    Expires clock c ↔ c.notAfter ≤ clock.now := by
  constructor
  · rintro ⟨c', h, hexpired⟩
    by_contra hend
    rw [evaluate, if_neg hend] at h
    split_ifs at h
    · rw [state_eq_of_transition h] at hexpired
      cases hexpired
    · rw [← Except.ok.inj h] at hexpired
      exact ne_expired hstate hexpired
  · intro hend
    have hmoved : transition clock.updated c .expired =
        .ok { c with state := .expired, updatedAt := clock.updated } :=
      transition_eq_ok_iff.mpr (Or.inr ⟨allowed_expired hstate, rfl⟩)
    refine ⟨{ c with state := .expired, updatedAt := clock.updated }, ?_, rfl⟩
    rw [evaluate, if_pos hend, if_pos (ne_expired hstate), hmoved]

/-- The lifecycle manager expires the certificate exactly when the validator reports its window
as expired. -/
def ExpiryAgrees (clock : EvaluationClock) (c : CertificateMetadata) : Prop :=
  Expires clock c ↔ c.validity.validate clock.now = .error .expired

/-- **When the two modules agree on expiry**: at every instant from the beginning of the window on
but one, the end of the window. -/
theorem expiryAgrees_iff (hstate : c.state.isTerminal = false) (hnow : c.notBefore ≤ clock.now) :
    ExpiryAgrees clock c ↔ clock.now ≠ c.notAfter := by
  have hvalidator : c.validity.validate clock.now = .error .expired ↔ c.notAfter < clock.now := by
    rw [CertificateValidity.validate_eq_expired_iff]
    exact and_iff_right hnow
  rw [ExpiryAgrees, expires_iff hstate, hvalidator]
  constructor
  · intro h hend
    have hlt := h.mp (Int.le_of_eq hend.symm)
    rw [hend] at hlt
    exact Int.lt_irrefl _ hlt
  · intro hne
    exact ⟨fun hle => Int.lt_iff_le_and_ne.mpr ⟨hle, hne.symm⟩, Int.le_of_lt⟩

/-- A certificate of one day, one second before its end. -/
theorem expiryAgrees_iff_active : ExpiryAgrees (.constant 86399)
    (.new 1 0 "0a" "" "" ⟨none, [], [], true, false⟩ 0 86400) :=
  (expiryAgrees_iff rfl (by decide)).mpr (by decide)

/-- At its end the certificate expires and its window is valid. -/
theorem not_expiryAgrees : ¬ExpiryAgrees (.constant 86400)
    (.new 1 0 "0a" "" "" ⟨none, [], [], true, false⟩ 0 86400) := by
  intro h
  have hexpires : Expires (.constant 86400)
      (.new 1 0 "0a" "" "" ⟨none, [], [], true, false⟩ 0 86400) := ⟨_, rfl, rfl⟩
  exact absurd (h.mp hexpires) (by decide)

/-! ### Tracked certificates whose chain is accepted -/

variable {Cert Name Key : Type} [DecidableEq Name] {x509 : X509Parser Cert Name Key}
  {leafDer intermediateDer rootDer : List UInt8} {trustStore : TrustStore} {leaf : Cert}

/-- A tracked certificate that is evaluated at an instant at which its chain is accepted becomes
terminal exactly at the end of its window. -/
theorem isTerminal_of_accepted_iff
    (haccepts : ChainValidator.Accepts x509 now leafDer intermediateDer rootDer trustStore)
    (hparse : ChainValidator.Parses x509 leafDer leaf) (hwindow : x509.validity leaf = c.validity)
    (hstate : c.state.isTerminal = false) (h : evaluate (.constant now) c = .ok c') :
    c'.state.isTerminal = true ↔ now = c.notAfter := by
  obtain ⟨-, ⟨leaf', intermediate, root, hleaf, -, -, hacceptable⟩, -⟩ :=
    ChainValidator.accepts_iff.mp haccepts
  obtain rfl : leaf' = leaf := ChainValidator.Parses.unique hleaf hparse
  have hend : now ≤ c.notAfter := by
    have hvalid := (hacceptable.valid leaf' (Or.inl rfl)).2
    rwa [hwindow] at hvalid
  constructor
  · intro hterminal
    have hexpires : Expires (.constant now) c := by
      refine ⟨c', h, ?_⟩
      have hevaluated := evaluate_constant_eq_ok h
      rw [CertificateMetadata.evaluated] at hevaluated
      split_ifs at hevaluated <;> rw [hevaluated] at hterminal ⊢
      · cases hterminal
      · rw [hstate] at hterminal
        cases hterminal
    have hle := (expires_iff hstate).mp hexpires
    exact Int.le_antisymm hend hle
  · intro heq
    obtain ⟨c'', h'', hexpired⟩ := (expires_iff hstate).mpr (Int.le_of_eq heq.symm :
      c.notAfter ≤ (EvaluationClock.constant now).now)
    obtain rfl : c' = c'' := Except.ok.inj (h.symm.trans h'')
    rw [hexpired]
    rfl

end LifecycleManager

end DaemonPki
