import DaemonPki.Certificate.Metadata
import Mathlib.Tactic.Cases

/-!
# The certificate lifecycle

The lifecycle manager of one certificate (`daemon-pki-core/src/certificate/lifecycle.rs`,
`LifecycleManager::transition`, `evaluate` and `renewal_action`).

A function that takes `&mut CertificateMetadata` and returns a `Result` is modelled as a function
to `Except LifecycleError CertificateMetadata`: every error of `transition` and of `evaluate` is
returned before the certificate is written, so an error leaves it as it was.

## Main definitions

* `DaemonPki.LifecycleManager.allowed`: the transition table.
* `DaemonPki.LifecycleManager.transition`, `DaemonPki.LifecycleManager.evaluate`,
  `DaemonPki.LifecycleManager.renewalAction`.
* `DaemonPki.LifecycleManager.Follows`: at most one edge of the table.
* `DaemonPki.CertificateMetadata.Restates`: equal but for the state and the time of the update.

## Main results

* `DaemonPki.LifecycleManager.transition_eq_ok_iff`: what a transition can do.
* `DaemonPki.LifecycleManager.evaluate_eq_error_iff`: the only certificates that cannot be
  evaluated are the revoked ones past their end.
* `DaemonPki.LifecycleManager.not_overdue_of_evaluate`,
  `DaemonPki.LifecycleManager.not_due_of_evaluate`: what an evaluation establishes.
-/

namespace DaemonPki

/-- Source: `lifecycle.rs`, lines 12–24. -/
inductive LifecycleError
  | invalidTransition (source target : CertificateState)
  | terminalState (state : CertificateState)
  deriving DecidableEq, Repr

/-- Source: `lifecycle.rs`, lines 26–31. -/
inductive RenewalAction
  | none
  | renew
  | revoke
  deriving DecidableEq, Repr

/-- Source: `lifecycle.rs`, lines 34–36. -/
def RenewalAction.requiresAction : RenewalAction → Bool
  | none => false
  | _ => true

/-- `c'` is the certificate `c` with another state and another time of its last update. -/
def CertificateMetadata.Restates (c c' : CertificateMetadata) : Prop :=
  c' = { c with state := c'.state, updatedAt := c'.updatedAt }

namespace CertificateMetadata.Restates

variable {c c' : CertificateMetadata}

theorem refl (c : CertificateMetadata) : c.Restates c := rfl

theorem id_eq (h : c.Restates c') : c'.id = c.id := by
  rw [h]

theorem serialNumber_eq (h : c.Restates c') : c'.serialNumber = c.serialNumber := by
  rw [h]

theorem fingerprintSha256_eq (h : c.Restates c') :
    c'.fingerprintSha256 = c.fingerprintSha256 := by
  rw [h]

theorem notAfter_eq (h : c.Restates c') : c'.notAfter = c.notAfter := by
  rw [h]

end CertificateMetadata.Restates

namespace LifecycleManager

/-! ### Transitions -/

/-- The transition table. Source: `lifecycle.rs`, lines 205–283. -/
def allowed : CertificateState → CertificateState → Bool
  | .active, .expiring => true
  | .active, .renewalPending => true
  | .active, .revoked => true
  | .active, .expired => true
  | .expiring, .renewalPending => true
  | .expiring, .revoked => true
  | .expiring, .expired => true
  | .renewalPending, .renewed => true
  | .renewalPending, .revoked => true
  | .renewalPending, .expired => true
  | .renewed, .active => true
  | .renewed, .expiring => true
  | .renewed, .renewalPending => true
  | .renewed, .revoked => true
  | .renewed, .expired => true
  | _, _ => false

/-- Move a certificate to the state `next`; the clock is read for the time of the update.
Source: `lifecycle.rs`, lines 189–298. -/
def transition (now : OffsetDateTime) (certificate : CertificateMetadata)
    (next : CertificateState) : Except LifecycleError CertificateMetadata :=
  let current := certificate.state
  if current = next then .ok certificate
  else if current.isTerminal then .error (.terminalState current)
  else if allowed current next then .ok { certificate with state := next, updatedAt := now }
  else .error (.invalidTransition current next)

variable {now : OffsetDateTime} {c c' : CertificateMetadata} {s t next : CertificateState}

theorem not_isTerminal_of_allowed (h : allowed s t = true) : s.isTerminal = false := by
  cases s <;> first | rfl | (cases t <;> cases h)

theorem ne_of_allowed (h : allowed s t = true) : s ≠ t := by
  rintro rfl
  cases s <;> cases h

/-- A transition succeeds when the certificate is already in the state asked for, and then does
nothing, or along an edge of the table, and then writes the state and the time of the update. -/
theorem transition_eq_ok_iff : transition now c next = .ok c' ↔
    (c.state = next ∧ c' = c) ∨
      (allowed c.state next = true ∧ c' = { c with state := next, updatedAt := now }) := by
  simp only [transition]
  split_ifs with hsame hterminal hallowed
  · subst hsame
    have hno : allowed c.state c.state ≠ true := fun h => ne_of_allowed h rfl
    simp only [hno, Bool.false_eq_true, true_and, false_and, or_false, Except.ok.injEq]
    exact eq_comm
  · have hno : allowed c.state next ≠ true := fun h => by
      rw [not_isTerminal_of_allowed h] at hterminal
      cases hterminal
    simp [hsame, hno]
  · simp only [hsame, false_and, hallowed, true_and, false_or, Except.ok.injEq]
    exact eq_comm
  · simp [hsame, hallowed]

theorem transition_eq_error_iff {e : LifecycleError} : transition now c next = .error e ↔
    c.state ≠ next ∧ ((c.state.isTerminal = true ∧ e = .terminalState c.state) ∨
      (c.state.isTerminal = false ∧ allowed c.state next = false ∧
        e = .invalidTransition c.state next)) := by
  simp only [transition]
  split_ifs with hsame hterminal hallowed
  · simp [hsame]
  · simp only [ne_eq, hsame, not_false_eq_true, hterminal, true_and, Bool.true_eq_false,
      false_and, or_false, Except.error.injEq]
    exact eq_comm
  · simp [hsame, hterminal, hallowed]
  · simp only [ne_eq, hsame, not_false_eq_true, hterminal, hallowed, true_and,
      Bool.false_eq_true, false_and, false_or, Except.error.injEq]
    exact eq_comm

/-- A certificate can be moved to `Renewed` exactly from `RenewalPending` and from `Renewed`. -/
theorem exists_transition_renewed_iff : (∃ c', transition now c .renewed = .ok c') ↔
    c.state = .renewalPending ∨ c.state = .renewed := by
  simp only [transition_eq_ok_iff, exists_or, exists_and_left, exists_eq, and_true]
  cases c.state <;> simp [allowed]

/-- The states `s` and `t` are equal or form one edge of the transition table. -/
def Follows (s t : CertificateState) : Prop := s = t ∨ allowed s t = true

theorem Follows.eq_of_isTerminal (h : Follows s t) (hs : s.isTerminal = true) : t = s := by
  rcases h with rfl | h
  · rfl
  · rw [not_isTerminal_of_allowed h] at hs
    cases hs

theorem follows_of_transition (h : transition now c next = .ok c') : Follows c.state c'.state := by
  rcases transition_eq_ok_iff.mp h with ⟨-, rfl⟩ | ⟨hallowed, rfl⟩
  · exact Or.inl rfl
  · exact Or.inr hallowed

theorem restates_of_transition (h : transition now c next = .ok c') : c.Restates c' := by
  rcases transition_eq_ok_iff.mp h with ⟨-, rfl⟩ | ⟨-, rfl⟩
  · exact .refl _
  · rfl

theorem state_eq_of_transition (h : transition now c next = .ok c') : c'.state = next := by
  rcases transition_eq_ok_iff.mp h with ⟨hstate, rfl⟩ | ⟨-, rfl⟩
  · exact hstate
  · rfl

/-! ### Evaluation -/

/-- The clock readings of one call of `evaluate`: its own, the one of `remaining_seconds`, and
the one of the transition. -/
structure EvaluationClock where
  now : OffsetDateTime
  remaining : OffsetDateTime
  updated : OffsetDateTime
  deriving DecidableEq, Repr

/-- The clock that shows the same instant at every reading. -/
def EvaluationClock.constant (now : OffsetDateTime) : EvaluationClock := ⟨now, now, now⟩

/-- Move a certificate to the state its times call for. The state that the source returns is the
state of the certificate returned. Source: `lifecycle.rs`, lines 300–330. -/
def evaluate (clock : EvaluationClock) (certificate : CertificateMetadata) :
    Except LifecycleError CertificateMetadata :=
  if certificate.notAfter ≤ clock.now then
    if certificate.state ≠ .expired then
      transition clock.updated certificate .expired
    else .ok certificate
  else if certificate.renewalDue clock.remaining = true ∧ certificate.state = .active then
    transition clock.updated certificate .expiring
  else .ok certificate

variable {clock : EvaluationClock}

/-- Evaluation fails only on a revoked certificate past its end. -/
theorem evaluate_eq_error_iff {e : LifecycleError} : evaluate clock c = .error e ↔
    c.notAfter ≤ clock.now ∧ c.state = .revoked ∧ e = .terminalState .revoked := by
  rw [evaluate]
  split_ifs with hend hstate hdue
  · rw [transition_eq_error_iff]
    cases h : c.state <;> simp [hend, allowed, CertificateState.isTerminal]
  · simp [not_not.mp hstate]
  · rw [transition_eq_error_iff, hdue.2]
    simp [hend, allowed, CertificateState.isTerminal]
  · simp [hend]

/-- A successful evaluation is a transition or leaves the certificate alone. -/
theorem evaluate_eq_ok (h : evaluate clock c = .ok c') :
    c' = c ∨ ∃ next, transition clock.updated c next = .ok c' := by
  rw [evaluate] at h
  split_ifs at h
  · exact Or.inr ⟨_, h⟩
  · exact Or.inl (Except.ok.inj h).symm
  · exact Or.inr ⟨_, h⟩
  · exact Or.inl (Except.ok.inj h).symm

theorem follows_of_evaluate (h : evaluate clock c = .ok c') : Follows c.state c'.state := by
  rcases evaluate_eq_ok h with rfl | ⟨next, h⟩
  · exact Or.inl rfl
  · exact follows_of_transition h

theorem restates_of_evaluate (h : evaluate clock c = .ok c') : c.Restates c' := by
  rcases evaluate_eq_ok h with rfl | ⟨next, h⟩
  · exact .refl _
  · exact restates_of_transition h

/-- After its evaluation a certificate past its end is in a terminal state. -/
theorem not_overdue_of_evaluate (h : evaluate clock c = .ok c')
    (hstate : c'.state.isTerminal = false) : clock.now < c'.notAfter := by
  rw [(restates_of_evaluate h).notAfter_eq]
  by_contra hend
  rw [evaluate, if_pos (Int.not_lt.mp hend)] at h
  have hexpired : c'.state = .expired := by
    split_ifs at h with hne
    · exact state_eq_of_transition h
    · rw [← Except.ok.inj h]
      exact not_not.mp hne
  rw [hexpired] at hstate
  cases hstate

/-- After its evaluation an active certificate is not due for renewal. -/
theorem not_due_of_evaluate (h : evaluate clock c = .ok c') (hstate : c'.state = .active) :
    c'.renewalDue clock.remaining = false := by
  have hunchanged : ∀ {next}, next ≠ .active → transition clock.updated c next ≠ .ok c' :=
    fun hne ht => hne ((state_eq_of_transition ht).symm.trans hstate)
  rw [evaluate] at h
  split_ifs at h with _ _ hdue
  · exact absurd h (hunchanged (by decide))
  · obtain rfl := Except.ok.inj h
    simp_all
  · exact absurd h (hunchanged (by decide))
  · obtain rfl := Except.ok.inj h
    exact Bool.eq_false_iff.mpr fun h => hdue ⟨h, hstate⟩

/-! ### Renewal -/

/-- What the renewal of a certificate calls for. Source: `lifecycle.rs`, lines 332–354. -/
def renewalAction (now : OffsetDateTime) (certificate : CertificateMetadata) : RenewalAction :=
  match certificate.state with
  | .active => if certificate.renewalDue now then .renew else .none
  | .expiring | .renewalPending => .renew
  | .expired | .revoked => .revoke
  | .renewed => .none

end LifecycleManager

end DaemonPki
