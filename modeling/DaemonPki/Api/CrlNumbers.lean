import DaemonPki.Api.CrlManager
import DaemonPki.Foundation.Transition

/-!
# The numbers of the revocation lists

The manager of the revocation list (`daemon-pki-api/src/crl.rs`) writes the next number to the
counter file before anything is signed with it. A call that fails afterwards wastes its number; a
write that fails half-way leaves a counter that no later call can read. The manager itself keeps
nothing, so a restart changes nothing either. What carries the numbers through a run is that the
counter, as far as it can be read, is never below a number that was used.

## Main definitions

* `DaemonPki.CrlManager.signed`: what one call had signed.
* `DaemonPki.CrlHistory`, `DaemonPki.crlNumbering`: the calls and the restarts of a run.
* `DaemonPki.CrlHistory.Ordered`: the invariant.

## Main results

* `DaemonPki.CrlManager.le_nextCrlNumber`: the counter never falls.
* `DaemonPki.crlNumbers_of_run`: the numbers strictly increase.
-/

namespace DaemonPki

open Foundation

/-- The files of the manager, and the lists signed so far. -/
structure CrlHistory where
  files : CrlFiles
  signed : List CertificateRevocationListParams

/-- A call of `generate_and_persist`, with what the store then holds, or the start of a new
process. -/
inductive CrlEvent
  | generate (env : CrlEnvironment) (records : Records)
  | restart

namespace CrlManager

/-- The list that a call of `generate_and_persist` had signed, whatever became of it afterwards.
Source: `crl.rs`, lines 36–81. -/
def signed (env : CrlEnvironment) (records : Records) (files : CrlFiles) :
    Option CertificateRevocationListParams :=
  match nextCrlNumber files.number env.readsNumber env.writesNumber with
  | (.error _, _) => none
  | (.ok crlNumber, _) =>
    match (revocationList env records).signedDer crlNumber env.signs with
    | .returned (.ok der) => some der
    | _ => none

end CrlManager

/-- The manager after a call or a restart. -/
def CrlHistory.after (history : CrlHistory) : CrlEvent → CrlHistory
  | .generate env records =>
    { files := (CrlManager.generateAndPersist env records history.files).2
      signed := history.signed ++ (CrlManager.signed env records history.files).toList }
  | .restart => history

/-- The manager under calls, one after the other, and restarts. -/
def crlNumbering : LTS CrlHistory CrlEvent := .ofFun CrlHistory.after

namespace CrlManager

variable {number number' : Option String} {reads : Bool} {write : WriteResult} {n : ℕ}
  {env : CrlEnvironment} {records : Records} {files : CrlFiles}
  {der : CertificateRevocationListParams}

/-! ### The counter -/

/-- What a call that reads the counter reads there. -/
theorem currentCrlNumber_of_reads (h : currentCrlNumber number reads = .ok n) :
    currentCrlNumber number true = .ok n := by
  cases number with
  | none => exact h
  | some text =>
    cases reads with
    | true => exact h
    | false => cases h

/-- **The counter never falls**, whether the draw succeeds or fails. -/
theorem le_nextCrlNumber {result : Except CrlManagerError ℕ}
    (h : nextCrlNumber number reads write = (result, number'))
    (hn : currentCrlNumber number' true = .ok n) :
    ∃ current, currentCrlNumber number true = .ok current ∧ current ≤ n := by
  rw [nextCrlNumber] at h
  split at h
  · cases h
    exact ⟨n, hn, le_rfl⟩
  next current hcurrent =>
    have hreads := currentCrlNumber_of_reads hcurrent
    split_ifs at h with hlt
    · have hwritten (heq : number' = some (toString (current + 1))) : current ≤ n := by
        rw [heq, currentCrlNumber_toString hlt] at hn
        have hle := Except.ok.inj hn
        omega
      cases write <;> cases h
      · exact ⟨current, hreads, hwritten rfl⟩
      · exact ⟨n, hn, le_rfl⟩
      · cases hn
      · exact ⟨current, hreads, hwritten rfl⟩
    · cases h
      exact ⟨n, hn, le_rfl⟩

/-- The files of a call hold the counter as the draw of the number left it. -/
theorem number_generateAndPersist (env : CrlEnvironment) (records : Records) (files : CrlFiles) :
    (generateAndPersist env records files).2.number =
      (nextCrlNumber files.number env.readsNumber env.writesNumber).2 := by
  rw [generateAndPersist]
  split
  next h => rw [h]
  next crlNumber number h =>
    rw [h]
    simp only
    split
    · rfl
    · rfl
    · split <;> rfl

/-- A list that was signed has the number that was drawn for it: one above the counter before, and
the counter after. -/
theorem crlNumber_signed (h : signed env records files = some der) :
    ∃ current, currentCrlNumber files.number true = .ok current ∧ der.crlNumber = current + 1 ∧
      current + 1 < 2 ^ 64 ∧
      (generateAndPersist env records files).2.number = some (toString (current + 1)) := by
  rw [number_generateAndPersist]
  rw [signed] at h
  split at h
  · cases h
  next crlNumber number hnext =>
    obtain ⟨current, hcurrent, hlt, rfl, hnumber⟩ := nextCrlNumber_eq_ok hnext
    refine ⟨current, currentCrlNumber_of_reads hcurrent, ?_, hlt, by rw [hnext, hnumber]⟩
    split at h
    next der' hsigned =>
      cases h
      obtain ⟨-, certs, -, rfl⟩ := CertificateRevocationList.signedDer_eq_ok_iff.mp hsigned
      rfl
    · cases h

/-- What was signed is the list of the revoked records, with some number. -/
theorem signedDer_of_signed (h : signed env records files = some der) : ∃ crlNumber,
    (revocationList env records).signedDer crlNumber env.signs = .returned (.ok der) := by
  rw [signed] at h
  split at h
  · cases h
  next crlNumber number _ =>
    split at h
    next der' hsigned =>
      cases h
      exact ⟨crlNumber, hsigned⟩
    · cases h

/-- A list that is returned is the one that was signed. -/
theorem signed_of_generateAndPersist {files' : CrlFiles}
    (h : generateAndPersist env records files = (.returned (.ok der), files')) :
    signed env records files = some der := by
  rw [generateAndPersist] at h
  rw [signed]
  rcases hnext : nextCrlNumber files.number env.readsNumber env.writesNumber with
    ⟨e | crlNumber, number⟩ <;> rw [hnext] at h
  · cases h
  rcases hsigned : (revocationList env records).signedDer crlNumber env.signs with
    ⟨e | der'⟩ | - <;> simp only [hsigned] at h ⊢
  · cases h
  · cases hwrite : env.writesCrl <;> rw [hwrite] at h <;> cases h
    rfl
  · cases h

/-- At the end of the range a call fails before anything is signed or written. -/
theorem generateAndPersist_of_exhausted (env : CrlEnvironment) (records : Records)
    (h : currentCrlNumber files.number env.readsNumber = .ok (2 ^ 64 - 1)) :
    generateAndPersist env records files = (.returned (.error .numberExhausted), files) ∧
      signed env records files = none := by
  have hnext : nextCrlNumber files.number env.readsNumber env.writesNumber =
      (.error .numberExhausted, files.number) := by
    rw [nextCrlNumber, h]
    rfl
  rw [generateAndPersist, signed, hnext]
  exact ⟨rfl, rfl⟩

end CrlManager

/-! ### Runs -/

/-- The numbers of the signed lists increase, and the counter, as far as it can be read, is not
below any of them. -/
structure CrlHistory.Ordered (history : CrlHistory) : Prop where
  increasing : (history.signed.map CertificateRevocationListParams.crlNumber).Pairwise (· < ·)
  le_counter : ∀ n, CrlManager.currentCrlNumber history.files.number true = .ok n →
    ∀ der ∈ history.signed, der.crlNumber ≤ n

theorem CrlHistory.Ordered.after {history : CrlHistory} (h : history.Ordered) (event : CrlEvent) :
    (history.after event).Ordered := by
  cases event with
  | restart => exact h
  | generate env records =>
    simp only [CrlHistory.after]
    cases hsigned : CrlManager.signed env records history.files with
    | none =>
      rw [Option.toList_none, List.append_nil]
      refine ⟨h.increasing, fun n hn der hder => ?_⟩
      simp only [CrlManager.number_generateAndPersist] at hn
      obtain ⟨current, hcurrent, hle⟩ := CrlManager.le_nextCrlNumber (Prod.eta _).symm hn
      exact (h.le_counter current hcurrent der hder).trans hle
    | some der =>
      obtain ⟨current, hcurrent, hder, hlt, hnumber⟩ := CrlManager.crlNumber_signed hsigned
      have hbelow := h.le_counter current hcurrent
      refine ⟨?_, fun n hn other hother => ?_⟩
      · rw [Option.toList_some, List.map_append]
        refine List.pairwise_append.mpr ⟨h.increasing, List.pairwise_singleton _ _, ?_⟩
        intro m hm m' hm'
        obtain ⟨other, hother, rfl⟩ := List.mem_map.mp hm
        rw [List.mem_singleton.mp hm', hder]
        exact Nat.lt_succ_of_le (hbelow other hother)
      · simp only [hnumber, CrlManager.currentCrlNumber_toString hlt, Except.ok.injEq] at hn
        rcases List.mem_append.mp hother with hother | hother
        · have hle := hbelow other hother
          omega
        · rw [Option.toList_some, List.mem_singleton] at hother
          rw [hother, hder, hn]

/-- **The numbers of the lists strictly increase.** Along every run of calls and restarts, from
whatever counter file and with whatever failures, the numbers of the lists that were signed
strictly increase, so no number is used for two lists; and a call that finds the counter at the
end of its range fails without signing, and without changing a file. -/
theorem crlNumbers_of_run {files : CrlFiles} {history : CrlHistory}
    (run : crlNumbering.Run ⟨files, []⟩ history) :
    (history.signed.map CertificateRevocationListParams.crlNumber).Pairwise (· < ·) ∧
      (history.signed.map CertificateRevocationListParams.crlNumber).Nodup ∧
      ∀ env records,
        CrlManager.currentCrlNumber history.files.number env.readsNumber = .ok (2 ^ 64 - 1) →
        CrlManager.generateAndPersist env records history.files =
            (.returned (.error .numberExhausted), history.files) ∧
          CrlManager.signed env records history.files = none := by
  have hstart : CrlHistory.Ordered ⟨files, []⟩ :=
    ⟨List.Pairwise.nil, fun _ _ _ hder => absurd hder List.not_mem_nil⟩
  have hordered : history.Ordered :=
    run.invariant (fun _ event _ h hstep => hstep ▸ h.after event) hstart
  refine ⟨hordered.increasing, hordered.increasing.imp Nat.ne_of_lt, fun env records h => ?_⟩
  exact CrlManager.generateAndPersist_of_exhausted env records h

end DaemonPki
