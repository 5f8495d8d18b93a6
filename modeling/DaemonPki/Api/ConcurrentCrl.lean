import DaemonPki.Api.CrlManager
import DaemonPki.Foundation.Interleaving

/-!
# Concurrent productions of the revocation list

Calls of `generate_and_persist` from any number of threads, with revocations between their steps
(`daemon-pki-api/src/crl.rs`, lines 36–132). A call reads the counter file, writes the next number
to it, takes a snapshot of the store, signs the list of the revoked records, and writes it to its
file. No lock is held from one of these to the next. Two calls can draw the same number, a call
can take its snapshot later than one that drew a higher number, and it can write its list over a
list with a higher number.

## Main definitions

* `DaemonPki.CrlShared`, `DaemonPki.CrlPc`, `DaemonPki.CrlStep`, `DaemonPki.concurrentCrl`.
* `DaemonPki.CrlsOrdered`: the numbers order the signed lists, and the newest is in the file.
* `DaemonPki.InOrder`: the steps of a call are taken in the order of the numbers.
* `DaemonPki.CrlInvariant`.

## Main results

* `DaemonPki.exists_run_of_generateAndPersist`: the function, run alone, takes these steps.
* `DaemonPki.crlInvariant_step`: every step in order keeps the invariant.
* `DaemonPki.crlsOrdered_of_inOrder`: the runs in which the numbers order the lists.
-/

namespace DaemonPki

open Foundation

/-- What the calls share: the records of the store and the files of the manager. -/
structure CrlShared where
  records : Records
  files : CrlFiles

/-- Where a thread stands: a call of `generate_and_persist`, or a revocation. `taken` is the map
at the time of the snapshot, kept for the statements. -/
inductive CrlPc
  | called
  | counted (current : ℕ)
  | numbered (crlNumber : ℕ)
  | listed (crlNumber : ℕ) (crl : CertificateRevocationList) (taken : Records)
  | signed (crlDer : CertificateRevocationListParams) (taken : Records)
  | written (crlDer : CertificateRevocationListParams) (taken : Records)
  | revocation (id : Uuid) (reason : String)
  | revoked

inductive CrlAction
  | readNumber
  | writeNumber
  | snapshot
  | sign
  | writeCrl
  | revoke
  deriving DecidableEq, Repr

/-- The steps of a thread, none of which fails. Source: `crl.rs`, lines 36–132, and for a
revocation `certificates.rs`, lines 155–183. -/
inductive CrlStep : CrlShared → CrlPc → CrlAction → CrlShared → CrlPc → Prop
  | readNumber {s : CrlShared} {current : ℕ}
      (h : CrlManager.currentCrlNumber s.files.number true = .ok current) :
      CrlStep s .called .readNumber s (.counted current)
  | writeNumber {s : CrlShared} {current : ℕ} (h : current + 1 < 2 ^ 64) :
      CrlStep s (.counted current) .writeNumber
        { s with files := { s.files with number := some (toString (current + 1)) } }
        (.numbered (current + 1))
  | snapshot {s : CrlShared} {crlNumber : ℕ} (env : CrlEnvironment) :
      CrlStep s (.numbered crlNumber) .snapshot s
        (.listed crlNumber (CrlManager.revocationList env s.records) s.records)
  | sign {s : CrlShared} {crlNumber : ℕ} {crl : CertificateRevocationList} {taken : Records}
      {crlDer : CertificateRevocationListParams}
      (h : crl.signedDer crlNumber true = .returned (.ok crlDer)) :
      CrlStep s (.listed crlNumber crl taken) .sign s (.signed crlDer taken)
  | writeCrl {s : CrlShared} {crlDer : CertificateRevocationListParams} {taken : Records} :
      CrlStep s (.signed crlDer taken) .writeCrl
        { s with files := { s.files with crl := some (.signed crlDer) } } (.written crlDer taken)
  | revoke {s : CrlShared} {now : OffsetDateTime} {id : Uuid} {reason : String}
      {certificate : CertificateRecord} {records : Records}
      (h : s.records.revokeRecord now id reason = some (certificate, records)) :
      CrlStep s (.revocation id reason) .revoke { s with records := records } .revoked
  | absent {s : CrlShared} {id : Uuid} {reason : String} (h : s.records.lookup id = none) :
      CrlStep s (.revocation id reason) .revoke s .revoked

variable {ι : Type*}

/-- The interleavings of the calls and the revocations. -/
def concurrentCrl [DecidableEq ι] : LTS (Threads ι CrlShared CrlPc) (ι × CrlAction) :=
  interleave fun _ => CrlStep

namespace CrlPc

/-- The number that the call has drawn. -/
def crlNumber : CrlPc → Option ℕ
  | .numbered crlNumber | .listed crlNumber _ _ => some crlNumber
  | .signed crlDer _ | .written crlDer _ => some crlDer.crlNumber
  | _ => none

/-- The map of which the call has taken a snapshot. -/
def taken : CrlPc → Option Records
  | .listed _ _ taken | .signed _ taken | .written _ taken => some taken
  | _ => none

/-- The list that the call has signed. -/
def signedCrl : CrlPc → Option CertificateRevocationListParams
  | .signed crlDer _ | .written crlDer _ => some crlDer
  | _ => none

/-- The list that the call has written to the file. -/
def writtenCrl : CrlPc → Option CertificateRevocationListParams
  | .written crlDer _ => some crlDer
  | _ => none

/-- The call has drawn the number and has not written its list. -/
def Pending (pc : CrlPc) (crlNumber : ℕ) : Prop :=
  pc.crlNumber = some crlNumber ∧ pc.writtenCrl = none

/-- The call has begun and has not returned. -/
def InProgress : CrlPc → Prop
  | .counted _ | .numbered _ | .listed _ _ _ | .signed _ _ => True
  | _ => False

end CrlPc

/-! ### One call without interruption -/

section Uninterrupted

variable [DecidableEq ι] {c : Threads ι CrlShared CrlPc} {i : ι}

/-- **The function**, when it succeeds on a counter that can be read, takes the steps of a call
that is not interrupted. -/
theorem exists_run_of_generateAndPersist (hi : c.locals i = .called) {env : CrlEnvironment}
    (hreads : env.readsNumber = true) {crlDer : CertificateRevocationListParams} {files : CrlFiles}
    (h : CrlManager.generateAndPersist env c.shared.records c.shared.files =
      (.returned (.ok crlDer), files)) :
    Nonempty (concurrentCrl.Run c (c.move i ⟨c.shared.records, files⟩
      (.written crlDer c.shared.records))) := by
  obtain ⟨current, hcurrent, hlt, hsigned, rfl⟩ := CrlManager.generateAndPersist_eq_ok h
  obtain ⟨hsigns, -⟩ := CertificateRevocationList.signedDer_eq_ok_iff.mp hsigned
  rw [hreads] at hcurrent
  rw [hsigns] at hsigned
  have hfirst : concurrentCrl.step c (i, .readNumber) (c.move i c.shared (.counted current)) :=
    interleave_step hi (.readNumber hcurrent)
  exact ⟨((((LTS.Run.nil.snoc _ hfirst).snoc _ (interleave_move_step (.writeNumber hlt))).snoc _
    (interleave_move_step (.snapshot env))).snoc _
    (interleave_move_step (.sign hsigned))).snoc _ (interleave_move_step .writeCrl)⟩

end Uninterrupted

/-! ### What the numbers order, and when -/

/-- The numbers of the signed lists are distinct, a list with a higher number has the serial
numbers of one with a lower number, and when no call is in progress, the file is the list with the
highest number, which is the number in the counter file. -/
structure CrlsOrdered (c : Threads ι CrlShared CrlPc) : Prop where
  distinct : ∀ i j crlDer crlDer', (c.locals i).signedCrl = some crlDer →
    (c.locals j).signedCrl = some crlDer' → i ≠ j → crlDer.crlNumber ≠ crlDer'.crlNumber
  contained : ∀ i j crlDer crlDer', (c.locals i).signedCrl = some crlDer →
    (c.locals j).signedCrl = some crlDer' → crlDer.crlNumber < crlDer'.crlNumber →
    ∀ serial ∈ crlDer.serials, serial ∈ crlDer'.serials
  published : (∀ i, ¬ (c.locals i).InProgress) → (∃ i, (c.locals i).signedCrl.isSome = true) →
    ∃ j crlDer, (c.locals j).signedCrl = some crlDer ∧
      (∀ i crlDer', (c.locals i).signedCrl = some crlDer' →
        crlDer'.crlNumber ≤ crlDer.crlNumber) ∧
      c.shared.files.crl = some (.signed crlDer) ∧
      CrlManager.currentCrlNumber c.shared.files.number true = .ok crlDer.crlNumber

/-- The steps of a call are taken in the order of the numbers. -/
structure InOrder (c : Threads ι CrlShared CrlPc) (a : ι × CrlAction) : Prop where
  /-- No other call has drawn a number since the call has read the counter. -/
  counter : a.2 = .writeNumber → ∀ current, c.locals a.1 = .counted current →
    CrlManager.currentCrlNumber c.shared.files.number true = .ok current
  /-- No call with a higher number has taken its snapshot before a revocation that the snapshot
  of this call has. -/
  snapshot : a.2 = .snapshot → ∀ crlNumber, (c.locals a.1).crlNumber = some crlNumber →
    ∀ j crlNumber' taken, (c.locals j).crlNumber = some crlNumber' →
      (c.locals j).taken = some taken → crlNumber < crlNumber' →
      c.shared.records.revokedSerials ⊆ taken.revokedSerials
  /-- No call with a higher number has written its list, unless one with a still higher number
  has yet to write. -/
  publication : a.2 = .writeCrl → ∀ crlNumber, (c.locals a.1).crlNumber = some crlNumber →
    (∀ j crlDer, (c.locals j).writtenCrl = some crlDer → crlDer.crlNumber ≤ crlNumber) ∨
      ∃ j crlNumber', (c.locals j).Pending crlNumber' ∧
        ∀ l crlDer, (c.locals l).writtenCrl = some crlDer → crlDer.crlNumber < crlNumber'

/-! ### The invariant -/

/-- What holds where a call stands: its list is made from its snapshot. -/
def CrlPc.Assertion : CrlPc → Prop
  | .listed _ crl taken => ∃ env, crl = CrlManager.revocationList env taken
  | .signed crlDer taken | .written crlDer taken =>
      ∀ serial, serial ∈ crlDer.serials ↔ serial ∈ taken.revokedSerials
  | _ => True

/-- The invariant of the whole. -/
structure CrlInvariant (c : Threads ι CrlShared CrlPc) : Prop where
  assertion : ∀ i, (c.locals i).Assertion
  distinct : ∀ i j n, (c.locals i).crlNumber = some n → (c.locals j).crlNumber = some n → i = j
  /-- The counter file reads the highest number that was drawn. -/
  counter : ∀ i n, (c.locals i).crlNumber = some n → ∃ j m, (c.locals j).crlNumber = some m ∧
    n ≤ m ∧ CrlManager.currentCrlNumber c.shared.files.number true = .ok m
  earlier : ∀ i taken, (c.locals i).taken = some taken →
    taken.revokedSerials ⊆ c.shared.records.revokedSerials
  snapshots : ∀ i j n m taken taken', (c.locals i).crlNumber = some n →
    (c.locals i).taken = some taken → (c.locals j).crlNumber = some m →
    (c.locals j).taken = some taken' → n < m → taken.revokedSerials ⊆ taken'.revokedSerials
  published : (∃ i, (c.locals i).writtenCrl.isSome = true) →
    ∃ j crlDer, (c.locals j).writtenCrl = some crlDer ∧
      c.shared.files.crl = some (.signed crlDer) ∧
      ((∀ l crlDer', (c.locals l).writtenCrl = some crlDer' →
        crlDer'.crlNumber ≤ crlDer.crlNumber) ∨
      ∃ l m, (c.locals l).Pending m ∧
        ∀ k crlDer', (c.locals k).writtenCrl = some crlDer' → crlDer'.crlNumber < m)

variable {s s' : CrlShared} {pc pc' : CrlPc} {action : CrlAction}

/-! ### What a step does -/

/-- A step draws a number and writes it to the counter file, or it changes neither the number of
the call nor the file. -/
theorem crlStep_crlNumber (h : CrlStep s pc action s' pc') :
    (pc'.crlNumber = pc.crlNumber ∧ s'.files.number = s.files.number) ∨
      ∃ current, action = .writeNumber ∧ pc = .counted current ∧ pc' = .numbered (current + 1) ∧
        CrlManager.currentCrlNumber s'.files.number true = .ok (current + 1) := by
  cases h with
  | writeNumber hlt =>
    exact Or.inr ⟨_, rfl, rfl, rfl, CrlManager.currentCrlNumber_toString hlt⟩
  | sign hsigned =>
    obtain ⟨-, certs, -, rfl⟩ := CertificateRevocationList.signedDer_eq_ok_iff.mp hsigned
    exact Or.inl ⟨rfl, rfl⟩
  | _ => exact Or.inl ⟨rfl, rfl⟩

/-- A number that was drawn stays. -/
theorem crlStep_crlNumber_of_some (h : CrlStep s pc action s' pc') {n : ℕ}
    (hn : pc.crlNumber = some n) : pc'.crlNumber = some n := by
  rcases crlStep_crlNumber h with ⟨hsame, -⟩ | ⟨current, -, rfl, -, -⟩
  · rw [hsame, hn]
  · cases hn

theorem CrlPc.exists_crlNumber_of_taken {taken : Records} (h : pc.taken = some taken) :
    ∃ n, pc.crlNumber = some n := by
  cases pc with
  | listed _ _ _ => exact ⟨_, rfl⟩
  | signed _ _ => exact ⟨_, rfl⟩
  | written _ _ => exact ⟨_, rfl⟩
  | _ => cases h

theorem CrlPc.crlNumber_of_signedCrl {crlDer : CertificateRevocationListParams}
    (h : pc.signedCrl = some crlDer) : pc.crlNumber = some crlDer.crlNumber := by
  cases pc <;> cases h <;> rfl

theorem CrlPc.Assertion.exists_taken (hpc : pc.Assertion) {crlDer : CertificateRevocationListParams}
    (h : pc.signedCrl = some crlDer) : ∃ taken, pc.taken = some taken ∧
      ∀ serial, serial ∈ crlDer.serials ↔ serial ∈ taken.revokedSerials := by
  cases pc <;> cases h <;> exact ⟨_, rfl, hpc⟩

theorem CrlPc.writtenCrl_of_not_inProgress (h : ¬ pc.InProgress) :
    pc.writtenCrl = pc.signedCrl := by
  cases pc with
  | signed _ _ => exact absurd trivial h
  | _ => rfl

/-- A call that has drawn a number and is not in progress has written its list. -/
theorem CrlPc.exists_signedCrl_of_not_inProgress (h : ¬ pc.InProgress) {n : ℕ}
    (hn : pc.crlNumber = some n) : ∃ crlDer, pc.signedCrl = some crlDer ∧ crlDer.crlNumber = n := by
  cases pc with
  | written crlDer taken => exact ⟨crlDer, rfl, Option.some.inj hn⟩
  | numbered _ => exact absurd trivial h
  | listed _ _ _ => exact absurd trivial h
  | signed _ _ => exact absurd trivial h
  | _ => cases hn

theorem CrlPc.not_pending_of_not_inProgress (h : ¬ pc.InProgress) {n : ℕ} : ¬ pc.Pending n := by
  rintro ⟨hnumber, hwritten⟩
  obtain ⟨crlDer, hsigned, -⟩ := exists_signedCrl_of_not_inProgress h hnumber
  rw [writtenCrl_of_not_inProgress h, hsigned] at hwritten
  cases hwritten

/-- A step takes a snapshot, or it does not change the snapshot of the call. -/
theorem crlStep_taken (h : CrlStep s pc action s' pc') : pc'.taken = pc.taken ∨
    ∃ n, action = .snapshot ∧ pc = .numbered n ∧ pc'.crlNumber = some n ∧
      pc'.taken = some s.records := by
  cases h with
  | snapshot env => exact Or.inr ⟨_, rfl, rfl, rfl, rfl⟩
  | _ => exact Or.inl rfl

/-- A step writes a list to the file, or it changes neither. -/
theorem crlStep_writtenCrl (h : CrlStep s pc action s' pc') :
    (pc'.writtenCrl = pc.writtenCrl ∧ s'.files.crl = s.files.crl) ∨
      ∃ crlDer taken, action = .writeCrl ∧ pc = .signed crlDer taken ∧
        pc' = .written crlDer taken ∧ s'.files.crl = some (.signed crlDer) := by
  cases h with
  | writeCrl => exact Or.inr ⟨_, _, rfl, rfl, rfl, rfl⟩
  | _ => exact Or.inl ⟨rfl, rfl⟩

/-- What was revoked stays revoked. -/
theorem crlStep_records (h : CrlStep s pc action s' pc') :
    s.records.revokedSerials ⊆ s'.records.revokedSerials := by
  cases h with
  | revoke hrevoke => exact (Records.keepsRevoked_revokeRecord hrevoke).revokedSerials_subset
  | _ => exact Set.Subset.rfl

theorem crlStep_assertion (hpc : pc.Assertion) (h : CrlStep s pc action s' pc') :
    pc'.Assertion := by
  cases h with
  | snapshot env => exact ⟨env, rfl⟩
  | sign hsigned =>
    obtain ⟨env, rfl⟩ := hpc
    exact CrlManager.mem_serials_of_signedDer_revocationList hsigned
  | writeCrl => exact hpc
  | _ => trivial

/-! ### The steps in order -/

variable [DecidableEq ι] {c c' : Threads ι CrlShared CrlPc} {a : ι × CrlAction} {i : ι}

theorem CrlInvariant.distinct_step (hc : CrlInvariant c) (ha : InOrder c a)
    (hstep : concurrentCrl.step c a c') : ∀ i j n, (c'.locals i).crlNumber = some n →
      (c'.locals j).crlNumber = some n → i = j := by
  obtain ⟨s', pc', h, rfl⟩ := hstep
  intro i j n hi hj
  rcases crlStep_crlNumber h with ⟨hsame, -⟩ | ⟨current, haction, hpc, rfl, -⟩
  · rw [Threads.apply_move_locals CrlPc.crlNumber hsame] at hi hj
    exact hc.distinct i j n hi hj
  · -- The counter reads the highest number drawn, and the new number is higher.
    have hfresh : ∀ k m, (c.locals k).crlNumber = some m → m ≠ current + 1 := by
      intro k m hk
      obtain ⟨-, m', -, hle, hreads⟩ := hc.counter k m hk
      rw [ha.counter haction current hpc] at hreads
      cases hreads
      omega
    by_cases hia : i = a.1 <;> by_cases hja : j = a.1
    · rw [hia, hja]
    · subst hia
      rw [Threads.move_locals_self] at hi
      rw [Threads.move_locals_of_ne hja] at hj
      exact absurd (Option.some.inj hi).symm (hfresh j n hj)
    · subst hja
      rw [Threads.move_locals_self] at hj
      rw [Threads.move_locals_of_ne hia] at hi
      exact absurd (Option.some.inj hj).symm (hfresh i n hi)
    · rw [Threads.move_locals_of_ne hia] at hi
      rw [Threads.move_locals_of_ne hja] at hj
      exact hc.distinct i j n hi hj

theorem CrlInvariant.counter_step (hc : CrlInvariant c) (ha : InOrder c a)
    (hstep : concurrentCrl.step c a c') : ∀ i n, (c'.locals i).crlNumber = some n →
      ∃ j m, (c'.locals j).crlNumber = some m ∧ n ≤ m ∧
        CrlManager.currentCrlNumber c'.shared.files.number true = .ok m := by
  obtain ⟨s', pc', h, rfl⟩ := hstep
  intro i n hi
  rcases crlStep_crlNumber h with ⟨hsame, hfile⟩ | ⟨current, haction, hpc, rfl, hreads⟩
  · rw [Threads.apply_move_locals CrlPc.crlNumber hsame] at hi
    obtain ⟨j, m, hj, hle, hreads⟩ := hc.counter i n hi
    refine ⟨j, m, ?_, hle, by rw [Threads.move_shared, hfile, hreads]⟩
    rw [Threads.apply_move_locals CrlPc.crlNumber hsame, hj]
  · refine ⟨a.1, current + 1, by rw [Threads.move_locals_self]; rfl, ?_, hreads⟩
    by_cases hia : i = a.1
    · subst hia
      rw [Threads.move_locals_self] at hi
      exact (Option.some.inj hi).symm.le
    · rw [Threads.move_locals_of_ne hia] at hi
      obtain ⟨-, m', -, hle, hcurrent⟩ := hc.counter i n hi
      rw [ha.counter haction current hpc] at hcurrent
      cases hcurrent
      omega

theorem CrlInvariant.earlier_step (hc : CrlInvariant c) (hstep : concurrentCrl.step c a c') :
    ∀ i taken, (c'.locals i).taken = some taken →
      taken.revokedSerials ⊆ c'.shared.records.revokedSerials := by
  obtain ⟨s', pc', h, rfl⟩ := hstep
  intro i taken hi
  refine Set.Subset.trans ?_ (crlStep_records h)
  by_cases hia : i = a.1
  · subst hia
    rw [Threads.move_locals_self] at hi
    rcases crlStep_taken h with hsame | ⟨n, -, -, -, htaken⟩
    · exact hc.earlier a.1 taken (hsame ▸ hi)
    · rw [htaken, Option.some.injEq] at hi
      rw [hi]
  · rw [Threads.move_locals_of_ne hia] at hi
    exact hc.earlier i taken hi

/-- When the step takes no snapshot, the calls with a snapshot had it and their number before. -/
theorem crlNumber_of_taken_move (h : CrlStep c.shared (c.locals i) action s' pc')
    (hsame : pc'.taken = (c.locals i).taken) {j : ι} {n : ℕ} {taken : Records}
    (hnumber : ((c.move i s' pc').locals j).crlNumber = some n)
    (htaken : ((c.move i s' pc').locals j).taken = some taken) :
    (c.locals j).crlNumber = some n ∧ (c.locals j).taken = some taken := by
  rw [Threads.apply_move_locals CrlPc.taken hsame] at htaken
  refine ⟨?_, htaken⟩
  by_cases hj : j = i
  · subst hj
    rw [Threads.move_locals_self] at hnumber
    obtain ⟨m, hm⟩ := CrlPc.exists_crlNumber_of_taken htaken
    rw [crlStep_crlNumber_of_some h hm] at hnumber
    rw [hm, hnumber]
  · rwa [Threads.move_locals_of_ne hj] at hnumber

theorem CrlInvariant.snapshots_step (hc : CrlInvariant c) (ha : InOrder c a)
    (hstep : concurrentCrl.step c a c') : ∀ i j n m taken taken',
      (c'.locals i).crlNumber = some n → (c'.locals i).taken = some taken →
      (c'.locals j).crlNumber = some m → (c'.locals j).taken = some taken' → n < m →
      taken.revokedSerials ⊆ taken'.revokedSerials := by
  obtain ⟨s', pc', h, rfl⟩ := hstep
  intro i j n m taken taken' hi hitaken hj hjtaken hlt
  rcases crlStep_taken h with hsame | ⟨x, haction, hpc, hnumber, htaken⟩
  · obtain ⟨hi, hitaken⟩ := crlNumber_of_taken_move h hsame hi hitaken
    obtain ⟨hj, hjtaken⟩ := crlNumber_of_taken_move h hsame hj hjtaken
    exact hc.snapshots i j n m taken taken' hi hitaken hj hjtaken hlt
  · by_cases hia : i = a.1 <;> by_cases hja : j = a.1
    · subst hia hja
      rw [hi] at hj
      cases hj
      exact absurd hlt (lt_irrefl _)
    · subst hia
      rw [Threads.move_locals_self] at hi hitaken
      rw [Threads.move_locals_of_ne hja] at hj hjtaken
      rw [hnumber, Option.some.injEq] at hi
      rw [htaken, Option.some.injEq] at hitaken
      subst hi hitaken
      exact ha.snapshot haction x (by rw [hpc]; rfl) j m taken' hj hjtaken hlt
    · subst hja
      rw [Threads.move_locals_of_ne hia] at hi hitaken
      rw [Threads.move_locals_self] at hjtaken
      rw [htaken, Option.some.injEq] at hjtaken
      rw [← hjtaken]
      exact hc.earlier i taken hitaken
    · rw [Threads.move_locals_of_ne hia] at hi hitaken
      rw [Threads.move_locals_of_ne hja] at hj hjtaken
      exact hc.snapshots i j n m taken taken' hi hitaken hj hjtaken hlt

/-- The lists written after a call has written its own. -/
theorem writtenCrl_move_written {crlDer crlDer' : CertificateRevocationListParams}
    {taken : Records} {l : ι}
    (h : ((c.move i s' (.written crlDer taken)).locals l).writtenCrl = some crlDer') :
    crlDer' = crlDer ∨ (c.locals l).writtenCrl = some crlDer' := by
  by_cases hl : l = i
  · subst hl
    rw [Threads.move_locals_self] at h
    exact Or.inl (Option.some.inj h).symm
  · rw [Threads.move_locals_of_ne hl] at h
    exact Or.inr h

/-- A list that is written in order is the newest one, or a newer one than any is still to be
written. -/
theorem newest_or_pending_of_inOrder {crlDer : CertificateRevocationListParams} {taken : Records}
    (ha : InOrder c a) (haction : a.2 = .writeCrl) (hpc : c.locals a.1 = .signed crlDer taken) :
    (∀ l crlDer', ((c.move a.1 s' (.written crlDer taken)).locals l).writtenCrl = some crlDer' →
      crlDer'.crlNumber ≤ crlDer.crlNumber) ∨
    ∃ l m, ((c.move a.1 s' (.written crlDer taken)).locals l).Pending m ∧
      ∀ k crlDer', ((c.move a.1 s' (.written crlDer taken)).locals k).writtenCrl = some crlDer' →
        crlDer'.crlNumber < m := by
  by_cases hmax : ∀ l crlDer', (c.locals l).writtenCrl = some crlDer' →
      crlDer'.crlNumber ≤ crlDer.crlNumber
  · refine Or.inl fun l crlDer' hl => ?_
    rcases writtenCrl_move_written hl with rfl | hl
    · exact le_refl _
    · exact hmax l crlDer' hl
  · obtain ⟨l, m, hpending, hhigher⟩ :=
      (ha.publication haction crlDer.crlNumber (by rw [hpc]; rfl)).resolve_left hmax
    push Not at hmax
    obtain ⟨k, crlDer', hk, hlt⟩ := hmax
    have hlower : crlDer.crlNumber < m := hlt.trans (hhigher k crlDer' hk)
    have hl : l ≠ a.1 := by
      rintro rfl
      have hnumber := hpending.1
      rw [hpc] at hnumber
      exact absurd (Option.some.inj hnumber) hlower.ne
    refine Or.inr ⟨l, m, by rwa [Threads.move_locals_of_ne hl], fun k crlDer' hk => ?_⟩
    rcases writtenCrl_move_written hk with rfl | hk
    · exact hlower
    · exact hhigher k crlDer' hk

theorem CrlInvariant.published_step (hc : CrlInvariant c) (ha : InOrder c a)
    (hstep : concurrentCrl.step c a c') : (∃ i, (c'.locals i).writtenCrl.isSome = true) →
    ∃ j crlDer, (c'.locals j).writtenCrl = some crlDer ∧
      c'.shared.files.crl = some (.signed crlDer) ∧
      ((∀ l crlDer', (c'.locals l).writtenCrl = some crlDer' →
        crlDer'.crlNumber ≤ crlDer.crlNumber) ∨
      ∃ l m, (c'.locals l).Pending m ∧
        ∀ k crlDer', (c'.locals k).writtenCrl = some crlDer' → crlDer'.crlNumber < m) := by
  obtain ⟨s', pc', h, rfl⟩ := hstep
  rintro ⟨i, hi⟩
  rcases crlStep_writtenCrl h with ⟨hsame, hfile⟩ | ⟨crlDer, taken, haction, hpc, rfl, hfile⟩
  · have hwritten := Threads.apply_move_locals CrlPc.writtenCrl (s := s') hsame
    rw [hwritten] at hi
    obtain ⟨j, crlDer, hj, hcrl, hnewest⟩ := hc.published ⟨i, hi⟩
    refine ⟨j, crlDer, (hwritten j).trans hj, hfile.trans hcrl, ?_⟩
    simp only [hwritten]
    rcases hnewest with hnewest | ⟨l, m, hpending, hhigher⟩
    · exact Or.inl hnewest
    · refine Or.inr ⟨l, m, ⟨?_, (hwritten l).trans hpending.2⟩, hhigher⟩
      by_cases hl : l = a.1
      · subst hl
        rw [Threads.move_locals_self]
        exact crlStep_crlNumber_of_some h hpending.1
      · rw [Threads.move_locals_of_ne hl]
        exact hpending.1
  · refine ⟨a.1, crlDer, by rw [Threads.move_locals_self]; rfl, hfile, ?_⟩
    exact newest_or_pending_of_inOrder ha haction hpc

/-- **Every step in order keeps the invariant.** -/
theorem crlInvariant_step (c : Threads ι CrlShared CrlPc) (a : ι × CrlAction)
    (c' : Threads ι CrlShared CrlPc) (hc : CrlInvariant c) (ha : InOrder c a)
    (hstep : concurrentCrl.step c a c') : CrlInvariant c' where
  assertion i := by
    obtain ⟨s', pc', h, rfl⟩ := hstep
    by_cases hi : i = a.1
    · subst hi
      rw [Threads.move_locals_self]
      exact crlStep_assertion (hc.assertion a.1) h
    · rw [Threads.move_locals_of_ne hi]
      exact hc.assertion i
  distinct := hc.distinct_step ha hstep
  counter := hc.counter_step ha hstep
  earlier := hc.earlier_step hstep
  snapshots := hc.snapshots_step ha hstep
  published := hc.published_step ha hstep

/-! ### Runs -/

omit [DecidableEq ι] in
/-- The invariant says that the numbers order the lists. -/
theorem CrlInvariant.crlsOrdered (hc : CrlInvariant c) : CrlsOrdered c where
  distinct i j crlDer crlDer' hi hj hij hsame := by
    refine hij (hc.distinct i j crlDer.crlNumber (CrlPc.crlNumber_of_signedCrl hi) ?_)
    rw [hsame]
    exact CrlPc.crlNumber_of_signedCrl hj
  contained i j crlDer crlDer' hi hj hlt serial hserial := by
    obtain ⟨taken, htaken, hserials⟩ := (hc.assertion i).exists_taken hi
    obtain ⟨taken', htaken', hserials'⟩ := (hc.assertion j).exists_taken hj
    refine (hserials' serial).mpr ?_
    exact hc.snapshots i j _ _ taken taken' (CrlPc.crlNumber_of_signedCrl hi) htaken
      (CrlPc.crlNumber_of_signedCrl hj) htaken' hlt ((hserials serial).mp hserial)
  published hidle hsigned := by
    have hwritten : ∀ i, (c.locals i).writtenCrl = (c.locals i).signedCrl :=
      fun i => CrlPc.writtenCrl_of_not_inProgress (hidle i)
    obtain ⟨j, crlDer, hj, hfile, hnewest⟩ := hc.published (by simpa only [hwritten] using hsigned)
    have hmax : ∀ l crlDer', (c.locals l).writtenCrl = some crlDer' →
        crlDer'.crlNumber ≤ crlDer.crlNumber := by
      refine hnewest.resolve_right ?_
      rintro ⟨l, m, hpending, -⟩
      exact CrlPc.not_pending_of_not_inProgress (hidle l) hpending
    simp only [hwritten] at hj hmax
    obtain ⟨k, m, hk, hle, hreads⟩ := hc.counter j _ (CrlPc.crlNumber_of_signedCrl hj)
    refine ⟨j, crlDer, hj, hmax, hfile, ?_⟩
    -- The call that drew the number in the counter has written its list too.
    obtain ⟨crlDer', hk', rfl⟩ := CrlPc.exists_signedCrl_of_not_inProgress (hidle k) hk
    rw [hreads, Nat.le_antisymm (hmax k crlDer' hk') hle]

/-- The calls and the revocations before their first step. -/
def CrlStart (c : Threads ι CrlShared CrlPc) : Prop :=
  ∀ i, c.locals i = .called ∨ ∃ id reason, c.locals i = .revocation id reason

omit [DecidableEq ι] in
theorem CrlStart.crlInvariant (h : CrlStart c) : CrlInvariant c := by
  have hnumber : ∀ i, (c.locals i).crlNumber = none := by
    intro i
    rcases h i with hi | ⟨id, reason, hi⟩ <;> rw [hi] <;> rfl
  have htaken : ∀ i, (c.locals i).taken = none := by
    intro i
    rcases h i with hi | ⟨id, reason, hi⟩ <;> rw [hi] <;> rfl
  have hwritten : ∀ i, (c.locals i).writtenCrl = none := by
    intro i
    rcases h i with hi | ⟨id, reason, hi⟩ <;> rw [hi] <;> rfl
  refine ⟨fun i => ?_, ?_, ?_, ?_, ?_, ?_⟩
  · rcases h i with hi | ⟨id, reason, hi⟩ <;> rw [hi] <;> trivial
  all_goals simp [hnumber, htaken, hwritten]

/-- **When the numbers order the lists.** In a run of any number of calls and revocations whose
steps are in order, at every moment the numbers of the signed lists are distinct, a list with a
higher number has the serial numbers of one with a lower number, and when no call is in progress,
the file is the list with the highest number, which the counter file reads. -/
theorem crlsOrdered_of_inOrder (hstart : CrlStart c) (run : concurrentCrl.Run c c')
    (h : run.AllSteps InOrder) : run.AllStates CrlsOrdered := by
  refine (run.allStates_of_allSteps crlInvariant_step hstart.crlInvariant h).mono ?_
  intro u hu
  exact hu.crlsOrdered

/-- Two calls on an empty store without a counter file, before their first step. -/
def twoProductions : Threads Bool CrlShared CrlPc := .pair ⟨∅, ⟨none, none⟩⟩ .called .called

theorem crlStart_twoProductions : CrlStart twoProductions :=
  Bool.rec (Or.inl rfl) (Or.inl rfl)

/-- An environment in which nothing fails. -/
def faultlessCrlEnvironment : CrlEnvironment :=
  ⟨true, .succeeded, 0, 0, 0, Records.byId, true, .succeeded⟩

/-- Both calls draw their numbers before either takes its snapshot, and the second signs first. -/
theorem crlsOrdered_of_inOrder_twoProductions : ∃ (c : Threads Bool CrlShared CrlPc)
    (run : concurrentCrl.Run twoProductions c), run.AllStates CrlsOrdered ∧
      (∃ crlDer, (c.locals false).writtenCrl = some crlDer ∧ crlDer.crlNumber = 1) ∧
      ∃ crlDer, (c.locals true).writtenCrl = some crlDer ∧ crlDer.crlNumber = 2 := by
  have hother {c : Threads Bool CrlShared CrlPc} {i : Bool} {action : CrlAction}
      (h : action = .readNumber ∨ action = .sign) : InOrder c (i, action) := by
    rcases h with rfl | rfl <;> constructor <;> rintro ⟨⟩
  have hread : (concurrentCrl.restrict InOrder).step twoProductions (false, .readNumber) _ :=
    ⟨hother (Or.inl rfl), interleave_first (.readNumber rfl)⟩
  have counted := ((LTS.Run.nil.snoc _ hread).snoc (false, .writeNumber)
    ⟨?counter, interleave_first (.writeNumber (by decide))⟩).snoc (true, .readNumber)
    ⟨hother (Or.inl rfl), interleave_second
      (.readNumber (CrlManager.currentCrlNumber_toString (by decide)))⟩
  have listed := ((counted.snoc (true, .writeNumber)
    ⟨?counter', interleave_second (.writeNumber (by decide))⟩).snoc (false, .snapshot)
    ⟨?snapshot, interleave_first (.snapshot faultlessCrlEnvironment)⟩).snoc (true, .snapshot)
    ⟨?snapshot', interleave_second (.snapshot faultlessCrlEnvironment)⟩
  have signed := (listed.snoc (true, .sign)
    ⟨hother (Or.inr rfl), interleave_second (.sign rfl)⟩).snoc (false, .sign)
    ⟨hother (Or.inr rfl), interleave_first (.sign rfl)⟩
  have run := (signed.snoc (false, .writeCrl) ⟨?publication, interleave_first .writeCrl⟩).snoc
    (true, .writeCrl) ⟨?publication', interleave_second .writeCrl⟩
  · exact ⟨_, run.ofRestrict, crlsOrdered_of_inOrder crlStart_twoProductions _
      (LTS.Run.allSteps_ofRestrict run), ⟨_, rfl, rfl⟩, _, rfl, rfl⟩
  case counter =>
    refine ⟨fun _ current h => ?_, by rintro ⟨⟩, by rintro ⟨⟩⟩
    cases h
    rfl
  case counter' =>
    refine ⟨fun _ current h => ?_, by rintro ⟨⟩, by rintro ⟨⟩⟩
    cases h
    exact CrlManager.currentCrlNumber_toString (by decide)
  case snapshot =>
    refine ⟨by rintro ⟨⟩, fun _ n _ j m taken _ htaken => ?_, by rintro ⟨⟩⟩
    cases j <;> cases htaken
  case snapshot' =>
    refine ⟨by rintro ⟨⟩, fun _ n hn j m taken hm _ hlt => ?_, by rintro ⟨⟩⟩
    cases hn
    cases j <;> cases hm <;> exact absurd hlt (by decide)
  case publication =>
    refine ⟨by rintro ⟨⟩, by rintro ⟨⟩, fun _ n _ => Or.inl fun j crlDer hj => ?_⟩
    cases j <;> cases hj
  case publication' =>
    refine ⟨by rintro ⟨⟩, by rintro ⟨⟩, fun _ n hn => Or.inl fun j crlDer hj => ?_⟩
    cases hn
    cases j <;> cases hj
    decide

/-- Both calls read the counter before either writes it: two lists are signed with the number
one. -/
theorem not_crlsOrdered_of_sameCounter : ∃ c : Threads Bool CrlShared CrlPc,
    CrlStart twoProductions ∧ Nonempty (concurrentCrl.Run twoProductions c) ∧
      (∃ crlDer crlDer', (c.locals false).signedCrl = some crlDer ∧
        (c.locals true).signedCrl = some crlDer' ∧
        crlDer.crlNumber = 1 ∧ crlDer'.crlNumber = 1) ∧
      ¬ CrlsOrdered c := by
  have hread : concurrentCrl.step twoProductions (false, .readNumber) _ :=
    interleave_first (.readNumber rfl)
  have first := (((LTS.Run.nil.snoc _ hread).snoc (true, .readNumber)
    (interleave_second (.readNumber rfl))).snoc _
    (interleave_first (.writeNumber (by decide)))).snoc _
    (interleave_second (.writeNumber (by decide)))
  have run := (((first.snoc _ (interleave_first (.snapshot faultlessCrlEnvironment))).snoc _
    (interleave_first (.sign rfl))).snoc _
    (interleave_second (.snapshot faultlessCrlEnvironment))).snoc _ (interleave_second (.sign rfl))
  refine ⟨_, crlStart_twoProductions, ⟨run⟩, ⟨_, _, rfl, rfl, rfl, rfl⟩, fun h => ?_⟩
  exact h.distinct false true _ _ rfl rfl Bool.false_ne_true rfl

end DaemonPki
