import DaemonPki.Api.Certificates
import DaemonPki.Foundation.Interleaving

/-!
# Concurrent calls of the certificate store

Calls of `insert`, `revoke` and `remove` from any number of threads
(`daemon-pki-api/src/certificates.rs`). A call changes the map in a section under the write
lock. It then writes the file under the shared lock: it serializes the map, writes a temporary
file whose name all calls share, and renames it onto the path of the store. Between the two
locks, and between the steps under the shared lock, other calls move.

The versions of the map are numbered, and the contents of a file carry the number of the version
they serialize. No map changes while the shared lock is held, so all holders write the same,
newest version; this is what makes the common temporary file harmless.

## Main definitions

* `DaemonPki.StoreCall`, `DaemonPki.SharedStore`, `DaemonPki.StorePc`, `DaemonPki.StoreStep`.
* `DaemonPki.concurrentStore`: the calls interleaved.
* `DaemonPki.SharedStore.Consistent`, `DaemonPki.StorePc.Assertion`: the invariant.

## Main results

* `DaemonPki.storeInvariant_step`: every step of every call keeps the invariant.
* `DaemonPki.durable_of_run`: no update is lost, and what returned is in the file.
-/

namespace DaemonPki

open Foundation

/-- A call that changes the map. -/
inductive StoreCall
  | insert (record : CertificateRecord)
  | revoke (now : OffsetDateTime) (id : Uuid) (reason : String)
  | remove (id : Uuid)

/-- The map after the change of a call, or `none` when the call finds no record and returns
without writing the file. -/
def StoreCall.change (records : Records) : StoreCall → Option Records
  | .insert record => some (records.insertRecord record)
  | .revoke now id reason => (records.revokeRecord now id reason).map Prod.snd
  | .remove id => (records.removeRecord id).map Prod.snd

/-- The contents of a file, with the number of the version that they serialize. -/
structure Stamped where
  version : ℕ
  contents : StoreFile
  deriving DecidableEq

/-- What the calls share: the map, the holders of the shared lock, the temporary file and the
file of the store. The versions of the map, the call that made the newest one, and the contents
placed at the path of the store are kept for the statements. -/
structure SharedStore (ι : Type*) where
  records : Records
  readers : Finset ι
  temporary : Option Stamped
  file : Option Stamped
  versions : List Records
  author : Option ι
  placed : List Stamped

/-- The newest version of the map as it is serialized. -/
def SharedStore.current {ι : Type*} (s : SharedStore ι) : Stamped :=
  ⟨s.versions.length - 1, .json s.records⟩

/-- Where a call stands, with the number of the version that its own change made. -/
inductive StorePc
  | called (call : StoreCall)
  | changed (version : ℕ)
  | locked (version : ℕ)
  | serialized (version : ℕ) (snapshot : Stamped)
  | written (version : ℕ)
  | renamed (version : ℕ)
  | failed (version : ℕ)
  | returned (ok : Bool) (version : Option ℕ)

inductive StoreAction
  | change
  | lock
  | serialize
  | write
  | rename
  | unlock
  deriving DecidableEq, Repr

variable {ι : Type*}

/-- The steps of the call `i`. The section under the write lock is entered while no call holds
the shared lock, and is one step. Source: `certificates.rs`, lines 107–125, 155–183 and
201–257. -/
inductive StoreStep [DecidableEq ι] (i : ι) :
    SharedStore ι → StorePc → StoreAction → SharedStore ι → StorePc → Prop
  | change {s : SharedStore ι} {call : StoreCall} {records : Records} (hfree : s.readers = ∅)
      (h : call.change s.records = some records) :
      StoreStep i s (.called call) .change
        { s with
          records := records
          versions := s.versions ++ [records]
          author := some i }
        (.changed s.versions.length)
  | absent {s : SharedStore ι} {call : StoreCall} (hfree : s.readers = ∅)
      (h : call.change s.records = none) :
      StoreStep i s (.called call) .change s (.returned true none)
  | lock {s : SharedStore ι} {v : ℕ} :
      StoreStep i s (.changed v) .lock { s with readers := insert i s.readers } (.locked v)
  | serialize {s : SharedStore ι} {v : ℕ} :
      StoreStep i s (.locked v) .serialize s (.serialized v s.current)
  | write {s : SharedStore ι} {v : ℕ} {snapshot : Stamped} :
      StoreStep i s (.serialized v snapshot) .write { s with temporary := some snapshot }
        (.written v)
  | rename {s : SharedStore ι} {v : ℕ} {contents : Stamped} (h : s.temporary = some contents) :
      StoreStep i s (.written v) .rename
        { s with
          temporary := none
          file := some contents
          placed := s.placed ++ [contents] }
        (.renamed v)
  | renameMissing {s : SharedStore ι} {v : ℕ} (h : s.temporary = none) :
      StoreStep i s (.written v) .rename s (.failed v)
  | unlock {s : SharedStore ι} {v : ℕ} :
      StoreStep i s (.renamed v) .unlock { s with readers := s.readers.erase i }
        (.returned true (some v))
  | unlockFailed {s : SharedStore ι} {v : ℕ} :
      StoreStep i s (.failed v) .unlock { s with readers := s.readers.erase i }
        (.returned false (some v))

/-- The interleavings of the calls. -/
def concurrentStore [DecidableEq ι] : LTS (Threads ι (SharedStore ι) StorePc) (ι × StoreAction) :=
  interleave StoreStep

/-! ### The invariant -/

/-- The invariant of what is shared: the map is its newest version, the contents placed at the
path of the store are versions of the map in their order, and the last of them is there. -/
structure SharedStore.Consistent (s : SharedStore ι) : Prop where
  newest : s.versions.getLast? = some s.records
  placed_version : ∀ p ∈ s.placed, ∃ records, p.contents = .json records ∧
    s.versions[p.version]? = some records
  placed_ordered : s.placed.Pairwise fun p q => p.version ≤ q.version
  file_eq : ∀ p, s.placed.getLast? = some p → s.file = some p
  author_isSome : 1 < s.versions.length → s.author.isSome = true

/-- The version `v` was made by the call `i`, and it is the newest when `i` made the newest. -/
def SharedStore.Made (s : SharedStore ι) (i : ι) (v : ℕ) : Prop :=
  v < s.versions.length ∧ (s.author = some i → v + 1 = s.versions.length)

/-- A version not older than `v` was the last to be placed. -/
def SharedStore.Placed (s : SharedStore ι) (v : ℕ) : Prop :=
  ∃ p, s.placed.getLast? = some p ∧ v ≤ p.version

/-- What holds where the call `i` stands. While it holds the lock its snapshot is the newest
version, and after its write the newest version is in the temporary file or already placed. -/
def StorePc.Assertion (i : ι) (s : SharedStore ι) : StorePc → Prop
  | .called _ => i ∉ s.readers ∧ s.author ≠ some i
  | .changed v => i ∉ s.readers ∧ s.Made i v
  | .locked v => i ∈ s.readers ∧ s.Made i v
  | .serialized v snapshot => i ∈ s.readers ∧ s.Made i v ∧ snapshot = s.current
  | .written v => i ∈ s.readers ∧ s.Made i v ∧ (s.temporary = some s.current ∨
      (s.temporary = none ∧ s.placed.getLast? = some s.current))
  | .renamed v => i ∈ s.readers ∧ s.Made i v ∧ s.Placed v
  | .failed v => i ∈ s.readers ∧ s.Made i v ∧ s.Placed v
  | .returned _ none => i ∉ s.readers ∧ s.author ≠ some i
  | .returned _ (some v) => i ∉ s.readers ∧ s.Made i v ∧ s.Placed v

variable {i j : ι} {s s' : SharedStore ι} {pc pc' : StorePc} {action : StoreAction} {v : ℕ}

theorem SharedStore.Made.le_current (h : s.Made i v) : v ≤ s.current.version := by
  have hlt := h.1
  simp only [SharedStore.current]
  omega

/-! ### What a call does to the invariant -/

/-- Placing the newest version keeps the invariant of what is shared. -/
theorem SharedStore.Consistent.place (h : s.Consistent) :
    SharedStore.Consistent { s with
      temporary := none
      file := some s.current
      placed := s.placed ++ [s.current] } := by
  have hcurrent : s.versions[s.current.version]? = some s.records := by
    rw [SharedStore.current, ← List.getLast?_eq_getElem?, h.newest]
  refine ⟨h.newest, fun p hp => ?_, ?_, fun p hp => ?_, h.author_isSome⟩
  · rcases List.mem_append.mp hp with hp | hp
    · exact h.placed_version p hp
    · rw [List.mem_singleton.mp hp]
      exact ⟨s.records, rfl, hcurrent⟩
  · refine List.pairwise_append.mpr ⟨h.placed_ordered, List.pairwise_singleton _ _, ?_⟩
    intro p hp q hq
    obtain ⟨records, -, hversion⟩ := h.placed_version p hp
    obtain ⟨hlt, -⟩ := List.getElem?_eq_some_iff.mp hversion
    rw [List.mem_singleton.mp hq, SharedStore.current]
    exact Nat.le_sub_one_of_lt hlt
  · rw [List.getLast?_concat] at hp
    exact hp

/-- Changing the map keeps the invariant of what is shared. -/
theorem SharedStore.Consistent.change (h : s.Consistent) (records : Records) (i : ι) :
    SharedStore.Consistent { s with
      records := records
      versions := s.versions ++ [records]
      author := some i } := by
  refine ⟨List.getLast?_concat, fun p hp => ?_, h.placed_ordered, h.file_eq, fun _ => rfl⟩
  obtain ⟨records', hcontents, hversion⟩ := h.placed_version p hp
  obtain ⟨hlt, hget⟩ := List.getElem?_eq_some_iff.mp hversion
  exact ⟨records', hcontents, by rw [List.getElem?_append_left hlt, hversion]⟩

/-- The lock is no part of the invariant of what is shared, -/
theorem SharedStore.Consistent.readers (h : s.Consistent) (readers : Finset ι) :
    SharedStore.Consistent { s with readers := readers } :=
  ⟨h.newest, h.placed_version, h.placed_ordered, h.file_eq, h.author_isSome⟩

/-- and neither is the temporary file. -/
theorem SharedStore.Consistent.write (h : s.Consistent) (contents : Stamped) :
    SharedStore.Consistent { s with temporary := some contents } :=
  ⟨h.newest, h.placed_version, h.placed_ordered, h.file_eq, h.author_isSome⟩

/-- What is placed is placed last. -/
theorem SharedStore.placed_of_getLast? (hmade : s.Made i v)
    (hlast : s.placed.getLast? = some s.current) : s.Placed v :=
  ⟨s.current, hlast, hmade.le_current⟩

/-! ### What another call does to an assertion -/

/-- A change of the map by another call: no call holds the lock, and no version gets older. -/
theorem StorePc.Assertion.change (hpc : pc.Assertion j s) (hfree : s.readers = ∅) (hij : j ≠ i)
    (records : Records) : pc.Assertion j { s with
      records := records
      versions := s.versions ++ [records]
      author := some i } := by
  have hmade : ∀ v, s.Made j v → SharedStore.Made { s with
      records := records
      versions := s.versions ++ [records]
      author := some i } j v := fun v hv =>
    ⟨by rw [List.length_append]; exact Nat.lt_add_right _ hv.1,
      fun h => absurd (Option.some.inj h).symm hij⟩
  have hauthor : some i ≠ some j := fun h => hij (Option.some.inj h).symm
  have hlock : j ∉ s.readers := hfree ▸ Finset.notMem_empty j
  cases pc with
  | called call => exact ⟨hpc.1, hauthor⟩
  | changed v => exact ⟨hpc.1, hmade v hpc.2⟩
  | returned ok version =>
    cases version with
    | none => exact ⟨hpc.1, hauthor⟩
    | some v => exact ⟨hpc.1, hmade v hpc.2.1, hpc.2.2⟩
  | _ => exact absurd hpc.1 hlock

/-- Another call that takes or gives back the lock. -/
theorem StorePc.Assertion.readers (hpc : pc.Assertion j s) {readers : Finset ι}
    (hreaders : j ∈ readers ↔ j ∈ s.readers) :
    pc.Assertion j { s with readers := readers } := by
  cases pc with
  | returned ok version => cases version <;> exact ⟨by simpa only [hreaders] using hpc.1, hpc.2⟩
  | _ => exact ⟨by simpa only [hreaders] using hpc.1, hpc.2⟩

/-- Another call that writes the newest version to the temporary file. -/
theorem StorePc.Assertion.write (hpc : pc.Assertion j s) :
    pc.Assertion j { s with temporary := some s.current } := by
  cases pc with
  | written v => exact ⟨hpc.1, hpc.2.1, Or.inl rfl⟩
  | returned ok version => cases version <;> exact hpc
  | _ => exact hpc

/-- Another call that places the newest version. -/
theorem StorePc.Assertion.place (hpc : pc.Assertion j s) : pc.Assertion j { s with
    temporary := none
    file := some s.current
    placed := s.placed ++ [s.current] } := by
  have hlast : (s.placed ++ [s.current]).getLast? = some s.current := List.getLast?_concat
  cases pc with
  | written v => exact ⟨hpc.1, hpc.2.1, Or.inr ⟨rfl, hlast⟩⟩
  | renamed v => exact ⟨hpc.1, hpc.2.1, s.current, hlast, hpc.2.1.le_current⟩
  | failed v => exact ⟨hpc.1, hpc.2.1, s.current, hlast, hpc.2.1.le_current⟩
  | returned ok version =>
    cases version with
    | none => exact hpc
    | some v => exact ⟨hpc.1, hpc.2.1, s.current, hlast, hpc.2.1.le_current⟩
  | _ => exact hpc

/-! ### The steps -/

variable [DecidableEq ι]

/-- A step of a call keeps the invariant of what is shared and its own assertion. -/
theorem storeStep_own (hs : s.Consistent) (hpc : pc.Assertion i s)
    (hstep : StoreStep i s pc action s' pc') : s'.Consistent ∧ pc'.Assertion i s' := by
  cases hstep with
  | @change call records hfree hchange =>
    refine ⟨hs.change records i, hpc.1, ?_, fun _ => ?_⟩ <;> simp
  | absent hfree hchange => exact ⟨hs, hpc⟩
  | lock => exact ⟨hs.readers _, Finset.mem_insert_self .., hpc.2⟩
  | serialize => exact ⟨hs, hpc.1, hpc.2, rfl⟩
  | write =>
    obtain ⟨hmem, hmade, rfl⟩ := hpc
    exact ⟨hs.write _, hmem, hmade, Or.inl rfl⟩
  | rename htemporary =>
    obtain ⟨hmem, hmade, hwritten | ⟨hnone, -⟩⟩ := hpc
    · obtain rfl := Option.some.inj (htemporary.symm.trans hwritten)
      refine ⟨hs.place, hmem, hmade, s.current, List.getLast?_concat, hmade.le_current⟩
    · rw [hnone] at htemporary
      cases htemporary
  | renameMissing hnone =>
    obtain ⟨hmem, hmade, hwritten | ⟨-, hlast⟩⟩ := hpc
    · rw [hnone] at hwritten
      cases hwritten
    · exact ⟨hs, hmem, hmade, SharedStore.placed_of_getLast? hmade hlast⟩
  | unlock => exact ⟨hs.readers _, Finset.notMem_erase i _, hpc.2⟩
  | unlockFailed => exact ⟨hs.readers _, Finset.notMem_erase i _, hpc.2⟩

/-- A step of a call keeps the assertion of every other call. -/
theorem storeStep_other (hij : j ≠ i) {pcj : StorePc} (hpc : pc.Assertion i s)
    (hpcj : pcj.Assertion j s) (hstep : StoreStep i s pc action s' pc') : pcj.Assertion j s' := by
  cases hstep with
  | change hfree _ => exact hpcj.change hfree hij _
  | absent _ _ => exact hpcj
  | lock => exact hpcj.readers (by simp [hij])
  | serialize => exact hpcj
  | write =>
    obtain ⟨-, -, rfl⟩ := hpc
    exact hpcj.write
  | rename htemporary =>
    obtain ⟨-, -, hwritten | ⟨hnone, -⟩⟩ := hpc
    · obtain rfl := Option.some.inj (htemporary.symm.trans hwritten)
      exact hpcj.place
    · rw [hnone] at htemporary
      cases htemporary
  | renameMissing _ => exact hpcj
  | unlock => exact hpcj.readers (by simp [hij])
  | unlockFailed => exact hpcj.readers (by simp [hij])

/-- **Every step keeps the invariant.** -/
theorem storeInvariant_step (c : Threads ι (SharedStore ι) StorePc) (a : ι × StoreAction)
    (c' : Threads ι (SharedStore ι) StorePc)
    (hc : c.Holds SharedStore.Consistent fun i s pc => pc.Assertion i s)
    (hstep : concurrentStore.step c a c') :
    c'.Holds SharedStore.Consistent fun i s pc => pc.Assertion i s := by
  refine interleave_holds ?_ ?_ c a c' hc hstep
  · intro i s pc action s' pc' hs hpc h
    exact storeStep_own hs hpc h
  · intro i j s pc pcj action s' pc' hij _ hpc hpcj h
    exact storeStep_other hij hpc hpcj h

/-! ### Runs -/

/-- The calls before their first step, on a store that was opened with `records`. Both files may
be there from before. -/
structure StoreStart (records : Records) (c : Threads ι (SharedStore ι) StorePc) : Prop where
  records_eq : c.shared.records = records
  versions_eq : c.shared.versions = [records]
  readers_eq : c.shared.readers = ∅
  placed_eq : c.shared.placed = []
  author_eq : c.shared.author = none
  called : ∀ i, ∃ call, c.locals i = .called call

omit [DecidableEq ι] in
theorem StoreStart.holds {records : Records} {c : Threads ι (SharedStore ι) StorePc}
    (h : StoreStart records c) :
    c.Holds SharedStore.Consistent fun i s pc => pc.Assertion i s := by
  refine ⟨⟨?_, ?_, ?_, ?_, ?_⟩, fun i => ?_⟩
  · rw [h.versions_eq, h.records_eq]
    rfl
  · simp [h.placed_eq]
  · simp [h.placed_eq]
  · simp [h.placed_eq]
  · simp [h.versions_eq]
  · obtain ⟨call, hcall⟩ := h.called i
    rw [hcall]
    exact ⟨by simp [h.readers_eq], by simp [h.author_eq]⟩

/-- The call has not begun or has returned. -/
def StorePc.Idle : StorePc → Prop
  | .called _ | .returned _ _ => True
  | _ => False

omit [DecidableEq ι] in
/-- A version that was placed is still there, or a newer one. -/
theorem SharedStore.Consistent.file_of_placed (h : s.Consistent) (hplaced : s.Placed v) :
    ∃ p records, s.file = some p ∧ p.contents = .json records ∧
      s.versions[p.version]? = some records ∧ v ≤ p.version := by
  obtain ⟨p, hlast, hle⟩ := hplaced
  obtain ⟨records, hcontents, hversion⟩ := h.placed_version p (List.mem_of_getLast? hlast)
  exact ⟨p, records, h.file_eq p hlast, hcontents, hversion, hle⟩

omit [DecidableEq ι] in
/-- When the newest version was placed, the file reads as the map. -/
theorem SharedStore.Consistent.read_of_placed (h : s.Consistent) (hplaced : s.Placed v)
    (hnewest : v + 1 = s.versions.length) :
    StoreFile.read (s.file.map fun p => p.contents) = .ok s.records := by
  obtain ⟨p, records, hfile, hcontents, hversion, hle⟩ := h.file_of_placed hplaced
  obtain ⟨hlt, -⟩ := List.getElem?_eq_some_iff.mp hversion
  have heq : p.version = s.versions.length - 1 := by omega
  rw [heq, ← List.getLast?_eq_getElem?, h.newest] at hversion
  rw [hfile, Option.map_some, hcontents, Option.some.inj hversion]
  rfl

/-- **Durability under concurrency.** In every interleaving of any number of calls: the contents
placed at the path of the store are versions of the map, never an older one after a newer one;
when a call that changed the map has returned without error, the file holds a version not older
than its own; and when no call is in progress, after at least one change, the file reads as the
map. -/
theorem durable_of_run {records : Records} {c c' : Threads ι (SharedStore ι) StorePc}
    (hstart : StoreStart records c) (run : concurrentStore.Run c c') :
    ((∀ p ∈ c'.shared.placed, ∃ records, p.contents = .json records ∧
        c'.shared.versions[p.version]? = some records) ∧
      c'.shared.placed.Pairwise fun p q => p.version ≤ q.version) ∧
    (∀ i v, c'.locals i = .returned true (some v) → ∃ p records, c'.shared.file = some p ∧
      p.contents = .json records ∧ c'.shared.versions[p.version]? = some records ∧
      v ≤ p.version) ∧
    ((∀ i, (c'.locals i).Idle) → 1 < c'.shared.versions.length →
      StoreFile.read (c'.shared.file.map fun p => p.contents) = .ok c'.shared.records) := by
  obtain ⟨hs, hpc⟩ := run.invariant storeInvariant_step hstart.holds
  refine ⟨⟨hs.placed_version, hs.placed_ordered⟩, fun i v hreturned => ?_, fun hidle hlen => ?_⟩
  · have hi := hpc i
    rw [hreturned] at hi
    exact hs.file_of_placed hi.2.2
  · obtain ⟨i, hauthor⟩ := Option.isSome_iff_exists.mp (hs.author_isSome hlen)
    have hi := hpc i
    have hi' := hidle i
    cases hlocal : c'.locals i with
    | called call =>
      rw [hlocal] at hi
      exact absurd hauthor hi.2
    | returned ok version =>
      rw [hlocal] at hi
      cases version with
      | none => exact absurd hauthor hi.2
      | some v => exact hs.read_of_placed hi.2.2 (hi.2.1.2 hauthor)
    | _ =>
      rw [hlocal] at hi'
      exact absurd hi' id

/-- Two insertions into an empty store, before their first steps. -/
def twoInserts : Threads Bool (SharedStore Bool) StorePc :=
  .pair ⟨∅, ∅, none, none, [∅], none, []⟩
    (.called (.insert (.new 1 0 "0a" "workload" [] [] true false "" "" none)))
    (.called (.insert (.new 2 0 "0b" "workload" [] [] true false "" "" none)))

/-- Both change the map before either of them persists it, and they hold the lock together. -/
theorem durable_of_run_twoInserts : ∃ c : Threads Bool (SharedStore Bool) StorePc,
    Nonempty (concurrentStore.Run twoInserts c) ∧ c.locals false = .returned true (some 1) ∧
      c.locals true = .returned true (some 2) ∧
      StoreFile.read (c.shared.file.map fun p => p.contents) = .ok c.shared.records := by
  have hstart : StoreStart ∅ twoInserts := ⟨rfl, rfl, rfl, rfl, rfl, Bool.rec ⟨_, rfl⟩ ⟨_, rfl⟩⟩
  have hchange : concurrentStore.step twoInserts (false, .change) _ :=
    interleave_first (.change rfl rfl)
  have locked := (((LTS.Run.nil.snoc _ hchange).snoc _
    (interleave_second (.change rfl rfl))).snoc _ (interleave_first .lock)).snoc _
    (interleave_second .lock)
  have written := ((locked.snoc _ (interleave_second .serialize)).snoc _
    (interleave_first .serialize)).snoc _ (interleave_first .write)
  have renamed := ((written.snoc _ (interleave_first (.rename rfl))).snoc _
    (interleave_second .write)).snoc _ (interleave_second (.rename rfl))
  have run := (renamed.snoc _ (interleave_second .unlock)).snoc _ (interleave_first .unlock)
  exact ⟨_, ⟨run⟩, rfl, rfl,
    (durable_of_run hstart run).2.2 (Bool.rec trivial trivial) (by decide)⟩

end DaemonPki
