import DaemonPki.Api.ConcurrentStore
import DaemonPki.Foundation.FileSystem

/-!
# Overlapping writes of the certificate store

Calls of `insert`, `revoke` and `remove` from any number of threads, as in
`DaemonPki.Api.ConcurrentStore`, with the write of the temporary file in its two steps
(`daemon-pki-api/src/certificates.rs`, lines 233–257): `fs::write` empties the file when it opens
it and fills it afterwards, by its handle. The calls hold the shared lock while they write, so
several of them are there at a time, and they share the name of the temporary file. One call can
empty the file that another is about to rename, or rename it away.

## Main definitions

* `DaemonPki.PersistShared`, `DaemonPki.PersistPc`, `DaemonPki.PersistStep`,
  `DaemonPki.concurrentPersist`.
* `DaemonPki.Undisturbed`: no call has failed and the file of the store is complete.
* `DaemonPki.RenameReady`, `DaemonPki.Exclusive`: conditions on one step.

## Main results

* `DaemonPki.undisturbed_iff_of_run`: in which runs the calls do not disturb each other.
* `DaemonPki.renameReady_of_exclusive`: they do not when their writes do not overlap.
-/

namespace DaemonPki

open Foundation

/-- The names under which `persist` writes. -/
inductive StorePath
  | temporary
  | store
  deriving DecidableEq, Repr

/-- What the calls share: the map, the holders of the shared lock and the files. The versions of
the map are kept for the statements. -/
structure PersistShared (ι : Type*) where
  records : Records
  readers : Finset ι
  files : FileSystem StorePath StoreFile
  versions : List Records

/-- Where a call stands, with its serialization of the map and its handle of the temporary
file. -/
inductive PersistPc
  | called (call : StoreCall)
  | changed
  | locked
  | serialized (snapshot : Records)
  | truncated (snapshot : Records) (handle : ℕ)
  | filled
  | renamed
  | failed
  | returned (ok : Bool)

inductive PersistAction
  | change
  | lock
  | serialize
  | truncate
  | fill
  | rename
  | unlock
  deriving DecidableEq, Repr

variable {ι : Type*}

/-- The steps of the call `i`. No step fails but the renaming of a file that is not there.
Source: `certificates.rs`, lines 107–125, 155–183 and 201–257. -/
inductive PersistStep [DecidableEq ι] (i : ι) :
    PersistShared ι → PersistPc → PersistAction → PersistShared ι → PersistPc → Prop
  | change {s : PersistShared ι} {call : StoreCall} {records : Records} (hfree : s.readers = ∅)
      (h : call.change s.records = some records) :
      PersistStep i s (.called call) .change
        { s with
          records := records
          versions := s.versions ++ [records] }
        .changed
  | absent {s : PersistShared ι} {call : StoreCall} (hfree : s.readers = ∅)
      (h : call.change s.records = none) :
      PersistStep i s (.called call) .change s (.returned true)
  | lock {s : PersistShared ι} :
      PersistStep i s .changed .lock { s with readers := insert i s.readers } .locked
  | serialize {s : PersistShared ι} :
      PersistStep i s .locked .serialize s (.serialized s.records)
  | truncate {s : PersistShared ι} {snapshot : Records} :
      PersistStep i s (.serialized snapshot) .truncate
        { s with files := (s.files.openTruncate .temporary .blank).1 }
        (.truncated snapshot (s.files.openTruncate .temporary .blank).2)
  | fill {s : PersistShared ι} {snapshot : Records} {handle : ℕ} :
      PersistStep i s (.truncated snapshot handle) .fill
        { s with files := s.files.write handle (.json snapshot) } .filled
  | rename {s : PersistShared ι} {files : FileSystem StorePath StoreFile}
      (h : s.files.rename .temporary .store = some files) :
      PersistStep i s .filled .rename { s with files := files } .renamed
  | renameMissing {s : PersistShared ι} (h : s.files.rename .temporary .store = none) :
      PersistStep i s .filled .rename s .failed
  | unlock {s : PersistShared ι} :
      PersistStep i s .renamed .unlock { s with readers := s.readers.erase i } (.returned true)
  | unlockFailed {s : PersistShared ι} :
      PersistStep i s .failed .unlock { s with readers := s.readers.erase i } (.returned false)

/-- The interleavings of the calls. -/
def concurrentPersist [DecidableEq ι] :
    LTS (Threads ι (PersistShared ι) PersistPc) (ι × PersistAction) :=
  interleave PersistStep

/-! ### Undisturbed calls -/

/-- The contents are a complete serialization of a version of the map. -/
def PersistShared.Complete (s : PersistShared ι) (contents : StoreFile) : Prop :=
  ∃ records ∈ s.versions, contents = .json records

/-- The file of the store, once it exists, is complete. -/
def PersistShared.StoreComplete (s : PersistShared ι) : Prop :=
  ∀ contents, s.files.read .store = some contents → s.Complete contents

/-- The call has not failed. -/
def PersistPc.Succeeds : PersistPc → Prop
  | .failed | .returned false => False
  | _ => True

/-- No call has failed and the file of the store is complete. -/
def Undisturbed (c : Threads ι (PersistShared ι) PersistPc) : Prop :=
  c.Holds PersistShared.StoreComplete fun _ _ pc => pc.Succeeds

/-- A call that renames the temporary file finds it, and no other call has emptied it without
filling it yet. -/
def RenameReady (c : Threads ι (PersistShared ι) PersistPc) (a : ι × PersistAction) : Prop :=
  a.2 = .rename → ∃ contents, c.shared.files.read .temporary = some contents ∧ contents ≠ .blank

/-! ### The invariant -/

/-- The temporary file is empty or complete. -/
def PersistShared.TemporaryKnown (s : PersistShared ι) : Prop :=
  ∀ contents, s.files.read .temporary = some contents → contents = .blank ∨ s.Complete contents

/-- What holds where a call stands: it writes a version of the map, and from the moment that it
has opened the temporary file, whatever is there was left by these calls. -/
def PersistPc.Assertion (s : PersistShared ι) : PersistPc → Prop
  | .serialized snapshot => snapshot ∈ s.versions
  | .truncated snapshot _ => snapshot ∈ s.versions ∧ s.TemporaryKnown
  | .filled => s.TemporaryKnown
  | _ => True

variable {i : ι} {s s' : PersistShared ι} {pc pc' : PersistPc} {action : PersistAction}

theorem PersistShared.Complete.mono {contents : StoreFile} (h : s.Complete contents)
    (hversions : s.versions ⊆ s'.versions) : s'.Complete contents := by
  obtain ⟨records, hmem, rfl⟩ := h
  exact ⟨records, hversions hmem, rfl⟩

theorem PersistPc.Assertion.mono (h : pc.Assertion s) (hversions : s.versions ⊆ s'.versions)
    (htemporary : s.TemporaryKnown → s'.TemporaryKnown) : pc.Assertion s' := by
  cases pc with
  | serialized snapshot => exact hversions h
  | truncated snapshot handle => exact ⟨hversions h.1, htemporary h.2⟩
  | filled => exact htemporary h
  | _ => trivial

variable [DecidableEq ι]

/-- A step forgets no version of the map. -/
theorem persistStep_versions (h : PersistStep i s pc action s' pc') :
    s.versions ⊆ s'.versions := by
  cases h with
  | change _ _ => exact List.subset_append_left _ _
  | _ => exact List.Subset.refl _

/-- What a step leaves in the temporary file is empty or complete. -/
theorem persistStep_temporaryKnown (h : PersistStep i s pc action s' pc') (hpc : pc.Assertion s)
    (htemporary : s.TemporaryKnown) : s'.TemporaryKnown := by
  intro contents hread
  cases h with
  | change _ _ => exact (htemporary contents hread).imp_right (·.mono (List.subset_append_left _ _))
  | truncate =>
    rw [FileSystem.read_openTruncate, if_pos rfl, Option.some.injEq] at hread
    exact Or.inl hread.symm
  | fill =>
    rw [FileSystem.read_write] at hread
    split_ifs at hread
    · exact Or.inr ⟨_, hpc.1, (Option.some.inj hread).symm⟩
    · exact htemporary contents hread
  | rename hrename =>
    rw [FileSystem.read_rename hrename, if_neg (by decide), if_pos rfl] at hread
    cases hread
  | _ => exact htemporary contents hread

/-- The map is a version of the map. -/
def PersistShared.Consistent (s : PersistShared ι) : Prop := s.records ∈ s.versions

/-- A step of a call keeps the invariant of what is shared and its own assertion. -/
theorem persistStep_own (hs : s.Consistent) (hpc : pc.Assertion s)
    (h : PersistStep i s pc action s' pc') : s'.Consistent ∧ pc'.Assertion s' := by
  have hknown := persistStep_temporaryKnown h hpc
  cases h with
  | change _ _ => exact ⟨List.mem_append_right _ (List.mem_singleton_self _), trivial⟩
  | serialize => exact ⟨hs, hs⟩
  | truncate =>
    refine ⟨hs, hpc, fun contents hread => Or.inl ?_⟩
    rw [FileSystem.read_openTruncate, if_pos rfl, Option.some.injEq] at hread
    exact hread.symm
  | fill => exact ⟨hs, hknown hpc.2⟩
  | _ => exact ⟨hs, trivial⟩

theorem persistInvariant_step (c : Threads ι (PersistShared ι) PersistPc) (a : ι × PersistAction)
    (c' : Threads ι (PersistShared ι) PersistPc)
    (hc : c.Holds PersistShared.Consistent fun _ s pc => pc.Assertion s)
    (hstep : concurrentPersist.step c a c') :
    c'.Holds PersistShared.Consistent fun _ s pc => pc.Assertion s := by
  refine interleave_holds ?_ ?_ c a c' hc hstep
  · intro i s pc action s' pc' hs hpc h
    exact persistStep_own hs hpc h
  · intro i j s pc pcj action s' pc' _ _ hpc hpcj h
    exact hpcj.mono (persistStep_versions h) (persistStep_temporaryKnown h hpc)

/-! ### Runs -/

/-- A step of a call leaves the file of the store complete and does not fail exactly when it is
not a renaming of a file that is missing or empty. -/
theorem persistStep_succeeds_iff (hpc : pc.Assertion s) (hstore : s.StoreComplete)
    (hsucceeds : pc.Succeeds) (h : PersistStep i s pc action s' pc') :
    s'.StoreComplete ∧ pc'.Succeeds ↔ (action = .rename →
      ∃ contents, s.files.read .temporary = some contents ∧ contents ≠ .blank) := by
  cases h with
  | change _ _ =>
    refine iff_of_true ⟨fun contents hread => ?_, trivial⟩ (fun h => by cases h)
    exact (hstore contents hread).mono (List.subset_append_left _ _)
  | truncate =>
    refine iff_of_true ⟨fun contents hread => ?_, trivial⟩ (fun h => by cases h)
    rw [FileSystem.read_openTruncate, if_neg (by decide)] at hread
    exact hstore contents hread
  | fill =>
    refine iff_of_true ⟨fun contents hread => ?_, trivial⟩ (fun h => by cases h)
    -- The handle may be the file of the store by now, when another call has renamed it.
    rw [FileSystem.read_write] at hread
    split_ifs at hread
    · exact ⟨_, hpc.1, (Option.some.inj hread).symm⟩
    · exact hstore contents hread
  | @rename files hrename =>
    have hread : files.read .store = s.files.read .temporary := by
      rw [FileSystem.read_rename hrename, if_pos rfl]
    constructor
    · rintro ⟨hcomplete, -⟩ -
      cases htemporary : s.files.read .temporary with
      | none =>
        rw [FileSystem.rename_eq_none.mpr htemporary] at hrename
        cases hrename
      | some contents =>
        obtain ⟨records, -, rfl⟩ := hcomplete contents (hread.trans htemporary)
        exact ⟨_, rfl, fun h => by cases h⟩
    · intro h
      obtain ⟨contents, htemporary, hne⟩ := h rfl
      refine ⟨fun contents' hread' => ?_, trivial⟩
      obtain rfl := Option.some.inj (htemporary.symm.trans (hread.symm.trans hread'))
      exact (hpc contents htemporary).resolve_left hne
  | renameMissing hrename =>
    refine iff_of_false (fun h => h.2) fun h => ?_
    obtain ⟨contents, htemporary, -⟩ := h rfl
    rw [FileSystem.rename_eq_none.mp hrename] at htemporary
    cases htemporary
  | unlockFailed => exact absurd hsucceeds (fun h => h)
  | _ => exact iff_of_true ⟨hstore, trivial⟩ (fun h => by cases h)

/-- The calls before their first step, on a store that was opened with `records`. The file of the
store, if there is one, is complete; a temporary file may be left from before. -/
structure PersistStart (records : Records) (c : Threads ι (PersistShared ι) PersistPc) : Prop where
  records_eq : c.shared.records = records
  versions_eq : c.shared.versions = [records]
  readers_eq : c.shared.readers = ∅
  file_eq : ∀ contents, c.shared.files.read .store = some contents → contents = .json records
  called : ∀ i, ∃ call, c.locals i = .called call

variable {records : Records} {c c' : Threads ι (PersistShared ι) PersistPc}

omit [DecidableEq ι] in
theorem PersistStart.holds (h : PersistStart records c) :
    c.Holds PersistShared.Consistent fun _ s pc => pc.Assertion s := by
  refine ⟨?_, fun i => ?_⟩
  · rw [PersistShared.Consistent, h.records_eq, h.versions_eq]
    exact List.mem_singleton_self _
  · obtain ⟨call, hcall⟩ := h.called i
    rw [hcall]
    trivial

omit [DecidableEq ι] in
theorem PersistStart.undisturbed (h : PersistStart records c) : Undisturbed c := by
  refine ⟨fun contents hread => ⟨records, ?_, h.file_eq contents hread⟩, fun i => ?_⟩
  · rw [h.versions_eq]
    exact List.mem_singleton_self _
  · obtain ⟨call, hcall⟩ := h.called i
    rw [hcall]
    trivial

/-- **When concurrent calls do not disturb each other.** In a run of any number of calls, no call
fails and the file of the store is complete at every moment, exactly when every call that renames
the temporary file finds it there and filled. -/
theorem undisturbed_iff_of_run (hstart : PersistStart records c)
    (run : concurrentPersist.Run c c') :
    run.AllStates Undisturbed ↔ run.AllSteps RenameReady := by
  refine LTS.Run.allStates_iff_allSteps persistInvariant_step ?_ hstart.holds hstart.undisturbed run
  rintro u a v ⟨-, hpc⟩ ⟨hstore, hsucceeds⟩ ⟨s, pc, hthread, rfl⟩
  rw [Undisturbed, Threads.holds_move_iff fun j _ => hsucceeds j]
  exact persistStep_succeeds_iff (hpc a.1) hstore (hsucceeds a.1) hthread

/-! ### Writes that do not overlap -/

/-- The call has opened the temporary file and not renamed it yet. -/
def PersistPc.Writing : PersistPc → Prop
  | .truncated _ _ | .filled => True
  | _ => False

/-- A call opens the temporary file only while no call is writing. -/
def Exclusive (c : Threads ι (PersistShared ι) PersistPc) (a : ι × PersistAction) : Prop :=
  a.2 = .truncate → ∀ j, ¬ (c.locals j).Writing

/-- The call, if it is writing, holds the temporary file, and has filled it when it says so. -/
def PersistPc.Holding (files : FileSystem StorePath StoreFile) : PersistPc → Prop
  | .truncated _ handle => files.entry .temporary = some handle
  | .filled => ∃ contents, files.read .temporary = some contents ∧ contents ≠ .blank
  | _ => True

/-- One call at most is writing, and it holds the temporary file. -/
def SoleWriter (c : Threads ι (PersistShared ι) PersistPc) : Prop :=
  (∀ i j, (c.locals i).Writing → (c.locals j).Writing → j = i) ∧
    ∀ i, (c.locals i).Holding c.shared.files

omit [DecidableEq ι] in
theorem PersistPc.holding_of_not_writing (h : ¬ pc.Writing)
    (files : FileSystem StorePath StoreFile) : pc.Holding files := by
  cases pc with
  | truncated snapshot handle => exact absurd trivial h
  | filled => exact absurd trivial h
  | _ => trivial

theorem persistStep_holding (hpc : pc.Holding s.files) (h : PersistStep i s pc action s' pc') :
    pc'.Holding s'.files := by
  cases h with
  | truncate => exact FileSystem.entry_openTruncate _
  | @fill snapshot handle =>
    refine ⟨.json snapshot, ?_, by rintro ⟨⟩⟩
    rw [FileSystem.read_write]
    exact if_pos hpc
  | _ => trivial

/-- A call that is not writing leaves the files alone until it opens the temporary file. -/
theorem persistStep_files (hpc : ¬ pc.Writing) (haction : action ≠ .truncate)
    (h : PersistStep i s pc action s' pc') : s'.files = s.files ∧ ¬ pc'.Writing := by
  cases h with
  | truncate => exact absurd rfl haction
  | fill => exact absurd trivial hpc
  | rename _ => exact absurd trivial hpc
  | renameMissing _ => exact absurd trivial hpc
  | _ => exact ⟨rfl, fun h => h⟩

theorem soleWriter_step (u : Threads ι (PersistShared ι) PersistPc) (a : ι × PersistAction)
    (v : Threads ι (PersistShared ι) PersistPc) (hu : SoleWriter u) (hexclusive : Exclusive u a)
    (hstep : concurrentPersist.step u a v) : SoleWriter v := by
  obtain ⟨hsole, hholding⟩ := hu
  obtain ⟨s, pc, h, rfl⟩ := hstep
  have hown := persistStep_holding (hholding a.1) h
  -- While another call is writing, this one neither writes nor begins to.
  have hother : ∀ j, j ≠ a.1 → (u.locals j).Writing →
      s.files = u.shared.files ∧ ¬ pc.Writing := by
    intro j hj hwriting
    refine persistStep_files (fun hmover => hj (hsole a.1 j hmover hwriting)) ?_ h
    intro htruncate
    exact hexclusive htruncate j hwriting
  constructor
  · intro i j hi hj
    by_cases hia : i = a.1 <;> by_cases hja : j = a.1
    · rw [hia, hja]
    · subst hia
      rw [Threads.move_locals_self] at hi
      rw [Threads.move_locals_of_ne hja] at hj
      exact absurd hi (hother j hja hj).2
    · subst hja
      rw [Threads.move_locals_self] at hj
      rw [Threads.move_locals_of_ne hia] at hi
      exact absurd hj (hother i hia hi).2
    · rw [Threads.move_locals_of_ne hia] at hi
      rw [Threads.move_locals_of_ne hja] at hj
      exact hsole i j hi hj
  · intro j
    by_cases hja : j = a.1
    · subst hja
      rwa [Threads.move_locals_self]
    · rw [Threads.move_locals_of_ne hja]
      by_cases hwriting : (u.locals j).Writing
      · rw [Threads.move_shared, (hother j hja hwriting).1]
        exact hholding j
      · exact PersistPc.holding_of_not_writing hwriting _

/-- **Writes that do not overlap do not disturb each other**: every call then renames the
temporary file that it has filled. -/
theorem renameReady_of_exclusive (hstart : PersistStart records c)
    (run : concurrentPersist.Run c c') (h : run.AllSteps Exclusive) :
    run.AllSteps RenameReady := by
  have hcalled : ∀ i, ¬ (c.locals i).Writing := by
    intro i hi
    obtain ⟨call, hcall⟩ := hstart.called i
    rwa [hcall] at hi
  have hsole : SoleWriter c :=
    ⟨fun i _ hi => absurd hi (hcalled i), fun i => PersistPc.holding_of_not_writing (hcalled i) _⟩
  refine h.of_allStates ?_ (run.allStates_of_allSteps soleWriter_step hsole h)
  rintro u ⟨i, action⟩ v ⟨-, hholding⟩ - ⟨s, pc, hthread, rfl⟩ rfl
  have hi := hholding i
  cases hpc : u.locals i with
  | filled =>
    rw [hpc] at hi
    exact hi
  | _ =>
    rw [hpc] at hthread
    cases hthread

/-- Two insertions into an empty store, before their first step. -/
def twoInsertions : Threads Bool (PersistShared Bool) PersistPc :=
  .pair ⟨∅, ∅, .empty, [∅]⟩
    (.called (.insert (.new 1 0 "0a" "workload" [] [] true false "" "" none)))
    (.called (.insert (.new 2 0 "0b" "workload" [] [] true false "" "" none)))

theorem persistStart_twoInsertions : PersistStart ∅ twoInsertions := by
  refine ⟨rfl, rfl, rfl, fun contents h => ?_, Bool.rec ⟨_, rfl⟩ ⟨_, rfl⟩⟩
  cases h

section RenameReady

variable {s s' : PersistShared Bool} {pc pc' other : PersistPc} {action : PersistAction}

theorem renameReady_first (h : PersistStep false s pc action s' pc') (haction : action ≠ .rename) :
    (concurrentPersist.restrict RenameReady).step (.pair s pc other) (false, action)
      (.pair s' pc' other) :=
  ⟨fun hrename => absurd hrename haction, interleave_first h⟩

theorem renameReady_second (h : PersistStep true s pc action s' pc') (haction : action ≠ .rename) :
    (concurrentPersist.restrict RenameReady).step (.pair s other pc) (true, action)
      (.pair s' other pc') :=
  ⟨fun hrename => absurd hrename haction, interleave_second h⟩

end RenameReady

/-- Both insertions change the map and take the lock before either writes; then each of them writes
and renames without the other. -/
theorem undisturbed_iff_of_run_twoInsertions : ∃ (c : Threads Bool (PersistShared Bool) PersistPc)
    (run : concurrentPersist.Run twoInsertions c),
    run.AllStates Undisturbed ∧ c.locals false = .returned true ∧
      c.locals true = .returned true := by
  have hchange : (concurrentPersist.restrict RenameReady).step twoInsertions (false, .change) _ :=
    renameReady_first (.change rfl rfl) (by decide)
  have changed := (LTS.Run.nil.snoc _ hchange).snoc (true, .change)
    (renameReady_second (.change rfl rfl) (by decide))
  have serialized := (((changed.snoc _ (renameReady_first .lock (by decide))).snoc _
    (renameReady_second .lock (by decide))).snoc _
    (renameReady_second .serialize (by decide))).snoc _
    (renameReady_first .serialize (by decide))
  have renamed := ((serialized.snoc _ (renameReady_first .truncate (by decide))).snoc _
    (renameReady_first .fill (by decide))).snoc (false, .rename)
    ⟨fun _ => ⟨_, rfl, by rintro ⟨⟩⟩, interleave_first (.rename rfl)⟩
  have renamed' := ((renamed.snoc _ (renameReady_second .truncate (by decide))).snoc _
    (renameReady_second .fill (by decide))).snoc (true, .rename)
    ⟨fun _ => ⟨_, rfl, by rintro ⟨⟩⟩, interleave_second (.rename rfl)⟩
  have run := (renamed'.snoc _ (renameReady_second .unlock (by decide))).snoc _
    (renameReady_first .unlock (by decide))
  exact ⟨_, run.ofRestrict, (undisturbed_iff_of_run persistStart_twoInsertions _).mpr
    (LTS.Run.allSteps_ofRestrict run), rfl, rfl⟩

/-- The second call empties the temporary file between the write and the renaming of the first:
the file of the store is empty, and the second call finds nothing to rename. -/
theorem disturbed_of_overlap : ∃ c c' : Threads Bool (PersistShared Bool) PersistPc,
    PersistStart ∅ twoInsertions ∧ Nonempty (concurrentPersist.Run twoInsertions c) ∧
      c.shared.files.read .store = some .blank ∧ ¬ Undisturbed c ∧
      Nonempty (concurrentPersist.Run c c') ∧ c'.locals true = .returned false := by
  have hchange : concurrentPersist.step twoInsertions (false, .change) _ :=
    interleave_first (.change rfl rfl)
  have written := (((((LTS.Run.nil.snoc _ hchange).snoc (true, .change)
    (interleave_second (.change rfl rfl))).snoc _ (interleave_first .lock)).snoc _
    (interleave_first .serialize)).snoc _ (interleave_first .truncate)).snoc _
    (interleave_first .fill)
  have blank := (((written.snoc _ (interleave_second .lock)).snoc _
    (interleave_second .serialize)).snoc _ (interleave_second .truncate)).snoc _
    (interleave_first (.rename rfl))
  refine ⟨_, _, persistStart_twoInsertions, ⟨blank⟩, rfl, fun h => ?_,
    ⟨((LTS.Run.nil.snoc _ (interleave_second .fill)).snoc _
      (interleave_second (.renameMissing rfl))).snoc _ (interleave_second .unlockFailed)⟩, rfl⟩
  obtain ⟨records, -, hrecords⟩ := h.1 _ rfl
  cases hrecords

end DaemonPki
