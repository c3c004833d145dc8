import Mathlib.Logic.Function.Basic
import ShortHand.Modules.Lockfile

/-! Writing the lockfile: a new file is written, the old one is removed and the new one takes
its name. Each of these can fail. -/

namespace ShortHand.Modules

open ShortHand.Library ShortHand.Evidence List

/-- The contents of the files. -/
abbrev Disk := Bytes → Option Bytes

namespace Disk

variable (disk : Disk)

def write (path text : Bytes) : Disk := Function.update disk path (some text)

def remove (path : Bytes) (succeeds : Bool) : Disk :=
  if succeeds then Function.update disk path none else disk

def rename (source target : Bytes) (succeeds : Bool) : Disk :=
  if succeeds then Function.update (Function.update disk source none) target (disk source) else disk

end Disk

/-- How the file operations of one call go. -/
structure Faults where
  creates : Bool
  /-- The stream reports no failure of the insertion. -/
  accepts : Bool
  /-- The bytes that are in the file when the stream has been closed. -/
  flushed : Nat
  removes : Bool
  renames : Bool
  cleans : Bool

section Publication

variable (files : FileSystem) (manifest : PackageManifest)
  (units : OrderedMap Bytes ModuleUnitDescriptor) (entryModule : Bytes) (faults : Faults)

/-- The temporary file. -/
def lockfileTemp : Bytes := lockfilePath manifest ++ ascii ".tmp"

/-- The answer of the call, and the files that it leaves. -/
def writeLockfile : Except Failure Unit × Disk :=
  match expectedLockfile files manifest units entryModule with
  | .error failure => (.error failure, files.read)
  | .ok expected =>
    let target := lockfilePath manifest
    let temp := lockfileTemp manifest
    if !faults.creates then
      (.error ⟨.lockfileMismatch, "cannot create lockfile: " ++ shown target⟩, files.read)
    else
      let written := Disk.write files.read temp (expected.take faults.flushed)
      if !faults.accepts then
        (.error ⟨.lockfileMismatch, "failed writing lockfile: " ++ shown target⟩, written)
      else
        let published := (written.remove target faults.removes).rename temp target faults.renames
        if faults.renames then (.ok (), published)
        else
          (.error ⟨.lockfileMismatch, "cannot publish lockfile: " ++ shown target⟩,
            published.remove temp faults.cleans)

/-- The lockfile is the new text after a success, and what it was after a failure; it does
not go away. -/
structure PublishedAtomically : Prop where
  complete : (writeLockfile files manifest units entryModule faults).1 = .ok () →
    ∃ text, expectedLockfile files manifest units entryModule = .ok text ∧
      (writeLockfile files manifest units entryModule faults).2 (lockfilePath manifest) = some text
  unchanged : ∀ failure, (writeLockfile files manifest units entryModule faults).1 = .error failure →
    (writeLockfile files manifest units entryModule faults).2 (lockfilePath manifest) =
      files.read (lockfilePath manifest)
  stays : (files.read (lockfilePath manifest)).isSome = true →
    ((writeLockfile files manifest units entryModule faults).2 (lockfilePath manifest)).isSome = true

/-- If the call gets as far as the publication: a rename that succeeds finds the whole text in
the temporary file, and one that fails finds a lockfile that was not removed. -/
def KeepsLockfile : Prop :=
  ∀ text, expectedLockfile files manifest units entryModule = .ok text →
    faults.creates = true → faults.accepts = true →
      if faults.renames then text.length ≤ faults.flushed
      else faults.removes = true → files.read (lockfilePath manifest) = none

variable {files manifest units entryModule faults}

theorem lockfileTemp_ne : lockfilePath manifest ≠ lockfileTemp manifest := by
  intro same
  have lengths := congrArg length same
  rw [lockfileTemp, length_append] at lengths
  have suffix : (ascii ".tmp").length = 4 := by decide
  omega

/-- Nothing happens to the lockfile before its publication. -/
theorem writeLockfile_unpublished
    (stops : ∀ text, expectedLockfile files manifest units entryModule = .ok text →
      faults.creates = true → faults.accepts = false) :
    (∃ failure, (writeLockfile files manifest units entryModule faults).1 = .error failure) ∧
      (writeLockfile files manifest units entryModule faults).2 (lockfilePath manifest) =
        files.read (lockfilePath manifest) := by
  unfold writeLockfile
  split
  · rename_i failure _
    exact ⟨⟨failure, rfl⟩, rfl⟩
  rename_i text expected
  cases created : faults.creates with
  | false => exact ⟨⟨_, rfl⟩, rfl⟩
  | true =>
    rw [stops text expected created]
    exact ⟨⟨_, rfl⟩, Function.update_of_ne lockfileTemp_ne _ _⟩

/-- The publication. -/
theorem writeLockfile_published
    (expected : expectedLockfile files manifest units entryModule = .ok text)
    (created : faults.creates = true) (accepted : faults.accepts = true) :
    ((writeLockfile files manifest units entryModule faults).1 = .ok () ↔ faults.renames = true) ∧
      (writeLockfile files manifest units entryModule faults).2 (lockfilePath manifest) =
        if faults.renames then some (text.take faults.flushed)
        else if faults.removes then none
        else files.read (lockfilePath manifest) := by
  have different := @lockfileTemp_ne manifest
  rw [writeLockfile, expected]
  rw [created, accepted]
  cases faults.renames with
  | true =>
    cases faults.removes <;>
      simp [Disk.rename, Disk.remove, Disk.write, different.symm]
  | false =>
    cases faults.removes <;> cases faults.cleans <;>
      simp [Disk.rename, Disk.remove, Disk.write, different]

/-- A publication is atomic exactly if a rename that succeeds finds the whole text and one
that fails finds no lockfile removed. -/
theorem writeLockfile_atomic_iff (files : FileSystem) (manifest : PackageManifest)
    (units : OrderedMap Bytes ModuleUnitDescriptor) (entryModule : Bytes) (faults : Faults) :
    PublishedAtomically files manifest units entryModule faults ↔
      KeepsLockfile files manifest units entryModule faults := by
  by_cases published : ∃ text, expectedLockfile files manifest units entryModule = .ok text ∧
      faults.creates = true ∧ faults.accepts = true
  · obtain ⟨text, expected, created, accepted⟩ := published
    obtain ⟨answers, leaves⟩ := writeLockfile_published expected created accepted
    constructor
    · intro atomic other same _ _
      cases expected.symm.trans same
      cases renamed : faults.renames with
      | true =>
        obtain ⟨whole, isWhole, found⟩ := atomic.complete (answers.mpr renamed)
        cases expected.symm.trans isWhole
        rw [leaves, renamed] at found
        exact take_eq_self_iff text |>.mp (Option.some.inj found)
      | false =>
        intro removed
        have stays := atomic.stays
        rw [leaves, renamed, removed] at stays
        exact Option.not_isSome_iff_eq_none.mp fun present => nomatch stays present
    · intro keeps
      have kept := keeps text expected created accepted
      cases renamed : faults.renames with
      | true =>
        rw [renamed] at kept leaves
        rw [take_of_length_le kept] at leaves
        refine ⟨fun _ => ⟨text, expected, leaves⟩, fun failure failed => ?_, fun _ => ?_⟩
        · rw [answers.mpr renamed] at failed
          cases failed
        · rw [leaves]
          rfl
      | false =>
        rw [renamed, if_neg Bool.false_ne_true] at kept leaves
        have unchanged : (writeLockfile files manifest units entryModule faults).2
            (lockfilePath manifest) = files.read (lockfilePath manifest) := by
          rw [leaves]
          split
          · rename_i removed
            exact (kept removed).symm
          · rfl
        refine ⟨fun succeeded => ?_, fun _ _ => unchanged, fun present => unchanged ▸ present⟩
        exact Bool.noConfusion (renamed.symm.trans (answers.mp succeeded))
  · have stops : ∀ text, expectedLockfile files manifest units entryModule = .ok text →
        faults.creates = true → faults.accepts = false := by
      intro text expected created
      exact Bool.eq_false_iff.mpr fun accepted => published ⟨text, expected, created, accepted⟩
    obtain ⟨⟨failure, failed⟩, unchanged⟩ := writeLockfile_unpublished stops
    refine ⟨fun _ text expected created accepted => ?_, fun _ => ⟨?_, ?_, ?_⟩⟩
    · exact absurd ⟨text, expected, created, accepted⟩ published
    · intro succeeded
      cases failed.symm.trans succeeded
    · exact fun _ _ => unchanged
    · intro present
      rwa [unchanged]

end Publication

/-- With nothing wrong but the rename a lockfile is lost; with nothing wrong but the last
flush a part of the text is published as the whole. -/
theorem lockfile_lost :
    let graph := Relinked.importGraph
    let publish := writeLockfile graph.files graph.manifest graph.units graph.entryModule
    (graph.files.read (lockfilePath graph.manifest)).isSome = true ∧
      (publish ⟨true, true, 1000, true, false, true⟩).1.isOk = false ∧
      (publish ⟨true, true, 1000, true, false, true⟩).2 (lockfilePath graph.manifest) = none ∧
      (publish ⟨true, true, 7, true, true, true⟩).1.isOk = true ∧
      (publish ⟨true, true, 7, true, true, true⟩).2 (lockfilePath graph.manifest) =
        some (ascii "format ") := by
  decide +kernel

end ShortHand.Modules
