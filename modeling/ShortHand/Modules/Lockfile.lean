import ShortHand.Library.Fields
import ShortHand.Modules.Consistency
import ShortHand.Modules.Resolver

/-! What a lockfile says about a resolved graph: it determines what was locked as long as no
path of a source file holds a line end. -/

namespace ShortHand.Modules

open ShortHand.Library ShortHand.Evidence List

/-- What only the second format records. -/
structure Provenance where
  version : Bytes
  licenseSpdx : Bytes
  dependencies : List PackageDependency
  deriving DecidableEq

structure LockedModule where
  name : Bytes
  path : Bytes
  fingerprint : Bytes
  deriving DecidableEq

structure Lock where
  format : Bytes
  packageName : Bytes
  provenance : Option Provenance
  entryModule : Bytes
  modules : List LockedModule
  deriving DecidableEq

def dependencyText (dependency : PackageDependency) : Bytes :=
  ascii "dependency " ++ (dependency.packageName ++ 32 :: (dependency.version ++ 32 ::
    (dependency.relativeRoot ++ 32 :: (dependency.manifestSha256 ++ 32 :: dependency.licenseSpdx))))

def LockedModule.text (locked : LockedModule) : Bytes :=
  ascii "module " ++ (locked.name ++ 32 :: (locked.path ++ 32 :: locked.fingerprint))

namespace Lock

/-- The lines from the entry on. -/
def body (lock : Lock) : List Bytes :=
  (ascii "entry " ++ lock.entryModule) :: lock.modules.map LockedModule.text

def lines (lock : Lock) : List Bytes :=
  match lock.provenance with
  | none => ascii "format shorthand.lock.v1" :: (ascii "package " ++ lock.packageName) :: lock.body
  | some details =>
    ascii "format shorthand.lock.v2" ::
      (ascii "package " ++
        (lock.packageName ++ 32 :: (details.version ++ 32 :: details.licenseSpdx))) ::
      (details.dependencies.map dependencyText ++ lock.body)

/-- A field that ends at a blank. -/
def Solid (text : Bytes) : Prop := 32 ∉ text ∧ 10 ∉ text

/-- No line end inside any field, and no blank inside any but the last of its line
and the paths. -/
structure Plain (lock : Lock) : Prop where
  format : lock.provenance = none ∧ lock.format = packageV1 ∨
    lock.provenance.isSome = true ∧ lock.format = packageV2
  package : Solid lock.packageName
  provenance : ∀ details ∈ lock.provenance, Solid details.version ∧ 10 ∉ details.licenseSpdx ∧
    ∀ dependency ∈ details.dependencies, Solid dependency.packageName ∧ Solid dependency.version ∧
      Solid dependency.relativeRoot ∧ Solid dependency.manifestSha256 ∧
      10 ∉ dependency.licenseSpdx
  entry : 10 ∉ lock.entryModule
  modules : ∀ locked ∈ lock.modules, Solid locked.name ∧ 10 ∉ locked.path ∧
    Solid locked.fingerprint

section Lines

variable {lock other : Lock}

theorem dependencyText_inj
    (inFirst : Solid first.packageName ∧ Solid first.version ∧ Solid first.relativeRoot ∧
      Solid first.manifestSha256)
    (inSecond : Solid second.packageName ∧ Solid second.version ∧ Solid second.relativeRoot ∧
      Solid second.manifestSha256) (same : dependencyText first = dependencyText second) :
    first = second := by
  obtain ⟨names, rest⟩ := field_inj inFirst.1.1 inSecond.1.1 (append_cancel_left same)
  obtain ⟨versions, rest⟩ := field_inj inFirst.2.1.1 inSecond.2.1.1 rest
  obtain ⟨roots, rest⟩ := field_inj inFirst.2.2.1.1 inSecond.2.2.1.1 rest
  obtain ⟨digests, licenses⟩ := field_inj inFirst.2.2.2.1 inSecond.2.2.2.1 rest
  cases first
  simp_all

/-- A path may hold blanks: the name ends at the first blank of the line and the
fingerprint begins behind the last. -/
theorem moduleText_inj {first second : LockedModule}
    (inFirst : Solid first.name ∧ Solid first.fingerprint)
    (inSecond : Solid second.name ∧ Solid second.fingerprint)
    (same : first.text = second.text) : first = second := by
  obtain ⟨names, rest⟩ := field_inj inFirst.1.1 inSecond.1.1 (append_cancel_left same)
  obtain ⟨paths, fingerprints⟩ := last_field_inj inFirst.2.1 inSecond.2.1 rest
  cases first
  simp_all

theorem Plain.body_inj (plain : Plain lock) (also : Plain other) (same : lock.body = other.body) :
    lock.entryModule = other.entryModule ∧ lock.modules = other.modules := by
  obtain ⟨entries, modules⟩ := cons.inj same
  refine ⟨append_cancel_left entries, ?_⟩
  refine map_inj_of_forall (fun locked member => ?_) (fun locked member => ?_)
    (fun _ _ inFirst inSecond => moduleText_inj inFirst inSecond) modules
  · exact ⟨(plain.modules locked member).1, (plain.modules locked member).2.2⟩
  · exact ⟨(also.modules locked member).1, (also.modules locked member).2.2⟩

theorem Plain.lines_inj (plain : Plain lock) (also : Plain other) (same : lock.lines = other.lines) :
    lock = other := by
  obtain ⟨format, packageName, provenance, entryModule, modules⟩ := lock
  obtain ⟨otherFormat, otherPackage, otherProvenance, otherEntry, otherModules⟩ := other
  cases provenance with
  | none =>
    cases otherProvenance with
    | none =>
      obtain ⟨_, same⟩ := cons.inj same
      obtain ⟨packages, bodies⟩ := cons.inj same
      obtain ⟨entries, modules⟩ := plain.body_inj also bodies
      have formats : format = packageV1 ∧ otherFormat = packageV1 := by
        simpa using And.intro plain.format also.format
      simp_all
    | some details => exact absurd (cons.inj same).1 (by decide)
  | some details =>
    cases otherProvenance with
    | none => exact absurd (cons.inj same).1 (by decide)
    | some others =>
      obtain ⟨version, license, dependencies⟩ := plain.provenance details rfl
      obtain ⟨otherVersion, otherLicense, otherDependencies⟩ := also.provenance others rfl
      obtain ⟨_, same⟩ := cons.inj same
      obtain ⟨packages, rest⟩ := cons.inj same
      -- a dependency line begins with another letter than the entry line
      have starts : ∀ listed : List PackageDependency, ∀ line ∈ listed.map dependencyText,
          line.head? = some (100 : Byte) := by
        intro listed line member
        obtain ⟨dependency, _, rfl⟩ := mem_map.mp member
        rfl
      have ends : ∀ name : Bytes, ¬ (ascii "entry " ++ name).head? = some (100 : Byte) := by
        intro name
        rw [show (ascii "entry " ++ name).head? = some (101 : Byte) from rfl]
        decide
      obtain ⟨listed, entries, bodies⟩ := append_cons_inj_of_forall
        (starts _) (starts _) (ends _) (ends _) rest
      obtain ⟨names, versions⟩ := field_inj plain.package.1 also.package.1
        (append_cancel_left packages)
      obtain ⟨versions, licenses⟩ := field_inj version.1 otherVersion.1 versions
      have dependencyLists : details.dependencies = others.dependencies := by
        refine @map_inj_of_forall _ _ _ _ _
          (fun dependency : PackageDependency => Solid dependency.packageName ∧
            Solid dependency.version ∧ Solid dependency.relativeRoot ∧
            Solid dependency.manifestSha256)
          (fun dependency member => ?_) (fun dependency member => ?_)
          (fun _ _ => dependencyText_inj) listed
        · obtain ⟨first, second, third, fourth, _⟩ := dependencies dependency member
          exact ⟨first, second, third, fourth⟩
        · obtain ⟨first, second, third, fourth, _⟩ := otherDependencies dependency member
          exact ⟨first, second, third, fourth⟩
      obtain ⟨entries, modules⟩ := plain.body_inj also (cons_eq_cons.mpr ⟨entries, bodies⟩)
      have formats : format = packageV2 ∧ otherFormat = packageV2 := by
        simpa using And.intro plain.format also.format
      cases details
      simp_all

theorem Plain.unbroken (plain : Plain lock) : ∀ line ∈ lock.lines, 10 ∉ line := by
  have words : ∀ word ∈ ["entry ", "module ", "package ", "dependency "], 10 ∉ ascii word := by
    decide +kernel
  simp only [forall_mem_cons] at words
  have body : ∀ line ∈ lock.body, 10 ∉ line := by
    refine forall_mem_cons.mpr ⟨by simp [words, plain.entry], forall_mem_map.mpr fun locked listed => ?_⟩
    obtain ⟨name, path, fingerprint⟩ := plain.modules locked listed
    simp [LockedModule.text, words, name.2, path, fingerprint.2]
  unfold lines
  split
  · refine forall_mem_cons.mpr ⟨by decide, forall_mem_cons.mpr ⟨?_, body⟩⟩
    simp [words, plain.package.2]
  · rename_i details found
    obtain ⟨version, license, dependencies⟩ := plain.provenance details found
    refine forall_mem_cons.mpr ⟨by decide, forall_mem_cons.mpr ⟨?_,
      forall_mem_append.mpr ⟨forall_mem_map.mpr fun dependency listed => ?_, body⟩⟩⟩
    · simp [words, plain.package.2, version.2, license]
    · obtain ⟨name, version, root, digest, license⟩ := dependencies dependency listed
      simp [dependencyText, words, name.2, version.2, root.2, digest.2, license]

/-- A text determines the lock if both locks are plain. -/
theorem Plain.text_inj (plain : Plain lock) (also : Plain other)
    (same : terminated (10 : Byte) lock.lines = terminated 10 other.lines) : lock = other :=
  plain.lines_inj also (terminated_inj plain.unbroken also.unbroken same)

end Lines

end Lock

/-- Every descriptor was checked against the manifest under its own name. -/
def Validated (files : FileSystem) (manifest : PackageManifest)
    (units : OrderedMap Bytes ModuleUnitDescriptor) : Prop :=
  ∀ entry ∈ units.entries, entry.2.moduleName = entry.1 ∧
    ∃ package, validateUnitIdentity files manifest entry.2 package = .ok ()

/-- An accepted manifest with a graph of its modules. -/
structure ResolvedGraph where
  files : FileSystem
  entrySource : Bytes
  manifest : PackageManifest
  units : OrderedMap Bytes ModuleUnitDescriptor
  entryModule : Bytes
  accepted : loadForEntry files entrySource = .ok manifest
  validated : Validated files manifest units
  listed : units.contains entryModule = true

section Graphs

variable {files : FileSystem} {manifest : PackageManifest}
  {parse : Bytes → Option ParsedSourceUnit} {graph after : Expansion} {name : Bytes}

theorem Validated.insert (validated : Validated files manifest units)
    (valid : validateUnitIdentity files manifest unit package = .ok ()) :
    Validated files manifest (units.insert unit.moduleName unit) := by
  intro entry member
  rcases OrderedMap.mem_insert.mp member with rfl | ⟨earlier, _⟩
  · exact ⟨rfl, package, valid⟩
  · exact validated entry earlier

theorem loadImport_validated (validated : Validated files manifest graph.units)
    (loaded : loadImport files manifest parse graph name = .ok after) :
    Validated files manifest after.units := by
  unfold loadImport at loaded
  split at loaded
  · cases loaded
    exact validated
  obtain ⟨path, _, loaded⟩ := bind_eq_ok.mp loaded
  split at loaded
  · cases loaded
  rename_i unit _
  obtain ⟨named, loaded⟩ := check_eq_ok.mp loaded
  obtain ⟨valid, result⟩ := check_eq_ok.mp loaded
  cases result
  cases of_decide_eq_true (ensure_eq_ok.mp named)
  exact validated.insert valid

theorem mapError_eq_ok {ε δ α : Type} {computation : Except ε α} {change : ε → δ} {value : α} :
    computation.mapError change = .ok value ↔ computation = .ok value := by
  cases computation <;> simp [Except.mapError]

/-- An expansion adds validated units only; by induction on its depth. -/
theorem expand_validated (validated : Validated files manifest graph.units)
    (expanded : expand files manifest parse depth graph name = .ok after) :
    Validated files manifest after.units := by
  induction depth generalizing graph after name with
  | zero => cases expanded
  | succ depth ih =>
    rw [expand] at expanded
    split at expanded
    · cases expanded
      exact validated
    obtain ⟨last, imports, result⟩ := bind_eq_ok.mp expanded
    cases result
    have kept := @foldlM_invariant _ _ _ _ _ _ _
      (fun _ (graph : Expansion) => Validated files manifest graph.units) (by exact validated) ?_
      imports
    · exact kept
    · intro earlier import_ later _ before next held taken
      obtain ⟨loaded, import_, deeper⟩ := bind_eq_ok.mp taken
      exact ih (loadImport_validated held (mapError_eq_ok.mp import_)) deeper

theorem loadModuleGraph_eq_ok {depth : Nat} {ordered : List Bytes}
    (loaded : loadModuleGraph files parse depth entry = .ok (manifest, units, ordered)) :
    loadForEntry files entry.descriptor.sourcePath = .ok manifest ∧
      Validated files manifest units ∧ units.contains entry.descriptor.moduleName = true := by
  obtain ⟨manifest, accepted, loaded⟩ := bind_eq_ok.mp loaded
  obtain ⟨valid, loaded⟩ := check_eq_ok.mp loaded
  obtain ⟨graph, expanded, loaded⟩ := bind_eq_ok.mp loaded
  obtain ⟨ordered, sorted, result⟩ := bind_eq_ok.mp loaded
  cases result
  have start : Validated files manifest
      ((OrderedMap.empty).insert entry.descriptor.moduleName entry.descriptor) := by
    refine Validated.insert ?_ (mapError_eq_ok.mp valid)
    nofun
  refine ⟨mapError_eq_ok.mp accepted, expand_validated start expanded, ?_⟩
  unfold topologicalOrder at sorted
  split at sorted
  · assumption
  · cases sorted

/-- What loading a module graph ends with. -/
def ResolvedGraph.ofLoaded {depth : Nat} {entry : ParsedSourceUnit} {ordered : List Bytes}
    {units : OrderedMap Bytes ModuleUnitDescriptor}
    (loaded : loadModuleGraph files parse depth entry = .ok (manifest, units, ordered)) :
    ResolvedGraph where
  files := files
  entrySource := entry.descriptor.sourcePath
  manifest := manifest
  units := units
  entryModule := entry.descriptor.moduleName
  accepted := (loadModuleGraph_eq_ok loaded).1
  validated := (loadModuleGraph_eq_ok loaded).2.1
  listed := (loadModuleGraph_eq_ok loaded).2.2

end Graphs

/-- Nothing but visible characters. -/
def Visible (text : Bytes) : Prop := ∀ byte ∈ text, isspace byte = false

theorem Visible.solid (visible : Visible text) : Lock.Solid text :=
  ⟨fun member => absurd (visible _ member) (by decide),
    fun member => absurd (visible _ member) (by decide)⟩

theorem mem_segments {delimiter byte : Byte} {text : Bytes} (member : byte ∈ text) :
    byte = delimiter ∨ ∃ segment ∈ segments delimiter text, byte ∈ segment := by
  rw [← intercalate_segments delimiter text] at member
  simpa using mem_intercalate member

theorem segments_mem {segment : Bytes} (listed : segment ∈ segments delimiter text)
    (inside : byte ∈ segment) : byte ∈ text := by
  rw [← intercalate_segments delimiter text]
  exact mem_intercalate_of_mem listed inside

theorem visible_of_identifier : ∀ byte : Byte,
    (isalpha byte || isDigit byte || byte = 95) = true → isspace byte = false := by
  decide +kernel

theorem visible_of_validModuleName (valid : validModuleName name = true) : Visible name := by
  intro byte member
  simp only [validModuleName, Bool.and_eq_true, all_eq_true] at valid
  rcases @mem_segments 46 byte name member with rfl | ⟨segment, listed, inside⟩
  · rfl
  have identifier := valid.2 segment listed
  cases segment with
  | nil => cases inside
  | cons first rest =>
    rw [validIdentifierSegment, Bool.and_eq_true, all_eq_true] at identifier
    exact visible_of_identifier byte (identifier.2 byte inside)

theorem visible_lexicallyNormal (visible : Visible path) : Visible (lexicallyNormal path) := by
  have separator : Visible [47] := by
    intro byte member
    cases mem_singleton.mp member
    rfl
  intro byte member
  simp only [lexicallyNormal] at member
  split at member
  · cases mem_singleton.mp member
    rfl
  rcases mem_append.mp member with inside | last
  · rcases mem_intercalate inside with between | ⟨name, listed, inName⟩
    · exact separator byte between
    · exact visible byte (segments_mem (mem_of_mem_filter listed) inName)
  · split at last
    · exact separator byte last
    · cases last

theorem unbroken_of_allowed (allowed : allowedRedistributedLicense license = true) :
    10 ∉ license := by
  have every : ∀ license ∈ redistributedLicenses, 10 ∉ license := by decide +kernel
  exact every license (contains_iff_mem.mp allowed)

/-- A dependency whose fields are words, but for the license. -/
structure SpelledDependency (dependency : PackageDependency) : Prop where
  name : Visible dependency.packageName
  version : Visible dependency.version
  root : Visible dependency.relativeRoot
  digest : Visible dependency.manifestSha256
  license : 10 ∉ dependency.licenseSpdx

/-- The spelling of what the records so far have set. -/
structure Spelled (state : Loading) : Prop where
  format : state.formatSeen = true →
    state.manifest.format = packageV1 ∨ state.manifest.format = packageV2
  package : state.packageSeen = true → Visible state.manifest.packageName
  version : state.versionSeen = true → Visible state.manifest.version
  license : state.licenseSeen = true → 10 ∉ state.manifest.licenseSpdx
  dependencies : ∀ entry ∈ state.manifest.dependencies.entries, SpelledDependency entry.2

theorem spelledDependency_of_words (words : ∀ part ∈ parts, Word part) (long : 6 ≤ parts.length)
    (allowed : allowedRedistributedLicense (dependencyOf parts).licenseSpdx = true) :
    SpelledDependency (dependencyOf parts) := by
  have visible : ∀ index < 6, Visible (parts.getD index []) := by
    intro index bound
    rw [getD_eq_getElem?_getD, getElem?_eq_getElem (by omega), Option.getD_some]
    exact (words _ (getElem_mem _)).2
  exact ⟨visible 1 (by decide), visible 2 (by decide),
    visible_lexicallyNormal (visible 3 (by decide)), visible 4 (by decide),
    unbroken_of_allowed allowed⟩

theorem Spelled.step {files : FileSystem} {state after : Loading} {parts : List Bytes}
    (spelled : Spelled state) (words : ∀ part ∈ parts, Word part)
    (effect : RecordEffect files state parts after) : Spelled after := by
  cases effect with
  | format known => exact { spelled with format := fun _ => known }
  | package _ valid =>
    exact { spelled with package := fun _ => visible_of_validModuleName valid }
  | version => exact { spelled with version := fun _ => (words _ (by simp)).2 }
  | license allowed => exact { spelled with license := fun _ => unbroken_of_allowed allowed }
  | module => exact { spelled with }
  | dependency _ long _ _ allowed =>
    refine { spelled with dependencies := ?_ }
    intro entry member
    rcases OrderedMap.mem_insert.mp member with rfl | ⟨earlier, _⟩
    · exact spelledDependency_of_words words long allowed
    · exact spelled.dependencies entry earlier

theorem foldRecords_spelled {files : FileSystem}
    (read : foldRecords limits (applyRecord files)
      { manifest := { manifestPath := path, packageRoot := parentPath path } } text = .ok state) :
    Spelled state := by
  refine @foldRecords_invariant _ _ _ _ _ _ (fun _ state => Spelled state) ?_
    (fun _ _ spelled => spelled) ?_ read
  · exact ⟨nofun, nofun, nofun, nofun, nofun⟩
  · intro _ line before parts after words spelled applied
    exact spelled.step words (applyRecord_effect applied)

namespace ResolvedGraph

variable (graph : ResolvedGraph)

/-- What is locked: the source paths as the file system gives them. -/
def lock : Lock where
  format := graph.manifest.format
  packageName := graph.manifest.packageName
  provenance := if graph.manifest.format = packageV2 then
      some ⟨graph.manifest.version, graph.manifest.licenseSpdx,
        graph.manifest.dependencies.entries.map Prod.snd⟩
    else none
  entryModule := graph.entryModule
  modules := graph.units.entries.map fun entry =>
    ⟨entry.1, relativeToRoot graph.files graph.manifest entry.2.sourcePath,
      (fingerprintFile graph.files graph.manifest entry.2.sourcePath).getD []⟩

def expectedLockfile : Except Failure Bytes :=
  Modules.expectedLockfile graph.files graph.manifest graph.units graph.entryModule

def verifyLockfile : Except Failure Unit :=
  Modules.verifyLockfile graph.files graph.manifest graph.units graph.entryModule

/-- No source path, seen from the package root, holds a line end. -/
def Unbroken : Prop :=
  ∀ entry ∈ graph.units.entries,
    10 ∉ relativeToRoot graph.files graph.manifest entry.2.sourcePath

instance : Decidable graph.Unbroken :=
  inferInstanceAs (Decidable (∀ entry ∈ graph.units.entries, _))

variable {graph}

theorem moduleLine_eq_ok {files : FileSystem} {manifest : PackageManifest}
    {entry : Bytes × ModuleUnitDescriptor} (made : moduleLine files manifest entry = .ok line) :
    line = LockedModule.text ⟨entry.1, relativeToRoot files manifest entry.2.sourcePath,
      (fingerprintFile files manifest entry.2.sourcePath).getD []⟩ ++ [10] := by
  simp only [moduleLine] at made
  split at made
  · cases made
  split at made
  · cases made
  rename_i fingerprint found
  cases made
  rw [found, LockedModule.text, show ascii " " = [32] from rfl, show ascii "\n" = [10] from rfl]
  simp

theorem dependencyLine_eq (dependency : PackageDependency) :
    dependencyLine dependency = dependencyText dependency ++ [10] := by
  rw [dependencyLine, dependencyText, show ascii " " = [32] from rfl,
    show ascii "\n" = [10] from rfl]
  simp

/-- The text of a lockfile is the lines of the lock. -/
theorem expectedLockfile_eq_ok (locked : graph.expectedLockfile = .ok text) :
    text = terminated 10 graph.lock.lines := by
  have whole := @foldlM_invariant _ _ _ _ _ _ _
    (fun (earlier : List (Bytes × ModuleUnitDescriptor)) (out : Bytes) => out = terminated 10
      ({ graph.lock with modules := earlier.map fun entry =>
        ⟨entry.1, relativeToRoot graph.files graph.manifest entry.2.sourcePath,
          (fingerprintFile graph.files graph.manifest entry.2.sourcePath).getD []⟩ } : Lock).lines)
    ?_ ?_ locked
  · exact whole
  · simp only [lock, Lock.lines]
    by_cases second : graph.manifest.format = packageV2
    · have dependencies : (graph.manifest.dependencies.entries.flatMap
          fun entry => dependencyLine entry.2) =
          terminated 10 ((graph.manifest.dependencies.entries.map Prod.snd).map dependencyText) := by
        simp only [terminated, map_map, flatMap_map, dependencyLine_eq]
        rfl
      rw [if_pos second, if_pos second, if_pos second, if_pos second, dependencies]
      simp [terminated, Lock.body, show ascii " " = [32] from rfl, show ascii "\n" = [10] from rfl]
      rfl
    · rw [if_neg second, if_neg second, if_neg second, if_neg second]
      simp [terminated, Lock.body, show ascii "\n" = [10] from rfl]
      rfl
  · intro earlier entry later _ before after held added
    obtain ⟨line, made, result⟩ := bind_eq_ok.mp added
    cases result
    rw [held, moduleLine_eq_ok made]
    simp only [Lock.lines]
    split <;> simp [terminated, Lock.body]

theorem validModuleName_of_resolveModule {files : FileSystem} {manifest : PackageManifest}
    (accepted : Accepted files text manifest)
    (resolved : resolveModule files manifest name = .ok path) : validModuleName name = true := by
  obtain ⟨state, rfl, mapped⟩ := accepted.mapped
  unfold resolveModule at resolved
  split at resolved
  · cases resolved
  · rename_i found
    exact mapped.named _ (OrderedMap.find?_eq_some_iff.mp found)

theorem visible_name (member : entry ∈ graph.units.entries) : Visible entry.1 := by
  obtain ⟨_, text, _, _, accepted⟩ := accepted_of_loadForEntry graph.accepted
  obtain ⟨named, package, valid⟩ := graph.validated entry member
  obtain ⟨_, valid⟩ := check_eq_ok.mp valid
  obtain ⟨_, valid⟩ := check_eq_ok.mp valid
  obtain ⟨path, resolved, _⟩ := bind_eq_ok.mp valid
  rw [← named]
  exact visible_of_validModuleName (validModuleName_of_resolveModule accepted resolved)

theorem visible_fingerprint {files : FileSystem} {manifest : PackageManifest} {path : Bytes} :
    Visible ((fingerprintFile files manifest path).getD []) := by
  have digits : ∀ value < 16, isspace (hexDigit value) = false := by decide
  have hexadecimal : ∀ byte : Byte, isDigit byte = true ∨ isLower byte = true →
      isspace byte = false := by decide +kernel
  have sha : ∀ byte ∈ ascii "sha256:", isspace byte = false := by decide +kernel
  have fnv : ∀ byte ∈ ascii "fnv1a64:", isspace byte = false := by decide +kernel
  unfold fingerprintFile FileSystem.cryptographicFingerprintFile legacyFingerprintFile
  cases files.read path with
  | none =>
    split <;> nofun
  | some text =>
    intro byte member
    split at member
    · rcases mem_append.mp member with scheme | digest
      · exact sha byte scheme
      · exact hexadecimal byte (files.sha256_hex text byte digest)
    · rcases mem_append.mp member with scheme | digest
      · exact fnv byte scheme
      · obtain ⟨place, _, rfl⟩ := mem_map.mp digest
        exact digits _ (Nat.mod_lt _ (by decide))

theorem lock_plain (unbroken : graph.Unbroken) : graph.lock.Plain := by
  obtain ⟨_, text, _, _, accepted⟩ := accepted_of_loadForEntry graph.accepted
  obtain ⟨_, _, state, read, formatSeen, packageSeen, second, same⟩ := accepted.origin
  have spelled := foldRecords_spelled read
  have format : graph.manifest.format = state.manifest.format := by rw [same]
  refine ⟨?_, ?_, ?_, ?_, ?_⟩
  · simp only [lock]
    rcases spelled.format formatSeen with first | second
    · refine .inl ⟨if_neg ?_, format.trans first⟩
      rw [format, first]
      decide
    · refine .inr ⟨?_, format.trans second⟩
      rw [if_pos (format.trans second)]
      rfl
  · rw [lock, same]
    exact (spelled.package packageSeen).solid
  · intro details found
    obtain ⟨isSecond, result⟩ := Option.ite_none_right_eq_some.mp found
    cases result
    obtain ⟨versionSeen, licenseSeen⟩ := second (format.symm.trans isSecond)
    rw [same]
    refine ⟨(spelled.version versionSeen).solid, spelled.license licenseSeen, ?_⟩
    intro dependency member
    obtain ⟨entry, listed, rfl⟩ := mem_map.mp member
    have plain := spelled.dependencies entry listed
    exact ⟨plain.name.solid, plain.version.solid, plain.root.solid, plain.digest.solid, plain.license⟩
  · obtain ⟨unit, found⟩ := Option.isSome_iff_exists.mp graph.listed
    exact (visible_name (OrderedMap.find?_eq_some_iff.mp found)).solid.2
  · intro locked member
    obtain ⟨entry, listed, rfl⟩ := mem_map.mp member
    exact ⟨(visible_name listed).solid, unbroken entry listed, visible_fingerprint.solid⟩

theorem verifyLockfile_eq_ok (locked : graph.expectedLockfile = .ok text)
    (stored : graph.files.read (lockfilePath graph.manifest) = some actual) :
    graph.verifyLockfile = .ok () ↔ actual = text := by
  rw [verifyLockfile, Modules.verifyLockfile, bind_eq_ok]
  constructor
  · rintro ⟨expected, again, compared⟩
    rw [stored] at compared
    cases again.symm.trans locked
    exact of_decide_eq_true (ensure_eq_ok.mp compared)
  · intro same
    refine ⟨text, locked, ?_⟩
    rw [stored]
    exact ensure_eq_ok.mpr (decide_eq_true same)

end ResolvedGraph

/-- Among graphs whose source paths hold no line end, the text of a lockfile is the
text of one lock: verification accepts exactly the graph that was locked. -/
theorem lockfile_identifies {first second : ResolvedGraph} {text other : Bytes}
    (unbroken : first.Unbroken) (alsoUnbroken : second.Unbroken)
    (locked : first.expectedLockfile = .ok text) (alsoLocked : second.expectedLockfile = .ok other) :
    (text = other ↔ first.lock = second.lock) ∧
      (second.files.read (lockfilePath second.manifest) = some text →
        (second.verifyLockfile = .ok () ↔ first.lock = second.lock)) := by
  have identifies : text = other ↔ first.lock = second.lock := by
    rw [ResolvedGraph.expectedLockfile_eq_ok locked, ResolvedGraph.expectedLockfile_eq_ok alsoLocked]
    constructor
    · exact (ResolvedGraph.lock_plain unbroken).text_inj (ResolvedGraph.lock_plain alsoUnbroken)
    · intro same
      rw [same]
  refine ⟨identifies, fun stored => ?_⟩
  rwa [ResolvedGraph.verifyLockfile_eq_ok alsoLocked stored]

namespace Relinked

def manifestText : Bytes :=
  ascii ("format shorthand.package.v1\npackage p\nmodule p.a a.short\nmodule p.m m.short\n")

/-- Two versions of the entry module, and the module that both import. -/
def entryText (version : String) : Bytes :=
  ascii ("package p\nmodule p.a\nimport p.m\n// " ++ version ++ "\n")

def importText : Bytes := ascii "package p\nmodule p.m\n"

def lockText : Bytes :=
  ascii "format shorthand.lock.v1\npackage p\nentry p.a\nmodule p.a a.short " ++
    legacyFingerprint (entryText "1") ++ ascii "\nmodule p.m r.short " ++
    legacyFingerprint (entryText "2") ++ ascii "\nmodule p.m m.short " ++
    legacyFingerprint importText ++ ascii "\n"

/-- A tree of the two modules, where the file of one of them may be a link. -/
def tree (link entry : Bytes × Bytes) (imported : Bytes) (settled : [link].lookup link.2 = none) :
    FileSystem :=
  .ofTable [link]
    [(ascii "/p/shorthand.package", manifestText), (ascii "/p/shorthand.lock", lockText), entry,
      (imported, importText)]
    (by simpa using settled)

/-- Here `m.short` leads to a file whose name goes on in the next line. -/
def importTarget : Bytes :=
  ascii "/p/r.short " ++ legacyFingerprint (entryText "2") ++ ascii "\nmodule p.m m.short"

/-- And here `a.short` does. -/
def entryTarget : Bytes :=
  ascii "/p/a.short " ++ legacyFingerprint (entryText "1") ++ ascii "\nmodule p.m r.short"

def importTree : FileSystem :=
  tree (ascii "/p/m.short", importTarget) (ascii "/p/a.short", entryText "1") importTarget
    (by decide +kernel)

def entryTree : FileSystem :=
  tree (ascii "/p/a.short", entryTarget) (entryTarget, entryText "2") (ascii "/p/m.short")
    (by decide +kernel)

def entryUnit : ParsedSourceUnit := ⟨⟨ascii "p.a", ascii "/p/a.short", [ascii "p.m"]⟩, ascii "p"⟩

def parse (path : Bytes) : Option ParsedSourceUnit := some ⟨⟨ascii "p.m", path, []⟩, ascii "p"⟩

def result (files : FileSystem) :
    PackageManifest × OrderedMap Bytes ModuleUnitDescriptor × List Bytes :=
  valueOr (⟨[], [], [], [], [], [], .empty, .empty, .empty⟩, .empty, [])
    (loadModuleGraph files parse 3 entryUnit)

def graph (files : FileSystem) (loads : (loadModuleGraph files parse 3 entryUnit).isOk = true) :
    ResolvedGraph :=
  @ResolvedGraph.ofLoaded files (result files).1 parse 3 entryUnit (result files).2.2
    (result files).2.1 (eq_ok_valueOr _ loads)

def importGraph : ResolvedGraph := graph importTree (by decide +kernel)

def entryGraph : ResolvedGraph := graph entryTree (by decide +kernel)

/-- The two modules under their own names. -/
def plainGraph (version : String)
    (loads : (loadModuleGraph (tree (ascii "/p/l", ascii "/p") (ascii "/p/a.short", entryText version)
      (ascii "/p/m.short") (by decide)) parse 3 entryUnit).isOk = true) : ResolvedGraph :=
  graph _ loads

end Relinked

/-- Editing the entry module makes the lockfile stale. -/
theorem lockfile_identifies_edited :
    (Relinked.plainGraph "1" (by decide +kernel)).expectedLockfile ≠
      (Relinked.plainGraph "2" (by decide +kernel)).expectedLockfile := by
  have locked := eq_ok_valueOr []
    (show (Relinked.plainGraph "1" (by decide +kernel)).expectedLockfile.isOk = true by decide +kernel)
  have also := eq_ok_valueOr []
    (show (Relinked.plainGraph "2" (by decide +kernel)).expectedLockfile.isOk = true by decide +kernel)
  have different : (Relinked.plainGraph "1" (by decide +kernel)).lock ≠
      (Relinked.plainGraph "2" (by decide +kernel)).lock := by decide +kernel
  intro same
  exact different ((lockfile_identifies (by decide +kernel) (by decide +kernel) locked also).1.mp
    (Except.ok.inj same))

/-- A file name that goes on in the next line: the lockfile of one graph is accepted
for another, where both modules have other files and the entry module another text. -/
theorem lockfile_of_two_graphs :
    Relinked.importGraph.expectedLockfile = .ok Relinked.lockText ∧
      Relinked.entryGraph.expectedLockfile = .ok Relinked.lockText ∧
      Relinked.entryGraph.verifyLockfile = .ok () ∧
      Relinked.importGraph.lock ≠ Relinked.entryGraph.lock := by
  decide +kernel

end ShortHand.Modules
