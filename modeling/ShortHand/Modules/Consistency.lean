import ShortHand.Modules.Records

/-! Accepted manifests are consistent. That a module is in the namespace of no second package
holds exactly if no two declared packages are nested. -/

namespace ShortHand.Modules

open ShortHand.Library ShortHand.Evidence List OrderedMap

/-- Neither package lies in the namespace of the other. -/
def Apart (first second : Bytes) : Prop :=
  startsWithPackage first second = false ∧ startsWithPackage second first = false

instance (first second : Bytes) : Decidable (Apart first second) := inferInstanceAs (Decidable (_ ∧ _))

theorem Apart.symm (apart : Apart first second) : Apart second first :=
  ⟨apart.2, apart.1⟩

theorem startsWithPackage_iff :
    startsWithPackage name package = true ↔ name = package ∨ ∃ below, name = package ++ 46 :: below := by
  simp only [startsWithPackage, Bool.or_eq_true, Bool.and_eq_true, decide_eq_true_eq]
  refine or_congr_right ⟨?_, ?_⟩
  · rintro ⟨⟨longer, start⟩, dot⟩
    refine ⟨name.drop (package.length + 1), ?_⟩
    obtain ⟨_, dotted⟩ := List.getElem?_eq_some_iff.mp dot
    rw [← dotted, getElem_cons_drop]
    conv_rhs => rw [← start]
    rw [length_take_of_le longer.le, take_append_drop]
  · rintro ⟨below, rfl⟩
    simp

theorem startsWithPackage_trans {inner : Bytes} (first : startsWithPackage name inner = true)
    (second : startsWithPackage inner outer = true) : startsWithPackage name outer = true := by
  rw [startsWithPackage_iff] at *
  rcases first with rfl | ⟨below, rfl⟩
  · exact second
  · rcases second with rfl | ⟨further, rfl⟩
    · exact .inr ⟨below, rfl⟩
    · exact .inr ⟨further ++ 46 :: below, by simp⟩

/-- Two packages with a module in common are nested. -/
theorem nested_of_startsWithPackage (inFirst : startsWithPackage name first = true)
    (inSecond : startsWithPackage name second = true) :
    startsWithPackage first second = true ∨ startsWithPackage second first = true := by
  rw [startsWithPackage_iff] at inFirst inSecond
  simp only [startsWithPackage_iff]
  rcases inFirst with rfl | ⟨below, rfl⟩
  · exact .inl inSecond
  rcases inSecond with rfl | ⟨further, same⟩
  · exact .inr (.inr ⟨below, rfl⟩)
  rcases append_eq_append_iff.mp same with ⟨gap, rfl, rest⟩ | ⟨gap, rfl, rest⟩
  · cases gap with
    | nil => exact .inl (.inl (append_nil first).symm)
    | cons byte gap =>
      cases rest
      exact .inr (.inr ⟨gap, rfl⟩)
  · cases gap with
    | nil => exact .inl (.inl (append_nil second))
    | cons byte gap =>
      cases rest
      exact .inl (.inr ⟨gap, rfl⟩)

/-- The package that a record of the root manifest declares. -/
def declaredName? (parts : List Bytes) : Option Bytes :=
  if parts.head? = some (ascii "dependency") ∨
      parts.length = 2 ∧ parts.head? = some (ascii "package")
  then parts[1]? else none

def declaredPackages (text : Bytes) : List Bytes := (manifestRecords text).filterMap declaredName?

def PackageManifest.packages (manifest : PackageManifest) : List Bytes :=
  manifest.packageName :: manifest.dependencies.entries.map Prod.fst

/-- The manifest of the vendored package is the one that was declared. -/
def LoadedAsDeclared (files : FileSystem) (root : Bytes) (dependency : PackageDependency) : Prop :=
  ∃ directory text read,
    files.canonicalWithin root (joinPath root dependency.relativeRoot) = some directory ∧
    files.read (joinPath directory (ascii "shorthand.package")) = some text ∧
    ascii "sha256:" ++ files.sha256 text = dependency.manifestSha256 ∧
    readVendoredManifest dependency.packageName text = .ok read ∧
    read.format = packageV2 ∧ read.packageName = dependency.packageName ∧
    read.version = dependency.version ∧ read.licenseSpdx = dependency.licenseSpdx

/-- A manifest, loaded from its text, whose modules have a file and a package each. -/
structure Consistent (files : FileSystem) (text : Bytes) (manifest : PackageManifest) : Prop where
  distinct : ∀ first ∈ manifest.modulePaths.entries, ∀ second ∈ manifest.modulePaths.entries,
    files.canonicalString (joinPath manifest.packageRoot first.2) =
      files.canonicalString (joinPath manifest.packageRoot second.2) → first.1 = second.1
  located : ∀ entry ∈ manifest.modulePaths.entries, ∃ file,
    files.canonicalString (joinPath manifest.packageRoot entry.2) = some file ∧
      files.pathWithinRoot manifest.packageRoot file = true
  owned : ∀ entry ∈ manifest.modulePaths.entries, ∃ owner,
    manifest.packages.filter (startsWithPackage entry.1) = [owner] ∧
      manifest.modulePackages.find? entry.1 = some owner
  loaded : ∀ parts ∈ manifestRecords text, parts.head? = some (ascii "dependency") →
    LoadedAsDeclared files manifest.packageRoot (dependencyOf parts)

/-- Every module has a file under the root that is known as its own. -/
structure Mapped (files : FileSystem) (root : Bytes) (state : Loading) : Prop where
  place : state.manifest.packageRoot = root
  named : ∀ entry ∈ state.manifest.modulePaths.entries, validModuleName entry.1 = true
  filed : ∀ entry ∈ state.manifest.modulePaths.entries, ∃ file,
    files.canonicalWithin root (joinPath root entry.2) = some file ∧
      (file, entry.1) ∈ state.pathToModule.entries

section Mapped

variable {files : FileSystem} {root : Bytes} {state : Loading} {name path owner file : Bytes}

theorem Mapped.addModule (mapped : Mapped files root state) (valid : validModuleName name = true)
    (located : files.canonicalWithin root (joinPath root path) = some file)
    (unshared : file ∉ state.pathToModule.entries.map Prod.fst) :
    Mapped files root (state.addModule name path owner file) where
  place := mapped.place
  named := by
    intro entry member
    rcases mem_insert.mp member with rfl | ⟨earlier, _⟩
    · exact valid
    · exact mapped.named entry earlier
  filed := by
    intro entry member
    rcases mem_insert.mp member with rfl | ⟨earlier, _⟩
    · exact ⟨file, located, mem_insert.mpr (.inl rfl)⟩
    obtain ⟨own, found, known⟩ := mapped.filed entry earlier
    refine ⟨own, found, mem_insert.mpr (.inr ⟨known, ?_⟩)⟩
    rintro rfl
    exact unshared (mem_map.mpr ⟨_, known, rfl⟩)

theorem canonicalWithin_eq_some : files.canonicalWithin root path = some file ↔
    files.canonicalString path = some file ∧ files.pathWithinRoot root file = true :=
  Option.filter_eq_some_iff

theorem Mapped.located (mapped : Mapped files root state) :
    ∀ entry ∈ state.manifest.modulePaths.entries, ∃ file,
      files.canonicalString (joinPath root entry.2) = some file ∧
        files.pathWithinRoot root file = true := by
  intro entry member
  obtain ⟨file, located, _⟩ := mapped.filed entry member
  exact ⟨file, canonicalWithin_eq_some.mp located⟩

theorem Mapped.distinct (mapped : Mapped files root state) :
    ∀ first ∈ state.manifest.modulePaths.entries, ∀ second ∈ state.manifest.modulePaths.entries,
      files.canonicalString (joinPath root first.2) =
        files.canonicalString (joinPath root second.2) → first.1 = second.1 := by
  intro first firstMember second secondMember same
  obtain ⟨file, firstFile, firstKnown⟩ := mapped.filed first firstMember
  obtain ⟨other, secondFile, secondKnown⟩ := mapped.filed second secondMember
  rw [(canonicalWithin_eq_some.mp firstFile).1, (canonicalWithin_eq_some.mp secondFile).1] at same
  cases same
  exact Option.some.inj ((find?_eq_some_iff.mpr firstKnown).symm.trans
    (find?_eq_some_iff.mpr secondKnown))

end Mapped

/-- What the records so far amount to. -/
structure Recorded (files : FileSystem) (root : Bytes) (records : List (List Bytes))
    (state : Loading) : Prop where
  mapped : Mapped files root state
  declared : (records.filterMap declaredName?).Perm
    ((if state.packageSeen then [state.manifest.packageName] else []) ++
      state.manifest.dependencies.entries.map Prod.fst)
  named : ∀ entry ∈ state.manifest.dependencies.entries, entry.2.packageName = entry.1
  dependencies : ∀ parts ∈ records, parts.head? = some (ascii "dependency") →
    ((dependencyOf parts).packageName, dependencyOf parts) ∈ state.manifest.dependencies.entries

section Recorded

variable {files : FileSystem} {root : Bytes} {records : List (List Bytes)} {state after : Loading}
  {parts : List Bytes}

theorem head?_ne (different : key ≠ other) : (key :: fields).head? ≠ some other :=
  fun same => different (Option.some.inj same)

/-- A record that declares no package leaves the packages as they were. -/
theorem Recorded.other (recorded : Recorded files root records state)
    (silent : declaredName? parts = none) (key : parts.head? ≠ some (ascii "dependency"))
    (mapped : Mapped files root after) (seen : after.packageSeen = state.packageSeen)
    (package : after.manifest.packageName = state.manifest.packageName)
    (dependencies : after.manifest.dependencies = state.manifest.dependencies) :
    Recorded files root (records ++ [parts]) after where
  mapped := mapped
  declared := by
    rw [filterMap_append, filterMap_cons_none silent, filterMap_nil,
      append_nil, seen, package, dependencies]
    exact recorded.declared
  named := by
    rw [dependencies]
    exact recorded.named
  dependencies := by
    rw [dependencies]
    exact forall_mem_concat.mpr ⟨recorded.dependencies, fun isDependency => absurd isDependency key⟩

theorem Recorded.package (recorded : Recorded files root records state)
    (first : state.packageSeen = false) :
    Recorded files root (records ++ [[ascii "package", name]])
      { state with packageSeen := true, manifest := { state.manifest with packageName := name } } where
  mapped := { recorded.mapped with }
  declared := by
    have earlier := recorded.declared
    rw [first] at earlier
    rw [filterMap_append]
    exact (perm_append_singleton _ _).trans (earlier.cons name)
  named := recorded.named
  dependencies := forall_mem_concat.mpr ⟨recorded.dependencies,
    fun isDependency => absurd isDependency (head?_ne (by decide))⟩

theorem Recorded.dependency (recorded : Recorded files root records state)
    (key : parts.head? = some (ascii "dependency")) (long : 6 ≤ parts.length)
    (fresh : (dependencyOf parts).packageName ∉ state.manifest.dependencies.entries.map Prod.fst) :
    Recorded files root (records ++ [parts])
      { state with manifest := { state.manifest with
        dependencies := state.manifest.dependencies.insert (dependencyOf parts).packageName
          (dependencyOf parts) } } where
  mapped := { recorded.mapped with }
  declared := by
    have name : declaredName? parts = some (dependencyOf parts).packageName := by
      rw [declaredName?, if_pos (.inl key), getElem?_eq_getElem (by omega)]
      simp [dependencyOf, getD_eq_getElem?_getD, getElem?_eq_getElem (show 1 < parts.length by omega)]
    rw [filterMap_append, filterMap_cons_some name]
    refine (perm_append_singleton _ _).trans ((recorded.declared.cons _).trans ?_)
    refine perm_middle.symm.trans (Perm.append_left _ ?_)
    exact ((insert_perm fresh).map Prod.fst).symm
  named := by
    intro entry member
    rcases mem_insert.mp member with rfl | ⟨earlier, _⟩
    · rfl
    · exact recorded.named entry earlier
  dependencies := by
    refine forall_mem_concat.mpr
      ⟨fun other earlier isDependency => ?_, fun _ => mem_insert.mpr (.inl rfl)⟩
    have present := recorded.dependencies other earlier isDependency
    exact mem_insert.mpr (.inr ⟨present, fun same => fresh (mem_map.mpr ⟨_, present, same⟩)⟩)

theorem Recorded.step (recorded : Recorded files root records state)
    (effect : RecordEffect files state parts after) :
    Recorded files root (records ++ [parts]) after := by
  have mapped := recorded.mapped
  cases effect with
  | format | version =>
    exact recorded.other rfl (head?_ne (by decide)) { mapped with } rfl rfl rfl
  | license =>
    refine recorded.other ?_ (head?_ne (by decide)) { mapped with }
      rfl rfl rfl
    exact if_neg (not_or.mpr ⟨head?_ne (by decide), fun package => head?_ne (by decide) package.2⟩)
  | package first _ => exact recorded.package first
  | module valid located unshared =>
    rw [mapped.place] at located
    exact recorded.other rfl (head?_ne (by decide)) (mapped.addModule valid located unshared) rfl rfl rfl
  | dependency key long _ fresh _ => exact recorded.dependency key long fresh

theorem Recorded.blank (recorded : Recorded files root records state) :
    Recorded files root (records ++ [[]]) state :=
  recorded.other rfl (by decide) recorded.mapped rfl rfl rfl

/-- The text of the root manifest, read to its end. -/
theorem foldRecords_recorded
    (read : foldRecords limits (applyRecord files)
      { manifest := { manifestPath := path, packageRoot := parentPath path } } text = .ok state) :
    Recorded files (parentPath path) (manifestRecords text) state := by
  refine foldRecords_invariant ?_ (fun _ _ recorded => recorded.blank) ?_ read
  · refine ⟨⟨rfl, ?_, ?_⟩, Perm.refl _, ?_, ?_⟩ <;>
      nofun
  · intro earlier line before parts after _ recorded applied
    exact recorded.step (applyRecord_effect applied)

/-- The root package, with its modules in its namespace. -/
theorem finishRecords_eq_ok (finished : finishRecords state = .ok after) :
    ∃ claimed : OrderedMap Bytes Bytes,
      after = { state with manifest := { state.manifest with modulePackages := claimed } } ∧
      state.formatSeen = true ∧ state.packageSeen = true ∧
      state.manifest.modulePaths.entries ≠ [] ∧
      (state.manifest.format = packageV2 → state.versionSeen = true ∧ state.licenseSeen = true) ∧
      ∀ entry ∈ state.manifest.modulePaths.entries,
        startsWithPackage entry.1 state.manifest.packageName = true ∧
          (entry.1, state.manifest.packageName) ∈ claimed.entries := by
  obtain ⟨complete, finished⟩ := check_eq_ok.mp finished
  obtain ⟨versioned, finished⟩ := check_eq_ok.mp finished
  obtain ⟨_, finished⟩ := check_eq_ok.mp finished
  obtain ⟨manifest, claims, result⟩ := bind_eq_ok.mp finished
  cases result
  simp only [ensure_eq_ok, Bool.and_eq_true, Bool.not_eq_true', isEmpty_eq_false_iff]
    at complete
  have claimed := @foldlM_invariant _ _ _ _ _ _ _
    (fun earlier (manifest : PackageManifest) =>
      manifest = { state.manifest with modulePackages := manifest.modulePackages } ∧
      ∀ entry ∈ earlier, startsWithPackage entry.1 state.manifest.packageName = true ∧
        (entry.1, state.manifest.packageName) ∈ manifest.modulePackages.entries)
    ⟨rfl, forall_mem_nil _⟩ ?_ claims
  · obtain ⟨same, owned⟩ := claimed
    refine ⟨manifest.modulePackages, ?_, complete.1.1, complete.1.2, complete.2, ?_, owned⟩
    · rw [← same]
    · intro second
      simpa [second] using versioned
  · rintro earlier entry later _ before after ⟨same, owned⟩ claim
    obtain ⟨inside, result⟩ := check_eq_ok.mp claim
    rw [ensure_eq_ok] at inside
    cases result
    have package : before.packageName = state.manifest.packageName := by rw [same]
    refine ⟨by rw [same], ?_⟩
    rw [package] at inside ⊢
    refine forall_mem_concat.mpr ⟨fun other inEarlier => ?_, inside, mem_insert.mpr (.inl rfl)⟩
    obtain ⟨starts, known⟩ := owned other inEarlier
    refine ⟨starts, mem_insert.mpr ?_⟩
    by_cases key : other.1 = entry.1
    · exact .inl (by rw [key])
    · exact .inr ⟨known, key⟩

end Recorded

/-- The modules of the packages so far, on top of a root manifest. -/
structure Attached (files : FileSystem) (base : PackageManifest) (packages : List Bytes)
    (state : Loading) : Prop where
  same : state.manifest = { base with
    modulePaths := state.manifest.modulePaths, modulePackages := state.manifest.modulePackages }
  mapped : Mapped files base.packageRoot state
  owned : ∀ entry ∈ state.manifest.modulePaths.entries, ∃ owner ∈ packages,
    startsWithPackage entry.1 owner = true ∧
      (entry.1, owner) ∈ state.manifest.modulePackages.entries

/-- Each package has a module. -/
def Inhabited (packages : List Bytes) (state : Loading) : Prop :=
  ∀ package ∈ packages, ∃ entry ∈ state.manifest.modulePaths.entries,
    startsWithPackage entry.1 package = true

section Attached

variable {files : FileSystem} {base : PackageManifest} {packages : List Bytes}
  {state after : Loading} {package directory : Bytes} {entry : Bytes × Bytes}

/-- What adding a module of a dependency does. -/
theorem addDependencyModule_eq_ok
    (added : addDependencyModule files package directory state entry = .ok after) :
    ∃ file below, startsWithPackage entry.1 package = true ∧
      files.canonicalWithin directory (joinPath directory entry.2) = some file ∧
      entry.1 ∉ state.manifest.modulePaths.entries.map Prod.fst ∧
      file ∉ state.pathToModule.entries.map Prod.fst ∧
      files.relative (joinPath directory entry.2) state.manifest.packageRoot = some below ∧
      relativePathIsSafe below = true ∧ after = state.addModule entry.1 below package file := by
  obtain ⟨starts, added⟩ := check_eq_ok.mp added
  split at added
  · cases added
  rename_i file located
  obtain ⟨free, added⟩ := check_eq_ok.mp added
  simp only [ensure_eq_ok, Bool.not_or, Bool.and_eq_true, Bool.not_eq_true'] at free
  split at added
  · cases added
  rename_i below related
  cases added
  obtain ⟨related, safe⟩ := Option.filter_eq_some_iff.mp related
  exact ⟨file, below, ensure_eq_ok.mp starts, located,
    contains_eq_false_iff.mp free.1, contains_eq_false_iff.mp free.2,
    related, safe, rfl⟩

theorem relativePathIsSafe_below {below : Bytes} (safe : relativePathIsSafe below = true) :
    below ≠ [] ∧ isAbsolute below = false ∧ climbs below = false := by
  simp only [relativePathIsSafe, Bool.and_eq_true, Bool.not_eq_true', Bool.or_eq_false_iff,
    isEmpty_eq_false_iff] at safe
  exact ⟨safe.1.1.1, safe.1.1.2, safe.1.2⟩

/-- A dependency's module, seen from the package root, is the same file and below it. -/
theorem canonicalWithin_relative {manifestPath original path below file : Bytes}
    (canonical : files.weaklyCanonical original = some manifestPath)
    (located : files.canonicalWithin directory path = some file)
    (related : files.relative path (parentPath manifestPath) = some below)
    (safe : relativePathIsSafe below = true) :
    files.canonicalWithin (parentPath manifestPath) (joinPath (parentPath manifestPath) below) =
      some file := by
  obtain ⟨found, _⟩ := canonicalWithin_eq_some.mp located
  rw [canonicalWithin_eq_some]
  constructor
  · rwa [FileSystem.canonicalString, files.canonical_rejoin canonical related safe]
  obtain ⟨weak, _⟩ := Option.filter_eq_some_iff.mp found
  obtain ⟨filled, relative, stays⟩ := relativePathIsSafe_below safe
  simp [FileSystem.pathWithinRoot, files.relative_canonical _ weak, related, filled, relative,
    stays]

theorem Attached.addDependencyModule
    (canonical : files.weaklyCanonical original = some manifestPath)
    (root : base.packageRoot = parentPath manifestPath)
    (attached : Attached files base packages state) (known : package ∈ packages)
    (valid : validModuleName entry.1 = true)
    (added : addDependencyModule files package directory state entry = .ok after) :
    Attached files base packages after ∧
      (∀ other ∈ state.manifest.modulePaths.entries, other ∈ after.manifest.modulePaths.entries) ∧
      ∃ path, (entry.1, path) ∈ after.manifest.modulePaths.entries ∧
        startsWithPackage entry.1 package = true := by
  obtain ⟨file, below, starts, located, fresh, unshared, related, safe, rfl⟩ :=
    addDependencyModule_eq_ok added
  have within : files.canonicalWithin base.packageRoot (joinPath base.packageRoot below) =
      some file := by
    rw [attached.mapped.place, root] at related
    rw [root]
    exact canonicalWithin_relative canonical located related safe
  refine ⟨⟨?_, attached.mapped.addModule valid within unshared, ?_⟩, ?_, ?_⟩
  · have same := attached.same
    simp only [Loading.addModule]
    rw [same]
  · intro other member
    rcases mem_insert.mp member with rfl | ⟨earlier, different⟩
    · exact ⟨package, known, starts, mem_insert.mpr (.inl rfl)⟩
    · obtain ⟨owner, listed, inside, recorded⟩ := attached.owned other earlier
      exact ⟨owner, listed, inside, mem_insert.mpr (.inr ⟨recorded, different⟩)⟩
  · intro other member
    refine mem_insert.mpr (.inr ⟨member, fun same => fresh ?_⟩)
    exact mem_map.mpr ⟨other, member, same⟩
  · exact ⟨below, mem_insert.mpr (.inl rfl), starts⟩

theorem applyVendoredRecord_named {line : Nat} {before read : DependencyManifest}
    (named : ∀ entry ∈ before.modules.entries, validModuleName entry.1 = true)
    (applied : applyVendoredRecord package line before parts = .ok read) :
    ∀ entry ∈ read.modules.entries, validModuleName entry.1 = true := by
  simp only [applyVendoredRecord] at applied
  iterate 4
    split at applied
    · cases applied
      exact named
  split at applied
  · rename_i shape
    split at applied
    · cases applied
    rename_i emplaced
    cases applied
    intro entry member
    rcases mem_cons.mp ((emplace_perm emplaced).mem_iff.mp member) with rfl | earlier
    · exact shape.2.2.1
    · exact named entry earlier
  · cases applied

theorem readVendoredManifest_named {read : DependencyManifest}
    (done : readVendoredManifest package text = .ok read) :
    ∀ entry ∈ read.modules.entries, validModuleName entry.1 = true := by
  refine @foldRecords_invariant _ _ _ _ _ _ (fun _ (read : DependencyManifest) =>
    ∀ entry ∈ read.modules.entries, validModuleName entry.1 = true)
    (by simp [empty]) (fun _ _ named => named) ?_ done
  intro _ line before parts after _ named applied
  exact applyVendoredRecord_named named applied

/-- An opened dependency is the declared one, and it has modules. -/
theorem openDependency_eq_ok {root : Bytes} {read : DependencyManifest}
    (opened : openDependency files root dependency = .ok (directory, read)) :
    LoadedAsDeclared files root dependency ∧ read.modules.entries ≠ [] ∧
      ∀ entry ∈ read.modules.entries, validModuleName entry.1 = true := by
  unfold openDependency at opened
  split at opened
  · cases opened
  rename_i place located
  obtain ⟨_, opened⟩ := check_eq_ok.mp opened
  obtain ⟨_, opened⟩ := check_eq_ok.mp opened
  obtain ⟨hashed, opened⟩ := check_eq_ok.mp opened
  split at opened
  · cases opened
  rename_i text found
  obtain ⟨manifest, parsed, opened⟩ := bind_eq_ok.mp opened
  obtain ⟨identical, result⟩ := check_eq_ok.mp opened
  cases result
  simp only [ensure_eq_ok, Bool.not_or, Bool.and_eq_true, Bool.not_eq_true', decide_eq_false_iff_not,
    not_not, isEmpty_eq_false_iff] at identical
  obtain ⟨⟨⟨⟨format, name⟩, version⟩, license⟩, filled⟩ := identical
  simp only [ensure_eq_ok, decide_eq_true_eq, FileSystem.cryptographicFingerprintFile, found,
    Option.map_some, Option.some.injEq] at hashed
  exact ⟨⟨_, _, _, located, found, hashed, parsed, format, name, version, license⟩, filled,
    readVendoredManifest_named parsed⟩

theorem Attached.mono (attached : Attached files base packages state)
    (subset : ∀ package ∈ packages, package ∈ more) : Attached files base more state where
  same := attached.same
  mapped := attached.mapped
  owned := by
    intro entry member
    obtain ⟨owner, listed, rest⟩ := attached.owned entry member
    exact ⟨owner, subset owner listed, rest⟩

/-- A dependency that was loaded joins the packages. -/
theorem Attached.loadDependency {manifestPath original : Bytes}
    {declared : Bytes × PackageDependency}
    (canonical : files.weaklyCanonical original = some manifestPath)
    (root : base.packageRoot = parentPath manifestPath) (attached : Attached files base packages state)
    (inhabited : Inhabited packages state) (key : declared.2.packageName = declared.1)
    (loaded : loadDependency files state declared = .ok after) :
    Attached files base (packages ++ [declared.1]) after ∧
      Inhabited (packages ++ [declared.1]) after ∧
      LoadedAsDeclared files base.packageRoot declared.2 := by
  obtain ⟨⟨directory, read⟩, opened, added⟩ := bind_eq_ok.mp loaded
  rw [attached.mapped.place] at opened
  obtain ⟨asDeclared, filled, named⟩ := openDependency_eq_ok opened
  rw [key] at added
  have whole := @foldlM_invariant _ _ _ _ _ _ _
    (fun earlier (now : Loading) => Attached files base (packages ++ [declared.1]) now ∧
      (∀ other ∈ state.manifest.modulePaths.entries, other ∈ now.manifest.modulePaths.entries) ∧
      ∀ entry ∈ earlier, ∃ path, (entry.1, path) ∈ now.manifest.modulePaths.entries ∧
        startsWithPackage entry.1 declared.1 = true)
    ⟨attached.mono fun _ member => mem_append_left _ member, fun _ member => member,
      nofun⟩ ?_ added
  · obtain ⟨grown, kept, inside⟩ := whole
    refine ⟨grown, forall_mem_concat.mpr ⟨fun package earlier => ?_, ?_⟩, asDeclared⟩
    · obtain ⟨entry, present, starts⟩ := inhabited package earlier
      exact ⟨entry, kept entry present, starts⟩
    obtain ⟨entry, present⟩ := exists_mem_of_ne_nil _ filled
    obtain ⟨path, listed, starts⟩ := inside entry present
    exact ⟨_, listed, starts⟩
  · rintro earlier entry later split before next ⟨held, kept, inside⟩ step
    have valid := named entry (by rw [split]; simp)
    obtain ⟨grown, carried, placed⟩ := held.addDependencyModule canonical root
      (mem_append_right _ (mem_singleton.mpr rfl)) valid step
    refine ⟨grown, fun other member => carried other (kept other member),
      forall_mem_concat.mpr ⟨fun other inEarlier => ?_, placed⟩⟩
    obtain ⟨path, listed, starts⟩ := inside other inEarlier
    exact ⟨path, carried _ listed, starts⟩

end Attached

/-- What the loader established about a manifest and the text it came from. -/
structure Accepted (files : FileSystem) (text : Bytes) (manifest : PackageManifest) : Prop where
  mapped : ∃ state : Loading, state.manifest = manifest ∧ Mapped files manifest.packageRoot state
  declared : (declaredPackages text).Perm manifest.packages
  owned : ∀ entry ∈ manifest.modulePaths.entries, ∃ owner ∈ manifest.packages,
    startsWithPackage entry.1 owner = true ∧ (entry.1, owner) ∈ manifest.modulePackages.entries
  inhabited : ∀ package ∈ manifest.packages, ∃ entry ∈ manifest.modulePaths.entries,
    startsWithPackage entry.1 package = true
  loaded : ∀ parts ∈ manifestRecords text, parts.head? = some (ascii "dependency") →
    LoadedAsDeclared files manifest.packageRoot (dependencyOf parts)
  origin : ∃ limits path state, foldRecords limits (applyRecord files)
      { manifest := { manifestPath := path, packageRoot := parentPath path } } text = .ok state ∧
    state.formatSeen = true ∧ state.packageSeen = true ∧
    (state.manifest.format = packageV2 → state.versionSeen = true ∧ state.licenseSeen = true) ∧
    manifest = { state.manifest with
      modulePaths := manifest.modulePaths, modulePackages := manifest.modulePackages }

section Accepted

variable {files : FileSystem} {path text : Bytes} {manifest : PackageManifest}

theorem locateManifest_canonical (located : locateManifest files entrySource = .ok path) :
    ∃ original, files.weaklyCanonical original = some path := by
  unfold locateManifest at located
  split at located
  · cases located
  split at located
  · cases located
  split at located
  · cases located
  rename_i candidate _ found
  cases located
  exact ⟨_, (Option.filter_eq_some_iff.mp found).1⟩

theorem accepted_of_loadManifest (canonical : files.weaklyCanonical original = some path)
    (loaded : loadManifest files path text = .ok manifest) : Accepted files text manifest := by
  obtain ⟨records, read, loaded⟩ := bind_eq_ok.mp loaded
  obtain ⟨start, finished, loaded⟩ := bind_eq_ok.mp loaded
  obtain ⟨final, dependencies, result⟩ := bind_eq_ok.mp loaded
  cases result
  have recorded := foldRecords_recorded read
  obtain ⟨claimed, rfl, format, package, filled, second, owned⟩ := finishRecords_eq_ok finished
  have root := recorded.mapped.place
  have declared := recorded.declared
  rw [package] at declared
  have whole := @foldlM_invariant _ _ _ _ _ _ _
    (fun earlier (now : Loading) =>
      Attached files records.manifest (records.manifest.packageName :: earlier.map Prod.fst) now ∧
      Inhabited (records.manifest.packageName :: earlier.map Prod.fst) now ∧
      ∀ entry ∈ earlier, LoadedAsDeclared files records.manifest.packageRoot entry.2)
    ⟨?_, ?_, nofun⟩ ?_ dependencies
  · obtain ⟨attached, inhabited, asDeclared⟩ := whole
    have same : final.manifest.packages = records.manifest.packages := by
      rw [attached.same]
      rfl
    have place : final.manifest.packageRoot = records.manifest.packageRoot := by
      rw [attached.same]
    refine ⟨⟨final, rfl, ?_⟩, ?_, ?_, ?_, ?_, _, _, _, read, format, package, second, attached.same⟩
    · rw [place]
      exact attached.mapped
    · rwa [same]
    · rw [same]
      exact attached.owned
    · rwa [same]
    · intro parts member isDependency
      rw [place]
      exact asDeclared _ (recorded.dependencies parts member isDependency)
  · refine ⟨rfl, ⟨rfl, recorded.mapped.named, ?_⟩, ?_⟩
    · rw [root]
      exact recorded.mapped.filed
    · intro entry member
      exact ⟨_, mem_cons_self, owned entry member⟩
  · intro package member
    cases mem_singleton.mp member
    obtain ⟨entry, present⟩ := exists_mem_of_ne_nil _ filled
    exact ⟨entry, present, (owned entry present).1⟩
  · rintro earlier entry later split before next ⟨attached, inhabited, asDeclared⟩ step
    have key := recorded.named entry (by
      have member : entry ∈ earlier ++ entry :: later := by simp
      rwa [← split] at member)
    obtain ⟨grown, filled, this⟩ :=
      attached.loadDependency canonical root inhabited key step
    rw [map_append]
    exact ⟨grown, filled, forall_mem_concat.mpr ⟨asDeclared, this⟩⟩

theorem Accepted.consistent_iff (accepted : Accepted files text manifest) :
    Consistent files text manifest ↔ (declaredPackages text).Pairwise Apart := by
  obtain ⟨state, rfl, mapped⟩ := accepted.mapped
  rw [accepted.declared.pairwise_iff Apart.symm]
  constructor
  · intro consistent
    rw [pairwise_iff_forall_sublist]
    intro first second both
    -- a module of the inner package would be in both namespaces
    have apart : ∀ {inner outer : Bytes}, inner ∈ state.manifest.packages →
        (startsWithPackage inner outer = true → ∀ name, startsWithPackage name inner = true →
          [first, second].filter (startsWithPackage name) = [first, second]) →
        startsWithPackage inner outer = false := by
      intro inner outer listed shared
      by_contra nested
      have nested := Bool.eq_true_of_not_eq_false nested
      obtain ⟨entry, present, starts⟩ := accepted.inhabited inner listed
      obtain ⟨owner, only, _⟩ := consistent.owned entry present
      have part := both.filter (startsWithPackage entry.1)
      rw [only, shared nested entry.1 starts] at part
      exact absurd part.length_le (by simp)
    have firstListed := both.subset (show first ∈ [first, second] by simp)
    have secondListed := both.subset (show second ∈ [first, second] by simp)
    refine ⟨apart firstListed ?_, apart secondListed ?_⟩
    · intro nested name starts
      simp [starts, startsWithPackage_trans starts nested]
    · intro nested name starts
      simp [starts, startsWithPackage_trans starts nested]
  · intro apart
    refine ⟨mapped.distinct, mapped.located, fun entry present => ?_, accepted.loaded⟩
    obtain ⟨owner, listed, starts, recorded⟩ := accepted.owned entry present
    refine ⟨owner, ?_, find?_eq_some_iff.mpr recorded⟩
    obtain ⟨before, after, split⟩ := append_of_mem listed
    rw [split, pairwise_append, pairwise_cons] at apart
    have none : ∀ {other : Bytes}, Apart other owner → startsWithPackage entry.1 other = false := by
      intro other distinct
      by_contra shared
      rcases nested_of_startsWithPackage (Bool.eq_true_of_not_eq_false shared) starts with
        nested | nested
      · rw [distinct.1] at nested
        cases nested
      · rw [distinct.2] at nested
        cases nested
    rw [split, filter_append, filter_cons_of_pos starts,
      filter_eq_nil_iff.mpr fun other member =>
        Bool.eq_false_iff.mp (none (apart.2.2 other member owner mem_cons_self)),
      filter_eq_nil_iff.mpr fun other member =>
        Bool.eq_false_iff.mp (none (apart.2.1.1 other member).symm)]
    rfl

theorem accepted_of_loadForEntry (loaded : loadForEntry files entrySource = .ok manifest) :
    ∃ path text, locateManifest files entrySource = .ok path ∧ files.read path = some text ∧
      Accepted files text manifest := by
  obtain ⟨path, located, loaded⟩ := bind_eq_ok.mp loaded
  obtain ⟨_, loaded⟩ := check_eq_ok.mp loaded
  split at loaded
  · cases loaded
  · rename_i text read
    obtain ⟨original, canonical⟩ := locateManifest_canonical located
    exact ⟨path, text, located, read, accepted_of_loadManifest canonical loaded⟩

/-- An accepted manifest is consistent exactly if no two packages that its text
declares are nested. -/
theorem loadForEntry_consistent_iff {entrySource : Bytes}
    (located : locateManifest files entrySource = .ok path) (read : files.read path = some text)
    (loaded : loadForEntry files entrySource = .ok manifest) :
    Consistent files text manifest ↔ (declaredPackages text).Pairwise Apart := by
  obtain ⟨_, _, samePath, sameText, accepted⟩ := accepted_of_loadForEntry loaded
  rw [located] at samePath
  cases samePath
  rw [read] at sameText
  cases sameText
  exact accepted.consistent_iff

end Accepted

theorem lookup_getD_idem {links : List (Bytes × Bytes)}
    (settled : ∀ link ∈ links, links.lookup link.2 = none) (path : Bytes) :
    (links.lookup ((links.lookup path).getD path)).getD ((links.lookup path).getD path) =
      (links.lookup path).getD path := by
  cases found : links.lookup path with
  | none => rw [Option.getD_none, found, Option.getD_none]
  | some target =>
    obtain ⟨before, after, rfl, _⟩ := lookup_eq_some_iff.mp found
    rw [Option.getD_some, settled (path, target) (by simp), Option.getD_none]

/-- A file system without unreadable files, from its symbolic links and the texts of
its files. No link leads to a link, and the digest is a count of bytes. -/
def FileSystem.ofTable (links texts : List (Bytes × Bytes))
    (settled : ∀ link ∈ links, links.lookup link.2 = none) : FileSystem where
  weaklyCanonical path := some ((links.lookup path).getD path)
  relative path base :=
    let whole := (links.lookup path).getD path
    let below := whole.drop (joinPath base []).length
    if joinPath base below = whole then some below else none
  present path := (texts.lookup ((links.lookup path).getD path)).isSome
  isRegularFile path := (texts.lookup ((links.lookup path).getD path)).isSome
  fileSize path := (texts.lookup ((links.lookup path).getD path)).map length
  read path := texts.lookup ((links.lookup path).getD path)
  sha256 text := replicate 63 48 ++ [Fin.ofNat 256 (48 + text.length % 10)]
  relative_canonical := by
    intro path canonical base found
    cases found
    rw [lookup_getD_idem settled]
  canonical_rejoin := by
    intro file canonical path below found related safe
    obtain ⟨same, result⟩ := Option.ite_none_right_eq_some.mp related
    cases result
    rw [same, lookup_getD_idem settled]
  sha256_hex := by
    refine fun text => forall_mem_concat.mpr ⟨fun byte zero => ?_, ?_⟩
    · cases eq_of_mem_replicate zero
      exact .inl rfl
    · have digit : ∀ count < 10, isDigit (Fin.ofNat 256 (48 + count)) = true := by decide
      exact .inl (digit _ (Nat.mod_lt _ (by decide)))

namespace Vendored

/-- The manifest of a vendored package with one module. -/
def innerText (package : String) : Bytes :=
  ascii ("format shorthand.package.v2\npackage " ++ package ++
    "\nversion 1.0.0\nlicense MIT\nmodule " ++ package ++ ".util util.short\n")

/-- The manifest of a package `a` that depends on it. -/
def outerText (package : String) : Bytes :=
  ascii ("format shorthand.package.v2\npackage a\nversion 1.0.0\nlicense MIT\n" ++
    "module a.main main.short\ndependency " ++ package ++ " 1.0.0 vendor sha256:") ++
  replicate 63 48 ++ [Fin.ofNat 256 (48 + (innerText package).length % 10)] ++ ascii " MIT\n"

def tree (package : String) : FileSystem :=
  .ofTable []
    [(ascii "/p/shorthand.package", outerText package),
      (ascii "/p/vendor/shorthand.package", innerText package)]
    nofun

def manifest (package : String) : PackageManifest :=
  valueOr ⟨[], [], [], [], [], [], .empty, .empty, .empty⟩
    (loadForEntry (tree package) (ascii "/p/main.short"))

end Vendored

/-- A package and a dependency side by side. -/
theorem loadForEntry_consistent_apart :
    Consistent (Vendored.tree "b") (Vendored.outerText "b") (Vendored.manifest "b") :=
  (@loadForEntry_consistent_iff _ (ascii "/p/shorthand.package") _ _ (ascii "/p/main.short")
    (by decide +kernel) (by decide +kernel) (eq_ok_valueOr _ (by decide +kernel))).mpr
    (by decide +kernel)

/-- A package `a` with a dependency `a.b` is accepted, and `a.b.util` is in both
namespaces. -/
theorem loadForEntry_nested_accepted :
    loadForEntry (Vendored.tree "a.b") (ascii "/p/main.short") = .ok (Vendored.manifest "a.b") ∧
      ¬ Consistent (Vendored.tree "a.b") (Vendored.outerText "a.b") (Vendored.manifest "a.b") := by
  refine ⟨eq_ok_valueOr _ (by decide +kernel), fun consistent => ?_⟩
  have present : (ascii "a.b.util", ascii "vendor/util.short") ∈
      (Vendored.manifest "a.b").modulePaths.entries := by decide +kernel
  obtain ⟨owner, only, _⟩ := consistent.owned _ present
  have two : (Vendored.manifest "a.b").packages.filter (startsWithPackage (ascii "a.b.util")) =
      [ascii "a", ascii "a.b"] := by decide +kernel
  rw [two] at only
  cases only

end ShortHand.Modules
