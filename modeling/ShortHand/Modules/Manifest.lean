import ShortHand.Evidence.Artifacts

/-! Package manifests: the line format of `shorthand.package` and its loader. -/

namespace ShortHand.Modules

open ShortHand.Library ShortHand.Evidence

/-- The white space of the C locale. -/
def isspace (byte : Byte) : Bool := byte = 32 || (9 ≤ byte && byte ≤ 13)

def isalpha (byte : Byte) : Bool := isLower byte || isUpper byte

def trim (value : Bytes) : Bytes :=
  (((value.dropWhile isspace).reverse).dropWhile isspace).reverse

/-- Repeated `in >> value`, with the bytes of the word that is being read. -/
def wordsFrom (word : Bytes) : Bytes → List Bytes
  | [] => if word.isEmpty then [] else [word]
  | byte :: rest =>
    if isspace byte then
      if word.isEmpty then wordsFrom [] rest else word :: wordsFrom [] rest
    else wordsFrom (word ++ [byte]) rest

def words (line : Bytes) : List Bytes := wordsFrom [] line

def validIdentifierSegment (segment : Bytes) : Bool :=
  match segment with
  | [] => false
  | first :: _ => (isalpha first || first = 95) &&
    segment.all fun byte => isalpha byte || isDigit byte || byte = 95

/-- Identifiers between single dots. -/
def validModuleName (value : Bytes) : Bool :=
  !value.isEmpty && value.head? ≠ some 46 && value.getLast? ≠ some 46 &&
    (segments 46 value).all validIdentifierSegment

/-- The package itself or a name below it. -/
def startsWithPackage (moduleName packageName : Bytes) : Bool :=
  moduleName = packageName ||
    (packageName.length < moduleName.length && moduleName.take packageName.length = packageName &&
      moduleName[packageName.length]? = some 46)

def validSemverIdentifier (value : Bytes) (prerelease : Bool) : Bool :=
  !value.isEmpty && (value.all fun byte => isDigit byte || isalpha byte || byte = 45) &&
    (!prerelease || !value.all isDigit || value.length = 1 || value.head? ≠ some 48)

def validCoreNumber (value : Bytes) : Bool :=
  !(value.isEmpty || (1 < value.length && value.head? = some 48)) && value.all isDigit

/-- What stands before and, if there is one, behind the first delimiter. -/
def cutAt (delimiter : Byte) (value : Bytes) : Bytes × Option Bytes :=
  (value.takeWhile (· ≠ delimiter),
    match value.dropWhile (· ≠ delimiter) with
    | [] => none
    | _ :: behind => some behind)

def validExactVersion (value : Bytes) : Bool :=
  let (coreAndPrerelease, build) := cutAt 43 value
  let (core, prerelease) := cutAt 45 coreAndPrerelease
  !(value.isEmpty || 128 < value.length) &&
    (build.all fun text => !text.contains 43 &&
      (segments 46 text).all fun identifier => validSemverIdentifier identifier false) &&
    (prerelease.all fun text =>
      (segments 46 text).all fun identifier => validSemverIdentifier identifier true) &&
    (segments 46 core).length = 3 && (segments 46 core).all validCoreNumber

def redistributedLicenses : List Bytes :=
  ["Apache-2.0", "Apache-2.0 WITH LLVM-exception", "BSD-2-Clause", "BSD-3-Clause", "BSL-1.0",
    "CC0-1.0", "ISC", "MIT", "MPL-2.0", "Unicode-3.0", "Zlib"].map ascii

def allowedRedistributedLicense (value : Bytes) : Bool := redistributedLicenses.contains value

/-- The fields from a position on, with single blanks between them. -/
def licenseField (parts : List Bytes) (begin : Nat) : Bytes :=
  (parts.drop begin).foldl
    (fun value part => (if value.isEmpty then value else value ++ [32]) ++ part) []

def validSha256 (value : Bytes) : Bool :=
  value.length = 71 && value.take 7 = ascii "sha256:" &&
    (value.drop 7).all fun byte => isDigit byte || (97 ≤ byte && byte ≤ 102)

def isAbsolute (path : Bytes) : Bool := path.head? = some 47

def climbs (path : Bytes) : Bool := (segments 47 path).contains [46, 46]

/-- The operator `/`. -/
def joinPath (base path : Bytes) : Bytes :=
  if isAbsolute path then path
  else if base.isEmpty || base.getLast? = some 47 then base ++ path
  else base ++ 47 :: path

/-- What stands before the last separator; the root directory is its own parent. -/
def parentPath (path : Bytes) : Bytes :=
  let parent := (path.reverse.dropWhile (· ≠ 47)).tail.reverse
  if parent.isEmpty && isAbsolute path then [47] else parent

/-- The normal form of a relative path without `..`: no empty and no dot names,
with a last separator where the path named a directory. -/
def lexicallyNormal (path : Bytes) : Bytes :=
  let names := (segments 47 path).filter fun name => !name.isEmpty && name ≠ [46]
  let last := (segments 47 path).getLastD []
  if names.isEmpty then [46]
  else List.intercalate [47] names ++ if last.isEmpty || last = [46] then [47] else []

/-- From the last dot of the file name on, unless the name begins there. -/
def extension (path : Bytes) : Bytes :=
  let name := (segments 47 path).getLastD []
  let stem := (name.reverse.dropWhile (· ≠ 46)).tail
  if name = [46] || name = [46, 46] || stem.isEmpty then []
  else name.drop stem.length

def relativePathIsSafe (path : Bytes) : Bool :=
  !(path.isEmpty || isAbsolute path) && !climbs path &&
    extension (lexicallyNormal path) = ascii ".short"

def relativeDirectoryIsSafe (path : Bytes) : Bool :=
  !(path.isEmpty || isAbsolute path || path = [46]) && !climbs path

/-- What the loader asks of the file system and of SHA-256 at one moment. A
relative path is taken between the canonical forms, and below a directory that is
canonical itself it leads back to the file. -/
structure FileSystem where
  weaklyCanonical : Bytes → Option Bytes
  relative : Bytes → Bytes → Option Bytes
  present : Bytes → Bool
  isRegularFile : Bytes → Bool
  fileSize : Bytes → Option Nat
  read : Bytes → Option Bytes
  sha256 : Bytes → Bytes
  relative_canonical : ∀ {path canonical} base, weaklyCanonical path = some canonical →
    relative canonical base = relative path base
  canonical_rejoin : ∀ {file canonical path below}, weaklyCanonical file = some canonical →
    relative path (parentPath canonical) = some below → relativePathIsSafe below = true →
    weaklyCanonical (joinPath (parentPath canonical) below) = weaklyCanonical path
  sha256_hex : ∀ text byte, byte ∈ sha256 text → isDigit byte = true ∨ isLower byte = true

namespace FileSystem

/-- A canonical path that can be used. -/
def canonicalString (files : FileSystem) (path : Bytes) : Option Bytes :=
  (files.weaklyCanonical path).filter fun canonical => !canonical.isEmpty

def pathWithinRoot (files : FileSystem) (root candidate : Bytes) : Bool :=
  match files.relative candidate root with
  | none => false
  | some below =>
    if below.isEmpty then candidate = root else !isAbsolute below && !climbs below

/-- The canonical file under a directory. -/
def canonicalWithin (files : FileSystem) (root path : Bytes) : Option Bytes :=
  (files.canonicalString path).filter (files.pathWithinRoot root)

def manifestSizeIsSafe (files : FileSystem) (path : Bytes) : Bool :=
  (files.fileSize path).any (· ≤ 1024 * 1024)

def cryptographicFingerprintFile (files : FileSystem) (path : Bytes) : Option Bytes :=
  (files.read path).map fun text => ascii "sha256:" ++ files.sha256 text

end FileSystem

inductive Code where
  | manifestNotFound
  | manifestInvalid
  | notFound
  | pathEscape
  | identityMismatch
  | importCycle
  | ambiguousMapping
  | packageMismatch
  | lockfileMismatch
  | dependencyIntegrity
  | licensePolicy
  | versionPolicy
  deriving DecidableEq

structure Failure where
  code : Code
  message : String
  deriving DecidableEq

structure PackageDependency where
  packageName : Bytes
  version : Bytes
  relativeRoot : Bytes
  manifestSha256 : Bytes
  licenseSpdx : Bytes
  deriving DecidableEq

/-- The dependency that the fields of a record describe. -/
def dependencyOf (parts : List Bytes) : PackageDependency where
  packageName := parts.getD 1 []
  version := parts.getD 2 []
  relativeRoot := lexicallyNormal (parts.getD 3 [])
  manifestSha256 := parts.getD 4 []
  licenseSpdx := licenseField parts 5

structure PackageManifest where
  manifestPath : Bytes
  packageRoot : Bytes
  format : Bytes := []
  packageName : Bytes := []
  version : Bytes := []
  licenseSpdx : Bytes := []
  modulePaths : OrderedMap Bytes Bytes := .empty
  modulePackages : OrderedMap Bytes Bytes := .empty
  dependencies : OrderedMap Bytes PackageDependency := .empty

def packageV1 : Bytes := ascii "shorthand.package.v1"

def packageV2 : Bytes := ascii "shorthand.package.v2"

/-- The locals of the loader: which records it has seen and which file belongs to
which module. -/
structure Loading where
  manifest : PackageManifest
  formatSeen : Bool := false
  packageSeen : Bool := false
  versionSeen : Bool := false
  licenseSeen : Bool := false
  pathToModule : OrderedMap Bytes Bytes := .empty

/-- The fields of a record: the line up to a comment. -/
def recordOf (raw : Bytes) : List Bytes :=
  let text := trim (raw.takeWhile (· ≠ 35))
  if text.isEmpty then [] else words text

def kMaximumManifestLineBytes : Nat := 16 * 1024

def kMaximumManifestLines : Nat := 4096

/-- The loop over the lines of a manifest; blank lines are passed over. -/
def foldRecords {σ : Type} (limits : Failure) (apply : Nat → σ → List Bytes → Except Failure σ)
    (state : σ) (text : Bytes) : Except Failure σ :=
  ((getlines 10 text).zipIdx 1).foldlM (fun state (raw, line) => do
    ensure (!(kMaximumManifestLines < line || kMaximumManifestLineBytes < raw.length)) limits
    let parts := recordOf raw
    if parts.isEmpty then return state
    apply line state parts) state

section Records

variable (files : FileSystem) (line : Nat) (state : Loading) (parts : List Bytes)

/-- Record a module of a package under its file. -/
def Loading.addModule (state : Loading) (name path owner file : Bytes) : Loading :=
  { state with
    manifest := { state.manifest with
      modulePaths := state.manifest.modulePaths.insert name path,
      modulePackages := state.manifest.modulePackages.insert name owner },
    pathToModule := state.pathToModule.insert file name }

def formatRecord (value : Bytes) : Except Failure Loading := do
  ensure (!(state.formatSeen || (value ≠ packageV1 && value ≠ packageV2)))
    ⟨.manifestInvalid, "invalid or duplicate manifest format at line " ++ toString line⟩
  return { state with formatSeen := true, manifest := { state.manifest with format := value } }

def packageRecord (value : Bytes) : Except Failure Loading := do
  ensure (!(state.packageSeen || !validModuleName value))
    ⟨.manifestInvalid, "invalid or duplicate package declaration at line " ++ toString line⟩
  return { state with
    packageSeen := true, manifest := { state.manifest with packageName := value } }

def versionRecord (value : Bytes) : Except Failure Loading := do
  ensure (!(state.manifest.format ≠ packageV2 || state.versionSeen || !validExactVersion value))
    ⟨.versionPolicy, "package v2 requires one exact semantic version at line " ++ toString line⟩
  return { state with versionSeen := true, manifest := { state.manifest with version := value } }

def licenseRecord : Except Failure Loading := do
  let license := licenseField parts 1
  ensure (!(state.manifest.format ≠ packageV2 || state.licenseSeen ||
      !allowedRedistributedLicense license))
    ⟨.licensePolicy,
      "package license is missing, duplicate, or not allowlisted at line " ++ toString line⟩
  return { state with
    licenseSeen := true, manifest := { state.manifest with licenseSpdx := license } }

def moduleRecord (name path : Bytes) : Except Failure Loading := do
  ensure (validModuleName name)
    ⟨.manifestInvalid, "invalid module identity in manifest at line " ++ toString line⟩
  ensure (relativePathIsSafe path)
    ⟨.pathEscape,
      "unsafe module path in manifest at line " ++ toString line ++ ": " ++ shown path⟩
  ensure (!state.manifest.modulePaths.contains name)
    ⟨.ambiguousMapping, "module appears more than once in manifest: " ++ shown name⟩
  match files.canonicalWithin state.manifest.packageRoot
      (joinPath state.manifest.packageRoot path) with
  | none => .error ⟨.pathEscape, "module path escapes package root: " ++ shown path⟩
  | some file =>
    match state.pathToModule.find? file with
    | some other => .error ⟨.ambiguousMapping, "multiple modules map to the same source path: " ++
        shown name ++ " and " ++ shown other⟩
    | none => .ok (state.addModule name path state.manifest.packageName file)

def dependencyRecord : Except Failure Loading := do
  let dependency := dependencyOf parts
  ensure (!(parts.length < 6 || state.manifest.format ≠ packageV2 ||
      !validModuleName dependency.packageName || !relativeDirectoryIsSafe (parts.getD 3 []) ||
      !validSha256 dependency.manifestSha256))
    ⟨.dependencyIntegrity, "invalid exact vendored dependency at line " ++ toString line⟩
  ensure (validExactVersion dependency.version)
    ⟨.versionPolicy, "dependency requires an exact semantic version at line " ++ toString line⟩
  ensure (allowedRedistributedLicense dependency.licenseSpdx)
    ⟨.licensePolicy, "dependency license is not allowlisted at line " ++ toString line⟩
  ensure (!state.manifest.dependencies.contains dependency.packageName)
    ⟨.dependencyIntegrity, "duplicate dependency package at line " ++ toString line ++ ": " ++
      shown dependency.packageName⟩
  return { state with manifest := { state.manifest with
    dependencies := state.manifest.dependencies.insert dependency.packageName dependency } }

/-- One record of the root manifest. -/
def applyRecord : Except Failure Loading :=
  let key := parts.head?
  if parts.length = 2 ∧ key = some (ascii "format") then formatRecord line state (parts.getD 1 [])
  else if parts.length = 2 ∧ key = some (ascii "package") then
    packageRecord line state (parts.getD 1 [])
  else if parts.length = 2 ∧ key = some (ascii "version") then
    versionRecord line state (parts.getD 1 [])
  else if key = some (ascii "license") then licenseRecord line state parts
  else if parts.length = 3 ∧ key = some (ascii "module") then
    moduleRecord files line state (parts.getD 1 []) (parts.getD 2 [])
  else if key = some (ascii "dependency") then dependencyRecord line state parts
  else .error
    ⟨.manifestInvalid, "invalid shorthand.package record at line " ++ toString line⟩

end Records

/-- A root module belongs to the root package, whichever record came first. -/
def claimModule (manifest : PackageManifest) (entry : Bytes × Bytes) :
    Except Failure PackageManifest := do
  ensure (startsWithPackage entry.1 manifest.packageName)
    ⟨.packageMismatch, "module is outside declared package namespace: " ++ shown entry.1⟩
  return { manifest with
    modulePackages := manifest.modulePackages.insert entry.1 manifest.packageName }

/-- What the records of the root manifest have to add up to. -/
def finishRecords (state : Loading) : Except Failure Loading := do
  let manifest := state.manifest
  ensure (state.formatSeen && state.packageSeen && !manifest.modulePaths.entries.isEmpty)
    ⟨.manifestInvalid, "manifest requires format, package, and at least one module record"⟩
  ensure (!(manifest.format = packageV2 && (!state.versionSeen || !state.licenseSeen)))
    ⟨.manifestInvalid,
      "shorthand.package.v2 requires exact version and allowlisted license records"⟩
  ensure (!(manifest.format = packageV1 &&
      (!manifest.dependencies.entries.isEmpty || state.versionSeen || state.licenseSeen)))
    ⟨.manifestInvalid, "shorthand.package.v1 cannot declare v2 metadata or dependencies"⟩
  let claimed ← manifest.modulePaths.entries.foldlM claimModule manifest
  return { state with manifest := claimed }

/-- What a dependency manifest says of itself. -/
structure DependencyManifest where
  format : Bytes := []
  packageName : Bytes := []
  version : Bytes := []
  licenseSpdx : Bytes := []
  modules : OrderedMap Bytes Bytes := .empty

/-- One record of a dependency manifest; nested dependencies are not records. -/
def applyVendoredRecord (packageName : Bytes) (line : Nat) (read : DependencyManifest)
    (parts : List Bytes) : Except Failure DependencyManifest :=
  let key := parts.head?
  let value := parts.getD 1 []
  if parts.length = 2 ∧ key = some (ascii "format") ∧ read.format.isEmpty then
    .ok { read with format := value }
  else if parts.length = 2 ∧ key = some (ascii "package") ∧ read.packageName.isEmpty ∧
      validModuleName value then
    .ok { read with packageName := value }
  else if parts.length = 2 ∧ key = some (ascii "version") ∧ read.version.isEmpty ∧
      validExactVersion value then
    .ok { read with version := value }
  else if key = some (ascii "license") ∧ read.licenseSpdx.isEmpty ∧
      allowedRedistributedLicense (licenseField parts 1) then
    .ok { read with licenseSpdx := licenseField parts 1 }
  else if parts.length = 3 ∧ key = some (ascii "module") ∧ validModuleName value ∧
      relativePathIsSafe (parts.getD 2 []) then
    match read.modules.emplace value (parts.getD 2 []) with
    | none => .error ⟨.ambiguousMapping,
        "duplicate module in dependency manifest: " ++ shown value⟩
    | some modules => .ok { read with modules }
  else .error ⟨.dependencyIntegrity, "invalid or nested dependency record in " ++
    shown packageName ++ " at line " ++ toString line⟩

/-- The dependency manifest of a text. -/
def readVendoredManifest (packageName text : Bytes) : Except Failure DependencyManifest :=
  foldRecords
    ⟨.dependencyIntegrity, "vendored dependency manifest exceeds record or line resource limits: " ++
      shown packageName⟩
    (applyVendoredRecord packageName) {} text

section Dependencies

variable (files : FileSystem)

/-- Open a vendored dependency: its canonical directory and its manifest, which has
to be the declared one. -/
def openDependency (root : Bytes) (dependency : PackageDependency) :
    Except Failure (Bytes × DependencyManifest) :=
  let name := shown dependency.packageName
  match files.canonicalWithin root (joinPath root dependency.relativeRoot) with
  | none => .error ⟨.pathEscape, "vendored dependency path escapes package root: " ++ name⟩
  | some directory => do
    let path := joinPath directory (ascii "shorthand.package")
    ensure (files.isRegularFile path)
      ⟨.dependencyIntegrity, "vendored dependency manifest is unavailable offline: " ++ name⟩
    ensure (files.manifestSizeIsSafe path)
      ⟨.dependencyIntegrity,
        "vendored dependency manifest exceeds the 1 MiB resource limit: " ++ name⟩
    ensure (files.cryptographicFingerprintFile path = some dependency.manifestSha256)
      ⟨.dependencyIntegrity, "vendored dependency manifest SHA-256 mismatch: " ++ name⟩
    match files.read path with
    | none =>
      .error ⟨.dependencyIntegrity, "cannot read vendored dependency manifest: " ++ name⟩
    | some text => do
      let read ← readVendoredManifest dependency.packageName text
      ensure (!(read.format ≠ packageV2 || read.packageName ≠ dependency.packageName ||
          read.version ≠ dependency.version || read.licenseSpdx ≠ dependency.licenseSpdx ||
          read.modules.entries.isEmpty))
        ⟨.dependencyIntegrity, "vendored dependency identity, version, license, or format " ++
          "does not match its exact declaration: " ++ name⟩
      return (directory, read)

/-- Add a module of a dependency under its path from the package root. -/
def addDependencyModule (packageName directory : Bytes) (state : Loading)
    (entry : Bytes × Bytes) : Except Failure Loading := do
  let name := shown entry.1
  let root := state.manifest.packageRoot
  let candidate := joinPath directory entry.2
  ensure (startsWithPackage entry.1 packageName)
    ⟨.packageMismatch, "dependency module is outside its declared namespace: " ++ name⟩
  match files.canonicalWithin directory candidate with
  | none => .error ⟨.pathEscape, "dependency module path escapes vendored root: " ++ name⟩
  | some file => do
    ensure (!(state.manifest.modulePaths.contains entry.1 || state.pathToModule.contains file))
      ⟨.ambiguousMapping, "dependency module mapping collides with package graph: " ++ name⟩
    match (files.relative candidate root).filter relativePathIsSafe with
    | none =>
      .error ⟨.pathEscape, "cannot express dependency module beneath package root: " ++ name⟩
    | some below => .ok (state.addModule entry.1 below packageName file)

def loadDependency (state : Loading) (entry : Bytes × PackageDependency) :
    Except Failure Loading := do
  let (directory, read) ← openDependency files state.manifest.packageRoot entry.2
  read.modules.entries.foldlM (addDependencyModule files entry.2.packageName directory) state

/-- The first directory, from here upwards, that has a manifest. -/
def findManifest : Nat → Bytes → Option Bytes
  | 0, _ => none
  | fuel + 1, current =>
    if current.isEmpty then none
    else
      let candidate := joinPath current (ascii "shorthand.package")
      if files.present candidate then some candidate
      else if parentPath current = current then none
      else findManifest fuel (parentPath current)

/-- The canonical path of the manifest that governs an entry source. -/
def locateManifest (entrySource : Bytes) : Except Failure Bytes :=
  match files.canonicalString entrySource with
  | none =>
    .error ⟨.manifestInvalid, "cannot canonicalize entry source: " ++ shown entrySource⟩
  | some entry =>
    -- the parent is shorter in every round but the last
    match findManifest files (entry.length + 1) (parentPath entry) with
    | none => .error ⟨.manifestNotFound,
        "no shorthand.package found for module entry: " ++ shown entrySource⟩
    | some candidate =>
      match files.canonicalString candidate with
      | none => .error ⟨.manifestInvalid, "cannot canonicalize package manifest"⟩
      | some path => .ok path

/-- The manifest and its dependencies, from the text of the manifest. -/
def loadManifest (path text : Bytes) : Except Failure PackageManifest := do
  let records ← foldRecords
    ⟨.manifestInvalid, "package manifest exceeds record or line resource limits"⟩
    (applyRecord files) { manifest := { manifestPath := path, packageRoot := parentPath path } } text
  let root ← finishRecords records
  let loaded ← root.manifest.dependencies.entries.foldlM (loadDependency files) root
  return loaded.manifest

def loadForEntry (entrySource : Bytes) : Except Failure PackageManifest := do
  let path ← locateManifest files entrySource
  ensure (files.manifestSizeIsSafe path)
    ⟨.manifestInvalid, "package manifest exceeds the 1 MiB resource limit"⟩
  match files.read path with
  | none => .error ⟨.manifestInvalid, "cannot read package manifest: " ++ shown path⟩
  | some text => loadManifest files path text

end Dependencies

end ShortHand.Modules
