import ShortHand.Modules.Manifest

/-! The module graph of an entry source and its lockfile. Parsing a source is a given function;
recursions over imports are bounded in depth. -/

namespace ShortHand.Modules

open ShortHand.Library ShortHand.Evidence

structure ModuleUnitDescriptor where
  moduleName : Bytes
  sourcePath : Bytes
  imports : List Bytes
  deriving DecidableEq

/-- A parsed source file: its descriptor and the package it declares, if any. -/
structure ParsedSourceUnit where
  descriptor : ModuleUnitDescriptor
  package : Bytes

/-- An error of the resolver, or a recursion that went below its bound. -/
inductive Stop where
  | failed (failure : Failure)
  | unfinished

section Resolver

variable (files : FileSystem) (manifest : PackageManifest)

def resolveModule (name : Bytes) : Except Failure Bytes :=
  match manifest.modulePaths.find? name with
  | none => .error ⟨.notFound, "module is not declared in shorthand.package: " ++ shown name⟩
  | some path =>
    match files.canonicalWithin manifest.packageRoot (joinPath manifest.packageRoot path) with
    | none => .error ⟨.pathEscape, "resolved module path escapes package root: " ++ shown name⟩
    | some file => do
      ensure (files.isRegularFile file)
        ⟨.notFound, "resolved module file does not exist: " ++ shown file⟩
      return file

def validateUnitIdentity (unit : ModuleUnitDescriptor) (declaredPackage : Bytes) :
    Except Failure Unit := do
  ensure (!unit.moduleName.isEmpty)
    ⟨.identityMismatch,
      "resolved package source is missing a module declaration: " ++ shown unit.sourcePath⟩
  ensure (!declaredPackage.isEmpty &&
      manifest.modulePackages.find? unit.moduleName = some declaredPackage)
    ⟨.packageMismatch, "source package declaration does not match shorthand.package for module " ++
      shown unit.moduleName⟩
  let expected ← resolveModule files manifest unit.moduleName
  ensure (files.weaklyCanonical unit.sourcePath = some expected)
    ⟨.identityMismatch, "module declaration and manifest path disagree for " ++
      shown unit.moduleName⟩

/-- The descriptors so far and the sets of the expansion. -/
structure Expansion where
  units : OrderedMap Bytes ModuleUnitDescriptor
  expanded : List Bytes := []
  expanding : List Bytes := []

/-- Parse an import that is not in the graph yet. -/
def loadImport (parse : Bytes → Option ParsedSourceUnit) (graph : Expansion) (name : Bytes) :
    Except Failure Expansion :=
  if graph.units.contains name then .ok graph
  else do
    let path ← resolveModule files manifest name
    match parse path with
    | none =>
      .error ⟨.identityMismatch, "failed to parse resolved module source: " ++ shown path⟩
    | some unit =>
      ensure (unit.descriptor.moduleName = name)
        ⟨.identityMismatch, "import " ++ shown name ++ " resolved to source declaring module " ++
          shown unit.descriptor.moduleName⟩
      validateUnitIdentity files manifest unit.descriptor unit.package
      return { graph with units := graph.units.insert name unit.descriptor }

def expand (parse : Bytes → Option ParsedSourceUnit) :
    Nat → Expansion → Bytes → Except Stop Expansion
  | 0, _, _ => .error .unfinished
  | depth + 1, graph, name =>
    if name ∈ graph.expanded ∨ name ∈ graph.expanding then .ok graph
    else do
      let imports := ((graph.units.find? name).map (·.imports)).getD []
      let graph ← imports.foldlM (fun graph import_ => do
        let graph ← (loadImport files manifest parse graph import_).mapError .failed
        expand parse depth graph import_) { graph with expanding := name :: graph.expanding }
      return { graph with
        expanding := graph.expanding.filter (· ≠ name), expanded := name :: graph.expanded }

end Resolver

/-- The state of a depth-first visit: the stack holds the modules that are open. -/
structure Visit where
  stack : List Bytes := []
  done : List Bytes := []
  ordered : List Bytes := []

def visit (units : OrderedMap Bytes ModuleUnitDescriptor) :
    Nat → Visit → Bytes → Except Stop Visit
  | 0, _, _ => .error .unfinished
  | depth + 1, state, name =>
    if name ∈ state.done then .ok state
    else if name ∈ state.stack then
      .error (.failed ⟨.importCycle, "module import cycle: " ++ String.join
        ((state.stack.dropWhile (· ≠ name)).map fun item => shown item ++ " -> ") ++ shown name⟩)
    else
      match units.find? name with
      | none => .error (.failed
          ⟨.notFound, "resolved graph is missing imported module: " ++ shown name⟩)
      | some unit => do
        let state ← (unit.imports.insertionSort (· ≤ ·)).foldlM (visit units depth)
          { state with stack := state.stack ++ [name] }
        return { stack := state.stack.dropLast, done := name :: state.done,
                 ordered := state.ordered ++ [name] }

def topologicalOrder (depth : Nat) (units : OrderedMap Bytes ModuleUnitDescriptor)
    (entryModule : Bytes) : Except Stop (List Bytes) :=
  if units.contains entryModule then (visit units depth {} entryModule).map (·.ordered)
  else .error (.failed
    ⟨.identityMismatch, "entry module is absent from resolved graph: " ++ shown entryModule⟩)

/-- The manifest and the descriptors that an entry source leads to, with the order
of the modules. -/
def loadModuleGraph (files : FileSystem) (parse : Bytes → Option ParsedSourceUnit) (depth : Nat)
    (entry : ParsedSourceUnit) :
    Except Stop (PackageManifest × OrderedMap Bytes ModuleUnitDescriptor × List Bytes) := do
  let manifest ← (loadForEntry files entry.descriptor.sourcePath).mapError .failed
  (validateUnitIdentity files manifest entry.descriptor entry.package).mapError .failed
  let entryModule := entry.descriptor.moduleName
  let graph ← expand files manifest parse depth
    { units := OrderedMap.empty.insert entryModule entry.descriptor } entryModule
  let ordered ← topologicalOrder depth graph.units entryModule
  return (manifest, graph.units, ordered)

def hexDigit (value : Nat) : Byte := Fin.ofNat 256 (if value < 10 then 48 + value else 87 + value)

/-- FNV-1a over the bytes of a file. -/
def fnv1a64 (text : Bytes) : UInt64 :=
  text.foldl (fun hash byte => (hash ^^^ UInt64.ofNat byte.val) * 1099511628211) 14695981039346656037

def legacyFingerprint (text : Bytes) : Bytes :=
  ascii "fnv1a64:" ++
    (List.range 16).reverse.map fun place => hexDigit ((fnv1a64 text).toNat / 16 ^ place % 16)

def legacyFingerprintFile (files : FileSystem) (path : Bytes) : Option Bytes :=
  (files.read path).map legacyFingerprint

section Lockfile

variable (files : FileSystem) (manifest : PackageManifest)

/-- The source path from the package root; empty if there is none. -/
def relativeToRoot (sourcePath : Bytes) : Bytes :=
  (files.relative sourcePath manifest.packageRoot).getD []

/-- The hash that the format of the manifest asks for. -/
def fingerprintFile (path : Bytes) : Option Bytes :=
  if manifest.format = packageV2 then files.cryptographicFingerprintFile path
  else legacyFingerprintFile files path

def dependencyLine (dependency : PackageDependency) : Bytes :=
  ascii "dependency " ++ dependency.packageName ++ ascii " " ++ dependency.version ++ ascii " " ++
    dependency.relativeRoot ++ ascii " " ++ dependency.manifestSha256 ++ ascii " " ++
    dependency.licenseSpdx ++ ascii "\n"

def moduleLine (entry : Bytes × ModuleUnitDescriptor) : Except Failure Bytes :=
  let relative := relativeToRoot files manifest entry.2.sourcePath
  if relative.isEmpty then
    .error ⟨.pathEscape, "cannot express module path relative to package root: " ++ shown entry.1⟩
  else
    match fingerprintFile files manifest entry.2.sourcePath with
    | none => .error
        ⟨.notFound, "cannot fingerprint module source: " ++ shown entry.2.sourcePath⟩
    | some fingerprint => .ok (ascii "module " ++ entry.1 ++ ascii " " ++ relative ++ ascii " " ++
        fingerprint ++ ascii "\n")

def expectedLockfile (units : OrderedMap Bytes ModuleUnitDescriptor) (entryModule : Bytes) :
    Except Failure Bytes :=
  let enterprise := manifest.format = packageV2
  let head := ascii "format " ++
      (if enterprise then ascii "shorthand.lock.v2" else ascii "shorthand.lock.v1") ++ ascii "\n" ++
    ascii "package " ++ manifest.packageName ++
      (if enterprise then ascii " " ++ manifest.version ++ ascii " " ++ manifest.licenseSpdx
      else []) ++ ascii "\n" ++
    (if enterprise then
      manifest.dependencies.entries.flatMap fun entry => dependencyLine entry.2
    else []) ++
    ascii "entry " ++ entryModule ++ ascii "\n"
  units.entries.foldlM (fun out entry => do
    let line ← moduleLine files manifest entry
    return out ++ line) head

def lockfilePath : Bytes := joinPath manifest.packageRoot (ascii "shorthand.lock")

def verifyLockfile (units : OrderedMap Bytes ModuleUnitDescriptor) (entryModule : Bytes) :
    Except Failure Unit := do
  let expected ← expectedLockfile files manifest units entryModule
  match files.read (lockfilePath manifest) with
  | none =>
    .error ⟨.lockfileMismatch, "missing shorthand.lock; run `short_hand <entry.short> lock`"⟩
  | some actual =>
    ensure (actual = expected)
      ⟨.lockfileMismatch, "shorthand.lock is stale or does not match the resolved module graph"⟩

end Lockfile

end ShortHand.Modules
