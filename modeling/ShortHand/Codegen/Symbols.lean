import Mathlib.Data.List.Dedup
import Mathlib.Data.List.Sort
import ShortHand.Library.Outcome
import ShortHand.Language.Acceptance
import ShortHand.Codegen.Statements

/-! The names of a package graph. No check looks at the names that the generator uses itself. -/

namespace ShortHand.Codegen

open ShortHand.Language ShortHand.Library
open List (mem_append mem_cons not_mem_nil)

variable {H : Host}

structure SourceUnit (H : Host) where
  moduleName : String
  imports : List String
  program : Program H

/-- The modules in dependency order, each once. -/
structure PackageGraph (H : Host) where
  units : List (SourceUnit H)
  entry : SourceUnit H
  distinct : (units.map SourceUnit.moduleName).Nodup
  member : entry ∈ units

def functionNames (program : Program H) : List String := program.functions.map Function.name

def globalNames (program : Program H) : List String := program.globals.entries.map Prod.fst

/-- The names of a module as a sorted set. -/
def symbolSet (program : Program H) : List String :=
  ((functionNames program ++ globalNames program).dedup).insertionSort fun first second =>
    first ≤ second

abbrev Owners := String → Option String

def claimSymbols (moduleName : String) : List String → Owners → Except Diagnostic Owners
  | [], owners => .ok owners
  | symbol :: rest, owners =>
    match owners symbol with
    | some owner => .error ⟨"SHD2029", "package graph symbol collision for `" ++ symbol ++
        "` between " ++ owner ++ " and " ++ moduleName⟩
    | none => claimSymbols moduleName rest (Function.update owners symbol (some moduleName))

def claimUnits : List (SourceUnit H) → Owners → Except Diagnostic Owners
  | [], owners => .ok owners
  | unit :: rest, owners => do
    let owners ← claimSymbols unit.moduleName (symbolSet unit.program) owners
    claimUnits rest owners

def validateGraphSymbols (graph : PackageGraph H) : Except Diagnostic Owners :=
  claimUnits graph.units fun _ => none

/-- The functions that a module imports. Of two of one name the one imported first
counts; the registry takes the last. -/
def importedFunctions (graph : PackageGraph H) (unit : SourceUnit H) : List (Function H) :=
  unit.imports.reverse.flatMap fun name =>
    ((graph.units.find? fun other => other.moduleName == name).map fun other =>
      other.program.functions).getD []

/-- The diagnostics of a module, with calls checked against its imports as well. -/
def analyzeUnit (graph : PackageGraph H) (unit : SourceUnit H) : List Diagnostic :=
  let program := unit.program
  let imported := importedFunctions graph unit
  let linked := { program with functions := imported ++ program.functions }
  duplicateDiagnostics program.globals ++ declarationDiagnostics program.globals ++
    (duplicateIn (imported.map Function.name) (functionNames program)).map (fun name =>
      ⟨"SHD3009", "duplicate function definition: " ++ name⟩) ++
    program.functions.flatMap (visitFunction linked) ++
    visitBlockStmts linked {} [fun _ => none] program.code

def analyzeModuleGraph (graph : PackageGraph H) : Bool :=
  graph.units.all fun unit => (analyzeUnit graph unit).isEmpty

def generateGraph (view : H.AiStatement → AiView) (graph : PackageGraph H) :
    Outcome (Generator H) Crash Unit :=
  generate view ((graph.units.filter fun unit => unit.moduleName != graph.entry.moduleName).map
    SourceUnit.program) graph.entry.program

def unitDefinitions (unit : SourceUnit H) : List String :=
  globalNames unit.program ++ functionNames unit.program

/-- Every definition of the graph, by name. -/
def definitions (graph : PackageGraph H) : List String := graph.units.flatMap unitDefinitions

/-- The names of the generator in a module: those that every module has, and those that
the code asked for. -/
def Generator.ownNames (generator : Generator H) : List String :=
  ["printf", "scanf", "main"] ++ generator.table.requested.map Subtype.val

/-- No name stands for two things. -/
structure SymbolsApart (view : H.AiStatement → AiView) (graph : PackageGraph H) : Prop where
  distinct : (definitions graph).Nodup
  own : ∀ final, generateGraph view graph = .ok () final →
    ∀ name ∈ definitions graph, name ∉ final.ownNames

/-- No module has a global variable and a function of one name. -/
def KindsApart (graph : PackageGraph H) : Prop :=
  ∀ unit ∈ graph.units, ∀ name ∈ globalNames unit.program, name ∉ functionNames unit.program

/-- No definition has a name of the generator. -/
def Unreserved (graph : PackageGraph H) : Prop :=
  ∀ name ∈ definitions graph, name ≠ "main" ∧ ¬ Reserved name

theorem mem_symbolSet :
    name ∈ symbolSet program ↔ name ∈ globalNames program ++ functionNames program := by
  rw [symbolSet, List.mem_insertionSort, List.mem_dedup, mem_append, mem_append, or_comm]

/-- Names that were claimed had no owner, and have one now. -/
theorem claimSymbols_ok (claimed : claimSymbols moduleName symbols owners = .ok after) :
    (∀ name ∈ symbols, owners name = none) ∧
      ∀ name, after name = none → owners name = none ∧ name ∉ symbols := by
  induction symbols generalizing owners with
  | nil =>
    cases claimed
    exact ⟨nofun, fun name free => ⟨free, nofun⟩⟩
  | cons symbol rest ih =>
    rw [claimSymbols] at claimed
    cases free : owners symbol with
    | some owner =>
      rw [free] at claimed
      cases claimed
    | none =>
      rw [free] at claimed
      obtain ⟨fresh, owned⟩ := ih claimed
      have other : ∀ name, Function.update owners symbol (some moduleName) name = none →
          name ≠ symbol ∧ owners name = none := by
        intro name absent
        by_cases same : name = symbol
        · rw [same, Function.update_self] at absent
          cases absent
        · rw [Function.update_of_ne same] at absent
          exact ⟨same, absent⟩
      refine ⟨?_, fun name absent => ?_⟩
      · intro name member
        rcases mem_cons.mp member with rfl | later
        · exact free
        · exact (other name (fresh name later)).2
      · obtain ⟨before, notLater⟩ := owned name absent
        obtain ⟨apart, unowned⟩ := other name before
        refine ⟨unowned, fun member => ?_⟩
        exact (mem_cons.mp member).elim apart notLater

theorem claimUnits_ok (claimed : claimUnits units owners = .ok after) :
    (∀ unit ∈ units, ∀ name ∈ unitDefinitions unit, owners name = none) ∧
      units.Pairwise fun first second => (unitDefinitions first).Disjoint (unitDefinitions second) := by
  induction units generalizing owners with
  | nil => exact ⟨nofun, .nil⟩
  | cons unit rest ih =>
    obtain ⟨middle, first, later⟩ := bind_eq_ok.mp claimed
    obtain ⟨fresh, owned⟩ := claimSymbols_ok first
    obtain ⟨unowned, apart⟩ := ih later
    refine ⟨?_, .cons ?_ apart⟩
    · intro other member name defined
      rcases mem_cons.mp member with rfl | inside
      · exact fresh name (mem_symbolSet.mpr defined)
      · exact (owned name (unowned other inside name defined)).1
    · intro other inside name here there
      exact (owned name (unowned other inside name there)).2 (mem_symbolSet.mpr here)

/-- The two checks leave one kind of collision between definitions. -/
theorem definitions_nodup_iff (validated : validateGraphSymbols graph = .ok owners)
    (analyzed : analyzeModuleGraph graph = true) :
    (definitions graph).Nodup ↔ KindsApart graph := by
  rw [definitions, List.nodup_flatMap]
  constructor
  · rintro ⟨each, -⟩ unit member name global function
    exact List.disjoint_of_nodup_append (each unit member) global function
  intro apart
  refine ⟨fun unit member => ?_, (claimUnits_ok validated).2⟩
  have clean := List.isEmpty_iff.mp (List.all_eq_true.mp analyzed unit member)
  simp only [analyzeUnit, List.append_eq_nil_iff, List.map_eq_nil_iff] at clean
  obtain ⟨⟨⟨⟨globals, -⟩, functions⟩, -⟩, -⟩ := clean
  exact (entries_nodup globals).append (duplicateIn_eq_nil.mp functions).1 fun name =>
    apart unit member name

/-- Short names are free. -/
theorem Reserved.long (reserved : Reserved name) : 4 ≤ name.length := by
  cases reserved with
  | library member =>
    simp only [mem_cons, not_mem_nil, or_false] at member
    rcases member with rfl | rfl | rfl | rfl | rfl <;> decide
  | text member =>
    simp only [mem_cons, not_mem_nil, or_false] at member
    rcases member with rfl | rfl <;> decide
  | @hook kind name arity called =>
    cases kind <;> cases called <;> decide
  | hookArgument called index =>
    have tail : "_arg".length = 4 := rfl
    simp only [String.length_append, tail]
    omega
  | metadata metadata name counter =>
    have head : "shorthand_ai_".length = 13 := rfl
    simp only [String.length_append, head]
    omega

/-- A module `app` with one global variable and one function. -/
def sampleGraph (global function : String) : PackageGraph Host.sample :=
  let unit : SourceUnit Host.sample :=
    { moduleName := "app"
      imports := []
      program :=
        { globals := ⟨[(global, .int)], []⟩
          functions := [⟨function, .int, {}, [.returnFrom (some (.literal 7))]⟩]
          code := []
          undeclared := undeclared_nil } }
  { units := [unit]
    entry := unit
    distinct := List.nodup_singleton _
    member := List.mem_singleton_self _ }

end ShortHand.Codegen
