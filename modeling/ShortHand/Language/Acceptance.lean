import ShortHand.Library.Lists
import ShortHand.Language.Frames

/-! What the analyzer has checked in an accepted program, per function and for the
globals. -/

namespace ShortHand.Language

open ShortHand.Library List

variable {H : Host} {program : Program H}

theorem duplicateIn_eq_nil :
    duplicateIn seen names = [] ↔ names.Nodup ∧ ∀ name ∈ names, name ∉ seen := by
  induction names generalizing seen with
  | nil => simp [duplicateIn]
  | cons name rest ih =>
    rw [duplicateIn]
    by_cases taken : name ∈ seen
    · simp [taken]
    rw [if_neg taken, ih, nodup_cons, forall_mem_cons]
    constructor
    · rintro ⟨distinct, unseen⟩
      refine ⟨⟨fun again => unseen name again mem_cons_self, distinct⟩, taken, ?_⟩
      exact fun other member inside => unseen other member (mem_cons_of_mem _ inside)
    · rintro ⟨⟨once, distinct⟩, _, unseen⟩
      refine ⟨distinct, fun other member inside => ?_⟩
      rcases mem_cons.mp inside with rfl | earlier
      · exact once member
      · exact unseen other member earlier

/-- Distinct names are declared without a diagnostic, each with its own entry. -/
theorem declareIn_of_nodup
    (distinct : (entries.map Prod.fst).Nodup) (fresh : ∀ entry ∈ entries, scope entry.1 = none) :
    (declareIn entries scope).2 = [] ∧
      ∀ name, (declareIn entries scope).1 name = (entries.lookup name <|> scope name) := by
  induction entries generalizing scope with
  | nil => exact ⟨rfl, fun name => rfl⟩
  | cons entry rest ih =>
    rw [map_cons, nodup_cons] at distinct
    rw [forall_mem_cons] at fresh
    have later : ∀ other ∈ rest,
        Function.update scope entry.1 (some entry.2) other.1 = none := by
      intro other member
      rw [Function.update_of_ne, fresh.2 other member]
      exact fun same => distinct.1 (same ▸ mem_map_of_mem member)
    obtain ⟨clean, found⟩ := ih distinct.2 later
    rw [declareIn, fresh.1]
    refine ⟨clean, fun name => (found name).trans ?_⟩
    rw [lookup_cons]
    by_cases here : name = entry.1
    · subst here
      have absent : rest.lookup entry.1 = none := by
        rw [lookup_eq_none_iff]
        intro other member
        simp only [bne_iff_ne, ne_eq]
        exact fun same => distinct.1 (same ▸ mem_map_of_mem member)
      simp [absent]
    · simp [here, beq_eq_false_iff_ne.mpr here]

theorem entries_names {block : Declarations} :
    block.entries.map Prod.fst =
      block.typedScalars.map Prod.fst ++ block.typedArrays.map Prod.fst := by
  simp [Declarations.entries, scalarEntry, arrayEntry, Function.comp_def]

theorem entries_nodup (clean : duplicateDiagnostics block = []) :
    (block.entries.map Prod.fst).Nodup := by
  rw [entries_names]
  exact (duplicateIn_eq_nil.mp (map_eq_nil_iff.mp clean)).1

/-- What the analyzer has checked in a function. -/
structure Function.Checked (program : Program H) (function : Function H) : Prop where
  scalarsOnly : function.parameters.typedArrays = []
  parameters : (declareIn function.parameters.entries fun _ => none).2 = []
  body : visitStmts program (Context.inBlock { returnType := some function.type } function.body)
    function.body 0 [parameterScope function] function.body = []
  returns : function.type ≠ .void → blockReturns function.body = true

theorem Accepted.function {function : Function H} (accepted : Accepted program)
    (member : function ∈ program.functions) : function.Checked program := by
  simp only [Accepted, analyze, append_eq_nil_iff, flatMap_eq_nil_iff] at accepted
  have clean := accepted.1.2 function member
  simp only [visitFunction, visitBlockStmts, append_eq_nil_iff] at clean
  obtain ⟨⟨⟨⟨distinct, _⟩, scalars⟩, _, body⟩, returns⟩ := clean
  refine ⟨by simpa using scalars, ?_, body, by simpa using returns⟩
  exact (declareIn_of_nodup (entries_nodup distinct) fun _ _ => rfl).1

/-- The frame of an accepted call fits the parameters. -/
theorem Function.Checked.bind {declared : String → Nat → Prop}
    (checked : function.Checked program)
    (arity : function.parameters.typedScalars.length = arguments.length)
    (bound : bindArguments function.parameters.typedScalars arguments {} = some frame) :
    frame.Fits declared (parameterScope function) := by
  have clean := checked.parameters
  rw [parameterScope]
  rw [Declarations.entries, checked.scalarsOnly, map_nil, append_nil] at clean ⊢
  exact bindArguments_fits Frame.fits_empty clean arity bound

theorem Accepted.globals (accepted : Accepted program) :
    (program.globals.entries.map Prod.fst).Nodup := by
  simp only [Accepted, analyze, append_eq_nil_iff] at accepted
  exact entries_nodup accepted.1.1.1.1

theorem lookup_scalarEntries {scalars : List (String × ShortType)} :
    (scalars.map scalarEntry).lookup name = (scalars.lookup name).map fun type => ⟨type, false⟩ := by
  induction scalars with
  | nil => rfl
  | cons entry rest ih =>
    rw [map_cons, scalarEntry, lookup_cons, lookup_cons, ih]
    cases name == entry.1 <;> rfl

theorem lookup_arrayEntries {arrays : List (String × ShortType × Int)} :
    (arrays.map arrayEntry).lookup name = (arrays.lookup name).map fun entry => ⟨entry.1, true⟩ := by
  induction arrays with
  | nil => rfl
  | cons entry rest ih =>
    rw [map_cons, arrayEntry, lookup_cons, lookup_cons, ih]
    cases name == entry.1 <;> rfl

/-- The globals as a scope. -/
theorem Accepted.globalScope (accepted : Accepted program) :
    (declareIn program.globals.entries fun _ => none).2 = [] ∧
      (declareIn program.globals.entries fun _ => none).1 = lookupGlobal program := by
  have distinct := accepted.globals
  obtain ⟨clean, found⟩ := @declareIn_of_nodup _ (fun _ => none) distinct fun _ _ => rfl
  refine ⟨clean, funext fun name => (found name).trans ?_⟩
  rw [entries_names, nodup_append] at distinct
  rw [lookupGlobal, lookup_reverse distinct.1, lookup_reverse distinct.2.1,
    Declarations.entries, lookup_append, lookup_scalarEntries, lookup_arrayEntries]
  cases program.globals.typedScalars.lookup name with
  | none => cases program.globals.typedArrays.lookup name <;> rfl
  | some type => rfl

/-- The declarations of an accepted program fill a global frame that fits its globals. -/
theorem Accepted.initialized (declared : String → Nat → Prop) (accepted : Accepted program)
    (sized : ∀ entry ∈ program.globals.typedArrays, declared entry.1 entry.2.2.toNat) :
    ∃ globals : Frame H, globals.Fits declared (lookupGlobal program) ∧
      ∀ input, initializeDeclarations program.globals (initialState H input) =
        .ok () { initialState H input with globals } := by
  obtain ⟨clean, scope⟩ := accepted.globalScope
  obtain ⟨globals, replaces, fits⟩ := initializeDeclarations_fits Frame.fits_empty sized clean
  exact ⟨globals, scope ▸ fits, fun input => replaces (initialState H input) rfl⟩

/-- A run of an accepted program starts with a global frame that fits its globals. -/
theorem Accepted.start (declared : String → Nat → Prop) (accepted : Accepted program)
    (sized : ∀ entry ∈ program.globals.typedArrays, declared entry.1 entry.2.2.toNat) :
    ∃ globals : Frame H, globals.Fits declared (lookupGlobal program) ∧
      ∀ linkage fuel input, execute linkage program fuel input =
        runCode program (interpreter linkage program fuel) { initialState H input with globals } := by
  obtain ⟨globals, fits, filled⟩ := accepted.initialized declared sized
  exact ⟨globals, fits, fun _ _ input => Exec.bind_of_ok (filled input)⟩

theorem Accepted.code (accepted : Accepted program) :
    visitStmts program (Context.inBlock {} program.code) program.code 0 [fun _ => none]
      program.code = [] := by
  simp only [Accepted, analyze, visitBlockStmts, append_eq_nil_iff] at accepted
  exact accepted.2.2

def Declarations.Names (block : Declarations) (reference : Reference) : Prop :=
  reference.name ∈
    if reference.isArray then block.typedArrays.map Prod.fst else block.typedScalars.map Prod.fst

def bindsIn (scope : Scope) (reference : Reference) : Bool :=
  (scope reference.name).any (·.isArray == reference.isArray)

theorem declareIn_binds (clean : (declareIn entries scope).2 = []) (reference : Reference) :
    bindsIn (declareIn entries scope).1 reference = true ↔ bindsIn scope reference = true ∨
      ∃ entry ∈ entries, entry.1 = reference.name ∧ entry.2.isArray = reference.isArray := by
  induction entries generalizing scope with
  | nil => simp [declareIn]
  | cons entry rest ih =>
    obtain ⟨fresh, declares⟩ := declareIn_cons_clean clean
    rw [declares] at clean ⊢
    rw [ih clean]
    have grown : bindsIn (Function.update scope entry.1 (some entry.2)) reference = true ↔
        bindsIn scope reference = true ∨
          entry.1 = reference.name ∧ entry.2.isArray = reference.isArray := by
      unfold bindsIn
      by_cases here : reference.name = entry.1
      · rw [here, fresh]
        simp
      · rw [Function.update_of_ne here]
        simp [Ne.symm here]
    rw [grown, or_assoc]
    simp [or_and_right, exists_or]

theorem entries_binds {block : Declarations} :
    (∃ entry ∈ block.entries, entry.1 = reference.name ∧ entry.2.isArray = reference.isArray) ↔
      block.Names reference := by
  rw [Declarations.Names]
  constructor
  · rintro ⟨entry, member, name, kind⟩
    rw [← kind, ← name]
    rcases mem_append.mp member with scalar | array
    · obtain ⟨source, inside, rfl⟩ := mem_map.mp scalar
      exact mem_map_of_mem inside
    · obtain ⟨source, inside, rfl⟩ := mem_map.mp array
      exact mem_map_of_mem inside
  · intro named
    cases kind : reference.isArray with
    | false =>
      rw [kind] at named
      obtain ⟨source, inside, name⟩ := mem_map.mp named
      exact ⟨scalarEntry source, mem_append_left _ (mem_map_of_mem inside), name, rfl⟩
    | true =>
      rw [kind] at named
      obtain ⟨source, inside, name⟩ := mem_map.mp named
      exact ⟨arrayEntry source, mem_append_right _ (mem_map_of_mem inside), name, rfl⟩

theorem parameterScope_binds (accepted : Accepted program)
    (member : function ∈ program.functions) (reference : Reference) :
    bindsIn (parameterScope function) reference = true ↔ function.parameters.Names reference := by
  rw [parameterScope, declareIn_binds (accepted.function member).parameters, entries_binds]
  simp [bindsIn]

end ShortHand.Language
