import ShortHand.Language.Soundness

/-! Type soundness of whole runs, with lexical scope and with the source's. -/

namespace ShortHand.Language

open ShortHand.Library List

variable {H : Host} {program : Program H}

section Calls

variable {visitor : Visitor H} {activation : Activation} {scopes : List Scope} {state : State H}
  {function : Function H}

theorem bindArguments_some {frame : Frame H}
    (types : arguments.map (·.type) = parameters.map Prod.snd) :
    ∃ bound, bindArguments parameters arguments frame = some bound := by
  induction parameters generalizing arguments frame with
  | nil =>
    obtain rfl := map_eq_nil_iff.mp types
    exact ⟨frame, rfl⟩
  | cons parameter parameters ih =>
    cases arguments with
    | nil => cases types
    | cons argument arguments =>
      rw [map_cons, map_cons, cons.injEq] at types
      rw [bindArguments, if_pos types.1.symm]
      exact ih types.2

theorem Function.Checked.valued (accepted : Accepted program)
    (member : function ∈ program.functions) : Valued (parameterScope function) := by
  simp only [Accepted, analyze, append_eq_nil_iff, flatMap_eq_nil_iff] at accepted
  have clean := accepted.1.2 function member
  simp only [visitFunction, append_eq_nil_iff] at clean
  exact valued_none.declareIn (entries_valued clean.1.1.1.2)

theorem function_arrays (member : function ∈ program.functions) :
    ∀ entry ∈ Stmt.arraysAll function.body, entry ∈ program.arrays := by
  intro entry inside
  refine mem_append_left _ (mem_append_right _ ?_)
  exact mem_flatMap.mpr ⟨function, member, inside⟩

/-- What a visitor keeps of accepted code. -/
structure Sound (program : Program H) (visitor : Visitor H) : Prop where
  visits : (Ground.soundness program).Visits {} visitor visitor
  flows : Flows program visitor

/-- An accepted block, from its start. -/
theorem Sound.block {scope : Scope}
    (sound : Sound program visitor) (typed : state.Typed program activation (scope :: scopes))
    (suits : Suits context activation)
    (checked : BlockChecked program activation context (scope :: scopes) body) :
    Safe program (fun exit after => (∃ grown, after.Typed program activation (grown :: scopes)) ∧
      exit.Within (context.returnType ≠ none) (context.loopDepth ≠ 0) ∧
      (Ending body 0 → exit ≠ .normal)) (visitor.blockFrom body 0 state) := by
  have inside : (Ground.soundness program).Inside ⟨activation, scope :: scopes⟩ body 0
      ⟨activation, scope :: scopes⟩ :=
    ⟨context, rfl, rfl, suits, checked, typed.exact ▸ Nat.le_add_left _ _⟩
  have ran := (sound.visits.blockFrom rfl inside ⟨rfl, typed⟩).ensures fun _ _ => id
  refine (ran.and (sound.flows.blockFrom checked.accepted 0 state)).mono ?_ fun _ _ => id
  rintro exit after ⟨⟨_, position, last, ⟨_, within⟩, rfl, kept⟩, ends⟩
  obtain ⟨grown, same⟩ := @scopesAt_cons _ scopes body position scope
  rw [within.same, within.scopes.trans same] at kept
  exact ⟨⟨grown, kept⟩, ends⟩

/-- The body of a function on its own frame. -/
theorem runBody_safe (accepted : Accepted program) (sound : Sound program visitor)
    (member : function ∈ program.functions)
    (typed : state.Typed program ⟨depth + 1, function.type, 0⟩ [parameterScope function]) :
    Safe program (fun value after => value.type = function.type ∧
      ∃ scope, after.Typed program ⟨depth + 1, function.type, 0⟩ [scope])
      (runBody visitor function state) := by
  have checked := accepted.function member
  have suits : Suits { returnType := some function.type } ⟨depth + 1, function.type, 0⟩ := by
    rintro type ⟨⟩
    exact ⟨rfl, nofun⟩
  refine (sound.block typed suits
    ⟨checked.body, function_arrays member, fun _ _ _ => Nat.one_pos⟩).bind ?_
  rintro exit after ⟨⟨scope, kept⟩, within, ending⟩
  cases exit with
  | breakLoop | continueLoop => exact absurd rfl within
  | returned => exact ⟨kept.returns, scope, kept⟩
  | normal =>
    have void : function.type = .void := by
      by_contra valued
      exact ending (ending_start (checked.returns valued)) rfl
    simp only [void, if_true]
    exact ⟨rfl, scope, void ▸ kept⟩

theorem activate_safe (accepted : Accepted program) (sound : Sound program visitor)
    (member : function ∈ program.functions) (typed : state.Typed program activation scopes)
    (fits : frame.Fits program.Declares (parameterScope function)) :
    Safe program (fun value after => value.type = function.type ∧
      after.Typed program activation scopes)
      (activate (.lexical H) visitor function frame state) := by
  have entered : (enterCall (.lexical H) function frame state).Typed program
      ⟨state.callDepth + 1, function.type, 0⟩ [parameterScope function] := by
    refine ⟨typed.globals, ⟨fits, trivial⟩, rfl, ?_, rfl, rfl⟩
    have valued := typed.valued
    simp only [forall_mem_cons] at valued ⊢
    exact ⟨valued.1, Function.Checked.valued accepted member, nofun⟩
  rw [Safe, activate, Outcome.ensures_bracket]
  refine (runBody_safe accepted sound member entered).mono ?_ fun _ _ permitted => permitted
  rintro value after ⟨type, scope, kept⟩
  refine ⟨type, kept.globals, typed.locals, typed.exact, typed.valued, ?_, typed.returns⟩
  rw [← typed.depth]
  exact congrArg (· - 1) kept.depth

/-- A call of an accepted function, in lexical scope, yields its return type. -/
theorem invokeFunction_safe (accepted : Accepted program) (sound : Sound program visitor)
    (typed : state.Typed program activation scopes)
    (found : program.findFunction name = some function)
    (types : arguments.map (·.type) = parameterTypes function) :
    Safe program (fun value after => value.type = function.type ∧
      after.Typed program activation scopes)
      (invokeFunction (.lexical H) program visitor name arguments state) := by
  have member := (Program.findFunction_mem found).1
  have checked := accepted.function member
  have parameters : parameterTypes function = function.parameters.typedScalars.map Prod.snd := by
    rw [parameterTypes, checked.scalarsOnly, map_nil, append_nil]
  rw [parameters] at types
  have arity : function.parameters.typedScalars.length = arguments.length := by
    simpa using (congrArg length types).symm
  obtain ⟨frame, bound⟩ := @bindArguments_some H _ _ {} types
  have fits : frame.Fits program.Declares (parameterScope function) := checked.bind arity bound
  simp only [invokeFunction, found, checked.scalarsOnly, arity, ne_eq, not_true, if_false,
    Exec.get_bind, bound]
  split
  · trivial
  · exact activate_safe accepted sound member typed fits

end Calls

section Runs

variable (accepted : Accepted program)
include accepted

theorem interpreter_visits (fuel : Nat) :
    (Ground.soundness program).Visits {} (interpreter (.lexical H) program fuel)
      (interpreter (.lexical H) program fuel) := by
  induction fuel with
  | zero => exact Simulation.visits_exhausted
  | succ fuel ih =>
    have sound : Sound program (interpreter (.lexical H) program fuel) :=
      ⟨ih, interpreter_flows (.lexical H) fuel⟩
    constructor
    · intro ground code state other clean keeps
      refine Simulation.evaluate_agrees ih (fun {operand} accepted => ?_) ?_ clean keeps
      · obtain ⟨inner, type⟩ := minus_clean accepted
        exact ⟨inner, fun value same => applyMinus_type.trans (same.trans type.symm)⟩
      rintro name arguments values state _ rfl valued ⟨rfl, typed⟩
      obtain ⟨function, found, _, types⟩ := call_clean clean
      refine (Outcome.Ensures.agree (invokeFunction_safe accepted sound typed found ?_)
        fun _ _ permitted => .inr permitted).mono (fun value _ _ kept => ⟨?_, kept.1, kept.2.2⟩)
        fun _ _ => id
      · rw [← types, ← forall₂_eq_eq_eq, forall₂_map_left_iff,
          forall₂_map_right_iff]
        exact valued.flip
      · refine kept.2.1.trans ?_
        rw [expressionType, returnTypeOf, found]
    · intro ground code state other admits keeps
      refine Simulation.statement_agrees ih (fun {place found state other} _ holds keeps => ?_)
        admits keeps
      refine (Ground.Keeps.agree keeps (scanValue_safe keeps.2)).mono
        (fun value _ _ kept => ⟨?_, kept.1, kept.2.2⟩) fun _ _ => id
      have resolves := holds.resolves
      rwa [← kept.2.1.trans holds.same] at resolves
    · exact fun based inside keeps => Simulation.visitBlockFrom_agrees ih based inside keeps
    · exact fun clean inside keeps => Simulation.visitWhileLoop_agrees ih keeps clean inside
    · exact fun counted stepped limited inside keeps =>
        Simulation.visitForLoop_agrees ih keeps counted stepped limited inside

theorem globals_valued : Valued (lookupGlobal program) := by
  rw [← accepted.globalScope.2]
  simp only [Accepted, analyze, append_eq_nil_iff] at accepted
  exact valued_none.declareIn (entries_valued accepted.1.1.1.2)

/-- With lexical scope, an accepted program fails only as permitted. -/
theorem execute_lexical_safe (fuel : Nat) (input : H.Input) :
    Safe program (fun _ _ => True) (execute (.lexical H) program fuel input) := by
  have sized : ∀ entry ∈ program.globals.typedArrays, program.Declares entry.1 entry.2.2.toNat :=
    fun entry member =>
      ⟨entry, mem_append_left _ (mem_append_left _ member), rfl, rfl⟩
  obtain ⟨globals, fits, started⟩ := accepted.start program.Declares sized
  have typed : ({ initialState H input with globals } : State H).Typed program ⟨0, .int, 1⟩
      [fun _ => none] := by
    refine ⟨fits, ⟨fun _ => rfl, trivial⟩, rfl, ?_, rfl, rfl⟩
    simp only [forall_mem_cons]
    exact ⟨globals_valued accepted, valued_none, nofun⟩
  have checked : BlockChecked program ⟨0, .int, 1⟩ {} [fun _ => none] program.code := by
    refine ⟨accepted.code, fun entry inside => mem_append_right _ inside, ?_⟩
    intro statement member declares
    rw [program.undeclared statement member] at declares
    cases declares
  have suits : Suits {} ⟨0, .int, 1⟩ := by
    intro type returns
    cases returns
  rw [started]
  have sound : Sound program (interpreter (.lexical H) program fuel) :=
    ⟨interpreter_visits accepted fuel, interpreter_flows (.lexical H) fuel⟩
  refine (sound.block typed suits checked).bind ?_
  rintro exit after ⟨_, within, _⟩
  cases exit with
  | normal => trivial
  | returned | breakLoop | continueLoop => exact absurd rfl within

end Runs

/-- Two calls of `f` next to an array that the second one is out of. -/
def boundedProgram : Program .sample where
  globals := { typedScalars := [("x", .int)], typedArrays := [("a", .int, 2)] }
  functions := [⟨"f", .int, { typedScalars := [("i", .int)] },
    [.assignment (.simple "x") (.binary .plus (.variableRef (.simple "x")) (.literal 1)),
      .returnFrom (some (.variableRef (.array "a" (.variableRef (.simple "i")))))]⟩]
  code := [.block [.declaration { typedScalars := [("i", .int)] },
    .assignment (.simple "i") (.call "f" [.literal 1]), .print [.variableRef (.simple "i")],
    .expression (.call "f" [.literal 2])]]
  undeclared := by decide

/-- `x` is an integer for `f`, and a string in the block that calls it. -/
def shadowProgram : Program .sample where
  globals := { typedScalars := [("x", .int)] }
  functions := [⟨"f", .void, {}, [.assignment (.simple "x") (.literal 1)]⟩]
  code := [.block [.declaration { typedScalars := [("x", .string)] }, .expression (.call "f" [])]]
  undeclared := by decide

end ShortHand.Language
