import ShortHand.Language.Agreement

/-! Control flow with the source's own linkage: calls of accepted code end as the analyzer
expects, whatever the callers' frames hold. -/

namespace ShortHand.Language

open ShortHand.Library Scene

variable {H : Host} {program : Program H}

/-- One run, with the failures that are not ruled out. -/
def Scene.unruled (program : Program H) : Scene H where
  program := program
  worlds callers allowed := callers = [] ∧ allowed = fun _ => True
  clear := clear_alone
  disregarded failure := ¬failure.Ruled
  kept := False
  fails _ := .inr

section Runs

variable (accepted : Accepted program) (fuel : Nat) {state : State H}
include accepted

theorem invokeFunction_unruled
    (visits : ∀ base, (unruled program).simulation.Visits base first second)
    (flows : Flows program second) (related : (unruled program).Related region state other) :
    (unruled program).simulation.Agrees region (fun _ => True)
      (invokeFunction (.source H) program first name arguments state)
      (invokeFunction (.source H) program second name arguments other) := by
  refine invokeFunction_source accepted (fun refusal => absurd refusal Bool.false_ne_true) ?_
    (fun _ => visits _) flows related
  intro function _ mention _
  rw [related.world.2]
  trivial

theorem interpreter_unruled (base : Declarations) :
    (unruled program).simulation.Visits base (interpreter (.source H) program fuel)
      (interpreter (.source H) program fuel) :=
  @interpreter_visits H (.unruled program) _ _ (fun visits flows _ _ _ _ _ _ related =>
    invokeFunction_unruled accepted visits flows related) fuel base

/-- An accepted program has none of the failures that are ruled out. -/
theorem execute_unruled (input : H.Input) :
    (execute (.source H) program fuel input).Ensures (fun _ _ => True)
      fun failure _ => ¬failure.Ruled := by
  obtain ⟨globals, fits, started⟩ := accepted.start (fun _ _ => True) fun _ _ => True.intro
  rw [started]
  have ran := @runCode_agrees H (.unruled program) _ _ _ _ input _ accepted
    (interpreter_unruled accepted fuel _) (interpreter_flows _ fuel) ⟨rfl, rfl⟩
    (fun _ _ => trivial) fits rfl
  exact (ran.ensures fun _ _ lost => lost.1).mono (fun _ _ _ => trivial) fun _ _ => id

/-- A call has none of them, whatever the callers' frames hold. -/
theorem calls_unruled (state : State H) :
    (invokeFunction (.source H) program (interpreter (.source H) program fuel) name arguments
      state).Ensures (fun _ _ => True) fun failure _ => ¬failure.Ruled := by
  have related : (unruled program).Related
      ⟨[], fun _ => True, {}, [], state.locals, state.globals⟩ state state :=
    ⟨⟨rfl, rfl⟩, trivial, by simp [State.extend, unruled], rfl, rfl⟩
  exact ((invokeFunction_unruled accepted (interpreter_unruled accepted fuel)
    (interpreter_flows _ fuel) related).ensures fun _ _ lost => lost.kept).mono
    (fun _ _ _ => trivial) fun _ _ => id

/-- The body of an accepted function, on a frame of its parameters. -/
theorem body_unruled (member : function ∈ program.functions)
    (fits : frame.Fits (fun _ _ => True) (parameterScope function)) (state : State H) :
    ((interpreter (.source H) program fuel).blockFrom function.body 0
      (enterCall (.source H) function frame state)).Ensures (fun _ _ => True)
      fun failure _ => ¬failure.Ruled := by
  let entered : Region H := ⟨[], fun _ => True, function.parameters, [parameterScope function],
    frame :: state.locals, state.globals⟩
  have related : (unruled program).Related entered (enterCall (.source H) function frame state)
      (enterCall (.source H) function frame state) :=
    ⟨⟨rfl, rfl⟩, ⟨fits, trivial⟩, by simp [State.extend, unruled, entered], rfl, rfl⟩
  have inside : entered.Inside program function.body 0 entered :=
    @inside_called H (.unruled program) entered _ accepted member (fun _ _ => trivial) rfl rfl
      nofun
  exact (((interpreter_unruled accepted fuel _).blockFrom rfl inside related).ensures
    fun _ _ lost => lost.kept).mono (fun _ _ _ => trivial) fun _ _ => id

end Runs

/-- Every call of a function that is not void ends with a return, unless it fails or does
not end: no call and no run has the failure of a missing return. -/
theorem calls_return (program : Program H) (accepted : Accepted program) (fuel : Nat) :
    (∀ function ∈ program.functions, function.type ≠ .void →
      ∀ arguments frame (state : State H),
        function.parameters.typedScalars.length = arguments.length →
        bindArguments function.parameters.typedScalars arguments {} = some frame →
        ((interpreter (.source H) program fuel).blockFrom function.body 0
          (enterCall (.source H) function frame state)).Ensures (fun exit _ => exit = .returned)
          fun failure _ => ∀ name, failure ≠ .missingReturn name) ∧
      (∀ name arguments (state : State H),
        (invokeFunction (.source H) program (interpreter (.source H) program fuel) name arguments
          state).Ensures (fun _ _ => True) fun failure _ => ∀ name, failure ≠ .missingReturn name) ∧
      ∀ input, (execute (.source H) program fuel input).Ensures (fun _ _ => True)
        fun failure _ => ∀ name, failure ≠ .missingReturn name := by
  have named : ∀ {failure : Failure}, ¬failure.Ruled → ∀ name, failure ≠ .missingReturn name := by
    rintro failure unruled name rfl
    exact unruled trivial
  refine ⟨?_, ?_, ?_⟩
  · intro function member valued arguments frame state arity bound
    have checked := accepted.function member
    have fits : frame.Fits (fun _ _ => True) (parameterScope function) := checked.bind arity bound
    have ends := (interpreter_flows (.source H) fuel).blockFrom checked.body 0
      (enterCall (.source H) function frame state)
    refine ((body_unruled accepted fuel member fits state).and ends).mono ?_
      fun _ _ => named
    rintro exit after ⟨_, within, ending⟩
    cases exit with
    | returned => rfl
    | breakLoop | continueLoop => exact absurd rfl within
    | normal => exact absurd rfl (ending (ending_start (checked.returns valued)))
  · intro name arguments state
    exact (calls_unruled accepted fuel state).mono (fun _ _ _ => trivial) fun _ _ => named
  · intro input
    exact (execute_unruled accepted fuel input).mono (fun _ _ _ => trivial) fun _ _ => named

/-- A function that adds up the numbers down from its argument by jumping back. -/
def jumpingProgram : Program .sample where
  globals := { typedScalars := [("x", .int)] }
  functions := [⟨"f", .int, { typedScalars := [("i", .int)] },
    [.declaration { typedScalars := [("total", .int)] }, .label "again",
      .assignment (.simple "total")
        (.binary .plus (.variableRef (.simple "total")) (.variableRef (.simple "i"))),
      .assignment (.simple "i") (.binary .minus (.variableRef (.simple "i")) (.literal 1)),
      .goto "again" (some (.binary .less (.literal 0) (.variableRef (.simple "i")))),
      .returnFrom (some (.variableRef (.simple "total")))]⟩]
  code := [.assignment (.simple "x") (.call "f" [.literal 3]), .print [.variableRef (.simple "x")]]
  undeclared := by decide

/-- The run ends, and its one call returned. -/
theorem jumpingProgram_returns :
    (execute (.source .sample) jumpingProgram 40 ([] : List Int)).value? = some () ∧
      (∀ function ∈ jumpingProgram.functions, ∀ frame,
        bindArguments function.parameters.typedScalars [intResult .sample 3] {} = some frame →
        ((interpreter (.source .sample) jumpingProgram 40).blockFrom function.body 0
          (enterCall (.source .sample) function frame (initialState .sample ([] : List Int)))).Ensures
          (fun exit _ => exit = .returned) fun failure _ => ∀ name, failure ≠ .missingReturn name) := by
  refine ⟨by decide +kernel, fun function member frame bound => ?_⟩
  obtain rfl := List.mem_singleton.mp member
  exact (calls_return jumpingProgram (by decide +kernel) 40).1 _ member nofun _ frame _ rfl bound

end ShortHand.Language
