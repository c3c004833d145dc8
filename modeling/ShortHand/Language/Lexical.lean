import ShortHand.Language.Noninterference

/-! Lexical scope as a linkage. The source's agrees with it in runs in which no call hides a
global name that the callee mentions. -/

namespace ShortHand.Language

open ShortHand.Library Scene

variable {H : Host} {program : Program H}

/-- A callee starts on an empty stack and the caller's frames come back afterwards. -/
def Linkage.lexical (H : Host) : Linkage H where
  refuses _ _ := false
  enter _ := []
  leave before _ := before

/-- Some frame above the global one binds a name that the function takes from the
globals. -/
def hides (function : Function H) (state : State H) : Bool :=
  function.mentions.any fun
    | .global reference => state.locals.any (·.binds reference)
    | .call _ => false

/-- The source's linkage, stopped at the first call that hides a name. -/
def Linkage.checked (H : Host) : Linkage H := .guarded hides

def Failure.IsHidden : Failure → Prop
  | .hidden _ => True
  | _ => False

theorem clear_of_not_hides (visible : hides function state = false) :
    Clear state.locals (· ∈ function.mentions) := by
  intro reference member
  have each := List.any_eq_false.mp visible _ member
  simpa using each

/-- Runs that stop where a call hides a name. -/
def Scene.checked (program : Program H) (worlds : List (Frame H) → (Mention → Prop) → Prop)
    (clear : ∀ {callers allowed}, worlds callers allowed → Clear callers allowed) : Scene H where
  program := program
  worlds := worlds
  clear := clear
  disregarded := Failure.IsHidden
  kept := True
  fails _ _ := .inl trivial

/-- A call that hides no name, against the call on a stack of its own. -/
theorem invokeFunction_lexical (accepted : Accepted program)
    (visits : ∀ base, (checked program Clear id).simulation.Visits base first second)
    (flows : Flows program second)
    (related : (checked program Clear id).Related region state other) :
    (checked program Clear id).simulation.Agrees region (fun _ => True)
      (invokeFunction (.checked H) program first name arguments state)
      (invokeFunction (.lexical H) program second name arguments other) := by
  refine invokeFunction_agrees accepted related (fun _ _ => trivial) (fun _ => rfl) ?_
  intro function frame found checked fits visible
  have same := related.same
  subst same
  let entered : Region H := ⟨other.locals ++ region.callers, (· ∈ function.mentions),
    function.parameters, [parameterScope function], [frame], other.globals⟩
  refine activate_agrees entered (visits _) flows checked
    (inside_called accepted (Program.findFunction_mem found).1 (fun _ => id) rfl rfl nofun)
    related ?_ ?_ rfl
  · exact ⟨clear_of_not_hides visible, ⟨fits, trivial⟩, rfl, rfl, rfl⟩
  rintro after ⟨length, _⟩
  refine ⟨?_, related.frames⟩
  rcases after with ⟨_, _ | ⟨first, _ | ⟨next, rest⟩⟩⟩
  · cases length
  · rfl
  · cases length

/-- Whole programs agree when the statements of the main program do. -/
theorem execute_agrees {worlds : List (Frame H) → (Mention → Prop) → Prop}
    {clear : ∀ {callers allowed}, worlds callers allowed → Clear callers allowed}
    {allowed : Mention → Prop} (accepted : Accepted program)
    (visits : (checked program worlds clear).simulation.Visits program.globals
      (interpreter linkage program fuel) (interpreter beside program fuel))
    (world : worlds [] allowed)
    (mentions : ∀ mention ∈ Stmt.mentionsAll [fun _ => none] program.code, allowed mention) :
    (execute linkage program fuel input).Agree Failure.IsHidden (fun _ => Eq) Eq
      (execute beside program fuel input) := by
  obtain ⟨globals, fits, started⟩ := accepted.start (fun _ _ => True) fun _ _ => True.intro
  rw [started, started]
  exact (runCode_agrees accepted visits (interpreter_flows beside fuel) world mentions fits
    rfl).mono (fun _ _ _ => id) fun _ _ => And.right

/-- Every call of the run is made where no frame above the global one binds a name
that the callee takes from the globals. -/
def Unhidden (program : Program H) (fuel : Nat) (input : H.Input) : Prop :=
  ∀ name state, execute (.checked H) program fuel input ≠ .failed (.hidden name) state

section Runs

variable (accepted : Accepted program) (fuel : Nat) (input : H.Input)
include accepted

/-- A run without a hidden name is a run of the source. -/
theorem execute_checked_source :
    (execute (.checked H) program fuel input).Agree Failure.IsHidden (fun _ => Eq) Eq
      (execute (.source H) program fuel input) := by
  let worlds : List (Frame H) → (Mention → Prop) → Prop := fun callers allowed =>
    callers = [] ∧ allowed = fun _ => True
  have clear : ∀ {callers allowed}, worlds callers allowed → Clear callers allowed := by
    rintro _ _ ⟨rfl, rfl⟩ reference _
    rfl
  refine execute_agrees accepted (@interpreter_visits H (.checked program worlds clear) _ _
    ?_ fuel _) ⟨rfl, rfl⟩ fun _ _ => trivial
  intro first second visits flows region name arguments state other _ related
  refine invokeFunction_source accepted (fun _ => trivial) ?_ (fun _ => visits _) flows related
  intro function _ mention _
  rw [related.world.2]
  trivial

/-- A run without a hidden name is a run with lexical scope. -/
theorem execute_checked_lexical :
    (execute (.checked H) program fuel input).Agree Failure.IsHidden (fun _ => Eq) Eq
      (execute (.lexical H) program fuel input) :=
  execute_agrees accepted (@interpreter_visits H (.checked program Clear id) _ _
    (fun visits flows _ _ _ _ _ _ related => invokeFunction_lexical accepted visits flows related)
    fuel _) (fun _ _ => rfl) fun _ member => member

/-- Without hidden names the source's dynamic scope is lexical scope. -/
theorem execute_source_eq_lexical (unhidden : Unhidden program fuel input) :
    execute (.source H) program fuel input = execute (.lexical H) program fuel input := by
  have regarded : ∀ error state, execute (.checked H) program fuel input = .failed error state →
      ¬error.IsHidden := by
    intro error state failed hidden
    cases error <;> first | exact unhidden _ _ failed | exact hidden
  rw [← (execute_checked_source accepted fuel input).eq regarded,
    (execute_checked_lexical accepted fuel input).eq regarded]

end Runs

end ShortHand.Language
