import Mathlib.Logic.Relation
import ShortHand.Language.Agreement

/-! What a call takes from its caller: the caller's frames are on the stack that the callee
searches. -/

namespace ShortHand.Language

open ShortHand.Library List

variable {H : Host}

namespace Program

variable (program : Program H)

def Calls (caller callee : String) : Prop :=
  ∃ function, program.findFunction caller = some function ∧ Mention.call callee ∈ function.mentions

/-- What a call of `name` can need from outside, with all calls below it. -/
def Needs (name : String) : Mention → Prop
  | .call callee => Relation.ReflTransGen program.Calls name callee
  | .global reference => ∃ callee function, Relation.ReflTransGen program.Calls name callee ∧
    program.findFunction callee = some function ∧ Mention.global reference ∈ function.mentions

variable {program}

theorem Needs.of_call (called : program.Needs name (.call callee))
    (found : program.findFunction callee = some function) (member : mention ∈ function.mentions) :
    program.Needs name mention := by
  cases mention with
  | call further => exact called.tail ⟨function, found, member⟩
  | global reference => exact ⟨callee, function, called, found, member⟩

end Program

variable {program : Program H} {name : String}

/-- Two states that differ in the frames above the global one at most. -/
def SameBut (first second : List (Frame H)) (state other : State H) : Prop :=
  state.locals = first ∧ other.locals = second ∧ { state with locals := second } = other

/-- Runs below a fixed stack of callers. -/
def Scene.below (program : Program H) (name : String) (frames : List (Frame H))
    (clear : Clear frames (program.Needs name)) : Scene H where
  program := program
  worlds callers allowed := callers = frames ∧ allowed = program.Needs name
  clear world := world.1 ▸ world.2 ▸ clear
  disregarded _ := False
  kept := True
  fails _ _ := .inl trivial

/-- A call on top of frames that bind no name it needs, against the same call on
top of none. -/
theorem invokeFunction_extend (accepted : Accepted program)
    (clear : Clear frames (program.Needs name)) (fuel : Nat) (state : State H) :
    (invokeFunction (.source H) program (interpreter (.source H) program fuel) name arguments
      { state with locals := frames }).Agree (fun _ => False)
      (fun _ first second => first = { second with locals := frames })
      (fun first second => first = { second with locals := frames })
      (invokeFunction (.source H) program (interpreter (.source H) program fuel) name arguments
        { state with locals := [] }) := by
  let scene := Scene.below program name frames clear
  have invoke : ∀ {first second : Visitor H}, (∀ base, scene.simulation.Visits base first second) →
      Flows program second → ∀ {region callee arguments state other},
      region.allowed (.call callee) → scene.Related region state other →
      scene.simulation.Agrees region (fun _ => True)
        (invokeFunction (.source H) program first callee arguments state)
        (invokeFunction (.source H) program second callee arguments other) := by
    intro first second visits flows region callee arguments state other called related
    refine Scene.invokeFunction_source accepted (fun refusal => Bool.false_ne_true refusal) ?_
      (fun _ => visits _) flows related
    intro function found mention member
    rw [related.world.2] at called ⊢
    exact Program.Needs.of_call called found member
  let region : Region H := ⟨frames, program.Needs name, {}, [], [], state.globals⟩
  have related : scene.Related region { state with locals := frames } { state with locals := [] } :=
    ⟨⟨rfl, rfl⟩, trivial, by simp [State.extend, scene, Scene.below, region], rfl, rfl⟩
  have bottom : ∀ {first second : State H}, first = second.extend frames [] →
      second.locals.length = 0 → first = { second with locals := frames } := by
    rintro _ second rfl none
    simp [State.extend, eq_nil_of_length_eq_zero none]
  refine (invoke (Scene.interpreter_visits invoke fuel) (interpreter_flows _ fuel)
    Relation.ReflTransGen.refl related).mono ?_ ?_
  · rintro _ _ _ ⟨_, kept⟩
    exact bottom kept.same (by simpa [shapes, region] using congrArg length kept.frames)
  · rintro _ _ lost
    exact bottom lost.same lost.continues.1

def counterFunction : Function .sample :=
  ⟨"f", .int, {}, [.returnFrom (some (.variableRef (.simple "x")))]⟩

/-- A global counter `x` and a function that returns it. -/
def counterProgram : Program .sample where
  globals := { typedScalars := [("x", .int)] }
  functions := [counterFunction]
  code := []
  undeclared := undeclared_nil

def counterState (callers : List (Frame .sample)) : State .sample where
  globals := ({} : Frame .sample).setScalar "x" (intResult .sample 0)
  locals := callers
  input := ([] : List Int)
  returnValue := defaultValue .sample .int
  ai := ()

/-- A caller's frame with one integer. -/
def integerFrame (name : String) : Frame .sample := ({} : Frame .sample).setScalar name (intResult .sample 1)

theorem counterProgram_needs (frames : List (Frame .sample))
    (clear : frames.any (·.binds ⟨"x", false⟩) = false) :
    Clear frames (counterProgram.Needs "f") := by
  have found : counterProgram.findFunction "f" = some counterFunction := rfl
  have mentions : counterFunction.mentions = [.global ⟨"x", false⟩] := by decide +kernel
  rintro reference ⟨callee, function, reached, here, member⟩
  rcases reached.cases_head with rfl | ⟨next, ⟨caller, called, call⟩, _⟩
  · cases found.symm.trans here
    rw [mentions, mem_singleton] at member
    cases member
    exact clear
  · cases found.symm.trans called
    rw [mentions, mem_singleton] at call
    cases call

end ShortHand.Language
