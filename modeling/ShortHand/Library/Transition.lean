import Mathlib.Logic.Basic

/-! Runs of a partial step function, with the guard that a run respects at each step. -/

namespace ShortHand.Library

universe u v

variable {State : Type u} {Action : Type v}

/-- The states that a guarded run of `step` visits from `start`. -/
inductive Reaches (step : State → Action → Option State)
    (guard : State → Action → Prop) (start : State) : State → Prop where
  | start : Reaches step guard start start
  | next {earlier later : State} {action : Action}
      (run : Reaches step guard start earlier)
      (permitted : guard earlier action)
      (taken : step earlier action = some later) :
      Reaches step guard start later

variable {step : State → Action → Option State} {guard : State → Action → Prop}
variable {start state : State}

/-- A property of the start that every permitted step keeps holds of every
state of every run. -/
theorem Reaches.invariant {motive : State → Prop}
    (run : Reaches step guard start state) (initial : motive start)
    (kept : ∀ earlier action later, motive earlier → guard earlier action →
      step earlier action = some later → motive later) :
    motive state := by
  induction run with
  | start => exact initial
  | next _ permitted taken ih => exact kept _ _ _ ih permitted taken

/-- Execute a list of actions; a refused action stops the run. -/
def runAll (step : State → Action → Option State) (start : State) : List Action → Option State
  | [] => some start
  | action :: rest => (step start action).bind fun next => runAll step next rest

theorem Reaches.trans (first : Reaches step guard start middle)
    (second : Reaches step guard middle state) : Reaches step guard start state := by
  induction second with
  | start => exact first
  | next _ permitted taken ih => exact .next ih permitted taken

/-- A successful execution of an action list that checks the guard before each
step is a guarded run. -/
theorem reaches_of_runAll [∀ state action, Decidable (guard state action)]
    (executed : runAll (fun state action => if guard state action then step state action else none)
      start actions = some state) : Reaches step guard start state := by
  induction actions generalizing start with
  | nil =>
    cases executed
    exact .start
  | cons action rest ih =>
    obtain ⟨next, checked, remaining⟩ := Option.bind_eq_some_iff.mp executed
    obtain ⟨permitted, taken⟩ := Option.ite_none_right_eq_some.mp checked
    exact (Reaches.next .start permitted taken).trans (ih remaining)

end ShortHand.Library
