import ShortHand.Language.Comparison

/-! Booleans as numbers. Two steps can make one other than 0 and 1: a read, and a minus of which
the analyzer knows no type. -/

namespace ShortHand.Language

open ShortHand.Library

variable {H : Host}

def RuntimeValue.Canonical (value : RuntimeValue H) : Prop :=
  value.type = .boolean → value.intValue = 0 ∨ value.intValue = 1

instance (value : RuntimeValue H) : Decidable value.Canonical :=
  inferInstanceAs (Decidable (_ → _))

/-- The check of the two steps: a read stores 0 or 1 in a boolean, and a minus does not
get a boolean that is 1. -/
def booleanSteps (H : Host) : Watch H where
  negated value := decide (value.type = .boolean → value.intValue = 0)
  scanned value := decide value.Canonical

open Classical in
/-- The check of every state and every value. -/
noncomputable def booleanStates (H : Host) : Watch H :=
  { booleanSteps H with
    state := fun state => decide (state.Holds RuntimeValue.Canonical)
    value := fun value => decide value.Canonical }

theorem canonical_made : MadeGood (RuntimeValue.Canonical (H := H)) where
  default _ _ := .inl rfl
  int _ := nofun
  bool value _ := by
    cases value with
    | false => exact .inl rfl
    | true => exact .inr rfl
  float _ := nofun
  string _ := nofun

/-- The steps being in order, the states and values are. -/
theorem booleanStates_alike :
    WatchesAlike (fun _ => False) RuntimeValue.Canonical (booleanStates H) (booleanSteps H) where
  state holds := .inl (@decide_eq_true _ (Classical.propDecidable _) holds)
  block _ := .inl rfl
  value fine := .inl (decide_eq_true fine)
  negated _ := .inl rfl
  scanned _ := .inl rfl
  negates {value} _ passed := by
    have zero := of_decide_eq_true passed
    intro type
    unfold applyMinus at type ⊢
    split at type
    · rename_i float
      rw [float] at type
      cases type
    · left
      rw [zero type]
      rfl
  scans passed := of_decide_eq_true passed

/-- A watch with fewer checks goes further. -/
theorem booleanSteps_alike :
    WatchesAlike (· = .hidden "") (fun _ => True) (booleanSteps H) {} where
  state _ := .inl rfl
  block _ := .inl rfl
  value _ := .inl rfl
  negated {value} _ := by
    cases passed : (booleanSteps H).negated value with
    | true => exact .inl rfl
    | false => exact .inr ⟨rfl, rfl⟩
  scanned value := by
    cases passed : (booleanSteps H).scanned value with
    | true => exact .inl rfl
    | false => exact .inr ⟨rfl, rfl⟩
  negates _ _ := trivial
  scans _ := trivial

def printed : Outcome (State H) Failure Unit → List String
  | .ok _ state | .failed _ state => state.output
  | .exhausted => []

/-- The type and number of a global scalar at the end of a run. -/
def storedScalar (name : String) : Outcome (State H) Failure Unit → Option (ShortType × IntValue)
  | .ok _ state => (state.globals.scalars name).map fun value => (value.type, value.intValue)
  | _ => none

def readingProgram : Program .sample where
  globals := { typedScalars := [("b", .boolean)] }
  functions := []
  code := [.read [.simple "b"], .print [.variableRef (.simple "b")]]
  undeclared := by decide

/-- `x` is an integer for `f`, and a boolean in the block that calls it. -/
def negatingProgram : Program .sample where
  globals := { typedScalars := [("x", .int)] }
  functions := [⟨"f", .void, {},
    [.assignment (.simple "x") (.unaryMinus (.variableRef (.simple "x")))]⟩]
  code := [.block [.declaration { typedScalars := [("x", .boolean)] },
    .assignment (.simple "x") (.boolLiteral true), .expression (.call "f" []),
    .print [.variableRef (.simple "x")]]]
  undeclared := by decide

end ShortHand.Language
