import Mathlib.Algebra.Order.Field.Basic
import ShortHand.Library.Outcome

/-! Energy measurements (`EnergyMeasurement.cpp`) in exact arithmetic: a `double` is an element
of an ordered field `K`, so it is always finite. -/

namespace ShortHand.Energy

open ShortHand.Library

variable {K : Type}

inductive EvidenceClass where
  | unavailable
  | measured
  | syntheticTest
  | estimate
  deriving DecidableEq, Repr

structure Instrument (K : Type) where
  id : String := ""
  calibrationId : String := ""
  calibrationDate : String := ""
  validationRef : String := ""
  boundary : String := "cpu_packages"
  isolation : String := "concurrent workload state unknown"
  uncertaintyPercent : Option K := none
  maximumPowerW : K

structure EnergyMeasurement (K : Type) where
  available : Bool := false
  evidenceClass : EvidenceClass := .unavailable
  sourceKind : String := "unavailable"
  reason : String := "telemetry_unavailable"
  instrument : Instrument K
  startUnixSeconds : K
  endUnixSeconds : K
  elapsedSeconds : K
  joules : K
  averageWatts : K
  joulesPerFu : K
  functionalUnits : Nat := 0

/-- `2^53`. -/
def kMaxFunctionalUnits : Nat := 9007199254740992

section Checks

variable [Field K] [LinearOrder K]

def normalize (m : EnergyMeasurement K) (count : Nat) : Except String (EnergyMeasurement K) := do
  ensure (!(count = 0 || kMaxFunctionalUnits < count)) "invalid_functional_units"
  ensure (!(m.elapsedSeconds ≤ 0 || m.joules < 0)) "invalid_energy_or_elapsed_time"
  return { m with
    functionalUnits := count
    joulesPerFu := m.joules / count
    averageWatts := m.joules / m.elapsedSeconds }

end Checks

end ShortHand.Energy
