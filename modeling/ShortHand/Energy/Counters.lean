import Mathlib.Algebra.BigOperators.Group.List.Basic
import Mathlib.Algebra.Order.Floor.Semiring
import Mathlib.Data.List.Sort
import Mathlib.Data.Nat.ModEq
import Mathlib.Data.Rat.Floor
import Mathlib.Tactic.Linarith
import ShortHand.Energy.Measurement

/-! The wrapping energy counters of the powercap domains (`PowercapEnergyCollector.cpp`). The walk
over the file system is given by the directories it visits. -/

namespace ShortHand.Energy

open ShortHand.Library List

def counterDelta (start stop : Nat) (range : Option Nat) : Except String Nat := do
  ensure (range.all fun range => !(range = 0 || range ≤ start || range ≤ stop)) "counter_out_of_range"
  if start ≤ stop then return stop - start
  match range with
  | none => throw "counter_wrap_without_range"
  | some range => return (range - start) + stop

/-- A visited directory with a counter: its path, its last component and what its files say. -/
structure DomainFiles where
  id : String
  filename : String
  name : Option (Except String String) := none
  energyUj : Except String Nat
  maxEnergyRangeUj : Option (Except String Nat) := none

structure DomainReading where
  id : String
  name : String
  counterUj : Nat
  rangeUj : Option Nat
  contributes : Bool
  deriving DecidableEq

def readDomain (files : DomainFiles) : Except String DomainReading := do
  let name ← files.name.getD (.ok files.filename)
  let counterUj ← files.energyUj
  let rangeUj ← files.maxEnergyRangeUj.mapM id
  let _ ← counterDelta counterUj counterUj rangeUj
  return {
    id := files.id
    name
    counterUj
    rangeUj
    contributes := "package-".toList.isPrefixOf name.toList }

def readDomains (visited : Except String (List DomainFiles)) : Except String (List DomainReading) := do
  let out := (← (← visited).mapM readDomain).insertionSort (fun x y => x.id ≤ y.id)
  let packages := (out.filter (·.contributes)).map (·.name)
  ensure packages.Nodup "overlapping_package_domains"
  ensure (!packages.isEmpty) "no_cpu_package_energy_domains"
  return out

structure EnergySample (K : Type) where
  available : Bool := false
  reason : String := "telemetry_unavailable"
  unixSeconds : K
  monotonic : K
  domains : List DomainReading := []

/-- The clocks are read before the domains. -/
def beginSample {K : Type} (unixSeconds monotonic : K) (visited : Except String (List DomainFiles)) :
    EnergySample K :=
  match readDomains visited with
  | .ok domains => { available := true, reason := "counter_sampled", unixSeconds, monotonic, domains }
  | .error reason => { unixSeconds, monotonic, reason }

section Collector

variable {K : Type} [Field K] [LinearOrder K] (instrument : Instrument K) (evidenceClass : EvidenceClass)

/-- One round of the loop of `end` over the domains of both samples. -/
def addDomain (elapsed joules : K) (pair : DomainReading × DomainReading) : Except String K := do
  let (x, y) := pair
  ensure (!(x.id ≠ y.id || x.name ≠ y.name || x.rangeUj ≠ y.rangeUj || x.contributes ≠ y.contributes))
    "powercap_domains_changed"
  let j := (← counterDelta x.counterUj y.counterUj x.rangeUj) / (1000000 : K)
  if x.contributes then
    ensure (!(evidenceClass = .measured && (x.rangeUj.all fun range : Nat =>
        instrument.maximumPowerW ≤ 0 ||
          (range : K) / 1000000 ≤ elapsed * instrument.maximumPowerW)))
      "counter_wrap_interval_unqualified"
    ensure (!(0 < instrument.maximumPowerW && elapsed * instrument.maximumPowerW < j))
      "counter_delta_exceeds_validated_power_bound"
    return joules + j
  return joules

def totalJoules (elapsed : K) (a b : List DomainReading) : Except String K := do
  ensure (a.length = b.length) "powercap_domains_changed"
  (a.zip b).foldlM (addDomain instrument evidenceClass elapsed) 0

/-- `end`, with the sample `b` that it takes itself. -/
def endSample (a b : EnergySample K) (count : Nat) : Except String (EnergyMeasurement K) := do
  ensure (count ≠ 0) "invalid_functional_units"
  let m : EnergyMeasurement K := {
    sourceKind := "rapl"
    instrument := instrument
    startUnixSeconds := a.unixSeconds
    endUnixSeconds := b.unixSeconds
    elapsedSeconds := b.monotonic - a.monotonic
    functionalUnits := count
    reason := if !a.available then a.reason else b.reason
    joules := 0
    averageWatts := 0
    joulesPerFu := 0 }
  if !a.available || !b.available then return m
  match (do
    let joules ← totalJoules instrument evidenceClass m.elapsedSeconds a.domains b.domains
    normalize { m with joules } count) with
  | .ok normalized => return { normalized with
      available := true
      evidenceClass := evidenceClass
      reason := "package_energy_not_process_attributed" }
  | .error reason => return { m with reason }

end Collector

/-- The true microjoules of each domain at each time; they never decrease. -/
structure Hardware (K : Type) [Preorder K] where
  total : String → K → Nat
  monotone : ∀ id, Monotone (total id)

variable {K : Type} [Field K] [LinearOrder K] [IsStrictOrderedRing K] {hardware : Hardware K}

/-- The counters of the visited directories, each read at its own time, wrap at their ranges. -/
def Hardware.Shows (hardware : Hardware K) (time : String → K)
    (visited : Except String (List DomainFiles)) : Prop :=
  ∀ listed, visited = .ok listed → ∀ files ∈ listed, ∀ counter range, files.energyUj = .ok counter →
    files.maxEnergyRangeUj = some (.ok range) →
      counter = hardware.total files.id (time files.id) % range

/-- The microjoules of a domain between its two readings. -/
def Hardware.spent (hardware : Hardware K) (first second : String → K) (d : DomainReading) : Nat :=
  hardware.total d.id (second d.id) - hardware.total d.id (first d.id)

def Hardware.joules (hardware : Hardware K) (first second : String → K)
    (domains : List DomainReading) : K :=
  ((domains.filter (·.contributes)).map fun d => (hardware.spent first second d : K) / 1000000).sum

/-- A counter that wraps at `range` counts modulo `range`. -/
theorem counterDelta_mod {before after range delta : Nat} (ordered : before ≤ after)
    (counted : counterDelta (before % range) (after % range) (some range) = .ok delta) :
    0 < range ∧ delta = (after - before) % range := by
  simp only [counterDelta, check_eq_ok, ensure_eq_ok, Option.all_some, Bool.not_eq_true',
    Bool.or_eq_false_iff, decide_eq_false_iff_not] at counted
  obtain ⟨⟨⟨_, startBelow⟩, stopBelow⟩, counted⟩ := counted
  have reached : before % range + delta = after % range + 0 * range ∧ delta < range ∨
      before % range + delta = after % range + 1 * range ∧ delta < range := by
    split at counted <;> cases counted <;> omega
  have congruent : before + delta ≡ before + (after - before) [MOD range] := by
    rw [Nat.add_sub_cancel' ordered]
    calc before + delta ≡ before % range + delta [MOD range] := (Nat.mod_modEq _ _).symm.add_right _
      _ ≡ after % range [MOD range] := by
        rcases reached with ⟨same, _⟩ | ⟨same, _⟩ <;> rw [same] <;> simp [Nat.ModEq]
      _ ≡ after [MOD range] := Nat.mod_modEq _ _
  have same := Nat.ModEq.add_left_cancel' before congruent
  rw [Nat.ModEq, Nat.mod_eq_of_lt (reached.elim And.right And.right)] at same
  exact ⟨by omega, same⟩

section Sums

variable {instrument : Instrument K} {elapsed : K} {first second : String → K}

/-- A reading of the hardware at a domain's own time. -/
def Hardware.Gives (hardware : Hardware K) (time : String → K) (d : DomainReading) : Prop :=
  ∀ range, d.rangeUj = some range → d.counterUj = hardware.total d.id (time d.id) % range

/-- What a contributing domain adds, and what it has passed. -/
theorem addDomain_eq_ok {joules next : K} {x y : DomainReading} (ordered : ∀ id, first id ≤ second id)
    (reads : hardware.Gives first x) (reads' : hardware.Gives second y)
    (added : addDomain instrument .measured elapsed joules (x, y) = .ok next) :
    if x.contributes then ∃ range, x.rangeUj = some range ∧ 0 < range ∧
        0 < instrument.maximumPowerW ∧ elapsed * instrument.maximumPowerW < range / 1000000 ∧
        next = joules + (hardware.spent first second x % range : Nat) / 1000000
      else next = joules := by
  simp only [addDomain, ensure_eq_ok, bind_eq_ok] at added
  obtain ⟨_, same, delta, counted, added⟩ := added
  split at added
  · rename_i contributes
    rw [if_pos contributes]
    rw [check_eq_ok, check_eq_ok, ensure_eq_ok] at added
    obtain ⟨qualified, _, added⟩ := added
    cases added
    cases ranged : x.rangeUj with
    | none => simp [ranged] at qualified
    | some range =>
      simp only [Bool.not_eq_true', Bool.or_eq_false_iff, decide_eq_false_iff_not, not_not] at same
      have reading := reads' range (same.1.2 ▸ ranged)
      rw [← same.1.1.1] at reading
      rw [ranged, reads range ranged, reading] at counted
      obtain ⟨positive, rfl⟩ := counterDelta_mod (hardware.monotone _ (ordered _)) counted
      simp only [ranged, decide_true, Bool.true_and, Option.all_some, Bool.not_eq_true',
        Bool.or_eq_false_iff, decide_eq_false_iff_not, not_le] at qualified
      exact ⟨range, rfl, positive, qualified.1, qualified.2, rfl⟩
  · rename_i idle
    cases added
    rw [if_neg idle]

/-- The sum is at most the true energy, and it is the true energy exactly if no contributing
domain has wrapped unseen. -/
theorem foldlM_addDomain {start joules : K}
    (reads : ∀ d ∈ a, hardware.Gives first d) (reads' : ∀ d ∈ b, hardware.Gives second d)
    (ordered : ∀ id, first id ≤ second id) (lengths : a.length = b.length)
    (done : (a.zip b).foldlM (addDomain instrument .measured elapsed) start = .ok joules) :
    joules ≤ start + hardware.joules first second a ∧
    (joules = start + hardware.joules first second a ↔ ∀ d ∈ a, d.contributes →
      ∀ range, d.rangeUj = some range → hardware.spent first second d < range) ∧
    ∀ d ∈ a, d.contributes → ∀ range, d.rangeUj = some range →
      0 < instrument.maximumPowerW ∧ elapsed * instrument.maximumPowerW < range / 1000000 := by
  induction a generalizing b start with
  | nil =>
    cases done
    simp [Hardware.joules]
  | cons x a ih =>
    cases b with
    | nil => cases lengths
    | cons y b =>
      obtain ⟨next, added, done⟩ := bind_eq_ok.mp done
      rw [forall_mem_cons] at reads reads'
      obtain ⟨below, exact, passed⟩ := ih reads.2 reads'.2 (Nat.succ.inj lengths) done
      have one := addDomain_eq_ok ordered reads.1 reads'.1 added
      split at one
      · rename_i contributes
        obtain ⟨range, ranged, positive, powered, fits, rfl⟩ := one
        have split : hardware.joules first second (x :: a) =
            hardware.spent first second x / 1000000 + hardware.joules first second a := by
          simp [Hardware.joules, contributes]
        have least : ((hardware.spent first second x % range : Nat) : K) / 1000000 ≤
            hardware.spent first second x / 1000000 := by
          gcongr
          exact Nat.mod_le _ _
        simp only [split, forall_mem_cons, contributes, forall_const, ranged, Option.some.injEq,
          forall_eq']
        refine ⟨by linarith, ⟨fun equal => ?_, fun ⟨within, others⟩ => ?_⟩, ⟨powered, fits⟩, passed⟩
        · have unwrapped : hardware.spent first second x ≤ hardware.spent first second x % range := by
            have cast : (hardware.spent first second x : K) / 1000000 ≤
                (hardware.spent first second x % range : Nat) / 1000000 := by linarith
            exact_mod_cast (div_le_div_iff_of_pos_right (by norm_num)).mp cast
          exact ⟨unwrapped.trans_lt (Nat.mod_lt _ positive), exact.mp (by linarith)⟩
        · rw [Nat.mod_eq_of_lt within] at exact
          rw [exact.mpr others, add_assoc]
      · rename_i idle
        subst one
        simpa [Hardware.joules, idle] using ⟨below, exact, passed⟩

end Sums

@[simp] theorem beginSample_monotonic {unix monotonic : K}
    {visited : Except String (List DomainFiles)} :
    (beginSample unix monotonic visited).monotonic = monotonic := by
  unfold beginSample
  split <;> rfl

theorem Hardware.Shows.gives {unix monotonic : K} (shown : hardware.Shows time visited) :
    ∀ d ∈ (beginSample unix monotonic visited).domains, hardware.Gives time d := by
  unfold beginSample
  split
  · rename_i domains read
    simp only [readDomains, bind_eq_ok] at read
    obtain ⟨listed, found, out, all, _, _, _, _, done⟩ := read
    cases done
    have each : ∀ d ∈ out, hardware.Gives time d := by
      refine mapM_eq_ok (fun files inside d made range ranged => ?_) all
      simp only [readDomain, bind_eq_ok] at made
      obtain ⟨name, _, counter, energy, limit, limits, _, _, made⟩ := made
      cases made
      refine shown listed found files inside counter range energy ?_
      cases limited : files.maxEnergyRangeUj with
      | none =>
        rw [limited] at limits
        cases limits
        cases ranged
      | some value =>
        rw [limited] at limits
        cases value with
        | error reason => cases limits
        | ok value =>
          cases limits
          cases ranged
          rfl
    exact fun d member => each d ((mem_insertionSort _).mp member)
  · nofun

/-- An available measurement is exact exactly if no contributing domain spent its whole range
between its two readings; within the power bound, it is so if the readings of each domain are no
further apart than those of the clock. -/
theorem endSample_exact_iff {instrument : Instrument K} {evidenceClass : EvidenceClass}
    {first second : String → K} {visited visited' : Except String (List DomainFiles)}
    {unix monotonic unix' monotonic' : K} {count : Nat} {m : EnergyMeasurement K}
    (shown : hardware.Shows first visited) (shown' : hardware.Shows second visited')
    (ordered : ∀ id, first id ≤ second id)
    (done : endSample instrument evidenceClass (beginSample unix monotonic visited)
      (beginSample unix' monotonic' visited') count = .ok m)
    (available : m.available = true) (measured : m.evidenceClass = .measured) :
    (m.joules = hardware.joules first second (beginSample unix monotonic visited).domains ↔
      ∀ d ∈ (beginSample unix monotonic visited).domains, d.contributes →
        ∀ range, d.rangeUj = some range → hardware.spent first second d < range) ∧
    ((∀ d ∈ (beginSample unix monotonic visited).domains, d.contributes →
        (hardware.spent first second d : K) / 1000000 ≤
          instrument.maximumPowerW * (second d.id - first d.id) ∧
        second d.id - first d.id ≤ monotonic' - monotonic) →
      m.joules = hardware.joules first second (beginSample unix monotonic visited).domains) := by
  simp only [endSample, check_eq_ok, ensure_eq_ok] at done
  obtain ⟨_, done⟩ := done
  split at done
  · cases done
    cases available
  split at done
  · rename_i normalized read
    cases done
    obtain ⟨joules, summed, made⟩ := bind_eq_ok.mp read
    cases measured
    simp only [normalize, check_eq_ok, ensure_eq_ok] at made
    obtain ⟨_, _, made⟩ := made
    obtain rfl := Except.ok.inj made
    simp only [totalJoules, check_eq_ok, ensure_eq_ok, decide_eq_true_eq] at summed
    obtain ⟨lengths, summed⟩ := summed
    obtain ⟨_, exact, passed⟩ := foldlM_addDomain shown.gives shown'.gives ordered lengths summed
    rw [zero_add] at exact
    refine ⟨exact, fun within => exact.mpr fun d member contributes range ranged => ?_⟩
    obtain ⟨bounded, near⟩ := within d member contributes
    obtain ⟨powered, fits⟩ := passed d member contributes range ranged
    have small : (hardware.spent first second d : K) / 1000000 < range / 1000000 :=
      calc _ ≤ instrument.maximumPowerW * (second d.id - first d.id) := bounded
        _ ≤ instrument.maximumPowerW * (monotonic' - monotonic) :=
          mul_le_mul_of_nonneg_left near powered.le
        _ < range / 1000000 := by simpa [mul_comm] using fits
    exact_mod_cast (div_lt_div_iff_of_pos_right (by norm_num)).mp small
  · cases done
    cases available

/-- A package that draws ten watts from the beginning on. -/
def steadyHardware : Hardware ℚ where
  total _ t := ⌊10000000 * t⌋₊
  monotone _ _ _ earlier := Nat.floor_mono (mul_le_mul_of_nonneg_left earlier (by norm_num))

def samplePackage (counter : Nat) : Except String (List DomainFiles) :=
  .ok [{
    id := "/sys/devices/virtual/powercap/intel-rapl/intel-rapl:0"
    filename := "intel-rapl:0"
    name := some (.ok "package-0")
    energyUj := .ok counter
    maxEnergyRangeUj := some (.ok 100000000) }]

theorem samplePackage_domains :
    (beginSample (1750000000 : ℚ) 0 (samplePackage 0)).domains = [{
      id := "/sys/devices/virtual/powercap/intel-rapl/intel-rapl:0"
      name := "package-0"
      counterUj := 0
      rangeUj := some 100000000
      contributes := true }] := by
  decide +kernel

theorem steadyHardware_shows {counter : Nat}
    (shown : ∀ id, counter = ⌊10000000 * time id⌋₊ % 100000000) :
    steadyHardware.Shows time (samplePackage counter) := by
  intro listed found files inside other range energy limit
  cases found
  cases mem_singleton.mp inside
  cases energy
  cases limit
  exact shown _

/-- The end of an interval of nine seconds at ten watts, with this counter at its end. -/
def sampleEnd (counter : Nat) : Except String (EnergyMeasurement ℚ) :=
  endSample { maximumPowerW := 10 } .measured (beginSample 1750000000 0 (samplePackage 0))
    (beginSample 1750000009 9 (samplePackage counter)) 1

theorem endSample_exact_prompt : ∃ m, sampleEnd 90000000 = .ok m ∧
    m.joules = steadyHardware.joules (fun _ => 0) (fun _ => 9)
      (beginSample 1750000000 0 (samplePackage 0)).domains := by
  have accepted : (sampleEnd 90000000).map (fun m => (m.available, m.evidenceClass)) =
      .ok (true, .measured) := by decide +kernel
  obtain ⟨m, done, facts⟩ := map_eq_ok.mp accepted
  obtain ⟨available, measured⟩ := Prod.mk.inj facts
  refine ⟨m, done, (endSample_exact_iff (steadyHardware_shows ?_) (steadyHardware_shows ?_) ?_ done
    available measured).1.mpr ?_⟩
  · norm_num
  · norm_num
  · norm_num
  · rw [samplePackage_domains]
    norm_num [Hardware.spent, steadyHardware]

/-- The clock is read after nine seconds and the counter after ten: it has wrapped, the bounds of
nine seconds do not show it, and a hundred joules are reported as none. -/
theorem endSample_late_reading : steadyHardware.Shows (fun _ => 0) (samplePackage 0) ∧
    steadyHardware.Shows (fun _ => 10) (samplePackage 0) ∧
    (sampleEnd 0).map (fun m => (m.available, m.evidenceClass, m.joules)) =
      .ok (true, .measured, 0) ∧
    steadyHardware.joules (fun _ => 0) (fun _ => 10)
      (beginSample (1750000000 : ℚ) 0 (samplePackage 0)).domains = 100 := by
  refine ⟨steadyHardware_shows (by norm_num), steadyHardware_shows (by norm_num), by decide +kernel, ?_⟩
  rw [samplePackage_domains]
  norm_num [Hardware.joules, Hardware.spent, steadyHardware]

end ShortHand.Energy
