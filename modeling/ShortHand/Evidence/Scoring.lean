import Mathlib.Data.Fin.VecNotation
import Mathlib.Data.Rat.Defs
import ShortHand.Evidence.Statements

/-! The candidate assessment (`C3EcoAssessmentScoring.cpp`, `assessDirectory`). Blocked claims
fail a gate, which is decided upon again. The files are taken as loaded. -/

namespace ShortHand.Evidence.Scoring

open List

/-- The `double` operations of the scoring; nothing is assumed of them. -/
structure Arithmetic where
  Double : Type
  literal : Rat → Double
  add : Double → Double → Double
  sub : Double → Double → Double
  mul : Double → Double → Double
  div : Double → Double → Double
  abs : Double → Double
  less : Double → Double → Bool
  lessEqual : Double → Double → Bool

inductive Domain where
  | A | B | C | D | E | F | G | H | I | J | K
  deriving DecidableEq, Repr

namespace Domain

def all : List Domain := [.A, .B, .C, .D, .E, .F, .G, .H, .I, .J, .K]

def normativeWeight : Domain → Rat
  | .A | .B | .C | .D => 12
  | .E | .K => 8
  | .F | .G => 10
  | .H | .I => 6
  | .J => 4

end Domain

/-- The fields of the metadata that the scoring reads. -/
structure Metadata (A : Arithmetic) where
  measurementQuality : Int := 0
  dataQuality : Int := 0
  uncertaintyPercent : A.Double
  penaltyPoints : A.Double
  aiInScope : Bool := false
  aiRole : Bytes := []
  trainingBoundaryDeclared : Bool := false
  inferenceBoundaryDeclared : Bool := false
  tokenOrInferenceMetricDeclared : Bool := false
  aiExclusionsDeclared : Bool := false
  qualityEnergyFrontierOptions : Int := 0
  ecoRegressionControlDefined : Bool := false
  independentReview : Bool := false
  publicReport : Bool := false
  continuousTelemetry : Bool := false
  publicEvidence : Bool := false
  highSeverityClaimRisk : Bool := false

structure Gate where
  inputPass : Bool
  effectivePass : Bool
  evidence : Bytes
  deriving DecidableEq

/-- The fourteen gates; `loadGates` accepts exactly G1 to G14. -/
abbrev Gates := Fin 14 → Gate

def gateId (gate : Fin 14) : String := "G" ++ toString (gate.val + 1)

def gateG10 : Fin 14 := 9

def gateG13 : Fin 14 := 12

def gateG14 : Fin 14 := 13

def Gates.failing (gates : Gates) (gate : Fin 14) : Gates :=
  Function.update gates gate { gates gate with effectivePass := false }

structure Criterion (A : Arithmetic) where
  id : Bytes
  domain : Domain
  rawScore : Nat
  effectiveScore : Nat
  weight : A.Double
  applicable : Bool

structure MaterialityResult where
  individualMaterialOmission : Bool := false
  cumulativeOmissionExceeded : Bool := false

inductive RegressionKind where
  | eco
  | quality
  deriving DecidableEq

structure Regression where
  id : Bytes
  kind : RegressionKind
  thresholdExceeded : Bool
  unresolved : Bool

inductive ClaimType where
  | candidateAssessment
  | certified
  | level
  | comparative
  | greenAi
  | zero
  | best
  | climatePositive
  | netPositive
  | offsetsOnly
  deriving DecidableEq

structure Claim where
  id : Bytes
  type : ClaimType
  text : Bytes
  scopeMatches : Bool := false
  functionalUnitEquivalent : Bool := false
  boundaryEquivalent : Bool := false
  qualityEquivalent : Bool := false
  methodEquivalent : Bool := false
  legalTechnicalEvidence : Bool := false
  evidence : Bytes := []
  permitted : Bool := false
  reasons : List String := []
  deriving DecidableEq

structure DomainScore (A : Arithmetic) where
  domain : Domain
  normativeWeight : A.Double
  adjustedWeight : A.Double
  applicable : Bool
  percent : A.Double
  points : A.Double
  criterionCount : Nat

inductive Level where
  | none
  | candidate
  | bronze
  | silver
  | gold
  | platinum
  | diamond
  deriving DecidableEq, Repr

namespace Level

def rank : Level → Nat
  | .none => 0
  | .candidate => 1
  | .bronze => 2
  | .silver => 3
  | .gold => 4
  | .platinum => 5
  | .diamond => 6

end Level

structure AssessmentDecision (A : Arithmetic) where
  totalScore : A.Double
  scoreCeiling : Level
  recommendation : Level
  eligible : Bool
  unresolvedEcoRegression : Bool
  ecoRegressionTriggered : Bool
  qualityRegression : Bool
  failedGates : List String
  evidenceCaps : List Bytes
  decisionReasons : List String

section Scores

variable {A : Arithmetic}

/-- Numerator, weight and number of the applicable criteria of a domain. -/
def tally (criteria : List (Criterion A)) (domain : Domain) : A.Double × A.Double × Nat :=
  criteria.foldl (fun (numerator, weight, count) criterion =>
    if criterion.domain = domain ∧ criterion.applicable then
      (A.add numerator (A.mul (A.literal criterion.effectiveScore) criterion.weight),
        A.add weight criterion.weight, count + 1)
    else (numerator, weight, count)) (A.literal 0, A.literal 0, 0)

/-- The first loop of `scoreDomains` for one domain. -/
def scoreDomain (criteria : List (Criterion A)) (domain : Domain) : DomainScore A :=
  let (numerator, weight, count) := tally criteria domain
  { domain
    normativeWeight := A.literal domain.normativeWeight
    adjustedWeight := A.literal 0
    applicable := count != 0
    percent :=
      if count != 0 then
        A.div (A.mul (A.literal 100) numerator) (A.mul (A.literal 5) weight)
      else A.literal 0
    points := A.literal 0
    criterionCount := count }

def applicableWeight (scores : List (DomainScore A)) : A.Double :=
  scores.foldl (fun total score =>
    if score.applicable then A.add total score.normativeWeight else total) (A.literal 0)

def adjustScore (total : A.Double) (score : DomainScore A) : DomainScore A :=
  if score.applicable then
    let adjustedWeight := A.div (A.mul score.normativeWeight (A.literal 100)) total
    { score with
      adjustedWeight
      points := A.div (A.mul adjustedWeight score.percent) (A.literal 100) }
  else score

def scoreDomains (criteria : List (Criterion A)) : Except String (List (DomainScore A)) :=
  let scores := Domain.all.map (scoreDomain criteria)
  let total := applicableWeight scores
  if A.less (A.literal 0) total then .ok (scores.map (adjustScore total))
  else .error "at least one scoring domain must be applicable"

/-- `value + kEpsilon >= minimum`. -/
def reaches (value : A.Double) (minimum : Rat) : Bool :=
  A.lessEqual (A.literal minimum) (A.add value (A.literal (1 / 1000000000)))

/-- `value <= maximum + kEpsilon`. -/
def atMost (value : A.Double) (maximum : Rat) : Bool :=
  A.lessEqual value (A.add (A.literal maximum) (A.literal (1 / 1000000000)))

def scoreBand (total : A.Double) : Level :=
  if reaches total 95 then .diamond
  else if reaches total 90 then .platinum
  else if reaches total 80 then .gold
  else if reaches total 65 then .silver
  else if reaches total 50 then .bronze
  else if reaches total 40 then .candidate
  else .none

/-- Every domain is scored, so the source's lookup always finds it. -/
def domainPercentOrZero (domains : List (DomainScore A)) (id : Domain) : A.Double :=
  match domains.find? (·.domain = id) with
  | some score => if score.applicable then score.percent else A.literal 0
  | none => A.literal 0

def allApplicableDomainsAtLeast (domains : List (DomainScore A)) (minimum : Rat) : Bool :=
  domains.all fun score => !score.applicable || reaches score.percent minimum

end Scores

/-- The loaded files that no later step changes, with the scores. -/
structure Candidate (A : Arithmetic) where
  metadata : Metadata A
  criteria : List (Criterion A)
  domains : List (DomainScore A)
  materiality : MaterialityResult
  regressions : List Regression

namespace Candidate

variable {A : Arithmetic} (candidate : Candidate A)

def ecoRegressionTriggered : Bool :=
  candidate.regressions.any fun regression => regression.kind = .eco && regression.thresholdExceeded

def unresolvedEcoRegression : Bool :=
  candidate.regressions.any fun regression => regression.kind = .eco && regression.unresolved

def qualityRegression : Bool :=
  candidate.regressions.any fun regression =>
    regression.kind = .quality && regression.thresholdExceeded

def materialOmission : Bool :=
  candidate.materiality.individualMaterialOmission ||
    candidate.materiality.cumulativeOmissionExceeded

def evidenceCaps : List Bytes :=
  (candidate.criteria.filter fun criterion =>
    criterion.applicable && criterion.effectiveScore != criterion.rawScore).map (·.id)

/-- What `decide` does to the gates. -/
def settleGates (gates : Gates) : Gates :=
  let gates := if candidate.qualityRegression then gates.failing gateG13 else gates
  if candidate.materialOmission then gates.failing gateG14 else gates

def failedGates (gates : Gates) : List String :=
  ((finRange 14).filter fun gate => !(gates gate).effectivePass).map gateId

def totalScore : A.Double :=
  let sum := candidate.domains.foldl (fun total score => A.add total score.points) (A.literal 0)
  let sum := if A.less (A.abs sum) (A.literal (1 / 1000000000)) then A.literal 0 else sum
  let rest := A.sub sum candidate.metadata.penaltyPoints
  if A.less (A.literal 0) rest then rest else A.literal 0

/-- `percent + kEpsilon >= minimum` for a domain. -/
def domainReaches (id : Domain) (minimum : Rat) : Bool :=
  reaches (domainPercentOrZero candidate.domains id) minimum

def bronze (eligible : Bool) : Bool :=
  eligible && reaches candidate.totalScore 50 &&
    allApplicableDomainsAtLeast candidate.domains 30 && candidate.domainReaches .A 40 &&
    candidate.domainReaches .B 35 && candidate.domainReaches .K 40 &&
    atMost candidate.metadata.uncertaintyPercent 30

def silver (eligible : Bool) : Bool :=
  candidate.bronze eligible && reaches candidate.totalScore 65 && candidate.domainReaches .A 50 &&
    candidate.domainReaches .B 50 && candidate.domainReaches .K 50 &&
    candidate.metadata.measurementQuality ≥ 2 && candidate.metadata.dataQuality ≥ 2 &&
    candidate.metadata.ecoRegressionControlDefined &&
    atMost candidate.metadata.uncertaintyPercent 20

def gold (eligible : Bool) : Bool :=
  candidate.silver eligible && reaches candidate.totalScore 80 && candidate.domainReaches .A 65 &&
    candidate.domainReaches .B 65 && candidate.domainReaches .K 65 &&
    candidate.domainReaches .C 60 && candidate.domainReaches .D 60 &&
    candidate.metadata.measurementQuality ≥ 3 && candidate.metadata.dataQuality ≥ 3 &&
    !candidate.metadata.highSeverityClaimRisk &&
    atMost candidate.metadata.uncertaintyPercent 12 &&
    (!candidate.metadata.aiInScope || candidate.metadata.qualityEnergyFrontierOptions ≥ 2)

def platinum (eligible : Bool) : Bool :=
  candidate.gold eligible && reaches candidate.totalScore 90 && candidate.domainReaches .A 80 &&
    candidate.domainReaches .B 75 && candidate.domainReaches .K 80 &&
    candidate.metadata.independentReview && candidate.metadata.publicReport &&
    candidate.metadata.continuousTelemetry && atMost candidate.metadata.uncertaintyPercent 8

def diamond (eligible : Bool) : Bool :=
  candidate.platinum eligible && reaches candidate.totalScore 95 &&
    candidate.domainReaches .A 90 && candidate.domainReaches .B 85 &&
    candidate.domainReaches .K 90 && candidate.metadata.measurementQuality ≥ 4 &&
    candidate.metadata.dataQuality ≥ 4 && candidate.metadata.continuousTelemetry &&
    candidate.metadata.publicEvidence && atMost candidate.metadata.uncertaintyPercent 5

/-- The highest level whose prerequisites are met. -/
def ladder (eligible : Bool) : Level :=
  if candidate.diamond eligible then .diamond
  else if candidate.platinum eligible then .platinum
  else if candidate.gold eligible then .gold
  else if candidate.silver eligible then .silver
  else if candidate.bronze eligible then .bronze
  else if eligible && reaches candidate.totalScore 40 then .candidate
  else .none

/-- Whether an unresolved eco regression lowers the level. -/
def capped (eligible : Bool) : Bool :=
  candidate.unresolvedEcoRegression && (candidate.ladder eligible).rank > Level.bronze.rank

def recommendation (eligible : Bool) : Level :=
  if candidate.capped eligible then
    if candidate.bronze eligible then .bronze else .candidate
  else candidate.ladder eligible

def decisionReasons (eligible : Bool) : List String :=
  let first :=
    (if candidate.capped eligible
      then ["unresolved_eco_regression_caps_recommendation_at_bronze"] else []) ++
    if eligible then [] else ["mandatory_gate_failure_precedes_scoring"]
  let second :=
    if candidate.recommendation eligible ≠ scoreBand candidate.totalScore && eligible &&
        first.isEmpty
    then first ++ ["level_prerequisites_lower_than_score_band"] else first
  let third :=
    if candidate.evidenceCaps.isEmpty then second
    else second ++ ["insufficient_evidence_caps_criteria_at_one"]
  if third.isEmpty then ["all_recommendation_prerequisites_met"] else third

/-- The decision and the gates it leaves. -/
def decide (gates : Gates) : AssessmentDecision A × Gates :=
  let gates := candidate.settleGates gates
  let failedGates := failedGates gates
  let eligible := failedGates.isEmpty
  ({ totalScore := candidate.totalScore
     scoreCeiling := scoreBand candidate.totalScore
     recommendation := candidate.recommendation eligible
     eligible
     unresolvedEcoRegression := candidate.unresolvedEcoRegression
     ecoRegressionTriggered := candidate.ecoRegressionTriggered
     qualityRegression := candidate.qualityRegression
     failedGates
     evidenceCaps := candidate.evidenceCaps
     decisionReasons := candidate.decisionReasons eligible }, gates)

end Candidate

def unsafeCandidateTerms : List String :=
  ["official", "certified", "bronze", "silver", "gold", "platinum", "diamond", "less energy",
    "more efficient", "most efficient", "best", "zero carbon", "carbon neutral",
    "climate positive", "net positive", "offset"]

def containsAny (value : Bytes) (needles : List String) : Bool := needles.any (mentions value)

/-- A reason, unless the condition holds. -/
def reasonUnless (condition : Bool) (reason : String) : List String := if condition then [] else [reason]

section Claims

variable {A : Arithmetic} (metadata : Metadata A) (decision : AssessmentDecision A)

def candidateReasons (claim : Claim) : List String :=
  let normalizedText := lowerCase claim.text
  reasonUnless ((ascii "candidate ").isPrefixOf normalizedText &&
    !containsAny normalizedText unsafeCandidateTerms) "candidate_claim_text_is_not_claim_safe"

def equivalenceReasons (claim : Claim) : List String :=
  ["comparative_qualification_deferred_pr95"] ++
    reasonUnless claim.functionalUnitEquivalent "functional_unit_not_equivalent" ++
    reasonUnless claim.boundaryEquivalent "boundary_not_equivalent" ++
    reasonUnless claim.qualityEquivalent "quality_not_equivalent" ++
    reasonUnless claim.methodEquivalent "method_not_equivalent"

def greenAiReasons : List String :=
  reasonUnless (Level.gold.rank ≤ decision.recommendation.rank)
      "green_ai_requires_gold_candidate_evidence" ++
    reasonUnless metadata.aiInScope "AI_not_in_scope" ++
    reasonUnless (metadata.aiRole ≠ ascii "not_applicable") "AI_role_not_declared" ++
    reasonUnless metadata.trainingBoundaryDeclared "training_boundary_not_declared" ++
    reasonUnless metadata.inferenceBoundaryDeclared "inference_boundary_not_declared" ++
    reasonUnless metadata.tokenOrInferenceMetricDeclared "token_or_inference_metric_not_declared" ++
    reasonUnless metadata.aiExclusionsDeclared "AI_exclusions_not_declared"

/-- The branch for claims that depend on the assessment. -/
def assessedReasons (claim : Claim) : List String :=
  reasonUnless decision.eligible "mandatory_gates_not_satisfied" ++
    (if claim.type = .comparative ∨ claim.type = .best then equivalenceReasons claim else []) ++
    (if claim.type = .greenAi then greenAiReasons metadata decision else []) ++
    (if claim.type ∈ [.zero, .best, .climatePositive, .netPositive, .comparative] then
      reasonUnless claim.legalTechnicalEvidence "legal_and_technical_evidence_required" else []) ++
    if claim.type ∈ [.zero, .climatePositive, .netPositive] then
      ["restricted_claim_requires_external_review"] else []

def claimReasons (claim : Claim) : List String :=
  reasonUnless claim.scopeMatches "claim_scope_does_not_match_assessment" ++
    reasonUnless (!metadata.highSeverityClaimRisk || claim.type = .candidateAssessment)
      "high_severity_claim_risk" ++
    match claim.type with
    | .certified | .level => ["external_certification_authority_required"]
    | .offsetsOnly => ["offsets_cannot_replace_base_footprint_reduction"]
    | .candidateAssessment => candidateReasons claim
    | _ => assessedReasons metadata decision claim

def evaluateClaim (claim : Claim) : Claim :=
  let reasons := claimReasons metadata decision claim
  { claim with reasons, permitted := reasons.isEmpty }

def evaluateClaims (claims : List Claim) : List Claim :=
  claims.map (evaluateClaim metadata decision)

end Claims

/-- What is written: the gates, the claims and the decision. -/
structure Assessment (A : Arithmetic) where
  gates : Gates
  claims : List Claim
  decision : AssessmentDecision A

variable {A : Arithmetic}

/-- The two passes of `assessDirectory` after everything is loaded and scored. -/
def Candidate.assess (candidate : Candidate A) (gates : Gates) (claims : List Claim) :
    Assessment A :=
  let (decision, gates) := candidate.decide gates
  let claims := evaluateClaims candidate.metadata decision claims
  if claims.any (!·.permitted) then
    let (decision, gates) := candidate.decide (gates.failing gateG10)
    ⟨gates, evaluateClaims candidate.metadata decision claims, decision⟩
  else ⟨gates, claims, decision⟩

/-- `assessDirectory` on the loaded files. -/
def assessDirectory (metadata : Metadata A) (criteria : List (Criterion A))
    (materiality : MaterialityResult) (regressions : List Regression) (gates : Gates)
    (claims : List Claim) : Except String (Candidate A × Assessment A) := do
  let domains ← scoreDomains criteria
  let candidate : Candidate A := { metadata, criteria, domains, materiality, regressions }
  return (candidate, candidate.assess gates claims)

theorem Gates.failing_of_failed {gates : Gates} (failed : (gates gate).effectivePass = false) :
    gates.failing gate = gates := by
  rw [Gates.failing, ← failed]
  exact Function.update_eq_self gate gates

theorem Gates.failing_failed (gates : Gates) (gate : Fin 14) :
    ((gates.failing gate) gate).effectivePass = false := by
  simp [Gates.failing]

theorem Gates.failing_keeps {gates : Gates} (failed : (gates other).effectivePass = false)
    (gate : Fin 14) : ((gates.failing gate) other).effectivePass = false := by
  by_cases same : other = gate
  · subst same
    exact gates.failing_failed other
  · rwa [Gates.failing, Function.update_of_ne same]

namespace Candidate

variable (candidate : Candidate A) {gates : Gates}

theorem settleGates_keeps (failed : (gates gate).effectivePass = false) :
    (candidate.settleGates gates gate).effectivePass = false := by
  unfold settleGates
  split_ifs <;> simp only [failed, Gates.failing_keeps]

theorem settleGates_quality (gates : Gates) (regression : candidate.qualityRegression = true) :
    (candidate.settleGates gates gateG13).effectivePass = false := by
  simp only [settleGates, regression, if_true]
  split_ifs <;> simp only [Gates.failing_failed, Gates.failing_keeps]

theorem settleGates_omission (gates : Gates) (omission : candidate.materialOmission = true) :
    (candidate.settleGates gates gateG14).effectivePass = false := by
  simp only [settleGates, omission, if_true, Gates.failing_failed]

/-- Deciding settles the gates once and for all. -/
theorem settleGates_settled (gates : Gates) :
    candidate.settleGates (candidate.settleGates gates) = candidate.settleGates gates := by
  have quality : (if candidate.qualityRegression then
      (candidate.settleGates gates).failing gateG13 else candidate.settleGates gates) =
      candidate.settleGates gates := by
    split
    · rename_i regression
      exact Gates.failing_of_failed (candidate.settleGates_quality gates regression)
    · rfl
  rw [settleGates.eq_def candidate (candidate.settleGates gates)]
  simp only [quality]
  split
  · rename_i omission
    exact Gates.failing_of_failed (candidate.settleGates_omission gates omission)
  · rfl

theorem decide_settled (gates : Gates) :
    candidate.decide (candidate.decide gates).2 = candidate.decide gates := by
  simp only [decide, settleGates_settled]

theorem failedGates_eq_nil : failedGates gates = [] ↔ ∀ gate, (gates gate).effectivePass = true := by
  simp [failedGates, filter_eq_nil_iff, mem_finRange]

theorem mem_failedGates (failed : (gates gate).effectivePass = false) :
    gateId gate ∈ failedGates gates :=
  mem_map_of_mem (mem_filter.mpr ⟨mem_finRange gate, by simp [failed]⟩)

/-- Nothing is recommended to an ineligible candidate. -/
theorem recommendation_ineligible : candidate.recommendation false = .none := by
  have ladder : candidate.ladder false = .none := by
    simp [Candidate.ladder, diamond, platinum, gold, silver, bronze]
  simp [recommendation, capped, ladder, Level.rank]

theorem scoreBand_rank (total : A.Double) :
    (reaches total 95 = true → 6 ≤ (scoreBand total).rank) ∧
      (reaches total 90 = true → 5 ≤ (scoreBand total).rank) ∧
      (reaches total 80 = true → 4 ≤ (scoreBand total).rank) ∧
      (reaches total 65 = true → 3 ≤ (scoreBand total).rank) ∧
      (reaches total 50 = true → 2 ≤ (scoreBand total).rank) ∧
      (reaches total 40 = true → 1 ≤ (scoreBand total).rank) := by
  unfold scoreBand
  split_ifs <;> simp_all [Level.rank]

/-- Each rung needs the score of its band. -/
theorem ladder_rank_le (eligible : Bool) :
    (candidate.ladder eligible).rank ≤ (scoreBand candidate.totalScore).rank := by
  obtain ⟨diamond, platinum, gold, silver, bronze, least⟩ := scoreBand_rank candidate.totalScore
  unfold ladder
  split_ifs with met met met met met met
  · exact diamond (by simp_all [Candidate.diamond])
  · exact platinum (by simp_all [Candidate.platinum])
  · exact gold (by simp_all [Candidate.gold])
  · exact silver (by simp_all [Candidate.silver])
  · exact bronze (by simp_all [Candidate.bronze])
  · exact least (by simp_all)
  · exact Nat.zero_le _

theorem recommendation_rank_le (eligible : Bool) :
    (candidate.recommendation eligible).rank ≤ (candidate.ladder eligible).rank := by
  unfold recommendation
  split_ifs with cap bronze
  · simp only [capped, Bool.and_eq_true, decide_eq_true_eq] at cap
    exact Nat.le_of_lt cap.2
  · simp only [capped, Bool.and_eq_true, decide_eq_true_eq] at cap
    exact Nat.le_trans (by decide) (Nat.le_of_lt cap.2)
  · exact Nat.le_refl _

theorem recommendation_of_regression (eligible : Bool)
    (unresolved : candidate.unresolvedEcoRegression = true) :
    (candidate.recommendation eligible).rank ≤ Level.bronze.rank := by
  unfold recommendation
  split_ifs with cap bronze
  · exact Nat.le_refl _
  · decide
  · simpa [capped, unresolved] using cap

end Candidate

section Claims

variable (metadata : Metadata A) (decision earlier : AssessmentDecision A)

/-- An evaluation forgets the verdict of the one before. -/
theorem evaluateClaims_evaluateClaims (claims : List Claim) :
    evaluateClaims metadata decision (evaluateClaims metadata earlier claims) =
      evaluateClaims metadata decision claims := by
  rw [evaluateClaims, evaluateClaims, map_map]
  rfl

/-- The claims that only an external authority may make. -/
def ClaimType.restricted : List ClaimType :=
  [.certified, .level, .comparative, .best, .zero, .climatePositive, .netPositive, .offsetsOnly]

theorem evaluateClaim_restricted (restricted : claim.type ∈ ClaimType.restricted) :
    (evaluateClaim metadata decision claim).permitted = false := by
  have reasons : claimReasons metadata decision claim ≠ [] := by
    cases type : claim.type <;>
      simp_all [ClaimType.restricted, claimReasons, assessedReasons, equivalenceReasons]
  simpa [evaluateClaim] using reasons

end Claims

/-- The relations between the parts of a written assessment. -/
structure Consistent (candidate : Candidate A) (assessment : Assessment A) : Prop where
  recommended : assessment.decision.recommendation ≠ .none →
    (∀ gate, (assessment.gates gate).effectivePass = true) ∧
      (∀ regression ∈ candidate.regressions, regression.kind = .quality →
        regression.thresholdExceeded = false) ∧
      candidate.materiality.individualMaterialOmission = false ∧
      candidate.materiality.cumulativeOmissionExceeded = false ∧
      ∀ claim ∈ assessment.claims, claim.permitted = true
  blocked : ∀ claim ∈ assessment.claims, claim.permitted = false →
    "G10" ∈ assessment.decision.failedGates
  ceiling : assessment.decision.recommendation.rank ≤ assessment.decision.scoreCeiling.rank
  regression : (∃ regression ∈ candidate.regressions, regression.kind = .eco ∧
    regression.unresolved = true) → assessment.decision.recommendation.rank ≤ Level.bronze.rank
  restricted : ∀ claim ∈ assessment.claims, claim.type ∈ ClaimType.restricted →
    claim.permitted = false
  stable : candidate.decide assessment.gates = (assessment.decision, assessment.gates) ∧
    evaluateClaims candidate.metadata assessment.decision assessment.claims = assessment.claims

/-- A decision with the claims evaluated on it is consistent once a blocked
claim has failed G10. -/
theorem Candidate.consistent (candidate : Candidate A) (gates : Gates) (claims : List Claim)
    (noticed : (∀ claim ∈ evaluateClaims candidate.metadata (candidate.decide gates).1 claims,
        claim.permitted = true) ∨ (gates gateG10).effectivePass = false) :
    Consistent candidate ⟨(candidate.decide gates).2,
      evaluateClaims candidate.metadata (candidate.decide gates).1 claims,
      (candidate.decide gates).1⟩ := by
  have failed : (gates gateG10).effectivePass = false →
      "G10" ∈ (candidate.decide gates).1.failedGates := fun failed =>
    mem_failedGates (candidate.settleGates_keeps failed)
  refine ⟨fun recommended => ?_, fun claim member blocked => ?_, ?_, fun unresolved => ?_,
    fun claim member restricted => ?_, candidate.decide_settled gates,
    evaluateClaims_evaluateClaims candidate.metadata _ _ claims⟩
  · have eligible : failedGates (candidate.settleGates gates) = [] := by
      by_contra ineligible
      have refused : (failedGates (candidate.settleGates gates)).isEmpty = false := by
        simpa using ineligible
      apply recommended
      simp only [Candidate.decide, refused, candidate.recommendation_ineligible]
    have passing := failedGates_eq_nil.mp eligible
    have quality : candidate.qualityRegression = false := Bool.eq_false_iff.mpr fun regression =>
      Bool.eq_false_iff.mp (candidate.settleGates_quality gates regression) (passing gateG13)
    have omission : candidate.materialOmission = false := Bool.eq_false_iff.mpr fun omission =>
      Bool.eq_false_iff.mp (candidate.settleGates_omission gates omission) (passing gateG14)
    have omitted := Bool.or_eq_false_iff.mp omission
    refine ⟨passing, fun regression member kind => ?_, omitted.1, omitted.2, ?_⟩
    · have exceeded := any_eq_false.mp quality regression member
      simpa [kind] using exceeded
    rcases noticed with permitted | failing
    · exact permitted
    · exact absurd (failed failing)
        (by simp [Candidate.decide, eligible])
  · rcases noticed with permitted | failing
    · rw [permitted claim member] at blocked
      cases blocked
    · exact failed failing
  · exact Nat.le_trans (candidate.recommendation_rank_le _) (candidate.ladder_rank_le _)
  · obtain ⟨regression, member, eco, open_⟩ := unresolved
    exact candidate.recommendation_of_regression _
      (any_eq_true.mpr ⟨regression, member, by simp [eco, open_]⟩)
  · obtain ⟨requested, _, rfl⟩ := mem_map.mp member
    exact evaluateClaim_restricted candidate.metadata _ restricted

theorem Candidate.assess_consistent (candidate : Candidate A) (gates : Gates)
    (claims : List Claim) : Consistent candidate (candidate.assess gates claims) := by
  unfold Candidate.assess
  simp only
  split
  · rw [evaluateClaims_evaluateClaims]
    exact candidate.consistent _ claims (.inr (Gates.failing_failed _ gateG10))
  · rename_i none_blocked
    refine candidate.consistent gates claims (.inl ?_)
    simpa using none_blocked

/-- The result of every accepted directory is consistent. -/
theorem assessDirectory_consistent {metadata : Metadata A} {criteria : List (Criterion A)}
    {materiality : MaterialityResult} {regressions : List Regression} {gates : Gates}
    {claims : List Claim} {candidate : Candidate A} {assessment : Assessment A}
    (accepted : assessDirectory metadata criteria materiality regressions gates claims =
      .ok (candidate, assessment)) :
    candidate.regressions = regressions ∧ candidate.materiality = materiality ∧
      Consistent candidate assessment := by
  obtain ⟨domains, _, result⟩ := Library.bind_eq_ok.mp accepted
  cases result
  exact ⟨rfl, rfl, Candidate.assess_consistent _ gates claims⟩

/-- Exact arithmetic. -/
abbrev exactArithmetic : Arithmetic where
  Double := Rat
  literal := id
  add := (· + ·)
  sub := (· - ·)
  mul := (· * ·)
  div := (· / ·)
  abs value := if value < 0 then -value else value
  less left right := decide (left < right)
  lessEqual left right := decide (left ≤ right)

/-- A directory with full marks in domain A only and a claim that is safe to make. -/
def sampleAssessment :
    Except String (Candidate exactArithmetic × Assessment exactArithmetic) :=
  @assessDirectory exactArithmetic { uncertaintyPercent := (0 : Rat), penaltyPoints := (0 : Rat) }
    [{ id := ascii "A1", domain := .A, rawScore := 5, effectiveScore := 5, weight := (1 : Rat)
       applicable := true }] {} [] (fun _ => ⟨true, true, ascii "e"⟩)
    [{ id := ascii "c", type := .candidateAssessment, text := ascii "Candidate evidence"
       scopeMatches := true }]

theorem sampleAssessment_consistent :
    ∃ candidate assessment, sampleAssessment = .ok (candidate, assessment) ∧
      assessment.decision.recommendation = .candidate ∧
      Consistent candidate assessment := by
  have run : (sampleAssessment.map fun result => result.2.decision.recommendation) =
      .ok .candidate := by decide +kernel
  obtain ⟨⟨candidate, assessment⟩, accepted, recommended⟩ := Library.map_eq_ok.mp run
  exact ⟨candidate, assessment, accepted, recommended, (assessDirectory_consistent accepted).2.2⟩

end ShortHand.Evidence.Scoring
