import ShortHand.Evidence.Calendar
import ShortHand.Evidence.Verification

/-! A bundle only ages: at a later date nothing that blocks a review is undone. -/

namespace ShortHand.Evidence

open ShortHand.Library

variable {N : Numerals} {policy assessment : Json N} {date later asOf : Bytes}

/-- Months ahead is later. -/
theorem le_addMonths (positive : 0 < count) (added : addMonths date count = .ok later) :
    date ≤ later := by
  have checks := added
  simp only [addMonths, bind_eq_ok, require_eq_ok, decide_eq_true_eq] at checks
  obtain ⟨_, valid, _, small, _⟩ := checks
  obtain ⟨low, month, day⟩ := valid_bounds valid
  have range : monthsOf date + count < 10000 * 12 := by
    rw [monthsOf]
    omega
  have isDate := @isDate_dateIn (monthsOf date + count) (dayOf date) (by omega) day
  obtain ⟨isYear, isMonth, _⟩ := isoDate_parts isDate
  cases (addMonths_eq valid range).symm.trans added
  refine (le_iff_chronological valid (validIsoDate_iff.mpr ⟨_, _, _, isDate, rfl⟩)).mpr ?_
  rw [Chronological, isYear, isMonth, monthsOf]
  omega

/-- The dates that a valid policy puts in order. -/
theorem validatePolicy_retains (valid : validatePolicy policy input = .ok ()) :
    ∃ until_ retain, dateField policy "valid_until" = .ok until_ ∧
      dateField policy "retain_until" = .ok retain ∧ until_ ≤ retain := by
  simp only [validatePolicy, bind_eq_ok] at valid
  obtain ⟨_, terms, _⟩ := valid
  simp only [validateTerms, bind_eq_ok, require_eq_ok, decide_eq_true_eq] at terms
  obtain ⟨_, _, _, _, _, _, _, _, _, _, _, _, _, _, _, _, until_, isUntil, _, _, _, _, _, _, retain,
    isRetain, covered, added, _, kept, _⟩ := terms
  exact ⟨until_, retain, isUntil, isRetain, (le_addMonths (by decide) added).trans kept⟩

/-- The reviews that changes call for do not depend on the date. -/
theorem changeReview_alike (review : Bool) (change : Json N) :
    Alike Eq (changeReview date review change) (changeReview later review change) :=
  .read fun _ => .check .refl

/-- Findings at an earlier date against those at a later one. -/
structure FindingState.Before (first second : FindingState) : Prop where
  unresolved : first.unresolved = true → second.unresolved = true
  anyOpenFinding : first.anyOpenFinding = second.anyOpenFinding

theorem findingState_alike (order : date ≤ later) {first second : FindingState}
    (before : first.Before second) (finding : Json N) :
    Alike FindingState.Before (findingState date first finding)
      (findingState later second finding) := by
  refine .read fun status => ?_
  by_cases isOpen : ¬status ≠ ascii "open"
  · by_cases blocked : second.unresolved = true
    · rw [if_neg isOpen]
      -- The earlier date may stop at the severity or the deadline; the finding is open anyhow.
      split
      · exact .ok ⟨fun _ => rfl, rfl⟩
      refine .skip fun severity => ?_
      split
      · exact .ok ⟨fun _ => rfl, rfl⟩
      · exact .skip fun due => .ok ⟨fun _ => rfl, rfl⟩
    · rw [if_neg isOpen, if_neg isOpen, if_neg (mt before.unresolved blocked), if_neg blocked]
      refine .read fun severity => ?_
      split
      · exact .ok ⟨id, rfl⟩
      · refine .read fun due => .ok ⟨fun passed => ?_, rfl⟩
        exact decide_eq_true ((of_decide_eq_true passed).trans order)
  · rw [not_not] at isOpen
    rw [if_pos isOpen, if_pos isOpen]
    exact .ok before

theorem disposalEligible_alike (order : date ≤ later) (review anyOpenFinding : Bool) :
    Alike (fun one two => one = true → two = true)
      (disposalEligible policy date review anyOpenFinding)
      (disposalEligible policy later review anyOpenFinding) := by
  refine .read fun retain => ?_
  by_cases early : date ≤ retain
  · rw [if_pos early]
    intro one two known also eligible
    cases known
    cases eligible
  · rw [if_neg early, if_neg fun stillEarly => early (order.trans stillEarly)]
    exact .read fun legalHold => .ok id

/-- What two reports of one bundle say at an earlier and at a later date. -/
structure Ages (first second : Json N) : Prop where
  ready : jsonBoolean second "current_review_ready" = .ok true →
    jsonBoolean first "current_review_ready" = .ok true
  disposal : jsonBoolean first "disposal_policy_eligible" = .ok true →
    jsonBoolean second "disposal_policy_eligible" = .ok true
  expired : jsonString first "status" = .ok (ascii "expired") →
    jsonString second "status" = .ok (ascii "expired")

theorem lifecycleStatus_expired :
    ascii (lifecycleStatus expired review unresolved eligible due) = ascii "expired" ↔
      expired = true := by
  cases expired with
  | true => simp [lifecycleStatus]
  | false =>
    rw [lifecycleStatus, if_neg Bool.false_ne_true]
    split_ifs <;> decide

/-- The object that reports a lifecycle. -/
def lifecycleReport (asOf status next retain : Bytes) (ready review unresolved legal disposal : Bool) :
    Json N :=
  object [
    ("as_of", .string asOf),
    ("status", .string status),
    ("current_review_ready", .boolean ready),
    ("next_surveillance_on", .string next),
    ("recertification_review_required", .boolean review),
    ("blocking_nonconformity", .boolean unresolved),
    ("legal_hold", .boolean legal),
    ("retain_until", .string retain),
    ("disposal_policy_eligible", .boolean disposal),
    ("storage_retention_independently_verified", .boolean false)]

section Report

variable {status next retain : Bytes} {ready review unresolved legal disposal : Bool}

@[simp] theorem lifecycleReport_ready : jsonBoolean (lifecycleReport asOf status next retain ready
    review unresolved legal disposal : Json N) "current_review_ready" = .ok ready := rfl

@[simp] theorem lifecycleReport_disposal : jsonBoolean (lifecycleReport asOf status next retain ready
    review unresolved legal disposal : Json N) "disposal_policy_eligible" = .ok disposal := rfl

@[simp] theorem lifecycleReport_status : jsonString (lifecycleReport asOf status next retain ready
    review unresolved legal disposal : Json N) "status" = .ok status := rfl

end Report

theorem lifecycle_alike (order : date ≤ later) :
    Alike Ages (lifecycle policy assessment date) (lifecycle policy assessment later) := by
  refine .check (.read fun created => .check (.read fun last => .check (.read fun surveillance => ?_)))
  refine .read fun cadence => .read fun months => .read fun surveyed => .read fun until_ => ?_
  refine .read fun required => .read fun changes => ?_
  refine (Alike.foldlM rfl fun review _ change same => same ▸ changeReview_alike review change).bind
    fun review _ same => same ▸ .read fun findings => ?_
  refine (Alike.foldlM ⟨id, rfl⟩ fun _ _ finding before => findingState_alike order before finding).bind
    fun first second before => .read fun eligibility => .read fun eligible => ?_
  rw [← before.anyOpenFinding]
  refine (disposalEligible_alike order review first.anyOpenFinding).bind fun one two disposal =>
    .read fun legalHold => .read fun retain => .ok ?_
  change Ages (lifecycleReport _ _ _ _ _ _ _ _ _) (lifecycleReport _ _ _ _ _ _ _ _ _)
  constructor
  · simp only [lifecycleReport_ready, Except.ok.injEq, Bool.and_eq_true, Bool.not_eq_true',
      decide_eq_false_iff_not, not_lt, not_le]
    rintro ⟨⟨⟨⟨passed, unreviewed⟩, resolved⟩, current⟩, notDue⟩
    have earlier : first.unresolved = false := by
      simpa using mt before.unresolved (by simp [resolved])
    exact ⟨⟨⟨⟨passed, unreviewed⟩, earlier⟩, order.trans current⟩, order.trans_lt notDue⟩
  · simpa using disposal
  · simp only [lifecycleReport_status, Except.ok.injEq, lifecycleStatus_expired, decide_eq_true_eq]
    exact fun passed => passed.trans_le order

/-- A bundle that may be disposed of is past its validity. -/
theorem lifecycle_exclusive (valid : validatePolicy policy input = .ok ())
    (known : lifecycle policy assessment asOf = .ok report)
    (ready : jsonBoolean report "current_review_ready" = .ok true) :
    jsonBoolean report "disposal_policy_eligible" ≠ .ok true := by
  intro disposed
  simp only [lifecycle, bind_eq_ok] at known
  obtain ⟨_, _, _, _, _, _, _, _, _, _, _, _, _, _, _, _, _, _, until_, isUntil, _, _, _, _, review, _,
    _, _, state, _, _, _, eligible, _, disposal, isDisposal, _, _, retain, isRetain, same⟩ := known
  obtain rfl : lifecycleReport _ _ _ _ _ _ _ _ _ = report := Except.ok.inj same
  obtain ⟨_, _, sameUntil, sameRetain, kept⟩ := validatePolicy_retains valid
  cases sameUntil.symm.trans isUntil
  cases sameRetain.symm.trans isRetain
  simp only [lifecycleReport_ready, lifecycleReport_disposal, Except.ok.injEq, Bool.and_eq_true,
    Bool.not_eq_true', decide_eq_false_iff_not, not_lt] at ready disposed
  rw [disposalEligible, isRetain, disposed] at isDisposal
  cases (if_pos (ready.1.2.trans kept)).symm.trans isDisposal

/-- A bundle only ages: of two verification dates the later one is ready for review only if
the earlier one was, what may be disposed of stays so, what expired stays expired; and at no
date is a bundle both ready for review and free for disposal. -/
theorem lifecycle_ages (valid : validatePolicy policy input = .ok ()) (order : date ≤ later)
    (known : lifecycle policy assessment date = .ok first)
    (also : lifecycle policy assessment later = .ok second) :
    Ages first second ∧ (jsonBoolean first "current_review_ready" = .ok true →
      jsonBoolean first "disposal_policy_eligible" ≠ .ok true) :=
  ⟨lifecycle_alike order first second known also, lifecycle_exclusive valid known⟩

/-- The sample bundle in its year, and after its retention. -/
theorem samplePolicy_ages : ∃ first second,
    lifecycle samplePolicy sampleAssessment (ascii "2026-06-01") = .ok first ∧
      lifecycle samplePolicy sampleAssessment (ascii "2029-01-01") = .ok second ∧
      jsonBoolean first "current_review_ready" = .ok true ∧
      jsonBoolean second "disposal_policy_eligible" = .ok true ∧ Ages first second ∧
      jsonBoolean first "disposal_policy_eligible" ≠ .ok true := by
  have valid : validatePolicy samplePolicy (sampleTree []) = .ok () := by decide +kernel
  have early : (lifecycle samplePolicy sampleAssessment (ascii "2026-06-01")).isOk = true := by
    decide +kernel
  have late : (lifecycle samplePolicy sampleAssessment (ascii "2029-01-01")).isOk = true := by
    decide +kernel
  have known := eq_ok_valueOr .null early
  have also := eq_ok_valueOr .null late
  have ready : jsonBoolean (valueOr .null (lifecycle samplePolicy sampleAssessment
      (ascii "2026-06-01"))) "current_review_ready" = .ok true := by decide +kernel
  have disposed : jsonBoolean (valueOr .null (lifecycle samplePolicy sampleAssessment
      (ascii "2029-01-01"))) "disposal_policy_eligible" = .ok true := by decide +kernel
  obtain ⟨ages, exclusive⟩ := lifecycle_ages valid
    (show ascii "2026-06-01" ≤ ascii "2029-01-01" by decide +kernel) known also
  exact ⟨_, _, known, also, ready, disposed, ages, exclusive ready⟩

end ShortHand.Evidence
