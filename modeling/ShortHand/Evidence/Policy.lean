import ShortHand.Evidence.Artifacts

/-! The audit policy of a bundle: its checks against the candidate files and the lifecycle state
at a date. -/

namespace ShortHand.Evidence

open ShortHand.Library

variable {N : Numerals}

def decimal (digits : Bytes) : Nat := digits.foldl (fun value byte => value * 10 + (byte.val - 48)) 0

/-- The last digits of a number, zeros in front. -/
def padded : Nat → Nat → Bytes
  | 0, _ => []
  | width + 1, value => padded width (value / 10) ++ [Fin.ofNat 256 (48 + value % 10)]

def isLeapYear (year : Nat) : Bool := year % 400 = 0 || (year % 4 = 0 && year % 100 ≠ 0)

def daysInMonth (year month : Nat) : Nat :=
  if month < 1 ∨ month > 12 then 0
  else [0, 31, 28, 31, 30, 31, 30, 31, 31, 30, 31, 30, 31].getD month 0 +
    (if month = 2 ∧ isLeapYear year then 1 else 0)

def yearOf (date : Bytes) : Nat := decimal (date.take 4)

def monthOf (date : Bytes) : Nat := decimal ((date.drop 5).take 2)

def dayOf (date : Bytes) : Nat := decimal ((date.drop 8).take 2)

def validIsoDate (value : Bytes) : Bool :=
  value.length = 10 && value[4]? = some 45 && value[7]? = some 45 &&
    (value.take 4 ++ (value.drop 5).take 2 ++ value.drop 8).all isDigit &&
    2000 ≤ yearOf value && 1 ≤ monthOf value && monthOf value ≤ 12 &&
    1 ≤ dayOf value && dayOf value ≤ daysInMonth (yearOf value) (monthOf value)

def addMonths (date : Bytes) (count : Nat) : Except String Bytes := do
  require (validIsoDate date) "invalid ISO date"
  let year := yearOf date + (monthOf date + count - 1) / 12
  let month := (monthOf date + count - 1) % 12 + 1
  require (year ≤ 9999) "date arithmetic exceeds supported range"
  let day := min (dayOf date) (daysInMonth year month)
  return padded 4 year ++ 45 :: padded 2 month ++ 45 :: padded 2 day

def dateField (object : Json N) (key : String) : Except String Bytes := do
  let value ← jsonString object key
  require (validIsoDate value) ("invalid date: " ++ key)
  return value

def contentsAt (input : Files) (name : String) : Except String Bytes :=
  match input.find? (ascii name) with
  | none => .error "map::at"
  | some contents => .ok contents

def referencePath (reference : Bytes) : Except String Bytes := do
  let path := reference.takeWhile (· ≠ 35)
  safePath path
  require ((ascii "evidence/").isPrefixOf path) "evidence reference must resolve under evidence/"
  return path

def evidenceReference (reference : Bytes) (input : Files) : Except String Unit := do
  let path ← referencePath reference
  require ((input.find? path).any (!·.isEmpty)) ("unresolved evidence reference: " ++ shown reference)

def splitTsv (line : Bytes) : List Bytes := segments 9 (line.filter (· ≠ 13))

/-- The contract inputs by name. -/
def kInputs : List String :=
  ["claims.tsv", "criteria.tsv", "gates.tsv", "materiality.tsv", "measurement.json",
    "metadata.tsv", "profile.json", "regressions.tsv"]

def cellReference (input : Files) (column cell : Bytes) : Except String Unit :=
  if (ascii "_ref").isSuffixOf column && !cell.isEmpty && cell ≠ ascii "-" && cell ≠ ascii "none" then
    evidenceReference cell input
  else .ok ()

def rowReferences (input : Files) (header row : List Bytes) : Except String Unit := do
  require (row.length = header.length) "invalid TSV width"
  (header.zip row).forM fun cell => cellReference input cell.1 cell.2

def tsvReferences (input : Files) (text : Bytes) : Except String Unit :=
  match getlines 10 text with
  | [] => .error "empty TSV"
  | header :: rows =>
    (rows.filter fun row => !row.isEmpty && row ≠ [13]).forM fun row =>
      rowReferences input (splitTsv header) (splitTsv row)

/-- The items of an array; any other value has none. -/
def itemsOf : Json N → List (Json N)
  | .array items => items
  | _ => []

def isArray : Json N → Bool
  | .array _ => true
  | _ => false

def references (N : Numerals) (input : Files) : Except String Unit := do
  kInputs.forM fun name =>
    require (input.contains (ascii name)) ("missing candidate artifact: " ++ name)
  input.entries.forM fun entry =>
    require (kInputs.any (ascii · = entry.1) || (ascii "evidence/").isPrefixOf entry.1)
      "candidate artifact must be a contract input or evidence file"
  (kInputs.filter fun name => (ascii ".tsv").isSuffixOf (ascii name)).forM fun name => do
    tsvReferences input (← contentsAt input name)
  let measurement ← parseJson N (← contentsAt input "measurement.json")
  let records ← jsonMember measurement "records"
  require (isArray records) "measurement records must be an array"
  (itemsOf records).forM fun record => do
    evidenceReference (← jsonString record "evidence_ref") input

def typedDate (fields : Json N) (key : String) : Except String Bytes := do
  let values ← jsonMember fields key
  match values with
  | .array [value] => do
    require ((← jsonString value "type") = ascii "string") "invalid typed validity date type"
    dateField value "value"
  | _ => .error "invalid typed validity date"

def blockDates (policy block : Json N) : Except String Unit := do
  let fields ← jsonMember block "typed_fields"
  let validFrom ← typedDate fields "valid_from"
  let validUntil ← typedDate fields "valid_until"
  let created ← dateField policy "created_on"
  require (validFrom ≤ created) "bundle validity exceeds profile validity"
  let until_ ← dateField policy "valid_until"
  require (until_ ≤ validUntil) "bundle validity exceeds profile validity"

/-- Whether a profile declaration was found, each one checked against the policy. -/
def profileBlock (policy : Json N) (found : Bool) (block : Json N) : Except String Bool := do
  let kind ← jsonString block "kind"
  if kind ≠ ascii "certification_profile" then return found
  else do
    blockDates policy block
    return true

def profileDates (profile policy : Json N) : Except String Unit := do
  let declarations ← jsonMember profile "c3eco_declarations"
  require (isArray declarations) "typed profile declarations unavailable"
  let found ← (itemsOf declarations).foldlM (profileBlock policy) false
  require found "certification_profile missing"

def kChanges : List String :=
  ["architecture", "cloud_region", "database", "hardware", "model", "provider", "runtime", "traffic"]

/-- An optional reference; `-` stands for none. -/
def optionalReference (reference : Bytes) (input : Files) : Except String Unit :=
  if reference = ascii "-" then .ok () else evidenceReference reference input

/-- One change of a policy; returns the ids seen so far. -/
def validateChange (created until_ : Bytes) (input : Files) (ids : List Bytes) (change : Json N) :
    Except String (List Bytes) := do
  requireExactKeys change ["id", "kind", "observed_on", "review_ref"] "change"
  let id ← jsonString change "id"
  identifier id
  require (!ids.contains id) "duplicate change id"
  let kind ← jsonString change "kind"
  require (kChanges.any (ascii · = kind)) "unknown recertification trigger"
  let observed ← dateField change "observed_on"
  require (created ≤ observed && observed ≤ until_) "change date outside validity"
  let reference ← jsonString change "review_ref"
  optionalReference reference input
  return id :: ids

def validateFinding (created : Bytes) (input : Files) (ids : List Bytes) (finding : Json N) :
    Except String (List Bytes) := do
  requireExactKeys finding ["due_on", "id", "resolution_ref", "severity", "status"] "nonconformity"
  let id ← jsonString finding "id"
  identifier id
  require (!ids.contains id) "duplicate nonconformity id"
  let severity ← jsonString finding "severity"
  require (severity = ascii "minor" || severity = ascii "major" || severity = ascii "critical")
    "invalid nonconformity severity"
  let status ← jsonString finding "status"
  require (status = ascii "open" || status = ascii "closed") "invalid nonconformity status"
  let due ← dateField finding "due_on"
  require (created ≤ due) "nonconformity deadline before creation"
  let reference ← jsonString finding "resolution_ref"
  require (status ≠ ascii "closed" || reference ≠ ascii "-")
    "closed nonconformity requires resolution evidence"
  optionalReference reference input
  return id :: ids

/-- The identity, dates and flags of a policy; returns its creation and end. -/
def validateTerms (policy : Json N) : Except String (Bytes × Bytes) := do
  requireExactKeys policy ["acceptance_ref", "access_review_ref", "bundle_id", "changes",
    "created_on", "custodian", "last_surveillance_on", "legal_hold", "nonconformities",
    "public_scope_approved", "recertification_accepted", "restore_test_ref", "retain_until",
    "schema", "storage_ref", "surveillance_ref", "valid_until"] "audit policy"
  let schema ← jsonString policy "schema"
  require (schema = ascii "shorthand.c3eco.audit_policy.v1") "unsupported audit policy schema"
  identifier (← jsonString policy "bundle_id")
  identifier (← jsonString policy "custodian")
  let created ← dateField policy "created_on"
  let until_ ← dateField policy "valid_until"
  require (created ≤ until_) "bundle validity must be at most twelve months"
  let latest ← addMonths created 12
  require (until_ ≤ latest) "bundle validity must be at most twelve months"
  let retain ← dateField policy "retain_until"
  let covered ← addMonths until_ 24
  require (covered ≤ retain) "retention must cover 24 months after validity ends"
  let last ← dateField policy "last_surveillance_on"
  require (created ≤ last && last ≤ until_) "surveillance date outside bundle validity"
  let _ ← jsonBoolean policy "legal_hold"
  let _ ← jsonBoolean policy "public_scope_approved"
  let accepted ← jsonBoolean policy "recertification_accepted"
  require accepted "recertification acceptance is required"
  return (created, until_)

def measuredBefore (created : Bytes) (record : Json N) : Except String Unit := do
  let measured := (← jsonString record "measured_at").take 10
  require (validIsoDate measured && measured ≤ created) "measurement is newer than bundle creation"

def validatePolicy (policy : Json N) (input : Files) : Except String Unit := do
  let (created, until_) ← validateTerms policy
  ["acceptance_ref", "storage_ref", "access_review_ref", "restore_test_ref",
    "surveillance_ref"].forM fun key => do evidenceReference (← jsonString policy key) input
  let changes ← jsonMember policy "changes"
  let findings ← jsonMember policy "nonconformities"
  require (isArray changes && (itemsOf changes).length ≤ 128) "invalid changes array"
  require (isArray findings && (itemsOf findings).length ≤ 128) "invalid nonconformities array"
  let _ ← (itemsOf changes).foldlM (validateChange created until_ input) []
  let _ ← (itemsOf findings).foldlM (validateFinding created input) []
  let measurement ← parseJson N (← contentsAt input "measurement.json")
  (itemsOf (← jsonMember measurement "records")).forM (measuredBefore created)
  profileDates (← parseJson N (← contentsAt input "profile.json")) policy

/-- Whether a review is required once a change was read. -/
def changeReview (asOf : Bytes) (review : Bool) (change : Json N) : Except String Bool := do
  let observed ← dateField change "observed_on"
  require (observed ≤ asOf) "change evidence is from the future"
  if review then return true
  else do
    let reference ← jsonString change "review_ref"
    return reference = ascii "-"

structure FindingState where
  unresolved : Bool
  anyOpenFinding : Bool

/-- An open finding blocks unless it is minor and not due yet. -/
def findingState (asOf : Bytes) (state : FindingState) (finding : Json N) :
    Except String FindingState := do
  let status ← jsonString finding "status"
  if status ≠ ascii "open" then return state
  else if state.unresolved then return ⟨true, true⟩
  else do
    let severity ← jsonString finding "severity"
    if severity ≠ ascii "minor" then return ⟨true, true⟩
    else do
      let due ← dateField finding "due_on"
      return ⟨due ≤ asOf, true⟩

def cadenceMonths (cadence : N.Double) : Except String Nat :=
  if cadence = N.ofNat 6 then .ok 6
  else if cadence = N.ofNat 12 then .ok 12
  else .error "invalid assessment surveillance cadence"

def lifecycleStatus (expired review unresolved eligible due : Bool) : String :=
  if expired then "expired"
  else if review || unresolved || !eligible then "review_required"
  else if due then "surveillance_due"
  else "candidate_review_ready"

/-- Past retention, with nothing that keeps the bundle. -/
def disposalEligible (policy : Json N) (asOf : Bytes) (review anyOpenFinding : Bool) :
    Except String Bool := do
  let retain ← dateField policy "retain_until"
  if asOf ≤ retain then return false
  else do
    let legalHold ← jsonBoolean policy "legal_hold"
    return !legalHold && !review && !anyOpenFinding

def lifecycle (policy assessment : Json N) (asOf : Bytes) : Except String (Json N) := do
  require (validIsoDate asOf) "invalid verification date"
  let created ← dateField policy "created_on"
  require (created ≤ asOf) "verification date precedes bundle creation"
  let last ← dateField policy "last_surveillance_on"
  require (last ≤ asOf) "surveillance evidence is from the future"
  let surveillance ← jsonMember assessment "surveillance"
  let months ← cadenceMonths (← jsonNumber surveillance "cadence_months")
  let surveyed ← addMonths last months
  let until_ ← dateField policy "valid_until"
  let next := min surveyed until_
  let reviewRequired ← jsonBoolean surveillance "recertification_review_required"
  let review ← (itemsOf (← jsonMember policy "changes")).foldlM (changeReview asOf) reviewRequired
  let state ← (itemsOf (← jsonMember policy "nonconformities")).foldlM (findingState asOf)
    ⟨false, false⟩
  let eligible ← jsonBoolean (← jsonMember assessment "eligibility") "all_mandatory_gates_passed"
  let expired : Bool := until_ < asOf
  let due : Bool := next ≤ asOf
  let ready := eligible && !review && !state.unresolved && !expired && !due
  let disposal ← disposalEligible policy asOf review state.anyOpenFinding
  let legalHold ← jsonBoolean policy "legal_hold"
  let retain ← dateField policy "retain_until"
  return object [
    ("as_of", .string asOf),
    ("status", .string (ascii (lifecycleStatus expired review state.unresolved eligible due))),
    ("current_review_ready", .boolean ready),
    ("next_surveillance_on", .string next),
    ("recertification_review_required", .boolean review),
    ("blocking_nonconformity", .boolean state.unresolved),
    ("legal_hold", .boolean legalHold),
    ("retain_until", .string retain),
    ("disposal_policy_eligible", .boolean disposal),
    ("storage_retention_independently_verified", .boolean false)]

/-- The parts of a policy that the bundle and its lifecycle read. -/
structure ValidPolicy (policy : Json N) : Prop where
  bundleId : ∃ id, jsonString policy "bundle_id" = .ok id ∧ id.length ≤ 128
  created : ∃ date, dateField policy "created_on" = .ok date
  validUntil : ∃ date, dateField policy "valid_until" = .ok date
  retained : ∃ date, dateField policy "retain_until" = .ok date
  legalHold : ∃ flag, jsonBoolean policy "legal_hold" = .ok flag
  changes : ∃ changes, jsonMember policy "changes" = .ok changes ∧ ∀ change ∈ itemsOf changes,
    (∃ date, dateField change "observed_on" = .ok date) ∧
      ∃ reference, jsonString change "review_ref" = .ok reference
  findings : ∃ findings, jsonMember policy "nonconformities" = .ok findings ∧
    ∀ finding ∈ itemsOf findings, (∃ status, jsonString finding "status" = .ok status) ∧
      (∃ severity, jsonString finding "severity" = .ok severity) ∧
      ∃ date, dateField finding "due_on" = .ok date

theorem identifier_length (accepted : identifier value = .ok ()) : value.length ≤ 128 := by
  simp only [identifier, bind_eq_ok, require_eq_ok, Bool.and_eq_true, decide_eq_true_eq] at accepted
  obtain ⟨_, ⟨_, short⟩, _⟩ := accepted
  exact short

theorem validateChange_fields (valid : validateChange created until_ input ids change = .ok grown) :
    (∃ date, dateField change "observed_on" = .ok date) ∧
      ∃ reference, jsonString change "review_ref" = .ok reference := by
  simp only [validateChange, bind_eq_ok] at valid
  obtain ⟨_, _, _, _, _, _, _, _, _, _, _, _, date, observed, _, _, reference, review, _⟩ := valid
  exact ⟨⟨date, observed⟩, ⟨reference, review⟩⟩

theorem validateFinding_fields (valid : validateFinding created input ids finding = .ok grown) :
    (∃ status, jsonString finding "status" = .ok status) ∧
      (∃ severity, jsonString finding "severity" = .ok severity) ∧
      ∃ date, dateField finding "due_on" = .ok date := by
  simp only [validateFinding, bind_eq_ok] at valid
  obtain ⟨_, _, _, _, _, _, _, _, severity, isSeverity, _, _, status, isStatus, _, _, due, isDue, _⟩ :=
    valid
  exact ⟨⟨status, isStatus⟩, ⟨severity, isSeverity⟩, ⟨due, isDue⟩⟩

theorem validatePolicy_valid (valid : validatePolicy policy input = .ok ()) :
    ValidPolicy policy := by
  simp only [validatePolicy, bind_eq_ok] at valid
  obtain ⟨⟨start, stop⟩, terms, _, _, changes, isChanges, findings, isFindings, _, _, _, _,
    _, eachChange, _, eachFinding, _⟩ := valid
  simp only [validateTerms, bind_eq_ok] at terms
  obtain ⟨_, _, _, _, _, _, id, isId, _, short, _, _, _, _, created, isCreated, until_, isUntil, _, _,
    _, _, _, _, retain, isRetain, _, _, _, _, _, _, _, _, legal, isLegal, _⟩ := terms
  refine ⟨⟨id, isId, identifier_length short⟩, ⟨created, isCreated⟩, ⟨until_, isUntil⟩,
    ⟨retain, isRetain⟩, ⟨legal, isLegal⟩, ⟨changes, isChanges, ?_⟩, ⟨findings, isFindings, ?_⟩⟩
  · intro change member
    obtain ⟨_, _, taken⟩ := foldlM_eq_ok_forall eachChange change member
    exact validateChange_fields taken
  · intro finding member
    obtain ⟨_, _, taken⟩ := foldlM_eq_ok_forall eachFinding finding member
    exact validateFinding_fields taken

/-- A verification date, not before any date that the policy gives evidence for. -/
structure NotBefore (policy : Json N) (asOf : Bytes) : Prop where
  valid : validIsoDate asOf = true
  created : ∀ date, dateField policy "created_on" = .ok date → date ≤ asOf
  surveyed : ∀ date, dateField policy "last_surveillance_on" = .ok date → date ≤ asOf
  observed : ∀ changes, jsonMember policy "changes" = .ok changes → ∀ change ∈ itemsOf changes,
    ∀ date, dateField change "observed_on" = .ok date → date ≤ asOf

section Lifecycle

variable {policy assessment : Json N} {asOf earlier : Bytes}

theorem changeReview_succeeds (date : dateField change "observed_on" = .ok observed)
    (past : observed ≤ asOf) (reviewed : jsonString change "review_ref" = .ok reference) :
    ∃ after, changeReview asOf review change = .ok after := by
  simp only [changeReview, bind_eq_ok, require_eq_ok, decide_eq_true_eq]
  cases review with
  | true => exact ⟨true, observed, date, (), past, rfl⟩
  | false => exact ⟨_, observed, date, (), past, bind_eq_ok.mpr ⟨reference, reviewed, rfl⟩⟩

theorem findingState_succeeds (isStatus : jsonString finding "status" = .ok status)
    (isSeverity : jsonString finding "severity" = .ok severity)
    (isDue : dateField finding "due_on" = .ok due) :
    ∃ after, findingState asOf state finding = .ok after := by
  simp only [findingState, isStatus, isSeverity, isDue, bind, Except.bind]
  split_ifs <;> exact ⟨_, rfl⟩

theorem disposalEligible_succeeds (valid : ValidPolicy policy) :
    ∃ eligible, disposalEligible policy asOf review anyOpenFinding = .ok eligible := by
  obtain ⟨retain, isRetain⟩ := valid.retained
  obtain ⟨legal, isLegal⟩ := valid.legalHold
  simp only [disposalEligible, isRetain, isLegal, bind, Except.bind]
  split_ifs <;> exact ⟨_, rfl⟩

/-- The lifecycle of a valid policy that could be determined once can be determined
at every date not before its evidence. -/
theorem lifecycle_succeeds (valid : ValidPolicy policy)
    (known : lifecycle policy assessment earlier = .ok state) (date : NotBefore policy asOf) :
    ∃ state, lifecycle policy assessment asOf = .ok state := by
  simp only [lifecycle, bind_eq_ok] at known
  obtain ⟨_, _, created, isCreated, _, _, last, isLast, _, _, surveillance, isSurveillance,
    cadence, isCadence, months, isMonths, surveyed, isSurveyed, until_, isUntil,
    required, isRequired, changes, isChanges, _, _, findings, isFindings, _, _,
    eligibility, isEligibility, eligible, isEligible, _⟩ := known
  obtain ⟨_, sameChanges, eachChange⟩ := valid.changes
  cases sameChanges.symm.trans isChanges
  obtain ⟨_, sameFindings, eachFinding⟩ := valid.findings
  cases sameFindings.symm.trans isFindings
  obtain ⟨review, isReview⟩ : ∃ review,
      (itemsOf changes).foldlM (changeReview asOf) required = .ok review :=
    exists_foldlM_eq_ok fun change member _ => by
      obtain ⟨⟨observed, isObserved⟩, _, isReference⟩ := eachChange change member
      exact changeReview_succeeds isObserved
        (date.observed changes isChanges change member observed isObserved) isReference
  obtain ⟨finding, isFinding⟩ : ∃ finding,
      (itemsOf findings).foldlM (findingState asOf) ⟨false, false⟩ = .ok finding :=
    exists_foldlM_eq_ok fun finding member _ => by
      obtain ⟨⟨_, isStatus⟩, ⟨_, isSeverity⟩, _, isDue⟩ := eachFinding finding member
      exact findingState_succeeds isStatus isSeverity isDue
  obtain ⟨disposal, isDisposal⟩ := @disposalEligible_succeeds _ policy asOf review
    finding.anyOpenFinding valid
  obtain ⟨legal, isLegal⟩ := valid.legalHold
  obtain ⟨retain, isRetain⟩ := valid.retained
  simp only [lifecycle, bind_eq_ok, require_eq_ok, decide_eq_true_eq]
  exact ⟨_, (), date.valid, created, isCreated, (), date.created _ isCreated, last, isLast, (),
    date.surveyed _ isLast, surveillance, isSurveillance, cadence, isCadence, months, isMonths,
    surveyed, isSurveyed, until_, isUntil, required, isRequired, changes, isChanges, review, isReview,
    findings, isFindings, finding, isFinding, eligibility, isEligibility, eligible, isEligible,
    disposal, isDisposal, legal, isLegal, retain, isRetain, rfl⟩

end Lifecycle

end ShortHand.Evidence
