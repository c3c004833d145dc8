import ShortHand.Evidence.Staging

/-! A packed bundle verifies later just if it stays within the limits of `files` once it is
sealed. -/

namespace ShortHand.Evidence

open ShortHand.Library OrderedMap
open List (cons filter_cons forall_mem_cons length_append length_cons length_map map mem_append mem_map not_mem_nil replicate)

variable {N : Numerals} {P : Platform}

theorem contentsAt_eq_ok :
    contentsAt tree name = .ok contents ↔ (ascii name, contents) ∈ tree.entries := by
  rw [← find?_eq_some_iff, contentsAt]
  cases tree.find? (ascii name) <;> simp

theorem contains_of_contentsAt {tree : Files} (held : contentsAt tree name = .ok contents) :
    tree.contains (ascii name) = true :=
  Option.isSome_of_eq_some (find?_eq_some_iff.mpr (contentsAt_eq_ok.mp held))

theorem Staged.contents_at {policy : Json N} (staged : Staged P input policy assessment stage)
    (member : (ascii name, contents) ∈ stagedEntries input policy assessment) :
    contentsAt stage name = .ok contents :=
  contentsAt_eq_ok.mpr (staged.contained.mem_iff.mpr member)

theorem Staged.assessment_at (staged : Staged P input policy assessment stage) :
    contentsAt stage "assessment.json" = .ok assessment :=
  staged.contents_at (by simp [stagedEntries])

theorem dateField_text (isDate : dateField value name = .ok date) :
    jsonString value name = .ok date ∧ date.length = 10 := by
  simp only [dateField, bind_eq_ok, require_eq_ok] at isDate
  obtain ⟨text, isText, _, valid, result⟩ := isDate
  cases result
  simp only [validIsoDate, Bool.and_eq_true, decide_eq_true_eq] at valid
  obtain ⟨⟨⟨⟨⟨⟨⟨⟨length, _⟩, _⟩, _⟩, _⟩, _⟩, _⟩, _⟩, _⟩ := valid
  exact ⟨isText, length⟩

theorem safePath_length (safe : safePath name = .ok ()) : name.length ≤ 512 := by
  simp only [safePath, bind_eq_ok, require_eq_ok, Bool.and_eq_true, decide_eq_true_eq] at safe
  obtain ⟨_, ⟨⟨⟨_, short⟩, _⟩, _⟩, _⟩ := safe
  exact short

/-- What a successful `pack` did with its inputs. -/
structure Packed (P : Platform) (input : Files) (policy : Json N) (secret : P.Secret)
    (assessment : Bytes) (stage : Files) (manifest : Json N) (bundle : Files) : Prop where
  referenced : references N input = .ok ()
  parsed : policy.Within (kMaxJsonDepth + 1)
  valid : validatePolicy policy input = .ok ()
  staged : Staged P input policy assessment stage
  readable : Readable (listed stage)
  known : ∃ value date state, parseJson N assessment = .ok value ∧
    lifecycle policy value date = .ok state
  manifested : makeManifest P stage policy (P.publicOf secret) "private" "-" = .ok manifest
  made : sealStage P stage manifest secret = .ok bundle

section Packing

variable {candidate : Root} {policyFile secretFile : NamedFile} {destination : Destination}
  {bundle input stage : Files} {policy manifest : Json N} {secret : P.Secret} {assessment : Bytes}

theorem readJson_within (read : readJson N file = .ok value) :
    value.Within (kMaxJsonDepth + 1) := by
  rw [readJson, bind_eq_ok] at read
  obtain ⟨source, _, parsed⟩ := read
  exact parseJson_within parsed

theorem pack_packed (packed : pack P N candidate policyFile secretFile destination = .ok bundle)
    (read : files candidate = .ok input) (isPolicy : readJson N policyFile = .ok policy)
    (isSecret : loadKey P secretFile = .ok secret) :
    ∃ assessment stage manifest, Packed P input policy secret assessment stage manifest bundle := by
  simp only [pack, bind_eq_ok] at packed
  obtain ⟨_, read', _, referenced, _, _, _, _, _, isPolicy', _, valid, _, isSecret', _, _,
    stage, made, date, _, assessment, held, _, readAssessment, value, parsed, state, known,
    copy, readStage, manifest, manifested, _, isSealed, _, _, result⟩ := packed
  cases read'.symm.trans read
  cases isPolicy'.symm.trans isPolicy
  cases isSecret'.symm.trans isSecret
  cases result
  obtain ⟨produced, staged⟩ := stageFiles_staged made
  obtain ⟨readable, same⟩ := files_eq_ok.mp readStage
  have whole : copy = stage := ext_perm (same.trans
    (((P.iterate_perm _).filterMap _).trans (List.Perm.of_eq (listed_plainFile stage))))
  subst whole
  cases held.symm.trans staged.assessment_at
  rw [readFile_eq_ok] at readAssessment
  obtain ⟨_, rfl⟩ := readAssessment
  exact ⟨_, copy, manifest, referenced, readJson_within isPolicy, valid, staged,
    readable.perm (P.iterate_perm _), ⟨value, date, state, parsed, known⟩, manifested, isSealed⟩

end Packing

/-- The artifacts of a private bundle are collected like the files below its candidate. -/
theorem foldlM_privateArtifact {entries : List (Bytes × Bytes)}
    (known : ∀ entry ∈ entries, kCandidate.isPrefixOf entry.1 = true ∨
      entry.1 = ascii "policy.json" ∨ entry.1 = ascii "assessment.json" ∨
      entry.1 = ascii "rules.json") :
    entries.foldlM privateArtifact collected = .ok
      (((entries.filter fun entry => kCandidate.isPrefixOf entry.1).map
        fun entry => (entry.1.drop kCandidate.length, entry.2)).foldl
        (fun map entry => (map.emplace entry.1 entry.2).getD map) collected) := by
  induction entries generalizing collected with
  | nil => rfl
  | cons entry entries ih =>
    rw [forall_mem_cons] at known
    rw [List.foldlM_cons]
    by_cases below : kCandidate.isPrefixOf entry.1 = true
    · rw [privateArtifact, if_pos below, filter_cons, if_pos below, List.map_cons,
        List.foldl_cons]
      exact ih known.2
    · have listed : (entry.1 = ascii "policy.json" || entry.1 = ascii "assessment.json" ||
          entry.1 = ascii "rules.json") = true := by
        have name := known.1.resolve_left below
        simpa [or_assoc] using name
      rw [privateArtifact, if_neg below, filter_cons, if_neg below, listed]
      exact ih known.2

section Verifying

variable {input stage bundle : Files} {policy manifest : Json N} {secret : P.Secret}
  {assessment asOf : Bytes} (packed : Packed P input policy secret assessment stage manifest bundle)

include packed

/-- Identity and dates of the manifest are those of the policy. -/
theorem Packed.manifest_eq :
    ∃ id created validUntil, jsonString policy "bundle_id" = .ok id ∧
      jsonString policy "created_on" = .ok created ∧ jsonString policy "valid_until" = .ok validUntil ∧
      id.length ≤ 128 ∧ created.length = 10 ∧ validUntil.length = 10 ∧
      manifest = manifestOf P stage id created validUntil (P.publicOf secret) := by
  have valid := validatePolicy_valid packed.valid
  obtain ⟨id, isId, short⟩ := valid.bundleId
  obtain ⟨created, isCreated⟩ := valid.created
  obtain ⟨validUntil, isUntil⟩ := valid.validUntil
  obtain ⟨createdText, createdLength⟩ := dateField_text isCreated
  obtain ⟨untilText, untilLength⟩ := dateField_text isUntil
  exact ⟨id, created, validUntil, isId, createdText, untilText, short, createdLength, untilLength,
    makeManifest_eq packed.manifested isId createdText untilText⟩

/-- The manifest is a small file. -/
theorem Packed.manifest_small :
    (document manifest).length ≤ kMaxJsonBytes := by
  obtain ⟨id, created, validUntil, _, _, _, short, createdLength, untilLength, rfl⟩ :=
    packed.manifest_eq
  have files := listed_plainFile stage
  refine manifest_size ?_ ?_ short createdLength.le untilLength.le
  · intro entry member
    have inside : (entry.1, Entry.regular entry.2 1) ∈ listed stage :=
      List.mem_append_right _ (mem_map.mpr ⟨entry, member, rfl⟩)
    exact safePath_length (packed.readable.admitted _ inside).1
  · have limits := packed.readable.limits
    rwa [files] at limits

/-- Reading the bundle back succeeds just within the limits. -/
theorem Packed.files_bundle (order : listing.Perm (listed bundle)) :
    files ⟨path, some listing⟩ = .ok all ↔ FitsLimits bundle.entries ∧ all = bundle := by
  have contents : (listing.filterMap plainFile).Perm bundle.entries :=
    (order.filterMap _).trans (List.Perm.of_eq (listed_plainFile bundle))
  rw [files_eq_ok]
  constructor
  · rintro ⟨readable, same⟩
    exact ⟨readable.limits.perm contents, ext_perm (same.trans contents)⟩
  · rintro ⟨limits, rfl⟩
    exact ⟨(sealed_readable packed.made packed.readable packed.staged.name_head
      packed.manifest_small limits).perm order.symm, contents.symm⟩

/-- Without the manifest and its signature a bundle is its stage again. -/
theorem Packed.erase_manifest :
    (bundle.erase (ascii "manifest.json")).erase (ascii "manifest.sig") = stage := by
  have kept : ∀ entry ∈ stage.entries,
      entry.1 ≠ ascii "manifest.json" ∧ entry.1 ≠ ascii "manifest.sig" := by
    intro entry member
    obtain ⟨byte, rest, named, known⟩ :=
      stagedEntries_head entry (packed.staged.contained.mem_iff.mp member)
    have other : byte ≠ 109 := by
      rintro rfl
      exact absurd known (by decide)
    rw [named]
    exact ⟨fun same => other (cons.inj same).1, fun same => other (cons.inj same).1⟩
  refine ext_perm ?_
  refine (((sealStage_perm packed.made).filter _).filter _).trans (List.Perm.of_eq ?_)
  have different : ¬ascii "manifest.sig" = ascii "manifest.json" := by decide
  simp only [filter_cons, different, ne_eq, not_true_eq_false, not_false_eq_true, decide_false,
    decide_true, if_true, Bool.false_eq_true, if_false]
  rw [List.filter_filter]
  refine List.filter_eq_self.mpr fun entry member => ?_
  obtain ⟨notManifest, notSignature⟩ := kept entry member
  simp [notManifest, notSignature]

theorem Packed.privateInput :
    stage.entries.foldlM privateArtifact empty = .ok input := by
  have known : ∀ entry ∈ stage.entries, kCandidate.isPrefixOf entry.1 = true ∨
      entry.1 = ascii "policy.json" ∨ entry.1 = ascii "assessment.json" ∨
      entry.1 = ascii "rules.json" := by
    intro entry member
    rcases mem_append.mp (packed.staged.contained.mem_iff.mp member) with candidate | other
    · obtain ⟨original, _, rfl⟩ := mem_map.mp candidate
      exact .inl (List.isPrefixOf_iff_prefix.mpr (List.prefix_append _ _))
    · simp only [List.mem_cons, not_mem_nil, or_false] at other
      rcases other with rfl | rfl | rfl <;> simp
  rw [foldlM_privateArtifact known]
  exact congrArg Except.ok (filesBelow_candidate packed.staged.contained stagedEntries_outside)

theorem Packed.replayed :
    replayAssessment P input = .ok assessment := by
  obtain ⟨copy, copied⟩ := packed.staged.copied
  have contents := writeBelow_perm copied
  have below : filesBelow kCandidate copy = input := filesBelow_candidate contents (by
    intro entry member
    cases member)
  have absent : ascii "assessment.json" ∉ copy.entries.map Prod.fst := by
    intro inside
    obtain ⟨entry, member, named⟩ := mem_map.mp inside
    rw [contents.mem_iff] at member
    obtain ⟨original, _, rfl⟩ := mem_map.mp ((mem_append.mp member).resolve_right
      not_mem_nil)
    have heads : some 99 = (ascii "assessment.json").head? := congrArg List.head? named
    exact absurd heads (by decide)
  have small : assessment.length ≤ kMaxJsonBytes := by
    have held := contentsAt_eq_ok.mp packed.staged.assessment_at
    have inside : (ascii "assessment.json", Entry.regular assessment 1) ∈ listed stage :=
      List.mem_append_right _ (mem_map.mpr ⟨_, held, rfl⟩)
    obtain ⟨contents, same, small⟩ :=
      (packed.readable.admitted _ inside).2.resolve_left nofun
    cases same
    exact small
  simp only [replayAssessment, assessDirectory, bind_eq_ok, readFile_eq_ok]
  refine ⟨copy, copied, _, ⟨assessment, by rw [below]; exact packed.staged.assessed, rfl⟩,
    assessment, ?_, small, rfl⟩
  exact contentsAt_eq_ok.mpr ((insert_perm absent).mem_iff.mpr List.mem_cons_self)

theorem Packed.manifest_at :
    contentsAt bundle "manifest.json" = .ok (document manifest) :=
  contentsAt_eq_ok.mpr ((sealStage_perm packed.made).mem_iff.mpr (by simp))

theorem Packed.signed :
    signedManifest P N bundle (P.publicOf secret) = .ok manifest := by
  have manifestAt := packed.manifest_at
  have signatureAt : contentsAt bundle "manifest.sig" = .ok (sign P secret (document manifest)) :=
    contentsAt_eq_ok.mpr ((sealStage_perm packed.made).mem_iff.mpr (by simp))
  obtain ⟨id, created, validUntil, _, _, _, _, _, _, rfl⟩ := packed.manifest_eq
  simp only [signedManifest, bind_eq_ok, require_eq_ok, Bool.and_eq_true, decide_eq_true_eq]
  exact ⟨(), ⟨contains_of_contentsAt manifestAt, contains_of_contentsAt signatureAt⟩, _, manifestAt,
    _, signatureAt, (), verifySignature_sign, _, parseJson_canonical manifest_within, (), rfl, rfl⟩

/-- A bundle within the limits verifies at every date not before its evidence. -/
theorem Packed.verifies {path : List Bytes} (order : listing.Perm (listed bundle))
    (limits : FitsLimits bundle.entries) (date : NotBefore policy asOf) :
    ∃ verified, verify P N ⟨path, some listing⟩ (P.publicOf secret) asOf = .ok verified := by
  have manifestAt := packed.manifest_at
  have policyAt : contentsAt stage "policy.json" = .ok (document policy) :=
    packed.staged.contents_at (by simp [stagedEntries])
  have rulesAt : contentsAt stage "rules.json" = .ok (document (rules N)) :=
    packed.staged.contents_at (by simp [stagedEntries])
  have assessmentAt := packed.staged.assessment_at
  obtain ⟨value, _, _, isValue, known⟩ := packed.known
  obtain ⟨state, isState⟩ := lifecycle_succeeds (validatePolicy_valid packed.valid) known date
  obtain ⟨id, created, validUntil, isId, isCreated, isUntil, _, _, _, rfl⟩ := packed.manifest_eq
  simp only [verify, bind_eq_ok, require_eq_ok, decide_eq_true_eq, Bool.and_eq_true]
  refine ⟨_, bundle, (packed.files_bundle order).mpr ⟨limits, rfl⟩, _, packed.signed, (),
    manifestContract_manifestOf, inventory P stage,
    jsonMember_object manifest_distinct (by simp [manifestFields]), (), ?_, _,
    manifest_string (by simp [manifestFields]), (), rfl, _,
    manifest_string (by simp [manifestFields]), (), rfl, input, ?_, (), packed.referenced, (), ?_,
    document (rules N), ?_, (), rfl, document policy, ?_, policy,
    parseJson_canonical packed.parsed, (), packed.valid, (),
    policyMatch_manifestOf isId isCreated isUntil, assessment, packed.replayed,
    assessment, ?_, (), rfl, value, isValue, state, isState, _, manifestAt, rfl⟩ <;>
    rw [packed.erase_manifest]
  · exact packed.privateInput
  · exact ⟨⟨contains_of_contentsAt policyAt, contains_of_contentsAt assessmentAt⟩,
      contains_of_contentsAt rulesAt⟩
  · exact rulesAt
  · exact policyAt
  · exact assessmentAt

/-- A bundle of these inputs is within the limits once its manifest and signature are in
it: the candidate and five more files, and the bytes of all of them. -/
def FitsSealed (P : Platform) (input : Files) (policy : Json N) (key : P.Public) : Prop :=
  ∃ assessment manifest, P.assess input = .ok assessment ∧
    makeManifest P (stagedFiles input policy assessment) policy key "private" "-" = .ok manifest ∧
    input.entries.length + 5 ≤ kMaxFiles ∧
    byteCount (stagedEntries input policy assessment) + (document manifest).length + 128 ≤
      kMaxTotalBytes

theorem Packed.byteCount_bundle :
    byteCount bundle.entries =
      byteCount (stagedEntries input policy assessment) + (document manifest).length + 128 := by
  rw [byteCount_perm (sealStage_perm packed.made), byteCount_cons, byteCount_cons, sign_length,
    byteCount_perm packed.staged.contained]
  dsimp only
  omega

theorem Packed.fitsLimits_iff :
    FitsLimits bundle.entries ↔ FitsSealed P input policy (P.publicOf secret) := by
  have bytes := packed.byteCount_bundle
  have count : bundle.entries.length = input.entries.length + 5 := by
    rw [(sealStage_perm packed.made).length_eq, length_cons, length_cons,
      packed.staged.contained.length_eq, stagedEntries, length_append, length_map]
    rfl
  have made := packed.manifested
  rw [packed.staged.eq_stagedFiles] at made
  constructor
  · rintro ⟨files, total⟩
    exact ⟨assessment, manifest, packed.staged.assessed, made, count ▸ files, bytes ▸ total⟩
  rintro ⟨_, _, assessed, manifested, files, total⟩
  cases assessed.symm.trans packed.staged.assessed
  cases manifested.symm.trans made
  exact ⟨count ▸ files, bytes ▸ total⟩

end Verifying

section Sealed

variable {input bundle : Files} {policy : Json N} {secret : P.Secret} {asOf : Bytes}
  {candidate : Root} {policyFile secretFile : NamedFile} {destination : Destination}
  {path : List Bytes} {listing : Listing}

theorem verify_reads (succeeded : verify P N root key asOf = .ok verified) :
    ∃ all, files root = .ok all := by
  rw [verify, bind_eq_ok] at succeeded
  obtain ⟨all, read, _⟩ := succeeded
  exact ⟨all, read⟩

/-- A packed bundle, read in any order at a date not before its evidence, verifies just if
it is within the limits with the two files that `pack` adds after its own check. -/
theorem verify_pack_iff
    (packed : pack P N candidate policyFile secretFile destination = .ok bundle)
    (read : files candidate = .ok input) (isPolicy : readJson N policyFile = .ok policy)
    (isSecret : loadKey P secretFile = .ok secret) (order : listing.Perm (listed bundle))
    (date : NotBefore policy asOf) :
    (∃ verified, verify P N ⟨path, some listing⟩ (P.publicOf secret) asOf = .ok verified) ↔
      FitsSealed P input policy (P.publicOf secret) := by
  obtain ⟨assessment, stage, manifest, facts⟩ := pack_packed packed read isPolicy isSecret
  rw [← facts.fitsLimits_iff]
  constructor
  · rintro ⟨verified, succeeded⟩
    obtain ⟨all, readBundle⟩ := verify_reads succeeded
    exact ((facts.files_bundle order).mp readBundle).1
  · intro limits
    exact facts.verifies order limits date

end Sealed

abbrev Document := Json tokenNumerals

def textOf (text : String) : Document := .string (ascii text)

def sampleReference : String := "evidence/audit.txt"

def samplePolicyFields : List (String × Document) := [
  ("schema", textOf "shorthand.c3eco.audit_policy.v1"),
  ("bundle_id", textOf "bundle"),
  ("custodian", textOf "custodian"),
  ("created_on", textOf "2026-01-01"),
  ("valid_until", textOf "2026-12-31"),
  ("retain_until", textOf "2028-12-31"),
  ("legal_hold", .boolean false),
  ("recertification_accepted", .boolean true),
  ("acceptance_ref", textOf sampleReference),
  ("storage_ref", textOf sampleReference),
  ("access_review_ref", textOf sampleReference),
  ("restore_test_ref", textOf sampleReference),
  ("last_surveillance_on", textOf "2026-01-01"),
  ("surveillance_ref", textOf sampleReference),
  ("changes", .array []),
  ("nonconformities", .array []),
  ("public_scope_approved", .boolean true)]

/-- A policy of one year with no changes and no findings. -/
def samplePolicy : Document := object samplePolicyFields

def sampleMeasurement : Document := object [("records", .array [object [
  ("evidence_ref", textOf sampleReference),
  ("measured_at", textOf "2026-01-01T00:00:00Z")]])]

def sampleProfile : Document := object [("c3eco_declarations", .array [object [
  ("kind", textOf "certification_profile"),
  ("typed_fields", object [
    ("valid_from", .array [object [("type", textOf "string"), ("value", textOf "2026-01-01")]]),
    ("valid_until", .array [object [("type", textOf "string"), ("value", textOf "2026-12-31")]])])]])]

def sampleAssessment : Document := object [
  ("surveillance", object [
    ("cadence_months", .number (tokenNumerals.ofNat 12)),
    ("recertification_review_required", .boolean false)]),
  ("eligibility", object [("all_mandatory_gates_passed", .boolean true)])]

def sampleTable : Bytes := ascii "id\tsource_ref\nrow\tevidence/audit.txt\n"

/-- The contract inputs and one evidence file. -/
def sampleInputs : List (Bytes × Bytes) := [
  (ascii "claims.tsv", sampleTable),
  (ascii "criteria.tsv", sampleTable),
  (ascii "evidence/audit.txt", ascii "audited"),
  (ascii "gates.tsv", sampleTable),
  (ascii "materiality.tsv", sampleTable),
  (ascii "measurement.json", document sampleMeasurement),
  (ascii "metadata.tsv", sampleTable),
  (ascii "profile.json", document sampleProfile),
  (ascii "regressions.tsv", sampleTable)]

def samplePlatform : Platform where
  Secret := Unit
  Public := Unit
  readSecret contents := if contents = ascii "key" then some () else none
  publicOf _ := ()
  rawKey _ := []
  sign _ _ := replicate 64 0
  accepts _ signature _ := signature = replicate 64 0
  sha256 _ := replicate 64 48
  assess _ := .ok (document sampleAssessment)
  iterate listing := listing
  stage := [ascii "stage"]
  replay := [ascii "replay"]
  sign_length _ _ := by simp
  accepts_sign _ _ := by simp
  sha256_length _ := by simp
  iterate_perm _ := List.Perm.refl _

variable (padding : List (Bytes × Bytes))

def sampleTree : Files := ofEntries (sampleInputs ++ padding)

/-- A candidate directory with more evidence files beside the sample ones. -/
def candidateWith : Root :=
  ⟨[ascii "candidate"], some (listed (sampleTree padding))⟩

def samplePolicyFile : NamedFile := ⟨[ascii "policy.json"], .regular (document samplePolicy) 1⟩

def sampleSecretFile : NamedFile := ⟨[ascii "key.pem"], .regular (ascii "key") 1⟩

def sampleDestination : Destination := ⟨[ascii "bundle"], false, true⟩

def sampleStage : Files :=
  stagedFiles (sampleTree padding) samplePolicy (document sampleAssessment)

def sampleManifest : Document :=
  manifestOf samplePlatform (sampleStage padding) (ascii "bundle") (ascii "2026-01-01")
    (ascii "2026-12-31") ()

def sampleBundle : Files :=
  valueOr empty (sealStage samplePlatform (sampleStage padding) (sampleManifest padding) ())

/-- Names that `files` admits together. -/
def safeNames (names : List Bytes) : Bool :=
  names.all (fun name => (safePath name).isOk) && decide (names.map lowerCase).Nodup

theorem readable_listed (names : safeNames ((listed tree).map Prod.fst) = true)
    (sizes : ∀ entry ∈ tree.entries, entry.2.length ≤ kMaxJsonBytes)
    (limits : FitsLimits tree.entries) : Readable (listed tree) := by
  simp only [safeNames, Bool.and_eq_true, List.all_eq_true, decide_eq_true_eq] at names
  refine ⟨?_, by simpa [List.map_map, Function.comp_def] using names.2, by rwa [listed_plainFile]⟩
  intro item member
  have safe : safePath item.1 = .ok () :=
    eq_ok_valueOr () (names.1 item.1 (List.mem_map_of_mem member))
  refine ⟨safe, ?_⟩
  rcases mem_append.mp member with directory | file
  · obtain ⟨_, _, rfl⟩ := mem_map.mp directory
    exact .inl rfl
  · obtain ⟨entry, inside, rfl⟩ := mem_map.mp file
    exact .inr ⟨_, rfl, sizes entry inside⟩

/-- Everything about a padded candidate that does not depend on how large it is. -/
structure SamplePacks (padding : List (Bytes × Bytes)) : Prop where
  distinct : ((sampleInputs ++ padding).map Prod.fst).Nodup
  names : safeNames ((listed (sampleTree padding)).map Prod.fst) = true
  stagedNames : safeNames ((listed (sampleStage padding)).map Prod.fst) = true
  referenced : (references tokenNumerals (sampleTree padding)).isOk = true
  valid : (validatePolicy samplePolicy (sampleTree padding)).isOk = true
  staged : (stageFiles samplePlatform (sampleTree padding) samplePolicy).isOk = true
  isSealed : (sealStage samplePlatform (sampleStage padding) (sampleManifest padding) ()).isOk = true

theorem samplePolicy_distinct : Distinct samplePolicyFields :=
  show ((samplePolicyFields.map Prod.fst).map ascii).Nodup by decide +kernel

theorem samplePolicy_within : samplePolicy.Within (kMaxJsonDepth + 1) := by
  refine object_within samplePolicy_distinct ?_
  simp [samplePolicyFields, textOf, Json.Within, kMaxJsonDepth]

theorem sampleAssessment_within : sampleAssessment.Within (kMaxJsonDepth + 1) := by
  refine object_within (show (map ascii ["surveillance", "eligibility"]).Nodup by decide) ?_
  rw [forall_mem_cons, forall_mem_cons]
  refine ⟨?_, ?_, nofun⟩
  · refine object_within (show (map ascii ["cadence_months",
      "recertification_review_required"]).Nodup by decide) ?_
    simp [Json.Within]
  · refine object_within (show (map ascii ["all_mandatory_gates_passed"]).Nodup by decide) ?_
    simp [Json.Within]

theorem sample_manifest :
    makeManifest samplePlatform contents samplePolicy () "private" "-" =
      .ok (manifestOf samplePlatform contents (ascii "bundle") (ascii "2026-01-01")
        (ascii "2026-12-31") ()) := by
  rfl

theorem sample_lifecycle : ∃ date state, creationCheckDate samplePolicy = .ok date ∧
    lifecycle samplePolicy sampleAssessment date = .ok state := by
  have dated : (creationCheckDate samplePolicy).isOk = true := by decide +kernel
  have known : (lifecycle samplePolicy sampleAssessment
    (valueOr [] (creationCheckDate samplePolicy))).isOk = true := by decide +kernel
  exact ⟨_, _, eq_ok_valueOr [] dated, eq_ok_valueOr .null known⟩

/-- The bytes of a stage beside those of the padding. -/
def sampleOverhead : Nat :=
  byteCount sampleInputs + (document samplePolicy).length +
    (document (rules tokenNumerals)).length + (document sampleAssessment).length

theorem sampleOverhead_small : sampleOverhead ≤ kMaxJsonBytes := by decide +kernel

theorem sample_policy : readJson tokenNumerals samplePolicyFile = .ok samplePolicy := by
  have overhead := sampleOverhead_small
  unfold sampleOverhead at overhead
  simp only [readJson, readNamed, samplePolicyFile, bind_eq_ok, regular_eq_ok, readFile_eq_ok]
  exact ⟨document samplePolicy, ⟨_, rfl, by omega, rfl⟩, parseJson_canonical samplePolicy_within⟩

theorem sample_secret : loadKey samplePlatform sampleSecretFile = .ok () :=
  eq_ok_valueOr () (by decide +kernel)

section Sample

variable {padding : List (Bytes × Bytes)} (facts : SamplePacks padding)

include facts

theorem sampleTree_perm :
    (sampleTree padding).entries.Perm (sampleInputs ++ padding) :=
  ofEntries_perm facts.distinct

theorem sampleStage_staged :
    stageFiles samplePlatform (sampleTree padding) samplePolicy = .ok (sampleStage padding) ∧
      Staged samplePlatform (sampleTree padding) samplePolicy (document sampleAssessment)
        (sampleStage padding) := by
  have made := eq_ok_valueOr empty facts.staged
  obtain ⟨assessment, staged⟩ := stageFiles_staged made
  cases staged.assessed.symm.trans (show samplePlatform.assess _ = .ok (document sampleAssessment) from rfl)
  rw [staged.eq_stagedFiles] at made staged
  exact ⟨made, staged⟩

theorem sampleStage_bytes :
    byteCount (stagedEntries (sampleTree padding) samplePolicy (document sampleAssessment)) =
      byteCount padding + sampleOverhead := by
  have moved : byteCount ((sampleTree padding).entries.map
      fun entry => (kCandidate ++ entry.1, entry.2)) = byteCount (sampleInputs ++ padding) := by
    rw [← byteCount_perm (sampleTree_perm facts)]
    simp [byteCount, Function.comp_def]
  rw [stagedEntries, byteCount_append, moved, byteCount_append, sampleOverhead]
  simp only [byteCount_cons, byteCount_nil]
  omega

theorem sampleStage_limits (count : padding.length + 12 ≤ kMaxFiles)
    (bytes : byteCount padding + sampleOverhead ≤ kMaxTotalBytes) :
    FitsLimits (sampleTree padding).entries ∧ FitsLimits (sampleStage padding).entries := by
  have tree := sampleTree_perm facts
  have stage := (sampleStage_staged facts).2.contained
  have total := sampleStage_bytes facts
  refine ⟨FitsLimits.perm ⟨?_, ?_⟩ tree.symm, FitsLimits.perm ⟨?_, ?_⟩ stage.symm⟩
  · rw [length_append]
    exact (Nat.add_le_add_right (by decide : sampleInputs.length ≤ 12) _).trans (by omega)
  · rw [byteCount_append]
    unfold sampleOverhead at bytes
    omega
  · rw [stagedEntries, length_append, length_map, tree.length_eq, length_append]
    have inputs : sampleInputs.length = 9 := by decide
    simp only [inputs, length_cons, List.length_nil]
    omega
  · exact total ▸ bytes

theorem sampleStage_sizes (small : ∀ entry ∈ padding, entry.2.length ≤ kMaxJsonBytes) :
    (∀ entry ∈ (sampleTree padding).entries, entry.2.length ≤ kMaxJsonBytes) ∧
      ∀ entry ∈ (sampleStage padding).entries, entry.2.length ≤ kMaxJsonBytes := by
  have overhead := sampleOverhead_small
  unfold sampleOverhead at overhead
  have inputs : ∀ entry ∈ sampleInputs, entry.2.length ≤ kMaxJsonBytes := by
    intro entry member
    have part := length_le_byteCount member
    omega
  have tree : ∀ entry ∈ (sampleTree padding).entries, entry.2.length ≤ kMaxJsonBytes := by
    intro entry member
    rcases mem_append.mp ((sampleTree_perm facts).mem_iff.mp member) with input | padded
    · exact inputs entry input
    · exact small entry padded
  refine ⟨tree, fun entry member => ?_⟩
  rcases mem_append.mp ((sampleStage_staged facts).2.contained.mem_iff.mp member) with
    candidate | other
  · obtain ⟨original, inside, rfl⟩ := mem_map.mp candidate
    exact tree original inside
  · simp only [List.mem_cons, not_mem_nil, or_false] at other
    rcases other with rfl | rfl | rfl <;> dsimp only <;> omega

variable (small : ∀ entry ∈ padding, entry.2.length ≤ kMaxJsonBytes)
  (count : padding.length + 12 ≤ kMaxFiles)
  (bytes : byteCount padding + sampleOverhead ≤ kMaxTotalBytes)

include small count bytes

theorem sample_files :
    files (candidateWith padding) = .ok (sampleTree padding) :=
  files_eq_ok.mpr ⟨readable_listed facts.names (sampleStage_sizes facts small).1
    (sampleStage_limits facts count bytes).1,
    List.Perm.of_eq (listed_plainFile _).symm⟩

/-- A padded candidate within the limits of its stage is packed. -/
theorem sample_pack :
    pack samplePlatform tokenNumerals (candidateWith padding) samplePolicyFile sampleSecretFile
      sampleDestination = .ok (sampleBundle padding) := by
  have overhead := sampleOverhead_small
  unfold sampleOverhead at overhead
  obtain ⟨date, state, dated, known⟩ := sample_lifecycle
  obtain ⟨made, staged⟩ := sampleStage_staged facts
  have outside : (!below sampleDestination.path [ascii "candidate"]) = true ∧
      (!below sampleSecretFile.path [ascii "candidate"]) = true := by
    decide
  have readable := readable_listed facts.stagedNames (sampleStage_sizes facts small).2
    (sampleStage_limits facts count bytes).2
  simp only [pack, bind_eq_ok, require_eq_ok, readFile_eq_ok]
  exact ⟨_, sample_files facts small count bytes, (), eq_ok_valueOr () facts.referenced,
    (), outside.1, (), outside.2, _, sample_policy, (), eq_ok_valueOr () facts.valid,
    (), sample_secret, (), rfl, _, made, date, dated, _, staged.assessment_at, _,
    ⟨by omega, rfl⟩, _, parseJson_canonical sampleAssessment_within, state, known,
    _, files_eq_ok.mpr ⟨readable, List.Perm.of_eq (listed_plainFile _).symm⟩, _, sample_manifest,
    _, eq_ok_valueOr empty facts.isSealed, (), rfl, rfl⟩

end Sample

theorem sample_date (member : (key, textOf "2026-01-01") ∈ samplePolicyFields) :
    dateField samplePolicy key = .ok (ascii "2026-01-01") := by
  rw [dateField, samplePolicy, jsonString_object samplePolicy_distinct member]
  have valid : validIsoDate (ascii "2026-01-01") = true := by decide
  simp [bind, Except.bind, require, valid, pure, Except.pure]

theorem sample_notBefore : NotBefore samplePolicy (ascii "2026-06-01") := by
  have started := @sample_date "created_on" (by simp [samplePolicyFields])
  have surveyed := @sample_date "last_surveillance_on" (by simp [samplePolicyFields])
  have changes : jsonMember samplePolicy "changes" = .ok (.array []) :=
    jsonMember_object samplePolicy_distinct (by simp [samplePolicyFields])
  refine ⟨by decide, fun date same => ?_, fun date same => ?_, fun value same change member => ?_⟩
  · cases started.symm.trans same
    decide
  · cases surveyed.symm.trans same
    decide
  · cases changes.symm.trans same
    cases member

/-- The sample candidate packs into a bundle that verifies. -/
theorem sampleBundle_verifies : ∃ verified,
    verify samplePlatform tokenNumerals ⟨[ascii "bundle"], some (listed (sampleBundle []))⟩ ()
      (ascii "2026-06-01") = .ok verified := by
  have facts : SamplePacks [] := by constructor <;> decide +kernel
  have count : ([] : List (Bytes × Bytes)).length + 12 ≤ kMaxFiles := by decide
  have overhead := sampleOverhead_small
  have bytes : byteCount [] + sampleOverhead ≤ kMaxTotalBytes := by
    rw [byteCount_nil, Nat.zero_add]
    exact overhead.trans (by decide)
  have packed := sample_pack facts nofun count bytes
  have read := sample_files facts nofun count bytes
  refine (verify_pack_iff packed read sample_policy sample_secret (List.Perm.refl _)
    sample_notBefore).mpr ?_
  obtain ⟨assessment, stage, manifest, done⟩ :=
    pack_packed packed read sample_policy sample_secret
  refine done.fitsLimits_iff.mp ⟨?_, ?_⟩
  · rw [(sealStage_perm done.made).length_eq, length_cons, length_cons,
      done.staged.contained.length_eq, stagedEntries, length_append, length_map,
      (sampleTree_perm facts).length_eq]
    change 9 + 3 + 1 + 1 ≤ 1024
    decide
  · cases done.staged.assessed
    have small := done.manifest_small
    have total := sampleStage_bytes facts
    rw [done.byteCount_bundle, total, byteCount_nil]
    unfold kMaxTotalBytes
    unfold kMaxJsonBytes at small overhead
    omega

/-- Evidence files of given sizes. -/
def paddingFiles (index : Nat) : List Nat → List (Bytes × Bytes)
  | [] => []
  | size :: sizes =>
    (ascii "evidence/p" ++ padded 1 index, replicate size 0) :: paddingFiles (index + 1) sizes

theorem paddingFiles_bytes : byteCount (paddingFiles index sizes) = sizes.sum := by
  induction sizes generalizing index with
  | nil => rfl
  | cons size sizes ih =>
    rw [paddingFiles, byteCount_cons, List.length_replicate, ih, List.sum_cons]

theorem paddingFiles_sizes : ∀ entry ∈ paddingFiles index sizes, entry.2.length ∈ sizes := by
  induction sizes generalizing index with
  | nil => simp [paddingFiles]
  | cons size sizes ih =>
    rw [paddingFiles, forall_mem_cons, List.length_replicate]
    exact ⟨List.mem_cons_self, fun entry member =>
      List.mem_cons_of_mem _ (ih entry member)⟩

/-- Eight sizes that fill a stage up to its limit. -/
def fullSizes : List Nat := replicate 7 kMaxJsonBytes ++ [kMaxJsonBytes - sampleOverhead]

def fullPadding : List (Bytes × Bytes) := paddingFiles 0 fullSizes

theorem fullPadding_bytes : byteCount fullPadding + sampleOverhead = kMaxTotalBytes := by
  have overhead := sampleOverhead_small
  have limits : kMaxTotalBytes = 8 * kMaxJsonBytes := by decide
  rw [fullPadding, paddingFiles_bytes, fullSizes, List.sum_append, List.sum_replicate_nat,
    List.sum_singleton, limits]
  omega

/-- A candidate that fills its stage is packed, and the bundle never verifies. -/
theorem fullCandidate_unverifiable :
    pack samplePlatform tokenNumerals (candidateWith fullPadding) samplePolicyFile sampleSecretFile
      sampleDestination = .ok (sampleBundle fullPadding) ∧
    NotBefore samplePolicy (ascii "2026-06-01") ∧
    ¬∃ verified, verify samplePlatform tokenNumerals
      ⟨[ascii "bundle"], some (listed (sampleBundle fullPadding))⟩ ()
      (ascii "2026-06-01") = .ok verified := by
  have facts : SamplePacks fullPadding := by constructor <;> decide +kernel
  have small : ∀ entry ∈ fullPadding, entry.2.length ≤ kMaxJsonBytes := by
    intro entry member
    rcases mem_append.mp (paddingFiles_sizes entry member) with whole | last
    · exact (List.eq_of_mem_replicate whole).le
    · rw [List.mem_singleton.mp last]
      exact Nat.sub_le _ _
  have count : fullPadding.length + 12 ≤ kMaxFiles := by decide +kernel
  have packed := sample_pack facts small count fullPadding_bytes.le
  obtain ⟨assessment, stage, manifest, done⟩ := pack_packed packed
    (sample_files facts small count fullPadding_bytes.le) sample_policy sample_secret
  refine ⟨packed, sample_notBefore, ?_⟩
  rintro ⟨verified, succeeded⟩
  obtain ⟨all, readBundle⟩ := verify_reads succeeded
  have limits := ((done.files_bundle (List.Perm.refl _)).mp readBundle).1.bytes
  cases done.staged.assessed
  rw [done.byteCount_bundle, sampleStage_bytes facts, fullPadding_bytes] at limits
  omega

end ShortHand.Evidence
