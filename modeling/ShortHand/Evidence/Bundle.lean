import ShortHand.Evidence.Policy

/-! Signed auditor bundles: the manifest, `pack` and `verify`. Cryptography, the assessment and
the directory order are the platform's. -/

namespace ShortHand.Evidence

open ShortHand.Library

variable {N : Numerals}

/-- Ed25519, the digest, the deterministic assessment of a candidate directory, and the
file system with its private staging directories. -/
structure Platform where
  Secret : Type
  Public : Type
  /-- The Ed25519 private key of a PEM file, if it holds one. -/
  readSecret : Bytes → Option Secret
  publicOf : Secret → Public
  rawKey : Public → Bytes
  sign : Secret → Bytes → Bytes
  accepts : Public → Bytes → Bytes → Bool
  sha256 : Bytes → Bytes
  assess : Files → Except String Bytes
  iterate : Listing → Listing
  stage : List Bytes
  replay : List Bytes
  sign_length : ∀ secret payload, (sign secret payload).length = 64
  accepts_sign : ∀ secret payload, accepts (publicOf secret) (sign secret payload) payload = true
  sha256_length : ∀ bytes, (sha256 bytes).length = 64
  iterate_perm : ∀ listing, (iterate listing).Perm listing

variable (P : Platform)

def kSchema : Bytes := ascii "shorthand.c3eco.auditor_bundle.v1"

def kRulesId : Bytes := ascii "shorthand.c3eco.rules.v0.6+v0.7-20260718.v1"

def hex (bytes : Bytes) : Bytes :=
  bytes.flatMap fun byte => [hexDigit (byte.val / 16), hexDigit (byte.val % 16)]

def unhexDigit (byte : Byte) : Except String Nat :=
  if 48 ≤ byte ∧ byte ≤ 57 then .ok (byte.val - 48)
  else if 97 ≤ byte ∧ byte ≤ 102 then .ok (byte.val - 87)
  else .error "invalid hexadecimal character"

def unhexPairs : Bytes → Except String Bytes
  | high :: low :: rest => do
    let upper ← unhexDigit high
    let lower ← unhexDigit low
    let later ← unhexPairs rest
    return Fin.ofNat 256 (upper * 16 + lower) :: later
  | _ => .ok []

def unhex (value : Bytes) (bytes : Nat) : Except String Bytes := do
  require (value.length = bytes * 2) "invalid hexadecimal length"
  unhexPairs value

def keyId (key : P.Public) : Bytes := P.sha256 (P.rawKey key)

def message (manifest : Bytes) : Bytes := kSchema ++ 10 :: manifest

def sign (key : P.Secret) (manifest : Bytes) : Bytes := hex (P.sign key (message manifest))

def verifySignature (key : P.Public) (manifest signature : Bytes) : Except String Unit := do
  let bytes ← unhex signature 64
  require (P.accepts key bytes (message manifest)) "manifest signature verification failed"

def gateAliases : List String :=
  ["G1", "G2", "G3", "G4", "G5/G6", "G7", "G8", "G9", "G10", "G11", "G12",
    "eligibility-prerequisite", "G13", "G14"]

def gateMapping : List (Json N) :=
  gateAliases.zipIdx.map fun gate => object [
    ("canonical", .string (ascii ("G" ++ toString (gate.2 + 1)))),
    ("overlay", .string (ascii gate.1))]

/-- The rule mapping compiled into the tool. -/
def rules (N : Numerals) : Json N := object [
  ("schema", .string kRulesId),
  ("normative_candidate", .string (ascii "draft-v0.6")),
  ("inclusion_overlay", .string (ascii "draft-v0.7-2026-07-18")),
  ("authority_review_draft", .boolean true),
  ("gate_mapping", .array gateMapping),
  ("overlay_G6", .string (ascii "cost_if_claimed; canonical G5 workbook and G10 claims")),
  ("assessment_contract", .string (ascii "shorthand.c3eco.assessment.v1")),
  ("criteria_count", .number (N.ofNat 76)),
  ("conflict_policy", .string (ascii ("retain canonical v0.6 ids; apply stricter applicable " ++
    "requirement; independent authority review"))),
  ("estimated_intake",
    .string (ascii "separate readiness only; never inserted into measured workbook v1"))]

def inventoryFields (entry : Bytes × Bytes) : List (String × Json N) := [
  ("path", .string entry.1),
  ("bytes", .number (N.ofNat entry.2.length)),
  ("sha256", .string (P.sha256 entry.2))]

def inventory (contents : Files) : Json N :=
  .array (contents.entries.map fun entry => object (inventoryFields P entry))

def manifestFields (contents : Files) (bundleId created validUntil : Json N) (key : P.Public)
    (kind source : String) : List (String × Json N) := [
  ("schema", .string kSchema),
  ("kind", .string (ascii kind)),
  ("bundle_id", bundleId),
  ("signer_key_id", .string (keyId P key)),
  ("signature_algorithm", .string (ascii "Ed25519")),
  ("rules_id", .string kRulesId),
  ("created_on", created),
  ("valid_until", validUntil),
  ("source_manifest_sha256", .string (ascii source)),
  ("artifacts", inventory P contents),
  ("official_certification_granted", .boolean false),
  ("level_claim_permitted", .boolean false),
  ("comparative_energy_claim", .boolean false),
  ("production_claim", .boolean false)]

def makeManifest (contents : Files) (policy : Json N) (key : P.Public) (kind source : String) :
    Except String (Json N) := do
  let bundleId ← jsonMember policy "bundle_id"
  let created ← jsonMember policy "created_on"
  let validUntil ← jsonMember policy "valid_until"
  return object (manifestFields P contents bundleId created validUntil key kind source)

/-- The file that `writeJson` writes. -/
def document (value : Json N) : Bytes := canonical value ++ [10]

/-- A file by its canonical path. -/
structure NamedFile where
  path : List Bytes
  entry : Entry

/-- Where a bundle goes: its canonical path, whether something is there, and whether its
parent is a directory. -/
structure Destination where
  path : List Bytes
  taken : Bool
  parentExists : Bool

def readNamed (file : NamedFile) : Except String Bytes := do
  let contents ← regular (joined file.path) file.entry
  readFile (joined file.path) contents

def readJson (N : Numerals) (file : NamedFile) : Except String (Json N) := do
  parseJson N (← readNamed file)

def loadKey (file : NamedFile) : Except String P.Secret := do
  let contents ← readNamed file
  require (contents.length < 16384) "key file too large"
  match P.readSecret contents with
  | none => .error "an explicit Ed25519 key is required"
  | some secret => .ok secret

def kCandidate : Bytes := ascii "candidate/"

/-- The files below a directory of a tree, by their path there. -/
def filesBelow (directory : Bytes) (tree : Files) : Files :=
  OrderedMap.ofEntries ((tree.entries.filter fun entry => directory.isPrefixOf entry.1).map
    fun entry => (entry.1.drop directory.length, entry.2))

/-- Assess the candidate of a stage and leave the result beside it. -/
def assessDirectory (tree : Files) : Except String Files := do
  let assessment ← P.assess (filesBelow kCandidate tree)
  return tree.insert (ascii "assessment.json") assessment

/-- The first date at which all evidence of a policy is past. -/
def creationCheckDate (policy : Json N) : Except String Bytes := do
  let last ← dateField policy "last_surveillance_on"
  (itemsOf (← jsonMember policy "changes")).foldlM (fun date change => do
    let observed ← dateField change "observed_on"
    return max date observed) last

/-- The stage with everything that the manifest lists. -/
def stageFiles (input : Files) (policy : Json N) : Except String Files := do
  let stage ← writeBelow kCandidate OrderedMap.empty input.entries
  let stage ← write stage (ascii "policy.json") (document policy)
  let stage ← write stage (ascii "rules.json") (document (rules N))
  assessDirectory P stage

def sealStage (stage : Files) (manifest : Json N) (key : P.Secret) : Except String Files := do
  let stage ← write stage (ascii "manifest.json") (document manifest)
  write stage (ascii "manifest.sig") (sign P key (document manifest))

def pack (N : Numerals) (candidate : Root) (policyFile secret : NamedFile)
    (destination : Destination) : Except String Files := do
  let input ← files candidate
  references N input
  require (!below destination.path candidate.path) "output cannot be inside candidate input"
  require (!below secret.path candidate.path) "signing key must be outside evidence inputs"
  let policy ← readJson N policyFile
  validatePolicy policy input
  let key ← loadKey P secret
  require destination.parentExists "staging parent must exist"
  let stage ← stageFiles P input policy
  let date ← creationCheckDate policy
  let assessment ← contentsAt stage "assessment.json"
  let assessment ← parseJson N (← readFile (joined P.stage ++ ascii "/assessment.json") assessment)
  let _ ← lifecycle policy assessment date
  let staged ← files ⟨P.stage, some (P.iterate (listed stage))⟩
  let manifest ← makeManifest P staged policy (P.publicOf key) "private" "-"
  let bundle ← sealStage P stage manifest key
  require (!destination.taken) "destination already exists"
  return bundle

structure Verified (N : Numerals) where
  manifest : Json N
  contents : Files
  policy : Json N
  assessment : Json N
  state : Json N
  digest : Bytes

/-- The manifest of a bundle, signed by the key and in canonical form. -/
def signedManifest (N : Numerals) (all : Files) (key : P.Public) : Except String (Json N) := do
  require (all.contains (ascii "manifest.json") && all.contains (ascii "manifest.sig"))
    "signed manifest is required"
  let manifestBytes ← contentsAt all "manifest.json"
  verifySignature P key manifestBytes (← contentsAt all "manifest.sig")
  let manifest ← parseJson N manifestBytes
  require (document manifest = manifestBytes) "manifest is not canonical"
  return manifest

/-- The contract of a manifest apart from its artifacts. -/
def manifestContract (key : P.Public) (manifest : Json N) : Except String Unit := do
  requireExactKeys manifest ["artifacts", "bundle_id", "comparative_energy_claim", "created_on",
    "kind", "level_claim_permitted", "official_certification_granted", "production_claim",
    "rules_id", "schema", "signature_algorithm", "signer_key_id", "source_manifest_sha256",
    "valid_until"] "signed manifest"
  let schema ← jsonString manifest "schema"
  require (schema = kSchema) "unsupported bundle or rules version"
  let rulesId ← jsonString manifest "rules_id"
  require (rulesId = kRulesId) "unsupported bundle or rules version"
  let algorithm ← jsonString manifest "signature_algorithm"
  require (algorithm = ascii "Ed25519") "untrusted signer"
  let signer ← jsonString manifest "signer_key_id"
  require (signer = keyId P key) "untrusted signer"
  ["official_certification_granted", "level_claim_permitted", "comparative_energy_claim",
    "production_claim"].forM fun flag => do
      let claimed ← jsonBoolean manifest flag
      require (!claimed) "unsupported bundle claim"

/-- One artifact of a private bundle, candidate files collected by their path there. -/
def privateArtifact (input : Files) (entry : Bytes × Bytes) : Except String Files :=
  if kCandidate.isPrefixOf entry.1 then
    .ok ((input.emplace (entry.1.drop 10) entry.2).getD input)
  else do
    require (entry.1 = ascii "policy.json" || entry.1 = ascii "assessment.json" ||
      entry.1 = ascii "rules.json") "unexpected private artifact"
    return input

/-- Assess a private copy of the candidate again. -/
def replayAssessment (input : Files) : Except String Bytes := do
  let replay ← writeBelow kCandidate OrderedMap.empty input.entries
  let replay ← assessDirectory P replay
  readFile (joined P.replay ++ ascii "/assessment.json") (← contentsAt replay "assessment.json")

/-- Identity and validity of a manifest are those of the policy. -/
def policyMatch (manifest policy : Json N) : Except String Unit :=
  ["bundle_id", "created_on", "valid_until"].forM fun field => do
    let claimed ← jsonString manifest field
    let stated ← jsonString policy field
    require (claimed = stated) "manifest policy mismatch"

def verify (N : Numerals) (root : Root) (key : P.Public) (asOf : Bytes) :
    Except String (Verified N) := do
  let all ← files root
  let manifest ← signedManifest P N all key
  manifestContract P key manifest
  let contents := (all.erase (ascii "manifest.json")).erase (ascii "manifest.sig")
  let artifacts ← jsonMember manifest "artifacts"
  require (canonical artifacts = canonical (inventory P contents : Json N))
    "artifact inventory or digest mismatch"
  let kind ← jsonString manifest "kind"
  require (kind = ascii "private") "private bundle required for independent replay"
  let source ← jsonString manifest "source_manifest_sha256"
  require (source = ascii "-") "invalid private lineage source"
  let input ← contents.entries.foldlM privateArtifact OrderedMap.empty
  references N input
  require (contents.contains (ascii "policy.json") && contents.contains (ascii "assessment.json") &&
    contents.contains (ascii "rules.json")) "private artifacts missing"
  let rulesBytes ← contentsAt contents "rules.json"
  require (rulesBytes = document (rules N)) "rule mapping differs from compiled contract"
  let policy ← parseJson N (← contentsAt contents "policy.json")
  validatePolicy policy input
  policyMatch manifest policy
  let replayed ← replayAssessment P input
  let assessmentBytes ← contentsAt contents "assessment.json"
  require (replayed = assessmentBytes) "assessment replay differs from signed output"
  let assessment ← parseJson N assessmentBytes
  let state ← lifecycle policy assessment asOf
  let manifestBytes ← contentsAt all "manifest.json"
  return ⟨manifest, contents, policy, assessment, state, P.sha256 manifestBytes⟩

end ShortHand.Evidence
