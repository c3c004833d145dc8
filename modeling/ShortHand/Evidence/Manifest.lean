import ShortHand.Evidence.RoundTrip
import ShortHand.Evidence.Bundle

/-! Objects built by the tool are read back field by field; a manifest is within the limits. -/

namespace ShortHand.Evidence

open ShortHand.Library List
open List (forall_mem_cons length_append length_cons map_cons not_mem_nil sum_cons)

variable {N : Numerals}

section Objects

variable {fields : List (String × Json N)} {key : String} {value : Json N}

/-- The keys of an object do not repeat. -/
def Distinct (fields : List (String × Json N)) : Prop := ((fields.map Prod.fst).map ascii).Nodup

theorem object_perm (distinct : Distinct fields) :
    (OrderedMap.ofEntries (fields.map fun field => (ascii field.1, field.2))).entries.Perm
      (fields.map fun field => (ascii field.1, field.2)) := by
  refine OrderedMap.ofEntries_perm ?_
  have keys : (fields.map fun field => (ascii field.1, field.2)).map Prod.fst =
      (fields.map Prod.fst).map ascii := by
    simp
  rwa [keys]

theorem lookup_object (distinct : Distinct fields) (member : (key, value) ∈ fields) :
    (OrderedMap.ofEntries (fields.map fun field => (ascii field.1, field.2))).entries.lookup
      (ascii key) = some value :=
  (lookup_eq_some_iff_mem (OrderedMap.ordered _).nodup).mpr
    ((object_perm distinct).mem_iff.mpr (mem_map.mpr ⟨_, member, rfl⟩))

theorem jsonMember_object (distinct : Distinct fields) (member : (key, value) ∈ fields) :
    jsonMember (object fields) key = .ok value := by
  simp only [jsonMember, object, lookup_object distinct member]

theorem jsonString_object (distinct : Distinct fields) (member : (key, .string text) ∈ fields) :
    jsonString (object fields) key = .ok text := by
  rw [jsonString, jsonMember_object distinct member]
  rfl

theorem jsonBoolean_object (distinct : Distinct fields) (member : (key, .boolean flag) ∈ fields) :
    jsonBoolean (object fields) key = .ok flag := by
  rw [jsonBoolean, jsonMember_object distinct member]
  rfl

theorem requireMembers_eq_ok {members : List (Bytes × Json N)}
    (present : ∀ key ∈ names, (members.lookup (ascii key)).isSome) :
    requireMembers members description names = .ok () := by
  induction names with
  | nil => rfl
  | cons key names ih =>
    rw [forall_mem_cons] at present
    rw [requireMembers, if_pos present.1]
    exact ih present.2

theorem requireExactKeys_object {keys : List String} (distinct : Distinct fields)
    (count : keys.length = fields.length) (present : ∀ key ∈ keys, key ∈ fields.map Prod.fst) :
    requireExactKeys (object fields) keys description = .ok () := by
  have length := (object_perm distinct).length_eq
  simp only [requireExactKeys, object]
  rw [if_neg (by rw [length, count]; simp)]
  refine requireMembers_eq_ok fun key inside => ?_
  obtain ⟨⟨_, value⟩, member, rfl⟩ := mem_map.mp (present key inside)
  exact Option.isSome_of_eq_some (lookup_object distinct member)

theorem object_within (distinct : Distinct fields)
    (each : ∀ field ∈ fields, field.2.Within levels) : (object fields).Within (levels + 1) := by
  refine ⟨OrderedMap.ordered _, fun member inside => ?_⟩
  obtain ⟨field, isField, rfl⟩ := mem_map.mp ((object_perm distinct).mem_iff.mp inside)
  exact each field isField

theorem quoted_length (value : Bytes) : (quoted value).length ≤ 6 * value.length + 2 := by
  have escaped : (jsonEscape value).length ≤ 6 * value.length := by
    induction value with
    | nil => exact Nat.le_refl _
    | cons byte value ih =>
      have one : (escapeByte byte).length ≤ 6 := by
        unfold escapeByte
        split_ifs <;> simp
      rw [jsonEscape, flatMap_cons, length_append, length_cons]
      unfold jsonEscape at ih
      omega
  rw [quoted, length_append, length_cons, length_singleton]
  omega

/-- A member with its colon and a comma. -/
def memberSize (member : Bytes × Json N) : Nat :=
  (quoted member.1).length + (canonical member.2).length + 2

theorem laterMembers_size : (laterMembers members).length = (members.map memberSize).sum := by
  induction members with
  | nil => rfl
  | cons member members ih =>
    rw [laterMembers, length_cons, length_append, length_cons, length_append,
      ih, map_cons, sum_cons, memberSize]
    omega

theorem canonicalMembers_size :
    (canonicalMembers members).length ≤ (members.map memberSize).sum := by
  cases members with
  | nil => exact Nat.le_refl _
  | cons member members =>
    rw [canonicalMembers, length_append, length_cons, length_append,
      laterMembers_size, map_cons, sum_cons, memberSize]
    omega

theorem canonical_object_size (distinct : Distinct fields) :
    (canonical (object fields)).length ≤
      (fields.map fun field => memberSize (ascii field.1, field.2)).sum + 2 := by
  have size := @canonicalMembers_size _
    (OrderedMap.ofEntries (fields.map fun field => (ascii field.1, field.2))).entries
  rw [((object_perm distinct).map memberSize).sum_eq, map_map] at size
  rw [object, canonical, length_append]
  exact Nat.add_le_add_right (Nat.succ_le_succ size) 1

theorem canonical_array_size {items : List (Json N)} {bound : Nat}
    (each : ∀ item ∈ items, (canonical item).length ≤ bound) :
    (canonical (.array items)).length ≤ items.length * (bound + 1) + 2 := by
  have later : ∀ items : List (Json N), (∀ item ∈ items, (canonical item).length ≤ bound) →
      (laterItems items).length ≤ items.length * (bound + 1) := by
    intro items each
    induction items with
    | nil => exact Nat.zero_le _
    | cons item items ih =>
      rw [forall_mem_cons] at each
      have rest := ih each.2
      rw [laterItems, length_cons, length_append, length_cons, Nat.succ_mul]
      omega
  rw [canonical, length_append, length_cons, length_singleton]
  cases items with
  | nil => simp [canonicalItems]
  | cons item items =>
    rw [forall_mem_cons] at each
    have rest := later items each.2
    rw [canonicalItems, length_append, length_cons, Nat.succ_mul]
    omega

end Objects

section Manifest

variable {P : Platform} {contents : Files} {key : P.Public} {id created validUntil : Bytes}

theorem inventory_distinct : Distinct (inventoryFields P entry : List (_ × Json N)) :=
  show (map ascii ["path", "bytes", "sha256"]).Nodup by decide

theorem inventory_within : (inventory P contents : Json N).Within (levels + 3) := by
  intro item member
  obtain ⟨entry, _, rfl⟩ := mem_map.mp member
  refine object_within inventory_distinct ?_
  simp [inventoryFields, Json.Within]

theorem inventoryFields_size (short : entry.1.length ≤ 512)
    (bounded : entry.2.length ≤ kMaxTotalBytes) :
    (canonical (object (inventoryFields P entry) : Json N)).length ≤ 3600 := by
  refine (canonical_object_size inventory_distinct).trans ?_
  have path := quoted_length entry.1
  have digest := quoted_length (P.sha256 entry.2)
  have number := N.text_length entry.2.length (lt_of_le_of_lt bounded (by decide))
  have pathKey : (quoted (ascii "path")).length = 6 := by decide
  have bytesKey : (quoted (ascii "bytes")).length = 7 := by decide
  have digestKey : (quoted (ascii "sha256")).length = 8 := by decide
  rw [P.sha256_length] at digest
  simp only [inventoryFields, map_cons, map_nil, sum_cons, sum_nil, memberSize,
    canonical, pathKey, bytesKey, digestKey]
  omega

/-- A manifest whose bundle id and dates are strings. -/
def manifestOf (P : Platform) (contents : Files) (id created validUntil : Bytes) (key : P.Public) :
    Json N :=
  object (manifestFields P contents (.string id) (.string created) (.string validUntil) key
    "private" "-")

/-- The keys of a manifest, in the order of the source. -/
def manifestKeys : List String :=
  ["schema", "kind", "bundle_id", "signer_key_id", "signature_algorithm", "rules_id", "created_on",
    "valid_until", "source_manifest_sha256", "artifacts", "official_certification_granted",
    "level_claim_permitted", "comparative_energy_claim", "production_claim"]

theorem manifest_distinct : Distinct (manifestFields P contents (.string id : Json N)
    (.string created) (.string validUntil) key "private" "-") :=
  show (manifestKeys.map ascii).Nodup by decide

theorem manifest_within :
    (manifestOf P contents id created validUntil key : Json N).Within (kMaxJsonDepth + 1) := by
  refine object_within manifest_distinct ?_
  have artifacts : (inventory P contents : Json N).Within kMaxJsonDepth := inventory_within
  simp only [manifestFields, forall_mem_cons, not_mem_nil, false_imp_iff, implies_true,
    and_true]
  exact ⟨trivial, trivial, trivial, trivial, trivial, trivial, trivial, trivial, trivial, artifacts,
    trivial, trivial, trivial, trivial⟩

/-- The manifest of a bundle that was read within its limits is a small file. -/
theorem manifest_size (paths : ∀ entry ∈ contents.entries, entry.1.length ≤ 512)
    (limits : FitsLimits contents.entries) (shortId : id.length ≤ 128)
    (shortCreated : created.length ≤ 10) (shortUntil : validUntil.length ≤ 10) :
    (document (manifestOf P contents id created validUntil key : Json N)).length ≤ kMaxJsonBytes := by
  have artifacts : (canonical (inventory P contents : Json N)).length ≤ 3700000 := by
    refine (@canonical_array_size _ _ 3600 ?_).trans ?_
    · intro item member
      obtain ⟨entry, inside, rfl⟩ := mem_map.mp member
      exact inventoryFields_size (paths entry inside)
        ((length_le_byteCount inside).trans limits.bytes)
    · have count := limits.count
      rw [length_map]
      unfold kMaxFiles at count
      omega
  have named := quoted_length id
  have started := quoted_length created
  have ended := quoted_length validUntil
  have signer := quoted_length (keyId P key)
  rw [keyId, P.sha256_length] at signer
  have keys : ∀ key ∈ manifestKeys, (quoted (ascii key)).length ≤ 40 := by decide
  simp only [manifestKeys, forall_mem_cons] at keys
  have flag : (ascii (if false = true then "true" else "false")).length = 5 := by decide
  have texts : (quoted kSchema).length ≤ 50 ∧ (quoted kRulesId).length ≤ 50 ∧
      (quoted (ascii "private")).length ≤ 50 ∧ (quoted (ascii "Ed25519")).length ≤ 50 ∧
      (quoted (ascii "-")).length ≤ 50 := by
    decide
  rw [document, length_append]
  refine (Nat.add_le_add_right (canonical_object_size manifest_distinct) 1).trans ?_
  simp only [manifestFields, map_cons, map_nil, sum_cons, sum_nil, memberSize,
    canonical, keyId, kMaxJsonBytes]
  omega

theorem jsonString_eq_ok :
    jsonString value name = .ok text ↔ jsonMember value name = .ok (.string text) := by
  rw [jsonString, bind_eq_ok]
  constructor
  · rintro ⟨member, isMember, isText⟩
    split at isText <;> cases isText
    exact isMember
  · intro isMember
    exact ⟨_, isMember, rfl⟩

theorem makeManifest_eq (made : makeManifest P contents policy key "private" "-" = .ok manifest)
    (isId : jsonString policy "bundle_id" = .ok id)
    (isCreated : jsonString policy "created_on" = .ok created)
    (isUntil : jsonString policy "valid_until" = .ok validUntil) :
    manifest = manifestOf P contents id created validUntil key := by
  rw [jsonString_eq_ok] at isId isCreated isUntil
  simp only [makeManifest, isId, isCreated, isUntil] at made
  cases made
  rfl

theorem manifest_string
    (member : (name, .string text) ∈ manifestFields P contents (.string id : Json N)
      (.string created) (.string validUntil) key "private" "-") :
    jsonString (manifestOf P contents id created validUntil key : Json N) name = .ok text :=
  jsonString_object manifest_distinct member

/-- A manifest made by the tool meets its own contract. -/
theorem manifestContract_manifestOf :
    manifestContract P key (manifestOf P contents id created validUntil key : Json N) = .ok () := by
  have flags : ∀ flag ∈ ["official_certification_granted", "level_claim_permitted",
      "comparative_energy_claim", "production_claim"],
      jsonBoolean (manifestOf P contents id created validUntil key : Json N) flag = .ok false := by
    intro flag member
    refine jsonBoolean_object manifest_distinct ?_
    simp only [mem_cons, not_mem_nil, or_false] at member
    rcases member with rfl | rfl | rfl | rfl <;> simp [manifestFields]
  simp only [forall_mem_cons, not_mem_nil, false_imp_iff, implies_true, and_true] at flags
  obtain ⟨granted, permitted, comparative, production⟩ := flags
  have exact_ : requireExactKeys (manifestOf P contents id created validUntil key : Json N)
      ["artifacts", "bundle_id", "comparative_energy_claim", "created_on", "kind",
        "level_claim_permitted", "official_certification_granted", "production_claim", "rules_id",
        "schema", "signature_algorithm", "signer_key_id", "source_manifest_sha256",
        "valid_until"] "signed manifest" = .ok () :=
    requireExactKeys_object manifest_distinct rfl
      (show ∀ key ∈ _, key ∈ manifestKeys by decide)
  simp only [manifestContract, bind_eq_ok, require_eq_ok, decide_eq_true_eq]
  refine ⟨(), exact_, _, manifest_string (by simp [manifestFields]), (), rfl,
    _, manifest_string (by simp [manifestFields]), (), rfl,
    _, manifest_string (by simp [manifestFields]), (), rfl,
    _, manifest_string (by simp [manifestFields]), (), rfl, ?_⟩
  simp [granted, permitted, comparative, production, bind, Except.bind, require, pure, Except.pure]

theorem policyMatch_manifestOf {policy : Json N} (isId : jsonString policy "bundle_id" = .ok id)
    (isCreated : jsonString policy "created_on" = .ok created)
    (isUntil : jsonString policy "valid_until" = .ok validUntil) :
    policyMatch (manifestOf P contents id created validUntil key) policy = .ok () := by
  have named : jsonString (manifestOf P contents id created validUntil key : Json N)
      "bundle_id" = .ok id := manifest_string (by simp [manifestFields])
  have started : jsonString (manifestOf P contents id created validUntil key : Json N)
      "created_on" = .ok created := manifest_string (by simp [manifestFields])
  have ended : jsonString (manifestOf P contents id created validUntil key : Json N)
      "valid_until" = .ok validUntil := manifest_string (by simp [manifestFields])
  simp [policyMatch, named, started, ended, isId, isCreated, isUntil, bind, Except.bind, require,
    pure, Except.pure]

theorem unhexDigit_hexDigit : ∀ value < 16, unhexDigit (hexDigit value) = .ok value := by decide

theorem unhexPairs_hex (bytes : Bytes) : unhexPairs (hex bytes) = .ok bytes := by
  induction bytes with
  | nil => rfl
  | cons byte bytes ih =>
    have upper := unhexDigit_hexDigit (byte.val / 16) (by omega)
    have lower := unhexDigit_hexDigit (byte.val % 16) (by omega)
    have whole : byte.val / 16 * 16 + byte.val % 16 = byte.val := by omega
    have unfolded : hex (byte :: bytes) =
        hexDigit (byte.val / 16) :: hexDigit (byte.val % 16) :: hex bytes := rfl
    rw [unfolded, unhexPairs, upper, lower, ih]
    simp only [bind, Except.bind, pure, Except.pure, whole]
    exact congrArg (fun first => Except.ok (first :: bytes)) (Fin.ofNat_val_eq_self byte)

theorem hex_length (bytes : Bytes) : (hex bytes).length = bytes.length * 2 := by
  simp [hex, length_flatMap, Nat.mul_comm]

theorem verifySignature_sign :
    verifySignature P (P.publicOf secret) manifest (sign P secret manifest) = .ok () := by
  have length : (sign P secret manifest).length = 64 * 2 := by
    rw [sign, hex_length, P.sign_length]
  simp only [verifySignature, unhex, bind_eq_ok, require_eq_ok, decide_eq_true_eq]
  exact ⟨_, ⟨(), length, unhexPairs_hex _⟩, P.accepts_sign _ _⟩

end Manifest

end ShortHand.Evidence
