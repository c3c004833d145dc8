import ShortHand.Evidence.Manifest

/-! What a signed manifest says about the directory it is verified in. -/

namespace ShortHand.Evidence

open ShortHand.Library

variable {N : Numerals} {P : Platform}

/-- The names and digests in the artifacts of a manifest, printed and read again. -/
def pinned (manifest : Json N) : List (Bytes × Bytes) :=
  match jsonMember manifest "artifacts" >>= fun artifacts => parseJson N (canonical artifacts) with
  | .ok (.array rows) => rows.map fun row =>
    ((jsonString row "path").toOption.getD [], (jsonString row "sha256").toOption.getD [])
  | _ => []

theorem pinned_of_inventory {manifest : Json N} (listed : jsonMember manifest "artifacts" = .ok artifacts)
    (same : canonical artifacts = canonical (inventory P contents : Json N)) :
    pinned manifest = contents.entries.map fun entry => (entry.1, P.sha256 entry.2) := by
  have field : ∀ name text entry, (name, .string text) ∈ (inventoryFields P entry : List (_ × Json N)) →
      jsonString (object (inventoryFields P entry) : Json N) name = .ok text :=
    fun _ _ _ => jsonString_object inventory_distinct
  have read := @parseJson_canonical_text N (inventory P contents) inventory_within
  simp only [pinned, listed, bind, Except.bind, same, read]
  simp only [inventory, List.map_map, Function.comp_def, field "path" _ _ (.head _),
    field "sha256" _ _ (.tail _ (.tail _ (.head _)))]
  rfl

/-- Whatever the directory, the key and the date: what is verified holds just the artifacts,
by name and digest, that its manifest pins. -/
def ManifestPins (P : Platform) (N : Numerals) : Prop :=
  ∀ root key asOf verified, verify P N root key asOf = .ok verified →
    verified.contents.entries.map (fun entry => (entry.1, P.sha256 entry.2)) =
      pinned verified.manifest

end ShortHand.Evidence
