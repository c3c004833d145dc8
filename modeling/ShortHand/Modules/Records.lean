import ShortHand.Modules.Manifest

/-! The loop over the lines of a manifest as an invariant rule, and the effects of its records.
-/

namespace ShortHand.Modules

open ShortHand.Library ShortHand.Evidence List

/-- A field of a record. -/
def Word (text : Bytes) : Prop := text ≠ [] ∧ ∀ byte ∈ text, isspace byte = false

theorem wordsFrom_word (plain : ∀ byte ∈ word, isspace byte = false) :
    ∀ text ∈ wordsFrom word line, Word text := by
  induction line generalizing word with
  | nil =>
    intro text member
    rw [wordsFrom] at member
    split at member
    · cases member
    · rename_i filled
      cases mem_singleton.mp member
      exact ⟨fun empty => filled (by rw [empty]; rfl), plain⟩
  | cons byte line ih =>
    intro text member
    rw [wordsFrom] at member
    split at member
    · split at member
      · exact ih (by simp) text member
      rename_i filled
      rcases mem_cons.mp member with rfl | later
      · exact ⟨fun empty => filled (by rw [empty]; rfl), plain⟩
      · exact ih (by simp) text later
    · rename_i visible
      exact ih (forall_mem_concat.mpr ⟨plain, Bool.eq_false_iff.mpr visible⟩) text member

theorem recordOf_word : ∀ part ∈ recordOf raw, Word part := by
  simp only [recordOf]
  split
  · nofun
  · exact wordsFrom_word nofun

/-- The records of a manifest, blank lines included. -/
def manifestRecords (text : Bytes) : List (List Bytes) := (getlines 10 text).map recordOf

/-- What every record keeps holds of all records once the text was read. -/
theorem foldRecords_invariant {state final : σ} {text : Bytes}
    {apply : Nat → σ → List Bytes → Except Failure σ} {holds : List (List Bytes) → σ → Prop}
    (start : holds [] state)
    (blank : ∀ earlier before, holds earlier before → holds (earlier ++ [[]]) before)
    (step : ∀ earlier line before parts after, (∀ part ∈ parts, Word part) →
      holds earlier before → apply line before parts = .ok after → holds (earlier ++ [parts]) after)
    (finished : foldRecords limits apply state text = .ok final) :
    holds (manifestRecords text) final := by
  have ended : holds (((getlines 10 text).zipIdx 1).map fun numbered => recordOf numbered.1) final := by
    refine @foldlM_invariant _ _ _ _ _ _ _
      (fun earlier before => holds (earlier.map fun numbered => recordOf numbered.1) before)
      start ?_ finished
    intro earlier numbered later _ before after held applied
    obtain ⟨_, rest⟩ := check_eq_ok.mp applied
    rw [map_append, map_singleton]
    dsimp only at rest
    split at rest
    · rename_i empty
      cases rest
      rw [isEmpty_iff.mp empty]
      exact blank _ _ held
    · exact step _ _ _ _ _ recordOf_word held rest
  have unnumbered : ((getlines 10 text).zipIdx 1).map (fun numbered => recordOf numbered.1) =
      manifestRecords text := by
    rw [manifestRecords]
    conv_rhs => rw [← zipIdx_map_fst 1 (getlines 10 text)]
    rw [map_map]
    rfl
  rwa [unnumbered] at ended

/-- What a record does to the loader's state, once it was accepted. -/
inductive RecordEffect (files : FileSystem) (state : Loading) : List Bytes → Loading → Prop where
  | format {value : Bytes} (known : value = packageV1 ∨ value = packageV2) :
    RecordEffect files state [ascii "format", value]
      { state with formatSeen := true, manifest := { state.manifest with format := value } }
  | package {name : Bytes} (first : state.packageSeen = false)
      (valid : validModuleName name = true) :
    RecordEffect files state [ascii "package", name]
      { state with packageSeen := true, manifest := { state.manifest with packageName := name } }
  | version {value : Bytes} :
    RecordEffect files state [ascii "version", value]
      { state with versionSeen := true, manifest := { state.manifest with version := value } }
  | license {fields : List Bytes} {license : Bytes}
      (allowed : allowedRedistributedLicense license = true) :
    RecordEffect files state (ascii "license" :: fields)
      { state with licenseSeen := true, manifest := { state.manifest with licenseSpdx := license } }
  | module {name path file : Bytes} (valid : validModuleName name = true)
      (located : files.canonicalWithin state.manifest.packageRoot
        (joinPath state.manifest.packageRoot path) = some file)
      (unshared : file ∉ state.pathToModule.entries.map Prod.fst) :
    RecordEffect files state [ascii "module", name, path]
      (state.addModule name path state.manifest.packageName file)
  | dependency {parts : List Bytes} (key : parts.head? = some (ascii "dependency"))
      (long : 6 ≤ parts.length) (valid : validModuleName (dependencyOf parts).packageName = true)
      (fresh : (dependencyOf parts).packageName ∉ state.manifest.dependencies.entries.map Prod.fst)
      (allowed : allowedRedistributedLicense (dependencyOf parts).licenseSpdx = true) :
    RecordEffect files state parts
      { state with manifest := { state.manifest with
        dependencies := state.manifest.dependencies.insert (dependencyOf parts).packageName
          (dependencyOf parts) } }

section Effects

variable {files : FileSystem} {line : Nat} {state after : Loading} {parts : List Bytes}

theorem formatRecord_effect (applied : formatRecord line state value = .ok after) :
    RecordEffect files state [ascii "format", value] after := by
  obtain ⟨guard, result⟩ := check_eq_ok.mp applied
  cases result
  apply RecordEffect.format
  simp_all

theorem packageRecord_effect (applied : packageRecord line state name = .ok after) :
    RecordEffect files state [ascii "package", name] after := by
  obtain ⟨guard, result⟩ := check_eq_ok.mp applied
  cases result
  simp only [ensure_eq_ok, Bool.not_or, Bool.not_not, Bool.and_eq_true,
    Bool.not_eq_true'] at guard
  exact .package guard.1 guard.2

theorem versionRecord_effect (applied : versionRecord line state value = .ok after) :
    RecordEffect files state [ascii "version", value] after := by
  obtain ⟨_, result⟩ := check_eq_ok.mp applied
  cases result
  exact .version

theorem licenseRecord_effect
    (applied : licenseRecord line state (ascii "license" :: fields) = .ok after) :
    RecordEffect files state (ascii "license" :: fields) after := by
  obtain ⟨guard, result⟩ := check_eq_ok.mp applied
  cases result
  simp only [ensure_eq_ok, Bool.not_or, Bool.not_not, Bool.and_eq_true] at guard
  exact .license guard.2

theorem moduleRecord_effect (applied : moduleRecord files line state name path = .ok after) :
    RecordEffect files state [ascii "module", name, path] after := by
  obtain ⟨valid, applied⟩ := check_eq_ok.mp applied
  obtain ⟨_, applied⟩ := check_eq_ok.mp applied
  obtain ⟨_, applied⟩ := check_eq_ok.mp applied
  split at applied
  · cases applied
  rename_i file located
  split at applied
  · cases applied
  · rename_i unshared
    cases applied
    exact .module (ensure_eq_ok.mp valid) located (OrderedMap.find?_eq_none_iff.mp unshared)

theorem dependencyRecord_effect (key : parts.head? = some (ascii "dependency"))
    (applied : dependencyRecord line state parts = .ok after) :
    RecordEffect files state parts after := by
  obtain ⟨shape, applied⟩ := check_eq_ok.mp applied
  obtain ⟨_, applied⟩ := check_eq_ok.mp applied
  obtain ⟨allowed, applied⟩ := check_eq_ok.mp applied
  obtain ⟨fresh, applied⟩ := check_eq_ok.mp applied
  simp only [ensure_eq_ok, Bool.not_or, Bool.not_not, Bool.and_eq_true, Bool.not_eq_true',
    decide_eq_false_iff_not, not_lt] at shape fresh
  obtain ⟨⟨⟨⟨long, _⟩, valid⟩, _⟩, _⟩ := shape
  cases applied
  exact .dependency key long valid (OrderedMap.contains_eq_false_iff.mp fresh)
    (ensure_eq_ok.mp allowed)

theorem applyRecord_effect (applied : applyRecord files line state parts = .ok after) :
    RecordEffect files state parts after := by
  have two : ∀ {key : String}, parts.length = 2 ∧ parts.head? = some (ascii key) →
      parts = [ascii key, parts.getD 1 []] := by
    rintro key ⟨length, head⟩
    obtain ⟨first, second, rfl⟩ := length_eq_two.mp length
    cases head
    rfl
  simp only [applyRecord] at applied
  split at applied
  · rename_i shape
    rw [two shape]
    exact formatRecord_effect applied
  split at applied
  · rename_i shape
    rw [two shape]
    exact packageRecord_effect applied
  split at applied
  · rename_i shape
    rw [two shape]
    exact versionRecord_effect applied
  split at applied
  · rename_i head
    obtain ⟨fields, rfl⟩ := head?_eq_some_iff.mp head
    exact licenseRecord_effect applied
  split at applied
  · rename_i shape
    obtain ⟨length, head⟩ := shape
    obtain ⟨first, second, third, rfl⟩ := length_eq_three.mp length
    cases head
    exact moduleRecord_effect applied
  split at applied
  · exact dependencyRecord_effect ‹_› applied
  · cases applied

end Effects

end ShortHand.Modules
