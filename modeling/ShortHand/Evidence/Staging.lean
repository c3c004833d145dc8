import Mathlib.Data.List.Dedup
import ShortHand.Evidence.Manifest

/-! What a stage holds, and that sealing it adds two files that no other name collides with. -/

namespace ShortHand.Evidence

open ShortHand.Library List
open OrderedMap (empty ext_perm ofEntries_perm)

variable {N : Numerals} {P : Platform}

section Writing

variable {tree grown : Files} {path contents : Bytes}

theorem write_perm (written : write tree path contents = .ok grown) :
    grown.entries.Perm ((path, contents) :: tree.entries) := by
  simp only [write, bind_eq_ok] at written
  obtain ⟨_, _, written⟩ := written
  split at written
  · cases written
  rw [bind_eq_ok] at written
  obtain ⟨_, _, result⟩ := written
  cases result
  exact OrderedMap.emplace_perm ‹_›

theorem writeBelow_perm (written : writeBelow directory tree entries = .ok grown) :
    grown.entries.Perm (entries.map (fun entry => (directory ++ entry.1, entry.2)) ++ tree.entries) := by
  induction entries generalizing tree with
  | nil =>
    cases written
    exact Perm.refl _
  | cons entry entries ih =>
    rw [writeBelow, foldlM_cons, bind_eq_ok] at written
    obtain ⟨after, first, rest⟩ := written
    refine (ih rest).trans ?_
    exact ((write_perm first).append_left _).trans perm_middle

theorem listed_plainFile (tree : Files) : (listed tree).filterMap plainFile = tree.entries := by
  have none : ((directories tree).map fun name => (name, Entry.directory)).filterMap plainFile = [] := by
    simp [plainFile]
  have all : (tree.entries.map fun entry => (entry.1, Entry.regular entry.2 1)).filterMap plainFile =
      tree.entries := by
    rw [filterMap_map]
    exact filterMap_some
  rw [listed, filterMap_append, none, all, nil_append]

/-- A new file at the top of a tree is one new entry. -/
theorem listed_perm_cons (top : parents path = [])
    (contained : grown.entries.Perm ((path, contents) :: tree.entries)) :
    (listed grown).Perm ((path, .regular contents 1) :: listed tree) := by
  have same : (directories grown).Perm (directories tree) := by
    refine Perm.dedup ((contained.flatMap_right _).trans ?_)
    rw [flatMap_cons, top, nil_append]
  refine ((same.map _).append (contained.map _)).trans ?_
  exact perm_middle

end Writing

/-- The files of a stage, from what goes into it. -/
def stagedEntries (input : Files) (policy : Json N) (assessment : Bytes) : List (Bytes × Bytes) :=
  input.entries.map (fun entry => (kCandidate ++ entry.1, entry.2)) ++ [
    (ascii "policy.json", document policy),
    (ascii "rules.json", document (rules N)),
    (ascii "assessment.json", assessment)]

def stagedFiles (input : Files) (policy : Json N) (assessment : Bytes) : Files :=
  OrderedMap.ofEntries (stagedEntries input policy assessment)

section Stage

variable {input stage tree : Files} {policy : Json N} {assessment : Bytes}
  {others : List (Bytes × Bytes)}

/-- The candidate files are found again below their directory. -/
theorem strip_candidate
    (contained : tree.entries.Perm
      (input.entries.map (fun entry => (kCandidate ++ entry.1, entry.2)) ++ others))
    (outside : ∀ entry ∈ others, kCandidate.isPrefixOf entry.1 = false) :
    ((tree.entries.filter fun entry => kCandidate.isPrefixOf entry.1).map
      fun entry => (entry.1.drop kCandidate.length, entry.2)).Perm input.entries := by
  refine ((contained.filter _).map _).trans (Perm.of_eq ?_)
  have none : others.filter (fun entry => kCandidate.isPrefixOf entry.1) = [] :=
    filter_eq_nil_iff.mpr fun entry member => by simp [outside entry member]
  have all : (input.entries.map fun entry => (kCandidate ++ entry.1, entry.2)).filter
      (fun entry => kCandidate.isPrefixOf entry.1) =
      input.entries.map fun entry => (kCandidate ++ entry.1, entry.2) := by
    refine filter_eq_self.mpr fun entry member => ?_
    obtain ⟨original, _, rfl⟩ := mem_map.mp member
    exact isPrefixOf_iff_prefix.mpr (prefix_append _ _)
  rw [filter_append, none, all]
  simp [Function.comp_def]

theorem filesBelow_candidate
    (contained : tree.entries.Perm
      (input.entries.map (fun entry => (kCandidate ++ entry.1, entry.2)) ++ others))
    (outside : ∀ entry ∈ others, kCandidate.isPrefixOf entry.1 = false) :
    filesBelow kCandidate tree = input := by
  have same := strip_candidate contained outside
  refine ext_perm ((ofEntries_perm ?_).trans same)
  exact (same.map Prod.fst).nodup_iff.mpr input.ordered.nodup

theorem stagedEntries_outside : ∀ entry ∈ [
    (ascii "policy.json", document policy),
    (ascii "rules.json", document (rules N)),
    (ascii "assessment.json", assessment)], kCandidate.isPrefixOf entry.1 = false := by
  simp only [forall_mem_cons, not_mem_nil, false_imp_iff, implies_true, and_true]
  decide

/-- What staging did. -/
structure Staged (P : Platform) (input : Files) (policy : Json N) (assessment : Bytes)
    (stage : Files) : Prop where
  copied : ∃ copy, writeBelow kCandidate empty input.entries = .ok copy
  assessed : P.assess input = .ok assessment
  contained : stage.entries.Perm (stagedEntries input policy assessment)

theorem stageFiles_staged (made : stageFiles P input policy = .ok stage) :
    ∃ assessment, Staged P input policy assessment stage := by
  simp only [stageFiles, bind_eq_ok] at made
  obtain ⟨copy, copied, withPolicy, policyWritten, withRules, rulesWritten, assessed⟩ := made
  rw [assessDirectory, bind_eq_ok] at assessed
  obtain ⟨assessment, produced, result⟩ := assessed
  cases result
  have copyContents := writeBelow_perm copied
  rw [show (empty : Files).entries = [] from rfl, append_nil] at copyContents
  have contents : withRules.entries.Perm
      (input.entries.map (fun entry => (kCandidate ++ entry.1, entry.2)) ++
        [(ascii "policy.json", document policy), (ascii "rules.json", document (rules N))]) := by
    have written := (write_perm rulesWritten).trans ((write_perm policyWritten).cons _)
    refine (written.trans ((copyContents.cons _).cons _)).trans ?_
    exact (Perm.swap _ _ _).trans (@perm_append_comm _ [_, _] _)
  have below : filesBelow kCandidate withRules = input := filesBelow_candidate contents (by
    simp only [forall_mem_cons, not_mem_nil, false_imp_iff, implies_true, and_true]
    decide)
  rw [below] at produced
  have absent : ascii "assessment.json" ∉ withRules.entries.map Prod.fst := by
    intro inside
    obtain ⟨entry, member, named⟩ := mem_map.mp inside
    rcases mem_append.mp (contents.mem_iff.mp member) with candidate | other
    · obtain ⟨original, _, rfl⟩ := mem_map.mp candidate
      have heads : some 99 = (ascii "assessment.json").head? := congrArg head? named
      exact absurd heads (by decide)
    · simp only [mem_cons, not_mem_nil, or_false] at other
      rcases other with rfl | rfl
      · exact absurd named (show ascii "policy.json" ≠ ascii "assessment.json" by decide)
      · exact absurd named (show ascii "rules.json" ≠ ascii "assessment.json" by decide)
  refine ⟨assessment, ⟨copy, copied⟩, produced, (OrderedMap.insert_perm absent).trans ?_⟩
  refine (contents.cons _).trans ((perm_append_singleton _ _).symm.trans (Perm.of_eq ?_))
  rw [append_assoc]
  rfl

theorem Staged.eq_stagedFiles (staged : Staged P input policy assessment stage) :
    stage = stagedFiles input policy assessment := by
  refine ext_perm (staged.contained.trans (ofEntries_perm ?_).symm)
  exact (staged.contained.map Prod.fst).nodup_iff.mp stage.ordered.nodup

theorem parents_head (name : byte ≠ 47) :
    ∀ directory ∈ parents (byte :: rest), directory.head? = some byte := by
  intro directory member
  rw [parents, if_neg name] at member
  obtain ⟨_, _, rfl⟩ := mem_map.mp member
  rfl

theorem stagedEntries_head : ∀ entry ∈ stagedEntries input policy assessment,
    ∃ byte rest, entry.1 = byte :: rest ∧ byte ∈ [99, 112, 114, 97] := by
  intro entry member
  rcases mem_append.mp member with candidate | other
  · obtain ⟨original, _, rfl⟩ := mem_map.mp candidate
    exact ⟨99, _, rfl, by decide⟩
  simp only [mem_cons, not_mem_nil, or_false] at other
  rcases other with rfl | rfl | rfl
  · exact ⟨112, _, rfl, by decide⟩
  · exact ⟨114, _, rfl, by decide⟩
  · exact ⟨97, _, rfl, by decide⟩

/-- Nothing on a stage has a name like the manifest. -/
theorem Staged.name_head (staged : Staged P input policy assessment stage) :
    ∀ item ∈ listed stage, (lowerCase item.1).head? ≠ some 109 := by
  have other : ∀ byte ∈ ([99, 112, 114, 97] : Bytes), ∀ name : Bytes, name.head? = some byte →
      (lowerCase name).head? ≠ some 109 := by
    intro byte member name head
    rw [lowerCase, head?_map, head]
    simp only [mem_cons, not_mem_nil, or_false] at member
    rcases member with rfl | rfl | rfl | rfl <;> decide
  intro item member
  rcases mem_append.mp member with directory | file
  · obtain ⟨name, inside, rfl⟩ := mem_map.mp directory
    obtain ⟨entry, isEntry, above⟩ := mem_flatMap.mp (mem_dedup.mp inside)
    obtain ⟨byte, rest, named, known⟩ :=
      stagedEntries_head entry (staged.contained.mem_iff.mp isEntry)
    rw [named] at above
    have plain : byte ≠ 47 := by
      rintro rfl
      exact absurd known (by decide)
    exact other byte known name (parents_head plain name above)
  · obtain ⟨entry, isEntry, rfl⟩ := mem_map.mp file
    obtain ⟨byte, rest, named, known⟩ :=
      stagedEntries_head entry (staged.contained.mem_iff.mp isEntry)
    exact other byte known entry.1 (by rw [named]; rfl)

end Stage

section Sealing

variable {stage bundle : Files} {manifest : Json N} {secret : P.Secret}

theorem sealStage_perm (made : sealStage P stage manifest secret = .ok bundle) :
    bundle.entries.Perm ((ascii "manifest.sig", sign P secret (document manifest)) ::
      (ascii "manifest.json", document manifest) :: stage.entries) := by
  rw [sealStage, bind_eq_ok] at made
  obtain ⟨middle, first, second⟩ := made
  exact (write_perm second).trans ((write_perm first).cons _)

theorem sealStage_listed (made : sealStage P stage manifest secret = .ok bundle) :
    (listed bundle).Perm
      ((ascii "manifest.sig", .regular (sign P secret (document manifest)) 1) ::
        (ascii "manifest.json", .regular (document manifest) 1) :: listed stage) := by
  rw [sealStage, bind_eq_ok] at made
  obtain ⟨middle, first, second⟩ := made
  exact (listed_perm_cons (by decide) (write_perm second)).trans
    ((listed_perm_cons (by decide) (write_perm first)).cons _)

theorem sign_length (manifest : Bytes) : (sign P secret manifest).length = 128 := by
  rw [sign, hex_length, P.sign_length]

/-- A sealed stage is readable just if it is within the limits with its two new files. -/
theorem sealed_readable (made : sealStage P stage manifest secret = .ok bundle)
    (readable : Readable (listed stage))
    (names : ∀ item ∈ listed stage, (lowerCase item.1).head? ≠ some 109)
    (small : (document manifest).length ≤ kMaxJsonBytes) (limits : FitsLimits bundle.entries) :
    Readable (listed bundle) := by
  refine Readable.perm ⟨?_, ?_, ?_⟩ (sealStage_listed made).symm
  · rw [forall_mem_cons, forall_mem_cons]
    refine ⟨⟨rfl, .inr ⟨_, rfl, ?_⟩⟩, ⟨rfl, .inr ⟨_, rfl, small⟩⟩, readable.admitted⟩
    rw [sign_length]
    decide
  · have fresh : ∀ name : Bytes, (lowerCase name).head? = some 109 →
        lowerCase name ∉ (listed stage).map fun item => lowerCase item.1 := by
      intro name head inside
      obtain ⟨item, member, same⟩ := mem_map.mp inside
      exact names item member (same ▸ head)
    simp only [map_cons, nodup_cons, mem_cons, not_or]
    exact ⟨⟨by decide, fresh _ (by decide)⟩, fresh _ (by decide), readable.distinct⟩
  · have files := (sealStage_listed made).filterMap plainFile
    rw [listed_plainFile] at files
    exact limits.perm files

end Sealing

end ShortHand.Evidence
