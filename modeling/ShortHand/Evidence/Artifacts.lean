import ShortHand.Evidence.Json
import ShortHand.Library.Outcome

/-! Artifact trees of the auditor bundle: safe paths, reading a tree and writing a stage. -/

namespace ShortHand.Evidence

open ShortHand.Library

def kMaxFiles : Nat := 1024

def kMaxTotalBytes : Nat := 256 * 1024 * 1024

def kMaxJsonBytes : Nat := 32 * 1024 * 1024

/-- The texts between delimiters. -/
def segments (delimiter : Byte) : Bytes → List Bytes
  | [] => [[]]
  | byte :: rest =>
    if byte = delimiter then [] :: segments delimiter rest
    else
      match segments delimiter rest with
      | [] => [[byte]]
      | first :: later => (byte :: first) :: later

theorem segments_filled (delimiter : Byte) (text : Bytes) :
    ∃ first later, segments delimiter text = first :: later := by
  cases text with
  | nil => exact ⟨[], [], rfl⟩
  | cons byte rest =>
    rw [segments]
    split
    · exact ⟨_, _, rfl⟩
    · split <;> exact ⟨_, _, rfl⟩

theorem intercalate_segments (delimiter : Byte) (text : Bytes) :
    [delimiter].intercalate (segments delimiter text) = text := by
  induction text with
  | nil => rfl
  | cons byte rest ih =>
    obtain ⟨first, later, parts⟩ := segments_filled delimiter rest
    rw [parts] at ih
    rw [segments, parts]
    split
    · subst byte
      simp [List.intercalate_cons_cons, ih]
    · cases later <;> simp_all [List.intercalate_cons_cons]

theorem segments_append {first : Bytes} (unmarked : delimiter ∉ first) :
    segments delimiter (first ++ delimiter :: rest) = first :: segments delimiter rest := by
  induction first with
  | nil => simp [segments]
  | cons byte first ih =>
    rw [List.mem_cons, not_or] at unmarked
    rw [List.cons_append, segments, if_neg (Ne.symm unmarked.1), ih unmarked.2]

/-- What repeated `std::getline` returns: nothing follows a last delimiter. -/
def getlines (delimiter : Byte) (text : Bytes) : List Bytes :=
  if (segments delimiter text).getLast? = some [] then (segments delimiter text).dropLast
  else segments delimiter text

def isLower (byte : Byte) : Bool := 97 ≤ byte && byte ≤ 122

def isUpper (byte : Byte) : Bool := 65 ≤ byte && byte ≤ 90

def identifier (value : Bytes) : Except String Unit := do
  require (!value.isEmpty && value.length ≤ 128) "invalid identifier length"
  require (value.all fun byte => isLower byte || isUpper byte || isDigit byte || byte = 95 ||
    byte = 45 || byte = 46) "invalid identifier"
  require (value ≠ [46] && value ≠ [46, 46]) "invalid identifier"

def upperCase (value : Bytes) : Bytes :=
  value.map fun byte => if isLower byte then Fin.ofNat 256 (byte.val - 32) else byte

def lowerCase (value : Bytes) : Bytes :=
  value.map fun byte => if isUpper byte then Fin.ofNat 256 (byte.val + 32) else byte

def reservedName (upper : Bytes) : Bool :=
  upper = ascii "CON" || upper = ascii "PRN" || upper = ascii "AUX" || upper = ascii "NUL" ||
    (upper.length = 4 && (upper.take 3 = ascii "COM" || upper.take 3 = ascii "LPT") &&
      (upper.drop 3).all isDigit)

def safePart (part : Bytes) : Except String Unit := do
  identifier part
  require (part.getLast? ≠ some 46 && !part.contains 58) "unsafe artifact path"
  require (!reservedName (upperCase (part.takeWhile (· ≠ 46)))) "reserved artifact path"

def safePath (name : Bytes) : Except String Unit := do
  require (!name.isEmpty && name.length ≤ 512 && name.head? ≠ some 47 && name.getLast? ≠ some 47)
    "unsafe artifact path"
  (getlines 47 name).forM safePart

def filename (path : Bytes) : Bytes := (segments 47 path).getLast?.getD []

/-- The components of a path start with those of the parent. -/
def below (path parent : List Bytes) : Bool := parent.isPrefixOf path

/-- A directory entry by its own status, links not followed. -/
inductive Entry where
  | directory
  | regular (contents : Bytes) (hardLinks : Nat)
  | symlink
  | other
  deriving DecidableEq

/-- What the recursive directory iterator meets, by path below its root. -/
abbrev Listing := List (Bytes × Entry)

/-- A path with the entries below it, none if it is not a directory itself. -/
structure Root where
  path : List Bytes
  listing : Option Listing

/-- Contents by path. -/
abbrev Files := OrderedMap Bytes Bytes

/-- The contents of a file that `regular` admits. -/
def regular (path : Bytes) : Entry → Except String Bytes
  | .regular contents hardLinks => do
    require (hardLinks = 1) "hard-linked artifact is forbidden"
    return contents
  | _ => .error ("artifact must be a regular non-symlink file: " ++ shown (filename path))

def readFile (path : Bytes) (contents : Bytes) : Except String Bytes := do
  require (contents.length ≤ kMaxJsonBytes) ("JSON input exceeds 32 MiB limit: " ++ shown path)
  return contents

/-- The loop state of `files`. -/
structure Collected where
  out : Files
  folded : List Bytes
  total : Nat

def Collected.none : Collected := ⟨OrderedMap.empty, [], 0⟩

def joined (path : List Bytes) : Bytes := (path.map (47 :: ·)).flatten

def collectFile (root : List Bytes) (name : Bytes) (entry : Entry) (state : Collected) :
    Except String Collected := do
  let contents ← regular name entry
  require (state.out.entries.length < kMaxFiles) "bundle exceeds 1024 files"
  let contents ← readFile (joined root ++ 47 :: name) contents
  require (contents.length ≤ kMaxTotalBytes - state.total) "bundle exceeds 256 MiB"
  return { state with
    out := (state.out.emplace name contents).getD state.out
    total := state.total + contents.length }

/-- One round of the loop over the entries of a tree. -/
def collect (root : List Bytes) (state : Collected) (item : Bytes × Entry) :
    Except String Collected := do
  require (item.2 ≠ .symlink) "symlink artifact is forbidden"
  safePath item.1
  require (!state.folded.contains (lowerCase item.1)) "case-colliding artifact paths"
  if item.2 = .directory then
    return { state with folded := lowerCase item.1 :: state.folded }
  else
    collectFile root item.1 item.2 { state with folded := lowerCase item.1 :: state.folded }

def files (root : Root) : Except String Files :=
  match root.listing with
  | none => .error "bundle root must be a non-symlink directory"
  | some listing => (listing.foldlM (collect root.path) Collected.none).map Collected.out

/-- The directories on the way to a path. -/
def parents : Bytes → List Bytes
  | [] => []
  | byte :: rest =>
    if byte = 47 then [] :: (parents rest).map (byte :: ·) else (parents rest).map (byte :: ·)

def directories (tree : Files) : List Bytes :=
  (tree.entries.flatMap fun entry => parents entry.1).dedup

/-- The entries of a tree that was written file by file. -/
def listed (tree : Files) : Listing :=
  (directories tree).map (·, .directory) ++
    tree.entries.map fun entry => (entry.1, .regular entry.2 1)

def write (tree : Files) (path contents : Bytes) : Except String Files := do
  require (!(directories tree).contains path) ("output already exists: " ++ shown (filename path))
  match tree.emplace path contents with
  | none => .error ("output already exists: " ++ shown (filename path))
  | some grown => do
    require (!(parents path).any tree.contains) "cannot create directories: Not a directory"
    return grown

/-- Copy files below a directory. -/
def writeBelow (directory : Bytes) (tree : Files) (entries : List (Bytes × Bytes)) :
    Except String Files :=
  entries.foldlM (fun tree entry => write tree (directory ++ entry.1) entry.2) tree

/-- An entry that `files` admits on its own. -/
def Admitted (item : Bytes × Entry) : Prop :=
  safePath item.1 = .ok () ∧
    (item.2 = .directory ∨
      ∃ contents, item.2 = .regular contents 1 ∧ contents.length ≤ kMaxJsonBytes)

def plainFile (item : Bytes × Entry) : Option (Bytes × Bytes) :=
  match item.2 with
  | .regular contents _ => some (item.1, contents)
  | _ => none

def byteCount (entries : List (Bytes × Bytes)) : Nat := (entries.map fun entry => entry.2.length).sum

/-- The limits of a tree as a whole. -/
structure FitsLimits (entries : List (Bytes × Bytes)) : Prop where
  count : entries.length ≤ kMaxFiles
  bytes : byteCount entries ≤ kMaxTotalBytes

/-- What `files` requires of a tree, in whatever order the iterator meets it. -/
structure Readable (listing : Listing) : Prop where
  admitted : ∀ item ∈ listing, Admitted item
  distinct : (listing.map fun item => lowerCase item.1).Nodup
  limits : FitsLimits (listing.filterMap plainFile)

@[simp]
theorem require_eq_ok : require condition message = .ok done ↔ condition = true := by
  cases condition <;> simp [require]

theorem regular_eq_ok : regular path entry = .ok contents ↔ entry = .regular contents 1 := by
  cases entry with
  | regular held hardLinks =>
    simp only [regular, bind_eq_ok, require_eq_ok, decide_eq_true_eq, Entry.regular.injEq]
    constructor
    · rintro ⟨_, rfl, result⟩
      cases result
      exact ⟨rfl, rfl⟩
    · rintro ⟨rfl, rfl⟩
      exact ⟨(), rfl, rfl⟩
  | _ => simp [regular]

theorem readFile_eq_ok :
    readFile path contents = .ok result ↔ contents.length ≤ kMaxJsonBytes ∧ result = contents := by
  simp only [readFile, bind_eq_ok, require_eq_ok, decide_eq_true_eq]
  constructor
  · rintro ⟨_, small, same⟩
    cases same
    exact ⟨small, rfl⟩
  · rintro ⟨small, rfl⟩
    exact ⟨(), small, rfl⟩

namespace Collected

/-- The state after an admitted entry. -/
def add (state : Collected) (item : Bytes × Entry) : Collected :=
  match plainFile item with
  | Option.none => { state with folded := lowerCase item.1 :: state.folded }
  | some file =>
    { out := (state.out.emplace file.1 file.2).getD state.out
      folded := lowerCase item.1 :: state.folded
      total := state.total + file.2.length }

/-- There is room for the file of an entry. -/
def Room (state : Collected) (item : Bytes × Entry) : Prop :=
  ∀ file, plainFile item = some file →
    state.out.entries.length < kMaxFiles ∧ file.2.length ≤ kMaxTotalBytes - state.total

end Collected

theorem collectFile_eq_ok :
    collectFile root name entry state = .ok after ↔
      ∃ contents, entry = .regular contents 1 ∧ contents.length ≤ kMaxJsonBytes ∧
        state.out.entries.length < kMaxFiles ∧ contents.length ≤ kMaxTotalBytes - state.total ∧
        { state with
          out := (state.out.emplace name contents).getD state.out
          total := state.total + contents.length } = after := by
  simp only [collectFile, bind_eq_ok, require_eq_ok, regular_eq_ok, readFile_eq_ok,
    decide_eq_true_eq]
  constructor
  · rintro ⟨contents, kind, _, room, _, ⟨small, rfl⟩, _, fits, result⟩
    cases result
    exact ⟨_, kind, small, room, fits, rfl⟩
  · rintro ⟨contents, kind, small, room, fits, rfl⟩
    exact ⟨contents, kind, (), room, contents, ⟨small, rfl⟩, (), fits, rfl⟩

theorem collect_eq_ok :
    collect root state item = .ok after ↔
      Admitted item ∧ lowerCase item.1 ∉ state.folded ∧ state.Room item ∧ state.add item = after := by
  obtain ⟨name, entry⟩ := item
  simp only [collect, bind_eq_ok, require_eq_ok, Unique.exists_iff, decide_eq_true_eq,
    Bool.not_eq_true', List.contains_eq_mem, decide_eq_false_iff_not]
  cases entry with
  | directory =>
    simp only [if_pos, pure, Except.pure, Except.ok.injEq, Admitted, Collected.Room,
      Collected.add, plainFile]
    simp
  | regular contents hardLinks =>
    simp only [if_neg (show Entry.regular contents hardLinks ≠ .directory from nofun),
      collectFile_eq_ok]
    constructor
    · rintro ⟨_, safe, fresh, _, same, small, room, fits, rfl⟩
      cases same
      refine ⟨⟨safe, .inr ⟨_, rfl, small⟩⟩, fresh, ?_, rfl⟩
      rintro _ ⟨⟩
      exact ⟨room, fits⟩
    · rintro ⟨⟨safe, kind⟩, fresh, room, rfl⟩
      obtain ⟨_, same, small⟩ := kind.resolve_left nofun
      cases same
      obtain ⟨count, fits⟩ := room _ rfl
      exact ⟨nofun, safe, fresh, _, rfl, small, count, fits, rfl⟩
  | symlink => simp [Admitted]
  | other => simp [Admitted, collectFile_eq_ok]

theorem byteCount_perm (same : entries.Perm others) : byteCount entries = byteCount others :=
  (same.map _).sum_eq

theorem FitsLimits.perm (fits : FitsLimits entries) (same : entries.Perm others) :
    FitsLimits others :=
  ⟨same.length_eq ▸ fits.count, byteCount_perm same ▸ fits.bytes⟩

@[simp]
theorem byteCount_nil : byteCount [] = 0 := rfl

@[simp]
theorem byteCount_cons : byteCount (entry :: entries) = entry.2.length + byteCount entries := by
  simp [byteCount]

@[simp]
theorem byteCount_append :
    byteCount (entries ++ others) = byteCount entries + byteCount others := by
  simp [byteCount]

theorem length_le_byteCount (member : entry ∈ entries) : entry.2.length ≤ byteCount entries := by
  obtain ⟨before, after, rfl⟩ := List.append_of_mem member
  rw [byteCount_append, byteCount_cons]
  omega

theorem FitsLimits.of_append (fits : FitsLimits (entries ++ others)) : FitsLimits others := by
  obtain ⟨count, bytes⟩ := fits
  rw [List.length_append] at count
  rw [byteCount_append] at bytes
  exact ⟨by omega, by omega⟩

namespace Collected

/-- What the loop of `files` keeps true. -/
structure Sound (state : Collected) : Prop where
  folded : ∀ name ∈ state.out.entries.map Prod.fst, lowerCase name ∈ state.folded
  total : state.total = byteCount state.out.entries
  limits : FitsLimits state.out.entries

variable {state final : Collected} {item : Bytes × Entry} {listing : Listing}

theorem add_perm (sound : state.Sound) (fresh : lowerCase item.1 ∉ state.folded) :
    (state.add item).out.entries.Perm ((plainFile item).toList ++ state.out.entries) := by
  unfold add
  cases read : plainFile item with
  | none => exact List.Perm.refl _
  | some file =>
    have named : file.1 = item.1 := by
      unfold plainFile at read
      split at read <;> cases read
      rfl
    have absent : file.1 ∉ state.out.entries.map Prod.fst := fun inside =>
      fresh (named ▸ sound.folded _ inside)
    obtain ⟨grown, emplaced⟩ := @OrderedMap.exists_emplace _ _ _ state.out file.1 file.2 absent
    simp only [emplaced]
    exact OrderedMap.emplace_perm emplaced

theorem room_iff (sound : state.Sound) :
    state.Room item ↔ FitsLimits ((plainFile item).toList ++ state.out.entries) := by
  have total := sound.total
  have bytes := sound.limits.bytes
  unfold Room
  cases plainFile item with
  | none => simpa using sound.limits
  | some file =>
    simp only [Option.some.injEq, forall_eq', Option.toList_some]
    constructor
    · rintro ⟨room, fits⟩
      refine ⟨room, ?_⟩
      rw [List.singleton_append, byteCount_cons]
      omega
    · rintro ⟨count, fits⟩
      refine ⟨count, ?_⟩
      rw [List.singleton_append, byteCount_cons] at fits
      omega

theorem add_folded : (state.add item).folded = lowerCase item.1 :: state.folded := by
  unfold add
  split <;> rfl

theorem add_sound (sound : state.Sound) (fresh : lowerCase item.1 ∉ state.folded)
    (room : state.Room item) : (state.add item).Sound := by
  have grown := add_perm sound fresh
  refine ⟨?_, ?_, ((room_iff sound).mp room).perm grown.symm⟩
  · intro name inside
    rw [(grown.map Prod.fst).mem_iff, List.map_append, List.mem_append] at inside
    rw [add_folded, List.mem_cons]
    rcases inside with new | old
    · refine .inl ?_
      obtain ⟨file, read, rfl⟩ := List.mem_map.mp new
      unfold plainFile at read
      split at read <;> simp at read
      rw [read]
    · exact .inr (sound.folded name old)
  · rw [byteCount_perm grown, byteCount_append, ← sound.total]
    unfold add
    cases plainFile item with
    | none => simp
    | some file => simp [Nat.add_comm]

/-- The files of the entries still to come and of a state. -/
def pending (state : Collected) (listing : Listing) : List (Bytes × Bytes) :=
  listing.filterMap plainFile ++ state.out.entries

theorem pending_add (sound : state.Sound) (fresh : lowerCase item.1 ∉ state.folded) :
    ((state.add item).pending listing).Perm (state.pending (item :: listing)) := by
  have grown := (add_perm sound fresh).append_left (listing.filterMap plainFile)
  refine grown.trans ?_
  unfold pending
  cases read : plainFile item <;> simp [read]

/-- The whole loop of `files` from a state in the middle. -/
theorem collectAll_eq_ok (sound : state.Sound) : listing.foldlM (collect root) state = .ok final ↔
      (∀ item ∈ listing, Admitted item) ∧ (listing.map fun item => lowerCase item.1).Nodup ∧
        (∀ item ∈ listing, lowerCase item.1 ∉ state.folded) ∧
        FitsLimits (state.pending listing) ∧ listing.foldl add state = final := by
  induction listing generalizing state with
  | nil => simpa [pending, pure, Except.pure] using fun _ => sound.limits
  | cons item listing ih =>
    rw [List.foldlM_cons, bind_eq_ok]
    simp only [List.forall_mem_cons, List.map_cons, List.nodup_cons, List.foldl_cons]
    have separate : (∀ other ∈ listing, lowerCase other.1 ∉ (state.add item).folded) ↔
        lowerCase item.1 ∉ listing.map (fun item => lowerCase item.1) ∧
          ∀ other ∈ listing, lowerCase other.1 ∉ state.folded := by
      simp only [add_folded, List.mem_cons, not_or, List.mem_map, not_exists, not_and]
      exact forall₂_and
    constructor
    · rintro ⟨after, taken, rest⟩
      obtain ⟨admitted, fresh, room, rfl⟩ := collect_eq_ok.mp taken
      obtain ⟨restAdmitted, distinct, restFresh, limits, result⟩ :=
        (ih (add_sound sound fresh room)).mp rest
      obtain ⟨new, old⟩ := separate.mp restFresh
      exact ⟨⟨admitted, restAdmitted⟩, ⟨new, distinct⟩, ⟨fresh, old⟩,
        limits.perm (pending_add sound fresh), result⟩
    · rintro ⟨⟨admitted, restAdmitted⟩, ⟨new, distinct⟩, ⟨fresh, old⟩, limits, result⟩
      have later := limits.perm (pending_add sound fresh).symm
      have room : state.Room item := (room_iff sound).mpr
        (later.of_append.perm (add_perm sound fresh))
      exact ⟨_, collect_eq_ok.mpr ⟨admitted, fresh, room, rfl⟩,
        (ih (add_sound sound fresh room)).mpr
          ⟨restAdmitted, distinct, separate.mpr ⟨new, old⟩, later, result⟩⟩

theorem foldl_add_perm (sound : state.Sound)
    (finished : listing.foldlM (collect root) state = .ok final) :
    final.out.entries.Perm (state.pending listing) := by
  induction listing generalizing state with
  | nil =>
    cases finished
    exact List.Perm.refl _
  | cons item listing ih =>
    rw [List.foldlM_cons, bind_eq_ok] at finished
    obtain ⟨after, taken, rest⟩ := finished
    obtain ⟨_, fresh, room, rfl⟩ := collect_eq_ok.mp taken
    exact (ih (add_sound sound fresh room) rest).trans
      (pending_add sound fresh)

theorem none_sound : none.Sound :=
  ⟨by simp [none, OrderedMap.empty], rfl, ⟨Nat.zero_le _, Nat.zero_le _⟩⟩

end Collected

open Collected in
/-- Reading a tree succeeds just if it is readable, and returns its files. -/
theorem files_eq_ok {out : Files} :
    files ⟨path, some listing⟩ = .ok out ↔
      Readable listing ∧ out.entries.Perm (listing.filterMap plainFile) := by
  have pending : Collected.none.pending listing = listing.filterMap plainFile := by
    simp [pending, Collected.none, OrderedMap.empty]
  simp only [files, map_eq_ok]
  constructor
  · rintro ⟨final, finished, rfl⟩
    obtain ⟨admitted, distinct, _, limits, _⟩ := (collectAll_eq_ok none_sound).mp finished
    rw [pending] at limits
    exact ⟨⟨admitted, distinct, limits⟩,
      pending ▸ foldl_add_perm none_sound finished⟩
  · rintro ⟨⟨admitted, distinct, limits⟩, same⟩
    have finished := (@collectAll_eq_ok _ _ listing path none_sound).mpr
      ⟨admitted, distinct, fun _ _ => List.not_mem_nil, pending ▸ limits, rfl⟩
    have read := foldl_add_perm none_sound finished
    exact ⟨_, finished, OrderedMap.ext_perm (read.trans (pending ▸ same.symm))⟩

/-- The order of the iterator does not matter. -/
theorem Readable.perm (readable : Readable listing) (same : listing.Perm other) : Readable other :=
  ⟨fun item member => readable.admitted item (same.mem_iff.mpr member),
    (same.map _).nodup_iff.mp readable.distinct, readable.limits.perm (same.filterMap _)⟩

end ShortHand.Evidence
