import ShortHand.Modules.Lockfile
import ShortHand.Modules.Ordering

/-! Loading the module graph. Only when the entry is finished is everything it leads to in the
graph. -/

namespace ShortHand.Modules

open ShortHand.Library ShortHand.Evidence Relation OrderedMap List
open List (append_nil mem_cons_of_mem mem_cons_self)

variable {files : FileSystem} {manifest : PackageManifest}
  {parse : Bytes → Option ParsedSourceUnit} {graph after : Expansion} {name entry : Bytes}

section Logged

variable (files manifest parse)

/-- The modules whose sources `loadImport` gives to the parser. -/
def parsedFor (graph : Expansion) (name : Bytes) : List Bytes :=
  if graph.units.contains name then []
  else match resolveModule files manifest name with
    | .ok _ => [name]
    | .error _ => []

/-- One round of the loop over the imports. -/
def importLogged
    (next : Expansion × List Bytes → Bytes → Except (Stop × List Bytes) (Expansion × List Bytes))
    (state : Expansion × List Bytes) (import_ : Bytes) :
    Except (Stop × List Bytes) (Expansion × List Bytes) := do
  let log := state.2 ++ parsedFor files manifest state.1 import_
  let graph ← (loadImport files manifest parse state.1 import_).mapError
    fun failure => (.failed failure, log)
  next (graph, log) import_

/-- `expand` with a list of the modules that were parsed, which a failure keeps. -/
def expandLogged :
    Nat → Expansion × List Bytes → Bytes → Except (Stop × List Bytes) (Expansion × List Bytes)
  | 0, state, _ => .error (.unfinished, state.2)
  | depth + 1, state, name =>
    if name ∈ state.1.expanded ∨ name ∈ state.1.expanding then .ok state
    else do
      let imports := ((state.1.units.find? name).map (·.imports)).getD []
      let last ← imports.foldlM (importLogged files manifest parse (expandLogged depth))
        ({ state.1 with expanding := name :: state.1.expanding }, state.2)
      return ({ last.1 with
        expanding := last.1.expanding.filter (· ≠ name), expanded := name :: last.1.expanded }, last.2)

end Logged

/-- A result without the log. -/
def dropLog {ε σ τ : Type} : Except (ε × τ) (σ × τ) → Except ε σ
  | .ok (value, _) => .ok value
  | .error (failure, _) => .error failure

theorem dropLog_bind {ε σ ρ τ : Type} {computation : Except (ε × τ) (σ × τ)}
    {rest : σ × τ → Except (ε × τ) (ρ × τ)} {plain : σ → Except ε ρ}
    (same : ∀ state, dropLog (rest state) = plain state.1) :
    dropLog (computation >>= rest) = dropLog computation >>= plain := by
  cases computation with
  | ok state => exact same state
  | error failure => rfl

theorem dropLog_foldlM {ε σ τ ι : Type} {round : σ × τ → ι → Except (ε × τ) (σ × τ)}
    {plain : σ → ι → Except ε σ} {items : List ι} {state : σ × τ}
    (same : ∀ state item, dropLog (round state item) = plain state.1 item) :
    dropLog (items.foldlM round state) = items.foldlM plain state.1 := by
  induction items generalizing state with
  | nil => rfl
  | cons item items ih =>
    rw [foldlM_cons, foldlM_cons, ← same state item]
    exact dropLog_bind fun after => ih

/-- The list of parses changes nothing. -/
theorem dropLog_expandLogged (depth : Nat) (state : Expansion × List Bytes) (name : Bytes) :
    dropLog (expandLogged files manifest parse depth state name) =
      expand files manifest parse depth state.1 name := by
  induction depth generalizing state name with
  | zero => rfl
  | succ depth ih =>
    rw [expandLogged, expand]
    split
    · rfl
    have rounds := @dropLog_foldlM _ _ _ _
      (importLogged files manifest parse (expandLogged files manifest parse depth))
      (fun graph import_ => do
        let graph ← (loadImport files manifest parse graph import_).mapError .failed
        expand files manifest parse depth graph import_)
      (((state.1.units.find? name).map (·.imports)).getD [])
      ({ state.1 with expanding := name :: state.1.expanding }, state.2) ?_
    · dsimp only at rounds ⊢
      rw [← rounds]
      exact dropLog_bind fun last => rfl
    · intro state import_
      rw [importLogged]
      cases loadImport files manifest parse state.1 import_ with
      | error failure => rfl
      | ok graph => exact ih (graph, _) import_

theorem Imports.known (leads : Imports units name other) : units.contains name = true := by
  obtain ⟨unit, found, _⟩ := leads
  exact Option.isSome_iff_exists.mpr ⟨unit, found⟩

/-- A map that has all units of another. -/
def Extends (units larger : OrderedMap Bytes ModuleUnitDescriptor) : Prop :=
  ∀ name unit, units.find? name = some unit → larger.find? name = some unit

theorem Extends.refl (units : OrderedMap Bytes ModuleUnitDescriptor) : Extends units units :=
  fun _ _ => id

theorem Extends.trans (first : Extends units larger) (second : Extends larger largest) :
    Extends units largest :=
  fun name unit found => second name unit (first name unit found)

theorem Extends.contains (grows : Extends units larger) (present : units.contains name = true) :
    larger.contains name = true := by
  obtain ⟨unit, found⟩ := Option.isSome_iff_exists.mp present
  exact Option.isSome_iff_exists.mpr ⟨unit, grows name unit found⟩

theorem Extends.imports (grows : Extends units larger) (imports : Imports units name other) :
    Imports larger name other := by
  obtain ⟨unit, found, member⟩ := imports
  exact ⟨unit, grows name unit found, member⟩

theorem Extends.reaches (grows : Extends units larger)
    (path : ReflTransGen (Imports units) name last) : ReflTransGen (Imports larger) name last :=
  ReflTransGen.mono (fun _ _ => grows.imports) _ _ path

theorem extends_insert
    (absent : units.contains name = false) : Extends units (units.insert name unit) := by
  intro other found present
  rw [find?_eq_some_iff] at present ⊢
  refine mem_insert.mpr (.inr ⟨present, ?_⟩)
  rintro rfl
  exact contains_eq_false_iff.mp absent (mem_map_of_mem present)

theorem contains_insert {units : OrderedMap Bytes ModuleUnitDescriptor}
    (present : (units.insert name unit).contains other = true) :
    units.contains other = true ∨ other = name := by
  obtain ⟨found, isFound⟩ := Option.isSome_iff_exists.mp present
  rcases mem_insert.mp (find?_eq_some_iff.mp isFound) with new | ⟨older, _⟩
  · exact .inr (congrArg Prod.fst new)
  · exact .inl (Option.isSome_iff_exists.mpr ⟨found, find?_eq_some_iff.mpr older⟩)

/-- An import that was there, or a new unit that the manifest vouches for. -/
theorem loadImport_eq_ok (loaded : loadImport files manifest parse graph name = .ok after) :
    graph.units.contains name = true ∧ after = graph ∨
      graph.units.contains name = false ∧ parsedFor files manifest graph name = [name] ∧
        ∃ unit package, unit.moduleName = name ∧
          validateUnitIdentity files manifest unit package = .ok () ∧
          after = { graph with units := graph.units.insert name unit } := by
  unfold loadImport at loaded
  split at loaded
  · rename_i present
    cases loaded
    exact .inl ⟨present, rfl⟩
  · rename_i absent
    obtain ⟨path, resolved, loaded⟩ := bind_eq_ok.mp loaded
    split at loaded
    · cases loaded
    rename_i unit _
    obtain ⟨named, loaded⟩ := check_eq_ok.mp loaded
    obtain ⟨valid, result⟩ := check_eq_ok.mp loaded
    cases result
    refine .inr ⟨Bool.eq_false_iff.mpr absent, ?_, unit.descriptor, unit.package,
      of_decide_eq_true (ensure_eq_ok.mp named), valid, rfl⟩
    rw [parsedFor, if_neg absent, resolved]

/-- A unit of the graph is the one that the manifest means. -/
theorem Validated.path (validated : Validated files manifest units)
    (found : units.find? name = some unit) :
    unit.moduleName = name ∧
      ∃ path, resolveModule files manifest name = .ok path ∧
        files.weaklyCanonical unit.sourcePath = some path := by
  obtain ⟨named, package, valid⟩ := validated _ (find?_eq_some_iff.mp found)
  obtain ⟨_, valid⟩ := check_eq_ok.mp valid
  obtain ⟨_, valid⟩ := check_eq_ok.mp valid
  obtain ⟨path, resolved, same⟩ := bind_eq_ok.mp valid
  rw [named] at resolved
  exact ⟨named, path, resolved, of_decide_eq_true (ensure_eq_ok.mp same)⟩

theorem path_of_validated (validated : Validated files manifest units)
    (present : units.contains name = true) :
    ∃ path, manifest.modulePaths.find? name = some path := by
  obtain ⟨unit, found⟩ := Option.isSome_iff_exists.mp present
  obtain ⟨_, file, resolved, _⟩ := validated.path found
  unfold resolveModule at resolved
  split at resolved
  · cases resolved
  · rename_i path listed
    exact ⟨path, listed⟩

/-- A graph on the way. -/
structure Growing (files : FileSystem) (manifest : PackageManifest) (entry : Bytes)
    (state : Expansion × List Bytes) : Prop where
  validated : Validated files manifest state.1.units
  rooted : state.1.units.contains entry = true
  reached : ∀ name, state.1.units.contains name = true →
    ReflTransGen (Imports state.1.units) entry name
  /-- A finished module leads to finished and open ones. -/
  closed : ∀ name ∈ state.1.expanded, ∀ next, Imports state.1.units name next →
    next ∈ state.1.expanded ∨ next ∈ state.1.expanding
  known : ∀ name ∈ state.1.expanded, state.1.units.contains name = true
  openKnown : ∀ name ∈ state.1.expanding, state.1.units.contains name = true
  openDistinct : state.1.expanding.Nodup
  parsedOnce : (entry :: state.2).Nodup
  parsedKnown : ∀ name ∈ state.2, state.1.units.contains name = true

/-- Every unit is finished or open, apart from one. -/
def Covered (graph : Expansion) (apart : Bytes → Prop) : Prop :=
  ∀ name, graph.units.contains name = true →
    name ∈ graph.expanded ∨ name ∈ graph.expanding ∨ apart name

/-- What the expansion of a module adds. -/
structure Expanded (files : FileSystem) (manifest : PackageManifest) (entry : Bytes)
    (before : Expansion) (name : Bytes) (state : Expansion × List Bytes) : Prop where
  growing : Growing files manifest entry state
  covered : Covered state.1 fun _ => False
  grows : Extends before.units state.1.units
  kept : ∀ name ∈ before.expanded, name ∈ state.1.expanded
  expanding : state.1.expanding = before.expanding
  member : name ∈ state.1.expanded ∨ name ∈ state.1.expanding

/-- A failure after no module was parsed twice; it is not for want of depth if the manifest
has no more modules than that. -/
def Stopped (manifest : PackageManifest) (entry : Bytes) (bound : Nat) (stop : Stop × List Bytes) :
    Prop :=
  (entry :: stop.2).Nodup ∧ (stop.1 = .unfinished → bound ≤ manifest.modulePaths.entries.length)

section Growing

variable {state : Expansion × List Bytes}

theorem Growing.length_expanding (growing : Growing files manifest entry state) :
    state.1.expanding.length ≤ manifest.modulePaths.entries.length := by
  have inside : state.1.expanding ⊆ manifest.modulePaths.entries.map Prod.fst := by
    intro name member
    obtain ⟨path, found⟩ := path_of_validated growing.validated (growing.openKnown name member)
    exact mem_map_of_mem (find?_eq_some_iff.mp found)
  simpa using growing.openDistinct.length_le_of_subset inside

/-- What is parsed for an import has not been parsed before. -/
theorem Growing.parsedFor_nodup (growing : Growing files manifest entry state) (name : Bytes) :
    (entry :: (state.2 ++ parsedFor files manifest state.1 name)).Nodup := by
  unfold parsedFor
  split
  · rw [append_nil]
    exact growing.parsedOnce
  rename_i absent
  split
  · rw [← cons_append]
    refine growing.parsedOnce.append (nodup_singleton name) ?_
    simp only [disjoint_singleton, mem_cons, not_or]
    constructor
    · rintro rfl
      exact absent growing.rooted
    · exact fun member => absent (growing.parsedKnown name member)
  · rw [append_nil]
    exact growing.parsedOnce

theorem Growing.open_ (growing : Growing files manifest entry state)
    (present : state.1.units.contains name = true) (closed : name ∉ state.1.expanding) :
    Growing files manifest entry
      ({ state.1 with expanding := name :: state.1.expanding }, state.2) where
  validated := growing.validated
  rooted := growing.rooted
  reached := growing.reached
  closed := by
    intro other member next imports
    exact (growing.closed other member next imports).imp_right (mem_cons_of_mem name)
  known := growing.known
  openKnown := forall_mem_cons.mpr ⟨present, growing.openKnown⟩
  openDistinct := nodup_cons.mpr ⟨closed, growing.openDistinct⟩
  parsedOnce := growing.parsedOnce
  parsedKnown := growing.parsedKnown

/-- A module all of whose imports are finished or open can be finished. -/
theorem Growing.finish (growing : Growing files manifest entry state)
    (open_ : state.1.expanding = name :: older)
    (imports : ∀ next, Imports state.1.units name next →
      next ∈ state.1.expanded ∨ next ∈ state.1.expanding) :
    Growing files manifest entry ({ state.1 with
      expanding := older, expanded := name :: state.1.expanded }, state.2) := by
  have distinct := growing.openDistinct
  have known := growing.openKnown
  rw [open_] at distinct known
  obtain ⟨present, stillKnown⟩ := forall_mem_cons.mp known
  refine ⟨growing.validated, growing.rooted, growing.reached, ?_,
    forall_mem_cons.mpr ⟨present, growing.known⟩, stillKnown,
    (nodup_cons.mp distinct).2, growing.parsedOnce, growing.parsedKnown⟩
  intro other member next leads
  have held : next ∈ state.1.expanded ∨ next ∈ state.1.expanding := by
    rcases mem_cons.mp member with rfl | finished
    · exact imports next leads
    · exact growing.closed other finished next leads
  rcases held with finished | opened
  · exact .inl (mem_cons_of_mem name finished)
  rw [open_] at opened
  rcases mem_cons.mp opened with rfl | still
  · exact .inl mem_cons_self
  · exact .inr still

/-- An import is in the graph after it was loaded. -/
theorem Growing.load (growing : Growing files manifest entry state)
    (leads : Imports state.1.units importer name)
    (loaded : loadImport files manifest parse state.1 name = .ok after) :
    Growing files manifest entry (after, state.2 ++ parsedFor files manifest state.1 name) ∧
      after.units.contains name = true := by
  rcases loadImport_eq_ok loaded with ⟨present, rfl⟩ | ⟨absent, parsed, unit, package, named, valid, rfl⟩
  · rw [parsedFor, if_pos present, append_nil]
    exact ⟨growing, present⟩
  subst named
  have grows := @extends_insert _ _ unit absent
  have isNew : (state.1.units.insert unit.moduleName unit).contains unit.moduleName = true := by
    refine Option.isSome_iff_exists.mpr ⟨unit, find?_eq_some_iff.mpr ?_⟩
    exact mem_insert.mpr (.inl rfl)
  have older : ∀ other, state.1.units.contains other = true → other ≠ unit.moduleName := by
    rintro other present rfl
    exact Bool.noConfusion (absent.symm.trans present)
  refine ⟨⟨?_, grows.contains growing.rooted, ?_, ?_, ?_, ?_, growing.openDistinct,
    growing.parsedFor_nodup _, ?_⟩, isNew⟩
  · exact growing.validated.insert valid
  · intro other present
    rcases contains_insert present with earlier | rfl
    · exact grows.reaches (growing.reached other earlier)
    · have start := growing.reached importer leads.known
      exact (grows.reaches start).tail (grows.imports leads)
  · -- what a finished module imports has not changed
    rintro done member next ⟨descriptor, found, listed⟩
    refine growing.closed done member next ⟨descriptor, ?_, listed⟩
    rcases mem_insert.mp (find?_eq_some_iff.mp found) with new | ⟨earlier, _⟩
    · exact absurd (congrArg Prod.fst new) (older done (growing.known done member))
    · exact find?_eq_some_iff.mpr earlier
  · exact fun other member => grows.contains (growing.known other member)
  · exact fun other member => grows.contains (growing.openKnown other member)
  · rw [parsed]
    exact forall_mem_concat.mpr
      ⟨fun other earlier => grows.contains (growing.parsedKnown other earlier), isNew⟩

/-- The units after an import, and that nothing else changes. -/
theorem loadImport_extends (loaded : loadImport files manifest parse graph name = .ok after) :
    Extends graph.units after.units ∧ after.expanded = graph.expanded ∧
      after.expanding = graph.expanding ∧
      ∀ other, after.units.contains other = true →
        graph.units.contains other = true ∨ other = name := by
  rcases loadImport_eq_ok loaded with ⟨_, rfl⟩ | ⟨absent, _, unit, _, _, _, rfl⟩
  · exact ⟨.refl _, rfl, rfl, fun other present => .inl present⟩
  · exact ⟨extends_insert absent, rfl, rfl, fun other => contains_insert⟩

end Growing

/-- The state of the loop over the imports of a module: those before a position are finished
or open. -/
structure Importing (files : FileSystem) (manifest : PackageManifest) (entry : Bytes)
    (before : Expansion) (name : Bytes) (earlier : List Bytes) (state : Expansion × List Bytes) :
    Prop where
  growing : Growing files manifest entry state
  covered : Covered state.1 fun _ => False
  grows : Extends before.units state.1.units
  kept : ∀ name ∈ before.expanded, name ∈ state.1.expanded
  expanding : state.1.expanding = name :: before.expanding
  imported : ∀ item ∈ earlier, item ∈ state.1.expanded ∨ item ∈ state.1.expanding

variable {state : Expansion × List Bytes}

theorem expandLogged_meets (depth : Nat) (growing : Growing files manifest entry state)
    (covered : Covered state.1 (· = name)) (present : state.1.units.contains name = true) :
    Meets (Expanded files manifest entry state.1 name)
      (Stopped manifest entry (depth + state.1.expanding.length))
      (expandLogged files manifest parse depth state name) := by
  induction depth generalizing state name with
  | zero =>
    rw [Nat.zero_add]
    exact ⟨growing.parsedOnce, fun _ => growing.length_expanding⟩
  | succ depth ih =>
    rw [expandLogged]
    split
    · rename_i settled
      refine ⟨growing, ?_, .refl _, fun _ => id, rfl, settled⟩
      intro other known
      rcases covered other known with finished | open_ | rfl
      · exact .inl finished
      · exact .inr (.inl open_)
      · exact settled.imp_right .inl
    · rename_i new
      obtain ⟨unfinished, closed⟩ := not_or.mp new
      obtain ⟨unit, found⟩ := Option.isSome_iff_exists.mp present
      have start : Importing files manifest entry state.1 name []
          ({ state.1 with expanding := name :: state.1.expanding }, state.2) := by
        refine ⟨growing.open_ present closed, ?_, .refl _, fun _ => id, rfl, by simp⟩
        intro other known
        rcases covered other known with finished | open_ | rfl
        · exact .inl finished
        · exact .inr (.inl (mem_cons_of_mem name open_))
        · exact .inr (.inl mem_cons_self)
      simp only [found, Option.map_some, Option.getD_some]
      refine Meets.bind (@Meets.foldlM _ _ _ _ _ _
        (Importing files manifest entry state.1 name) _ start ?_) ?_
      · intro earlier item later whole now importing
        have imports : Imports now.1.units name item := by
          refine ⟨unit, importing.grows name unit found, ?_⟩
          rw [whole]
          exact mem_append_right _ mem_cons_self
        rw [importLogged]
        cases loaded : loadImport files manifest parse now.1 item with
        | error failure => exact ⟨importing.growing.parsedFor_nodup item, nofun⟩
        | ok graph =>
          obtain ⟨nextGrowing, known⟩ := importing.growing.load imports loaded
          obtain ⟨grows, sameExpanded, sameExpanding, among⟩ := loadImport_extends loaded
          refine (ih nextGrowing ?_ known).mono ?_ ?_
          · intro other otherKnown
            rw [sameExpanded, sameExpanding]
            rcases among other otherKnown with older | rfl
            · exact (importing.covered other older).imp_right (Or.imp_right False.elim)
            · exact .inr (.inr rfl)
          · intro next expanded
            have kept : ∀ other ∈ now.1.expanded, other ∈ next.1.expanded := by
              intro other member
              exact expanded.kept other (sameExpanded ▸ member)
            have expanding : next.1.expanding = now.1.expanding :=
              expanded.expanding.trans sameExpanding
            refine ⟨expanded.growing, expanded.covered,
              (importing.grows.trans grows).trans expanded.grows,
              fun other member => kept other (importing.kept other member),
              expanding.trans importing.expanding, ?_⟩
            refine forall_mem_concat.mpr ⟨fun other before => ?_, expanded.member⟩
            rw [expanding]
            exact (importing.imported other before).imp_left (kept other)
          · rintro stop ⟨once, deep⟩
            refine ⟨once, fun unfinished => ?_⟩
            have bound := deep unfinished
            rw [sameExpanding, importing.expanding, length_cons] at bound
            omega
      · intro last importing
        have distinct := importing.growing.openDistinct
        rw [importing.expanding] at distinct
        have remaining : last.1.expanding.filter (· ≠ name) = state.1.expanding := by
          rw [importing.expanding, filter_cons_of_neg (by simp), filter_eq_self]
          intro other member
          exact decide_eq_true fun same => (nodup_cons.mp distinct).1 (same ▸ member)
        have finished := importing.growing.finish importing.expanding ?_
        · rw [remaining]
          refine ⟨finished, ?_, importing.grows,
            fun other member => mem_cons_of_mem name (importing.kept other member), rfl,
            .inl mem_cons_self⟩
          intro other known
          rcases importing.covered other known with done | open_ | impossible
          · exact .inl (mem_cons_of_mem name done)
          · rw [importing.expanding] at open_
            rcases mem_cons.mp open_ with rfl | still
            · exact .inl mem_cons_self
            · exact .inr (.inl still)
          · exact impossible.elim
        · rintro next ⟨descriptor, isDescriptor, listed⟩
          cases (importing.grows name unit found).symm.trans isDescriptor
          exact importing.imported next listed

/-- An expansion that is deep enough does not depend on its depth. -/
theorem expandLogged_deeper
    (settled : ∀ stop : Stop × List Bytes, stop.1 = .unfinished →
      expandLogged files manifest parse depth state name ≠ .error stop) :
    expandLogged files manifest parse (depth + 1) state name =
      expandLogged files manifest parse depth state name := by
  induction depth generalizing state name with
  | zero => exact absurd rfl (settled (.unfinished, state.2) rfl)
  | succ depth ih =>
    rw [expandLogged] at settled
    rw [expandLogged, expandLogged]
    split
    · rfl
    rename_i new
    rw [if_neg new] at settled
    have same := @foldlM_extends _ _ _
      (importLogged files manifest parse (expandLogged files manifest parse depth))
      ({ state.1 with expanding := name :: state.1.expanding }, state.2)
      (((state.1.units.find? name).map (·.imports)).getD [])
      (importLogged files manifest parse (expandLogged files manifest parse (depth + 1)))
      (·.1 = .unfinished) ?_ ?_
    · exact congrArg (· >>= _) same
    · intro before item unstopped
      rw [importLogged] at unstopped ⊢
      rw [importLogged]
      cases loaded : loadImport files manifest parse before.1 item with
      | error failure => rfl
      | ok graph =>
        rw [loaded] at unstopped
        exact ih unstopped
    · intro stop unfinished stopped
      dsimp only at settled
      rw [stopped] at settled
      exact settled stop unfinished rfl

theorem expandLogged_settled (growing : Growing files manifest entry state)
    (covered : Covered state.1 (· = name)) (present : state.1.units.contains name = true)
    (deep : manifest.modulePaths.entries.length < depth) :
    expandLogged files manifest parse depth state name =
      expandLogged files manifest parse (manifest.modulePaths.entries.length + 1) state name := by
  induction depth, deep using Nat.le_induction with
  | base => rfl
  | succ depth deep ih =>
    rw [← ih]
    refine expandLogged_deeper fun stop unfinished stopped => ?_
    have meets := @expandLogged_meets _ _ parse _ _ _ depth growing covered present
    rw [stopped] at meets
    have bound := meets.2 unfinished
    omega

/-- The part of `loadModuleGraph` from the check of the entry to its expansion. -/
def expandEntry (files : FileSystem) (manifest : PackageManifest)
    (parse : Bytes → Option ParsedSourceUnit) (depth : Nat) (entry : ParsedSourceUnit) :
    Except (Stop × List Bytes) (Expansion × List Bytes) := do
  (validateUnitIdentity files manifest entry.descriptor entry.package).mapError
    fun failure => (.failed failure, [])
  expandLogged files manifest parse depth
    ({ units := empty.insert entry.descriptor.moduleName entry.descriptor }, [])
    entry.descriptor.moduleName

/-- Nothing is open at the end: all that the entry leads to is in the graph. -/
theorem Expanded.contains_iff (expanded : Expanded files manifest entry before entry state)
    (idle : before.expanding = []) :
    state.1.units.contains name = true ↔ ReflTransGen (Imports state.1.units) entry name := by
  have none : ∀ other, other ∉ state.1.expanding := by
    rw [expanded.expanding, idle]
    exact fun other => not_mem_nil
  refine ⟨expanded.growing.reached name, fun path => ?_⟩
  have finished : name ∈ state.1.expanded := by
    induction path with
    | refl => exact expanded.member.resolve_right (none entry)
    | tail _ leads ih =>
      exact (expanded.growing.closed _ ih _ leads).resolve_right (none _)
  exact expanded.growing.known name finished

theorem growing_start {unit : ModuleUnitDescriptor}
    (valid : validateUnitIdentity files manifest unit package = .ok ()) :
    Growing files manifest unit.moduleName
        ({ units := empty.insert unit.moduleName unit }, []) ∧
      Covered { units := empty.insert unit.moduleName unit } (· = unit.moduleName) ∧
      (empty.insert unit.moduleName unit).contains unit.moduleName = true := by
  have only : ∀ name, (empty.insert unit.moduleName unit).contains name = true →
      name = unit.moduleName := by
    intro name present
    exact (contains_insert present).resolve_left nofun
  have present : (empty.insert unit.moduleName unit).contains unit.moduleName = true := by
    refine Option.isSome_iff_exists.mpr ⟨unit, find?_eq_some_iff.mpr ?_⟩
    exact mem_insert.mpr (.inl rfl)
  refine ⟨⟨?_, present, ?_, nofun, nofun, nofun, nodup_nil, nodup_singleton _, nofun⟩,
    fun name known => .inr (.inr (only name known)), present⟩
  · exact Validated.insert nofun valid
  · intro name known
    rw [only name known]

end ShortHand.Modules
