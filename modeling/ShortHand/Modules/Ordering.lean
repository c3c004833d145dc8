import ShortHand.Library.Precedence
import ShortHand.Modules.Resolver

/-! The depth-first visit keeps its finished modules in an order in which imports come first. -/

namespace ShortHand.Modules

open ShortHand.Library ShortHand.Evidence Relation List

variable {units : OrderedMap Bytes ModuleUnitDescriptor}

/-- A module of the map and a module that it imports. -/
def Imports (units : OrderedMap Bytes ModuleUnitDescriptor) (importer imported : Bytes) : Prop :=
  ∃ unit, units.find? importer = some unit ∧ imported ∈ unit.imports

/-- Modules of which each imports the next one and the last one the first. -/
structure ImportCycle (units : OrderedMap Bytes ModuleUnitDescriptor) (first : Bytes)
    (path : List Bytes) : Prop where
  chain : (first :: path).IsChain (Imports units)
  closes : ∀ last, (first :: path).getLast? = some last → Imports units last first

def cycleText (first : Bytes) (path : List Bytes) : String :=
  String.join ((first :: path).map fun item => shown item ++ " -> ") ++ shown first

theorem ImportCycle.cyclic (cycle : ImportCycle units first path) :
    TransGen (Imports units) first first := by
  have ends := getLast?_eq_some_getLast (cons_ne_nil first path)
  exact TransGen.tail' (reaches_of_isChain cycle.chain ends) (cycle.closes _ ends)

/-- The result that a search for an order of the modules is for. -/
structure TopologicallyOrders (units : OrderedMap Bytes ModuleUnitDescriptor) (entry : Bytes)
    (order : List Bytes) : Prop where
  distinct : order.Nodup
  covers : ∀ name, name ∈ order ↔ ReflTransGen (Imports units) entry name
  importsFirst : SuccessorsFirst (Imports units) order
  entryLast : order.getLast? = some entry

/-- The failures of a visit, each with what it says about the graph. -/
inductive Blames (units : OrderedMap Bytes ModuleUnitDescriptor) (name : Bytes) : Failure → Prop where
  | missing {absent : Bytes} (reached : ReflTransGen (Imports units) name absent)
      (unknown : units.find? absent = none) :
      Blames units name
        ⟨.notFound, "resolved graph is missing imported module: " ++ shown absent⟩
  | cycle {first : Bytes} {path : List Bytes} (reached : ReflTransGen (Imports units) name first)
      (cyclic : ImportCycle units first path) :
      Blames units name ⟨.importCycle, "module import cycle: " ++ cycleText first path⟩

theorem Blames.head {name next : Bytes} {failure : Failure} (imports : Imports units name next)
    (blames : Blames units next failure) : Blames units name failure := by
  cases blames with
  | missing reached unknown => exact .missing (.head imports reached) unknown
  | cycle reached cyclic => exact .cycle (.head imports reached) cyclic

/-- The invariant of the visit. -/
structure Visit.Sound (units : OrderedMap Bytes ModuleUnitDescriptor) (state : Visit) : Prop where
  finished : ∀ name, name ∈ state.done ↔ name ∈ state.ordered
  known : ∀ name ∈ state.ordered, units.contains name = true
  distinct : state.ordered.Nodup
  importsFirst : SuccessorsFirst (Imports units) state.ordered
  chain : state.stack.IsChain (Imports units)
  openKnown : ∀ name ∈ state.stack, units.contains name = true
  openDistinct : state.stack.Nodup
  openUnfinished : ∀ name ∈ state.stack, name ∉ state.ordered

/-- What the visit of a module adds. -/
structure Visited (units : OrderedMap Bytes ModuleUnitDescriptor) (before : Visit) (name : Bytes)
    (after : Visit) : Prop where
  sound : after.Sound units
  stack : after.stack = before.stack
  member : name ∈ after.ordered
  grows : ∃ more, after.ordered = before.ordered ++ more ∧
    (∀ item ∈ more, ReflTransGen (Imports units) name item) ∧
    (name ∈ before.ordered ∨ more.getLast? = some name)

section Visit

variable {state after : Visit} {name : Bytes} {unit : ModuleUnitDescriptor}

/-- The open modules are different modules of the map. -/
theorem Visit.Sound.length_stack (sound : state.Sound units) :
    state.stack.length ≤ units.entries.length := by
  have inside : state.stack ⊆ units.entries.map Prod.fst := by
    intro name member
    by_contra absent
    have unknown := OrderedMap.contains_eq_false_iff.mpr absent
    exact Bool.noConfusion (unknown.symm.trans (sound.openKnown name member))
  simpa using sound.openDistinct.length_le_of_subset inside

theorem Visit.Sound.open_ (sound : state.Sound units) (found : units.find? name = some unit)
    (unfinished : name ∉ state.done) (closed : name ∉ state.stack)
    (imported : ∀ top, state.stack.getLast? = some top → Imports units top name) :
    Visit.Sound units { state with stack := state.stack ++ [name] } where
  finished := sound.finished
  known := sound.known
  distinct := sound.distinct
  importsFirst := sound.importsFirst
  chain := by
    refine isChain_append.mpr ⟨sound.chain, isChain_singleton name, ?_⟩
    intro top isTop next isNext
    cases isNext
    exact imported top isTop
  openKnown := forall_mem_concat.mpr ⟨sound.openKnown, by rw [OrderedMap.contains, found]; rfl⟩
  openDistinct := sound.openDistinct.append (nodup_singleton name) (by simpa using closed)
  openUnfinished := forall_mem_concat.mpr ⟨sound.openUnfinished, by rwa [← sound.finished]⟩

/-- A module that is open is on a cycle with those opened after it. -/
theorem Visit.Sound.cycle (sound : state.Sound units) (open_ : name ∈ state.stack)
    (imported : ∀ top, state.stack.getLast? = some top → Imports units top name) :
    ∃ path, state.stack.dropWhile (· ≠ name) = name :: path ∧ ImportCycle units name path := by
  obtain ⟨before, path, split⟩ := append_of_mem open_
  have fresh : name ∉ before := by
    intro earlier
    have distinct := sound.openDistinct
    rw [split] at distinct
    exact (nodup_append.mp distinct).2.2 name earlier name mem_cons_self rfl
  have dropped : state.stack.dropWhile (· ≠ name) = name :: path := by
    have skipped : ∀ item ∈ before, (decide (item ≠ name)) = true := by
      intro item member
      exact decide_eq_true fun same => fresh (same ▸ member)
    rw [split, dropWhile_append_of_pos skipped, dropWhile_cons_of_neg (by simp)]
  refine ⟨path, dropped, ?_, ?_⟩
  · have chain := sound.chain
    rw [split] at chain
    exact (isChain_append.mp chain).2.1
  · intro last ends
    refine imported last ?_
    rwa [split, getLast?_append_of_ne_nil _ (cons_ne_nil name path)]

/-- The imports of an open module have been visited: it can be finished. -/
theorem Visit.Sound.finish (sound : after.Sound units)
    (stack : after.stack = state.stack ++ [name]) (found : units.find? name = some unit)
    (imports : ∀ item ∈ unit.imports, item ∈ after.ordered) :
    Visit.Sound units { stack := after.stack.dropLast, done := name :: after.done,
                        ordered := after.ordered ++ [name] } := by
  have unfinished : name ∉ after.ordered := by
    refine sound.openUnfinished name ?_
    rw [stack]
    exact mem_append_right _ mem_cons_self
  have remaining : after.stack.dropLast = state.stack := by
    rw [stack, dropLast_concat]
  have older : ∀ item ∈ state.stack, item ∈ after.stack := by
    intro item member
    rw [stack]
    exact mem_append_left _ member
  have distinct := sound.openDistinct
  have chain := sound.chain
  rw [stack] at distinct chain
  rw [remaining]
  constructor
  · intro item
    simp only [mem_cons, mem_append, not_mem_nil, or_false, sound.finished item]
    exact Or.comm
  · exact forall_mem_concat.mpr ⟨sound.known, by rw [OrderedMap.contains, found]; rfl⟩
  · exact sound.distinct.append (nodup_singleton name) (by simpa using unfinished)
  · refine sound.importsFirst.concat fun next leads => ?_
    obtain ⟨other, isOther, member⟩ := leads
    cases found.symm.trans isOther
    exact imports next member
  · exact (isChain_append.mp chain).1
  · exact fun item member => sound.openKnown item (older item member)
  · exact (nodup_append.mp distinct).1
  · intro item member finished
    rcases mem_append.mp finished with earlier | new
    · exact sound.openUnfinished item (older item member) earlier
    · exact (nodup_append.mp distinct).2.2 item member name mem_cons_self
        (mem_singleton.mp new)

/-- The visit of a module finishes all that the module leads to, or says why not; it goes
no deeper than the map has modules. -/
theorem visit_meets (depth : Nat) (sound : state.Sound units)
    (imported : ∀ top, state.stack.getLast? = some top → Imports units top name) :
    Meets (Visited units state name)
      (fun stop => match stop with
        | .failed failure => Blames units name failure
        | .unfinished => depth + state.stack.length ≤ units.entries.length)
      (visit units depth state name) := by
  induction depth generalizing state name with
  | zero =>
    rw [Nat.zero_add]
    exact sound.length_stack
  | succ depth ih =>
    rw [visit]
    split
    · rename_i finished
      have member := (sound.finished name).mp finished
      exact ⟨sound, rfl, member, [], by simp, by simp, .inl member⟩
    · rename_i unfinished
      split
      · rename_i open_
        obtain ⟨path, dropped, cyclic⟩ := sound.cycle open_ imported
        have blames : Blames units name _ := .cycle .refl cyclic
        rwa [dropped]
      · rename_i closed
        split
        · rename_i unknown
          exact Blames.missing .refl unknown
        rename_i unit found
        have opened := sound.open_ found unfinished closed imported
        have top : ∀ last, (state.stack ++ [name]).getLast? = some last → last = name := by
          intro last isLast
          rw [getLast?_concat] at isLast
          exact (Option.some.inj isLast).symm
        -- the imports before a position are finished, and nothing but what they lead to
        refine Meets.bind (@Meets.foldlM _ _ _ _ _ _ (fun earlier now => now.Sound units ∧
            now.stack = state.stack ++ [name] ∧ (∀ item ∈ earlier, item ∈ now.ordered) ∧
            ∃ more, now.ordered = state.ordered ++ more ∧
              ∀ item ∈ more, ReflTransGen (Imports units) name item) _
          ⟨opened, rfl, by simp, [], by simp, by simp⟩ ?_) ?_
        · rintro earlier item later whole now ⟨nowSound, nowStack, nowImports, more, grown, led⟩
          have imports : Imports units name item := by
            refine ⟨unit, found, (perm_insertionSort (· ≤ ·) unit.imports).subset ?_⟩
            rw [whole]
            exact mem_append_right _ mem_cons_self
          refine (ih nowSound fun last isLast => ?_).mono ?_ ?_
          · rw [nowStack] at isLast
            rwa [top last isLast]
          · rintro next ⟨nextSound, nextStack, member, further, grows, reached, _⟩
            refine ⟨nextSound, nextStack.trans nowStack, ?_, more ++ further, ?_, ?_⟩
            · refine forall_mem_concat.mpr ⟨fun other before => ?_, member⟩
              rw [grows]
              exact mem_append_left _ (nowImports other before)
            · rw [grows, grown, append_assoc]
            · intro other listed
              rcases mem_append.mp listed with before | new
              · exact led other before
              · exact .head imports (reached other new)
          · intro stop stopped
            cases stop with
            | failed failure => exact stopped.head imports
            | unfinished =>
              rw [nowStack, length_append, length_singleton] at stopped
              omega
        · rintro now ⟨nowSound, nowStack, nowImports, more, grown, led⟩
          have imports : ∀ item ∈ unit.imports, item ∈ now.ordered := fun item member =>
            nowImports item ((perm_insertionSort (· ≤ ·) unit.imports).symm.subset member)
          refine ⟨nowSound.finish nowStack found imports, ?_, ?_, more ++ [name], ?_, ?_, ?_⟩
          · rw [nowStack, dropLast_concat]
          · exact mem_append_right _ mem_cons_self
          · rw [grown, append_assoc]
          · exact forall_mem_concat.mpr ⟨led, .refl⟩
          · exact .inr getLast?_concat

/-- A visit that is deep enough does not depend on its depth. -/
theorem visit_deeper (settled : visit units depth state name ≠ .error .unfinished) :
    visit units (depth + 1) state name = visit units depth state name := by
  induction depth generalizing state name with
  | zero => exact absurd rfl settled
  | succ depth ih =>
    rw [visit] at settled
    rw [visit, visit]
    split
    · rfl
    rename_i unfinished
    rw [if_neg unfinished] at settled
    split
    · rfl
    rename_i closed
    rw [if_neg closed] at settled
    split
    · rfl
    rename_i unit found
    simp only [found] at settled
    have same := @foldlM_extends _ _ _ (visit units depth)
      { state with stack := state.stack ++ [name] } (unit.imports.insertionSort (· ≤ ·))
      (visit units (depth + 1)) (· = .unfinished) ?_ ?_
    · rw [same]
    · exact fun before item unstopped => ih (unstopped _ rfl)
    · rintro stop rfl stopped
      rw [stopped] at settled
      exact settled rfl

end Visit

section Order

variable {entry : Bytes}

theorem Visit.Sound.start : Visit.Sound units {} := by
  constructor
  · exact fun name => Iff.rfl
  · exact fun name absent => absurd absent not_mem_nil
  · exact nodup_nil
  · exact successorsFirst_nil
  · exact isChain_nil
  · exact fun name absent => absurd absent not_mem_nil
  · exact nodup_nil
  · exact fun name absent => absurd absent not_mem_nil

/-- The failure that a map without the entry gives. -/
def absentEntry (entry : Bytes) : Failure :=
  ⟨.identityMismatch, "entry module is absent from resolved graph: " ++ shown entry⟩

/-- A search that is deep enough ends with an order or with a reason. -/
theorem topologicalOrder_meets (present : units.contains entry = true)
    (deep : units.entries.length < depth) :
    Meets (fun order => TopologicallyOrders units entry order ∧
        ∀ name ∈ order, units.contains name = true)
      (fun stop => ∃ failure, stop = .failed failure ∧ Blames units entry failure)
      (topologicalOrder depth units entry) := by
  have visited := @visit_meets units {} entry depth .start (by simp)
  rw [topologicalOrder, if_pos present]
  cases reached : visit units depth {} entry with
  | ok after =>
    rw [reached] at visited
    obtain ⟨sound, _, member, more, grown, led, last⟩ := visited
    have whole : after.ordered = more := by simpa using grown
    have ends : after.ordered.getLast? = some entry := by
      rw [whole]
      exact last.resolve_left not_mem_nil
    refine ⟨⟨sound.distinct, fun name => ⟨fun listed => ?_, ?_⟩, sound.importsFirst, ends⟩,
      sound.known⟩
    · exact led name (whole ▸ listed)
    · exact sound.importsFirst.reaches (whole ▸ member)
  | error stop =>
    rw [reached] at visited
    cases stop with
    | failed failure => exact ⟨failure, rfl, visited⟩
    | unfinished => exact absurd visited (Nat.not_le.mpr deep)

theorem topologicalOrder_deeper (deep : units.entries.length < depth) :
    topologicalOrder depth units entry =
      topologicalOrder (units.entries.length + 1) units entry := by
  induction depth with
  | zero => cases deep
  | succ depth ih =>
    rcases Nat.lt_or_eq_of_le (Nat.le_of_lt_succ deep) with deeper | same
    · rw [← ih deeper, topologicalOrder, topologicalOrder]
      split
      · have settled : visit units depth {} entry ≠ .error .unfinished := by
          intro stopped
          have visited := @visit_meets units {} entry depth .start (by simp)
          rw [stopped] at visited
          exact absurd visited (Nat.not_le.mpr deeper)
        rw [visit_deeper settled]
      · rfl
    · rw [same]

/-- A search over the modules of a map: it ends, with an order exactly if every module
that the entry leads to is in the map and none of them is on a cycle of imports; the order
lists just those, each after its imports and the entry last; and a cycle that it reports
is one. -/
theorem topologicalOrder_correct (units : OrderedMap Bytes ModuleUnitDescriptor) (entry : Bytes) :
    ∃ result : Except Failure (List Bytes),
      (∀ depth > units.entries.length,
        topologicalOrder depth units entry = result.mapError Stop.failed) ∧
      ((∃ order, result = .ok order) ↔
        (∀ name, ReflTransGen (Imports units) entry name → units.contains name = true) ∧
          ∀ name, ReflTransGen (Imports units) entry name → ¬TransGen (Imports units) name name) ∧
      (∀ order, result = .ok order → TopologicallyOrders units entry order) ∧
      ∀ failure, result = .error failure → failure.code = .importCycle →
        ∃ first path, ReflTransGen (Imports units) entry first ∧ ImportCycle units first path ∧
          failure.message = "module import cycle: " ++ cycleText first path := by
  cases present : units.contains entry with
  | false =>
    refine ⟨.error (absentEntry entry), ?_, ?_, nofun, ?_⟩
    · intro depth _
      rw [topologicalOrder, if_neg (by simp [present])]
      rfl
    · constructor
      · rintro ⟨order, impossible⟩
        cases impossible
      · rintro ⟨known, _⟩
        exact Bool.noConfusion (present.symm.trans (known entry .refl))
    · intro failure failed cyclic
      cases failed
      cases cyclic
  | true =>
    have meets := topologicalOrder_meets present (Nat.lt_succ_self units.entries.length)
    cases searched : topologicalOrder (units.entries.length + 1) units entry with
    | ok order =>
      rw [searched] at meets
      obtain ⟨orders, known⟩ := meets
      refine ⟨.ok order, fun depth deep => (topologicalOrder_deeper deep).trans searched, ?_, ?_, nofun⟩
      · refine ⟨fun _ => ⟨fun name reached => ?_, fun name reached => ?_⟩, fun _ => ⟨order, rfl⟩⟩
        · exact known name ((orders.covers name).mpr reached)
        · exact orders.importsFirst.acyclic orders.distinct ((orders.covers name).mpr reached)
      · intro other succeeded
        cases succeeded
        exact orders
    | error stop =>
      rw [searched] at meets
      obtain ⟨failure, rfl, blames⟩ := meets
      refine ⟨.error failure, fun depth deep => (topologicalOrder_deeper deep).trans searched, ?_, nofun, ?_⟩
      · constructor
        · rintro ⟨order, impossible⟩
          cases impossible
        rintro ⟨known, acyclic⟩
        cases blames with
        | missing reached unknown =>
          have listed := known _ reached
          rw [OrderedMap.contains, unknown] at listed
          cases listed
        | cycle reached cyclic => exact absurd cyclic.cyclic (acyclic _ reached)
      · intro other failed cyclic
        cases failed
        cases blames with
        | missing _ _ => cases cyclic
        | cycle reached found => exact ⟨_, _, reached, found, rfl⟩

end Order

end ShortHand.Modules
