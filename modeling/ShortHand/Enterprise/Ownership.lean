import Mathlib.Data.List.AList
import ShortHand.Library.Outcome

/-! The ownership tracker (`OwnershipTracker` in `ProductionTypeSystem.cpp`). -/

namespace ShortHand.Enterprise

inductive OwnershipState where
  | uninitialized
  | owned
  | sharedBorrowed
  | mutablyBorrowed
  | moved
  deriving DecidableEq, Repr

structure OwnershipSnapshot where
  state : OwnershipState := .uninitialized
  sharedBorrows : Nat := 0
  deriving DecidableEq, Repr

structure OwnershipTracker where
  values : AList (fun _ : String => OwnershipSnapshot) := ∅

namespace OwnershipTracker

def findValue (tracker : OwnershipTracker) (name : String) : Except String OwnershipSnapshot :=
  match tracker.values.lookup name with
  | some value => .ok value
  | none => .error ("SHD3016 ownership operation references undeclared value `" ++ name ++ "`")

def store (tracker : OwnershipTracker) (name : String) (value : OwnershipSnapshot) :
    OwnershipTracker :=
  ⟨tracker.values.insert name value⟩

def declareValue (tracker : OwnershipTracker) (name : String) : Except String OwnershipTracker :=
  if name.isEmpty then .error "SHD3016 ownership value name must not be empty"
  else if (tracker.values.lookup name).isSome then
    .error ("SHD3016 ownership value is already declared: `" ++ name ++ "`")
  else .ok (tracker.store name {})

/-- The shape of the operations that change the state of a declared value. -/
def transition (tracker : OwnershipTracker) (name : String) (allowed : OwnershipSnapshot → Bool)
    (message : String) (change : OwnershipSnapshot → OwnershipSnapshot) :
    Except String OwnershipTracker :=
  match tracker.findValue name with
  | .error why => .error why
  | .ok value => if allowed value then .ok (tracker.store name (change value)) else .error message

def initializeValue (tracker : OwnershipTracker) (name : String) : Except String OwnershipTracker :=
  tracker.transition name (fun value => value.state == .uninitialized || value.state == .moved)
    "SHD3016 initialize requires uninitialized or moved state" fun _ => ⟨.owned, 0⟩

def read (tracker : OwnershipTracker) (name : String) : Except String Unit :=
  match tracker.values.lookup name with
  | none => .error ("SHD3016 read references undeclared value `" ++ name ++ "`")
  | some value =>
    match value.state with
    | .uninitialized => .error ("SHD3016 read of uninitialized value `" ++ name ++ "`")
    | .moved => .error ("SHD3016 use after move of value `" ++ name ++ "`")
    | .mutablyBorrowed =>
      .error ("SHD3016 owner read is forbidden during a mutable borrow of `" ++ name ++ "`")
    | .owned | .sharedBorrowed => .ok ()

def moveValue (tracker : OwnershipTracker) (name : String) : Except String OwnershipTracker :=
  tracker.transition name (fun value => value.state == .owned)
    "SHD3016 move requires an owned value with no active borrow"
    fun value => { value with state := .moved }

def assign (tracker : OwnershipTracker) (name : String) : Except String OwnershipTracker :=
  tracker.transition name
    (fun value => !(value.state == .sharedBorrowed || value.state == .mutablyBorrowed))
    "SHD3016 assignment is forbidden while value is borrowed" fun _ => ⟨.owned, 0⟩

def borrowShared (tracker : OwnershipTracker) (name : String) : Except String OwnershipTracker :=
  tracker.transition name (fun value => value.state == .owned || value.state == .sharedBorrowed)
    "SHD3016 shared borrow requires an initialized, non-moved owner"
    fun value => ⟨.sharedBorrowed, value.sharedBorrows + 1⟩

def releaseShared (tracker : OwnershipTracker) (name : String) : Except String OwnershipTracker :=
  tracker.transition name
    (fun value => value.state == .sharedBorrowed && value.sharedBorrows != 0)
    "SHD3016 releaseShared requires an active shared borrow"
    fun value => ⟨if value.sharedBorrows - 1 = 0 then .owned else .sharedBorrowed,
      value.sharedBorrows - 1⟩

def borrowMutable (tracker : OwnershipTracker) (name : String) : Except String OwnershipTracker :=
  tracker.transition name (fun value => value.state == .owned)
    "SHD3016 mutable borrow requires exclusive ownership"
    fun value => { value with state := .mutablyBorrowed }

def releaseMutable (tracker : OwnershipTracker) (name : String) : Except String OwnershipTracker :=
  tracker.transition name (fun value => value.state == .mutablyBorrowed)
    "SHD3016 releaseMutable requires an active mutable borrow"
    fun value => { value with state := .owned }

variable {tracker after : OwnershipTracker} {name other : String}

/-- The snapshot of a value, if it is declared. -/
def snapshot (tracker : OwnershipTracker) (name : String) : Option OwnershipSnapshot :=
  tracker.values.lookup name

@[simp]
theorem snapshot_store (value : OwnershipSnapshot) :
    (tracker.store name value).snapshot other =
      if other = name then some value else tracker.snapshot other := by
  by_cases same : other = name
  · subst same
    simp [snapshot, store]
  · simp [snapshot, store, same]

@[simp]
theorem store_store (first second : OwnershipSnapshot) :
    (tracker.store name first).store name second = tracker.store name second := by
  simp [store]

/-- A successful transition found the value, checked it and stored the change. -/
theorem transition_ok {allowed : OwnershipSnapshot → Bool}
    {change : OwnershipSnapshot → OwnershipSnapshot}
    (succeeded : tracker.transition name allowed message change = .ok after) :
    ∃ value, tracker.snapshot name = some value ∧ allowed value = true ∧
      after = tracker.store name (change value) := by
  unfold transition findValue at succeeded
  cases found : tracker.values.lookup name with
  | none => simp [found] at succeeded
  | some value =>
    simp only [found] at succeeded
    split at succeeded
    · rename_i checked
      cases succeeded
      exact ⟨value, found, checked, rfl⟩
    · cases succeeded

theorem read_ok (succeeded : tracker.read name = .ok ()) :
    ∃ value, tracker.snapshot name = some value ∧
      (value.state = .owned ∨ value.state = .sharedBorrowed) := by
  unfold read at succeeded
  cases found : tracker.values.lookup name with
  | none => simp [found] at succeeded
  | some value =>
    refine ⟨value, found, ?_⟩
    cases state : value.state <;> simp [found, state] at succeeded ⊢

theorem declareValue_ok (succeeded : tracker.declareValue name = .ok after) :
    tracker.snapshot name = none ∧ after = tracker.store name {} := by
  unfold declareValue at succeeded
  split at succeeded
  · cases succeeded
  split at succeeded
  · cases succeeded
  · rename_i absent
    cases succeeded
    exact ⟨by simpa [snapshot] using absent, rfl⟩

inductive Call where
  | declareValue | initializeValue | read | moveValue | assign
  | borrowShared | releaseShared | borrowMutable | releaseMutable
  deriving DecidableEq

def perform (tracker : OwnershipTracker) (name : String) : Call → Except String OwnershipTracker
  | .declareValue => tracker.declareValue name
  | .initializeValue => tracker.initializeValue name
  | .read => (tracker.read name).map fun _ => tracker
  | .moveValue => tracker.moveValue name
  | .assign => tracker.assign name
  | .borrowShared => tracker.borrowShared name
  | .releaseShared => tracker.releaseShared name
  | .borrowMutable => tracker.borrowMutable name
  | .releaseMutable => tracker.releaseMutable name

/-- The calls that succeeded, and the tracker; a call that fails leaves it alone. -/
def run (calls : List (String × Call)) : List (String × Call) × OwnershipTracker :=
  calls.foldl (fun state call =>
    match state.2.perform call.1 call.2 with
    | .ok after => (call :: state.1, after)
    | .error _ => state) ([], {})

/-- The borrows that have not been given back. -/
structure Balanced (name : String) (done : List (String × Call)) (value : OwnershipSnapshot) :
    Prop where
  shared : done.count (name, .borrowShared) =
    done.count (name, .releaseShared) + value.sharedBorrows
  exclusive : done.count (name, .borrowMutable) =
    done.count (name, .releaseMutable) + if value.state = .mutablyBorrowed then 1 else 0
  state : value.state = .sharedBorrowed ↔ 0 < value.sharedBorrows

theorem Balanced.perform {tracker after : OwnershipTracker} {call : Call}
    (held : Balanced name done ((tracker.snapshot name).getD {}))
    (performed : tracker.perform changed call = .ok after) :
    Balanced name ((changed, call) :: done) ((after.snapshot name).getD {}) := by
  obtain ⟨shared, exclusive, state⟩ := held
  cases call with
  | read =>
    obtain ⟨_, _, rfl⟩ := Library.map_eq_ok.mp performed
    constructor <;> simpa
  | declareValue =>
    obtain ⟨absent, rfl⟩ := declareValue_ok performed
    by_cases same : name = changed <;> constructor <;> simp_all
  | _ =>
    obtain ⟨⟨_ | _, _⟩, found, allowed, rfl⟩ := transition_ok performed <;>
      by_cases same : name = changed <;> constructor <;> simp_all <;> grind

/-- In every run a value is in a shared borrow just while its count is positive, the count is
that of the shared borrows not released, and of a mutable borrow there is at most one. -/
theorem run_balanced (calls : List (String × Call)) (name : String) :
    Balanced name (run calls).1 (((run calls).2.snapshot name).getD {}) := by
  refine List.foldlRecOn (motive := fun state : List (String × Call) × OwnershipTracker =>
    Balanced name state.1 ((state.2.snapshot name).getD {})) calls _ ⟨rfl, rfl, ?_⟩ ?_
  · exact iff_of_false nofun (Nat.lt_irrefl 0)
  rintro ⟨done, tracker⟩ balanced ⟨changed, call⟩ _
  dsimp only
  split
  · rename_i performed
    exact balanced.perform performed
  · exact balanced

end OwnershipTracker

end ShortHand.Enterprise
