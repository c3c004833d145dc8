import Mathlib.Data.Option.Basic
import ShortHand.Language.Scoping

/-! Frames searched by name; a write keeps the shape of every frame. -/

namespace ShortHand.Language

open ShortHand.Library List

variable {H : Host} {α : Type} {field : Frame H → Option α} {change : Frame H → Frame H}
  {frames front back : List (Frame H)}

theorem findIn_eq_findSome? : findIn field frames = frames.findSome? field := by
  induction frames with
  | nil => rfl
  | cons frame rest ih =>
    rw [findIn, ih, findSome?_cons]
    cases field frame <;> rfl

theorem findIn_append : findIn field (front ++ back) = (findIn field front <|> findIn field back) := by
  simp [findIn_eq_findSome?]

theorem findIn_isSome : (findIn field frames).isSome = frames.any fun frame => (field frame).isSome := by
  rw [findIn_eq_findSome?, isSome_findSome?]

theorem updateIn_eq_none : updateIn field change frames = none ↔ findIn field frames = none := by
  induction frames with
  | nil => exact ⟨fun _ => rfl, fun _ => rfl⟩
  | cons frame rest ih =>
    rw [updateIn, findIn]
    cases found : field frame with
    | none => simpa using ih
    | some value => simp

theorem updateIn_append_of_found (found : (findIn field front).isSome) :
    updateIn field change (front ++ back) = (updateIn field change front).map (· ++ back) := by
  induction front with
  | nil => cases found
  | cons frame rest ih =>
    rw [cons_append, updateIn, updateIn]
    cases here : field frame with
    | some value => simp
    | none =>
      rw [findIn, here] at found
      simp [ih (by simpa using found), Function.comp_def]

theorem updateIn_append_of_missing (missing : findIn field front = none) :
    updateIn field change (front ++ back) = (updateIn field change back).map (front ++ ·) := by
  induction front with
  | nil => simp
  | cons frame rest ih =>
    rw [findIn] at missing
    cases here : field frame with
    | some value => simp [here] at missing
    | none =>
      rw [here] at missing
      rw [cons_append, updateIn, here, ih (by simpa using missing)]
      simp [Function.comp_def]

/-- The names of a frame with their types. -/
def Frame.shape (frame : Frame H) :
    (String → Option ShortType) × (String → Option (List ShortType)) :=
  (fun name => (frame.scalars name).map (·.type),
    fun name => (frame.arrays name).map (map (·.type)))

def shapes (frames : List (Frame H)) :
    List ((String → Option ShortType) × (String → Option (List ShortType))) :=
  frames.map Frame.shape

theorem updateIn_shapes (found : findIn field frames = some value)
    (kept : ∀ frame, field frame = some value → (change frame).shape = frame.shape)
    (updated : updateIn field change frames = some updates) : shapes updates = shapes frames := by
  induction frames generalizing updates with
  | nil => cases found
  | cons frame rest ih =>
    rw [findIn] at found
    rw [updateIn] at updated
    cases here : field frame with
    | some other =>
      rw [here] at found updated
      cases found
      cases updated
      rw [shapes, map_cons, kept frame here]
      rfl
    | none =>
      rw [here] at found updated
      obtain ⟨later, changed, rfl⟩ := Option.map_eq_some_iff.mp updated
      have same := ih (by simpa using found) changed
      simp only [shapes, map_cons] at same ⊢
      rw [same]

theorem Frame.shape_setScalar {frame : Frame H} (found : frame.scalars name = some old)
    (same : old.type = value.type) : (frame.setScalar name value).shape = frame.shape := by
  refine Prod.ext (funext fun other => ?_) rfl
  by_cases here : other = name
  · subst here
    simp [shape, setScalar, found, same]
  · simp [shape, setScalar, here]

theorem Frame.shape_setArray {frame : Frame H} (found : frame.arrays name = some old)
    (same : old.map (·.type) = values.map (·.type)) :
    (frame.setArray name values).shape = frame.shape := by
  refine Prod.ext rfl (funext fun other => ?_)
  by_cases here : other = name
  · subst here
    simp [shape, setArray, found, same]
  · simp [shape, setArray, here]

theorem elementAt_spec (values : List (RuntimeValue H)) (index : IntValue) :
    match elementAt values index with
    | .ok value => values[index.toNat]? = some value
    | .error fault => fault = .outside index values.length ∧
        ¬(0 ≤ index.toInt ∧ index.toNat < values.length) := by
  unfold elementAt
  by_cases negative : index.toInt < 0
  · rw [if_pos negative]
    exact ⟨rfl, fun inside => absurd inside.1 (Int.not_le.mpr negative)⟩
  rw [if_neg negative]
  cases element : values[index.toNat]? with
  | none =>
    exact ⟨rfl, fun inside =>
      absurd inside.2 (Nat.not_lt.mpr (getElem?_eq_none_iff.mp element))⟩
  | some value => rfl

def Frame.binds (frame : Frame H) (reference : Reference) : Bool :=
  if reference.isArray then (frame.arrays reference.name).isSome
  else (frame.scalars reference.name).isSome

theorem Frame.binds_congr {frame other : Frame H} (same : frame.shape = other.shape)
    (reference : Reference) : frame.binds reference = other.binds reference := by
  have scalars := congrArg Option.isSome (congrFun (congrArg Prod.fst same) reference.name)
  have arrays := congrArg Option.isSome (congrFun (congrArg Prod.snd same) reference.name)
  simp only [shape, Option.isSome_map] at scalars arrays
  rw [binds, binds, scalars, arrays]

theorem findIn_scalar_isSome :
    (findIn (·.scalars name) frames).isSome = frames.any (·.binds ⟨name, false⟩) := findIn_isSome

theorem findIn_array_isSome :
    (findIn (·.arrays name) frames).isSome = frames.any (·.binds ⟨name, true⟩) := findIn_isSome

def VariableInfo.scalarType? (info : VariableInfo) : Option ShortType :=
  if info.isArray then none else some info.type

/-- A frame has the names of a scope and no others, every value of the declared
type and every array of an extent that is declared for its name. -/
structure Frame.Fits (declared : String → Nat → Prop) (scope : Scope) (frame : Frame H) : Prop where
  scalar : ∀ name, (frame.scalars name).map (·.type) = (scope name).bind VariableInfo.scalarType?
  array : ∀ name, (frame.arrays name).isSome = (scope name).any (·.isArray)
  element : ∀ name values, frame.arrays name = some values →
    ∀ value ∈ values, scope name = some ⟨value.type, true⟩
  extent : ∀ name values, frame.arrays name = some values → declared name values.length

section Fits

variable {declared : String → Nat → Prop} {scope : Scope} {frame other : Frame H} {name : String}

theorem Frame.Fits.congr (fits : frame.Fits declared scope) (same : other.shape = frame.shape) :
    other.Fits declared scope := by
  have scalars := congrFun (congrArg Prod.fst same)
  have arrays : ∀ name, (other.arrays name).map (map (·.type)) =
      (frame.arrays name).map (map (·.type)) := congrFun (congrArg Prod.snd same)
  have corresponding : ∀ {name values}, other.arrays name = some values →
      ∃ earlier, frame.arrays name = some earlier ∧
        earlier.map (·.type) = values.map (·.type) := by
    intro name values found
    have mapped := arrays name
    rw [found] at mapped
    exact Option.map_eq_some_iff.mp mapped.symm
  refine ⟨fun name => (scalars name).trans (fits.scalar name), ?_, ?_, ?_⟩
  · intro name
    rw [← fits.array, ← Option.isSome_map, arrays, Option.isSome_map]
  · intro name values found value member
    obtain ⟨earlier, before, types⟩ := corresponding found
    have typed : value.type ∈ earlier.map (·.type) := types ▸ mem_map_of_mem member
    obtain ⟨old, present, type⟩ := mem_map.mp typed
    rw [← type]
    exact fits.element name earlier before old present
  · intro name values found
    obtain ⟨earlier, before, types⟩ := corresponding found
    have length := congrArg length types
    rw [length_map, length_map] at length
    rw [← length]
    exact fits.extent name earlier before

theorem Frame.Fits.binds (fits : frame.Fits declared scope) (reference : Reference) :
    frame.binds reference = (scope reference.name).any (·.isArray == reference.isArray) := by
  have scalar := congrArg Option.isSome (fits.scalar reference.name)
  have array := fits.array reference.name
  rw [Option.isSome_map] at scalar
  rw [Frame.binds, scalar, array]
  rcases scope reference.name with _ | ⟨type, _ | _⟩ <;> cases reference.isArray <;> rfl

theorem Frame.fits_empty : ({} : Frame H).Fits declared fun _ => none :=
  ⟨fun _ => rfl, fun _ => rfl, nofun, nofun⟩

theorem Frame.Fits.setScalar (fits : frame.Fits declared scope) (fresh : scope name = none)
    (value : RuntimeValue H) :
    (frame.setScalar name value).Fits declared
      (Function.update scope name (some ⟨value.type, false⟩)) := by
  refine ⟨?_, ?_, ?_, fits.extent⟩
  · intro other
    by_cases here : other = name
    · subst here
      simp [Frame.setScalar, VariableInfo.scalarType?]
    · simpa [Frame.setScalar, here] using fits.scalar other
  · intro other
    by_cases here : other = name
    · subst here
      simpa [Frame.setScalar, fresh] using fits.array other
    · simpa [Frame.setScalar, here] using fits.array other
  · intro other values found value member
    have earlier := fits.element other values found value member
    have distinct : other ≠ name := by
      rintro rfl
      rw [fresh] at earlier
      cases earlier
    rwa [Function.update_of_ne distinct]

theorem Frame.Fits.setArray (fits : frame.Fits declared scope)
    (fresh : scope name = none) (typed : ∀ value ∈ values, value.type = type)
    (sized : declared name values.length) :
    (frame.setArray name values).Fits declared (Function.update scope name (some ⟨type, true⟩)) := by
  refine ⟨?_, ?_, ?_, ?_⟩
  · intro other
    by_cases here : other = name
    · subst here
      simpa [Frame.setArray, fresh, VariableInfo.scalarType?] using fits.scalar other
    · simpa [Frame.setArray, here] using fits.scalar other
  · intro other
    by_cases here : other = name
    · subst here
      simp [Frame.setArray]
    · simpa [Frame.setArray, here] using fits.array other
  · intro other found present value member
    by_cases here : other = name
    · subst here
      obtain rfl : values = found := by simpa [Frame.setArray] using present
      simp [typed value member]
    · rw [Function.update_of_ne here]
      exact fits.element other found (by simpa [Frame.setArray, here] using present) value member
  · intro other found present
    by_cases here : other = name
    · subst here
      obtain rfl : values = found := by simpa [Frame.setArray] using present
      exact sized
    · exact fits.extent other found (by simpa [Frame.setArray, here] using present)

end Fits

/-- The innermost frames of a stack fit the scopes. The scope around the top-level
statements has no frame and no names. -/
def Fitted (declared : String → Nat → Prop) : List Scope → List (Frame H) → Prop
  | [], _ => True
  | scope :: scopes, [] => (∀ name, scope name = none) ∧ Fitted declared scopes []
  | scope :: scopes, frame :: frames => frame.Fits declared scope ∧ Fitted declared scopes frames

section Fitted

variable {declared : String → Nat → Prop} {scopes : List Scope}

theorem Fitted.congr {other : List (Frame H)} (fitted : Fitted declared scopes frames)
    (same : shapes other = shapes frames) : Fitted declared scopes other := by
  induction scopes generalizing frames other with
  | nil => trivial
  | cons scope scopes ih =>
    cases frames with
    | nil =>
      obtain rfl : other = [] := map_eq_nil_iff.mp same
      exact fitted
    | cons frame frames =>
      cases other with
      | nil => cases same
      | cons first rest =>
        simp only [shapes, map_cons, cons.injEq] at same
        exact ⟨fitted.1.congr same.1, ih fitted.2 same.2⟩

theorem Fitted.binds (fitted : Fitted declared scopes frames)
    (bound : bindsReference scopes reference) : frames.any (·.binds reference) := by
  induction scopes generalizing frames with
  | nil => cases bound
  | cons scope scopes ih =>
    rw [bindsReference, any_cons, Bool.or_eq_true] at bound
    cases frames with
    | nil =>
      rcases bound with here | later
      · rw [fitted.1] at here
        cases here
      · exact ih fitted.2 later
    | cons frame frames =>
      rw [any_cons, Bool.or_eq_true, fitted.1.binds]
      exact bound.imp_right (ih fitted.2)

theorem Fitted.push (fitted : Fitted declared scopes frames) :
    Fitted declared ((fun _ => none) :: scopes) ({} :: frames) :=
  ⟨Frame.fits_empty, fitted⟩

end Fitted

section Declarations

variable {declared : String → Nat → Prop} {scope : Scope} {state : State H}

@[simp] theorem State.innermost_setInnermost : (state.setInnermost frame).innermost = frame := by
  unfold setInnermost innermost
  cases state.locals <;> rfl

@[simp] theorem State.setInnermost_setInnermost :
    (state.setInnermost frame).setInnermost other = state.setInnermost other := by
  rcases state with ⟨globals, _ | ⟨first, rest⟩⟩ <;> rfl

@[simp] theorem State.setInnermost_innermost : state.setInnermost state.innermost = state := by
  rcases state with ⟨globals, _ | ⟨first, rest⟩⟩ <;> rfl

theorem declareIn_cons_clean (clean : (declareIn (entry :: rest) scope).2 = []) :
    scope entry.1 = none ∧
      declareIn (entry :: rest) scope =
        declareIn rest (Function.update scope entry.1 (some entry.2)) := by
  rw [declareIn] at clean ⊢
  split
  · rename_i taken
    simp [taken] at clean
  · rename_i fresh
    exact ⟨by simpa using fresh, rfl⟩

theorem declareIn_append :
    declareIn (first ++ later) scope =
      ((declareIn later (declareIn first scope).1).1,
        (declareIn first scope).2 ++ (declareIn later (declareIn first scope).1).2) := by
  induction first generalizing scope with
  | nil => rfl
  | cons entry rest ih =>
    rw [cons_append, declareIn, declareIn]
    split
    · simp [ih]
    · exact ih

/-- A run that only puts `grown` in place of the innermost frame. -/
def Replaces (action : Run H Unit) (frame grown : Frame H) : Prop :=
  ∀ state : State H, state.innermost = frame → action state = .ok () (state.setInnermost grown)

theorem Replaces.bind (first : Replaces action frame middle) (next : Replaces later middle grown) :
    Replaces (do action; later) frame grown := by
  intro state here
  have ran := next (state.setInnermost middle) State.innermost_setInnermost
  rw [State.setInnermost_setInnermost] at ran
  rw [← ran]
  exact Exec.bind_of_ok (first state here)

theorem replaces_pure : Replaces (pure ()) frame frame := by
  rintro state rfl
  rw [State.setInnermost_innermost]
  rfl

theorem declareScalars_fits {entries : List (String × ShortType)}
    (fits : frame.Fits declared scope)
    (clean : (declareIn (entries.map scalarEntry) scope).2 = []) :
    ∃ grown : Frame H, Replaces (Exec.each declareScalar entries) frame grown ∧
      grown.Fits declared (declareIn (entries.map scalarEntry) scope).1 := by
  induction entries generalizing scope frame with
  | nil => exact ⟨frame, replaces_pure, fits⟩
  | cons entry rest ih =>
    rw [map_cons] at clean ⊢
    obtain ⟨fresh, declares⟩ := declareIn_cons_clean clean
    rw [declares] at clean ⊢
    have absent : frame.scalars entry.1 = none := by
      simpa [show scope entry.1 = none from fresh] using fits.scalar entry.1
    obtain ⟨grown, ran, fitting⟩ :=
      ih (fits.setScalar fresh (defaultValue H entry.2)) clean
    refine ⟨grown, Replaces.bind ?_ ran, fitting⟩
    rintro state rfl
    simp [declareScalar, scalarEntry, absent, Exec.modify]

theorem declareArrays_fits {entries : List (String × ShortType × Int)}
    (fits : frame.Fits declared scope)
    (sized : ∀ entry ∈ entries, declared entry.1 entry.2.2.toNat)
    (clean : (declareIn (entries.map arrayEntry) scope).2 = []) :
    ∃ grown : Frame H, Replaces (Exec.each declareArray entries) frame grown ∧
      grown.Fits declared (declareIn (entries.map arrayEntry) scope).1 := by
  induction entries generalizing scope frame with
  | nil => exact ⟨frame, replaces_pure, fits⟩
  | cons entry rest ih =>
    rw [forall_mem_cons] at sized
    rw [map_cons] at clean ⊢
    obtain ⟨fresh, declares⟩ := declareIn_cons_clean clean
    rw [declares] at clean ⊢
    have absent : frame.arrays entry.1 = none := by
      simpa [show scope entry.1 = none from fresh] using fits.array entry.1
    have filled : (frame.setArray entry.1
        (replicate entry.2.2.toNat (defaultValue H entry.2.1))).Fits declared
        (Function.update scope entry.1 (some ⟨entry.2.1, true⟩)) := by
      refine fits.setArray fresh ?_ ?_
      · intro value member
        rw [eq_of_mem_replicate member]
        rfl
      · rw [length_replicate]
        exact sized.1
    obtain ⟨grown, ran, fitting⟩ := ih filled sized.2 clean
    refine ⟨grown, Replaces.bind ?_ ran, fitting⟩
    rintro state rfl
    simp [declareArray, absent, Exec.modify]

/-- An accepted declaration list extends the innermost frame as it does the scope. -/
theorem initializeDeclarations_fits (fits : frame.Fits declared scope)
    (sized : ∀ entry ∈ block.typedArrays, declared entry.1 entry.2.2.toNat)
    (clean : (declareIn block.entries scope).2 = []) :
    ∃ grown : Frame H, Replaces (initializeDeclarations block) frame grown ∧
      grown.Fits declared (declareIn block.entries scope).1 := by
  rw [Declarations.entries, declareIn_append] at clean ⊢
  obtain ⟨scalarsClean, arraysClean⟩ := append_eq_nil_iff.mp clean
  obtain ⟨middle, scalarsRan, scalarsFit⟩ := declareScalars_fits fits scalarsClean
  obtain ⟨grown, arraysRan, arraysFit⟩ := declareArrays_fits scalarsFit sized arraysClean
  exact ⟨grown, scalarsRan.bind arraysRan, arraysFit⟩

/-- The arguments of a call fill a frame that fits the parameters. -/
theorem bindArguments_fits {parameters : List (String × ShortType)}
    (fits : frame.Fits declared scope)
    (clean : (declareIn (parameters.map scalarEntry) scope).2 = [])
    (arity : parameters.length = arguments.length)
    (binds : bindArguments parameters arguments frame = some bound) :
    bound.Fits declared (declareIn (parameters.map scalarEntry) scope).1 := by
  induction parameters generalizing arguments scope frame with
  | nil =>
    cases arguments with
    | nil =>
      cases binds
      exact fits
    | cons argument rest => cases arity
  | cons parameter parameters ih =>
    cases arguments with
    | nil => cases arity
    | cons argument arguments =>
      rw [bindArguments] at binds
      split at binds
      · rename_i same
        rw [map_cons] at clean ⊢
        obtain ⟨fresh, declares⟩ := declareIn_cons_clean clean
        rw [declares] at clean ⊢
        refine ih ?_ clean (Nat.succ.inj arity) binds
        rw [scalarEntry, same]
        exact fits.setScalar fresh argument
      · cases binds

end Declarations

end ShortHand.Language
