import ShortHand.Language.Acceptance

/-! A run on top of a caller's frames against the same run without them. -/

namespace ShortHand.Language

open ShortHand.Library

variable {H : Host}

/-- A state with more frames at the bottom of the stack and earlier output. -/
def State.extend (state : State H) (callers : List (Frame H)) (printed : List String) : State H :=
  { state with locals := state.locals ++ callers, output := printed ++ state.output }

section Lookups

variable {state after : State H} {callers : List (Frame H)} {printed : List String} {α : Type}
  {field : Frame H → Option α} {change : Frame H → Frame H} {name : String}
  {value : RuntimeValue H} {index : IntValue}

theorem find_extend (visible : (findIn field state.locals).isSome ∨ findIn field callers = none) :
    (state.extend callers printed).find field = state.find field := by
  unfold State.find State.extend
  rw [findIn_append]
  rcases visible with found | missing
  · obtain ⟨value, here⟩ := Option.isSome_iff_exists.mp found
    rw [here]
    rfl
  · rw [missing]
    cases findIn field state.locals <;> rfl

theorem update_extend (visible : (findIn field state.locals).isSome ∨ findIn field callers = none) :
    (state.extend callers printed).update field change =
      (state.update field change).extend callers printed := by
  unfold State.update State.extend
  by_cases found : (findIn field state.locals).isSome
  · rw [updateIn_append_of_found found]
    cases updated : updateIn field change state.locals with
    | none => simp [updateIn_eq_none.mp updated] at found
    | some locals => rfl
  · have missing : findIn field state.locals = none := by simpa using found
    have absent : findIn field callers = none := by simpa [found] using visible
    rw [updateIn_append_of_missing missing, updateIn_eq_none.mpr missing,
      updateIn_eq_none.mpr absent]
    rfl

/-- A reference that the state's own frames bind, or else the callers' do not. -/
def Visible (state : State H) (callers : List (Frame H)) (reference : Reference) : Prop :=
  state.locals.any (·.binds reference) ∨ callers.any (·.binds reference) = false

theorem Visible.scalar (visible : Visible state callers ⟨name, false⟩) :
    (findIn (·.scalars name) state.locals).isSome ∨ findIn (·.scalars name) callers = none := by
  refine visible.imp (fun bound => findIn_scalar_isSome.trans bound) fun clear => ?_
  rw [← Option.not_isSome_iff_eq_none, findIn_scalar_isSome, clear]
  exact Bool.false_ne_true

theorem Visible.array (visible : Visible state callers ⟨name, true⟩) :
    (findIn (·.arrays name) state.locals).isSome ∨ findIn (·.arrays name) callers = none := by
  refine visible.imp (fun bound => findIn_array_isSome.trans bound) fun clear => ?_
  rw [← Option.not_isSome_iff_eq_none, findIn_array_isSome, clear]
  exact Bool.false_ne_true

theorem readScalar_extend (visible : Visible state callers ⟨name, false⟩) :
    (state.extend callers printed).readScalar name = state.readScalar name :=
  find_extend visible.scalar

theorem readArray_extend (visible : Visible state callers ⟨name, true⟩) :
    (state.extend callers printed).readArray name index = state.readArray name index := by
  rw [State.readArray, State.readArray, find_extend visible.array]

theorem writeScalar_extend (visible : Visible state callers ⟨name, false⟩) :
    (state.extend callers printed).writeScalar name value =
      (state.writeScalar name value).map (·.extend callers printed) := by
  rw [State.writeScalar, State.writeScalar, readScalar_extend visible]
  cases state.readScalar name with
  | none => rfl
  | some found =>
    dsimp only
    split
    · rw [update_extend visible.scalar]
      rfl
    · rfl

theorem writeArray_extend (visible : Visible state callers ⟨name, true⟩) :
    (state.extend callers printed).writeArray name index value =
      (state.writeArray name index value).map (·.extend callers printed) := by
  rw [State.writeArray, State.writeArray, find_extend visible.array]
  cases state.find (·.arrays name) with
  | none => rfl
  | some values =>
    dsimp only
    cases elementAt values index with
    | error fault => rfl
    | ok found =>
      dsimp only
      split
      · rw [update_extend visible.array]
        rfl
      · rfl

theorem update_shapes (present : state.find field = some found)
    (kept : ∀ frame, field frame = some found → (change frame).shape = frame.shape) :
    shapes (state.update field change).locals = shapes state.locals ∧
      (state.update field change).globals.shape = state.globals.shape := by
  unfold State.update
  cases updated : updateIn field change state.locals with
  | none =>
    have missing := updateIn_eq_none.mp updated
    rw [State.find, missing] at present
    exact ⟨rfl, kept _ (by simpa using present)⟩
  | some locals =>
    refine ⟨?_, rfl⟩
    cases here : findIn field state.locals with
    | none => simp [updateIn_eq_none.mpr here] at updated
    | some value =>
      rw [State.find, here] at present
      cases present
      exact updateIn_shapes here kept updated

theorem writeScalar_shapes (written : state.writeScalar name value = some after) :
    shapes after.locals = shapes state.locals ∧ after.globals.shape = state.globals.shape := by
  unfold State.writeScalar at written
  cases present : state.readScalar name with
  | none => simp [present] at written
  | some found =>
    rw [present] at written
    dsimp only at written
    split at written
    · rename_i same
      cases written
      exact update_shapes present fun frame here => Frame.shape_setScalar here same
    · cases written

theorem writeArray_shapes (written : state.writeArray name index value = .ok after) :
    shapes after.locals = shapes state.locals ∧ after.globals.shape = state.globals.shape := by
  unfold State.writeArray at written
  cases present : state.find (·.arrays name) with
  | none => simp [present] at written
  | some values =>
    have element := elementAt_spec values index
    rw [present] at written
    dsimp only at written
    cases found : elementAt values index with
    | error fault => simp [found] at written
    | ok old =>
      rw [found] at written element
      dsimp only at written element
      split at written
      · rename_i same
        cases written
        refine update_shapes present fun frame here => Frame.shape_setArray here ?_
        obtain ⟨bound, rfl⟩ := getElem?_eq_some_iff.mp element
        have entry : values[index.toNat].type =
            (values.map (·.type)).get ⟨index.toNat, by simpa⟩ := by simp
        rw [List.map_set, ← same, entry, List.get_eq_getElem, List.set_getElem_self]
      · cases written

end Lookups

/-- The frames below the innermost one keep their shapes. -/
def Continues (before after : List (Frame H)) : Prop :=
  after.length = before.length ∧ shapes after.tail = shapes before.tail

theorem Continues.of_shapes (same : shapes after = shapes before) : Continues before after := by
  refine ⟨by simpa [shapes] using congrArg List.length same, ?_⟩
  rw [shapes, shapes, List.map_tail, List.map_tail]
  exact congrArg List.tail same

theorem Continues.trans (first : Continues before middle) (later : Continues middle after) :
    Continues before after :=
  ⟨later.1.trans first.1, later.2.trans first.2⟩

end ShortHand.Language
