import ShortHand.Language.Typing
import ShortHand.Codegen.Operators

/-! Expressions without calls: the generated code computes the interpreter's value from a memory
that holds the same values. -/

namespace ShortHand.Codegen

open ShortHand.Language ShortHand.Library List Instruction

variable {H : Host}

mutual

def callFree : Expr H → Bool
  | .variableRef target => callFreeTarget target
  | .unaryMinus operand => callFree operand
  | .binary _ left right => callFree left && callFree right
  | .call _ _ => false
  | _ => true

def callFreeTarget : Variable H → Bool
  | .simple _ => true
  | .array _ index => callFree index

end

mutual

/-- The first node that the generator visits is an integer literal. -/
def startsWithLiteral : Expr H → Bool
  | .literal _ => true
  | .variableRef target => startsTarget target
  | .unaryMinus operand => startsWithLiteral operand
  | .binary _ left _ => startsWithLiteral left
  | _ => false

def startsTarget : Variable H → Bool
  | .simple _ => false
  | .array _ index => startsWithLiteral index

end

mutual

def depth : Expr H → Nat
  | .variableRef target => depthTarget target + 1
  | .unaryMinus operand => depth operand + 1
  | .binary _ left right => max (depth left) (depth right) + 1
  | _ => 0

def depthTarget : Variable H → Nat
  | .simple _ => 0
  | .array _ index => depth index

end

mutual

/-- The value in a state, or the failure of the first part that has none. -/
def denote (state : State H) : Expr H → Except Failure (RuntimeValue H)
  | .literal value => .ok (intResult H value)
  | .boolLiteral value => .ok (boolResult H value)
  | .floatLiteral value => .ok (floatResult value)
  | .stringLiteral text =>
    .ok { defaultValue H .string with stringValue := unquoteShortString text }
  | .variableRef target => denoteTarget state target
  | .unaryMinus operand => (denote state operand).map applyMinus
  | .binary op left right => do
    let first ← denote state left
    let second ← denote state right
    applyBinary op first second
  | .call name _ => .error (.missingFunction name)

def denoteTarget (state : State H) : Variable H → Except Failure (RuntimeValue H)
  | .simple name =>
    match state.readScalar name with
    | none => .error (.undeclaredScalar name)
    | some value => .ok value
  | .array name index => do
    let position ← denote state index
    match state.readArray name position.intValue with
    | .error fault => .error (.arrayRead name fault)
    | .ok value => .ok value

end

/-- A value, or a failure, in a state that stays as it is. -/
def lifted {α : Type} (state : State H) : Except Failure α → Outcome (State H) Failure α
  | .ok value => .ok value state
  | .error failure => .failed failure state

theorem lifted_bind {first : Run H α} {later : α → Run H β}
    {value : Except Failure α} {next : α → Except Failure β}
    (start : first state = lifted state value)
    (rest : ∀ result, value = .ok result → later result state = lifted state (next result)) :
    (first >>= later) state = lifted state (value.bind next) := by
  cases value with
  | ok result => exact (Exec.bind_of_ok start).trans (rest result rfl)
  | error failure => exact Exec.bind_of_failed start

section Interpreter

variable (linkage : Linkage H) (program : Program H) (state : State H)

mutual

/-- The interpreter computes the value and leaves the state alone. -/
theorem evaluate_denote (expression : Expr H) {fuel : Nat} (plain : callFree expression = true)
    (enough : depth expression < fuel) :
    (interpreter linkage program fuel).evaluate expression state =
      lifted state (denote state expression) := by
  obtain ⟨fuel, rfl⟩ : ∃ less, fuel = less + 1 := ⟨fuel - 1, by omega⟩
  cases expression with
  | literal value => rfl
  | boolLiteral value => rfl
  | floatLiteral value => rfl
  | stringLiteral text => rfl
  | variableRef target =>
    rw [callFree] at plain
    rw [depth] at enough
    exact readTarget_denote target plain (by omega : depthTarget target < fuel)
  | unaryMinus operand =>
    rw [callFree] at plain
    rw [depth] at enough
    have ran := evaluate_denote operand plain (by omega : depth operand < fuel)
    have result : (interpreter linkage program (fuel + 1)).evaluate (.unaryMinus operand) state =
        lifted state ((denote state operand).bind fun value => .ok (applyMinus value)) :=
      lifted_bind ran fun _ _ => rfl
    rw [result, denote]
    cases denote state operand <;> rfl
  | binary op left right =>
    rw [callFree, Bool.and_eq_true] at plain
    rw [depth] at enough
    have first := evaluate_denote left plain.1 (by omega : depth left < fuel)
    have second := evaluate_denote right plain.2 (by omega : depth right < fuel)
    refine lifted_bind first fun leftValue _ => lifted_bind second fun rightValue _ => ?_
    cases applyBinary op leftValue rightValue <;> rfl
  | call name arguments => cases plain

theorem readTarget_denote (target : Variable H) {fuel : Nat}
    (plain : callFreeTarget target = true) (enough : depthTarget target < fuel) :
    (visitVariable (interpreter linkage program fuel) target >>= fun found => pure found.2) state =
      lifted state (denoteTarget state target) := by
  cases target with
  | simple name =>
    rw [visitVariable, Exec.bind_assoc, Exec.get_bind, denoteTarget]
    cases state.readScalar name <;> rfl
  | array name index =>
    rw [callFreeTarget] at plain
    rw [depthTarget] at enough
    rw [visitVariable, Exec.bind_assoc]
    refine lifted_bind (evaluate_denote index plain enough) fun position _ => ?_
    rw [Exec.bind_assoc, Exec.get_bind]
    cases state.readArray name position.intValue <;> rfl

end

end Interpreter

/-- The address of a variable in an activation. -/
def Operand.address (number : Nat) : Operand H → Option Address
  | .slot index => some (.slot number index)
  | .global symbol => some (.global symbol)
  | _ => none

theorem Operand.address_evaluate {operand : Operand H} {address : Address}
    (found : operand.address activation.number = some address) :
    operand.evaluate activation = .ok (.pointer address) := by
  cases operand with
  | slot index =>
    cases found
    rfl
  | global symbol =>
    cases found
    rfl
  | _ => cases found

theorem Operand.below_of_address {operand : Operand H} {address : Address}
    (found : operand.address number = some address) : operand.Below bound := by
  cases operand with
  | register index => cases found
  | _ => trivial

/-- A scalar that the state and the memory hold alike. -/
structure StoredScalar (state : State H) (names : Names) (table : SymbolTable) (number : Nat)
    (machine : Machine H) (name : String) (type : ShortType) : Prop where
  intro ::
  stored : ∃ value word operand address, state.readScalar name = some value ∧ value.type = type ∧
    Represents value (parseType type) word ∧
    storage H names table name = some (operand, .scalar (parseType type)) ∧
    operand.address number = some address ∧ machine.memory address = some (.scalar word)
  typed : names.variableType name false = type

/-- An array of its declared extent, which is an `int` of the source. -/
structure StoredArray (state : State H) (names : Names) (table : SymbolTable) (number : Nat)
    (machine : Machine H) (name : String) (type : ShortType) : Prop where
  intro ::
  stored : ∃ values words operand address, state.find (·.arrays name) = some values ∧
    (∀ value ∈ values, value.type = type) ∧
    List.Forall₂ (fun value word => Represents value (parseType type) word) values words ∧
    storage H names table name = some (operand, .array (parseType type) values.length) ∧
    operand.address number = some address ∧ machine.memory address = some (.array words) ∧
    values.length < 2 ^ 31
  typed : names.variableType name true = type

/-- Every variable of the scopes has its declared type on both sides, and the same value. -/
structure Matched (program : Program H) (scopes : List Scope) (state : State H)
    (names : Names) (table : SymbolTable) (number : Nat) (machine : Machine H) : Prop where
  scalar : ∀ name type, lookupType program scopes name = some ⟨type, false⟩ →
    StoredScalar state names table number machine name type
  array : ∀ name type, lookupType program scopes name = some ⟨type, true⟩ →
    StoredArray state names table number machine name type

section Compilation

variable {program : Program H} {scopes : List Scope} {state : State H} {names : Names}
  {builder after : Builder H} {number : Nat} {machine : Machine H}

theorem StoredArray.grown (held : StoredArray state names builder.table number machine name type)
    (grown : Grown builder after) :
    StoredArray state names after.table number machine name type := by
  obtain ⟨⟨values, words, operand, address, present, types, stand, stored, located⟩, typed⟩ := held
  exact ⟨⟨values, words, operand, address, present, types, stand, grown.storage stored, located⟩,
    typed⟩

theorem Matched.grown (matched : Matched program scopes state names builder.table number machine)
    (grown : Grown builder after) :
    Matched program scopes state names after.table number machine := by
  refine ⟨fun name type resolved => ?_, fun name type resolved =>
    (matched.array name type resolved).grown grown⟩
  obtain ⟨⟨value, word, operand, address, present, valueType, stands, stored, located⟩, typed⟩ :=
    matched.scalar name type resolved
  exact ⟨⟨value, word, operand, address, present, valueType, stands, grown.storage stored,
    located⟩, typed⟩

def compileExpr (expression : Expr H) : Build H (Option (Value H)) := valueOf (visitExpr expression)

/-- What the code of an expression does in every activation of this number. -/
def Compiled (machine : Machine H) (number floor : Nat) (type : ShortType)
    (result : Except Failure (RuntimeValue H)) (compiled : Option (Value H)) (after : Builder H)
    (piece : List (Entry H)) : Prop :=
  ∃ value, compiled = some value ∧ after.retType = type ∧ after.loadVariable = false ∧
    value.operand.Below after.next ∧ LowOf type value.type ∧
    ∀ activation : Activation H, activation.number = number →
      Delivers machine floor piece activation value type result

theorem getExpression_plain (clear : builder.loadVariable = false) :
    getExpression names builder = .ok (builder.ret, builder, .empty) := by
  obtain ⟨table, next, ret, retType, loadType, loadVariable⟩ := builder
  cases clear
  rfl

/-- The code of a load. -/
def loadCode (builder : Builder H) (pointer : Value H) : Code H :=
  ⟨[⟨"loadtmp", builder.next, .load (parseType builder.loadType) pointer.operand⟩], .plain rfl⟩

theorem getExpression_loads (flagged : builder.loadVariable = true)
    (held : builder.ret = some pointer) :
    getExpression names builder =
      .ok (some ⟨.register builder.next, parseType builder.loadType⟩,
        { builder with
          next := builder.next + 1, retType := builder.loadType, loadVariable := false },
        loadCode builder pointer) := by
  obtain ⟨table, next, ret, retType, loadType, loadVariable⟩ := builder
  cases flagged
  cases held
  rfl

/-- A value that stands in `ret` when the visit ends. -/
theorem compiled_of_ret {type : ShortType}
    (emits : Emits action names builder fun _ after piece => after.loadVariable = false ∧
      Compiled machine number floor type result after.ret after piece) :
    Emits (valueOf action) names builder (Compiled machine number floor type result) := by
  refine emits.bind ?_
  rintro _ middle piece - ⟨clear, compiled⟩
  refine ⟨_, _, .empty, getExpression_plain clear, .refl middle, ?_⟩
  change Compiled _ _ _ _ _ _ _ (piece ++ [])
  rwa [append_nil]

/-- A visit that leaves a constant, without code. -/
theorem compiled_constant {type : ShortType}
    (ran : action names builder = .ok ((), later, .empty)) (ret : later.ret = some value)
    (retType : later.retType = type) (clear : later.loadVariable = false)
    (grown : Grown builder later) (low : LowOf type value.type) (typed : found.type = type)
    (below : value.operand.Below later.next)
    (runs : ∀ activation, value.operand.evaluate activation = .ok word)
    (stands : Represents found value.type word) :
    Emits (valueOf action) names builder
      (Compiled machine number builder.next type (.ok found)) :=
  compiled_of_ret ⟨(), later, .empty, ran, grown, clear, value, ret, retType, clear, below, low,
    fun activation _ => ⟨activation, rfl, .refl activation, typed, word, runs activation, stands⟩⟩

theorem run_load {type : LowType} (located : pointer.evaluate activation = .ok address)
    (held : readCell machine address = .ok value) :
    (load type pointer).run watch calls name activation machine =
      .ok (value, machine) := by
  simp only [run, located]
  change (readCell machine address).bind (fun value => .ok (value, machine)) = _
  rw [held]
  rfl

/-- A scalar is loaded from where it is stored. -/
theorem compileSimple_emits
    (held : StoredScalar state names builder.table number machine name type) :
    Emits (valueOf (visitTarget (.simple name))) names builder
      (Compiled machine number builder.next type (denoteTarget state (.simple name))) := by
  obtain ⟨⟨value, word, operand, address, present, valueType, stands, stored, located, held⟩,
    typed⟩ := held
  have visited : visitTarget (.simple name) names builder = .ok ((), { builder with
      ret := some ⟨operand, .pointer⟩, loadType := type, retType := type, loadVariable := true },
      .empty) := by
    rw [visitTarget, visitSimple]
    simp only [Bind.bind, Build.names, Build.get, stored, typed]
    rfl
  refine .step visited ⟨Nat.le_refl _, prefix_refl _⟩ ?_
  refine ⟨_, _, _, getExpression_loads rfl rfl, ⟨Nat.le_succ _, prefix_refl _⟩, _, rfl, rfl,
    rfl, register_below (Nat.lt_succ_self _), .inl rfl, fun activation same => ?_⟩
  have runs : operand.evaluate activation = .ok (.pointer address) :=
    Operand.address_evaluate (by rwa [same])
  have loads : readCell machine (.pointer address) = .ok word := by
    simp only [readCell, held]
  rw [denoteTarget, present]
  exact ⟨_, runEntries_cons_ok (run_load runs loads),
    .write activation _, .register valueType stands⟩

theorem outside_extent (index : IntValue) (small : extent < 2 ^ 31) :
    (index.slt 0 || (BitVec.ofNat 32 extent).sle index) =
      !decide (0 ≤ index.toInt ∧ index.toNat < extent) := by
  rw [Bool.eq_iff_iff, Bool.not_eq_true', decide_eq_false_iff_not]
  simp only [Bool.or_eq_true, BitVec.slt_iff_toInt_lt, BitVec.sle_iff_toInt_le,
    BitVec.toInt_eq_toNat_cond, BitVec.toNat_ofNat]
  simp only [Nat.reducePow, Int.cast_ofNat_Int, BitVec.ofNat_eq_ofNat, BitVec.toNat_ofNat,
    Nat.zero_mod, Nat.mul_zero, Nat.zero_lt_succ, ↓reduceIte, not_and, Nat.not_lt]
  omega

/-- The checked address of an element. -/
def elementPiece (first : Nat) (name : String) (extent : Nat) (pointer index : Operand H) :
    List (Entry H) :=
  [⟨"array_index_negative", first, .binary .slt index (.integer 0)⟩,
    ⟨"array_index_too_large", first + 1, .binary .sge index (.integer (BitVec.ofNat 32 extent))⟩,
    ⟨"array_bounds_error", first + 2, .binary .or (.register first) (.register (first + 1))⟩,
    ⟨"", first + 3, .failIf (.register (first + 2)) "SHD7002"
      ("array index is outside declared bounds for `" ++ name ++ "`")⟩,
    ⟨name ++ "_IDX", first + 4, .element pointer index⟩]

theorem visitElement_ran {element : LowType}
    (stored : storage H names builder.table name = some (pointer, .array element extent))
    (index : Value H) :
    ∃ code, code.entries = elementPiece builder.next name extent pointer index.operand ∧
      visitElement name (some index) names builder = .ok ((), { builder with
        table := requestCheck builder.table
        next := builder.next + 5
        ret := some ⟨.register (builder.next + 4), .pointer⟩
        loadType := names.variableType name true
        retType := names.variableType name true
        loadVariable := true }, code) := by
  have guarded : Guarded (elementPiece builder.next name extent pointer index.operand) :=
    .cons rfl (.cons rfl (.cons rfl (.cons rfl (.cons rfl .nil))))
  refine ⟨⟨_, guarded⟩, rfl, ?_⟩
  simp only [visitElement, Bind.bind, Build.names, Build.get, stored]
  rfl

theorem run_element (located : array.evaluate activation = .ok (.pointer address))
    (indexed : index.evaluate activation = .ok (.int position)) (inside : 0 ≤ position.toInt) :
    (element array index).run watch calls name activation machine =
      .ok (.element address position.toNat, machine) := by
  simp only [run, located, indexed]
  change (elementWord (.pointer address) (.int position)).bind
    (fun pointer => .ok (pointer, machine)) = _
  rw [elementWord, if_pos inside]
  rfl

/-- The check stops the program exactly outside the extent. -/
theorem run_elementPiece {extent : Nat} {pointer index : Operand H}
    {activation : Activation H} {address : Address} {position : IntValue}
    (small : extent < 2 ^ 31) (pointerBelow : pointer.Below first) (indexBelow : index.Below first)
    (located : pointer.evaluate activation = .ok (.pointer address))
    (indexed : index.evaluate activation = .ok (.int position)) :
    if 0 ≤ position.toInt ∧ position.toNat < extent then
      ∃ after, runEntries undefinedDivision noCalls
          (elementPiece first name extent pointer index) (activation, machine) =
          .ok (after, machine) ∧ activation.Keeps first after ∧
        (Operand.register (first + 4)).evaluate after = .ok (.element address position.toNat)
    else runEntries undefinedDivision noCalls (elementPiece first name extent pointer index)
      (activation, machine) = .error (.diagnostic "SHD7002"
        ("array index is outside declared bounds for `" ++ name ++ "`")) := by
  let negative := activation.set first (.bit (position.slt 0))
  let large := negative.set (first + 1) (.bit ((BitVec.ofNat 32 extent).sle position))
  let outside := large.set (first + 2)
    (.bit (position.slt 0 || (BitVec.ofNat 32 extent).sle position))
  have keepsNegative : activation.Keeps first negative :=
    .write activation _
  have keepsOutside : activation.Keeps first outside :=
    (keepsNegative.set (Nat.le_add_right _ _) _).set (Nat.le_add_right _ _) _
  have negativeRuns : (Operand.register first : Operand H).evaluate large =
      .ok (.bit (position.slt 0)) := by
    rw [evaluate_set_of_below (register_below (Nat.lt_succ_self first))]
    exact evaluate_register_set
  unfold elementPiece
  rw [runEntries_cons_ok (run_binary_ok indexed rfl rfl),
    runEntries_cons_ok
      (run_binary_ok ((keepsNegative.evaluate indexBelow).trans indexed) rfl rfl),
    runEntries_cons_ok (run_binary_ok negativeRuns evaluate_register_set rfl)]
  by_cases inside : 0 ≤ position.toInt ∧ position.toNat < extent
  · rw [if_pos inside]
    have passes := keepsOutside.set (Nat.le_add_right first 3) .nothing
    refine ⟨_, ?_, passes.set (Nat.le_add_right first 4) _, evaluate_register_set⟩
    rw [runEntries_cons_ok (run_failIf_passes ?_)]
    · exact runEntries_cons_ok (run_element ((passes.evaluate pointerBelow).trans located)
        ((passes.evaluate indexBelow).trans indexed) inside.1)
    · rw [evaluate_register_set, outside_extent position small, decide_eq_true inside]
      rfl
  · rw [if_neg inside]
    refine runEntries_cons_error (run_failIf_stops ?_)
    rw [evaluate_register_set, outside_extent position small, decide_eq_false inside]
    rfl


/-- Code behind a piece that has stopped is not run. -/
theorem Delivers.stopped {floor higher : Nat} {piece later : List (Entry H)}
    {activation : Activation H} {value other : Value H} {type last : ShortType} {failure : Failure}
    (stopped : Delivers machine higher piece activation value type (.error failure)) :
    Delivers machine floor (piece ++ later) activation other last (.error failure) := by
  obtain ⟨message, ran⟩ := stopped
  refine ⟨message, ?_⟩
  rw [runEntries_append, ran]
  rfl

/-- A piece, then one that goes on with its value. -/
theorem Delivers.bind {type last : ShortType}
    {next : RuntimeValue H → Except Failure (RuntimeValue H)} (le : floor ≤ higher)
    (delivers : Delivers machine floor piece activation value type result)
    (continues : ∀ middle found, activation.Keeps floor middle → Holds middle value type found →
      Delivers machine higher later middle other last (next found)) :
    Delivers machine floor (piece ++ later) activation other last (result.bind next) := by
  cases result with
  | error failure => exact delivers.stopped
  | ok found =>
    obtain ⟨middle, ran, keeps, holds⟩ := delivers
    exact .prepend ran keeps le (continues middle found keeps holds)

theorem elementAt_inside (inside : 0 ≤ index.toInt ∧ index.toNat < values.length) :
    ∃ value, values[index.toNat]? = some value ∧ elementAt values index = .ok value := by
  have present := getElem?_eq_getElem inside.2
  refine ⟨_, present, ?_⟩
  rw [elementAt, if_neg (Int.not_lt.mpr inside.1), present]

theorem elementAt_outside (outside : ¬(0 ≤ index.toInt ∧ index.toNat < values.length)) :
    elementAt values index = .error (.outside index values.length) := by
  have element := elementAt_spec values index
  cases found : elementAt values index with
  | error fault =>
    rw [found] at element
    rw [element.1]
  | ok value =>
    rw [elementAt] at found
    split at found
    · cases found
    · rename_i nonnegative
      rw [getElem?_eq_none (by omega)] at found
      cases found

/-- The element of a represented array. -/
theorem readCell_element {low : LowType}
    (stand : Forall₂ (fun value word => Represents value low word) values words)
    (held : machine.memory address = some (.array words)) (found : values[index]? = some value) :
    ∃ word, readCell machine (.element address index) = .ok word ∧ Represents value low word := by
  have sameLength := stand.length_eq
  obtain ⟨inside, here⟩ := List.getElem?_eq_some_iff.mp found
  have present : words[index]? = some (words[index]) :=
    getElem?_eq_getElem (sameLength ▸ inside)
  refine ⟨words[index], ?_, ?_⟩
  · simp only [readCell, held, present]
    rfl
  · rw [← here]
    exact stand.get inside (sameLength ▸ inside)

theorem denoteTarget_array (present : state.find (·.arrays name) = some values) :
    denoteTarget state (.array name index) = (denote state index).bind fun position =>
      (elementAt values position.intValue).mapError (Failure.arrayRead name) := by
  simp only [denoteTarget, State.readArray, present]
  refine congrArg (denote state index).bind (funext fun position => ?_)
  cases elementAt values position.intValue <;> rfl

/-- An element is checked, located and loaded once the index has its value. -/
theorem compileArray_emits {name : String} {type : ShortType}
    (held : StoredArray state names builder.table number machine name type)
    (emits : Emits (compileExpr index) names builder
      (Compiled machine number builder.next .int (denote state index))) :
    Emits (valueOf (visitTarget (.array name index))) names builder
      (Compiled machine number builder.next type (denoteTarget state (.array name index))) := by
  rw [valueOf, visitTarget, Build.bind_assoc]
  refine Emits.bind emits ?_
  rintro _ second indexPiece indexGrown
    ⟨position, rfl, -, -, positionBelow, positionLow, indexRuns⟩
  obtain ⟨⟨values, words, operand, address, present, types, stand, stored, located, memory, small⟩,
    typed⟩ := held.grown indexGrown
  obtain ⟨code, entries, visited⟩ := visitElement_ran stored position
  refine .step visited ⟨Nat.le_add_right _ 5, SymbolTable.requestCheck_grows _⟩ ?_
  refine ⟨_, _, _, getExpression_loads rfl rfl, ⟨Nat.le_succ _, prefix_refl _⟩, _, rfl, typed,
    rfl, register_below (Nat.lt_succ_self _), .inl ?_, fun activation same => ?_⟩
  · rw [typed]
  rw [denoteTarget_array present, entries]
  refine .bind indexGrown.next (indexRuns activation same) fun middle found keeps holds => ?_
  have pointerRuns : operand.evaluate middle = .ok (.pointer address) :=
    Operand.address_evaluate (by rwa [keeps.number, same])
  have checked := @run_elementPiece H machine second.next name values.length operand
    position.operand middle address found.intValue small (Operand.below_of_address located)
    positionBelow pointerRuns (holds.int (positionLow.eq_parseType nofun))
  by_cases inside : 0 ≤ found.intValue.toInt ∧ found.intValue.toNat < values.length
  · rw [if_pos inside] at checked
    obtain ⟨later, ran, kept, elementRuns⟩ := checked
    obtain ⟨value, element, read⟩ := elementAt_inside inside
    obtain ⟨word, loads, represents⟩ := readCell_element stand memory element
    rw [read]
    refine .prepend ran kept (Nat.le_add_right second.next 5) ?_
    refine ⟨_, runEntries_cons_ok (run_load elementRuns loads),
      .write later _,
      .register (types _ (mem_of_getElem? element)) ?_⟩
    rwa [typed]
  · rw [if_neg inside] at checked
    rw [elementAt_outside inside]
    exact @Delivers.stopped H machine second.next second.next _ _ middle position _ .int _ _
      ⟨_, checked⟩

theorem run_negate (runs : operand.evaluate activation = .ok (.float value)) :
    (negate operand).run watch calls name activation machine =
      .ok (.float (H.neg value), machine) := by
  simp only [run, runs]
  rfl

theorem visitMinus_emits {type : ShortType}
    (numeric : type = .int ∨ type = .float) (retType : builder.retType = type)
    (low : LowOf type operand.type) :
    Emits (visitMinus (some operand)) names builder fun _ after piece =>
      after.loadVariable = false ∧ after.next = builder.next + 1 ∧ after.retType = type ∧
        after.ret = some ⟨.register builder.next, parseType type⟩ ∧
        ∀ activation (value : RuntimeValue H), Holds activation operand type value →
          Delivers machine builder.next piece activation
            ⟨.register builder.next, parseType type⟩ type (.ok (applyMinus value)) := by
  obtain ⟨table, next, ret, _, loadType, loadVariable⟩ := builder
  cases retType
  rcases numeric with rfl | rfl <;>
    refine ⟨(), _, _, rfl, ⟨Nat.le_succ _, prefix_refl _⟩, rfl, rfl, rfl, rfl,
      fun activation value holds => ?_⟩ <;>
    simp only [applyMinus, holds.typed]
  · have runs := holds.int (low.eq_parseType (by simp))
    exact ⟨_, runEntries_cons_ok (run_binary_ok rfl runs rfl), .write activation _,
      .register rfl (.int rfl)⟩
  · have runs := holds.float (low.eq_parseType (by simp))
    exact ⟨_, runEntries_cons_ok (run_negate runs), .write activation _, .register rfl (.float rfl)⟩

/-- The minus of a compiled operand. -/
theorem compileMinus_emits {type : ShortType} (numeric : type = .int ∨ type = .float)
    (emits : Emits (compileExpr operand) names builder
      (Compiled machine number builder.next type (denote state operand))) :
    Emits (compileExpr (.unaryMinus operand)) names builder
      (Compiled machine number builder.next type (denote state (.unaryMinus operand))) := by
  refine compiled_of_ret ?_
  refine Emits.bind emits ?_
  rintro _ second first grown ⟨value, rfl, retType, -, below, low, runs⟩
  refine (@visitMinus_emits H names second machine value type numeric retType low).mono ?_
  rintro _ after later - ⟨clear, next, resultType, ret, delivers⟩
  refine ⟨clear, _, ret, resultType, clear, register_below (by omega), .inl rfl,
    fun activation same => ?_⟩
  exact .bind grown.next (runs activation same) fun middle found _ holds =>
    delivers middle found holds

/-- An accepted operator on two compiled operands. -/
theorem compileBinary_emits {type : ShortType} (accepted : (binaryType op type type).2 = [])
    (leftEmits : Emits (compileExpr left) names builder
      (Compiled machine number builder.next type (denote state left)))
    (rightEmits : ∀ after, Grown builder after → after.loadVariable = false →
      Emits (compileExpr right) names after
        (Compiled machine number after.next type (denote state right))) :
    Emits (compileExpr (.binary op left right)) names builder
      (Compiled machine number builder.next (binaryType op type type).1
        (denote state (.binary op left right))) := by
  refine compiled_of_ret ?_
  refine Emits.bind leftEmits ?_
  rintro _ second leftPiece leftGrown
    ⟨leftValue, rfl, leftRetType, leftClear, leftBelow, leftLow, leftRuns⟩
  refine .after rfl (Emits.bind (rightEmits second leftGrown leftClear) ?_)
  rintro _ third rightPiece rightGrown
    ⟨rightValue, rfl, rightRetType, -, rightBelow, rightLow, rightRuns⟩
  refine .after rfl ?_
  rw [leftRetType, rightRetType]
  refine (@visitBinary_operated H names third machine leftValue rightValue type op leftLow rightLow
    (leftBelow.mono rightGrown.next) rightBelow accepted).mono ?_
  rintro _ after opPiece - ⟨clear, value, ret, resultType, below, low, delivers⟩
  refine ⟨clear, value, ret, resultType, clear, below, low, fun activation same => ?_⟩
  refine .bind leftGrown.next (leftRuns activation same) fun middle first keepsLeft leftHolds => ?_
  refine .bind rightGrown.next (rightRuns middle (keepsLeft.number.trans same))
    fun later second keepsRight rightHolds => ?_
  exact delivers later first second (leftHolds.keep keepsRight leftBelow) rightHolds

theorem minusType_accepted (accepted : (minusType operand).2 = []) :
    operand.2 = [] ∧ (operand.1 = .int ∨ operand.1 = .float) ∧ (minusType operand).1 = operand.1 := by
  unfold minusType at accepted ⊢
  by_cases numeric : isNumeric operand.1 = true
  · rw [if_pos numeric] at accepted ⊢
    exact ⟨accepted, by simpa [isNumeric] using numeric, rfl⟩
  · rw [if_neg numeric] at accepted
    simp at accepted

mutual

/-- The code of an accepted expression without calls computes its value, unless a
number is visited first with the load flag set. -/
theorem compileExpr_emits (expression : Expr H) {builder : Builder H}
    (accepted : (expressionType program scopes expression).2 = [])
    (plain : callFree expression = true)
    (matched : Matched program scopes state names builder.table number machine)
    (start : builder.loadVariable = false ∨ startsWithLiteral expression = false) :
    Emits (compileExpr expression) names builder
      (Compiled machine number builder.next (expressionType program scopes expression).1
        (denote state expression)) := by
  cases expression with
  | literal value =>
    rw [startsWithLiteral] at start
    rw [compileExpr, visitExpr]
    exact compiled_constant rfl rfl rfl (start.resolve_right nofun) ⟨Nat.le_refl _, List.prefix_refl _⟩
      (.inl rfl) rfl trivial (fun _ => rfl) (.int rfl)
  | boolLiteral value =>
    rw [compileExpr, visitExpr]
    exact compiled_constant rfl rfl rfl rfl ⟨Nat.le_refl _, List.prefix_refl _⟩ (.inl rfl) rfl trivial
      (fun _ => rfl) (.boolean rfl)
  | floatLiteral value =>
    rw [compileExpr, visitExpr]
    exact compiled_constant rfl rfl rfl rfl ⟨Nat.le_refl _, List.prefix_refl _⟩ (.inl rfl) rfl trivial
      (fun _ => rfl) (.float rfl)
  | stringLiteral text =>
    rw [compileExpr, visitExpr]
    exact compiled_constant rfl rfl rfl rfl ⟨Nat.le_refl _, List.prefix_append _ _⟩ (.inl rfl) rfl
      trivial (fun _ => rfl) (.text rfl)
  | variableRef target =>
    rw [expressionType] at accepted ⊢
    rw [callFree] at plain
    rw [startsWithLiteral] at start
    have emits := compileTarget_emits target accepted plain matched start
    rwa [compileExpr, visitExpr, denote]
  | unaryMinus operand =>
    rw [expressionType] at accepted ⊢
    rw [callFree] at plain
    rw [startsWithLiteral] at start
    obtain ⟨operandAccepted, numeric, sameType⟩ := minusType_accepted accepted
    rw [sameType]
    exact compileMinus_emits numeric (compileExpr_emits operand operandAccepted plain matched start)
  | binary op left right =>
    rw [expressionType] at accepted ⊢
    rw [callFree, Bool.and_eq_true] at plain
    rw [startsWithLiteral] at start
    simp only [List.append_eq_nil_iff] at accepted
    obtain ⟨⟨leftAccepted, rightAccepted⟩, operatorAccepted⟩ := accepted
    have same := (binaryType_same operatorAccepted).1
    have leftEmits := compileExpr_emits left leftAccepted plain.1 matched start
    have rightEmits : ∀ after, Grown builder after → after.loadVariable = false →
        Emits (compileExpr right) names after (Compiled machine number after.next
          (expressionType program scopes right).1 (denote state right)) :=
      fun after grown clear => compileExpr_emits right rightAccepted plain.2
        (matched.grown grown) (.inl clear)
    rw [← same] at operatorAccepted rightEmits ⊢
    exact compileBinary_emits operatorAccepted leftEmits rightEmits
  | call name arguments => cases plain

theorem compileTarget_emits (target : Variable H) {builder : Builder H}
    (accepted : (variableType program scopes target).2 = [])
    (plain : callFreeTarget target = true)
    (matched : Matched program scopes state names builder.table number machine)
    (start : builder.loadVariable = false ∨ startsTarget target = false) :
    Emits (valueOf (visitTarget target)) names builder
      (Compiled machine number builder.next (variableType program scopes target).1
        (denoteTarget state target)) := by
  cases target with
  | simple name =>
    rw [variableType, simpleType] at accepted ⊢
    rcases resolved : lookupType program scopes name with _ | ⟨type, _ | _⟩
    · rw [resolved] at accepted
      cases accepted
    · exact compileSimple_emits (matched.scalar name type resolved)
    · rw [resolved] at accepted
      cases accepted
  | array name index =>
    rw [variableType, arrayType] at accepted ⊢
    rw [callFreeTarget] at plain
    rw [startsTarget] at start
    rcases resolved : lookupType program scopes name with _ | ⟨type, _ | _⟩
    · rw [resolved] at accepted
      cases accepted
    · rw [resolved] at accepted
      cases accepted
    · rw [resolved] at accepted
      obtain ⟨indexAccepted, typed⟩ := List.append_eq_nil_iff.mp accepted
      have indexType : (expressionType program scopes index).1 = .int := by
        by_contra other
        rw [if_neg other] at typed
        cases typed
      have emits := compileExpr_emits index indexAccepted plain matched start
      rw [indexType] at emits
      exact compileArray_emits (matched.array name type resolved) emits

end

end Compilation

end ShortHand.Codegen
