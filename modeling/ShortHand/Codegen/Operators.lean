import ShortHand.Language.Interpreter
import ShortHand.Codegen.Emission

/-! The code of an operator, run on words that represent the operands, ends as the interpreter's
operator does. -/

namespace ShortHand.Codegen

open ShortHand.Language ShortHand.Library List

variable {H : Host}

/-- The signed divisions that have no result: by zero, and the one that overflows. -/
def undefinedDivision : Watch := fun _ left right =>
  right = 0 ∨ (left = minInt ∧ right = -1)

def noCalls : Callee H := fun _ _ _ => .error .malformed

/-- A word of this type stands for the value: a Boolean is a bit or its 32-bit
storage, and the empty string may be a null pointer. -/
inductive Represents (value : RuntimeValue H) : LowType → Word H → Prop where
  | int (typed : value.type = .int) : Represents value .i32 (.int value.intValue)
  | boolean (typed : value.type = .boolean) : Represents value .i32 (.int value.intValue)
  | bit (typed : value.type = .boolean) (flag : Bool)
      (same : value.intValue = if flag then 1 else 0) : Represents value .i1 (.bit flag)
  | float (typed : value.type = .float) : Represents value .double (.float value.floatValue)
  | text (typed : value.type = .string) : Represents value .pointer (.text value.stringValue)
  | null (typed : value.type = .string) (empty : value.stringValue = "") :
      Represents value .pointer .null

/-- The types that values of a source type have in the generated code. -/
def LowOf (type : ShortType) (low : LowType) : Prop :=
  low = parseType type ∨ (type = .boolean ∧ low = .i1)

theorem LowOf.eq_parseType (typed : LowOf type low)
    (other : type ≠ .boolean) : low = parseType type :=
  typed.resolve_right fun boolean => other boolean.1

/-- The operand of a compiled value holds a value of the type. -/
structure Holds (activation : Activation H) (value : Value H) (type : ShortType)
    (found : RuntimeValue H) : Prop where
  typed : found.type = type
  stands : ∃ word, value.operand.evaluate activation = .ok word ∧
    Represents found value.type word

namespace Holds

variable {activation later : Activation H} {value : Value H} {type : ShortType}
  {found : RuntimeValue H} {bound : Nat}

theorem keep (holds : Holds activation value type found) (keeps : activation.Keeps bound later)
    (below : value.operand.Below bound) : Holds later value type found := by
  obtain ⟨word, runs, stands⟩ := holds.stands
  exact ⟨holds.typed, word, (keeps.evaluate below).trans runs, stands⟩

theorem int (holds : Holds activation value type found) (low : value.type = .i32) :
    value.operand.evaluate activation = .ok (.int found.intValue) := by
  obtain ⟨word, runs, stands⟩ := holds.stands
  rw [low] at stands
  cases stands <;> exact runs

theorem float (holds : Holds activation value type found) (low : value.type = .double) :
    value.operand.evaluate activation = .ok (.float found.floatValue) := by
  obtain ⟨word, runs, stands⟩ := holds.stands
  rw [low] at stands
  cases stands
  exact runs

/-- The result of the last instruction. -/
theorem register {low : LowType} (typed : found.type = type) (stands : Represents found low word) :
    Holds (activation.set index word) ⟨.register index, low⟩ type found :=
  ⟨typed, word, evaluate_register_set, stands⟩

end Holds

/-- A piece of code that ends with the value in its operand, or with the diagnostic. -/
def Delivers (machine : Machine H) (floor : Nat) (piece : List (Entry H))
    (activation : Activation H) (value : Value H) (type : ShortType) :
    Except Failure (RuntimeValue H) → Prop
  | .ok result => ∃ after,
      runEntries undefinedDivision noCalls piece (activation, machine) = .ok (after, machine) ∧
        activation.Keeps floor after ∧ Holds after value type result
  | .error failure => ∃ message,
      runEntries undefinedDivision noCalls piece (activation, machine) =
        .error (.diagnostic failure.code message)

/-- What the code of an operator leaves, for operands of one type. -/
def Operated (machine : Machine H) (type : ShortType) (left right : Value H) (resultType : ShortType)
    (result : RuntimeValue H → RuntimeValue H → Except Failure (RuntimeValue H)) (floor : Nat)
    (after : Builder H) (piece : List (Entry H)) : Prop :=
  ∃ value, after.ret = some value ∧ after.retType = resultType ∧
    value.operand.Below after.next ∧ LowOf resultType value.type ∧
    ∀ activation first second, Holds activation left type first →
      Holds activation right type second →
      Delivers machine floor piece activation value resultType (result first second)

section Operators

variable {names : Names} {builder : Builder H} {machine : Machine H} {left right : Value H}
  {type : ShortType}

/-- One operation whose words follow the interpreter's values. -/
theorem binaryResult_operated {resultType : ShortType}
    {result : RuntimeValue H → RuntimeValue H → Except Failure (RuntimeValue H)}
    (low : LowOf resultType op.resultType)
    (computes : ∀ activation first second, Holds activation left type first →
      Holds activation right type second → ∃ leftWord rightWord value word,
        left.operand.evaluate activation = .ok leftWord ∧
        right.operand.evaluate activation = .ok rightWord ∧ result first second = .ok value ∧
        value.type = resultType ∧
        binaryWord undefinedDivision name op leftWord rightWord = .ok word ∧
        Represents value op.resultType word) :
    Emits (binaryResult name op resultType (some left) (some right) undivided) names builder
      fun _ after piece =>
        Operated machine type left right resultType result builder.next after piece := by
  refine ⟨(), _, _, rfl, ⟨Nat.le_succ _, prefix_refl _⟩, ⟨.register builder.next, _⟩, rfl,
    rfl, register_below (Nat.lt_succ_self _), low, fun activation first second holds also => ?_⟩
  obtain ⟨leftWord, rightWord, value, word, leftRuns, rightRuns, results, typed, words, stands⟩ :=
    computes activation first second holds also
  rw [results]
  exact ⟨_, runEntries_cons_ok (run_binary_ok leftRuns rightRuns words),
    .write activation word, .register typed stands⟩

theorem applyBinary_int (kind : first.type = .int ∨ first.type = .boolean) :
    applyBinary op first second = intBinary op first.intValue second.intValue := by
  unfold applyBinary
  rcases kind with typed | typed
  · rw [typed]
  · rw [typed]

/-- One operation on integers. -/
theorem integer_operated {resultType : ShortType} (kind : type = .int ∨ type = .boolean)
    (leftLow : left.type = .i32) (rightLow : right.type = .i32)
    (low : LowOf resultType operation.resultType)
    (computes : ∀ first second : IntValue, ∃ (value : RuntimeValue H) (word : Word H),
      intBinary op first second = .ok value ∧ value.type = resultType ∧
        binaryWord undefinedDivision name operation (.int first) (.int second) = .ok word ∧
        Represents value operation.resultType word) :
    Emits (binaryResult name operation resultType (some left) (some right) undivided) names builder
      fun _ after piece => Operated machine type left right resultType (applyBinary op)
        builder.next after piece := by
  refine binaryResult_operated low fun activation first second holds also => ?_
  obtain ⟨value, word, computed⟩ := computes first.intValue second.intValue
  rw [applyBinary_int (by rwa [holds.typed])]
  exact ⟨_, _, value, word, holds.int leftLow, also.int rightLow, computed⟩

/-- The activation behind a check, by the results of its three comparisons. -/
def Activation.checked (activation : Activation H) (number : Nat) (zero least negative : Bool) :
    Activation H :=
  (((((activation.set number (.bit zero)).set (number + 1) (.bit least)).set (number + 2)
    (.bit negative)).set (number + 3) (.bit (least && negative))).set (number + 4)
      (.bit (zero || (least && negative)))).set (number + 5) .nothing

/-- The check of a division, by what its operands are at each comparison. -/
theorem run_check (zeroRuns : second.evaluate activation = .ok (.int divisor))
    (leastRuns : first.evaluate (activation.set number (.bit (divisor == 0))) = .ok (.int dividend))
    (negativeRuns : second.evaluate ((activation.set number (.bit (divisor == 0))).set (number + 1)
      (.bit (dividend == BitVec.intMin 32))) = .ok (.int again)) :
    runEntries watch calls (checkPiece number message first second) (activation, machine) =
      if divisor = 0 ∨ (dividend = minInt ∧ again = -1) then
        .error (.diagnostic "SHD7001" message)
      else .ok (activation.checked number (divisor == 0) (dividend == BitVec.intMin 32) (again == -1),
        machine) := by
  let zero := activation.set number (.bit (divisor == 0))
  let least := zero.set (number + 1) (.bit (dividend == BitVec.intMin 32))
  let negative := least.set (number + 2) (.bit (again == -1))
  let overflow := negative.set (number + 3) (.bit (dividend == BitVec.intMin 32 && again == -1))
  have zeroHeld : (Operand.register number : Operand H).evaluate overflow =
      .ok (.bit (divisor == 0)) := by
    have later : zero.Keeps (number + 1) overflow :=
      ((Activation.Keeps.write zero _).set (by omega) _).set (by omega) _
    rw [later.evaluate (register_below (Nat.lt_succ_self number))]
    exact evaluate_register_set
  have leastHeld : (Operand.register (number + 1) : Operand H).evaluate negative =
      .ok (.bit (dividend == BitVec.intMin 32)) := by
    rw [evaluate_set_of_below (register_below (Nat.lt_succ_self (number + 1)))]
    exact evaluate_register_set
  unfold checkPiece
  rw [runEntries_cons_ok (run_binary_ok zeroRuns rfl rfl),
    runEntries_cons_ok (run_binary_ok leastRuns rfl rfl),
    runEntries_cons_ok (run_binary_ok negativeRuns rfl rfl),
    runEntries_cons_ok (run_binary_ok leastHeld evaluate_register_set rfl),
    runEntries_cons_ok (run_binary_ok zeroHeld evaluate_register_set rfl)]
  have holds : (divisor == 0 || (dividend == BitVec.intMin 32 && again == -1)) =
      decide (divisor = 0 ∨ (dividend = minInt ∧ again = -1)) := by
    rw [Bool.eq_iff_iff, decide_eq_true_iff]
    simp [minInt]
  by_cases undefined : divisor = 0 ∨ (dividend = minInt ∧ again = -1)
  · rw [if_pos undefined]
    refine runEntries_cons_error (run_failIf_stops ?_)
    rw [evaluate_register_set, holds, decide_eq_true undefined]
  · rw [if_neg undefined]
    refine runEntries_cons_ok (run_failIf_passes ?_)
    rw [evaluate_register_set, holds, decide_eq_false undefined]

theorem Activation.keeps_checked (activation : Activation H) (number : Nat)
    (zero least negative : Bool) :
    activation.Keeps number (activation.checked number zero least negative) :=
  (((((Activation.Keeps.write activation _).set (Nat.le_add_right _ _) _).set
    (Nat.le_add_right _ _) _).set (Nat.le_add_right _ _) _).set (Nat.le_add_right _ _) _).set
      (Nat.le_add_right _ _) _

/-- The check of a division stops the program exactly where the division has no result. -/
theorem run_checkPiece {dividend divisor : IntValue} (firstBelow : first.Below number)
    (secondBelow : second.Below number) (firstRuns : first.evaluate activation = .ok (.int dividend))
    (secondRuns : second.evaluate activation = .ok (.int divisor)) :
    ∃ checked, activation.Keeps number checked ∧
      runEntries undefinedDivision noCalls (checkPiece number message first second)
          (activation, machine) = if divisor = 0 ∨ (dividend = minInt ∧ divisor = -1) then
          .error (.diagnostic "SHD7001" message) else .ok (checked, machine) := by
  refine ⟨_, activation.keeps_checked number _ _ _, run_check secondRuns ?_ ?_⟩
  · rw [evaluate_set_of_below firstBelow, firstRuns]
  · rw [evaluate_set_of_below (secondBelow.mono (Nat.le_succ _)), evaluate_set_of_below secondBelow,
      secondRuns]

theorem visitDivision_operated {operation : Operation}
    {failure : Failure} {result : IntValue → IntValue → IntValue} (leftLow : left.type = .i32)
    (rightLow : right.type = .i32) (leftBelow : left.operand.Below builder.next)
    (rightBelow : right.operand.Below builder.next) (code : failure.code = "SHD7001")
    (low : operation.resultType = .i32)
    (source : ∀ dividend divisor, intBinary op dividend divisor =
      if divisor = 0 ∨ (dividend = minInt ∧ divisor = -1) then .error failure
      else .ok (intResult H (result dividend divisor)))
    (target : ∀ dividend divisor, ¬(divisor = 0 ∨ (dividend = minInt ∧ divisor = -1)) →
      binaryWord undefinedDivision name operation (.int dividend) (.int divisor) =
        .ok (.int (result dividend divisor) : Word H)) :
    Emits (visitDivision name operation message (some left) (some right)) names builder
      fun _ after piece => Operated machine .int left right .int (applyBinary op)
        builder.next after piece := by
  refine ⟨(), _, _, rfl, ⟨Nat.le_add_right _ 7, SymbolTable.requestCheck_grows _⟩,
    ⟨.register (builder.next + 6), _⟩, rfl, rfl, register_below (Nat.lt_succ_self _), .inl low,
    fun activation first second holds also => ?_⟩
  have leftRuns := holds.int leftLow
  have rightRuns := also.int rightLow
  obtain ⟨checked, keeps, ran⟩ := @run_checkPiece H machine _ message _ _ _ _ _ leftBelow rightBelow
    leftRuns rightRuns
  change Delivers _ _ (divisionPiece _ _ _ _ _ _) _ _ _ _
  rw [applyBinary_int (.inl holds.typed), source, divisionPiece]
  by_cases undefined : second.intValue = 0 ∨ (first.intValue = minInt ∧ second.intValue = -1)
  · rw [if_pos undefined] at ran ⊢
    exact ⟨message, by rw [runEntries_append, ran, code]; rfl⟩
  rw [if_neg undefined] at ran ⊢
  have divided : runEntries undefinedDivision noCalls
      [⟨name, builder.next + 6, .binary operation left.operand right.operand⟩]
      (checked, machine) = .ok _ :=
    runEntries_cons_ok (run_binary_ok ((keeps.evaluate leftBelow).trans leftRuns)
      ((keeps.evaluate rightBelow).trans rightRuns) (target _ _ undefined))
  refine ⟨_, by rw [runEntries_append, ran]; exact divided, keeps.set (Nat.le_add_right _ _) _,
    .register rfl ?_⟩
  rw [low]
  exact .int rfl

/-- Both operands as bits, then the operation; neither side is skipped. -/
theorem visitLogic_operated {result : Bool → Bool → Bool} (kind : type = .int ∨ type = .boolean)
    (leftLow : left.type = .i32) (rightLow : right.type = .i32)
    (rightBelow : right.operand.Below builder.next) (low : operation.resultType = .i1)
    (source : ∀ first second : IntValue,
      intBinary op first second = .ok (boolResult H (result (first != 0) (second != 0))))
    (target : ∀ first second, binaryWord undefinedDivision name operation (.bit first)
      (.bit second) = .ok (.bit (result first second) : Word H)) :
    Emits (visitLogic name operation (some left) (some right) undivided) names builder
      fun _ after piece =>
        Operated machine type left right .boolean (applyBinary op) builder.next after piece := by
  obtain ⟨leftOperand, _⟩ := left
  obtain ⟨rightOperand, _⟩ := right
  cases leftLow
  cases rightLow
  refine ⟨(), _, _, rfl, ⟨Nat.le_add_right _ 3, prefix_refl _⟩,
    ⟨.register (builder.next + 2), _⟩, rfl, rfl, register_below (Nat.lt_succ_self _),
    .inr ⟨rfl, low⟩, fun activation first second holds also => ?_⟩
  rw [applyBinary_int (by rwa [holds.typed]), source]
  let leftFlag := activation.set builder.next (.bit (first.intValue != 0))
  let bothFlags := leftFlag.set (builder.next + 1) (.bit (second.intValue != 0))
  have keepsLeft : activation.Keeps builder.next leftFlag :=
    .write activation _
  have leftFlagRuns : (Operand.register builder.next : Operand H).evaluate bothFlags =
      .ok (.bit (first.intValue != 0)) := by
    rw [evaluate_set_of_below (register_below (Nat.lt_succ_self _))]
    exact evaluate_register_set
  refine ⟨bothFlags.set (builder.next + 2)
    (.bit (result (first.intValue != 0) (second.intValue != 0))), ?_, ?_, .register rfl ?_⟩
  · change runEntries _ _ [_, _, _] _ = _
    rw [runEntries_cons_ok (run_binary_ok (holds.int rfl) rfl rfl),
      runEntries_cons_ok
        (run_binary_ok ((keepsLeft.evaluate rightBelow).trans (also.int rfl)) rfl rfl),
      runEntries_cons_ok (run_binary_ok leftFlagRuns evaluate_register_set (target _ _))]
    rfl
  · exact (keepsLeft.set (Nat.le_add_right _ _) _).set (Nat.le_add_right _ _) _
  · rw [low]
    exact .bit rfl _ rfl

/-- The operators on integers and stored Booleans. -/
theorem visitOperator_operated (kind : type = .int ∨ type = .boolean)
    (leftLow : left.type = .i32) (rightLow : right.type = .i32)
    (leftBelow : left.operand.Below builder.next) (rightBelow : right.operand.Below builder.next)
    (accepted : (binaryType op type type).2 = []) :
    Emits (visitOperator op (some left) (some right)) names builder fun _ after piece =>
      Operated machine type left right (binaryType op type type).1 (applyBinary op)
        builder.next after piece := by
  have divides : ∀ name op dividend divisor,
      ¬(divisor = 0 ∨ (dividend = minInt ∧ divisor = -1)) →
      binaryWord undefinedDivision name op (.int dividend) (.int divisor) =
        op.apply (.int dividend) (.int divisor : Word H) := by
    intro name op dividend divisor defined
    have passes : undefinedDivision.stops name op (.int dividend) (.int divisor : Word H) = false := by
      cases op <;> first | rfl | exact decide_eq_false defined
    rw [binaryWord, passes]
    rfl
  cases op with
  | plus | minus | multiply =>
    rcases kind with rfl | rfl
    · exact integer_operated (.inl rfl) leftLow rightLow (.inl rfl) fun _ _ =>
        ⟨_, _, rfl, rfl, rfl, .int rfl⟩
    · cases accepted
  | divide | modulo =>
    rcases kind with rfl | rfl
    · exact visitDivision_operated leftLow rightLow leftBelow rightBelow rfl rfl
        (fun _ _ => rfl) (divides _ _)
    · cases accepted
  | less | greater | lessOrEqual | greaterOrEqual =>
    rcases kind with rfl | rfl
    · exact integer_operated (.inl rfl) leftLow rightLow (.inr ⟨rfl, rfl⟩) fun _ _ =>
        ⟨_, _, rfl, rfl, rfl, .bit rfl _ rfl⟩
    · cases accepted
  | equal | notEqual =>
    rcases kind with rfl | rfl <;>
      exact integer_operated (by simp) leftLow rightLow (.inr ⟨rfl, rfl⟩) fun _ _ =>
        ⟨_, _, rfl, rfl, rfl, .bit rfl _ rfl⟩
  | or | and =>
    rcases kind with rfl | rfl <;>
      exact visitLogic_operated (by simp) leftLow rightLow rightBelow rfl (fun _ _ => rfl)
        fun _ _ => rfl

theorem applyBinary_float (kind : first.type = .float) :
    applyBinary op first second = floatBinary op first.floatValue second.floatValue := by
  unfold applyBinary
  rw [kind]

/-- One operation on floats. -/
theorem float_operated {resultType : ShortType} (leftLow : left.type = .double)
    (rightLow : right.type = .double) (low : LowOf resultType operation.resultType)
    (computes : ∀ first second : H.Double, ∃ (value : RuntimeValue H) (word : Word H),
      floatBinary op first second = .ok value ∧ value.type = resultType ∧
        binaryWord undefinedDivision name operation (.float first) (.float second) = .ok word ∧
        Represents value operation.resultType word) :
    Emits (binaryResult name operation resultType (some left) (some right) undivided) names builder
      fun _ after piece => Operated machine .float left right resultType (applyBinary op)
        builder.next after piece := by
  refine binaryResult_operated low fun activation first second holds also => ?_
  obtain ⟨value, word, computed⟩ := computes first.floatValue second.floatValue
  rw [applyBinary_float holds.typed]
  exact ⟨_, _, value, word, holds.float leftLow, also.float rightLow, computed⟩

/-- The check of a zero divisor, then the quotient. -/
theorem floatDivision_operated (leftLow : left.type = .double) (rightLow : right.type = .double)
    (leftBelow : left.operand.Below builder.next)
    (rightBelow : right.operand.Below builder.next) :
    Emits (visitFloatOperator .divide (some left) (some right)) names builder fun _ after piece =>
      Operated machine .float left right .float (applyBinary .divide) builder.next after piece := by
  refine ⟨(), _, _, rfl, ⟨Nat.le_add_right _ 3, SymbolTable.requestCheck_grows _⟩,
    ⟨.register (builder.next + 2), _⟩, rfl, rfl, register_below (Nat.lt_succ_self _), .inl rfl,
    fun activation first second holds also => ?_⟩
  have rightRuns := also.float rightLow
  have keeps : activation.Keeps builder.next
      (activation.set builder.next (.bit (H.equal second.floatValue H.zero))) :=
    .write activation _
  rw [applyBinary_float holds.typed, floatBinary]
  change Delivers _ _ [_, _, _] _ _ _ _
  cases zero : H.equal second.floatValue H.zero with
  | true =>
    refine ⟨"float division by zero is forbidden by shorthand.type_memory.v1", ?_⟩
    rw [runEntries_cons_ok (run_binary_ok rightRuns rfl rfl)]
    refine runEntries_cons_error (run_failIf_stops ?_)
    rw [evaluate_register_set, zero]
  | false =>
    have passes := keeps.set (Nat.le_add_right _ 1) .nothing
    have flag : (Operand.register builder.next : Operand H).evaluate
        (activation.set builder.next (.bit (H.equal second.floatValue H.zero))) =
        .ok (.bit false) := by
      rw [evaluate_register_set, zero]
    refine ⟨_, ?_, passes.set (Nat.le_add_right _ 2) _, .register rfl (.float rfl)⟩
    rw [runEntries_cons_ok (run_binary_ok rightRuns rfl rfl),
      runEntries_cons_ok (run_failIf_passes flag),
      runEntries_cons_ok (run_binary_ok ((passes.evaluate leftBelow).trans (holds.float leftLow))
        ((passes.evaluate rightBelow).trans rightRuns) rfl)]
    rfl

theorem visitFloatOperator_operated (leftLow : left.type = .double)
    (rightLow : right.type = .double) (leftBelow : left.operand.Below builder.next)
    (rightBelow : right.operand.Below builder.next)
    (accepted : (binaryType op .float .float).2 = []) :
    Emits (visitFloatOperator op (some left) (some right)) names builder fun _ after piece =>
      Operated machine .float left right (binaryType op .float .float).1 (applyBinary op)
        builder.next after piece := by
  cases op with
  | plus | minus | multiply =>
    exact float_operated leftLow rightLow (.inl rfl) fun _ _ => ⟨_, _, rfl, rfl, rfl, .float rfl⟩
  | divide => exact floatDivision_operated leftLow rightLow leftBelow rightBelow
  | less | greater | lessOrEqual | greaterOrEqual | equal | notEqual =>
    exact float_operated leftLow rightLow (.inr ⟨rfl, rfl⟩) fun _ _ =>
      ⟨_, _, rfl, rfl, rfl, .bit rfl _ rfl⟩
  | modulo | or | and => cases accepted

/-- A null pointer is read as the empty string. -/
def safePiece (number : Nat) (pointer : Operand H) : List (Entry H) :=
  [⟨"string_is_null", number, .binary .eq pointer .null⟩,
    ⟨"safe_string", number + 1, .select (.register number) (.text "") pointer⟩]

theorem run_safePiece {value : Value H} {activation : Activation H}
    {found : RuntimeValue H} (below : value.operand.Below number) (low : value.type = .pointer)
    (holds : Holds activation value .string found) :
    ∃ after, runEntries undefinedDivision noCalls (safePiece number value.operand)
        (activation, machine) = .ok (after, machine) ∧ activation.Keeps number after ∧
      (Operand.register (number + 1)).evaluate after = .ok (.text found.stringValue) := by
  have keeps := fun flag : Bool =>
    @Activation.Keeps.write H number activation (.bit flag)
  obtain ⟨word, runs, stands⟩ := holds.stands
  rw [low] at stands
  unfold safePiece
  cases stands with
  | text typed =>
    refine ⟨_, ?_, (keeps false).set (Nat.le_add_right _ 1) _, evaluate_register_set⟩
    rw [runEntries_cons_ok (run_binary_ok runs rfl rfl)]
    exact runEntries_cons_ok (run_select evaluate_register_set
      (((keeps false).evaluate below).trans runs))
  | null typed empty =>
    refine ⟨_, ?_, (keeps true).set (Nat.le_add_right _ 1) _, evaluate_register_set⟩
    rw [runEntries_cons_ok (run_binary_ok runs rfl rfl), empty]
    exact runEntries_cons_ok (run_select evaluate_register_set rfl)

/-- Both texts and their comparison. -/
def textPiece (number : Nat) (left right : Operand H) : List (Entry H) :=
  safePiece number left ++ (safePiece (number + 2) right ++
    [⟨"strcmp_result", number + 4, .strcmp (.register (number + 1)) (.register (number + 3))⟩,
      ⟨"string_equal", number + 5, .binary .eq (.register (number + 4)) (.integer 0)⟩])

theorem run_textPiece {number : Nat}
    (leftBelow : left.operand.Below number) (rightBelow : right.operand.Below number)
    (leftLow : left.type = .pointer) (rightLow : right.type = .pointer)
    (holds : Holds activation left .string first) (also : Holds activation right .string second) :
    ∃ middle, activation.Keeps number middle ∧
      runEntries undefinedDivision noCalls (textPiece number left.operand right.operand)
          (activation, machine) =
        .ok (middle.set (number + 5) (.bit (first.stringValue == second.stringValue)), machine) := by
  obtain ⟨afterFirst, firstRan, firstKeeps, firstText⟩ :=
    @run_safePiece H machine _ _ _ _ leftBelow leftLow holds
  obtain ⟨afterSecond, secondRan, secondKeeps, secondText⟩ :=
    @run_safePiece H machine _ _ _ _ (rightBelow.mono (Nat.le_add_right _ 2)) rightLow
      (also.keep firstKeeps rightBelow)
  have firstAgain :=
    (secondKeeps.evaluate (register_below (Nat.lt_succ_self _))).trans firstText
  have keeps := firstKeeps.trans (secondKeeps.mono (Nat.le_add_right _ 2))
  have compared : ((if first.stringValue = second.stringValue then (0 : IntValue) else 1) == 0) =
      (first.stringValue == second.stringValue) := by
    by_cases same : first.stringValue = second.stringValue <;> simp [same]
  refine ⟨afterSecond.set (number + 4)
    (.int (if first.stringValue = second.stringValue then 0 else 1)),
    keeps.set (Nat.le_add_right _ 4) _, ?_⟩
  rw [textPiece, runEntries_append, firstRan]
  change runEntries _ _ (_ ++ _) (afterFirst, machine) = _
  rw [runEntries_append, secondRan]
  change runEntries _ _ (_ :: _) (afterSecond, machine) = _
  rw [runEntries_cons_ok (run_strcmp firstAgain secondText),
    runEntries_cons_ok (run_binary_ok evaluate_register_set rfl rfl), compared]
  rfl

theorem visitTextComparison_operated (kind : op = .equal ∨ op = .notEqual)
    (leftLow : left.type = .pointer) (rightLow : right.type = .pointer)
    (leftBelow : left.operand.Below builder.next) (rightBelow : right.operand.Below builder.next) :
    Emits (visitTextComparison op (some left) (some right)) names builder fun _ after piece =>
      Operated machine .string left right .boolean (applyBinary op) builder.next after piece := by
  have grows := builder.table.getOrInsertFunction_grows "strcmp" 2 .i32 (.library (by decide))
  have applied : ∀ first second : RuntimeValue H, first.type = .string →
      applyBinary op first second =
        .ok (stringBinary op first.stringValue second.stringValue) := by
    intro first second typed
    unfold applyBinary
    rw [typed]
  rcases kind with rfl | rfl
  · refine ⟨(), _, _, rfl, ⟨Nat.le_add_right _ 6, grows⟩, ⟨.register (builder.next + 5), _⟩, rfl,
      rfl, register_below (Nat.lt_succ_self _), .inr ⟨rfl, rfl⟩,
      fun activation first second holds also => ?_⟩
    obtain ⟨middle, keeps, ran⟩ := @run_textPiece H machine left right _ _ _ _ leftBelow rightBelow
      leftLow rightLow holds also
    rw [applied _ _ holds.typed]
    exact ⟨_, ran, keeps.set (Nat.le_add_right _ 5) _, .register rfl (.bit rfl _ rfl)⟩
  · refine ⟨(), _, _, rfl, ⟨Nat.le_add_right _ 7, grows⟩, ⟨.register (builder.next + 6), _⟩, rfl,
      rfl, register_below (Nat.lt_succ_self _), .inr ⟨rfl, rfl⟩,
      fun activation first second holds also => ?_⟩
    obtain ⟨middle, keeps, ran⟩ := @run_textPiece H machine left right _ _ _ _ leftBelow rightBelow
      leftLow rightLow holds also
    rw [applied _ _ holds.typed]
    have inverted : runEntries undefinedDivision noCalls
        [⟨"string_not_equal", builder.next + 6, .invert (.register (builder.next + 5))⟩]
        (middle.set (builder.next + 5) (.bit (first.stringValue == second.stringValue)), machine) =
          .ok _ := runEntries_cons_ok (run_invert evaluate_register_set)
    change Delivers _ _ (textPiece _ _ _ ++ [_]) _ _ _ _
    exact ⟨_, by rw [runEntries_append, ran]; exact inverted,
      (keeps.set (Nat.le_add_right _ 5) _).set (Nat.le_add_right _ 6) _,
      .register rfl (.bit rfl _ rfl)⟩

/-- Boolean operands are compared and combined in their 32-bit storage. -/
theorem asExactBoolean_emits (low : LowOf .boolean left.type)
    (below : left.operand.Below builder.next) :
    Emits (asExactLoweredType (some left) .boolean) names builder fun stored after piece =>
      ∃ value, stored = some value ∧ value.type = .i32 ∧ value.operand.Below after.next ∧
        ∀ activation first, Holds activation left .boolean first →
          ∃ later, runEntries undefinedDivision noCalls piece (activation, machine) =
              .ok (later, machine) ∧ activation.Keeps builder.next later ∧
            Holds later value .boolean first := by
  obtain ⟨operand, lowType⟩ := left
  rcases low with low | ⟨-, low⟩
  · obtain rfl : lowType = .i32 := low
    exact .pure ⟨_, rfl, rfl, below, fun activation first holds =>
      ⟨activation, rfl, .refl activation, holds⟩⟩
  · obtain rfl : lowType = .i1 := low
    refine ⟨_, _, _, rfl, ⟨Nat.le_succ _, prefix_refl _⟩, _, rfl, rfl,
      register_below (Nat.lt_succ_self _), fun activation first holds => ?_⟩
    obtain ⟨word, runs, stands⟩ := holds.stands
    cases stands with
    | bit typed flag same =>
      refine ⟨_, runEntries_cons_ok (run_extend runs),
        .write activation _, .register typed ?_⟩
      rw [← same]
      exact .boolean typed

/-- Code before a piece that leaves its operands alone. -/
theorem Delivers.prepend
    (ran : runEntries undefinedDivision noCalls piece (activation, machine) = .ok (middle, machine))
    (keeps : activation.Keeps floor middle) (le : floor ≤ higher)
    (delivers : Delivers machine higher later middle value type result) :
    Delivers machine floor (piece ++ later) activation value type result := by
  cases result with
  | ok value =>
    obtain ⟨after, finished, kept, holds⟩ := delivers
    refine ⟨after, ?_, keeps.trans (kept.mono le), holds⟩
    rwa [runEntries_append, ran]
  | error failure =>
    obtain ⟨message, stopped⟩ := delivers
    refine ⟨message, ?_⟩
    rwa [runEntries_append, ran]

theorem Operated.stopLoading {resultType : ShortType}
    {result : RuntimeValue H → RuntimeValue H → Except Failure (RuntimeValue H)}
    (emits : Emits action names builder fun _ after piece =>
      Operated machine type left right resultType result floor after piece) :
    Emits (action >>= fun _ => stopLoading) names builder fun _ after piece =>
      after.loadVariable = false ∧
        Operated machine type left right resultType result floor after piece := by
  refine emits.bind fun _ middle piece _ operated => ?_
  refine ⟨(), _, .empty, rfl, ⟨Nat.le_refl _, prefix_refl _⟩, rfl, ?_⟩
  change Operated _ _ _ _ _ _ _ _ (piece ++ [])
  rwa [append_nil]

/-- The code of an accepted operator does what the interpreter does. -/
theorem visitBinary_operated (leftLow : LowOf type left.type)
    (rightLow : LowOf type right.type) (leftBelow : left.operand.Below builder.next)
    (rightBelow : right.operand.Below builder.next) (accepted : (binaryType op type type).2 = []) :
    Emits (visitBinary op type type (some left) (some right)) names builder fun _ after piece =>
      after.loadVariable = false ∧
        Operated machine type left right (binaryType op type type).1 (applyBinary op)
          builder.next after piece := by
  cases type with
  | void => cases accepted
  | int =>
    exact .after rfl (.after rfl (Operated.stopLoading (visitOperator_operated (.inl rfl)
      (leftLow.eq_parseType nofun) (rightLow.eq_parseType nofun) leftBelow rightBelow accepted)))
  | float =>
    exact .after rfl (.after rfl (Operated.stopLoading (visitFloatOperator_operated
      (leftLow.eq_parseType nofun) (rightLow.eq_parseType nofun) leftBelow rightBelow accepted)))
  | string =>
    refine .after rfl (.after rfl ?_)
    cases op with
    | equal | notEqual =>
      exact Operated.stopLoading (visitTextComparison_operated (by simp)
        (leftLow.eq_parseType nofun) (rightLow.eq_parseType nofun) leftBelow rightBelow)
    | _ => cases accepted
  | boolean =>
    refine (@asExactBoolean_emits H names builder machine left leftLow leftBelow).bind ?_
    rintro _ second firstPiece firstGrown ⟨storedLeft, rfl, leftStored, storedLeftBelow, leftRan⟩
    refine (@asExactBoolean_emits H names second machine right rightLow
      (rightBelow.mono firstGrown.next)).bind ?_
    rintro _ third secondPiece secondGrown
      ⟨storedRight, rfl, rightStored, storedRightBelow, rightRan⟩
    have operates := @visitOperator_operated H names third machine storedLeft storedRight .boolean
      op (.inr rfl) leftStored rightStored (storedLeftBelow.mono secondGrown.next)
      storedRightBelow accepted
    refine (Operated.stopLoading operates).mono ?_
    rintro _ after piece - ⟨stopped, value, ret, retType, below, low, runs⟩
    refine ⟨stopped, value, ret, retType, below, low, fun activation first second holds also => ?_⟩
    obtain ⟨middle, ranLeft, keepsLeft, leftHolds⟩ := leftRan activation first holds
    obtain ⟨later, ranRight, keepsRight, rightHolds⟩ :=
      rightRan middle second (also.keep keepsLeft rightBelow)
    exact .prepend ranLeft keepsLeft firstGrown.next (.prepend ranRight keepsRight
      secondGrown.next (runs later first second (leftHolds.keep keepsRight storedLeftBelow)
        rightHolds))

end Operators

end ShortHand.Codegen
