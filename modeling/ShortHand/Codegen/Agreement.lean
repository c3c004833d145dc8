import ShortHand.Codegen.Expressions
import ShortHand.Codegen.Statements

/-! The interpreter and the generated code agree on expressions without calls, unless the load
flag is set and a number is visited first. -/

namespace ShortHand.Codegen

open ShortHand.Language ShortHand.Library List

variable {H : Host}

/-- What the code of an expression does from an activation and a memory; nothing if
the generator finds no value. -/
def compiledOutcome (names : Names) (builder : Builder H) (activation : Activation H)
    (machine : Machine H) (expression : Expr H) : Option (Except Fault (Word H)) :=
  match compileExpr expression names builder with
  | .ok (some value, _, code) => some (do
      let later ← runEntries undefinedDivision noCalls code.entries (activation, machine)
      value.operand.evaluate later.1)
  | _ => none

/-- Equal values, or diagnostics of the same code. -/
inductive SameOutcome : Outcome (State H) Failure (RuntimeValue H) →
    Option (Except Fault (Word H)) → Prop where
  | value {found : RuntimeValue H} {state : State H} {low : LowType} {word : Word H}
      (stands : Represents found low word) : SameOutcome (.ok found state) (some (.ok word))
  | failure {failure : Failure} {state : State H} {message : String} :
      SameOutcome (.failed failure state) (some (.error (.diagnostic failure.code message)))

/-- The diagnostic code of a failed run. -/
def faultCode : Option (Except Fault (Word H)) → Option String
  | some (.error (.diagnostic code _)) => some code
  | _ => none

theorem SameOutcome.code (same : SameOutcome outcome compiled) :
    outcome.error?.map Failure.code = faultCode compiled := by
  cases same <;> rfl

theorem SameOutcome.defined (same : SameOutcome outcome compiled) :
    ¬ (compiled = none ∨ compiled = some (.error .malformed)) := by
  cases same <;> simp

mutual

/-- The first part that fails, from left to right, and its diagnostic code; the parts
of an expression come before the expression itself. -/
def firstFailing (fails : Expr H → Option String) : Expr H → Option (Expr H × String)
  | .variableRef target =>
    firstFailingTarget fails target <|> (fails (.variableRef target)).map (.variableRef target, ·)
  | .unaryMinus operand =>
    firstFailing fails operand <|> (fails (.unaryMinus operand)).map (.unaryMinus operand, ·)
  | .binary op left right =>
    firstFailing fails left <|> firstFailing fails right <|>
      (fails (.binary op left right)).map (.binary op left right, ·)
  | expression => (fails expression).map (expression, ·)

def firstFailingTarget (fails : Expr H → Option String) : Variable H → Option (Expr H × String)
  | .simple _ => none
  | .array _ index => firstFailing fails index

end

def interpretedFailure (program : Program H) (state : State H) (expression : Expr H) :
    Option String :=
  ((interpreter (.source H) program (depth expression + 1)).evaluate expression state).error?.map
    Failure.code

/-- The diagnostic code that the code of an expression ends with, from a clear load flag. -/
def compiledFailure (names : Names) (builder : Builder H) (activation : Activation H)
    (machine : Machine H) (expression : Expr H) : Option String :=
  faultCode
    (compiledOutcome names { builder with loadVariable := false } activation machine expression)

/-- Both sides give the same value, or the same diagnostic for the same first part. -/
structure ExpressionAgrees (program : Program H) (state : State H) (names : Names)
    (builder : Builder H) (activation : Activation H) (machine : Machine H) (expression : Expr H) :
    Prop where
  outcome : ∀ fuel, depth expression < fuel →
    SameOutcome ((interpreter (.source H) program fuel).evaluate expression state)
      (compiledOutcome names builder activation machine expression)
  first : firstFailing (interpretedFailure program state) expression =
    firstFailing (compiledFailure names builder activation machine) expression

section Agreement

variable {program : Program H} {scopes : List Scope} {state : State H} {names : Names}
  {builder : Builder H} {activation : Activation H} {machine : Machine H} {expression : Expr H}

theorem compiledOutcome_of_emits {type : ShortType}
    (emits : Emits (compileExpr expression) names builder
      (Compiled machine activation.number builder.next type result)) :
    SameOutcome (lifted state result)
      (compiledOutcome names builder activation machine expression) := by
  obtain ⟨_, after, code, ran, -, value, rfl, -, -, -, -, delivers⟩ := emits
  have ends := delivers activation rfl
  unfold compiledOutcome
  rw [ran]
  dsimp only
  cases result with
  | ok found =>
    obtain ⟨later, finished, -, holds⟩ := ends
    obtain ⟨word, evaluates, stands⟩ := holds.stands
    rw [finished]
    change SameOutcome _ (some (value.operand.evaluate later))
    rw [evaluates]
    exact .value stands
  | error failure =>
    obtain ⟨message, stopped⟩ := ends
    rw [stopped]
    exact .failure

/-- Both sides agree where the load flag does no harm. -/
theorem sameOutcome_of_clear (accepted : (expressionType program scopes expression).2 = [])
    (plain : callFree expression = true)
    (matched : Matched program scopes state names builder.table activation.number machine)
    (start : builder.loadVariable = false ∨ startsWithLiteral expression = false) {fuel : Nat}
    (enough : depth expression < fuel) :
    SameOutcome ((interpreter (.source H) program fuel).evaluate expression state)
      (compiledOutcome names builder activation machine expression) := by
  rw [evaluate_denote (.source H) program state expression plain enough]
  exact compiledOutcome_of_emits (compileExpr_emits expression accepted plain matched start)

theorem failures_agree (accepted : (expressionType program scopes expression).2 = [])
    (plain : callFree expression = true)
    (matched : Matched program scopes state names builder.table activation.number machine) :
    interpretedFailure program state expression =
      compiledFailure names builder activation machine expression := by
  have same := @sameOutcome_of_clear H program scopes state names
    { builder with loadVariable := false } activation machine expression accepted plain matched
    (.inl rfl) (depth expression + 1) (Nat.lt_succ_self _)
  exact same.code

mutual

theorem firstFailing_agree (expression : Expr H)
    (accepted : (expressionType program scopes expression).2 = [])
    (plain : callFree expression = true)
    (matched : Matched program scopes state names builder.table activation.number machine) :
    firstFailing (interpretedFailure program state) expression =
      firstFailing (compiledFailure names builder activation machine) expression := by
  have own := failures_agree accepted plain matched
  cases expression with
  | literal | boolLiteral | floatLiteral | stringLiteral => simp only [firstFailing, own]
  | variableRef target =>
    rw [expressionType] at accepted
    rw [callFree] at plain
    rw [firstFailing, firstFailing, own, firstFailingTarget_agree target accepted plain matched]
  | unaryMinus operand =>
    rw [expressionType] at accepted
    rw [callFree] at plain
    rw [firstFailing, firstFailing, own,
      firstFailing_agree operand (minusType_accepted accepted).1 plain matched]
  | binary op left right =>
    rw [expressionType] at accepted
    rw [callFree, Bool.and_eq_true] at plain
    simp only [append_eq_nil_iff] at accepted
    rw [firstFailing, firstFailing, own, firstFailing_agree left accepted.1.1 plain.1 matched,
      firstFailing_agree right accepted.1.2 plain.2 matched]
  | call name arguments => cases plain

theorem firstFailingTarget_agree (target : Variable H)
    (accepted : (variableType program scopes target).2 = [])
    (plain : callFreeTarget target = true)
    (matched : Matched program scopes state names builder.table activation.number machine) :
    firstFailingTarget (interpretedFailure program state) target =
      firstFailingTarget (compiledFailure names builder activation machine) target := by
  cases target with
  | simple name => rfl
  | array name index =>
    rw [variableType, arrayType] at accepted
    rw [callFreeTarget] at plain
    rcases resolved : lookupType program scopes name with _ | ⟨type, _ | _⟩
    · rw [resolved] at accepted
      cases accepted
    · rw [resolved] at accepted
      cases accepted
    · rw [resolved] at accepted
      exact firstFailing_agree index (append_eq_nil_iff.mp accepted).1 plain matched

end

/-- Whatever code the visit gives begins with a load from a number. -/
def LoadsNumber {α : Type} (action : Build H α) (names : Names) (builder : Builder H) : Prop :=
  ∀ result after code, action names builder = .ok (result, after, code) →
    ∃ name type value rest,
      code.entries = ⟨name, builder.next, .load type (.integer value)⟩ :: rest

theorem LoadsNumber.bind {later : α → Build H β} (loads : LoadsNumber action names builder) :
    LoadsNumber (action >>= later) names builder := by
  intro result after code ran
  simp only [Bind.bind] at ran
  rcases first : action names builder with crash | ⟨value, middle, start⟩
  · rw [first] at ran
    cases ran
  rw [first] at ran
  dsimp only at ran
  rcases second : later value names middle with crash | ⟨final, last, added⟩
  · rw [second] at ran
    cases ran
  rw [second] at ran
  cases ran
  obtain ⟨name, type, number, rest, begins⟩ := loads value middle start first
  refine ⟨name, type, number, rest ++ added.entries, ?_⟩
  change start.entries ++ added.entries = _
  rw [begins, cons_append]

mutual

theorem compileExpr_loadsNumber (expression : Expr H)
    (starts : startsWithLiteral expression = true) (flagged : builder.loadVariable = true) :
    LoadsNumber (compileExpr expression) names builder := by
  rw [compileExpr, valueOf]
  cases expression with
  | literal value =>
    obtain ⟨table, next, ret, retType, loadType, loadVariable⟩ := builder
    cases flagged
    rw [visitExpr]
    intro result after code ran
    cases ran
    exact ⟨_, _, value, _, rfl⟩
  | variableRef target =>
    rw [startsWithLiteral] at starts
    rw [visitExpr]
    exact .bind (visitTarget_loadsNumber target starts flagged)
  | unaryMinus operand =>
    rw [startsWithLiteral] at starts
    rw [visitExpr]
    exact .bind (.bind (compileExpr_loadsNumber operand starts flagged))
  | binary op left right =>
    rw [startsWithLiteral] at starts
    rw [visitExpr]
    exact .bind (.bind (compileExpr_loadsNumber left starts flagged))
  | _ => cases starts

theorem visitTarget_loadsNumber (target : Variable H) (starts : startsTarget target = true)
    (flagged : builder.loadVariable = true) :
    LoadsNumber (visitTarget target) names builder := by
  cases target with
  | simple name => cases starts
  | array name index =>
    rw [startsTarget] at starts
    rw [visitTarget]
    exact .bind (compileExpr_loadsNumber index starts flagged)

end

/-- A load from a number has no meaning. -/
theorem compiledOutcome_malformed (starts : startsWithLiteral expression = true)
    (flagged : builder.loadVariable = true) :
    compiledOutcome names builder activation machine expression = none ∨
      compiledOutcome names builder activation machine expression = some (.error .malformed) := by
  have loads := @compileExpr_loadsNumber H names builder expression starts flagged
  unfold compiledOutcome
  rcases ran : compileExpr expression names builder with crash | ⟨_ | value, after, code⟩
  · exact .inl rfl
  · exact .inl rfl
  obtain ⟨name, type, number, rest, begins⟩ := loads _ _ _ ran
  right
  dsimp only
  rw [begins]
  rfl

end Agreement

/-- The program `int x; int a[2]; read x, a[0];`. -/
def readProgram : Program Host.sample where
  globals := ⟨[("x", .int)], [("a", .int, 2)]⟩
  functions := []
  code := [.read [.simple "x", .array "a" (.literal 0)]]
  undeclared := by decide

/-- What the generator does for `readProgram` up to the first target. -/
def readFirst : Emit Host.sample Unit := do
  startModule
  visitGlobals readProgram.globals
  let _ ← createSymbol "main" (.function 0 .i32)
  enterFunction .i32
  build (visitReadTarget (.simple "x"))

def readGenerator : Generator Host.sample :=
  match readFirst {} with
  | .ok _ generator => generator
  | _ => {}

theorem readFirst_finishes : readFirst {} = .ok () readGenerator := by
  have finishes : (readFirst {}).endsWith (fun _ => true) = true := by decide +kernel
  obtain ⟨_, generator, ran, -⟩ := Outcome.eq_ok_of_endsWith finishes
  rw [readGenerator, ran]

def readState : State Host.sample :=
  match initializeDeclarations readProgram.globals (initialState Host.sample []) with
  | .ok _ state => state
  | _ => initialState Host.sample []

def readMachine : Machine Host.sample where
  memory address :=
    if address = .global "x" then some (.scalar (.int 0))
    else if address = .global "a" then some (.array [.int 0, .int 0])
    else none
  input := []

theorem readGenerator_storage
    (found : (storage Host.sample readGenerator.toNames readGenerator.table name).map
      (fun found => (found.1.address 0, found.2)) = some (some (.global name), stored)) :
    ∃ operand, storage Host.sample readGenerator.toNames readGenerator.table name =
      some (operand, stored) ∧ operand.address 0 = some (.global name) := by
  obtain ⟨⟨operand, _⟩, held, pair⟩ := Option.map_eq_some_iff.mp found
  obtain ⟨located, rfl⟩ := Prod.mk.inj pair
  exact ⟨operand, held, located⟩

theorem readProgram_name (resolved : lookupType readProgram [fun _ => none] name = some info) :
    name = "x" ∨ name = "a" := by
  by_cases isX : name = "x"
  · exact .inl isX
  by_cases isA : name = "a"
  · exact .inr isA
  · have notX : (name == "x") = false := by simpa using isX
    have notA : (name == "a") = false := by simpa using isA
    simp [lookupType, lookupScopes, lookupGlobal, readProgram, lookup_cons, notX, notA] at resolved

theorem readProgram_matched :
    Matched readProgram [fun _ => none] readState readGenerator.toNames readGenerator.table 0
      readMachine := by
  constructor
  · intro name type resolved
    rcases readProgram_name resolved with rfl | rfl
    · cases resolved
      obtain ⟨operand, held, located⟩ :=
        @readGenerator_storage "x" (.scalar .i32) (by decide +kernel)
      exact ⟨⟨intResult _ 0, .int 0, operand, .global "x", rfl, rfl, .int rfl, held, located, rfl⟩,
        by decide +kernel⟩
    · cases resolved
  · intro name type resolved
    rcases readProgram_name resolved with rfl | rfl
    · cases resolved
    cases resolved
    obtain ⟨operand, held, located⟩ :=
      @readGenerator_storage "a" (.array .i32 2) (by decide +kernel)
    refine ⟨⟨[intResult _ 0, intResult _ 0], [.int 0, .int 0], operand, .global "a", rfl, ?_, ?_,
      held, located, rfl, by decide⟩, by decide +kernel⟩
    · decide
    · exact .cons (.int rfl) (.cons (.int rfl) .nil)

end ShortHand.Codegen
