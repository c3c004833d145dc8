import ShortHand.Language.Agreement

/-! Runs that are watched: a check that fails stops the run, so a watched run that goes the way
of the plain one has passed all of them. -/

namespace ShortHand.Language

open ShortHand.Library

variable {H : Host}

structure Watch (H : Host) where
  /-- The state in front of every visit and after every read. -/
  state : State H → Bool := fun _ => true
  /-- The place in a block and the state in front of it; the block runs on a frame that
  held the names of the declaration list. -/
  block : Declarations → List (Stmt H) → Nat → State H → Bool := fun _ _ _ _ => true
  /-- The value of an expression. -/
  value : RuntimeValue H → Bool := fun _ => true
  /-- The operand of a minus. -/
  negated : RuntimeValue H → Bool := fun _ => true
  /-- The value that a read is going to store. -/
  scanned : RuntimeValue H → Bool := fun _ => true

def check (passes : Bool) : Run H Unit := if passes then pure () else Exec.fail (.hidden "")

namespace Watch

variable (watch : Watch H) (program : Program H)

def checkState : Run H Unit := do
  let state ← Exec.get
  check (watch.state state)

def visitRead (visitor : Visitor H) (target : Variable H) : Run H Unit := do
  let (place, current) ← visitVariable visitor target
  let value ← scanValue current
  check (watch.scanned value)
  store (fun _ => .undeclaredRead) (fun _ => .readBounds) value place
  watch.checkState

def visitExpression (visitor : Visitor H) : Expr H → Run H (RuntimeValue H)
  | .unaryMinus operand => do
    let value ← visitor.evaluate operand
    check (watch.negated value)
    return applyMinus value
  | expression => Language.visitExpression (.source H) program visitor expression

def visitStatement (visitor : Visitor H) : Stmt H → Run H Flow
  | .read targets => Flow.after (Exec.each (watch.visitRead visitor) targets)
  | statement => Language.visitStatement visitor statement

/-- The names that the body of a called function starts with. -/
def calledWith : Expr H → Declarations
  | .call name _ => ((program.findFunction name).map (·.parameters)).getD {}
  | _ => {}

/-- The interpreter with the checks, for a block on a frame that held the names `base`. -/
def interpreter : Nat → Declarations → Visitor H
  | 0, _ => Language.interpreter (.source H) program 0
  | fuel + 1, base =>
    let visitor := interpreter fuel {}
    { evaluate := fun expression => do
        watch.checkState
        let value ← watch.visitExpression program
          { visitor with blockFrom := (interpreter fuel (calledWith program expression)).blockFrom }
          expression
        check (watch.value value)
        return value
      statement := fun statement => do
        watch.checkState
        watch.visitStatement visitor statement
      blockFrom := fun statements position => do
        watch.checkState
        let state ← Exec.get
        check (watch.block base statements position state)
        visitBlockFrom (interpreter fuel base) statements position
      whileLoop := fun condition body => do
        watch.checkState
        visitWhileLoop visitor condition body
      forLoop := fun counter step limit body => do
        watch.checkState
        visitForLoop visitor counter step limit body }

/-- A watched run of the program. -/
def execute (fuel : Nat) (input : H.Input) : Outcome (State H) Failure Unit :=
  (do
    initializeDeclarations program.globals
    runCode program (watch.interpreter program fuel program.globals)) (initialState H input)

end Watch

@[simp] theorem check_true_bind :
    (check true >>= later) = later () := rfl

section Plain

variable {watch : Watch H} {program : Program H} {visitor : Visitor H} {expression : Expr H}
  {statement : Stmt H}

theorem Watch.visitExpression_eq (plain : ∀ operand, expression ≠ .unaryMinus operand) :
    watch.visitExpression program visitor expression =
      Language.visitExpression (.source H) program visitor expression := by
  cases expression with
  | unaryMinus operand => exact absurd rfl (plain operand)
  | _ => rfl

theorem Watch.visitStatement_eq (plain : ∀ targets, statement ≠ .read targets) :
    watch.visitStatement visitor statement = Language.visitStatement visitor statement := by
  cases statement with
  | read targets => exact absurd rfl (plain targets)
  | _ => rfl

/-- Without checks of reads and states, statements are the source's. -/
theorem Watch.visitStatement_unchecked (scanned : watch.scanned = fun _ => true)
    (states : watch.state = fun _ => true) :
    watch.visitStatement visitor statement = Language.visitStatement visitor statement := by
  have reads : watch.visitRead visitor = Language.visitRead visitor := by
    funext target state
    refine Exec.bind_congr rfl fun found after _ => Exec.bind_congr rfl fun value last _ => ?_
    rw [scanned, Watch.checkState, states]
    exact congrFun Exec.bind_pure_self last
  cases statement with
  | read targets => rw [Watch.visitStatement, Language.visitStatement, reads]
  | _ => rfl

theorem Watch.visitExpression_unchecked (negated : watch.negated = fun _ => true) :
    watch.visitExpression program visitor expression =
      Language.visitExpression (.source H) program visitor expression := by
  cases expression with
  | unaryMinus operand =>
    rw [Watch.visitExpression, negated]
    rfl
  | _ => rfl

/-- The run that checks nothing is the source's. -/
theorem Watch.interpreter_plain (fuel : Nat) (base : Declarations) :
    ({} : Watch H).interpreter program fuel base = Language.interpreter (.source H) program fuel := by
  induction fuel generalizing base with
  | zero => rfl
  | succ fuel ih =>
    have evaluates : (({} : Watch H).interpreter program (fuel + 1) base).evaluate =
        Language.visitExpression (.source H) program
          (Language.interpreter (.source H) program fuel) := by
      funext expression
      refine Exec.bind_pure_self.trans ((Watch.visitExpression_unchecked rfl).trans ?_)
      rw [ih, ih]
    have states : (({} : Watch H).interpreter program (fuel + 1) base).statement =
        Language.visitStatement (Language.interpreter (.source H) program fuel) := by
      funext statement
      refine (Watch.visitStatement_unchecked rfl rfl).trans ?_
      rw [ih]
    have blocks : (({} : Watch H).interpreter program (fuel + 1) base).blockFrom =
        visitBlockFrom (({} : Watch H).interpreter program fuel base) := rfl
    have whiles : (({} : Watch H).interpreter program (fuel + 1) base).whileLoop =
        visitWhileLoop (({} : Watch H).interpreter program fuel {}) := rfl
    have counts : (({} : Watch H).interpreter program (fuel + 1) base).forLoop =
        visitForLoop (({} : Watch H).interpreter program fuel {}) := rfl
    rw [ih] at blocks whiles counts
    rw [Language.interpreter, clauses, ← evaluates, ← states, ← blocks, ← whiles, ← counts]

theorem Watch.execute_plain (fuel : Nat) (input : H.Input) :
    ({} : Watch H).execute program fuel input = Language.execute (.source H) program fuel input := by
  rw [Watch.execute, Watch.interpreter_plain]
  rfl

end Plain

end ShortHand.Language
