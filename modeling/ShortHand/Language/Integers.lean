import Mathlib.Algebra.Order.Ring.Nat
import ShortHand.Language.Interpreter

/-! Integers from the text to the value, and the interpreter with a watch on every signed
division. -/

namespace ShortHand.Language

open ShortHand.Library

variable {H : Host}

/-- What the rule for integer literals matches. -/
structure IntegerText where
  text : List Char
  nonempty : text ≠ []
  digits : ∀ c ∈ text, c.isDigit = true

def decimalValue (text : List Char) : Nat :=
  text.foldl (fun value c => 10 * value + (c.toNat - '0'.toNat)) 0

/-- The conversion of the C library; its result is defined where the number is an `int`. -/
structure Conversion where
  atoi : List Char → IntValue
  inRange : ∀ token : IntegerText, decimalValue token.text < 2 ^ 31 →
    (atoi token.text).toInt = decimalValue token.text

/-- The value of the token; none for a token over the limit of the scanner. -/
def integerLiteral (conversion : Conversion) (limit : Nat) (token : IntegerText) :
    Option IntValue :=
  if token.text.length ≤ limit then some (conversion.atoi token.text) else none

/-- The number of the text is the value, or there is no value. -/
def Exact (conversion : Conversion) (limit : Nat) (token : IntegerText) : Prop :=
  ∀ value, integerLiteral conversion limit token = some value →
    value.toInt = decimalValue token.text

theorem exact_iff :
    Exact conversion limit token ↔
      (token.text.length ≤ limit → decimalValue token.text < 2 ^ 31) := by
  unfold Exact integerLiteral
  constructor
  · intro exactly fits
    rw [if_pos fits] at exactly
    have same := exactly _ rfl
    have bounded := @BitVec.toInt_lt 32 (conversion.atoi token.text)
    omega
  · intro bounded value found
    by_cases fits : token.text.length ≤ limit
    · rw [if_pos fits] at found
      cases found
      exact conversion.inRange token (bounded fits)
    · rw [if_neg fits] at found
      cases found

/-- The conversion through a 64-bit `long` that stops at its largest value. -/
def Conversion.throughLong : Conversion where
  atoi text := BitVec.ofNat 32 (min (decimalValue text) (2 ^ 63 - 1))
  inRange := by
    intro token small
    rw [Nat.min_eq_left (by omega), BitVec.toInt_eq_toNat_cond, BitVec.toNat_ofNat,
      Nat.mod_eq_of_lt (by omega), if_pos (by omega)]

inductive DivisionSite where
  | operator
  | report
  deriving DecidableEq

/-- The divisions that stop the run. -/
abbrev DivisionWatch := DivisionSite → IntValue → IntValue → Bool

/-- The divisions without a defined result. -/
def undefinedDivisions : DivisionWatch := fun _ left right =>
  right = 0 ∨ (left = minInt ∧ right = -1)

def reportOverflows : DivisionWatch := fun site left right =>
  site = .report ∧ left = minInt ∧ right = -1

namespace DivisionWatch

variable (watch : DivisionWatch)

def divided (site : DivisionSite) (left right : IntValue) (result : RuntimeValue H) :
    Except Failure (RuntimeValue H) :=
  if watch site left right then .error (.hidden "") else .ok result

def intBinary (op : BinaryOp) (left right : IntValue) : Except Failure (RuntimeValue H) :=
  match op with
  | .divide =>
    if right = 0 ∨ (left = minInt ∧ right = -1) then .error .integerDivision
    else watch.divided .operator left right (intResult H (left.sdiv right))
  | .modulo =>
    if right = 0 ∨ (left = minInt ∧ right = -1) then .error .integerRemainder
    else watch.divided .operator left right (intResult H (left.srem right))
  | _ => Language.intBinary op left right

def applyBinary (op : BinaryOp) (left right : RuntimeValue H) :
    Except Failure (RuntimeValue H) :=
  match left.type with
  | .float => floatBinary op left.floatValue right.floatValue
  | .string => .ok (stringBinary op left.stringValue right.stringValue)
  | _ => watch.intBinary op left.intValue right.intValue

variable (program : Program H)

def visitExpression (visitor : Visitor H) : Expr H → Run H (RuntimeValue H)
  | .binary op left right => do
    let leftValue ← visitor.evaluate left
    let rightValue ← visitor.evaluate right
    match watch.applyBinary op leftValue rightValue with
    | .error failure => Exec.fail failure
    | .ok value => return value
  | expression => Language.visitExpression (.source H) program visitor expression

/-- A report divides by its energy, unless that is zero. -/
def visitReport (workload : String) (inferences watts seconds : IntValue) : Run H Unit :=
  if watts * seconds ≠ 0 ∧ watch .report inferences (watts * seconds) then Exec.fail (.hidden "")
  else emit (reportLine workload inferences watts seconds)

def visitStatement (visitor : Visitor H) : Stmt H → Run H Flow
  | .greenaiReport workload inferences watts seconds => do
    let inferred ← visitor.evaluate inferences
    let power ← visitor.evaluate watts
    let duration ← visitor.evaluate seconds
    Flow.after (watch.visitReport workload inferred.intValue power.intValue duration.intValue)
  | statement => Language.visitStatement visitor statement

def interpreter : Nat → Visitor H
  | 0 => Language.interpreter (.source H) program 0
  | fuel + 1 =>
    { clauses (.source H) program (interpreter fuel) with
      evaluate := watch.visitExpression program (interpreter fuel)
      statement := watch.visitStatement (interpreter fuel) }

/-- A watched run of the program. -/
def execute (fuel : Nat) (input : H.Input) : Outcome (State H) Failure Unit :=
  (do
    initializeDeclarations program.globals
    runCode program (watch.interpreter program fuel)) (initialState H input)

end DivisionWatch

section Watching

variable {watch other : DivisionWatch} {program : Program H}

/-- Watches that judge alike what can be executed see the same runs. -/
theorem DivisionWatch.interpreter_eq
    (operators : ∀ left right, ¬(right = 0 ∨ (left = minInt ∧ right = -1)) →
      watch .operator left right = other .operator left right)
    (reports : ∀ left right, right ≠ 0 → watch .report left right = other .report left right)
    (fuel : Nat) : watch.interpreter program fuel = other.interpreter program fuel := by
  have divides : @DivisionWatch.intBinary H watch = @DivisionWatch.intBinary H other := by
    funext op left right
    cases op with
    | divide | modulo =>
      simp only [intBinary, divided]
      by_cases undefined : right = 0 ∨ (left = minInt ∧ right = -1)
      · rw [if_pos undefined, if_pos undefined]
      · rw [operators left right undefined]
    | _ => rfl
  have reported : @DivisionWatch.visitReport H watch = @DivisionWatch.visitReport H other := by
    funext workload inferences watts seconds
    unfold visitReport
    by_cases zero : watts * seconds = 0
    · rw [if_neg (by simp [zero]), if_neg (by simp [zero])]
    · rw [reports _ _ zero]
  induction fuel with
  | zero => rfl
  | succ fuel ih =>
    simp only [interpreter, ih]
    congr 1
    · funext expression
      cases expression with
      | binary op left right => simp only [visitExpression, applyBinary, divides]
      | _ => rfl
    · funext statement
      cases statement with
      | greenaiReport workload inferences watts seconds => simp only [visitStatement, reported]
      | _ => rfl

/-- A watch that stops nothing sees the source's runs. -/
theorem DivisionWatch.interpreter_never (fuel : Nat) :
    DivisionWatch.interpreter (fun _ _ _ => false) program fuel =
      Language.interpreter (.source H) program fuel := by
  have divides : @DivisionWatch.intBinary H (fun _ _ _ => false) = Language.intBinary := by
    funext op left right
    cases op <;> rfl
  have applies : @DivisionWatch.applyBinary H (fun _ _ _ => false) = Language.applyBinary := by
    unfold applyBinary
    rw [divides]
    rfl
  have reports : @DivisionWatch.visitReport H (fun _ _ _ => false) =
      fun workload inferences watts seconds =>
        emit (reportLine workload inferences watts seconds) := by
    funext workload inferences watts seconds
    exact if_neg (by simp)
  induction fuel with
  | zero => rfl
  | succ fuel ih =>
    simp only [interpreter, ih, Language.interpreter, clauses]
    congr 1
    · funext expression
      cases expression with
      | binary op left right =>
        rw [visitExpression, applies]
        rfl
      | _ => rfl
    · funext statement
      cases statement with
      | greenaiReport workload inferences watts seconds =>
        simp only [visitStatement, Language.visitStatement, reports]
      | _ => rfl

theorem undefinedDivisions_execute (fuel : Nat) (input : H.Input) :
    undefinedDivisions.execute program fuel input = reportOverflows.execute program fuel input := by
  unfold DivisionWatch.execute
  rw [DivisionWatch.interpreter_eq]
  · intro left right defined
    simp only [undefinedDivisions, reportOverflows, defined]
    rfl
  · intro left right nonzero
    simp only [undefinedDivisions, reportOverflows, nonzero]
    simp

theorem never_execute (fuel : Nat) (input : H.Input) :
    DivisionWatch.execute (fun _ _ _ => false) program fuel input =
      execute (.source H) program fuel input := by
  unfold DivisionWatch.execute
  rw [DivisionWatch.interpreter_never]
  rfl

end Watching

end ShortHand.Language
