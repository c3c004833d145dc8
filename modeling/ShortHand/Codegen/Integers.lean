import ShortHand.Codegen.Operators
import ShortHand.Codegen.Statements
import ShortHand.Language.Integers

/-! Integer arithmetic from the source to the value, in the interpreter and in the generated
code. -/

namespace ShortHand.Codegen

open ShortHand.Language ShortHand.Library List Instruction

variable {H : Host}

/-- The division of a report that overflows. -/
def reportOverflow : Watch := fun name dividend divisor =>
  name = "greenai_raw_inf_per_j" ∧ dividend = minInt ∧ divisor = -1

section Runs

variable {watch other : Watch} {calls : Callee H} {name : String} {instruction : Instruction H}
  {entries : List (Entry H)} {activation after : Activation H} {machine later : Machine H}

/-- The watch is asked about divisions only. -/
theorem run_undivided (undivided : instruction.divides = false) :
    instruction.run watch calls name activation machine =
      instruction.run other calls name activation machine := by
  cases instruction with
  | binary op left right =>
    have silent : ∀ (asked : Watch) (first second : Word H), asked.stops name op first second = false := by
      intro asked first second
      cases op with
      | sdiv => cases undivided
      | srem => cases undivided
      | _ => rfl
    simp only [run, binaryWord, silent]
  | _ => rfl

theorem runEntries_undivided (undivided : ∀ entry ∈ entries, entry.instruction.divides = false)
    (state : Activation H × Machine H) :
    runEntries watch calls entries state = runEntries other calls entries state := by
  induction entries generalizing state with
  | nil => rfl
  | cons entry rest ih =>
    have same : entry.run watch calls state = entry.run other calls state := by
      rw [Entry.run, Entry.run, run_undivided (undivided entry (mem_cons_self ..))]
    have continues := ih fun next member =>
      undivided next (mem_cons_of_mem _ member)
    simp only [runEntries, foldlM_cons] at continues ⊢
    rw [same]
    exact bind_congr continues

/-- Two watches that judge a division alike run it alike. -/
theorem run_division
    (alike : ∀ dividend divisor, left.evaluate activation = .ok (.int dividend) →
      right.evaluate activation = .ok (.int divisor) →
      watch name dividend divisor = other name dividend divisor) :
    (binary op left right).run watch calls name activation machine =
      (binary op left right).run other calls name activation machine := by
  rcases first : left.evaluate activation with fault | dividend
  · simp only [run, first]
    rfl
  rcases second : right.evaluate activation with fault | divisor
  · simp only [run, first, second]
    rfl
  rw [run_binary first second, run_binary first second]
  have same : watch.stops name op dividend divisor = other.stops name op dividend divisor := by
    cases op <;> cases dividend <;> cases divisor <;>
      first | rfl | exact alike _ _ first second
  rw [binaryWord, binaryWord, same]

theorem runEntries_cons_eq_ok (ran : runEntries watch calls (entry :: entries) state = .ok final) :
    ∃ value after, entry.instruction.run watch calls entry.name state.1 state.2 =
      .ok (value, after) ∧
      runEntries watch calls entries (state.1.set entry.number value, after) = .ok final := by
  rcases stepped : entry.instruction.run watch calls entry.name state.1 state.2 with
    fault | ⟨value, after⟩
  · cases (runEntries_cons_error stepped).symm.trans ran
  · exact ⟨value, after, rfl, (runEntries_cons_ok stepped).symm.trans ran⟩

/-- A comparison with a number ends only for an integer. -/
theorem int_of_eq_integer
    (ran : (binary .eq operand (.integer number)).run watch calls name activation
      machine = .ok (value, later)) :
    ∃ found, operand.evaluate activation = .ok (.int found) ∧ value = .bit (found == number) ∧
      later = machine := by
  rcases evaluated : operand.evaluate activation with fault | word
  · simp only [run, evaluated] at ran
    cases ran
  rw [run_binary evaluated rfl] at ran
  cases word with
  | int found =>
    cases ran
    exact ⟨found, rfl, rfl, rfl⟩
  | _ => cases ran

/-- An operand that is an integer behind a result of another kind was one before it. -/
theorem int_of_set {operand : Operand H}
    (runs : operand.evaluate (activation.set number value) = .ok (.int found))
    (other : ∀ held, value ≠ .int held := by nofun) :
    operand.evaluate activation = .ok (.int found) := by
  cases operand with
  | register index =>
    by_cases same : index = number
    · subst same
      rw [evaluate_register_set] at runs
      cases runs
      exact absurd rfl (other found)
    · simp only [Operand.evaluate, Activation.set, Function.update_of_ne same] at runs ⊢
      exact runs
  | _ => exact runs

/-- Behind its check, a division has a defined result. -/
theorem checkPiece_passed {number : Nat}
    (ran : runEntries watch calls (checkPiece number message left right) (activation, machine) =
      .ok (after, later)) (leftRuns : left.evaluate after = .ok (.int dividend))
    (rightRuns : right.evaluate after = .ok (.int divisor)) :
    ¬(divisor = 0 ∨ (dividend = minInt ∧ divisor = -1)) := by
  obtain ⟨zero, _, compared, rest⟩ := runEntries_cons_eq_ok ran
  obtain ⟨first, zeroRuns, rfl, rfl⟩ := int_of_eq_integer compared
  obtain ⟨least, _, compared, rest⟩ := runEntries_cons_eq_ok rest
  obtain ⟨second, leastRuns, rfl, rfl⟩ := int_of_eq_integer compared
  obtain ⟨negative, _, compared, -⟩ := runEntries_cons_eq_ok rest
  obtain ⟨third, negativeRuns, rfl, rfl⟩ := int_of_eq_integer compared
  rw [run_check zeroRuns leastRuns negativeRuns] at ran
  by_cases undefined : first = 0 ∨ (second = minInt ∧ third = -1)
  · rw [if_pos undefined] at ran
    cases ran
  rw [if_neg undefined] at ran
  cases ran
  -- none of the results of the check is an integer, so the operands are not among them
  have leftBefore := int_of_set (int_of_set (int_of_set (int_of_set (int_of_set leftRuns))))
  have rightBetween := int_of_set (int_of_set (int_of_set (int_of_set rightRuns)))
  have rightBefore := int_of_set (int_of_set rightBetween)
  cases zeroRuns.symm.trans rightBefore
  cases leastRuns.symm.trans leftBefore
  cases negativeRuns.symm.trans rightBetween
  exact undefined

/-- The divisor of a report is not zero. -/
theorem energyPiece_divisor
    (ran : runEntries watch calls (energyPiece number watts seconds) (activation, machine) =
      .ok (after, later))
    (divides : (Operand.register (number + 2) : Operand H).evaluate after = .ok (.int divisor)) :
    divisor ≠ 0 := by
  obtain ⟨product, between, -, rest⟩ := runEntries_cons_eq_ok ran
  obtain ⟨zero, between', compared, rest⟩ := runEntries_cons_eq_ok rest
  obtain ⟨energy, energyRuns, rfl, -⟩ := int_of_eq_integer compared
  obtain ⟨chosen, between'', selected, rest⟩ := runEntries_cons_eq_ok rest
  cases rest
  rw [evaluate_register_set] at divides
  cases divides
  have energyLater : (Operand.register number : Operand H).evaluate
      ((activation.set number product).set (number + 1) (.bit (energy == 0))) =
        .ok (.int energy) := by
    rwa [evaluate_set_of_below (register_below (Nat.lt_succ_self number))]
  have chooses : (select (.register (number + 1)) (.integer 1) (.register number)).run
      watch calls "" ((activation.set number product).set (number + 1) (.bit (energy == 0)))
        between' = .ok (.int (if energy = 0 then 1 else energy), between') := by
    refine run_select evaluate_register_set ?_
    by_cases nothing : energy = 0
    · rw [nothing]
      rfl
    · rwa [if_neg (by simpa using nothing), if_neg nothing]
  rw [chooses] at selected
  cases selected
  split
  · decide
  · assumption

theorem runEntries_append_eq
    (start : runEntries watch calls first state = runEntries other calls first state)
    (next : ∀ after later, runEntries other calls first state = .ok (after, later) →
      runEntries watch calls second (after, later) = runEntries other calls second (after, later)) :
    runEntries watch calls (first ++ second) state =
      runEntries other calls (first ++ second) state := by
  rw [runEntries_append, runEntries_append, start]
  cases ran : runEntries other calls first state with
  | error fault => rfl
  | ok middle => exact next middle.1 middle.2 ran

theorem runEntries_single
    (same : entry.instruction.run watch calls entry.name activation machine =
      entry.instruction.run other calls entry.name activation machine) :
    runEntries watch calls [entry] (activation, machine) =
      runEntries other calls [entry] (activation, machine) := by
  simp only [runEntries, foldlM_cons, foldlM_nil, Entry.run, same]

theorem checkPiece_undivided :
    ∀ entry ∈ checkPiece number message left right, entry.instruction.divides = false := by
  simp [checkPiece, divides, Operation.divides]

theorem energyPiece_undivided :
    ∀ entry ∈ energyPiece number watts seconds, entry.instruction.divides = false := by
  simp [energyPiece, divides, Operation.divides]

/-- Guarded code meets an undefined division only in a report. -/
theorem Guarded.run_eq (guarded : Guarded entries) (state : Activation H × Machine H) :
    runEntries undefinedDivision calls entries state =
      runEntries reportOverflow calls entries state := by
  induction guarded generalizing state with
  | nil => rfl
  | plain undivided => exact runEntries_single (run_undivided undivided)
  | division =>
    refine runEntries_append_eq (runEntries_undivided checkPiece_undivided _)
      fun after later passed => ?_
    refine runEntries_single (run_division fun first second firstRuns secondRuns => ?_)
    have defined := checkPiece_passed passed firstRuns secondRuns
    simp only [undefinedDivision, reportOverflow, defined, decide_eq_decide]
    exact ⟨False.elim, fun overflows => defined (.inr overflows.2)⟩
  | report =>
    refine runEntries_append_eq (runEntries_undivided energyPiece_undivided _)
      fun after later chosen => ?_
    refine runEntries_single (run_division fun first second firstRuns secondRuns => ?_)
    have divisor := energyPiece_divisor chosen secondRuns
    simp only [undefinedDivision, reportOverflow, divisor, decide_eq_decide]
    simp
  | append _ _ startHypothesis nextHypothesis =>
    exact runEntries_append_eq (startHypothesis state) fun _ _ _ => nextHypothesis _

/-- So does every run, since code is guarded. -/
theorem runFrom_eq (fuel : Nat) (body : Body H) (block : Nat) (state : Activation H × Machine H) :
    runFrom undefinedDivision bodies fuel body block state =
      runFrom reportOverflow bodies fuel body block state := by
  induction fuel generalizing body block state with
  | zero => rfl
  | succ fuel ih =>
    simp only [runFrom, (body.blocks block).code.guarded.run_eq, ih]

end Runs

theorem runMain_eq (final : Generator H) (fuel : Nat) (input : H.Input) :
    runMain undefinedDivision final fuel input = runMain reportOverflow final fuel input := by
  unfold runMain
  cases final.body "main" with
  | none => rfl
  | some body => exact runFrom_eq fuel body 0 _

/-- Each literal has its number, and no run of the program executes a division without
a defined result: a watch for such divisions changes no run. -/
structure IntegersTotal (conversion : Conversion) (limit : Nat) (literals : List IntegerText)
    (view : H.AiStatement → AiView) (libraries : List (Program H)) (program : Program H) :
    Prop where
  exactly : ∀ literal ∈ literals, Exact conversion limit literal
  interpreted : ∀ fuel input, undefinedDivisions.execute program fuel input =
    execute (.source H) program fuel input
  compiled : ∀ final, generate view libraries program = .ok () final → ∀ fuel input,
    runMain undefinedDivision final fuel input = runMain (fun _ _ _ => false) final fuel input

/-- No run executes a report of the least `int` of inferences with an energy of minus one. -/
structure ReportsDefined (view : H.AiStatement → AiView) (libraries : List (Program H))
    (program : Program H) : Prop where
  interpreted : ∀ fuel input, reportOverflows.execute program fuel input =
    execute (.source H) program fuel input
  compiled : ∀ final, generate view libraries program = .ok () final → ∀ fuel input,
    runMain reportOverflow final fuel input = runMain (fun _ _ _ => false) final fuel input

/-- The program `print 2147483648;`, as the scanner reads its literal. -/
def wideProgram (literal : IntValue) : Program Host.sample where
  globals := {}
  functions := []
  code := [.print [.literal literal]]
  undeclared := by simp [Stmt.isDeclaration]

def wideText : IntegerText where
  text := "2147483648".toList
  nonempty := by decide
  digits := by simp

/-- A report of `-2147483647 - 1` inferences at one watt over minus one second. -/
def reportProgram : Program Host.sample where
  globals := {}
  functions := []
  code := [.greenaiReport "\"w\"" (.binary .minus (.unaryMinus (.literal 2147483647)) (.literal 1))
    (.literal 1) (.unaryMinus (.literal 1))]
  undeclared := by decide

def reportModule : Generator Host.sample :=
  match generate sampleView [] reportProgram with
  | .ok _ generator => generator
  | _ => {}

theorem reportModule_generated : generate sampleView [] reportProgram = .ok () reportModule := by
  have finishes : (generate sampleView [] reportProgram).endsWith (fun _ => true) = true := by
    decide +kernel
  obtain ⟨_, final, generated, -⟩ := Outcome.eq_ok_of_endsWith finishes
  rw [reportModule, generated]

def fault? {α : Type} : Except Fault α → Option Fault
  | .error fault => some fault
  | .ok _ => none

end ShortHand.Codegen
