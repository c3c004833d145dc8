import ShortHand.Language.Watch

/-! Two watched runs side by side go the same way as long as their checks answer alike. -/

namespace ShortHand.Language

open ShortHand.Library List

variable {H : Host}

def Frame.Holds (good : RuntimeValue H → Prop) (frame : Frame H) : Prop :=
  (∀ name value, frame.scalars name = some value → good value) ∧
    ∀ name values, frame.arrays name = some values → ∀ value ∈ values, good value

/-- Every value of the state is good. -/
structure State.Holds (good : RuntimeValue H → Prop) (state : State H) : Prop where
  globals : state.globals.Holds good
  locals : ∀ frame ∈ state.locals, frame.Holds good
  returned : good state.returnValue

section Holds

variable {good : RuntimeValue H → Prop} {state after : State H} {frame : Frame H} {name : String}
  {value : RuntimeValue H}

theorem Frame.holds_empty : ({} : Frame H).Holds good := ⟨nofun, nofun⟩

theorem Frame.Holds.setScalar (holds : frame.Holds good) (fine : good value) :
    (frame.setScalar name value).Holds good := by
  refine ⟨fun other found stored => ?_, holds.2⟩
  by_cases here : other = name
  · subst here
    simp only [Frame.setScalar, Function.update_self] at stored
    cases stored
    exact fine
  · simp only [Frame.setScalar, Function.update_of_ne here] at stored
    exact holds.1 other found stored

theorem Frame.Holds.setArray (holds : frame.Holds good) (fine : ∀ value ∈ values, good value) :
    (frame.setArray name values).Holds good := by
  refine ⟨holds.1, fun other found stored => ?_⟩
  by_cases here : other = name
  · subst here
    simp only [Frame.setArray, Function.update_self] at stored
    cases stored
    exact fine
  · simp only [Frame.setArray, Function.update_of_ne here] at stored
    exact holds.2 other found stored

theorem State.find_mem (present : state.find field = some found) :
    ∃ frame ∈ state.globals :: state.locals, field frame = some found := by
  rw [State.find, findIn_eq_findSome?] at present
  rcases (Option.orElse_eq_some _ _ _).mp present with here | ⟨_, global⟩
  · obtain ⟨frame, member, stored⟩ := exists_of_findSome?_eq_some here
    exact ⟨frame, mem_cons_of_mem _ member, stored⟩
  · exact ⟨state.globals, mem_cons_self, global⟩

theorem State.Holds.each (holds : state.Holds good)
    (member : frame ∈ state.globals :: state.locals) : frame.Holds good := by
  rcases mem_cons.mp member with rfl | below
  · exact holds.globals
  · exact holds.locals frame below

theorem State.Holds.readScalar (holds : state.Holds good)
    (found : state.readScalar name = some value) : good value := by
  obtain ⟨frame, member, stored⟩ := State.find_mem found
  exact (holds.each member).1 name value stored

theorem elementAt_mem (found : elementAt values index = .ok value) : value ∈ values := by
  have element := elementAt_spec values index
  rw [found] at element
  exact mem_of_getElem? element

theorem State.Holds.readArray (holds : state.Holds good)
    (found : state.readArray name index = .ok value) : good value := by
  unfold State.readArray at found
  split at found
  · cases found
  · rename_i values stored
    obtain ⟨frame, member, present⟩ := State.find_mem stored
    exact (holds.each member).2 name values present value (elementAt_mem found)

theorem updateIn_holds {α : Type} {field : Frame H → Option α} {change : Frame H → Frame H}
    (holds : ∀ frame ∈ frames, frame.Holds good)
    (kept : ∀ frame, frame.Holds good → (change frame).Holds good)
    (updated : updateIn field change frames = some changed) :
    ∀ frame ∈ changed, frame.Holds good := by
  induction frames generalizing changed with
  | nil => cases updated
  | cons frame rest ih =>
    obtain ⟨first, others⟩ := forall_mem_cons.mp holds
    rw [updateIn] at updated
    split at updated
    · cases updated
      exact forall_mem_cons.mpr ⟨kept frame first, others⟩
    · obtain ⟨later, changed, rfl⟩ := Option.map_eq_some_iff.mp updated
      exact forall_mem_cons.mpr ⟨first, ih others changed⟩

theorem State.Holds.update {change : Frame H → Frame H}
    (holds : state.Holds good) (kept : ∀ frame, frame.Holds good → (change frame).Holds good) :
    (state.update field change).Holds good := by
  unfold State.update
  cases updated : updateIn field change state.locals with
  | none => exact ⟨kept _ holds.globals, holds.locals, holds.returned⟩
  | some locals => exact ⟨holds.globals, updateIn_holds holds.locals kept updated, holds.returned⟩

theorem State.Holds.writeScalar (holds : state.Holds good) (fine : good value)
    (written : state.writeScalar name value = some after) : after.Holds good := by
  unfold State.writeScalar at written
  split at written
  · cases written
  split at written
  · cases written
    exact holds.update fun frame held => held.setScalar fine
  · cases written

theorem State.Holds.writeArray (holds : state.Holds good) (fine : good value)
    (written : state.writeArray name index value = .ok after) : after.Holds good := by
  unfold State.writeArray at written
  split at written
  · cases written
  rename_i values stored
  obtain ⟨frame, member, present⟩ := State.find_mem stored
  have elements := (holds.each member).2 name values present
  split at written
  · cases written
  split at written
  · cases written
    refine holds.update fun frame held => held.setArray fun other inside => ?_
    rcases mem_or_eq_of_mem_set inside with old | rfl
    · exact elements other old
    · exact fine
  · cases written

theorem State.Holds.setInnermost (holds : state.Holds good) (fine : frame.Holds good) :
    (state.setInnermost frame).Holds good := by
  rcases state with ⟨globals, _ | ⟨first, rest⟩⟩
  · exact ⟨fine, holds.locals, holds.returned⟩
  · refine ⟨holds.globals, forall_mem_cons.mpr ⟨fine, ?_⟩, holds.returned⟩
    exact (forall_mem_cons.mp holds.locals).2

theorem State.Holds.innermost (holds : state.Holds good) : state.innermost.Holds good := by
  unfold State.innermost
  cases frames : state.locals with
  | nil => exact holds.globals
  | cons first rest => exact holds.locals first (by rw [frames]; exact mem_cons_self)

end Holds

/-- The values that the clauses make themselves. -/
structure MadeGood (good : RuntimeValue H → Prop) : Prop where
  default : ∀ type, good (defaultValue H type)
  int : ∀ value, good (intResult H value)
  bool : ∀ value, good (boolResult H value)
  float : ∀ value, good (floatResult value)
  string : ∀ text, good { defaultValue H .string with stringValue := text }

/-- A check against another: the same answer, or a stop that is disregarded. -/
def ChecksAlike (disregarded : Failure → Prop) (first second : Bool) : Prop :=
  first = second ∨ first = false ∧ disregarded (.hidden "")

/-- One state in both runs, with good values only. -/
def Both (good : RuntimeValue H → Prop) (state other : State H) : Prop :=
  state = other ∧ other.Holds good

section Steps

variable {disregarded : Failure → Prop} {good : RuntimeValue H → Prop} {state other : State H}
  {α : Type}

/-- One run against itself. -/
theorem agree_self {action : Run H α} {result : α → State H → Prop} (both : Both good state other)
    (ensures : (action other).Ensures result fun _ _ => True) :
    (action state).Agree disregarded (fun value state other => state = other ∧ result value other)
      Eq (action other) := by
  obtain ⟨rfl, _⟩ := both
  exact ensures.agree fun _ _ _ => .inl rfl

theorem readPlace_holds (holds : state.Holds good) :
    (readPlace place state).Ensures (fun found after => good found.2 ∧ after.Holds good)
      fun _ _ => True := by
  cases place with
  | scalar name =>
    simp only [readPlace]
    cases read : state.readScalar name with
    | none => trivial
    | some value => exact ⟨holds.readScalar read, holds⟩
  | element name index =>
    simp only [readPlace]
    cases read : state.readArray name index with
    | error fault => trivial
    | ok value => exact ⟨holds.readArray read, holds⟩

theorem store_holds {undeclared : String → Failure} {outside : String → ArrayFault → Failure}
    (holds : state.Holds good) (fine : good value) :
    (store undeclared outside value place state).Ensures (fun _ after => after.Holds good)
      fun _ _ => True := by
  cases place with
  | scalar name =>
    simp only [store]
    cases written : state.writeScalar name value with
    | none => trivial
    | some after => exact holds.writeScalar fine written
  | element name index =>
    simp only [store]
    cases written : state.writeArray name index value with
    | error fault => trivial
    | ok after => exact holds.writeArray fine written

theorem scanValue_holds (holds : state.Holds good) :
    (scanValue current state).Ensures (fun _ after => after.Holds good) fun _ _ => True := by
  have consumed : ∀ input, ({ state with input } : State H).Holds good :=
    fun input => { holds with }
  unfold scanValue
  split
  · cases H.readFloat state.input with
    | none => trivial
    | some scanned => exact consumed _
  · cases H.readInt state.input with
    | none => trivial
    | some scanned => exact consumed _

theorem each_holds {action : α → Run H Unit} (holds : state.Holds good)
    (single : ∀ item state, State.Holds good state →
      (action item state).Ensures (fun _ after => after.Holds good) fun _ _ => True) :
    (Exec.each action items state).Ensures (fun _ after => after.Holds good) fun _ _ => True := by
  induction items generalizing state with
  | nil => exact holds
  | cons item rest ih => exact (single item state holds).bind fun _ _ held => ih held

theorem bindArguments_holds {parameters : List (String × ShortType)} (holds : frame.Holds good)
    (fine : ∀ value ∈ arguments, good value)
    (binds : bindArguments parameters arguments frame = some bound) : bound.Holds good := by
  induction parameters generalizing arguments frame with
  | nil =>
    cases arguments with
    | nil =>
      cases binds
      exact holds
    | cons argument rest => cases binds
  | cons parameter parameters ih =>
    cases arguments with
    | nil =>
      cases binds
      exact holds
    | cons argument arguments =>
      obtain ⟨one, others⟩ := forall_mem_cons.mp fine
      rw [bindArguments] at binds
      split at binds
      · exact ih (holds.setScalar one) others binds
      · cases binds

variable (made : MadeGood good)
include made

theorem applyBinary_good (applied : applyBinary op left right = .ok value) : good value := by
  unfold applyBinary at applied
  split at applied
  · unfold floatBinary at applied
    split at applied
    case h_4 => 
      split at applied <;> cases applied
      exact made.float _
    all_goals
      cases applied
      first | exact made.float _ | exact made.bool _ | exact made.default _
  · cases applied
    unfold stringBinary
    split
    · exact made.bool _
    · exact made.bool _
    · exact made.default _
  · unfold intBinary at applied
    split at applied
    case h_4 | h_5 =>
      split at applied <;> cases applied
      exact made.int _
    all_goals
      cases applied
      first | exact made.int _ | exact made.bool _

theorem initializeDeclarations_holds (holds : state.Holds good) :
    (initializeDeclarations block state).Ensures (fun _ after => after.Holds good)
      fun _ _ => True := by
  refine (each_holds holds fun entry state held => ?_).bind fun _ _ held =>
    each_holds held fun entry state there => ?_
  · simp only [declareScalar, Exec.get_bind]
    split
    · trivial
    · exact held.setInnermost (held.innermost.setScalar (made.default _))
  · simp only [declareArray, Exec.get_bind]
    split
    · trivial
    · refine there.setInnermost (there.innermost.setArray fun value member => ?_)
      rw [eq_of_mem_replicate member]
      exact made.default _

end Steps

/-- Two runs that go the same way from every good state. -/
def holding (disregarded : Failure → Prop) {good : RuntimeValue H → Prop} (made : MadeGood good) :
    Simulation H where
  World := Unit
  Related _ := Both good
  Lost _ := Eq
  disregarded := disregarded
  base _ := {}
  inner _ := ()
  expression _ _ := True
  Valued _ _ value := good value
  target _ _ := True
  counter _ _ := True
  Found _ _ found := good found.2
  Fits _ _ value := good value
  Admits _ _ := True
  Declares _ _ _ := True
  Inside _ _ _ _ := True
  base_inner := rfl
  parts _ := by
    unfold Stmt.Parts
    split <;> simp
  index _ := trivial
  counts _ := trivial
  depth both := by rw [both.1]
  transfers both := by rw [both.1]
  emits text both := ⟨by rw [both.1], both.2.globals, both.2.locals, both.2.returned⟩
  performs statement both := ⟨by rw [both.1], both.2.globals, both.2.locals, both.2.returned⟩
  jumps both := ⟨by rw [both.1], both.2.globals, both.2.locals, both.2.returned⟩
  returns _ fine both := ⟨by rw [both.1], both.2.globals, both.2.locals, fine⟩
  constant {_ literal _} _ same := by
    cases literal <;> cases same
    · exact made.int _
    · exact made.bool _
    · exact made.float _
    · exact made.string _
  names _ := trivial
  refers _ fine := fine
  operands _ := ⟨trivial, trivial⟩
  applies _ _ _ both := by
    split
    · exact .inl both.1
    · rename_i applied
      exact applyBinary_good made applied
  passes _ _ _ := trivial
  assigns _ fine _ := fine
  advances value _ _ := made.int value
  reads _ _ both := (agree_self both (readPlace_holds both.2)).mono
    (fun _ _ _ kept => ⟨kept.2.1, kept.1, kept.2.2⟩) fun _ _ => id
  stores _ fine both := agree_self both (store_holds both.2 fine)
  declares _ both := (agree_self both (initializeDeclarations_holds made both.2)).mono
    (fun _ _ _ kept => ⟨(), trivial, kept⟩) fun _ _ => id
  keeps _ := trivial
  budget _ both := .inl both.1
  topLevel _ both _ := .inl both.1
  push both := ⟨by rw [both.1], both.2.globals,
    forall_mem_cons.mpr ⟨Frame.holds_empty, both.2.locals⟩, both.2.returned⟩
  pop _ _ both := ⟨by rw [both.1], both.2.globals,
    fun frame member => both.2.locals frame (mem_of_mem_tail member), both.2.returned⟩
  lostPop same := by rw [same]
  lostInside _ same := same
  admitted _ _ := trivial
  next _ _ _ := trivial
  lands _ _ _ _ := trivial
  escapes _ _ _ _ both := .inl both.1

section Calls

variable {disregarded : Failure → Prop} {good : RuntimeValue H → Prop} {made : MadeGood good}
  {first second : Visitor H} {state other : State H}
  (visits : (holding disregarded made).Visits {} first second)
include visits

theorem runBody_holding (both : Both good state other) :
    (runBody first function state).Agree disregarded
      (fun value state other => good value ∧ Both good state other) Eq
      (runBody second function other) := by
  have begun : (holding disregarded made).Inside () function.body 0 () := trivial
  refine Outcome.Agree.bind (visits.blockFrom rfl begun both) ?_
  rintro exit state other ⟨_, _, _, rfl, held⟩
  cases exit with
  | breakLoop | continueLoop => exact .failed rfl
  | returned => exact .ok ⟨held.returned, rfl, held⟩
  | normal =>
    split
    · exact .ok ⟨made.default _, rfl, held⟩
    · exact .failed rfl

theorem invokeFunction_holding (fine : ∀ value ∈ arguments, good value)
    (both : Both good state other) :
    (holding disregarded made).Agrees () good
      (invokeFunction (.source H) program first name arguments state)
      (invokeFunction (.source H) program second name arguments other) := by
  obtain ⟨rfl, holds⟩ := both
  unfold invokeFunction
  cases program.findFunction name with
  | none => exact .failed rfl
  | some function =>
    dsimp only
    split
    · exact .failed rfl
    split
    · exact .failed rfl
    simp only [Exec.get_bind]
    split
    · exact .failed rfl
    cases bound : bindArguments function.parameters.typedScalars arguments {} with
    | none => exact .failed rfl
    | some frame =>
      split
      · exact .failed rfl
      have entered : Both good (enterCall (.source H) function frame state)
          (enterCall (.source H) function frame state) :=
        ⟨rfl, holds.globals, forall_mem_cons.mpr
          ⟨bindArguments_holds Frame.holds_empty fine bound, holds.locals⟩, made.default _⟩
      refine Outcome.Agree.bracket (runBody_holding visits entered) ?_ ?_
      · rintro value after _ ⟨result, rfl, held⟩
        refine ⟨result, rfl, held.globals, fun frame member => ?_, holds.returned⟩
        exact held.locals frame (mem_of_mem_tail member)
      · rintro after _ rfl
        rfl

end Calls

/-- Two watches whose checks answer alike for good values, and of which the second lets
only good values through. -/
structure WatchesAlike (disregarded : Failure → Prop) (good : RuntimeValue H → Prop)
    (first second : Watch H) : Prop where
  state {state : State H} (holds : state.Holds good) :
    ChecksAlike disregarded (first.state state) (second.state state)
  block {base : Declarations} {statements : List (Stmt H)} {position : Nat} {state : State H}
      (holds : state.Holds good) :
    ChecksAlike disregarded (first.block base statements position state)
      (second.block base statements position state)
  value {value : RuntimeValue H} (fine : good value) :
    ChecksAlike disregarded (first.value value) (second.value value)
  negated {value : RuntimeValue H} (fine : good value) :
    ChecksAlike disregarded (first.negated value) (second.negated value)
  scanned (value : RuntimeValue H) :
    ChecksAlike disregarded (first.scanned value) (second.scanned value)
  negates {value : RuntimeValue H} (fine : good value) (passed : second.negated value = true) :
    good (applyMinus value)
  scans {value : RuntimeValue H} (passed : second.scanned value = true) : good value

section Watches

variable {disregarded : Failure → Prop} {good : RuntimeValue H → Prop} {first second : Watch H}
  {program : Program H} {made : MadeGood good}
  (watches : WatchesAlike disregarded good first second)

/-- A check in front of two runs. -/
theorem check_holding {α : Type} {result : α → State H → State H → Prop}
    {later follow : Unit → Run H α} (checks : ChecksAlike disregarded passes other)
    (next : other = true → (later () state).Agree disregarded result Eq (follow () state)) :
    ((check passes >>= later) state).Agree disregarded result Eq
      ((check other >>= follow) state) := by
  obtain rfl | ⟨rfl, stop⟩ := checks
  · cases passes with
    | false => exact .failed rfl
    | true => exact next rfl
  · exact .stopped stop

include watches

/-- The check of the state in front of two runs. -/
theorem checkState_holding {α : Type} {result : α → State H → State H → Prop}
    {later follow : Run H α} (both : Both good state other)
    (next : (later state).Agree disregarded result Eq (follow other)) :
    ((do first.checkState; later) state).Agree disregarded result Eq
      ((do second.checkState; follow) other) := by
  obtain ⟨rfl, holds⟩ := both
  exact check_holding (watches.state holds) fun _ => next

variable {visitor beside : Visitor H} {state other : State H}
  (visits : (holding disregarded made).Visits {} visitor beside) (both : Both good state other)
include visits both

theorem watch_visitRead_holding :
    (holding disregarded made).Agrees () (fun _ => True) (first.visitRead visitor target state)
      (second.visitRead beside target other) := by
  have named : (holding disregarded made).target () target := trivial
  refine (Simulation.visitVariable_agrees visits both named).bind fun found _ _ _ kept => ?_
  refine Outcome.Agree.bind (agree_self kept (scanValue_holds kept.2)) ?_
  rintro value scanned _ ⟨rfl, there⟩
  refine check_holding (watches.scanned value) fun passed => ?_
  refine Outcome.Agree.bind (agree_self ⟨rfl, there⟩ (store_holds there (watches.scans passed))) ?_
  intro _ stored _ ready
  have last : (holding disregarded made).Agrees () (fun _ => True)
      ((pure () : Run H Unit) stored) ((pure () : Run H Unit) _) := .ok ⟨trivial, ready⟩
  have ran := checkState_holding watches ready last
  rwa [Exec.bind_pure_self, Exec.bind_pure_self] at ran

theorem watch_visitStatement_holding :
    (first.visitStatement visitor statement state).Agree disregarded
      (fun flow state other => (∃ next, (holding disregarded made).Declares statement () next ∧
        Both good state other) ∧ flow.From statement) Eq
      (second.visitStatement beside statement other) := by
  by_cases reads : ∃ targets, statement = .read targets
  · obtain ⟨targets, rfl⟩ := reads
    have start : (holding disregarded made).Related () state other := both
    refine Outcome.Agree.bind (Simulation.agrees_each start fun target _ _ _ kept =>
      watch_visitRead_holding watches visits kept) ?_
    exact fun _ _ _ kept => .ok ⟨⟨(), trivial, kept.2⟩, trivial⟩
  · have plain : ∀ targets, statement ≠ .read targets := fun targets same => reads ⟨targets, same⟩
    rw [Watch.visitStatement_eq plain, Watch.visitStatement_eq plain]
    have admitted : (holding disregarded made).Admits () statement := trivial
    exact Simulation.visitStatement_declares visits both admitted
      fun targets same => absurd same (plain targets)

theorem watch_visitExpression_holding :
    (holding disregarded made).Agrees () good
      (first.visitExpression program visitor expression state)
      (second.visitExpression program beside expression other) := by
  by_cases minus : ∃ operand, expression = .unaryMinus operand
  · obtain ⟨operand, rfl⟩ := minus
    have admitted : (holding disregarded made).expression () operand := trivial
    refine (visits.evaluate admitted both).bind ?_
    rintro value after _ fine ⟨rfl, held⟩
    refine check_holding (watches.negated fine) fun passed => ?_
    exact .ok ⟨watches.negates fine passed, rfl, held⟩
  · have plain : ∀ operand, expression ≠ .unaryMinus operand :=
      fun operand same => minus ⟨operand, same⟩
    rw [Watch.visitExpression_eq plain, Watch.visitExpression_eq plain]
    have admitted : (holding disregarded made).expression () expression := trivial
    refine Simulation.visitExpression_agrees visits both admitted
      (fun same => absurd same (plain _)) fun called fine kept => invokeFunction_holding visits ?_ kept
    clear called
    induction fine with
    | nil => nofun
    | cons valued _ ih => exact forall_mem_cons.mpr ⟨valued, ih⟩

omit visits both in
theorem watch_interpreter_visits (fuel : Nat) (base : Declarations) :
    (holding disregarded made).Visits {} (first.interpreter program fuel base)
      (second.interpreter program fuel base) := by
  induction fuel generalizing base with
  | zero => exact Simulation.visits_exhausted
  | succ fuel ih =>
    have plain := ih {}
    constructor
    · intro _ expression state other _ both
      have body := ih (Watch.calledWith program expression)
      have visitors : (holding disregarded made).Visits {}
          { first.interpreter program fuel {} with blockFrom :=
              (first.interpreter program fuel (Watch.calledWith program expression)).blockFrom }
          { second.interpreter program fuel {} with blockFrom :=
              (second.interpreter program fuel (Watch.calledWith program expression)).blockFrom } :=
        { plain with blockFrom := body.blockFrom }
      refine checkState_holding watches both ?_
      refine (watch_visitExpression_holding watches visitors both).bind ?_
      rintro value after _ fine ⟨rfl, held⟩
      exact check_holding (watches.value fine) fun _ => .ok ⟨fine, rfl, held⟩
    · intro _ statement state other _ both
      exact checkState_holding watches both (watch_visitStatement_holding watches plain both)
    · rintro _ statements position _ state other based inside both
      refine checkState_holding watches both ?_
      obtain ⟨rfl, held⟩ := both
      exact check_holding (watches.block held) fun _ =>
        Simulation.visitBlockFrom_agrees (ih base) based inside ⟨rfl, held⟩
    · intro _ condition body state other admitted inside both
      exact checkState_holding watches both
        (Simulation.visitWhileLoop_agrees plain both admitted inside)
    · intro _ counter step limit body state other counted stepped limited inside both
      exact checkState_holding watches both
        (Simulation.visitForLoop_agrees plain both counted stepped limited inside)

omit visits both in
/-- Two watched runs of a program. -/
theorem watch_execute_holding (made : MadeGood good) (program : Program H) (fuel : Nat)
    (input : H.Input) :
    (first.execute program fuel input).Agree disregarded (fun _ => Eq) Eq
      (second.execute program fuel input) := by
  have begun : Both good (initialState H input) (initialState H input) :=
    ⟨rfl, Frame.holds_empty, nofun, made.default .int⟩
  refine Outcome.Agree.bind
    (agree_self begun (initializeDeclarations_holds made begun.2)) fun _ _ _ kept => ?_
  have visits : (holding disregarded made).Visits {}
      (first.interpreter program fuel program.globals)
      (second.interpreter program fuel program.globals) :=
    watch_interpreter_visits watches fuel program.globals
  have inside : (holding disregarded made).Inside () program.code 0 () := trivial
  refine Outcome.Agree.bind (visits.blockFrom rfl inside kept) ?_
  rintro exit last _ ⟨_, _, _, rfl, held⟩
  cases exit with
  | normal => exact .ok rfl
  | returned | breakLoop | continueLoop => exact .failed rfl

end Watches

end ShortHand.Language
