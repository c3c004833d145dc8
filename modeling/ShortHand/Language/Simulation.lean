import Mathlib.Data.List.Forall2
import ShortHand.Language.Scoping

/-! Two runs of the interpreter side by side: if the steps that touch a state keep the two
related, the clauses do as well. -/

namespace ShortHand.Language

open ShortHand.Library

variable {H : Host}

def Place.reference : Place → Reference
  | .scalar name => ⟨name, false⟩
  | .element name _ => ⟨name, true⟩

def Variable.reference : Variable H → Reference
  | .simple name => ⟨name, false⟩
  | .array name _ => ⟨name, true⟩

/-- The read that ends the visit of a variable. -/
def readPlace (place : Place) : Run H (Place × RuntimeValue H) := fun state =>
  match place with
  | .scalar name =>
    match state.readScalar name with
    | none => .failed (.undeclaredScalar name) state
    | some value => .ok (place, value) state
  | .element name index =>
    match state.readArray name index with
    | .error fault => .failed (.arrayRead name fault) state
    | .ok value => .ok (place, value) state

/-- The statements that write to a place, by the errors of the write. -/
inductive Storing where
  | assigned
  | counted
  | scanned

def Storing.undeclared : Storing → String → Failure
  | .assigned => .undeclaredTarget
  | .counted => fun _ => .undeclaredCounter
  | .scanned => fun _ => .undeclaredRead

def Storing.outside : Storing → String → ArrayFault → Failure
  | .assigned => .arrayWrite
  | .counted => fun _ => .counterBounds
  | .scanned => fun _ => .readBounds

/-- The parts of a statement, each with its condition. -/
def Stmt.Parts (expression : Expr H → Prop) (target counter : Variable H → Prop)
    (block : List (Stmt H) → Prop) : Stmt H → Prop
  | .expression value | .goto _ (some value) | .returnFrom (some value) => expression value
  | .assignment place value => expression value ∧ target place
  | .block statements => block statements
  | .ifThen condition ifBlock => expression condition ∧ block ifBlock
  | .ifElse condition ifBlock elseBlock => expression condition ∧ block ifBlock ∧ block elseBlock
  | .forLoop count start step limit body =>
    expression start ∧ counter count ∧ expression step ∧ expression limit ∧ block body
  | .whileLoop condition body => expression condition ∧ block body
  | .read targets => ∀ place ∈ targets, target place
  | .print items => ∀ item ∈ items, expression item
  | .greenaiReport _ inferences watts seconds =>
    expression inferences ∧ expression watts ∧ expression seconds
  | _ => True

/-- The value of a literal. -/
def Expr.constant? : Expr H → Option (RuntimeValue H)
  | .literal value => some (intResult H value)
  | .boolLiteral value => some (boolResult H value)
  | .floatLiteral value => some (floatResult value)
  | .stringLiteral text => some { defaultValue H .string with stringValue := unquoteShortString text }
  | _ => none

structure Simulation (H : Host) where
  World : Type
  /-- The states between two steps. -/
  Related : World → State H → State H → Prop
  /-- The states of a failure that both runs have. -/
  Lost : World → State H → State H → Prop
  /-- The failures with which the first run may stop on its own. -/
  disregarded : Failure → Prop
  /-- The names that the frame of a block began with. -/
  base : World → Declarations
  /-- The world of a braced block. -/
  inner : World → World
  expression : World → Expr H → Prop
  Valued : World → Expr H → RuntimeValue H → Prop
  target : World → Variable H → Prop
  counter : World → Variable H → Prop
  Found : World → Variable H → Place × RuntimeValue H → Prop
  /-- The values that may be written to a place. -/
  Fits : World → Place → RuntimeValue H → Prop
  Admits : World → Stmt H → Prop
  /-- The worlds in front of a statement and after it. -/
  Declares : Stmt H → World → World → Prop
  /-- The world of a block, and the one at a position of it. -/
  Inside : World → List (Stmt H) → Nat → World → Prop
  base_inner : base (inner world) = {}
  parts : Admits world statement → statement.Parts (expression world) (target world)
    (counter world) fun body => Inside (inner world) body 0 (inner world)
  index : target world (.array name position) → expression world position
  counts : counter world count → target world count
  depth : Related world state other → state.callDepth = other.callDepth
  transfers : Related world state other → state.gotoTransfers = other.gotoTransfers
  emits (text : String) : Related world state other →
    Related world { state with output := state.output ++ [text] }
      { other with output := other.output ++ [text] }
  performs (statement : H.AiStatement) : Related world state other → Related world
    { state with
      ai := (H.perform statement state.ai).1
      output := state.output ++ (H.perform statement state.ai).2 }
    { other with
      ai := (H.perform statement other.ai).1
      output := other.output ++ (H.perform statement other.ai).2 }
  jumps : Related world state other → Related world state.countTransfer other.countTransfer
  returns : Admits world (.returnFrom (some result)) → Valued world result value →
    Related world state other →
    Related world { state with returnValue := value } { other with returnValue := value }
  constant : expression world literal → literal.constant? = some value → Valued world literal value
  names : expression world (.variableRef place) → target world place
  refers : expression world (.variableRef place) → Found world place found →
    Valued world (.variableRef place) found.2
  operands : expression world (.binary op left right) →
    expression world left ∧ expression world right
  applies : expression world (.binary op left right) → Valued world left leftValue →
    Valued world right rightValue → Related world state other →
    match applyBinary op leftValue rightValue with
    | .error failure => Lost world state other ∨ disregarded failure
    | .ok value => Valued world (.binary op left right) value
  passes : expression world (.call name arguments) →
    ∀ argument ∈ arguments, expression world argument
  assigns : Admits world (.assignment place value) → Valued world value assigned →
    Found world place found → Fits world found.1 assigned
  advances (value : IntValue) : counter world count → Found world count found →
    Fits world found.1 (intResult H value)
  reads : target world named → place.reference = named.reference → Related world state other →
    (readPlace place state).Agree disregarded
      (fun found state other => Found world named found ∧ Related world state other)
      (Lost world) (readPlace place other)
  stores (storing : Storing) : Fits world place value → Related world state other →
    (store storing.undeclared storing.outside value place state).Agree disregarded
      (fun _ => Related world) (Lost world)
      (store storing.undeclared storing.outside value place other)
  declares : Admits world (.declaration block) → Related world state other →
    (initializeDeclarations block state).Agree disregarded
      (fun _ state other => ∃ next, Declares (.declaration block) world next ∧
        Related next state other) (Lost world) (initializeDeclarations block other)
  keeps : statement.isDeclaration = false → Declares statement world world
  /-- The two budgets of a run. -/
  budget {failure : Failure} : failure = .stepZero ∨ failure = .gotoBudget →
    Related world state other → Lost world state other ∨ disregarded failure
  topLevel : Admits world (.returnFrom value) → Related world state other → other.callDepth = 0 →
    Lost world state other ∨ disregarded .topLevelReturn
  push : Related world state other → Related (inner world) (state.push {}) (other.push {})
  pop : Related world before earlier → Inside (inner world) body position last →
    Related last state other → Related world state.pop other.pop
  lostPop : Lost (inner world) state other → Lost world state.pop other.pop
  lostInside : Inside world body position here → Lost here state other → Lost world state other
  admitted : Inside world body position here → body[position]? = some statement →
    Admits here statement
  next : Inside world body position here → body[position]? = some statement →
    Declares statement here after → Inside world body (position + 1) after
  lands : Inside world body position here → body[position]? = some (.goto label condition) →
    Declares (.goto label condition) here after → labelIndex label body = some landing →
    Inside world body (landing + 1) after
  escapes : Inside world body position here → body[position]? = some (.goto label condition) →
    Declares (.goto label condition) here after → labelIndex label body = none →
    Related after state other → Lost world state other ∨ disregarded (.gotoEscaped label)

variable {α β : Type}

namespace Simulation

/-- Two outcomes with one value, in related states. -/
abbrev Agrees (sim : Simulation H) (world : sim.World) (valued : α → Prop)
    (first second : Outcome (State H) Failure α) : Prop :=
  first.Agree sim.disregarded (fun value state other => valued value ∧ sim.Related world state other)
    (sim.Lost world) second

/-- Two visitors that agree in every world, on blocks of the frames that began with `base`. -/
structure Visits (sim : Simulation H) (base : Declarations) (first second : Visitor H) : Prop where
  evaluate (admitted : sim.expression world code) (related : sim.Related world state other) :
    sim.Agrees world (sim.Valued world code) (first.evaluate code state)
      (second.evaluate code other)
  statement (admitted : sim.Admits world code) (related : sim.Related world state other) :
    (first.statement code state).Agree sim.disregarded
      (fun flow state other => (∃ next, sim.Declares code world next ∧
        sim.Related next state other) ∧ flow.From code)
      (sim.Lost world) (second.statement code other)
  blockFrom (based : sim.base world = base) (inside : sim.Inside world body position here)
      (related : sim.Related here state other) :
    (first.blockFrom body position state).Agree sim.disregarded
      (fun _ state other => ∃ position last, sim.Inside world body position last ∧
        sim.Related last state other) (sim.Lost world) (second.blockFrom body position other)
  whileLoop (admitted : sim.expression world condition)
      (inside : sim.Inside (sim.inner world) body 0 (sim.inner world))
      (related : sim.Related world state other) :
    sim.Agrees world (fun _ => True) (first.whileLoop condition body state)
      (second.whileLoop condition body other)
  forLoop (counted : sim.counter world count) (stepped : sim.expression world step)
      (limited : sim.expression world limit)
      (inside : sim.Inside (sim.inner world) body 0 (sim.inner world))
      (related : sim.Related world state other) :
    sim.Agrees world (fun _ => True) (first.forLoop count step limit body state)
      (second.forLoop count step limit body other)

variable {sim : Simulation H} {world : sim.World} {state other : State H}

theorem visits_exhausted {base : Declarations} :
    sim.Visits base (interpreter first program 0) (interpreter second program 0) :=
  ⟨fun _ _ => .exhausted, fun _ _ => .exhausted, fun _ _ _ => .exhausted,
    fun _ _ _ => .exhausted, fun _ _ _ _ _ => .exhausted⟩

theorem Agrees.bind {later follow : α → Run H β} {valued : α → Prop}
    {result : β → State H → State H → Prop}
    (start : sim.Agrees world valued (first state) (second other))
    (next : ∀ value state other, valued value → sim.Related world state other →
      (later value state).Agree sim.disregarded result (sim.Lost world) (follow value other)) :
    ((first >>= later) state).Agree sim.disregarded result (sim.Lost world)
      ((second >>= follow) other) :=
  Outcome.Agree.bind start fun value state other holds => next value state other holds.1 holds.2

theorem agrees_pure {valued : α → Prop} (held : valued value)
    (related : sim.Related world state other) :
    sim.Agrees world valued ((pure value : Run H α) state) ((pure value : Run H α) other) :=
  .ok ⟨held, related⟩

theorem agree_fail {failure : Failure} {result : α → State H → State H → Prop}
    (fails : sim.Lost world state other ∨ sim.disregarded failure) :
    ((Exec.fail failure : Run H α) state).Agree sim.disregarded result (sim.Lost world)
      ((Exec.fail failure : Run H α) other) :=
  fails.elim .failed .stopped

theorem agrees_each {first second : α → Run H Unit} (related : sim.Related world state other)
    (single : ∀ item ∈ items, ∀ state other, sim.Related world state other →
      sim.Agrees world (fun _ => True) (first item state) (second item other)) :
    sim.Agrees world (fun _ => True) (Exec.each first items state) (Exec.each second items other) := by
  induction items generalizing state other with
  | nil => exact agrees_pure trivial related
  | cons item rest ih =>
    rw [List.forall_mem_cons] at single
    exact Agrees.bind (single.1 state other related) fun _ _ _ _ kept => ih kept single.2

theorem agrees_emit (related : sim.Related world state other) :
    sim.Agrees world (fun _ => True) (emit text state) (emit text other) :=
  .ok ⟨trivial, sim.emits text related⟩

theorem agrees_store (storing : Storing) (fits : sim.Fits world place value)
    (related : sim.Related world state other) :
    sim.Agrees world (fun _ => True)
      (store storing.undeclared storing.outside value place state)
      (store storing.undeclared storing.outside value place other) :=
  (sim.stores storing fits related).mono (fun _ _ _ kept => ⟨trivial, kept⟩) fun _ _ => id

theorem agrees_ofExit (ran : sim.Agrees world (fun _ => True) (first state) (second other)) :
    sim.Agrees world (fun _ => True) (Flow.ofExit first state) (Flow.ofExit second other) :=
  ran.bind fun _ _ _ _ kept => agrees_pure trivial kept

theorem agrees_after (ran : sim.Agrees world (fun _ => True) (first state) (second other)) :
    sim.Agrees world (fun _ => True) (Flow.after first state) (Flow.after second other) :=
  ran.bind fun _ _ _ _ kept => agrees_pure trivial kept

theorem agrees_afterPass (related : sim.Related world state other)
    (ran : sim.Agrees world (fun _ => True) (first state) (second other)) :
    sim.Agrees world (fun _ => True) (afterPass first exit state) (afterPass second exit other) := by
  cases exit with
  | normal | continueLoop => exact ran
  | returned | breakLoop => exact agrees_pure trivial related

section Clauses

variable {first second : Visitor H} {base : Declarations} (visits : sim.Visits base first second)
  (related : sim.Related world state other)
include visits related

omit related visits in
theorem visitVariable_simple (visitor : Visitor H) (name : String) :
    visitVariable visitor (.simple name) = readPlace (.scalar name) := by
  funext state
  simp only [visitVariable, Exec.get_bind, readPlace]
  cases state.readScalar name <;> rfl

omit related visits in
theorem visitVariable_array (visitor : Visitor H) (name : String) (index : Expr H) :
    visitVariable visitor (.array name index) =
      visitor.evaluate index >>= fun position => readPlace (.element name position.intValue) := by
  rw [visitVariable]
  congr 1
  funext position state
  simp only [Exec.get_bind, readPlace]
  cases state.readArray name position.intValue <;> rfl

theorem visitVariable_agrees (admitted : sim.target world place) :
    sim.Agrees world (sim.Found world place) (visitVariable first place state)
      (visitVariable second place other) := by
  cases place with
  | simple name =>
    rw [visitVariable_simple, visitVariable_simple]
    exact sim.reads admitted rfl related
  | array name index =>
    rw [visitVariable_array, visitVariable_array]
    exact (visits.evaluate (sim.index admitted) related).bind fun position _ _ _ kept =>
      sim.reads admitted rfl kept

theorem collect_agrees (admitted : ∀ argument ∈ arguments, sim.expression world argument) :
    sim.Agrees world (List.Forall₂ (sim.Valued world) arguments)
      (Exec.collect first.evaluate arguments state) (Exec.collect second.evaluate arguments other) := by
  induction arguments generalizing state other with
  | nil => exact agrees_pure .nil related
  | cons argument rest ih =>
    rw [List.forall_mem_cons] at admitted
    refine (visits.evaluate admitted.1 related).bind fun value _ _ valued kept => ?_
    exact (ih kept admitted.2).bind fun values _ _ others last =>
      agrees_pure (.cons valued others) last

/-- Every expression, with what is known of a minus and of calls. -/
theorem visitExpression_agrees {linkage beside : Linkage H} {expression : Expr H}
    (admitted : sim.expression world expression)
    (minus : ∀ {operand}, expression = .unaryMinus operand →
      sim.Agrees world (sim.Valued world expression)
        (visitExpression linkage program first expression state)
        (visitExpression beside program second expression other))
    (invoke : ∀ {name arguments values state other}, expression = .call name arguments →
      List.Forall₂ (sim.Valued world) arguments values → sim.Related world state other →
      sim.Agrees world (sim.Valued world expression)
        (invokeFunction linkage program first name values state)
        (invokeFunction beside program second name values other)) :
    sim.Agrees world (sim.Valued world expression)
      (visitExpression linkage program first expression state)
      (visitExpression beside program second expression other) := by
  cases expression with
  | literal | boolLiteral | floatLiteral | stringLiteral =>
    exact agrees_pure (sim.constant admitted rfl) related
  | variableRef place =>
    exact (visitVariable_agrees visits related (sim.names admitted)).bind fun found _ _ holds kept =>
      agrees_pure (sim.refers admitted holds) kept
  | unaryMinus operand => exact minus rfl
  | binary op left right =>
    obtain ⟨leftAdmitted, rightAdmitted⟩ := sim.operands admitted
    refine (visits.evaluate leftAdmitted related).bind fun leftValue _ _ leftValued kept => ?_
    refine (visits.evaluate rightAdmitted kept).bind fun rightValue _ _ rightValued last => ?_
    have applied := sim.applies admitted leftValued rightValued last
    cases outcome : applyBinary op leftValue rightValue with
    | error failure =>
      rw [outcome] at applied
      exact agree_fail applied
    | ok value =>
      rw [outcome] at applied
      exact agrees_pure applied last
  | call name arguments =>
    exact (collect_agrees visits related (sim.passes admitted)).bind
      fun values _ _ valued kept => invoke rfl valued kept

theorem printItem_agrees (admitted : sim.expression world item) :
    sim.Agrees world (fun _ => True) (printItem first item state) (printItem second item other) :=
  (visits.evaluate admitted related).bind fun _ _ _ _ kept => agrees_emit kept

theorem visitPrint_agrees (admitted : ∀ item ∈ items, sim.expression world item) :
    sim.Agrees world (fun _ => True) (visitPrint first items state) (visitPrint second items other) := by
  cases items with
  | nil => exact agrees_emit related
  | cons item rest =>
    rw [List.forall_mem_cons] at admitted
    refine (printItem_agrees visits related admitted.1).bind fun _ _ _ _ kept => ?_
    refine Agrees.bind (agrees_each kept fun later member _ _ there => ?_) fun _ _ _ _ last =>
      agrees_emit last
    exact (agrees_emit there).bind fun _ _ _ _ here =>
      printItem_agrees visits here (admitted.2 later member)

/-- A plain read stores a value that fits the target as the old value did. -/
theorem visitRead_agrees (admitted : sim.target world place)
    (scan : ∀ {found state other}, sim.Found world place found → sim.Related world state other →
      sim.Agrees world (sim.Fits world found.1) (scanValue found.2 state)
        (scanValue found.2 other)) :
    sim.Agrees world (fun _ => True) (visitRead first place state) (visitRead second place other) :=
  (visitVariable_agrees visits related admitted).bind fun _ _ _ found kept =>
    (scan found kept).bind fun _ _ _ fits there => agrees_store .scanned fits there

end Clauses

section Statements

variable {first second : Visitor H} (visits : sim.Visits {} first second)
  (related : sim.Related world state other)
include visits related

/-- A braced block has a frame of its own, which is gone afterwards. -/
theorem visitBlock_agrees (inside : sim.Inside (sim.inner world) body 0 (sim.inner world)) :
    sim.Agrees world (fun _ => True) (visitBlock first body state) (visitBlock second body other) := by
  refine Outcome.Agree.bracket (visits.blockFrom sim.base_inner inside (sim.push related)) ?_
    fun _ _ => sim.lostPop
  rintro exit _ _ ⟨position, last, within, kept⟩
  exact ⟨trivial, sim.pop related within kept⟩

/-- Every statement but a declaration, with what is known of reads. -/
theorem visitStatement_agrees (admitted : sim.Admits world statement)
    (plain : statement.isDeclaration = false)
    (reads : ∀ targets, statement = .read targets → sim.Agrees world (fun _ => True)
      (visitStatement first statement state) (visitStatement second statement other)) :
    sim.Agrees world (fun _ => True) (visitStatement first statement state)
      (visitStatement second statement other) := by
  have parts := sim.parts admitted
  cases statement with
  | declaration block => cases plain
  | read targets => exact reads targets rfl
  | label | breakLoop | continueLoop => exact agrees_pure trivial related
  | expression value =>
    exact (visits.evaluate parts related).bind fun _ _ _ _ kept => agrees_pure trivial kept
  | assignment place value =>
    refine (visits.evaluate parts.1 related).bind fun assigned _ _ valued kept => ?_
    refine (visitVariable_agrees visits kept parts.2).bind fun found _ _ holds there => ?_
    exact agrees_after (agrees_store .assigned (sim.assigns admitted valued holds) there)
  | block body => exact agrees_ofExit (visitBlock_agrees visits related parts)
  | ifThen condition ifBlock =>
    refine (visits.evaluate parts.1 related).bind fun value _ _ _ kept => ?_
    cases truthy value with
    | false => exact agrees_pure trivial kept
    | true => exact agrees_ofExit (visitBlock_agrees visits kept parts.2)
  | ifElse condition ifBlock elseBlock =>
    refine (visits.evaluate parts.1 related).bind fun value _ _ _ kept => ?_
    cases truthy value with
    | false => exact agrees_ofExit (visitBlock_agrees visits kept parts.2.2)
    | true => exact agrees_ofExit (visitBlock_agrees visits kept parts.2.1)
  | forLoop count start step limit body =>
    obtain ⟨started, counted, stepped, limited, inside⟩ := parts
    refine (visits.evaluate started related).bind fun initial _ _ _ kept => ?_
    refine (visitVariable_agrees visits kept (sim.counts counted)).bind fun found _ _ holds there => ?_
    refine (agrees_store .counted (sim.advances _ counted holds) there).bind fun _ _ _ _ ready => ?_
    exact agrees_ofExit (visits.forLoop counted stepped limited inside ready)
  | whileLoop condition body => exact agrees_ofExit (visits.whileLoop parts.1 parts.2 related)
  | goto label condition =>
    cases condition with
    | none => exact agrees_pure trivial related
    | some condition =>
      refine (visits.evaluate parts related).bind fun value _ _ _ kept => ?_
      cases truthy value <;> exact agrees_pure trivial kept
  | returnFrom value =>
    simp only [visitStatement, Exec.get_bind, sim.depth related]
    by_cases top : other.callDepth = 0
    · rw [if_pos top, if_pos top]
      exact agree_fail (sim.topLevel admitted related top)
    rw [if_neg top, if_neg top]
    cases value with
    | none => exact agrees_pure trivial related
    | some result =>
      refine (visits.evaluate parts related).bind fun value _ _ valued kept => ?_
      exact .ok ⟨trivial, sim.returns admitted valued kept⟩
  | print items => exact agrees_after (visitPrint_agrees visits related parts)
  | greenaiReport workload inferences watts seconds =>
    refine (visits.evaluate parts.1 related).bind fun _ _ _ _ kept => ?_
    refine (visits.evaluate parts.2.1 kept).bind fun _ _ _ _ there => ?_
    refine (visits.evaluate parts.2.2 there).bind fun _ _ _ _ last => ?_
    exact agrees_after (agrees_emit last)
  | ai statement => exact agrees_after (.ok ⟨trivial, sim.performs statement related⟩)

/-- Every statement, with what is known of reads. -/
theorem visitStatement_declares (admitted : sim.Admits world statement)
    (reads : ∀ targets, statement = .read targets → sim.Agrees world (fun _ => True)
      (visitStatement first statement state) (visitStatement second statement other)) :
    (visitStatement first statement state).Agree sim.disregarded
      (fun flow state other => (∃ next, sim.Declares statement world next ∧
        sim.Related next state other) ∧ flow.From statement)
      (sim.Lost world) (visitStatement second statement other) := by
  refine Outcome.Agree.ensuring ?_ visitStatement_flow
  cases declaration : statement.isDeclaration with
  | false =>
    exact (visitStatement_agrees visits related admitted declaration reads).mono
      (fun _ _ _ kept => ⟨world, sim.keeps declaration, kept.2⟩) fun _ _ => id
  | true =>
    cases statement with
    | declaration block =>
      exact Outcome.Agree.bind (sim.declares admitted related) fun _ _ _ grown => .ok grown
    | _ => cases declaration

theorem visitWhileLoop_agrees (admitted : sim.expression world condition)
    (inside : sim.Inside (sim.inner world) body 0 (sim.inner world)) :
    sim.Agrees world (fun _ => True) (visitWhileLoop first condition body state)
      (visitWhileLoop second condition body other) := by
  refine (visits.evaluate admitted related).bind fun value _ _ _ kept => ?_
  cases truthy value with
  | false => exact agrees_pure trivial kept
  | true =>
    exact (visitBlock_agrees visits kept inside).bind fun exit _ _ _ there =>
      agrees_afterPass there (visits.whileLoop admitted inside there)

theorem visitForLoop_agrees {count : Variable H} (counted : sim.counter world count)
    (stepped : sim.expression world step) (limited : sim.expression world limit)
    (inside : sim.Inside (sim.inner world) body 0 (sim.inner world)) :
    sim.Agrees world (fun _ => True) (visitForLoop first count step limit body state)
      (visitForLoop second count step limit body other) := by
  have named := sim.counts counted
  refine (visitVariable_agrees visits related named).bind fun found _ _ _ visited => ?_
  refine (visits.evaluate stepped visited).bind fun stepValue _ _ _ taken => ?_
  by_cases zero : stepValue.intValue = 0
  · simp only [zero, if_true]
    exact agree_fail (sim.budget (.inl rfl) taken)
  simp only [zero, if_false]
  refine (visits.evaluate limited taken).bind fun limitValue _ _ _ bounded => ?_
  cases inRange stepValue.intValue found.2.intValue limitValue.intValue with
  | false => exact agrees_pure trivial bounded
  | true =>
    refine (visitBlock_agrees visits bounded inside).bind fun exit _ _ _ passed => ?_
    refine agrees_afterPass passed ?_
    refine (visitVariable_agrees visits passed named).bind fun again _ _ holds there => ?_
    refine (agrees_store .counted (sim.advances _ counted holds) there).bind
      fun _ _ _ _ ready => ?_
    exact visits.forLoop counted stepped limited inside ready

end Statements

/-- One block: the world goes from statement to statement. -/
theorem visitBlockFrom_agrees {base : Declarations} {here : sim.World}
    {body : List (Stmt H)} {position : Nat} (visits : sim.Visits base first second)
    (based : sim.base world = base) (inside : sim.Inside world body position here)
    (related : sim.Related here state other) :
    (visitBlockFrom first body position state).Agree sim.disregarded
      (fun _ state other => ∃ position last, sim.Inside world body position last ∧
        sim.Related last state other) (sim.Lost world)
      (visitBlockFrom second body position other) := by
  unfold visitBlockFrom
  cases found : body[position]? with
  | none => exact .ok ⟨position, here, inside, related⟩
  | some statement =>
    have ran := (visits.statement (sim.admitted inside found) related).mono (fun _ _ _ => id)
      fun _ _ => sim.lostInside inside
    refine Outcome.Agree.bind ran ?_
    rintro flow state other ⟨⟨after, declared, kept⟩, origin⟩
    cases flow with
    | exit kind =>
      have onward := sim.next inside found declared
      cases kind with
      | normal => exact visits.blockFrom based onward kept
      | returned | breakLoop | continueLoop => exact .ok ⟨_, after, onward, kept⟩
    | goto label =>
      obtain ⟨condition, rfl⟩ := origin
      dsimp only
      cases landed : labelIndex label body with
      | none => exact agree_fail (sim.escapes inside found declared landed kept)
      | some target =>
        have landing := sim.lands inside found declared landed
        simp only [jump, Exec.get_bind, sim.transfers kept]
        split
        · exact agree_fail ((sim.budget (.inr rfl) kept).imp_left (sim.lostInside landing))
        · exact visits.blockFrom based landing (sim.jumps kept)

section Visitors

variable {first second : Visitor H} {linkage beside : Linkage H} {program : Program H}

/-- Every expression, once minus and calls agree. -/
theorem evaluate_agrees {base : Declarations} {code : Expr H} (visits : sim.Visits base first second)
    (minus : ∀ {operand}, sim.expression world (.unaryMinus operand) →
      sim.expression world operand ∧ ∀ value, sim.Valued world operand value →
        sim.Valued world (.unaryMinus operand) (applyMinus value))
    (invoke : ∀ {name arguments values state other}, code = .call name arguments →
      List.Forall₂ (sim.Valued world) arguments values → sim.Related world state other →
      sim.Agrees world (sim.Valued world code)
        (invokeFunction linkage program first name values state)
        (invokeFunction beside program second name values other))
    (admitted : sim.expression world code) (related : sim.Related world state other) :
    sim.Agrees world (sim.Valued world code) (visitExpression linkage program first code state)
      (visitExpression beside program second code other) := by
  refine visitExpression_agrees visits related admitted ?_ invoke
  rintro operand rfl
  refine (visits.evaluate (minus admitted).1 related).bind fun value _ _ valued kept => ?_
  exact agrees_pure ((minus admitted).2 value valued) kept

/-- Every statement, once scanning agrees. -/
theorem statement_agrees (visits : sim.Visits {} first second)
    (scan : ∀ {place found state other}, sim.target world place →
      sim.Found world place found → sim.Related world state other →
      sim.Agrees world (sim.Fits world found.1) (scanValue found.2 state) (scanValue found.2 other))
    (admitted : sim.Admits world code) (related : sim.Related world state other) :
    (visitStatement first code state).Agree sim.disregarded
      (fun flow state other => (∃ next, sim.Declares code world next ∧
        sim.Related next state other) ∧ flow.From code)
      (sim.Lost world) (visitStatement second code other) := by
  refine visitStatement_declares visits related admitted ?_
  rintro targets rfl
  exact agrees_after (agrees_each related fun place member _ _ kept =>
    visitRead_agrees visits kept (sim.parts admitted place member)
      (scan (sim.parts admitted place member)))

end Visitors

end Simulation

end ShortHand.Language
