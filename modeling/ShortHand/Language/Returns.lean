import ShortHand.Language.Scoping

/-! A block that definitely returns does not end normally, from whatever position it is run. -/

namespace ShortHand.Language

open ShortHand.Library List

variable {H : Host}

/-- An exit that its surroundings are prepared for. -/
def Exit.Within (returning looping : Prop) : Exit → Prop
  | .normal => True
  | .returned => returning
  | .breakLoop | .continueLoop => looping

/-- The flow of a statement: a statement that definitely returns does not end normally. -/
def Flow.Within (context : Context) (statement : Stmt H) : Flow → Prop
  | .exit kind => kind.Within (context.returnType ≠ none) (context.loopDepth ≠ 0) ∧
    (definitelyReturns statement = true → kind ≠ .normal)
  | .goto _ => True

/-- A block that, run from a position on, does not end normally. -/
def Ending (statements : List (Stmt H)) (position : Nat) : Prop :=
  if statements.any Stmt.isTransfer then position < statements.length ∧ lastReturns statements = true
  else someReturns (statements.drop position) = true

theorem ending_start (returns : definitelyReturns (.block statements) = true) :
    Ending statements 0 := by
  unfold Ending
  rw [definitelyReturns] at returns
  split
  · rename_i transfers
    rw [if_pos transfers] at returns
    refine ⟨?_, returns⟩
    cases statements with
    | nil => cases returns
    | cons first rest => exact Nat.succ_pos _
  · rename_i structured
    rwa [if_neg structured] at returns

theorem lastReturns_at (returns : lastReturns statements = true)
    (found : statements[position]? = some statement) (last : position + 1 = statements.length) :
    definitelyReturns statement = true := by
  induction statements generalizing position with
  | nil => cases found
  | cons first rest ih =>
    cases rest with
    | nil =>
      cases position with
      | zero =>
        cases found
        exact returns
      | succ position => cases last
    | cons second others =>
      cases position with
      | zero => cases last
      | succ position => exact ih returns found (Nat.succ.inj last)

theorem Ending.next {position : Nat}
    (ending : Ending statements position) (found : statements[position]? = some statement)
    (continues : definitelyReturns statement = false) : Ending statements (position + 1) := by
  unfold Ending at ending ⊢
  split
  · rename_i transfers
    rw [if_pos transfers] at ending
    refine ⟨?_, ending.2⟩
    rcases Nat.lt_or_eq_of_le (Nat.succ_le_of_lt ending.1) with before | last
    · exact before
    · rw [lastReturns_at ending.2 found last] at continues
      cases continues
  · rename_i structured
    rw [if_neg structured] at ending
    obtain ⟨bound, rfl⟩ := List.getElem?_eq_some_iff.mp found
    rwa [drop_eq_getElem_cons bound, someReturns, continues] at ending

theorem Ending.jump (ending : Ending statements position)
    (found : statements[position]? = some (.goto label condition))
    (landed : labelIndex label statements = some target) : Ending statements (target + 1) := by
  obtain ⟨statement, landing, labelled⟩ := labelIndex_spec landed
  have transfers : statements.any Stmt.isTransfer = true :=
    any_eq_true.mpr ⟨_, mem_of_getElem? found, rfl⟩
  have continues : definitelyReturns statement = false := by
    cases statement with
    | label name => rw [definitelyReturns] <;> nofun
    | _ => cases labelled
  unfold Ending at ending
  rw [if_pos transfers] at ending
  have there : Ending statements target := by
    unfold Ending
    rw [if_pos transfers]
    exact ⟨(List.getElem?_eq_some_iff.mp landing).1, ending.2⟩
  exact there.next landing continues

theorem not_ending_past (past : statements[position]? = none) : ¬Ending statements position := by
  have short := getElem?_eq_none_iff.mp past
  unfold Ending
  split
  · exact fun ending => absurd ending.1 (Nat.not_lt.mpr short)
  · rw [drop_eq_nil_of_le short]
    exact Bool.false_ne_true

/-- What the analyzer said about a block in its scopes. -/
def PassedBlock (program : Program H) (context : Context) (scopes : List Scope)
    (statements : List (Stmt H)) : Prop :=
  visitStmts program (context.inBlock statements) statements 0 scopes statements = []

/-- The end of a run of a loop. -/
abbrev EndsLoop (context : Context) (outcome : Outcome (State H) Failure Exit) : Prop :=
  outcome.Ensures (fun exit _ => exit.Within (context.returnType ≠ none) False) fun _ _ => True

/-- The end of a run of a block. -/
abbrev EndsBlock (context : Context) (body : List (Stmt H)) (position : Nat)
    (outcome : Outcome (State H) Failure Exit) : Prop :=
  outcome.Ensures (fun exit _ => exit.Within (context.returnType ≠ none) (context.loopDepth ≠ 0) ∧
    (Ending body position → exit ≠ .normal)) fun _ _ => True

/-- The end of a run of a statement. -/
abbrev EndsWithin (context : Context) (statement : Stmt H)
    (outcome : Outcome (State H) Failure Flow) : Prop :=
  outcome.Ensures (fun flow _ => flow.Within context statement ∧ flow.From statement)
    fun _ _ => True

/-- A visitor under which accepted code ends as the analyzer expects. -/
structure Flows (program : Program H) (visitor : Visitor H) : Prop where
  statement (passed : (visitStmt program context scopes code).2 = []) (state : State H) :
    EndsWithin context code (visitor.statement code state)
  blockFrom (passed : PassedBlock program context scopes body) (position : Nat) (state : State H) :
    EndsBlock context body position (visitor.blockFrom body position state)
  whileLoop (passed : PassedBlock program (Context.inLoop context) scopes body)
      (condition : Expr H) (state : State H) :
    EndsLoop context (visitor.whileLoop condition body state)
  forLoop (passed : PassedBlock program (Context.inLoop context) scopes body)
      (count : Variable H) (step limit : Expr H) (state : State H) :
    EndsLoop context (visitor.forLoop count step limit body state)

section Flows

variable {program : Program H} {visitor : Visitor H} {context : Context} {scopes : List Scope}
  {statement : Stmt H} {state : State H} {body : List (Stmt H)}

theorem within_normal (continues : definitelyReturns statement = false) :
    Flow.Within context statement (.exit .normal) :=
  ⟨trivial, fun returns => absurd returns (by simp [continues])⟩

theorem after_within (continues : definitelyReturns statement = false) :
    (Flow.after action state).Ensures (fun flow _ => flow.Within context statement)
      fun _ _ => True :=
  ensures_last fun _ _ => within_normal continues

theorem loop_within (continues : definitelyReturns statement = false)
    (ran : EndsLoop context (action state)) :
    (Flow.ofExit action state).Ensures (fun flow _ => flow.Within context statement)
      fun _ _ => True := by
  refine ran.bind fun exit _ within => ⟨?_, fun returns => absurd returns (by simp [continues])⟩
  cases exit with
  | normal => trivial
  | returned => exact within
  | breakLoop | continueLoop => exact within.elim

variable (flows : Flows program visitor)
include flows

theorem visitBlock_ends (passed : PassedBlock program context scopes body) :
    EndsBlock context body 0 (visitBlock visitor body state) := by
  rw [EndsBlock, visitBlock, Outcome.ensures_bracket]
  exact flows.blockFrom passed 0 _

theorem visitBlock_within (passed : PassedBlock program context scopes body)
    (returns : definitelyReturns statement = true → definitelyReturns (.block body) = true) :
    (Flow.ofExit (visitBlock visitor body) state).Ensures
      (fun flow _ => flow.Within context statement) fun _ _ => True := by
  refine (visitBlock_ends flows passed).bind fun _ _ ends => ⟨ends.1, fun definitely => ?_⟩
  exact ends.2 (ending_start (returns definitely))

theorem visitStatement_within (passed : (visitStmt program context scopes statement).2 = []) :
    EndsWithin context statement (visitStatement visitor statement state) := by
  refine Outcome.Ensures.and ?_ visitStatement_flow
  cases statement with
  | declaration | read | print | ai => exact after_within rfl
  | label => exact within_normal rfl
  | expression value => exact ensures_last fun _ _ => within_normal rfl
  | assignment place value =>
    exact ensures_last fun _ _ => ensures_last fun _ _ => after_within rfl
  | greenaiReport workload inferences watts seconds =>
    exact ensures_last fun _ _ => ensures_last fun _ _ => ensures_last fun _ _ =>
      after_within rfl
  | block body =>
    simp only [visitStmt, append_eq_nil_iff] at passed
    exact visitBlock_within flows passed.2 id
  | ifThen condition ifBlock =>
    simp only [visitStmt, append_eq_nil_iff] at passed
    refine ensures_last fun value _ => ?_
    cases truthy value with
    | false => exact within_normal rfl
    | true => exact visitBlock_within flows passed.2 (by simp [definitelyReturns])
  | ifElse condition ifBlock elseBlock =>
    simp only [visitStmt, append_eq_nil_iff] at passed
    have both : definitelyReturns (.ifElse condition ifBlock elseBlock) = true →
        definitelyReturns (.block ifBlock) = true ∧ definitelyReturns (.block elseBlock) = true := by
      simp [definitelyReturns]
    refine ensures_last fun value _ => ?_
    cases truthy value with
    | false => exact visitBlock_within flows passed.2 fun returns => (both returns).2
    | true => exact visitBlock_within flows passed.1.1.2 fun returns => (both returns).1
  | forLoop count start step limit body =>
    simp only [visitStmt, append_eq_nil_iff] at passed
    exact ensures_last fun _ _ => ensures_last fun _ _ => ensures_last fun _ state =>
      loop_within rfl (flows.forLoop passed.2 count step limit state)
  | whileLoop condition body =>
    simp only [visitStmt, append_eq_nil_iff] at passed
    exact loop_within rfl (flows.whileLoop passed.2 condition state)
  | goto label condition =>
    cases condition with
    | none => trivial
    | some condition =>
      refine ensures_last fun value _ => ?_
      cases truthy value with
      | false => exact within_normal rfl
      | true => trivial
  | breakLoop | continueLoop =>
    have looping : context.loopDepth ≠ 0 := by simpa [visitStmt] using passed
    exact ⟨looping, by simp⟩
  | returnFrom value =>
    rw [visitStmt] at passed
    have returning : context.returnType ≠ none := by
      intro outside
      simp [returnDiagnostics, outside] at passed
    refine ensures_last fun _ _ => ?_
    split
    · trivial
    · cases value with
      | none => exact ⟨returning, by simp⟩
      | some result => exact ensures_last fun _ _ => ensures_last fun _ _ => ⟨returning, by simp⟩

omit flows in
theorem afterPass_within (within : exit.Within (context.returnType ≠ none) looping)
    (ran : EndsLoop context (again state)) : EndsLoop context (afterPass again exit state) := by
  cases exit with
  | normal | continueLoop => exact ran
  | returned => exact within
  | breakLoop => trivial

theorem pass_within (passed : PassedBlock program context.inLoop scopes body)
    (ran : ∀ state, EndsLoop context (again state)) :
    EndsLoop context ((visitBlock visitor body >>= afterPass again) state) :=
  (visitBlock_ends flows passed).bind fun _ state ends => afterPass_within ends.1 (ran state)

theorem visitWhileLoop_within (passed : PassedBlock program context.inLoop scopes body) :
    EndsLoop context (visitWhileLoop visitor condition body state) := by
  refine ensures_last fun value _ => ?_
  cases truthy value with
  | false => trivial
  | true => exact pass_within flows passed (flows.whileLoop passed condition)

theorem visitForLoop_within {count : Variable H}
    (passed : PassedBlock program context.inLoop scopes body) :
    EndsLoop context (visitForLoop visitor count step limit body state) := by
  refine ensures_last fun _ _ => ensures_last fun _ _ => ?_
  split
  · trivial
  refine ensures_last fun _ _ => ?_
  split
  · exact pass_within flows passed fun _ => ensures_last fun _ _ => ensures_last fun _ state =>
      flows.forLoop passed count step limit state
  · trivial

/-- One block: wherever a run of it continues, the end is as far away as it was. -/
theorem visitBlockFrom_within (passed : PassedBlock program context scopes body) :
    EndsBlock context body position (visitBlockFrom visitor body position state) := by
  unfold visitBlockFrom
  cases found : body[position]? with
  | none => exact ⟨trivial, fun ending => absurd ending (not_ending_past found)⟩
  | some statement =>
    refine (flows.statement (visitStmts_at passed found).2 state).bind ?_
    rintro flow after ⟨within, origin⟩
    cases flow with
    | exit kind =>
      cases kind with
      | normal =>
        refine (flows.blockFrom passed (position + 1) after).mono ?_ fun _ _ => id
        refine fun exit _ ends => ⟨ends.1, fun ending => ends.2 (ending.next found ?_)⟩
        exact Bool.eq_false_iff.mpr fun returns => within.2 returns rfl
      | returned | breakLoop | continueLoop => exact ⟨within.1, fun _ => nofun⟩
    | goto label =>
      obtain ⟨condition, rfl⟩ := origin
      dsimp only
      cases landed : labelIndex label body with
      | none => trivial
      | some target =>
        simp only [jump, Exec.get_bind]
        split
        · trivial
        · refine (flows.blockFrom passed (target + 1) _).mono ?_ fun _ _ => id
          exact fun exit _ ends => ⟨ends.1, fun ending => ends.2 (ending.jump found landed)⟩

omit flows in
theorem interpreter_flows (linkage : Linkage H) (fuel : Nat) :
    Flows program (interpreter linkage program fuel) := by
  induction fuel with
  | zero => exact ⟨fun _ _ => trivial, fun _ _ _ => trivial, fun _ _ _ => trivial,
      fun _ _ _ _ _ => trivial⟩
  | succ fuel ih => exact ⟨fun passed _ => visitStatement_within ih passed,
      fun passed _ _ => visitBlockFrom_within ih passed,
      fun passed _ _ => visitWhileLoop_within ih passed,
      fun passed _ _ _ _ => visitForLoop_within ih passed⟩

end Flows

end ShortHand.Language
