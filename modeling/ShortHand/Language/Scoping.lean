import ShortHand.Language.Analyzer
import ShortHand.Language.Interpreter

/-! The frames of a function cover the analyzer's scopes at each of its statements. -/

namespace ShortHand.Language

open ShortHand.Library List

variable {H : Host}

/-- A name used as a scalar or as an array. -/
structure Reference where
  name : String
  isArray : Bool
  deriving DecidableEq

/-- What a piece of code needs from outside its own scopes. -/
inductive Mention where
  | global (reference : Reference)
  | call (function : String)
  deriving DecidableEq

def bindsReference (scopes : List Scope) (reference : Reference) : Bool :=
  scopes.any fun scope => (scope reference.name).any (·.isArray == reference.isArray)

def mentionOf (scopes : List Scope) (reference : Reference) : List Mention :=
  if bindsReference scopes reference then [] else [.global reference]

mutual

def Expr.mentions (scopes : List Scope) : Expr H → List Mention
  | .literal _ | .boolLiteral _ | .floatLiteral _ | .stringLiteral _ => []
  | .variableRef target => Variable.mentions scopes target
  | .unaryMinus operand => Expr.mentions scopes operand
  | .binary _ left right => Expr.mentions scopes left ++ Expr.mentions scopes right
  | .call name arguments => .call name :: Expr.mentionsAll scopes arguments

def Variable.mentions (scopes : List Scope) : Variable H → List Mention
  | .simple name => mentionOf scopes ⟨name, false⟩
  | .array name index => mentionOf scopes ⟨name, true⟩ ++ Expr.mentions scopes index

def Expr.mentionsAll (scopes : List Scope) : List (Expr H) → List Mention
  | [] => []
  | argument :: arguments => Expr.mentions scopes argument ++ Expr.mentionsAll scopes arguments

end

/-- The scopes after a statement. -/
def Stmt.declare (scopes : List Scope) : Stmt H → List Scope
  | .declaration declared => (declareInCurrentScope declared scopes).1
  | _ => scopes

mutual

def Stmt.mentions (scopes : List Scope) : Stmt H → List Mention
  | .declaration _ | .label _ | .breakLoop | .continueLoop | .ai _ => []
  | .expression value => value.mentions scopes
  | .assignment target value => value.mentions scopes ++ target.mentions scopes
  | .block statements => Stmt.mentionsAll ((fun _ => none) :: scopes) statements
  | .ifThen condition ifBlock =>
    condition.mentions scopes ++ Stmt.mentionsAll ((fun _ => none) :: scopes) ifBlock
  | .ifElse condition ifBlock elseBlock =>
    condition.mentions scopes ++ Stmt.mentionsAll ((fun _ => none) :: scopes) ifBlock ++
      Stmt.mentionsAll ((fun _ => none) :: scopes) elseBlock
  | .forLoop counter start step limit body =>
    counter.mentions scopes ++ start.mentions scopes ++ step.mentions scopes ++
      limit.mentions scopes ++ Stmt.mentionsAll ((fun _ => none) :: scopes) body
  | .whileLoop condition body =>
    condition.mentions scopes ++ Stmt.mentionsAll ((fun _ => none) :: scopes) body
  | .goto _ condition => (condition.map (Expr.mentions scopes)).getD []
  | .returnFrom value => (value.map (Expr.mentions scopes)).getD []
  | .read targets => targets.flatMap (Variable.mentions scopes)
  | .print items => items.flatMap (Expr.mentions scopes)
  | .greenaiReport _ inferences watts seconds =>
    inferences.mentions scopes ++ watts.mentions scopes ++ seconds.mentions scopes

def Stmt.mentionsAll (scopes : List Scope) : List (Stmt H) → List Mention
  | [] => []
  | statement :: rest =>
    Stmt.mentions scopes statement ++ Stmt.mentionsAll (statement.declare scopes) rest

end

def Function.mentions (function : Function H) : List Mention :=
  Stmt.mentionsAll [parameterScope function] function.body

/-- The scopes in front of a statement of a block. -/
def scopesAt (scopes : List Scope) (statements : List (Stmt H)) (position : Nat) : List Scope :=
  (statements.take position).foldl Stmt.declare scopes

section Positions

variable {program : Program H} {context : Context} {scopes : List Scope}
  {statements whole : List (Stmt H)} {position start : Nat} {statement : Stmt H}

theorem visitStmt_fst : (visitStmt program context scopes statement).1 = statement.declare scopes := by
  cases statement <;> simp [visitStmt, Stmt.declare]

theorem Stmt.declare_of_not (plain : statement.isDeclaration = false) :
    statement.declare scopes = scopes := by
  cases statement <;> first | rfl | cases plain

theorem scopesAt_succ (found : statements[position]? = some statement) :
    scopesAt scopes statements (position + 1) =
      statement.declare (scopesAt scopes statements position) := by
  rw [scopesAt, take_add_one, found, foldl_append]
  rfl

theorem declare_length : (statement.declare scopes).length = scopes.length := by
  cases statement <;> first | rfl | (cases scopes <;> rfl)

theorem scopesAt_length : (scopesAt scopes statements position).length = scopes.length := by
  unfold scopesAt
  induction statements.take position generalizing scopes with
  | nil => rfl
  | cons first rest ih => exact ih.trans declare_length

/-- Declarations go to the innermost scope. -/
theorem declare_cons : ∃ grown, statement.declare (scope :: scopes) = grown :: scopes := by
  cases statement <;> exact ⟨_, rfl⟩

theorem scopesAt_cons :
    ∃ grown, scopesAt (scope :: scopes) statements position = grown :: scopes := by
  unfold scopesAt
  induction statements.take position generalizing scope with
  | nil => exact ⟨scope, rfl⟩
  | cons first rest ih =>
    obtain ⟨grown, declared⟩ := @declare_cons _ scopes first scope
    rw [foldl_cons, declared]
    exact ih

/-- What the analyzer checked at each statement of an accepted block. -/
theorem visitStmts_at (clean : visitStmts program context whole start scopes statements = [])
    (found : statements[position]? = some statement) :
    crossingDiagnostics whole (start + position) statement = [] ∧
      (visitStmt program context (scopesAt scopes statements position) statement).2 = [] := by
  induction statements generalizing start scopes position with
  | nil => cases found
  | cons first rest ih =>
    rw [visitStmts, append_eq_nil_iff, append_eq_nil_iff] at clean
    cases position with
    | zero =>
      cases found
      exact clean.1
    | succ position =>
      rw [visitStmt_fst] at clean
      obtain ⟨crossing, visited⟩ := ih clean.2 found
      rw [Nat.add_right_comm] at crossing
      exact ⟨crossing, visited⟩

theorem mentions_at (found : statements[position]? = some statement)
    (member : mention ∈ statement.mentions (scopesAt scopes statements position)) :
    mention ∈ Stmt.mentionsAll scopes statements := by
  induction statements generalizing scopes position with
  | nil => cases found
  | cons first rest ih =>
    rw [Stmt.mentionsAll, mem_append]
    cases position with
    | zero =>
      cases found
      exact .inl member
    | succ position => exact .inr (ih found member)

/-- Statements without declarations between two positions leave the scopes alone. -/
theorem scopesAt_eq_of_plain (ordered : first ≤ last)
    (plain : ∀ position, first ≤ position → position < last → ∀ statement,
      statements[position]? = some statement → statement.isDeclaration = false) :
    scopesAt scopes statements last = scopesAt scopes statements first := by
  induction ordered with
  | refl => rfl
  | @step last ordered ih =>
    have earlier := ih fun position above below =>
      plain position above (Nat.lt_succ_of_lt below)
    cases found : statements[last]? with
    | none =>
      have short := getElem?_eq_none_iff.mp found
      rw [← earlier, scopesAt, scopesAt, take_of_length_le short,
        take_of_length_le (Nat.le_succ_of_le short)]
    | some statement =>
      rw [scopesAt_succ found,
        Stmt.declare_of_not (plain last ordered (Nat.lt_succ_self last) statement found), earlier]

theorem labelIndex_spec (found : labelIndex label statements = some target) :
    ∃ statement, statements[target]? = some statement ∧ statement.label? = some label := by
  induction statements generalizing target with
  | nil => cases found
  | cons first rest ih =>
    rw [labelIndex] at found
    split at found
    · rename_i labelled
      cases found
      exact ⟨first, rfl, labelled⟩
    · obtain ⟨index, later, rfl⟩ := Option.map_eq_some_iff.mp found
      exact ih later

/-- The target of an accepted jump is in its block. -/
theorem labelIndex_of_goto (accepted : gotoDiagnostics (context.inBlock statements) label = []) :
    labelIndex label statements ≠ none := by
  have listed : label ∈ labelsOf statements := by
    simp only [gotoDiagnostics, Context.inBlock] at accepted
    by_contra absent
    rw [if_neg absent] at accepted
    split at accepted <;> cases accepted
  clear accepted
  induction statements with
  | nil => cases listed
  | cons statement rest ih =>
    rw [labelIndex]
    split
    · nofun
    rename_i other
    obtain ⟨found, member, labelled⟩ := mem_filterMap.mp listed
    rcases mem_cons.mp member with rfl | later
    · exact absurd labelled other
    · rw [ne_eq, Option.map_eq_none_iff]
      exact ih (mem_filterMap.mpr ⟨found, later, labelled⟩)

theorem Stmt.plain_of_label {label : String} (labelled : statement.label? = some label) :
    statement.isDeclaration = false := by
  cases statement <;> first | rfl | cases labelled

/-- An accepted jump lands in the scopes it started from. -/
theorem scopesAt_jump (found : statements[position]? = some (.goto label condition))
    (crossing : crossingDiagnostics statements position (.goto label condition) = [])
    (landed : labelIndex label statements = some target) :
    scopesAt scopes statements (target + 1) = scopesAt scopes statements position := by
  obtain ⟨labelStatement, labelFound, labelled⟩ := labelIndex_spec landed
  have uncrossed : ∀ between, min position target < between → between < max position target →
      ∀ statement, statements[between]? = some statement → statement.isDeclaration = false := by
    intro between above below statement present
    simp only [crossingDiagnostics, landed, any_eq_true, ite_eq_right_iff] at crossing
    by_contra declaration
    refine cons_ne_nil _ _ (crossing ⟨statement, ?_, by simpa using declaration⟩)
    rw [mem_iff_getElem?]
    refine ⟨between - (min position target + 1), ?_⟩
    rw [getElem?_drop, getElem?_take_of_lt (by omega)]
    rwa [show min position target + 1 + (between - (min position target + 1)) = between by omega]
  rcases Nat.lt_trichotomy position target with forward | same | backward
  · have skipped : scopesAt scopes statements target = scopesAt scopes statements position := by
      apply scopesAt_eq_of_plain (Nat.le_of_lt forward)
      intro between above below statement present
      rcases Nat.eq_or_lt_of_le above with rfl | above
      · cases found.symm.trans present
        rfl
      · exact uncrossed between (by omega) (by omega) statement present
    rw [scopesAt_succ labelFound, Stmt.declare_of_not (Stmt.plain_of_label labelled), skipped]
  · subst same
    cases found.symm.trans labelFound
    cases labelled
  · symm
    apply scopesAt_eq_of_plain backward
    intro between above below statement present
    exact uncrossed between (by omega) (by omega) statement present

end Positions

/-- A pending jump comes from a `goto` statement. -/
def Flow.From (statement : Stmt H) : Flow → Prop
  | .exit _ => True
  | .goto label => ∃ condition, statement = .goto label condition

/-- What comes before the end of a run is of no account. -/
theorem ensures_last {later : α → Run H β} {result : β → State H → Prop}
    (results : ∀ value state, (later value state).Ensures result fun _ _ => True) :
    ((first >>= later) state).Ensures result fun _ _ => True :=
  .last (fun _ _ => trivial) results

theorem visitStatement_flow {visitor : Visitor H} :
    (visitStatement visitor statement state).Ensures (fun flow _ => flow.From statement)
      fun _ _ => True := by
  have ofExit : ∀ {action : Run H Exit} {state : State H},
      (Flow.ofExit action state).Ensures (fun flow _ => flow.From statement) fun _ _ => True :=
    ensures_last fun _ _ => trivial
  have after : ∀ {action : Run H Unit} {state : State H},
      (Flow.after action state).Ensures (fun flow _ => flow.From statement) fun _ _ => True :=
    ensures_last fun _ _ => trivial
  cases statement with
  | declaration | read | print | ai => exact after
  | block | whileLoop => exact ofExit
  | label | breakLoop | continueLoop => trivial
  | expression value => exact ensures_last fun _ _ => trivial
  | assignment target value =>
    exact ensures_last fun _ _ => ensures_last fun _ _ => after
  | ifThen condition ifBlock =>
    refine ensures_last fun value state => ?_
    cases truthy value with
    | false => trivial
    | true => exact ofExit
  | ifElse condition ifBlock elseBlock =>
    refine ensures_last fun value state => ?_
    cases truthy value <;> exact ofExit
  | forLoop counter start step limit body =>
    exact ensures_last fun _ _ => ensures_last fun _ _ =>
      ensures_last fun _ _ => ofExit
  | goto label condition =>
    cases condition with
    | none => exact ⟨none, rfl⟩
    | some condition =>
      refine ensures_last fun value state => ?_
      cases truthy value with
      | false => trivial
      | true => exact ⟨some condition, rfl⟩
  | returnFrom value =>
    refine ensures_last fun current state => ?_
    split
    · trivial
    cases value with
    | none => trivial
    | some expression =>
      exact ensures_last fun _ _ => ensures_last fun _ _ => trivial
  | greenaiReport workload inferences watts seconds =>
    exact ensures_last fun _ _ => ensures_last fun _ _ =>
      ensures_last fun _ _ => after

end ShortHand.Language
