import ShortHand.Language.Control
import ShortHand.Language.Watch

/-! The names in a block's own frame are a function of the place in the block; a jump crosses no
declaration. -/

namespace ShortHand.Language

open ShortHand.Library List Scene

variable {H : Host} {program : Program H}

/-- The names of a block's frame in front of a place, when it began with those of `base`. -/
def Frame.Declared (base : Declarations) (statements : List (Stmt H)) (position : Nat)
    (frame : Frame H) : Prop :=
  ∀ reference, frame.binds reference = true ↔
    base.Names reference ∨
      ∃ block, .declaration block ∈ statements.take position ∧ block.Names reference

section Positions

variable {context : Context} {scope : Scope} {scopes : List Scope} {statements : List (Stmt H)}
  {base : Declarations}

/-- The names in the innermost scope at a place of an accepted block. -/
theorem scopesAt_binds (passed : PassedBlock program context (scope :: scopes) statements)
    (begins : ∀ reference, bindsIn scope reference = true ↔ base.Names reference) (position : Nat) :
    ∃ grown, scopesAt (scope :: scopes) statements position = grown :: scopes ∧
      ∀ reference, bindsIn grown reference = true ↔ base.Names reference ∨
        ∃ block, .declaration block ∈ statements.take position ∧ block.Names reference := by
  induction position with
  | zero => exact ⟨scope, rfl, fun reference => by simp [begins reference]⟩
  | succ position ih =>
    obtain ⟨grown, here, names⟩ := ih
    cases found : statements[position]? with
    | none =>
      have short := getElem?_eq_none_iff.mp found
      rw [take_of_length_le short] at names
      refine ⟨grown, ?_, ?_⟩
      · rw [← here, scopesAt, scopesAt, take_of_length_le short,
          take_of_length_le (Nat.le_succ_of_le short)]
      · rwa [take_of_length_le (Nat.le_succ_of_le short)]
    | some statement =>
      rw [scopesAt_succ found, here, take_add_one, found]
      cases declares : statement.isDeclaration with
      | false =>
        rw [Stmt.declare_of_not declares]
        refine ⟨grown, rfl, fun reference => (names reference).trans (or_congr_right ?_)⟩
        refine exists_congr fun block => and_congr_left fun _ => ?_
        rw [mem_append]
        refine ⟨.inl, fun either => either.resolve_right fun last => ?_⟩
        cases mem_singleton.mp last
        cases declares
      | true =>
        cases statement with
        | declaration block =>
          obtain ⟨_, visited⟩ := visitStmts_at passed found
          rw [here] at visited
          simp only [visitStmt, declareInCurrentScope, append_eq_nil_iff] at visited
          refine ⟨_, rfl, fun reference => ?_⟩
          rw [declareIn_binds visited.2, names reference, entries_binds, or_assoc]
          simp [or_and_right, exists_or]
        | _ => cases declares

/-- The frame of a block at a position of it. -/
theorem Scene.Related.declared {scene : Scene H} {region here : Region H} {body : List (Stmt H)}
    {position : Nat} {state other : State H} (related : scene.Related here state other)
    (inside : region.Inside program body position here) :
    other.innermost.Declared region.base body position := by
  obtain ⟨context, passed⟩ := inside.passed
  have length : other.locals.length = region.frames.length :=
    (Continues.of_shapes related.frames).1.trans inside.grows.continues.1
  rcases inside.begins with ⟨scope, rest, nested, framed, begins⟩ | ⟨bottom, plain, names⟩
  · rw [nested] at passed
    obtain ⟨grown, there, names⟩ := scopesAt_binds passed begins position
    obtain ⟨frame, frames, locals⟩ : ∃ frame frames, other.locals = frame :: frames := by
      refine exists_cons_of_ne_nil fun none => framed (eq_nil_of_length_eq_zero ?_)
      rw [← length, none, length_nil]
    have covers := related.covers.congr related.frames
    rw [inside.scopes, nested, there, locals] at covers
    intro reference
    rw [State.innermost, locals, headD_cons, covers.1.binds]
    exact names reference
  · have none : other.locals = [] := eq_nil_of_length_eq_zero (by rw [length, bottom]; rfl)
    have globals : other.globals.shape = region.globals.shape :=
      related.globals.trans (by rw [inside.grows.same])
    intro reference
    rw [State.innermost, none, headD_nil, Frame.binds_congr globals, names reference]
    refine ⟨.inl, fun either => either.resolve_right ?_⟩
    rintro ⟨block, member, _⟩
    exact Bool.noConfusion (plain _ (mem_of_mem_take member))

end Positions

open Classical in
/-- The check that the innermost frame has just the names it should have. -/
noncomputable def declaredWatch (H : Host) : Watch H where
  block base statements position state :=
    decide (state.innermost.Declared base statements position)

/-- The watched run and the plain one. -/
def Scene.watched (program : Program H) : Scene H where
  program := program
  worlds callers allowed := callers = [] ∧ allowed = fun _ => True
  clear := clear_alone
  disregarded _ := False
  kept := True
  fails _ _ := .inl trivial

section Runs

variable (accepted : Accepted program)
include accepted

omit accepted in
/-- The check of a block is passed wherever the two runs are. -/
theorem declaredWatch_passes {region here : Region H}
    (inside : region.Inside program body position here)
    (related : (watched program).Related here state other) :
    (declaredWatch H).block region.base body position state = true := by
  have same : state = other := by
    rw [related.same, related.world.1]
    simp [State.extend, watched]
  subst same
  exact @decide_eq_true _ (Classical.propDecidable _) (related.declared inside)

/-- An expression, with the body of a call on the frame of the parameters. -/
theorem visitExpression_watched {first : Declarations → Visitor H}
    (visits : ∀ base, (watched program).simulation.Visits base (first base) second)
    (flows : Flows program second)
    (admitted : (watched program).simulation.expression region code)
    (related : (watched program).Related region state other) :
    (watched program).simulation.Agrees region (fun _ => True)
      (visitExpression (.source H) program
        { first {} with blockFrom := (first (Watch.calledWith program code)).blockFrom } code state)
      (visitExpression (.source H) program second code other) := by
  have plain := visits {}
  have called : (watched program).simulation.Visits (Watch.calledWith program code)
      { first {} with blockFrom := (first (Watch.calledWith program code)).blockFrom } second :=
    { plain with blockFrom := (visits _).blockFrom }
  refine Simulation.evaluate_agrees called minus_admitted ?_ admitted related
  rintro name arguments values state other rfl _ kept
  refine invokeFunction_source accepted (fun refusal => Bool.false_ne_true refusal) ?_ ?_
    flows kept
  · intro function _ mention _
    rw [kept.world.2]
    trivial
  · intro function found
    have parameters : Watch.calledWith program (.call name arguments) = function.parameters := by
      exact congrArg (fun found => (found.map (·.parameters)).getD {}) found
    exact parameters ▸ called

theorem declaredWatch_visits (fuel : Nat) (base : Declarations) :
    (watched program).simulation.Visits base ((declaredWatch H).interpreter program fuel base)
      (interpreter (.source H) program fuel) := by
  induction fuel generalizing base with
  | zero => exact Simulation.visits_exhausted
  | succ fuel ih =>
    constructor
    · intro region code state other admitted related
      have ran : ((declaredWatch H).interpreter program (fuel + 1) base).evaluate code =
          visitExpression (.source H) program { (declaredWatch H).interpreter program fuel {} with
            blockFrom := ((declaredWatch H).interpreter program fuel
              (Watch.calledWith program code)).blockFrom } code :=
        Exec.bind_pure_self.trans (Watch.visitExpression_unchecked rfl)
      rw [ran]
      exact visitExpression_watched accepted ih (interpreter_flows _ fuel) admitted related
    · intro region code state other admitted related
      have ran : ((declaredWatch H).interpreter program (fuel + 1) base).statement code =
          visitStatement ((declaredWatch H).interpreter program fuel {}) code :=
        Watch.visitStatement_unchecked rfl rfl
      rw [ran]
      exact Simulation.statement_agrees (ih {}) scan_agrees admitted related
    · intro region body position here state other based inside related
      have passes := declaredWatch_passes inside related
      rw [show region.base = base from based] at passes
      have ran : ((declaredWatch H).interpreter program (fuel + 1) base).blockFrom body position
          state = (check ((declaredWatch H).block base body position state) >>= fun _ =>
            visitBlockFrom ((declaredWatch H).interpreter program fuel base) body position) state := rfl
      rw [ran, passes]
      exact Simulation.visitBlockFrom_agrees (ih base) based inside related
    · exact fun admitted inside related =>
        Simulation.visitWhileLoop_agrees (ih {}) related admitted inside
    · exact fun counted stepped limited inside related =>
        Simulation.visitForLoop_agrees (ih {}) related counted stepped limited inside

theorem declaredWatch_execute (fuel : Nat) (input : H.Input) :
    (declaredWatch H).execute program fuel input = execute (.source H) program fuel input := by
  obtain ⟨globals, fits, filled⟩ :=
    accepted.initialized (fun _ _ => True) fun _ _ => True.intro
  refine Exec.bind_congr rfl fun _ after ran => ?_
  cases (filled input).symm.trans ran
  have agrees := @runCode_agrees H (.watched program) _ _ _ _ input _ accepted
    (declaredWatch_visits accepted fuel _) (interpreter_flows _ fuel) ⟨rfl, rfl⟩
    (fun _ _ => trivial) fits rfl
  exact (agrees.mono (fun _ _ _ => id) fun _ _ => And.right).eq fun _ _ _ => id

end Runs

/-- In every run of an accepted program, the frame of a block holds in front of each statement
just the names it began with and those declared before the statement: a run that stops
where this fails is the plain run. So no declaration finds its name in the frame already,
and no jump leaves its block. -/
theorem frames_declared (program : Program H) (accepted : Accepted program) (fuel : Nat)
    (input : H.Input) :
    (declaredWatch H).execute program fuel input = execute (.source H) program fuel input ∧
      (execute (.source H) program fuel input).Ensures (fun _ _ => True) fun failure _ =>
        ∀ name, failure ≠ .duplicateScalar name ∧ failure ≠ .duplicateArray name ∧
          failure ≠ .gotoEscaped name := by
  refine ⟨declaredWatch_execute accepted fuel input,
    (execute_unruled accepted fuel input).mono (fun _ _ _ => trivial) ?_⟩
  intro failure _ unruled name
  refine ⟨?_, ?_, ?_⟩
  · rintro rfl
    exact unruled trivial
  · rintro rfl
    exact unruled trivial
  · rintro rfl
    exact unruled trivial

/-- A run with a jump back over its own block, next to a declaration. -/
theorem jumpingProgram_declared :
    (execute (.source .sample) jumpingProgram 40 ([] : List Int)).value? = some () ∧
      (declaredWatch .sample).execute jumpingProgram 40 ([] : List Int) =
        execute (.source .sample) jumpingProgram 40 ([] : List Int) :=
  ⟨by decide +kernel, (frames_declared jumpingProgram (by decide +kernel) 40 ([] : List Int)).1⟩

end ShortHand.Language
