import ShortHand.Language.Embedding
import ShortHand.Language.Returns
import ShortHand.Language.Simulation

/-! A run on top of callers agrees with the run without them, if they bind no name that the code
takes from outside. -/

namespace ShortHand.Language

open ShortHand.Library List
open Simulation (agree_fail)

variable {H : Host}

/-- Frames against scopes, whatever the extents of the arrays are. -/
abbrev Covers (scopes : List Scope) (frames : List (Frame H)) : Prop :=
  Fitted (fun _ _ => True) scopes frames

/-- The callers bind no name that may be taken from outside. -/
def Clear (callers : List (Frame H)) (allowed : Mention → Prop) : Prop :=
  ∀ reference, allowed (.global reference) → callers.any (·.binds reference) = false

theorem clear_alone {callers : List (Frame H)} (world : callers = [] ∧ allowed = fun _ => True) :
    Clear callers allowed := by
  obtain ⟨rfl, rfl⟩ := world
  exact fun _ _ => rfl

/-- The failures that the analyzer rules out by looking at control flow and declarations. -/
def Failure.Ruled : Failure → Prop
  | .missingReturn _ | .signalEscapedFunction _ | .signalEscapedProgram | .gotoEscaped _
  | .duplicateScalar _ | .duplicateArray _ => True
  | _ => False

theorem applyBinary_unruled {op : BinaryOp} {failure : Failure}
    (failed : applyBinary op left right = .error failure) : ¬failure.Ruled := by
  unfold applyBinary at failed
  split at failed
  · unfold floatBinary at failed
    split at failed <;> try cases failed
    split at failed <;> cases failed
    exact id
  · cases failed
  · unfold intBinary at failed
    split at failed <;> try cases failed
    all_goals
      split at failed <;> cases failed
      exact id

/-- Where code runs: on top of `callers`, which only the first run has, in frames of the
shapes of `frames`, with what it may take from outside. -/
structure Region (H : Host) where
  callers : List (Frame H)
  allowed : Mention → Prop
  base : Declarations
  scopes : List Scope
  frames : List (Frame H)
  globals : Frame H

namespace Region

/-- A braced block has a frame and a scope of its own. -/
def block (region : Region H) : Region H :=
  { region with
    base := {}
    scopes := (fun _ => none) :: region.scopes
    frames := {} :: region.frames }

/-- The same place with other names in the innermost frame. -/
structure Grows (region after : Region H) : Prop where
  same : after = { region with scopes := after.scopes, frames := after.frames }
  continues : Continues region.frames after.frames

/-- A block begins on a frame of its own, whose scope has the names of `base`, or on the
global frame, which the block does not extend. -/
def Begins (region : Region H) (body : List (Stmt H)) : Prop :=
  (∃ scope rest, region.scopes = scope :: rest ∧ region.frames ≠ [] ∧
    ∀ reference, bindsIn scope reference = true ↔ region.base.Names reference) ∨
  (region.frames = [] ∧ (∀ statement ∈ body, statement.isDeclaration = false) ∧
    ∀ reference, region.globals.binds reference = true ↔ region.base.Names reference)

/-- An accepted block of a region, and the region at a position of it. -/
structure Inside (program : Program H) (region : Region H) (body : List (Stmt H)) (position : Nat)
    (here : Region H) : Prop where
  grows : region.Grows here
  scopes : here.scopes = scopesAt region.scopes body position
  passed : ∃ context, PassedBlock program context region.scopes body
  mentions : ∀ mention ∈ Stmt.mentionsAll region.scopes body, region.allowed mention
  begins : region.Begins body

end Region

/-- Two runs of a program, the first with earlier output and perhaps with callers; `kept`
says whether their failures are compared. -/
structure Scene (H : Host) where
  program : Program H
  worlds : List (Frame H) → (Mention → Prop) → Prop
  clear : worlds callers allowed → Clear callers allowed
  printed : List String := []
  disregarded : Failure → Prop
  kept : Prop
  fails (failure : Failure) : ¬failure.Ruled → kept ∨ disregarded failure

namespace Scene

variable (scene : Scene H)

structure Related (region : Region H) (state other : State H) : Prop where
  world : scene.worlds region.callers region.allowed
  covers : Covers region.scopes region.frames
  same : state = other.extend region.callers scene.printed
  frames : shapes other.locals = shapes region.frames
  globals : other.globals.shape = region.globals.shape

/-- The states of a common failure: the frames below the innermost one are as they were. -/
structure Lost (region : Region H) (state other : State H) : Prop where
  kept : scene.kept
  same : state = other.extend region.callers scene.printed
  continues : Continues region.frames other.locals

end Scene

section Laws

variable {scene : Scene H} {region here after : Region H} {state other : State H}
  {statement : Stmt H} {body : List (Stmt H)} {position : Nat} {reference : Reference}

namespace Region

theorem Grows.refl : region.Grows region := ⟨rfl, rfl, rfl⟩

theorem Grows.trans (first : region.Grows here) (later : here.Grows after) : region.Grows after :=
  ⟨later.same.trans (by rw [first.same]), first.continues.trans later.continues⟩

theorem Begins.declarable (begins : region.Begins body) (member : statement ∈ body)
    (declares : statement.isDeclaration = true) : region.scopes ≠ [] ∧ region.frames ≠ [] := by
  rcases begins with ⟨scope, rest, same, framed, _⟩ | ⟨_, plain, _⟩
  · exact ⟨by rw [same]; nofun, framed⟩
  · exact absurd declares (by simp [plain statement member])

theorem inside_block
    (passed : PassedBlock scene.program context ((fun _ => none) :: region.scopes) body)
    (mentions : ∀ mention ∈ Stmt.mentionsAll ((fun _ => none) :: region.scopes) body,
      region.allowed mention) : Inside scene.program region.block body 0 region.block := by
  refine ⟨.refl, rfl, ⟨context, passed⟩, mentions, .inl ⟨_, _, rfl, nofun, fun reference => ?_⟩⟩
  simp [bindsIn, Declarations.Names, block]

end Region

namespace Scene

theorem Related.lost {failure : Failure} (related : scene.Related region state other)
    (unruled : ¬failure.Ruled) : scene.Lost region state other ∨ scene.disregarded failure :=
  (scene.fails failure unruled).imp_left fun kept =>
    ⟨kept, related.same, .of_shapes related.frames⟩

theorem Related.visible (related : scene.Related region state other)
    (mentions : ∀ mention ∈ mentionOf region.scopes reference, region.allowed mention) :
    Visible other region.callers reference := by
  unfold mentionOf at mentions
  split at mentions
  · rename_i bound
    exact .inl ((related.covers.congr related.frames).binds bound)
  · exact .inr (scene.clear related.world reference (mentions _ (mem_singleton_self _)))

/-- A step that keeps the shapes of all frames. -/
theorem Related.step {next beside : State H} (related : scene.Related region state other)
    (same : next = beside.extend region.callers scene.printed)
    (kept : shapes beside.locals = shapes other.locals ∧
      beside.globals.shape = other.globals.shape) : scene.Related region next beside :=
  ⟨related.world, related.covers, same, kept.1.trans related.frames, kept.2.trans related.globals⟩

theorem readPlace_agrees (related : scene.Related region state other)
    (visible : Visible other region.callers place.reference) :
    (readPlace place state).Agree scene.disregarded
      (fun found state other => found.1 = place ∧ scene.Related region state other)
      (scene.Lost region) (readPlace place other) := by
  have same := related.same
  subst same
  cases place with
  | scalar name =>
    simp only [readPlace]
    rw [readScalar_extend visible]
    cases other.readScalar name with
    | none => exact (related.lost id).elim .failed .stopped
    | some value => exact .ok ⟨rfl, related⟩
  | element name index =>
    simp only [readPlace]
    rw [readArray_extend visible]
    cases other.readArray name index with
    | error fault => exact (related.lost id).elim .failed .stopped
    | ok value => exact .ok ⟨rfl, related⟩

theorem store_agrees (storing : Storing) (related : scene.Related region state other)
    (visible : Visible other region.callers place.reference) :
    (store storing.undeclared storing.outside value place state).Agree scene.disregarded
      (fun _ => scene.Related region) (scene.Lost region)
      (store storing.undeclared storing.outside value place other) := by
  have same := related.same
  subst same
  cases place with
  | scalar name =>
    simp only [store]
    rw [writeScalar_extend visible]
    cases written : other.writeScalar name value with
    | none => exact (related.lost (by cases storing <;> exact id)).elim .failed .stopped
    | some next => exact .ok (related.step rfl (writeScalar_shapes written))
  | element name index =>
    simp only [store]
    rw [writeArray_extend visible]
    cases written : other.writeArray name index value with
    | error fault => exact (related.lost (by cases storing <;> exact id)).elim .failed .stopped
    | ok next => exact .ok (related.step rfl (writeArray_shapes written))

theorem scanValue_agrees (related : scene.Related region state other) :
    (scanValue current state).Agree scene.disregarded (fun _ => scene.Related region)
      (scene.Lost region) (scanValue current other) := by
  have same := related.same
  subst same
  unfold scanValue
  rcases current with ⟨_ | _ | _ | _ | _, _, _, _⟩ <;> dsimp only [State.extend] <;> split <;>
    first | exact (related.lost id).elim .failed .stopped | exact .ok (related.step rfl ⟨rfl, rfl⟩)

/-- A declaration adds to the innermost frame what it adds to the innermost scope. -/
theorem declaration_agrees (related : scene.Related region state other)
    (declarable : region.scopes ≠ [] ∧ region.frames ≠ [])
    (passed : (visitStmt scene.program context region.scopes (.declaration block)).2 = []) :
    (initializeDeclarations block state).Agree scene.disregarded
      (fun _ state other => ∃ next, (region.Grows next ∧
        next.scopes = Stmt.declare region.scopes (.declaration block : Stmt H)) ∧
        scene.Related next state other)
      (scene.Lost region) (initializeDeclarations block other) := by
  have same := related.same
  subst same
  obtain ⟨scope, scopes, nested⟩ := exists_cons_of_ne_nil declarable.1
  obtain ⟨frame, rest, framed⟩ : ∃ frame rest, other.locals = frame :: rest := by
    refine exists_cons_of_ne_nil fun none => declarable.2 ?_
    exact map_eq_nil_iff.mp (related.frames.symm.trans (by rw [none]; rfl))
  have covers := related.covers.congr related.frames
  rw [nested, framed] at covers
  rw [nested] at passed
  simp only [visitStmt, append_eq_nil_iff] at passed
  obtain ⟨grown, replaces, fits⟩ :=
    initializeDeclarations_fits covers.1 (fun _ _ => True.intro) passed.2
  have inner : other.innermost = frame := by rw [State.innermost, framed]; rfl
  have outer : (other.extend region.callers scene.printed).innermost = frame := by
    rw [State.extend, framed]
    rfl
  have extended : (other.extend region.callers scene.printed).setInnermost grown =
      (other.setInnermost grown).extend region.callers scene.printed := by
    simp [State.setInnermost, State.extend, framed]
  have after : (other.setInnermost grown).locals = grown :: rest := by
    rw [State.setInnermost, framed]
  rw [replaces _ inner, replaces _ outer, extended]
  have continues : Continues region.frames (grown :: rest) := by
    have earlier := Continues.of_shapes related.frames.symm
    rw [framed] at earlier
    exact ⟨earlier.1.symm ▸ rfl, earlier.2.symm⟩
  refine .ok ⟨{ region with scopes := _, frames := grown :: rest }, ⟨⟨rfl, continues⟩, rfl⟩,
    related.world, ?_, rfl, by rw [after], ?_⟩
  · rw [nested]
    exact ⟨fits, covers.2⟩
  · rw [State.setInnermost, framed]
    exact related.globals

/-- What is left of a block when its frame is gone. -/
theorem popped (scene : Scene H) (continues : Continues region.block.frames other.locals) :
    (other.extend region.callers scene.printed).pop = other.pop.extend region.callers scene.printed ∧
      shapes other.pop.locals = shapes region.frames := by
  refine ⟨?_, continues.2⟩
  rcases other with ⟨_, _ | ⟨frame, rest⟩⟩
  · cases continues.1
  · rfl

end Scene

/-- What the analyzer and the region say about a statement. -/
structure Region.Admits (program : Program H) (region : Region H) (statement : Stmt H) : Prop where
  passed : ∃ context : Context, (visitStmt program context region.scopes statement).2 = []
  mentions : ∀ mention ∈ statement.mentions region.scopes, region.allowed mention
  declarable : statement.isDeclaration = true → region.scopes ≠ [] ∧ region.frames ≠ []

theorem Region.Admits.parts (admits : region.Admits scene.program statement) :
    statement.Parts (fun code => ∀ mention ∈ code.mentions region.scopes, region.allowed mention)
      (fun place => ∀ mention ∈ place.mentions region.scopes, region.allowed mention)
      (fun place => ∀ mention ∈ place.mentions region.scopes, region.allowed mention)
      fun body => Inside scene.program region.block body 0 region.block := by
  obtain ⟨⟨context, passed⟩, mentions, _⟩ := admits
  cases statement with
  | declaration | label | breakLoop | continueLoop | ai => trivial
  | expression value =>
    exact mentions
  | assignment place value =>
    rwa [Stmt.mentions, forall_mem_append] at mentions
  | block body =>
    rw [visitStmt, append_eq_nil_iff] at passed
    exact inside_block passed.2 mentions
  | ifThen condition ifBlock | whileLoop condition body =>
    rw [Stmt.mentions, forall_mem_append] at mentions
    simp only [visitStmt, append_eq_nil_iff] at passed
    exact ⟨mentions.1, inside_block passed.2 mentions.2⟩
  | ifElse condition ifBlock elseBlock =>
    simp only [Stmt.mentions, forall_mem_append] at mentions
    simp only [visitStmt, append_eq_nil_iff] at passed
    exact ⟨mentions.1.1, inside_block passed.1.1.2 mentions.1.2, inside_block passed.2 mentions.2⟩
  | forLoop count start step limit body =>
    simp only [Stmt.mentions, forall_mem_append] at mentions
    simp only [visitStmt, append_eq_nil_iff] at passed
    obtain ⟨⟨⟨⟨counted, started⟩, stepped⟩, limited⟩, inner⟩ := mentions
    exact ⟨started, counted, stepped, limited, inside_block passed.2 inner⟩
  | goto label condition | returnFrom condition =>
    cases condition with
    | none => trivial
    | some condition =>
      exact mentions
  | read targets | print items =>
    exact fun part member mention here =>
      mentions mention (mem_flatMap.mpr ⟨part, member, here⟩)
  | greenaiReport workload inferences watts seconds =>
    simp only [Stmt.mentions, forall_mem_append] at mentions
    exact ⟨mentions.1.1, mentions.1.2, mentions.2⟩

theorem Variable.mentions_reference {place : Variable H} {mention : Mention}
    (member : mention ∈ mentionOf scopes place.reference) : mention ∈ place.mentions scopes := by
  cases place with
  | simple name => rwa [Variable.mentions]
  | array name index =>
    exact mem_append_left _ member

theorem Expr.mentionsAll_eq :
    Expr.mentionsAll scopes arguments = arguments.flatMap (Expr.mentions scopes) := by
  induction arguments with
  | nil => rw [Expr.mentionsAll]; rfl
  | cons argument rest ih => rw [Expr.mentionsAll, ih, flatMap_cons]

namespace Region.Inside

theorem here_allowed (inside : Inside scene.program region body position here) :
    here.allowed = region.allowed := by rw [inside.grows.same]

theorem admits (inside : Inside scene.program region body position here)
    (found : body[position]? = some statement) : here.Admits scene.program statement := by
  obtain ⟨context, passed⟩ := inside.passed
  refine ⟨⟨context.inBlock body, ?_⟩, ?_, fun declares => ?_⟩
  · rw [inside.scopes]
    exact (visitStmts_at passed found).2
  · rw [inside.scopes, inside.here_allowed]
    exact fun mention member => inside.mentions mention (mentions_at found member)
  obtain ⟨nested, framed⟩ := inside.begins.declarable (mem_of_getElem? found) declares
  rw [inside.scopes, ← length_pos_iff, ← length_pos_iff, scopesAt_length,
    inside.grows.continues.1]
  exact ⟨length_pos_iff.mpr nested, length_pos_iff.mpr framed⟩

theorem next (inside : Inside scene.program region body position here)
    (found : body[position]? = some statement) (grows : here.Grows after)
    (declared : after.scopes = statement.declare here.scopes) :
    Inside scene.program region body (position + 1) after := by
  refine ⟨inside.grows.trans grows, ?_, inside.passed, inside.mentions, inside.begins⟩
  rw [declared, inside.scopes, scopesAt_succ found]

/-- The region a jump lands in is the one it starts from. -/
theorem lands (inside : Inside scene.program region body position here)
    (found : body[position]? = some (.goto label condition)) (grows : here.Grows after)
    (declared : after.scopes = here.scopes) (landed : labelIndex label body = some target) :
    Inside scene.program region body (target + 1) after := by
  obtain ⟨context, passed⟩ := inside.passed
  refine ⟨inside.grows.trans grows, ?_, inside.passed, inside.mentions, inside.begins⟩
  have crossing := (visitStmts_at passed found).1
  rw [scopesAt_jump found (by simpa using crossing) landed, declared, inside.scopes]

/-- The target of an accepted jump is in its block. -/
theorem labelled (inside : Inside scene.program region body position here)
    (found : body[position]? = some (.goto label condition)) : labelIndex label body ≠ none := by
  obtain ⟨context, passed⟩ := inside.passed
  have visited := (visitStmts_at passed found).2
  rw [visitStmt, append_eq_nil_iff] at visited
  exact labelIndex_of_goto visited.1

end Region.Inside

end Laws

/-- The two runs of a scene as a simulation. -/
def Scene.simulation (scene : Scene H) : Simulation H where
  World := Region H
  Related := scene.Related
  Lost := scene.Lost
  disregarded := scene.disregarded
  base := Region.base
  inner := Region.block
  expression region code := ∀ mention ∈ code.mentions region.scopes, region.allowed mention
  Valued _ _ _ := True
  target region place := ∀ mention ∈ place.mentions region.scopes, region.allowed mention
  counter region place := ∀ mention ∈ place.mentions region.scopes, region.allowed mention
  Found region _ found :=
    ∀ mention ∈ mentionOf region.scopes found.1.reference, region.allowed mention
  Fits region place _ := ∀ mention ∈ mentionOf region.scopes place.reference, region.allowed mention
  Admits := Region.Admits scene.program
  Declares statement region after :=
    region.Grows after ∧ after.scopes = statement.declare region.scopes
  Inside := Region.Inside scene.program
  base_inner := rfl
  parts admits := admits.parts
  index mentions mention member := by
    rw [Variable.mentions] at mentions
    exact mentions mention (mem_append_right _ member)
  counts := id
  depth related := by rw [related.same]; rfl
  transfers related := by rw [related.same]; rfl
  emits text related := related.step (by rw [related.same]; simp [State.extend]) ⟨rfl, rfl⟩
  performs statement related :=
    related.step (by rw [related.same]; simp [State.extend]) ⟨rfl, rfl⟩
  jumps related := related.step (by rw [related.same]; rfl) ⟨rfl, rfl⟩
  returns _ _ related := related.step (by rw [related.same]; rfl) ⟨rfl, rfl⟩
  constant _ _ := trivial
  names mentions := by rwa [Expr.mentions] at mentions
  refers _ _ := trivial
  operands mentions := by rwa [Expr.mentions, forall_mem_append] at mentions
  applies _ _ _ related := by
    split
    · rename_i failure failed
      exact related.lost (applyBinary_unruled failed)
    · trivial
  passes mentions argument member mention here := by
    rw [Expr.mentions, forall_mem_cons, Expr.mentionsAll_eq] at mentions
    exact mentions.2 mention (mem_flatMap.mpr ⟨argument, member, here⟩)
  assigns _ _ found := found
  advances _ _ found := found
  reads mentions same related := by
    have named := fun mention member =>
      mentions mention (Variable.mentions_reference (same ▸ member))
    refine (Scene.readPlace_agrees related (related.visible named)).mono ?_ fun _ _ => id
    rintro found _ _ ⟨rfl, kept⟩
    exact ⟨named, kept⟩
  stores storing mentions related := Scene.store_agrees storing related (related.visible mentions)
  declares admits related := by
    obtain ⟨context, passed⟩ := admits.passed
    exact Scene.declaration_agrees related (admits.declarable rfl) passed
  keeps plain := ⟨.refl, (Stmt.declare_of_not plain).symm⟩
  budget failure related := by rcases failure with rfl | rfl <;> exact related.lost id
  topLevel _ related _ := related.lost id
  push related := by
    refine ⟨related.world, related.covers.push, ?_, ?_, related.globals⟩
    · rw [related.same]
      rfl
    · simp only [State.push, Region.block, shapes, map_cons]
      exact congrArg _ related.frames
  pop {region last body position state other _ _} before inside related := by
    have continues := inside.grows.continues.trans (.of_shapes related.frames)
    have same := related.same
    rw [inside.grows.same] at same
    obtain ⟨extended, kept⟩ := scene.popped continues
    refine ⟨before.world, before.covers, ?_, kept, ?_⟩
    · rwa [same]
    · rw [State.pop, related.globals, inside.grows.same]
      rfl
  lostPop {region state other} lost := by
    obtain ⟨extended, kept⟩ := scene.popped lost.continues
    refine ⟨lost.kept, ?_, .of_shapes kept⟩
    rwa [lost.same]
  lostInside inside lost := by
    refine ⟨lost.kept, ?_, inside.grows.continues.trans lost.continues⟩
    rw [lost.same, inside.grows.same]
  admitted inside found := inside.admits found
  next inside found declared := inside.next found declared.1 declared.2
  lands inside found declared landed := inside.lands found declared.1 declared.2 landed
  escapes inside found _ escaped _ := absurd escaped (inside.labelled found)

namespace Scene

variable {scene : Scene H} {region entered : Region H} {state other : State H}
  {first second : Visitor H} {linkage beside : Linkage H} {function : Function H} {frame : Frame H}
  {name : String} {arguments : List (RuntimeValue H)}

/-- The body of an accepted function ends with a return unless the function is void. -/
theorem runBody_agrees (visits : scene.simulation.Visits entered.base first second)
    (flows : Flows scene.program second) (checked : function.Checked scene.program)
    (inside : entered.Inside scene.program function.body 0 entered)
    (related : scene.Related entered state other) :
    (runBody first function state).Agree scene.disregarded
      (fun _ state other => ∃ last, entered.Grows last ∧ scene.Related last state other)
      (scene.Lost entered) (runBody second function other) := by
  have ran := (visits.blockFrom rfl inside related).ensuring (flows.blockFrom checked.body 0 other)
  refine Outcome.Agree.bind ran ?_
  rintro exit _ other ⟨⟨_, last, within, kept⟩, expected, ending⟩
  have same := kept.same
  subst same
  cases exit with
  | breakLoop | continueLoop => exact absurd rfl expected
  | returned => exact .ok ⟨last, within.grows, kept⟩
  | normal =>
    have void : function.type = .void := by
      by_contra valued
      exact ending (ending_start (checked.returns valued)) rfl
    simp only [void, if_true]
    exact .ok ⟨last, within.grows, kept⟩

/-- A call in a region of its own: what is left when the frames of the call are gone. -/
theorem activate_agrees (entered : Region H)
    (visits : scene.simulation.Visits entered.base first second)
    (flows : Flows scene.program second) (checked : function.Checked scene.program)
    (inside : entered.Inside scene.program function.body 0 entered)
    (related : scene.Related region state other)
    (enters : scene.Related entered (enterCall linkage function frame state)
      (enterCall beside function frame other))
    (leaves : ∀ after : State H, Continues entered.frames after.locals →
      leaveCall linkage state (after.extend entered.callers scene.printed) =
        (leaveCall beside other after).extend region.callers scene.printed ∧
      shapes (leaveCall beside other after).locals = shapes region.frames)
    (globals : entered.globals = other.globals) :
    scene.simulation.Agrees region (fun _ => True) (activate linkage first function frame state)
      (activate beside second function frame other) := by
  refine Outcome.Agree.bracket (runBody_agrees visits flows checked inside enters) ?_ ?_
  · rintro value _ after ⟨last, grows, kept⟩
    have same := kept.same
    rw [grows.same] at same
    subst same
    obtain ⟨left, below⟩ := leaves after (grows.continues.trans (.of_shapes kept.frames))
    refine ⟨trivial, related.world, related.covers, left, below, ?_⟩
    rw [← related.globals, ← globals]
    exact kept.globals.trans (by rw [grows.same])
  · rintro _ after ⟨kept, rfl, continues⟩
    obtain ⟨left, below⟩ := leaves after continues
    exact ⟨kept, left, .of_shapes below⟩

/-- The checks in front of a call do not look at the frames. -/
theorem invokeFunction_agrees (accepted : Accepted scene.program)
    (related : scene.Related region state other)
    (refused : ∀ function, linkage.refuses function state = true → scene.disregarded (.hidden name))
    (free : ∀ function, beside.refuses function other = false)
    (activated : ∀ function frame, scene.program.findFunction name = some function →
      function.Checked scene.program → frame.Fits (fun _ _ => True) (parameterScope function) →
      linkage.refuses function state = false →
      scene.simulation.Agrees region (fun _ => True) (activate linkage first function frame state)
        (activate beside second function frame other)) :
    scene.simulation.Agrees region (fun _ => True)
      (invokeFunction linkage scene.program first name arguments state)
      (invokeFunction beside scene.program second name arguments other) := by
  unfold invokeFunction
  cases found : scene.program.findFunction name with
  | none => exact agree_fail (related.lost id)
  | some function =>
    have checked := accepted.function (Program.findFunction_mem found).1
    have depth : state.callDepth = other.callDepth := by rw [related.same]; rfl
    dsimp only
    split
    · exact agree_fail (related.lost id)
    split
    · exact agree_fail (related.lost id)
    rename_i arity
    simp only [Exec.get_bind, depth]
    split
    · exact agree_fail (related.lost id)
    cases bound : bindArguments function.parameters.typedScalars arguments {} with
    | none => exact agree_fail (related.lost id)
    | some frame =>
      simp only [free function, Bool.false_eq_true, if_false]
      cases refusal : linkage.refuses function state with
      | true => exact .stopped (refused function refusal)
      | false =>
        exact activated function frame found checked (checked.bind (not_not.mp arity) bound) refusal

/-- The region of a call on top of all frames. -/
def called (region : Region H) (function : Function H) (frame : Frame H) (other : State H) :
    Region H :=
  { region with
    base := function.parameters
    scopes := [parameterScope function]
    frames := frame :: other.locals
    globals := other.globals }

theorem inside_called (accepted : Accepted scene.program)
    (member : function ∈ scene.program.functions)
    (mentions : ∀ mention ∈ function.mentions, entered.allowed mention)
    (base : entered.base = function.parameters) (scopes : entered.scopes = [parameterScope function])
    (frames : entered.frames ≠ []) :
    entered.Inside scene.program function.body 0 entered := by
  refine ⟨.refl, rfl, ⟨_, scopes ▸ (accepted.function member).body⟩, ?_,
    .inl ⟨_, _, scopes, frames, ?_⟩⟩
  · rwa [scopes]
  · rw [base]
    exact parameterScope_binds accepted member

/-- Calls of the source's linkage, perhaps with refusals in the first run. -/
theorem invokeFunction_source (accepted : Accepted scene.program)
    (refused : ∀ {name function state}, refuses function state = true →
      scene.disregarded (.hidden name))
    (closed : ∀ {function}, scene.program.findFunction name = some function →
      ∀ mention ∈ function.mentions, region.allowed mention)
    (visits : ∀ {function}, scene.program.findFunction name = some function →
      scene.simulation.Visits function.parameters first second)
    (flows : Flows scene.program second) (related : scene.Related region state other) :
    scene.simulation.Agrees region (fun _ => True)
      (invokeFunction (.guarded refuses) scene.program first name arguments state)
      (invokeFunction (.source H) scene.program second name arguments other) := by
  refine invokeFunction_agrees accepted related (fun _ => refused) (fun _ => rfl) ?_
  intro function frame found checked fits _
  have same := related.same
  subst same
  refine activate_agrees (called region function frame other) (visits found) flows checked
    (inside_called accepted (Program.findFunction_mem found).1 (closed found) rfl rfl nofun) related
    ?_ ?_ rfl
  · exact ⟨related.world, ⟨fits, trivial⟩, rfl, rfl, rfl⟩
  rintro after ⟨length, below⟩
  refine ⟨?_, below.trans related.frames⟩
  rcases after with ⟨_, _ | ⟨first, rest⟩⟩
  · cases length
  · rfl

theorem minus_admitted (admitted : scene.simulation.expression region (.unaryMinus operand)) :
    scene.simulation.expression region operand ∧ ∀ value, scene.simulation.Valued region operand value →
      scene.simulation.Valued region (.unaryMinus operand) (applyMinus value) := by
  exact ⟨admitted, fun _ _ => trivial⟩

theorem call_allowed {arguments : List (Expr H)}
    (admitted : scene.simulation.expression region (.call name arguments)) :
    region.allowed (.call name) := by
  change ∀ mention ∈ Expr.mentions _ _, _ at admitted
  rw [Expr.mentions, forall_mem_cons] at admitted
  exact admitted.1

theorem scan_agrees (_ : scene.simulation.target region place)
    (holds : scene.simulation.Found region place found)
    (related : scene.Related region state other) :
    scene.simulation.Agrees region (scene.simulation.Fits region found.1)
      (scanValue found.2 state) (scanValue found.2 other) :=
  (scanValue_agrees related).mono (fun _ _ _ kept => ⟨holds, kept⟩) fun _ _ => id

/-- The interpreter at every depth, once calls agree. -/
theorem interpreter_visits
    (invoke : ∀ {first second : Visitor H}, (∀ base, scene.simulation.Visits base first second) →
      Flows scene.program second → ∀ {region name arguments state other},
      region.allowed (.call name) → scene.Related region state other →
      scene.simulation.Agrees region (fun _ => True)
        (invokeFunction linkage scene.program first name arguments state)
        (invokeFunction beside scene.program second name arguments other))
    (fuel : Nat) (base : Declarations) :
    scene.simulation.Visits base (interpreter linkage scene.program fuel)
      (interpreter beside scene.program fuel) := by
  induction fuel generalizing base with
  | zero => exact Simulation.visits_exhausted
  | succ fuel ih =>
    exact {
      evaluate := fun admitted related => Simulation.evaluate_agrees (ih base) minus_admitted
        (fun same _ kept => invoke ih (interpreter_flows beside fuel)
          (call_allowed (same ▸ admitted)) kept) admitted related
      statement := Simulation.statement_agrees (ih {}) scan_agrees
      blockFrom := Simulation.visitBlockFrom_agrees (ih base)
      whileLoop := fun admitted inside related =>
        Simulation.visitWhileLoop_agrees (ih {}) related admitted inside
      forLoop := fun counted stepped limited inside related =>
        Simulation.visitForLoop_agrees (ih {}) related counted stepped limited inside }

/-- The region of the statements of the main program. -/
def main (program : Program H) (allowed : Mention → Prop) (globals : Frame H) : Region H :=
  ⟨[], allowed, program.globals, [fun _ => none], [], globals⟩

/-- The statements of the main program, which have no frame of their own. -/
theorem runCode_agrees {input : H.Input}
    {declared : String → Nat → Prop} (accepted : Accepted scene.program)
    (visits : scene.simulation.Visits scene.program.globals first second)
    (flows : Flows scene.program second) (world : scene.worlds [] allowed)
    (mentions : ∀ mention ∈ Stmt.mentionsAll [fun _ => none] scene.program.code, allowed mention)
    (fits : globals.Fits declared (lookupGlobal scene.program)) (unprinted : scene.printed = []) :
    (runCode scene.program first { initialState H input with globals }).Agree scene.disregarded
      (fun _ => Eq) (fun state other => scene.kept ∧ state = other)
      (runCode scene.program second { initialState H input with globals }) := by
  have inside : (main scene.program allowed globals).Inside scene.program scene.program.code 0
      (main scene.program allowed globals) := by
    refine ⟨.refl, rfl, ⟨_, accepted.code⟩, mentions, .inr ⟨rfl, scene.program.undeclared, ?_⟩⟩
    intro reference
    rw [main, fits.binds, ← accepted.globalScope.2]
    refine (declareIn_binds accepted.globalScope.1 reference).trans ?_
    rw [entries_binds]
    simp [bindsIn]
  have related : scene.Related (main scene.program allowed globals)
      { initialState H input with globals } { initialState H input with globals } :=
    ⟨world, ⟨fun _ => rfl, trivial⟩, by rw [unprinted]; rfl, rfl, rfl⟩
  have ran := (visits.blockFrom rfl inside related).ensuring (flows.blockFrom accepted.code 0 _)
  have same : ∀ {state other : State H}, state = other.extend [] scene.printed → state = other := by
    intro state other extended
    rw [extended, unprinted]
    simp [State.extend]
  refine Outcome.Agree.bind (ran.mono (fun _ _ _ => id) fun _ _ lost => ⟨lost.kept, same lost.same⟩) ?_
  rintro exit state other ⟨⟨_, last, within, kept⟩, expected, _⟩
  have extended := kept.same
  rw [within.grows.same] at extended
  cases exit with
  | normal => exact .ok (same extended)
  | returned | breakLoop | continueLoop => exact absurd rfl expected

end Scene

end ShortHand.Language
