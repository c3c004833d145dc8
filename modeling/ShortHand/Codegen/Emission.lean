import ShortHand.Codegen.Generator

/-! What building an expression adds: code that writes registers which did not exist before. -/

namespace ShortHand.Codegen

open ShortHand.Language ShortHand.Library Instruction List

variable {H : Host} {α β : Type}

namespace SymbolTable

variable (table : SymbolTable) (name : String)

theorem getOrInsertFunction_grows (arity : Nat) (returns : LowType) (reserved : Reserved name) :
    table.symbols <+: (table.getOrInsertFunction name arity returns reserved).symbols := by
  unfold getOrInsertFunction
  split
  · exact prefix_refl _
  · exact prefix_append _ _

theorem requestCheck_grows : table.symbols <+: (requestCheck table).symbols := by
  have named : table.symbols <+: (table.createGlobalString "runtime_error_text").symbols :=
    prefix_append _ _
  exact (named.trans (getOrInsertFunction_grows _ _ _ _ _)).trans
    (getOrInsertFunction_grows _ _ _ _ _)

/-- A symbol that is found stays the one that is found. -/
theorem getNamedGlobal_grows {later : SymbolTable} (grows : table.symbols <+: later.symbols)
    (found : table.getNamedGlobal name = some symbol) :
    later.getNamedGlobal name = some symbol := by
  obtain ⟨added, same⟩ := grows
  unfold getNamedGlobal at found ⊢
  rw [← same, find?_append, found]
  rfl

end SymbolTable

/-- A later state of the builder. -/
structure Grown (before after : Builder H) : Prop where
  next : before.next ≤ after.next
  symbols : before.table.symbols <+: after.table.symbols

theorem Grown.refl (builder : Builder H) : Grown builder builder :=
  ⟨Nat.le_refl _, prefix_refl _⟩

theorem Grown.trans (start : Grown first second) (next : Grown second third) : Grown first third :=
  ⟨Nat.le_trans start.next next.next, start.symbols.trans next.symbols⟩

theorem Grown.storage (grown : Grown before later)
    (found : storage H names before.table name = some place) :
    storage H names later.table name = some place := by
  unfold Codegen.storage at found ⊢
  cases here : findLocal name names.locals with
  | some entry =>
    rwa [here] at found
  | none =>
    rw [here] at found
    cases outside : before.table.getNamedGlobal name with
    | none =>
      rw [outside] at found
      cases found
    | some symbol =>
      rw [outside] at found
      rwa [before.table.getNamedGlobal_grows name grown.symbols outside]

theorem Build.bind_assoc (action : Build H α) (first : α → Build H β) (second : β → Build H γ) :
    action >>= first >>= second = action >>= fun value => first value >>= second := by
  funext names builder
  simp only [Bind.bind]
  rcases action names builder with crash | ⟨value, middle, code⟩
  · rfl
  rcases ran : first value names middle with crash | ⟨result, last, added⟩
  · simp only [ran]
  simp only [ran]
  rcases second result names last with crash | ⟨final, ended, more⟩
  · rfl
  · simp only [Code.append, append_assoc]

/-- A visit that ends and adds a piece of code. -/
def Emits (action : Build H α) (names : Names) (builder : Builder H)
    (post : α → Builder H → List (Entry H) → Prop) : Prop :=
  ∃ value after code, action names builder = .ok (value, after, code) ∧ Grown builder after ∧
    post value after code.entries

namespace Emits

variable {action : Build H α} {names : Names} {builder : Builder H}
  {post weaker : α → Builder H → List (Entry H) → Prop}

theorem pure (holds : post value builder []) : Emits (pure value) names builder post :=
  ⟨value, builder, .empty, rfl, .refl builder, holds⟩

theorem mono (emits : Emits action names builder post)
    (implies : ∀ value after piece, Grown builder after → post value after piece →
      weaker value after piece) : Emits action names builder weaker := by
  obtain ⟨value, after, code, ran, grown, holds⟩ := emits
  exact ⟨value, after, code, ran, grown, implies value after _ grown holds⟩

/-- A first part whose run is known. -/
theorem step {result : β → Builder H → List (Entry H) → Prop} {value : α}
    {after : Builder H} {code : Code H} (ran : action names builder = .ok (value, after, code))
    (grown : Grown builder after) (next : Emits (later value) names after fun final last added =>
      result final last (code.entries ++ added)) :
    Emits (action >>= later) names builder result := by
  obtain ⟨final, last, added, finished, more, ends⟩ := next
  refine ⟨final, last, code.append added, ?_, grown.trans more, ends⟩
  simp only [Bind.bind, ran, finished]

/-- A first part that returns and changes nothing. -/
theorem after {result : β → Builder H → List (Entry H) → Prop}
    (ran : action names builder = .ok (value, builder, .empty))
    (next : Emits (later value) names builder result) :
    Emits (action >>= later) names builder result :=
  step ran (.refl builder) next

theorem bind {result : β → Builder H → List (Entry H) → Prop}
    (start : Emits action names builder post)
    (next : ∀ value after piece, Grown builder after → post value after piece →
      Emits (later value) names after fun final last added => result final last (piece ++ added)) :
    Emits (action >>= later) names builder result := by
  obtain ⟨value, after, code, ran, grown, holds⟩ := start
  exact step ran grown (next value after _ grown holds)

end Emits

/-- The registers an operand reads exist already. -/
def Operand.Below (bound : Nat) : Operand H → Prop
  | .register index => index < bound
  | _ => True

theorem register_below (below : index < bound) :
    (Operand.register index : Operand H).Below bound := below

theorem Operand.Below.mono {operand : Operand H} (below : operand.Below bound)
    (le : bound ≤ larger) : operand.Below larger := by
  cases operand with
  | register index => exact Nat.lt_of_lt_of_le below le
  | _ => trivial

/-- A later activation in which the registers below the bound are as they were. -/
structure Activation.Keeps (bound : Nat) (before after : Activation H) : Prop where
  number : after.number = before.number
  arguments : after.arguments = before.arguments
  registers : ∀ index < bound, after.registers index = before.registers index

namespace Activation.Keeps

variable {bound smaller index : Nat} {first second third : Activation H}

theorem refl (activation : Activation H) : activation.Keeps bound activation :=
  ⟨rfl, rfl, fun _ _ => rfl⟩

theorem trans (start : first.Keeps bound second) (next : second.Keeps bound third) :
    first.Keeps bound third :=
  ⟨next.number.trans start.number, next.arguments.trans start.arguments, fun index below =>
    (next.registers index below).trans (start.registers index below)⟩

theorem mono (keeps : first.Keeps bound second) (le : smaller ≤ bound) :
    first.Keeps smaller second :=
  ⟨keeps.number, keeps.arguments, fun index below =>
    keeps.registers index (Nat.lt_of_lt_of_le below le)⟩

theorem set (keeps : first.Keeps bound second) (le : bound ≤ index) (value : Word H) :
    first.Keeps bound (second.set index value) := by
  refine ⟨keeps.number, keeps.arguments, fun other below => ?_⟩
  have apart : other ≠ index := Nat.ne_of_lt (Nat.lt_of_lt_of_le below le)
  exact (Function.update_of_ne apart _ _).trans (keeps.registers other below)

theorem write (activation : Activation H) (value : Word H) :
    activation.Keeps index (activation.set index value) :=
  (refl activation).set (Nat.le_refl _) value

theorem evaluate {operand : Operand H} (keeps : first.Keeps bound second)
    (below : operand.Below bound) : operand.evaluate second = operand.evaluate first := by
  cases operand with
  | register index => simp only [Operand.evaluate, keeps.registers index below]
  | argument index => simp only [Operand.evaluate, keeps.arguments]
  | slot index => simp only [Operand.evaluate, keeps.number]
  | _ => rfl

end Activation.Keeps

theorem evaluate_set_of_below {operand : Operand H} (below : operand.Below index) :
    operand.evaluate (activation.set index value) = operand.evaluate activation :=
  (Activation.Keeps.write activation value).evaluate below

@[simp] theorem evaluate_register_set {activation : Activation H} :
    (Operand.register index).evaluate (activation.set index value) = .ok value := by
  simp [Operand.evaluate, Activation.set]

section Running

variable {watch : Watch} {calls : Callee H} {name : String} {number : Nat}
  {instruction : Instruction H} {rest : List (Entry H)} {activation : Activation H}
  {machine after : Machine H} {value : Word H} {fault : Fault}

theorem runEntries_append :
    runEntries watch calls (first ++ second) state =
      (runEntries watch calls first state).bind (runEntries watch calls second) :=
  foldlM_append

theorem runEntries_cons_ok
    (ran : instruction.run watch calls name activation machine = .ok (value, after)) :
    runEntries watch calls (⟨name, number, instruction⟩ :: rest) (activation, machine) =
      runEntries watch calls rest (activation.set number value, after) := by
  simp only [runEntries, foldlM_cons, Entry.run, ran]
  rfl

theorem runEntries_cons_error
    (ran : instruction.run watch calls name activation machine = .error fault) :
    runEntries watch calls (⟨name, number, instruction⟩ :: rest) (activation, machine) =
      .error fault := by
  simp only [runEntries, foldlM_cons, Entry.run, ran]
  rfl

theorem run_binary (leftValue : left.evaluate activation = .ok first)
    (rightValue : right.evaluate activation = .ok second) :
    (binary op left right).run watch calls name activation machine =
      (binaryWord watch name op first second).map (·, machine) := by
  simp only [run, leftValue, rightValue]
  change (binaryWord watch name op first second).bind (fun result => .ok (result, machine)) = _
  cases binaryWord watch name op first second <;> rfl

theorem run_binary_ok (leftValue : left.evaluate activation = .ok first)
    (rightValue : right.evaluate activation = .ok second)
    (computes : binaryWord watch name op first second = .ok value) :
    (binary op left right).run watch calls name activation machine =
      .ok (value, machine) := by
  rw [run_binary leftValue rightValue, computes]
  rfl

theorem run_failIf_stops (holds : condition.evaluate activation = .ok (.bit true)) :
    (failIf condition code message).run watch calls name activation machine =
      .error (.diagnostic code message) := by
  simp only [run, holds]
  rfl

theorem run_failIf_passes (fails : condition.evaluate activation = .ok (.bit false)) :
    (failIf condition code message).run watch calls name activation machine =
      .ok (.nothing, machine) := by
  simp only [run, fails]
  rfl

theorem run_select (holds : condition.evaluate activation = .ok (.bit flag))
    (chosen : (if flag then first else second).evaluate activation = .ok value) :
    (select condition first second).run watch calls name activation machine =
      .ok (value, machine) := by
  simp only [run, holds]
  change ((if flag then first else second).evaluate activation).bind
    (fun chosen => .ok (chosen, machine)) = _
  rw [chosen]
  rfl

theorem run_strcmp (leftValue : left.evaluate activation = .ok (.text first))
    (rightValue : right.evaluate activation = .ok (.text second)) :
    (strcmp left right).run watch calls name activation machine =
      .ok (.int (if first = second then 0 else 1), machine) := by
  simp only [run, leftValue, rightValue]
  rfl

theorem run_invert (holds : operand.evaluate activation = .ok (.bit flag)) :
    (invert operand).run watch calls name activation machine =
      .ok (.bit !flag, machine) := by
  simp only [run, holds]
  rfl

theorem run_extend (holds : operand.evaluate activation = .ok (.bit flag)) :
    (extend operand).run watch calls name activation machine =
      .ok (.int (if flag then 1 else 0), machine) := by
  simp only [run, holds]
  rfl

end Running

end ShortHand.Codegen
