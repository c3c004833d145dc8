import ShortHand.Enterprise.Transitions

/-! Runs of statements. Every statement consumes a token, so the bound of the recursion is never
reached. -/

namespace ShortHand.Enterprise

open ShortHand.Library

variable {numerals : Numerals}

/-- A sequence of steps with their records, in the order of the text. -/
inductive Run : Env → List Executed → Env → Prop where
  | done {env : Env} : Run env [] env
  | next {before middle after : Env} {first : Executed} {later : List Executed}
      (step : Step before first middle) (rest : Run middle later after) :
      Run before (first :: later) after

theorem Run.split (run : Run before (first ++ later) after) :
    ∃ middle, Run before first middle ∧ Run middle later after := by
  induction first generalizing before with
  | nil => exact ⟨before, .done, run⟩
  | cons executed rest ih =>
    cases run with
    | next step remaining =>
      obtain ⟨middle, earlier, last⟩ := ih remaining
      exact ⟨middle, .next step earlier, last⟩

theorem statements_run (accepted : statements numerals room parser = .ok (last, history)) :
    Run parser.env history last.env ∧
      last.program.body = parser.program.body ++ history.flatMap Executed.emitted := by
  induction room generalizing parser history with
  | zero =>
    rw [statements] at accepted
    split at accepted
    · cases accepted
      exact ⟨.done, (List.append_nil _).symm⟩
    · cases accepted
  | succ room ih =>
    rw [statements] at accepted
    split at accepted
    · cases accepted
      exact ⟨.done, (List.append_nil _).symm⟩
    obtain ⟨⟨next, executed⟩, stepped, accepted⟩ := bind_eq_ok.mp accepted
    obtain ⟨⟨final, later⟩, remaining, accepted⟩ := bind_eq_ok.mp accepted
    cases accepted
    have step := statement_accepted stepped
    obtain ⟨run, body⟩ := ih remaining
    refine ⟨.next step.step run, ?_⟩
    rw [body, step.body, List.flatMap_cons, List.append_assoc]

/-- More room than tokens changes nothing. -/
theorem statements_room (enough : parser.tokens.length ≤ room) :
    statements numerals (room + 1) parser = statements numerals room parser := by
  induction room generalizing parser with
  | zero =>
    have empty : parser.tokens = [] := List.length_eq_zero_iff.mp (Nat.le_zero.mp enough)
    rw [statements, statements, empty]
    rfl
  | succ room ih =>
    rw [statements, statements]
    split
    · rfl
    cases stepped : statement numerals parser with
    | error failure => rfl
    | ok result =>
      obtain ⟨next, executed⟩ := result
      have shorter := (statement_accepted stepped).shorter
      change (statements numerals (room + 1) next >>= _) = (statements numerals room next >>= _)
      rw [ih (by omega)]

theorem printed_room (enough : tokens.length ≤ room) :
    printed numerals env (room + 1) tokens = printed numerals env room tokens := by
  induction room generalizing tokens with
  | zero =>
    have empty : tokens = [] := List.length_eq_zero_iff.mp (Nat.le_zero.mp enough)
    rw [empty]
    rfl
  | succ room ih =>
    rw [printed, printed]
    cases parsed : expression numerals env tokens with
    | error failure => rfl
    | ok result =>
      obtain ⟨first, reads, rest⟩ := result
      have shorter := (expression_sound _ _ _ _ parsed).2
      cases taken : take "," rest with
      | none => simp only [bind, Except.bind, taken]
      | some remaining =>
        have commaLength := take_length taken
        simp only [bind, Except.bind, taken, @ih remaining (by omega)]

/-- An accepted source is a run from the empty tables to one without borrows, and
its program is what the statements emitted. -/
theorem lowerValueSource_run
    (accepted : lowerValueSource numerals limits source = .ok (program, history)) :
    ∃ last : Env, Run {} history last ∧ last.borrows.entries = [] ∧
      program.body = history.flatMap Executed.emitted := by
  obtain ⟨tokens, _, accepted⟩ := bind_eq_ok.mp accepted
  obtain ⟨body, _, accepted⟩ := bind_eq_ok.mp accepted
  obtain ⟨⟨parser, executed⟩, parsed, accepted⟩ := bind_eq_ok.mp accepted
  dsimp only at accepted
  split at accepted
  · rename_i released
    cases accepted
    obtain ⟨run, emitted⟩ := statements_run parsed
    exact ⟨parser.env, run, List.isEmpty_iff.mp released, emitted⟩
  · cases accepted

/-- The reads and the effect of every statement of a source, if it is accepted. -/
def observed (numerals : Numerals) (limits : ParserLimits) (source : List Char) :
    Option (List (List Access × Effect)) :=
  match lowerValueSource numerals limits source with
  | .error _ => none
  | .ok (_, history) => some (history.map fun done => (done.reads, done.effect))

theorem accepted_of_observed (observes : observed numerals limits source = some record) :
    ∃ program history, lowerValueSource numerals limits source = .ok (program, history) ∧
      history.map (fun done => (done.reads, done.effect)) = record := by
  unfold observed at observes
  split at observes
  · cases observes
  · rename_i program history accepted
    exact ⟨program, history, accepted, Option.some.inj observes⟩

end ShortHand.Enterprise
