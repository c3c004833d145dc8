import ShortHand.Evidence.Quotient

/-! The health report of the runtime and the probe that reads it back from the state file. -/

namespace ShortHand.Serving

open ShortHand.Evidence List

structure RuntimeHealth where
  live : Bool
  ready : Bool
  accepting : Bool
  draining : Bool
  saturated : Bool
  active : Nat
  queued : Nat
  inFlight : Nat

def kServingRuntimeContract : String := "shorthand.serving.runtime.v1"

def flagText (flag : Bool) : Bytes := ascii (if flag then "true" else "false")

/-- The layout of a report, with its counters as texts. -/
def healthText (live ready accepting draining saturated : Bool) (active queued inFlight : Bytes) :
    Bytes :=
  [ascii ("\x7b\"schema\":\"shorthand.serving.health.v1\",\"contract\":\"" ++
      kServingRuntimeContract ++ "\",\"live\":"), flagText live,
    ascii ",\"ready\":", flagText ready, ascii ",\"accepting\":", flagText accepting,
    ascii ",\"draining\":", flagText draining, ascii ",\"saturated\":", flagText saturated,
    ascii ",\"active\":", active, ascii ",\"queued\":", queued,
    ascii ",\"in_flight\":", inFlight, ascii "\x7d"].flatten

def healthJson (value : RuntimeHealth) : Bytes :=
  healthText value.live value.ready value.accepting value.draining value.saturated
    (Quotient.digitsOf value.active) (Quotient.digitsOf value.queued)
    (Quotient.digitsOf value.inFlight)

/-- The readers return what is left of the body behind their offset. -/
def consumeLiteral (literal : String) (body : Bytes) : Option Bytes :=
  if (ascii literal).isPrefixOf body then some (body.drop (ascii literal).length) else none

def consumeBoolean (body : Bytes) : Option (Bool × Bytes) :=
  ((consumeLiteral "true" body).map (true, ·)).or ((consumeLiteral "false" body).map (false, ·))

def consumeUnsigned (body : Bytes) : Option Bytes :=
  if body.takeWhile isDigit = [] then none else some (body.dropWhile isDigit)

/-- The live and the ready flag of an accepted text. -/
def parseCanonicalHealth (text : Bytes) : Option (Bool × Bool) := do
  let body := if text.getLast? = some 10 then text.dropLast else text
  if body = [] ∨ 10 ∈ body ∨ 13 ∈ body then none
  else
    let body ← consumeLiteral ("\x7b\"schema\":\"shorthand.serving.health.v1\",\"contract\":\"" ++
      "shorthand.serving.runtime.v1\",\"live\":") body
    let (live, body) ← consumeBoolean body
    let body ← consumeLiteral ",\"ready\":" body
    let (ready, body) ← consumeBoolean body
    let body ← consumeLiteral ",\"accepting\":" body
    let (_, body) ← consumeBoolean body
    let body ← consumeLiteral ",\"draining\":" body
    let (_, body) ← consumeBoolean body
    let body ← consumeLiteral ",\"saturated\":" body
    let (_, body) ← consumeBoolean body
    let body ← consumeUnsigned (← consumeLiteral ",\"active\":" body)
    let body ← consumeUnsigned (← consumeLiteral ",\"queued\":" body)
    let body ← consumeUnsigned (← consumeLiteral ",\"in_flight\":" body)
    let body ← consumeLiteral "\x7d" body
    if body = [] then some (live, ready) else none

section Readers

variable {body rest : Bytes}

theorem consumeLiteral_iff :
    consumeLiteral literal body = some rest ↔ body = ascii literal ++ rest := by
  rw [consumeLiteral, Option.ite_none_right_eq_some, isPrefixOf_iff_prefix]
  constructor
  · rintro ⟨⟨tail, rfl⟩, same⟩
    rw [drop_left] at same
    rw [Option.some.inj same]
  · rintro rfl
    exact ⟨prefix_append _ _, congrArg some drop_left⟩

theorem consumeBoolean_iff :
    consumeBoolean body = some (flag, rest) ↔ body = flagText flag ++ rest := by
  simp only [consumeBoolean, Option.or_eq_some_iff, Option.map_eq_some_iff, Option.map_eq_none_iff,
    consumeLiteral_iff, Prod.mk.injEq]
  cases flag with
  | true => simp [flagText]
  | false =>
    have apart : consumeLiteral "true" (ascii "false" ++ rest) = none := rfl
    constructor
    · rintro (⟨_, _, wrong, _⟩ | ⟨_, _, same, _, rfl⟩)
      · cases wrong
      · exact same
    · rintro rfl
      exact .inr ⟨apart, rest, rfl, rfl, rfl⟩

theorem consumeUnsigned_iff :
    consumeUnsigned body = some rest ↔
      ∃ digits, Digits digits ∧ Undigit rest ∧ body = digits ++ rest := by
  rw [consumeUnsigned, Option.ite_none_left_eq_some]
  constructor
  · rintro ⟨filled, same⟩
    cases same
    exact ⟨_, ⟨filled, fun _ => mem_takeWhile_imp⟩, undigit_dropWhile body,
      takeWhile_append_dropWhile.symm⟩
  · rintro ⟨digits, ⟨filled, digit⟩, ends, rfl⟩
    rw [(takeWhile_digits digit ends).1, (takeWhile_digits digit ends).2]
    exact ⟨filled, rfl⟩

end Readers

section Reports

variable {live ready : Bool} {text body : Bytes}

/-- A report with two of its flags: the others are some flags, the counters some digits. -/
def Reports (live ready : Bool) (body : Bytes) : Prop :=
  ∃ accepting draining saturated active queued inFlight,
    (Digits active ∧ Digits queued ∧ Digits inFlight) ∧
      body = healthText live ready accepting draining saturated active queued inFlight

/-- A report is one line. -/
theorem Reports.visible (reports : Reports live ready body) : ∀ byte ∈ body, 32 ≤ byte := by
  have digit : ∀ byte : Byte, isDigit byte = true → 32 ≤ byte := by decide +kernel
  have counter : ∀ {text}, Digits text → ∀ byte ∈ text, 32 ≤ byte :=
    fun digits byte inside => digit byte (digits.digits byte inside)
  have flag : ∀ flag, ∀ byte ∈ flagText flag, 32 ≤ byte := by decide +kernel
  obtain ⟨accepting, draining, saturated, active, queued, inFlight, ⟨first, second, third⟩, rfl⟩ := reports
  simp only [healthText, flatten_cons, forall_mem_append]
  refine ⟨?_, flag live, ?_, flag ready, ?_, flag accepting, ?_, flag draining, ?_, flag saturated, ?_,
    counter first, ?_, counter second, ?_, counter third, ?_, nofun⟩ <;> decide +kernel

/-- A text whose last line end is dropped. -/
theorem dropped_iff (line : 10 ∉ body) :
    (if text.getLast? = some 10 then text.dropLast else text) = body ↔
      text = body ∨ text = body ++ [10] := by
  constructor
  · intro dropped
    split at dropped
    · rename_i ended
      obtain ⟨front, rfl⟩ := getLast?_eq_some_iff.mp ended
      rw [dropLast_concat] at dropped
      exact .inr (dropped ▸ rfl)
    · exact .inl dropped
  · rintro (rfl | rfl)
    · exact if_neg fun ended => line (mem_of_getLast? ended)
    · rw [getLast?_concat, if_pos rfl, dropLast_concat]

theorem parseCanonicalHealth_iff :
    parseCanonicalHealth text = some (live, ready) ↔
      ∃ body, Reports live ready body ∧ (text = body ∨ text = body ++ [10]) := by
  rw [parseCanonicalHealth]
  simp only [Option.ite_none_left_eq_some, not_or, Option.bind_eq_bind, Option.bind_eq_some_iff,
    Prod.exists, consumeLiteral_iff, consumeBoolean_iff, consumeUnsigned_iff,
    Option.ite_none_right_eq_some, Option.some.injEq, Prod.mk.injEq]
  constructor
  · rintro ⟨⟨_, line, _⟩, _, body, _, _, rfl, _, rfl, _, _, rfl, _, rfl, _, _, rfl, _, rfl,
      _, _, rfl, _, rfl, _, _, rfl, _, rfl, _, ⟨_, isActive, _, rfl⟩, _, rfl,
      _, ⟨_, isQueued, _, rfl⟩, _, rfl, _, ⟨_, isInFlight, _, rfl⟩, _, rfl, rfl, rfl, rfl⟩
    rw [body] at line
    exact ⟨_, ⟨_, _, _, _, _, _, ⟨isActive, isQueued, isInFlight⟩, rfl⟩, (dropped_iff line).mp body⟩
  · rintro ⟨body, reports, written⟩
    have visible := reports.visible
    have line := fun inside => Nat.not_lt.mpr (visible 10 inside) (by decide)
    have ends : ∀ {byte : Byte} {rest}, isDigit byte = false → Undigit (byte :: rest) := by
      rintro byte rest other _ ⟨⟩
      exact other
    rw [(dropped_iff line).mpr written]
    obtain ⟨_, _, _, _, _, _, ⟨isActive, isQueued, isInFlight⟩, rfl⟩ := reports
    exact ⟨⟨nofun, line, fun inside => Nat.not_lt.mpr (visible 13 inside) (by decide)⟩,
      _, rfl, _, _, rfl, _, rfl, _, _, rfl, _, rfl, _, _, rfl, _, rfl, _, _, rfl, _, rfl, _, _, rfl,
      _, rfl, _, ⟨_, isActive, ends rfl, rfl⟩, _, rfl, _, ⟨_, isQueued, ends rfl, rfl⟩, _, rfl,
      _, ⟨_, isInFlight, ends rfl, rfl⟩, _, rfl, rfl, rfl, rfl⟩

/-- Every report is read back, with or without a line end behind it, and nothing is
accepted but a report with some flags and some decimal counters. -/
theorem health_round_trip :
    (∀ value : RuntimeHealth,
      parseCanonicalHealth (healthJson value) = some (value.live, value.ready) ∧
      parseCanonicalHealth (healthJson value ++ [10]) = some (value.live, value.ready)) ∧
    ∀ (text : Bytes) (live ready : Bool), parseCanonicalHealth text = some (live, ready) ↔
      ∃ body, Reports live ready body ∧ (text = body ∨ text = body ++ [10]) := by
  have counter : ∀ value, Digits (Quotient.digitsOf value) := @Quotient.digits_digitsOf
  have reports : ∀ value : RuntimeHealth, Reports value.live value.ready (healthJson value) :=
    fun value => ⟨_, _, _, _, _, _, ⟨counter _, counter _, counter _⟩, rfl⟩
  refine ⟨fun value => ⟨?_, ?_⟩, fun text live ready => parseCanonicalHealth_iff⟩
  · exact parseCanonicalHealth_iff.mpr ⟨_, reports value, .inl rfl⟩
  · exact parseCanonicalHealth_iff.mpr ⟨_, reports value, .inr rfl⟩

end Reports

end ShortHand.Serving
