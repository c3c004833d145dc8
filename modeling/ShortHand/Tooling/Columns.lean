import Mathlib.Data.Int.ConditionallyCompleteOrder
import Mathlib.Order.ConditionallyCompleteLattice.Basic
import ShortHand.Evidence.Json
import ShortHand.Library.Strides

/-! Positions of the language server: `utf16ColumnToByte` and `byteColumnToUtf16`. A message has
at most one megabyte, so `int` counts suffice. -/

namespace ShortHand.Tooling

open ShortHand.Library ShortHand.Evidence List

/-- The code point of the continuation bytes behind a lead byte, if they all are. -/
def continued (codepoint : Nat) : Bytes → Option Nat
  | [] => some codepoint
  | byte :: rest =>
    if byte.val &&& 0xC0 ≠ 0x80 then none
    else continued (codepoint <<< 6 ||| (byte.val &&& 0x3F)) rest

/-- The width of the first character of a text that is not empty, and its number of
UTF-16 units. A byte that starts no character stands for itself. -/
def decode : Bytes → Nat × Nat
  | [] => (1, 1)
  | lead :: rest =>
    let (width, start) :=
      if lead.val &&& 0xE0 = 0xC0 && 1 ≤ rest.length then (2, lead.val &&& 0x1F)
      else if lead.val &&& 0xF0 = 0xE0 && 2 ≤ rest.length then (3, lead.val &&& 0x0F)
      else if lead.val &&& 0xF8 = 0xF0 && 3 ≤ rest.length then (4, lead.val &&& 0x07)
      else (1, lead.val)
    match continued start (rest.take (width - 1)) with
    | some codepoint => (width, if codepoint > 0xFFFF then 2 else 1)
    | none => (1, if lead.val > 0xFFFF then 2 else 1)

theorem decode_bounds (line : Bytes) : 0 < (decode line).1 ∧ 0 < (decode line).2 ∧
    (line ≠ [] → (decode line).1 ≤ line.length) := by
  cases line with
  | nil => exact ⟨Nat.one_pos, Nat.one_pos, fun filled => absurd rfl filled⟩
  | cons lead rest =>
    have units : ∀ codepoint : Nat, 0 < if codepoint > 0xFFFF then 2 else 1 := by
      intro codepoint
      split <;> decide
    unfold decode
    dsimp only
    split
    · refine ⟨?_, units _, fun _ => ?_⟩ <;> grind
    · exact ⟨Nat.one_pos, units _, fun _ => Nat.le_add_left 1 _⟩

theorem length_drop_decode {line : Bytes} (filled : line ≠ []) :
    (line.drop (decode line).1).length < line.length := by
  have width := (decode_bounds line).1
  have long := length_pos_iff.mpr filled
  rw [length_drop]
  omega

/-- The loop of `utf16ColumnToByte`, with the text that is left. -/
def columnToByte (column : Nat) (rest : Bytes) (byte units : Nat) : Nat :=
  if rest = [] ∨ column ≤ units then byte
  else
    let next := decode rest
    if column < units + next.2 then byte
    else columnToByte column (rest.drop next.1) (byte + next.1) (units + next.2)
termination_by rest.length
decreasing_by exact length_drop_decode (not_or.mp ‹_›).1

def utf16ColumnToByte (line : Bytes) (utf16Column : Int) : Nat :=
  if utf16Column ≤ 0 then 0 else columnToByte utf16Column.toNat line 0 0

/-- The loop of `byteColumnToUtf16`. -/
def byteToColumn (byteColumn : Nat) (rest : Bytes) (byte units : Nat) : Nat :=
  if byteColumn ≤ byte then units
  else
    let next := decode rest
    if byteColumn < byte + next.1 then units
    else byteToColumn byteColumn (rest.drop next.1) (byte + next.1) (units + next.2)
termination_by byteColumn - byte
decreasing_by
  have width := (decode_bounds rest).1
  omega

def byteColumnToUtf16 (line : Bytes) (byteColumn : Nat) : Nat :=
  byteToColumn (min byteColumn line.length) line 0 0

/-- The widths and units of the characters of a line. -/
def characters (line : Bytes) : List (Nat × Nat) :=
  if line = [] then [] else decode line :: characters (line.drop (decode line).1)
termination_by line.length
decreasing_by exact length_drop_decode ‹_›

theorem characters_positive {line : Bytes} : ∀ step ∈ characters line, 0 < step.1 ∧ 0 < step.2 := by
  fun_induction characters line with
  | case1 => nofun
  | case2 line _ ih =>
    obtain ⟨width, units, -⟩ := decode_bounds line
    exact forall_mem_cons.mpr ⟨⟨width, units⟩, ih⟩

theorem stride_characters (measure : Nat × Nat → Nat × Nat) (line : Bytes) (limit : Nat) :
    stride ((characters line).map measure) limit =
      if line = [] ∨ limit < (measure (decode line)).2 then 0
      else (measure (decode line)).1 + stride
        ((characters (line.drop (decode line).1)).map measure) (limit - (measure (decode line)).2) := by
  rw [characters]
  split
  · rename_i empty
    rw [if_pos (.inl empty)]
    rfl
  · rename_i filled
    rw [map_cons, stride]
    grind

theorem columnToByte_eq {column byte units : Nat} {rest : Bytes} (bound : units ≤ column) :
    columnToByte column rest byte units =
      byte + stride ((characters rest).map id) (column - units) := by
  fun_induction columnToByte column rest byte units with
  | case1 rest byte units ended =>
    have positive := (decode_bounds rest).2.1
    rw [stride_characters, if_pos (ended.imp_right fun _ => by grind), Nat.add_zero]
  | case2 rest byte units going next tooLong =>
    rw [stride_characters, if_pos (.inr (by grind)), Nat.add_zero]
  | case3 rest byte units going next fits ih =>
    rw [ih (not_lt.mp fits), stride_characters id rest, if_neg (by grind), Nat.add_assoc, Nat.sub_sub]
    rfl

theorem byteToColumn_eq {byteColumn byte units : Nat} {rest : Bytes} (bound : byte ≤ byteColumn)
    (inside : byteColumn ≤ byte + rest.length) :
    byteToColumn byteColumn rest byte units =
      units + stride ((characters rest).map Prod.swap) (byteColumn - byte) := by
  fun_induction byteToColumn byteColumn rest byte units with
  | case1 rest byte units ended =>
    have positive := (decode_bounds rest).1
    rw [stride_characters, if_pos (.inr (by grind)), Nat.add_zero]
  | case2 rest byte units going next tooLong =>
    rw [stride_characters, if_pos (.inr (by grind)), Nat.add_zero]
  | case3 rest byte units going next fits ih =>
    have filled : rest ≠ [] := by grind
    rw [ih (not_lt.mp fits) (by grind), stride_characters Prod.swap rest, if_neg (by grind),
      Nat.add_assoc, Nat.sub_sub]
    rfl

/-- A byte offset where the decoder starts a character, or the end of the line. -/
def Boundary (line : Bytes) (byte : Nat) : Prop := ∃ column, Stop (characters line) byte column

theorem stop_le {line : Bytes} (stop : Stop (characters line) byte column) :
    byte ≤ line.length := by
  fun_induction characters line generalizing byte column with
  | case1 =>
    cases stop
    exact Nat.zero_le _
  | case2 line filled ih =>
    cases stop with
    | start => exact Nat.zero_le _
    | next later =>
      have width := (decode_bounds line).2.2 filled
      have rest := ih later
      rw [length_drop] at rest
      omega

theorem utf16ColumnToByte_eq (line : Bytes) (column : Int) :
    utf16ColumnToByte line column = stride (characters line) column.toNat := by
  unfold utf16ColumnToByte
  split
  · rename_i negative
    rw [Int.toNat_of_nonpos negative]
    exact (Stop.start.stride_eq fun step inside => (characters_positive step inside).2).symm
  · rw [columnToByte_eq (Nat.zero_le _), map_id, Nat.zero_add, Nat.sub_zero]

theorem byteColumnToUtf16_eq (line : Bytes) (byte : Nat) : byteColumnToUtf16 line byte =
    stride ((characters line).map Prod.swap) (min byte line.length) := by
  rw [byteColumnToUtf16, byteToColumn_eq (Nat.zero_le _) (by omega), Nat.zero_add, Nat.sub_zero]

/-- Both conversions at a boundary. -/
theorem stop_converted {line : Bytes} (stop : Stop (characters line) byte column) :
    utf16ColumnToByte line column = byte ∧ byteColumnToUtf16 line byte = column := by
  rw [utf16ColumnToByte_eq, byteColumnToUtf16_eq, min_eq_left (stop_le stop), Int.toNat_natCast]
  refine ⟨stop.stride_eq fun step inside => (characters_positive step inside).2,
    stop.swap.stride_eq ?_⟩
  exact forall_mem_map.mpr fun step inside => (characters_positive step inside).1

/-- A boundary comes back from its column, a column from its byte offset when it is the
column of a boundary and as a smaller one otherwise, and both conversions keep the
order. -/
theorem columns_correspond (line : Bytes) :
    (∀ byte, Boundary line byte →
      utf16ColumnToByte line (byteColumnToUtf16 line byte) = byte) ∧
    (∀ column : Nat, byteColumnToUtf16 line (utf16ColumnToByte line column) ≤ column ∧
      (byteColumnToUtf16 line (utf16ColumnToByte line column) = column ↔
        ∃ byte, Boundary line byte ∧ byteColumnToUtf16 line byte = column)) ∧
    Monotone (utf16ColumnToByte line) ∧ Monotone (byteColumnToUtf16 line) := by
  refine ⟨?_, fun column => ?_, ?_, ?_⟩
  · rintro byte ⟨column, stop⟩
    obtain ⟨back, forth⟩ := stop_converted stop
    rw [forth, back]
  · obtain ⟨reached, bound, stop⟩ := exists_stop (characters line) column
    have start : utf16ColumnToByte line column = stride (characters line) column :=
      utf16ColumnToByte_eq line column
    rw [start, (stop_converted stop).2]
    refine ⟨bound, fun same => ⟨_, ⟨_, stop⟩, same ▸ (stop_converted stop).2⟩, ?_⟩
    rintro ⟨byte, ⟨_, other⟩, here⟩
    obtain ⟨back, forth⟩ := stop_converted other
    obtain rfl := forth.symm.trans here
    have same := (stop_converted stop).2
    rw [← start, back, forth] at same
    exact same.symm
  · intro small large bound
    rw [utf16ColumnToByte_eq, utf16ColumnToByte_eq]
    exact stride_mono _ (Int.toNat_le_toNat bound)
  · intro small large bound
    rw [byteColumnToUtf16_eq, byteColumnToUtf16_eq]
    exact stride_mono _ (by omega)

end ShortHand.Tooling
