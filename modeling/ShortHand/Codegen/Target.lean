import ShortHand.Language.Syntax

/-! The part of LLVM that the code generator uses, and how it runs. A runtime check, which the
generator spreads over three basic blocks, is one instruction here. -/

namespace ShortHand.Codegen

open ShortHand.Language

variable {H : Host}

inductive LowType where
  | i1
  | i32
  | double
  | pointer
  | void
  deriving DecidableEq, Repr

/-- What an `alloca` or a global variable holds. -/
inductive StoredType where
  | scalar (type : LowType)
  | array (element : LowType) (extent : Nat)
  deriving DecidableEq, Repr

inductive Operand (H : Host) where
  | integer (value : IntValue)
  | float (value : H.Double)
  /-- The address of a constant string. -/
  | text (value : String)
  | null
  /-- An `alloca` of the function, by number. -/
  | slot (index : Nat)
  | global (symbol : String)
  | argument (index : Nat)
  | register (index : Nat)

structure Value (H : Host) where
  operand : Operand H
  type : LowType

inductive Operation where
  | add
  | sub
  | mul
  | sdiv
  | srem
  | and
  | or
  | slt
  | sgt
  | sle
  | sge
  | eq
  | ne
  | fadd
  | fsub
  | fmul
  | fdiv
  | folt
  | fogt
  | fole
  | foge
  | foeq
  | fune
  deriving DecidableEq, Repr

def Operation.resultType : Operation → LowType
  | .add | .sub | .mul | .sdiv | .srem => .i32
  | .fadd | .fsub | .fmul | .fdiv => .double
  | _ => .i1

inductive Instruction (H : Host) where
  | load (type : LowType) (pointer : Operand H)
  | store (value pointer : Operand H)
  /-- The store of zeros to a whole array. -/
  | clear (type : LowType) (extent : Nat) (pointer : Operand H)
  | element (array index : Operand H)
  /-- A bit as a 32-bit integer. -/
  | extend (value : Operand H)
  | invert (value : Operand H)
  | negate (value : Operand H)
  | binary (op : Operation) (left right : Operand H)
  | select (condition first second : Operand H)
  | strcmp (left right : Operand H)
  | call (function : String) (arguments : List (Operand H))
  | printf (format : String) (arguments : List (Operand H))
  | scanf (format : String) (pointer : Operand H)
  | hook (name : String) (arity : Nat)
  | failIf (condition : Operand H) (code message : String)

/-- An instruction with the name and the number of its result. -/
structure Entry (H : Host) where
  name : String
  number : Nat
  instruction : Instruction H

inductive Terminator (H : Host) where
  | branch (target : Nat)
  | conditional (condition : Operand H) (first second : Nat)
  | returnValue (value : Operand H)
  | returnVoid
  | unreachable

def Operation.divides : Operation → Bool
  | .sdiv | .srem => true
  | _ => false

def Instruction.divides : Instruction H → Bool
  | .binary op _ _ => op.divides
  | _ => false

/-- The check before a division: the divisor is not zero and the quotient is an `int`. -/
def checkPiece (number : Nat) (message : String) (left right : Operand H) : List (Entry H) :=
  [⟨"arith_zero_divisor", number, .binary .eq right (.integer 0)⟩,
    ⟨"arith_min_value", number + 1, .binary .eq left (.integer (BitVec.intMin 32))⟩,
    ⟨"arith_negative_one", number + 2, .binary .eq right (.integer (-1))⟩,
    ⟨"arith_div_overflow", number + 3, .binary .and (.register (number + 1))
      (.register (number + 2))⟩,
    ⟨"arith_domain_error", number + 4, .binary .or (.register number) (.register (number + 3))⟩,
    ⟨"", number + 5, .failIf (.register (number + 4)) "SHD7001" message⟩]

def divisionPiece (number : Nat) (name : String) (op : Operation) (message : String)
    (left right : Operand H) : List (Entry H) :=
  checkPiece number message left right ++ [⟨name, number + 6, .binary op left right⟩]

/-- The energy of a report, with one in place of zero. -/
def energyPiece (number : Nat) (watts seconds : Operand H) : List (Entry H) :=
  [⟨"greenai_energy_j", number, .binary .mul watts seconds⟩,
    ⟨"greenai_zero_energy", number + 1, .binary .eq (.register number) (.integer 0)⟩,
    ⟨"", number + 2, .select (.register (number + 1)) (.integer 1) (.register number)⟩]

/-- The division of a report has no check of its own. -/
def reportPiece (number : Nat) (inferences watts seconds : Operand H) : List (Entry H) :=
  energyPiece number watts seconds ++
    [⟨"greenai_raw_inf_per_j", number + 3, .binary .sdiv inferences (.register (number + 2))⟩]

/-- Code in which a division stands behind its check or in a report. -/
inductive Guarded : List (Entry H) → Prop where
  | nil : Guarded []
  | plain {entry : Entry H} (undivided : entry.instruction.divides = false) : Guarded [entry]
  | division {number : Nat} {name message : String} {op : Operation} {left right : Operand H} :
      Guarded (divisionPiece number name op message left right)
  | report {number : Nat} {inferences watts seconds : Operand H} :
      Guarded (reportPiece number inferences watts seconds)
  | append {first second : List (Entry H)} (start : Guarded first) (next : Guarded second) :
      Guarded (first ++ second)

theorem Guarded.cons {rest : List (Entry H)}
    (undivided : entry.instruction.divides = false) (next : Guarded rest) :
    Guarded (entry :: rest) := .append (.plain undivided) next

/-- The code of a block; a division without its check cannot be built. -/
structure Code (H : Host) where
  entries : List (Entry H)
  guarded : Guarded entries

def Code.empty : Code H := ⟨[], .nil⟩

def Code.append (first second : Code H) : Code H :=
  ⟨first.entries ++ second.entries, first.guarded.append second.guarded⟩

structure Block (H : Host) where
  code : Code H := .empty
  terminator : Option (Terminator H) := none

/-- The body of a function; block 0 is its entry. -/
structure Body (H : Host) where
  blocks : Nat → Block H

inductive Address where
  | global (symbol : String)
  /-- An `alloca` of one activation of a function. -/
  | slot (activation index : Nat)
  deriving DecidableEq

inductive Word (H : Host) where
  | bit (value : Bool)
  | int (value : IntValue)
  | float (value : H.Double)
  | text (value : String)
  | null
  | pointer (address : Address)
  | element (address : Address) (index : Nat)
  /-- The result of an instruction that has none. -/
  | nothing

inductive Cell (H : Host) where
  | scalar (value : Word H)
  | array (values : List (Word H))

inductive Event (H : Host) where
  | printed (format : String) (arguments : List (Word H))
  | hooked (name : String)

structure Machine (H : Host) where
  memory : Address → Option (Cell H)
  input : H.Input
  events : List (Event H) := []
  activations : Nat := 0

structure Activation (H : Host) where
  number : Nat
  arguments : List (Word H)
  registers : Nat → Option (Word H) := fun _ => none

inductive Fault where
  /-- The text of a failed runtime check. -/
  | diagnostic (code message : String)
  /-- A division of this name that the watch stopped. -/
  | division (name : String)
  /-- An instruction or a jump that has no meaning. -/
  | malformed
  | exhausted
  deriving DecidableEq

def zeroWord (H : Host) : LowType → Word H
  | .double => .float H.zero
  | .pointer => .null
  | _ => .int 0

def Operand.evaluate (activation : Activation H) : Operand H → Except Fault (Word H)
  | .integer value => .ok (.int value)
  | .float value => .ok (.float value)
  | .text value => .ok (.text value)
  | .null => .ok .null
  | .slot index => .ok (.pointer (.slot activation.number index))
  | .global symbol => .ok (.pointer (.global symbol))
  | .argument index => (activation.arguments[index]?).elim (.error .malformed) .ok
  | .register index => (activation.registers index).elim (.error .malformed) .ok

/-- An operation on words of its own kind. The quotients that have no value are left
to the watch on divisions. -/
def Operation.apply : Operation → Word H → Word H → Except Fault (Word H)
  | .add, .int left, .int right => .ok (.int (left + right))
  | .sub, .int left, .int right => .ok (.int (left - right))
  | .mul, .int left, .int right => .ok (.int (left * right))
  | .sdiv, .int left, .int right => .ok (.int (left.sdiv right))
  | .srem, .int left, .int right => .ok (.int (left.srem right))
  | .and, .bit left, .bit right => .ok (.bit (left && right))
  | .or, .bit left, .bit right => .ok (.bit (left || right))
  | .slt, .int left, .int right => .ok (.bit (left.slt right))
  | .sgt, .int left, .int right => .ok (.bit (right.slt left))
  | .sle, .int left, .int right => .ok (.bit (left.sle right))
  | .sge, .int left, .int right => .ok (.bit (right.sle left))
  | .eq, .int left, .int right => .ok (.bit (left == right))
  | .ne, .int left, .int right => .ok (.bit (left != right))
  | .eq, .null, .null => .ok (.bit true)
  | .eq, .text _, .null => .ok (.bit false)
  | .fadd, .float left, .float right => .ok (.float (H.add left right))
  | .fsub, .float left, .float right => .ok (.float (H.sub left right))
  | .fmul, .float left, .float right => .ok (.float (H.mul left right))
  | .fdiv, .float left, .float right => .ok (.float (H.div left right))
  | .folt, .float left, .float right => .ok (.bit (H.less left right))
  | .fogt, .float left, .float right => .ok (.bit (H.less right left))
  | .fole, .float left, .float right => .ok (.bit (H.lessEqual left right))
  | .foge, .float left, .float right => .ok (.bit (H.lessEqual right left))
  | .foeq, .float left, .float right => .ok (.bit (H.equal left right))
  | .fune, .float left, .float right => .ok (.bit (!H.equal left right))
  | _, _, _ => .error .malformed

/-- A watch on the signed divisions, by the name of the result and the operands. -/
abbrev Watch := String → IntValue → IntValue → Bool

def Watch.stops (watch : Watch) (name : String) : Operation → Word H → Word H → Bool
  | .sdiv, .int left, .int right => watch name left right
  | .srem, .int left, .int right => watch name left right
  | _, _, _ => false

def binaryWord (watch : Watch) (name : String) (op : Operation) (left right : Word H) :
    Except Fault (Word H) :=
  if watch.stops name op left right then .error (.division name) else op.apply left right

def readCell (machine : Machine H) : Word H → Except Fault (Word H)
  | .pointer address =>
    match machine.memory address with
    | some (.scalar value) => .ok value
    | _ => .error .malformed
  | .element address index =>
    match machine.memory address with
    | some (.array values) => (values[index]?).elim (.error .malformed) .ok
    | _ => .error .malformed
  | _ => .error .malformed

def Machine.put (machine : Machine H) (address : Address) (cell : Cell H) : Machine H :=
  { machine with memory := Function.update machine.memory address (some cell) }

def writeCell (machine : Machine H) (value : Word H) : Word H → Except Fault (Machine H)
  | .pointer address => .ok (machine.put address (.scalar value))
  | .element address index =>
    match machine.memory address with
    | some (.array values) => .ok (machine.put address (.array (values.set index value)))
    | _ => .error .malformed
  | _ => .error .malformed

def elementWord : Word H → Word H → Except Fault (Word H)
  | .pointer address, .int index =>
    if 0 ≤ index.toInt then .ok (.element address index.toNat) else .error .malformed
  | _, _ => .error .malformed

/-- The comparison of two C strings; only its sign of equality is used. -/
def compareText : Word H → Word H → Except Fault (Word H)
  | .text left, .text right => .ok (.int (if left = right then 0 else 1))
  | _, _ => .error .malformed

/-- One value of the input. A failed conversion leaves the variable alone, and the
program does not look at the count that `scanf` returns. -/
def scanInto (machine : Machine H) (format : String) (pointer : Word H) :
    Except Fault (Machine H) :=
  if format = "%lf" then
    match H.readFloat machine.input with
    | none => .ok machine
    | some (value, input) => writeCell { machine with input } (.float value) pointer
  else
    match H.readInt machine.input with
    | none => .ok machine
    | some (value, input) => writeCell { machine with input } (.int value) pointer

abbrev Callee (H : Host) := String → List (Word H) → Machine H → Except Fault (Word H × Machine H)

def Instruction.run (watch : Watch) (calls : Callee H) (name : String) (activation : Activation H)
    (machine : Machine H) : Instruction H → Except Fault (Word H × Machine H)
  | .load _ pointer => do
    let address ← pointer.evaluate activation
    let value ← readCell machine address
    return (value, machine)
  | .store value pointer => do
    let stored ← value.evaluate activation
    let address ← pointer.evaluate activation
    let after ← writeCell machine stored address
    return (.nothing, after)
  | .clear type extent pointer => do
    match ← pointer.evaluate activation with
    | .pointer address =>
      return (.nothing, machine.put address (.array (List.replicate extent (zeroWord H type))))
    | _ => .error .malformed
  | .element array index => do
    let address ← array.evaluate activation
    let position ← index.evaluate activation
    let pointer ← elementWord address position
    return (pointer, machine)
  | .extend value => do
    match ← value.evaluate activation with
    | .bit flag => return (.int (if flag then 1 else 0), machine)
    | _ => .error .malformed
  | .invert value => do
    match ← value.evaluate activation with
    | .bit flag => return (.bit !flag, machine)
    | _ => .error .malformed
  | .negate value => do
    match ← value.evaluate activation with
    | .float number => return (.float (H.neg number), machine)
    | _ => .error .malformed
  | .binary op left right => do
    let first ← left.evaluate activation
    let second ← right.evaluate activation
    let result ← binaryWord watch name op first second
    return (result, machine)
  | .select condition first second => do
    match ← condition.evaluate activation with
    | .bit flag =>
      let chosen ← (if flag then first else second).evaluate activation
      return (chosen, machine)
    | _ => .error .malformed
  | .strcmp left right => do
    let first ← left.evaluate activation
    let second ← right.evaluate activation
    let order ← compareText first second
    return (order, machine)
  | .call function arguments => do
    let values ← arguments.mapM (Operand.evaluate activation)
    calls function values machine
  | .printf format arguments => do
    let values ← arguments.mapM (Operand.evaluate activation)
    return (.int 0, { machine with events := machine.events ++ [.printed format values] })
  | .scanf format pointer => do
    let address ← pointer.evaluate activation
    let after ← scanInto machine format address
    return (.int 1, after)
  | .hook called _ =>
    return (.int 0, { machine with events := machine.events ++ [.hooked called] })
  | .failIf condition code message => do
    match ← condition.evaluate activation with
    | .bit true => .error (.diagnostic code message)
    | .bit false => return (.nothing, machine)
    | _ => .error .malformed

def Activation.set (activation : Activation H) (number : Nat) (value : Word H) : Activation H :=
  { activation with registers := Function.update activation.registers number (some value) }

def Entry.run (watch : Watch) (calls : Callee H) (state : Activation H × Machine H)
    (entry : Entry H) : Except Fault (Activation H × Machine H) := do
  let (value, after) ← entry.instruction.run watch calls entry.name state.1 state.2
  return (state.1.set entry.number value, after)

def runEntries (watch : Watch) (calls : Callee H) (entries : List (Entry H))
    (state : Activation H × Machine H) : Except Fault (Activation H × Machine H) :=
  entries.foldlM (Entry.run watch calls) state

/-- A new activation on top of the machine. -/
def Machine.enter (machine : Machine H) (arguments : List (Word H)) :
    Activation H × Machine H :=
  ({ number := machine.activations, arguments },
    { machine with activations := machine.activations + 1 })

/-- A call enters the first block of the body of its name. -/
def callBody (bodies : String → Option (Body H))
    (run : Body H → Activation H × Machine H → Except Fault (Word H × Machine H)) : Callee H :=
  fun function arguments machine =>
    match bodies function with
    | none => .error .malformed
    | some callee => run callee (machine.enter arguments)

/-- The code from a block of a function on, until the function returns. -/
def runFrom (watch : Watch) (bodies : String → Option (Body H)) :
    Nat → Body H → Nat → Activation H × Machine H → Except Fault (Word H × Machine H)
  | 0, _, _, _ => .error .exhausted
  | fuel + 1, body, block, state => do
    let calls := callBody bodies fun callee start => runFrom watch bodies fuel callee 0 start
    let (activation, machine) ← runEntries watch calls (body.blocks block).code.entries state
    match (body.blocks block).terminator with
    | none | some .unreachable => .error .malformed
    | some (.branch target) => runFrom watch bodies fuel body target (activation, machine)
    | some (.conditional condition first second) =>
      match ← condition.evaluate activation with
      | .bit flag =>
        runFrom watch bodies fuel body (if flag then first else second) (activation, machine)
      | _ => .error .malformed
    | some (.returnValue value) =>
      let result ← value.evaluate activation
      return (result, machine)
    | some .returnVoid => return (.nothing, machine)

end ShortHand.Codegen
