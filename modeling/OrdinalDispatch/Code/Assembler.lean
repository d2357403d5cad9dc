import OrdinalDispatch.Code.Constant
import OrdinalDispatch.Code.Instruction
import Std.Data.TreeMap

/-!
Contract: code under assembly.

Owns: labels and the jumps to them, interning of constants, the tracked depth of
the operand stack, the faults met on the way, and the patching of jumps at the
end.

Does not own: what the instructions are assembled for, see
`OrdinalDispatch.Code.Dispatcher`.

Every branch of a dispatcher starts with an empty operand stack, so marking a
label sets the tracked depth to zero. A jump is written before its label has a
place: it gets four bytes of zero, which are overwritten at the end. Faults are
collected, never raised: they are reported together when the code is finished.
-/

set_option autoImplicit false

namespace OrdinalDispatch.Code

/-- A jump target by its number in order of definition. -/
structure Label where
  number : Nat
deriving DecidableEq, Repr

inductive AssemblyFault where
  | stackUnderflow (offset needed available : Nat)
  | markedTwice (label : Label)
  | poolOverflow
  | neverMarked (label : Label)
deriving DecidableEq, Repr

def AssemblyFault.message : AssemblyFault → String
  | .stackUnderflow offset needed available =>
      "stack underflow at " ++ toString offset ++ ": need " ++ toString needed ++ ", have "
        ++ toString available
  | .markedTwice label => "label " ++ toString label.number ++ " marked twice"
  | .poolOverflow => "constant pool overflow"
  | .neverMarked label => "label " ++ toString label.number ++ " was never marked"

/-- A piece of code: an instruction, or a call through an operation byte that is none of the four
calls and is written as it is. -/
inductive Fragment where
  | instruction (content : Instruction Label)
  | foreignCall (byte : UInt8) (method : UInt16)
deriving DecidableEq, Repr

/-- A position in the code at which the place of a label is still to be written. -/
structure Jump where
  position : Nat
  target : Label
deriving DecidableEq, Repr

/-- Code under assembly: the bytes so far and the jumps among them, the pool, the count of the
labels that were defined, the places of those that were marked by their numbers, the depth of the
operand stack here and at its highest, and the faults so far. -/
structure Assembler where
  code : Array UInt8 := #[]
  jumps : Array Jump := #[]
  pool : ConstantPool := {}
  labelCount : Nat := 0
  places : Std.TreeMap Nat Nat := ∅
  depth : Nat := 0
  maxDepth : Nat := 0
  faults : Array AssemblyFault := #[]

structure AssembledCode where
  code : Array UInt8
  constants : Array Constant
  maxStack : Nat
deriving DecidableEq, Repr

namespace Assembler

def offset (assembler : Assembler) : Nat := assembler.code.size

def report (assembler : Assembler) (fault : AssemblyFault) : Assembler :=
  { assembler with faults := assembler.faults.push fault }

def defineLabel (assembler : Assembler) : Label × Assembler :=
  (⟨assembler.labelCount⟩, { assembler with labelCount := assembler.labelCount + 1 })

def defineLabels : Nat → Assembler → List Label × Assembler
  | 0, assembler => ([], assembler)
  | count + 1, assembler =>
      let (label, assembler) := assembler.defineLabel
      let (rest, assembler) := assembler.defineLabels count
      (label :: rest, assembler)

def placeOf? (assembler : Assembler) (label : Label) : Option Nat :=
  assembler.places[label.number]?

/-- Gives a label the current offset as its place, whether it was defined here or not. A second
marking is a fault, and moves it. -/
def mark (assembler : Assembler) (label : Label) : Assembler :=
  let place (assembler : Assembler) : Assembler :=
    { assembler with
      places := assembler.places.insert label.number assembler.offset
      depth := 0 }
  match assembler.placeOf? label with
  | some _ => (place assembler).report (.markedTwice label)
  | none => place assembler

/-- The pool index of a constant. When the pool is full, a new constant is a fault, and gets the
first index. -/
def intern (assembler : Assembler) (constant : Constant) : UInt16 × Assembler :=
  match assembler with
  | { code, jumps, pool, labelCount, places, depth, maxDepth, faults } =>
      match pool.intern constant with
      | (some index, pool) =>
          (index, { code, jumps, pool, labelCount, places, depth, maxDepth, faults })
      | (none, pool) =>
          (0, { code, jumps, pool, labelCount, places, depth, maxDepth,
                faults := faults.push .poolOverflow })

def message (assembler : Assembler) (text : String) : UInt16 × Assembler :=
  assembler.intern (.message text)

/-- Takes operands off the tracked stack. Fewer than needed is a fault, reported at `offset`, and
leaves none. -/
def take (assembler : Assembler) (needed offset : Nat) : Assembler :=
  let remaining := { assembler with depth := assembler.depth - needed }
  if assembler.depth < needed then
    remaining.report (.stackUnderflow offset needed assembler.depth)
  else remaining

def give (assembler : Assembler) (count : Nat) : Assembler :=
  let depth := assembler.depth + count
  { assembler with depth, maxDepth := max assembler.maxDepth depth }

def write (assembler : Assembler) (bytes : List UInt8) : Assembler :=
  { assembler with code := assembler.code ++ bytes.toArray }

/-- Leaves room for the place of a label. -/
def refer (assembler : Assembler) (target : Label) : Assembler :=
  let position := assembler.offset
  { assembler with
    code := assembler.code ++ (Instruction.wordBytes 0).toArray
    jumps := assembler.jumps.push { position, target } }

/-- Writes a fragment. A switch is written up to its count, and then its labels get room; no other
instruction has a label. -/
def append (assembler : Assembler) : Fragment → Assembler
  | .instruction (.tableSwitch fallback targets) =>
      let count := UInt32.ofNat targets.length
      let started := assembler.write (Opcode.tableSwitch.byte :: Instruction.wordBytes count)
      targets.foldl refer (started.refer fallback)
  | .instruction plain => assembler.write (plain.mapTargets fun _ => 0).encode
  | .foreignCall byte method => assembler.write (byte :: Instruction.indexBytes method)

/-- How many operands an instruction takes: `argumentCount` of them are the arguments of a call. A
receiver is added to them in 64 bits, so that it makes no operand of the highest count. -/
def operandsTaken (argumentCount : UInt64) : Instruction Label → Nat
  | .pop | .returnTop => 1
  | .construct _ => argumentCount.toNat
  | .invoke .static _ => argumentCount.toNat
  | .invoke _ _ => (argumentCount + 1).toNat
  | .getField isStatic _ => if isStatic then 0 else 1
  | .putField isStatic _ => if isStatic then 1 else 2
  | _ => 0

def operandsGiven : Instruction Label → Nat
  | .loadReceiver | .loadArgument _ | .loadValue | .constNull => 1
  | .construct _ | .invoke _ _ | .getField _ _ => 1
  | _ => 0

/-- How many bytes of an instruction are written when its operands are taken: a field access has
only its operation by then. -/
def bytesBeforeTaking : Instruction Label → Nat
  | .getField _ _ | .putField _ _ => 1
  | instruction => instruction.size

/-- Adds an instruction; a call has `argumentCount` arguments. -/
def emitCall (assembler : Assembler) (argumentCount : UInt64)
    (instruction : Instruction Label) : Assembler :=
  let start := assembler.offset
  ((assembler.append (.instruction instruction)).take (operandsTaken argumentCount instruction)
    (start + bytesBeforeTaking instruction)).give (operandsGiven instruction)

/-- Adds an instruction that is no call. -/
def emit (assembler : Assembler) (instruction : Instruction Label) : Assembler :=
  assembler.emitCall 0 instruction

/-- Adds the conversion of an argument to a type, which only primitive types need. -/
def emitUnbox (assembler : Assembler) : ValueType → Assembler
  | .primitive kind => assembler.emit (.unbox kind)
  | _ => assembler

/-- Adds the check of a result against a type, which only primitive types need. -/
def emitBox (assembler : Assembler) : ValueType → Assembler
  | .primitive kind => assembler.emit (.box kind)
  | _ => assembler

/-- Adds a call through an operation byte. -/
def emitCallThrough (assembler : Assembler) (byte : UInt8) (method : UInt16)
    (argumentCount : UInt64) : Assembler :=
  match Opcode.ofByte? byte with
  | some (.invoke kind) => assembler.emitCall argumentCount (.invoke kind method)
  | _ =>
      let called := assembler.append (.foreignCall byte method)
      (called.take (argumentCount + 1).toNat called.offset).give 1

/-- The labels that are used without being marked, once for each use. -/
def neverMarked (assembler : Assembler) : List Label :=
  (assembler.jumps.toList.map Jump.target).filter fun label => (assembler.placeOf? label).isNone

/-- All faults, in the order in which they are reported. -/
def allFaults (assembler : Assembler) : List AssemblyFault :=
  assembler.faults.toList ++ assembler.neverMarked.map .neverMarked

/-- Writes the place of the label of a jump, if it is marked. -/
def patch (assembler : Assembler) (code : Array UInt8) (jump : Jump) : Array UInt8 :=
  match assembler.placeOf? jump.target with
  | some place => overwrite code jump.position (Instruction.wordBytes (UInt32.ofNat place))
  | none => code

def patched (assembler : Assembler) : Array UInt8 :=
  assembler.jumps.foldl assembler.patch assembler.code

/-- Patches the jumps and hands over the code, or all faults. -/
def finish (assembler : Assembler) : Except (List AssemblyFault) AssembledCode :=
  match assembler.allFaults with
  | [] =>
      .ok {
        code := assembler.patched
        constants := assembler.pool.entries
        maxStack := assembler.maxDepth }
  | faults => .error faults

end Assembler

def AssemblyFault.listMessage (faults : List AssemblyFault) : String :=
  String.intercalate "; " (faults.map AssemblyFault.message)

end OrdinalDispatch.Code
