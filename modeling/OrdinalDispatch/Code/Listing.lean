import OrdinalDispatch.Code.Cursor
import OrdinalDispatch.Code.Image
import OrdinalDispatch.Text.Digits
import OrdinalDispatch.Text.Lines

/-!
Contract: the text of an image.

Owns: the lines of a listing: two header lines, one line per instruction with
the names of the entry points above it, and one row per constant.

Does not own: whether the image is sound; the listing of code that does not
decode ends at the fault.
-/

set_option autoImplicit false

namespace OrdinalDispatch.Code

namespace Listing

def withOperands (opcode : Opcode) (operands : String) : String :=
  Text.padRight 16 opcode.mnemonic ++ " " ++ operands

def index (place : UInt16) : String := "#" ++ toString place.toNat

def reference (image : Image) (place : UInt16) : String :=
  index place ++ " " ++
    match image.constant? place with
    | some constant => constant.listing
    | none => "<missing>"

/-- An offset of at least four digits. -/
def offset (value : Nat) : String := Text.hexadecimal 4 value

/-- Reads the operands of an operation, and answers the text of both. -/
def readOperands (image : Image) (opcode : Opcode) : Reading String :=
  match opcode with
  | .checkArguments | .throwIllegal | .checkCast | .construct | .invoke _ | .getField _
  | .putField _ => do
      let place ← readIndex image.code
      return withOperands opcode (reference image place)
  | .checkBounds => do
      let count ← readWord image.code
      let message ← readIndex image.code
      return withOperands opcode (toString count.toNat ++ " " ++ index message)
  | .checkArity => do
      let table ← readIndex image.code
      let message ← readIndex image.code
      return withOperands opcode (index table ++ " " ++ index message)
  | .tableSwitch => do
      let count ← readWord image.code
      let fallback ← readWord image.code
      let targets ← readWords image.code count.toNat #[]
      return withOperands opcode
        (toString count.toNat ++ " default=" ++ offset fallback.toNat ++ " ["
          ++ String.intercalate ", " (targets.toList.map fun target => offset target.toNat) ++ "]")
  | .loadArgument => do
      let place ← readIndex image.code
      return withOperands opcode (toString place.toNat)
  | .unbox | .box => do
      let kind ← Primitive.ofCode? (← readByte image.code)
      return withOperands opcode kind.text
  | .throwNoDefault | .loadReceiver | .loadValue | .constNull | .pop | .returnTop | .returnNull =>
      return opcode.mnemonic

/-- Reads an instruction, and answers its text. -/
def readInstruction (image : Image) : Reading String := do
  let opcode ← Opcode.ofByte? (← readByte image.code)
  readOperands image opcode

theorem forward_readOperands (image : Image) (opcode : Opcode) :
    Forward (readOperands image opcode) := by
  have finished (text : String) : Forward (pure text : Reading String) := forward_pure text
  cases opcode with
  | checkBounds =>
      exact forward_readWord.bind fun _ => forward_readIndex.bind fun _ => finished _
  | checkArity =>
      exact forward_readIndex.bind fun _ => forward_readIndex.bind fun _ => finished _
  | tableSwitch =>
      exact forward_readWord.bind fun _ => forward_readWord.bind fun _ =>
        (forward_readWords _ _).bind fun _ => finished _
  | unbox | box =>
      exact forward_readByte.bind fun _ => (forward_lift _).bind fun _ => finished _
  | throwNoDefault | loadReceiver | loadValue | constNull | pop | returnTop | returnNull =>
      exact finished _
  | _ => exact forward_readIndex.bind fun _ => finished _

theorem lt_of_readInstruction {image : Image} {place next : Nat} {text : String}
    (done : (readInstruction image).run place = some (text, next)) : place < next := by
  rw [readInstruction, StateT.run_bind] at done
  obtain ⟨⟨byte, behind⟩, first, following⟩ := Option.bind_eq_some_iff.mp done
  have rest : Forward (liftM (Opcode.ofByte? byte) >>= readOperands image) :=
    (forward_lift _).bind (forward_readOperands image)
  exact Nat.lt_of_lt_of_le (lt_of_readByte first) (rest behind text next following)

/-- The names of the entry points at an offset, each behind an empty line. -/
def entryHeaders (image : Image) (place : Nat) : List String :=
  EntryPoint.all.flatMap fun entryPoint =>
    if image.entry entryPoint = place then ["", entryPoint.name ++ ":"] else []

def linesAt (image : Image) (place : Nat) (text : String) : List String :=
  entryHeaders image place ++ ["  " ++ offset place ++ "  " ++ text]

def codeLinesFrom (image : Image) (place : Nat) (found : Array String) : Array String :=
  if place < image.code.size then
    match _ : (readInstruction image).run place with
    | some (text, next) => codeLinesFrom image next (found ++ linesAt image place text)
    | none => found ++ linesAt image place "<undecodable>"
  else found
termination_by image.code.size - place
decreasing_by
  have further := lt_of_readInstruction ‹(readInstruction image).run place = _›
  omega

def constantRow (place : Nat) (constant : Constant) : String :=
  "  #" ++ Text.padRight 3 (toString place) ++ " " ++ constant.listing

def lines (image : Image) : List String :=
  ["; " ++ image.typeName ++ " (" ++ image.target.text ++ ")",
    "; " ++ toString image.code.size ++ " bytes, " ++ toString image.constants.size
      ++ " constants, max_stack " ++ toString image.maxStack]
    ++ (codeLinesFrom image 0 #[]).toList
    ++ ["", "constants:"]
    ++ image.constants.toList.mapIdx constantRow

end Listing

/-- The text of an image; every line ends with a line feed. -/
def Image.listing (image : Image) : String :=
  Text.unlines (Listing.lines image)

end OrdinalDispatch.Code
