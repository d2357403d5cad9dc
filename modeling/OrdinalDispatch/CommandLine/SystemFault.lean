/-!
Contract: why a system refuses an access to a file.

Owns: the number and the words of a refusal, and its text.

Does not own: accesses.
-/

set_option autoImplicit false

namespace OrdinalDispatch.CommandLine

/-- A refusal: its number in the system, and the system's words for it. -/
structure SystemFault where
  number : Nat
  words : String
deriving DecidableEq, Repr

namespace SystemFault

def message (fault : SystemFault) : String :=
  fault.words ++ " (os error " ++ toString fault.number ++ ")"

def missing : SystemFault := ⟨2, "No such file or directory"⟩

def occupied : SystemFault := ⟨17, "File exists"⟩

def notDirectory : SystemFault := ⟨20, "Not a directory"⟩

def isDirectory : SystemFault := ⟨21, "Is a directory"⟩

def nameTooLong : SystemFault := ⟨36, "File name too long"⟩

def denied : SystemFault := ⟨13, "Permission denied"⟩

/-- The refusals with words of their own. -/
def known : List SystemFault := [missing, denied, occupied, notDirectory, isDirectory, nameTooLong]

/-- The refusal of a number; `words` are for numbers without words of their own. -/
def ofNumber (number : Nat) (words : String) : SystemFault :=
  (known.find? fun fault => fault.number = number).getD ⟨number, words⟩

end SystemFault

def maximumNameBytes : Nat := 255

def maximumPathBytes : Nat := 4095

end OrdinalDispatch.CommandLine
