import MeshLight.Source
import MeshLight.Transition

/-!
Commands that a text message can carry, and the byte that announces each kind of command.
-/

namespace MeshLight

/-- What a text message asks of one group. -/
inductive Command where
  /-- Remember a level for a source and fade to it. -/
  | limit (source : Source) (level : Level)
  | play (transition : Transition)
  deriving DecidableEq, Repr

/-- The kind of a command, as its first byte tells it. -/
inductive Code where
  | limit (source : Source)
  | play (looping : Bool)
  deriving DecidableEq, Repr

namespace Code

/-- Every code, in the order of its byte. -/
def all : List Code :=
  [limit .external, limit .button, play false, play true]

/-- Codes are the ASCII digits from `0` to `3`. -/
def byte : Code → UInt8
  | limit .external => 0x30
  | limit .button => 0x31
  | play false => 0x32
  | play true => 0x33

/-- The code that a byte stands for, if it is one of the four digits. -/
def ofByte? (byte : UInt8) : Option Code :=
  all.find? fun code => code.byte == byte

/-- The byte that stands for the absence of a command. -/
def noneByte : UInt8 :=
  0

theorem ofByte?_byte (code : Code) : ofByte? code.byte = some code := by
  rcases code with source | looping
  · cases source <;> decide
  · cases looping <;> decide

theorem byte_of_ofByte? {byte : UInt8} {code : Code} (found : ofByte? byte = some code) :
    code.byte = byte := by
  simpa using List.find?_some found

end Code

namespace Command

def code : Command → Code
  | limit source _ => .limit source
  | play transition => .play transition.looping

/-- The first byte of a command's text, or the byte that stands for none. -/
def leadingByte : Option Command → UInt8
  | some command => command.code.byte
  | none => Code.noneByte

end Command

end MeshLight
