import MeshLight.Text.Hex

/-!
The reasons for which the text of a command is refused, and their wording.
-/

namespace MeshLight

/-- Why a text is no command. Sizes and lengths count bytes. -/
inductive ParseError where
  | empty
  | tooLong (size : Nat)
  | badSeparator
  | unknownCode (byte : UInt8)
  | fieldCount (expected actual : Nat)
  | levelLength (expected actual : Nat)
  | badHex
  | badDuration
  deriving DecidableEq, Repr

namespace ParseError

def message : ParseError → String
  | empty => "empty payload"
  | tooLong size => "payload too long: " ++ Nat.repr size ++ " bytes"
  | badSeparator => "second character must be ','"
  | unknownCode byte => "unknown command code " ++ Hex.byteNumeral byte
  | fieldCount expected actual =>
      "expected " ++ Nat.repr expected ++ " fields, got " ++ Nat.repr actual
  | levelLength expected actual =>
      "expected " ++ Nat.repr expected ++ " hex digits, got " ++ Nat.repr actual
  | badHex => "invalid hex digit"
  | badDuration => "duration is not an unsigned 32-bit decimal"

end ParseError

end MeshLight
