import MeshLight.Command.Parser

/-!
Writing commands: the shortest text that a group reads back as a given command.
-/

namespace MeshLight

namespace Command

def levelField (group : Group) (level : Level) : List UInt8 :=
  Hex.encode (level.components group)

def writtenFields (group : Group) : Command → List (List UInt8)
  | limit _ level => [levelField group level]
  | play transition =>
      [levelField group transition.start, levelField group transition.stop,
        Decimal.encode transition.durationMs.toNat]

def bytes (group : Group) (command : Command) : List UInt8 :=
  command.code.byte :: comma :: [comma].intercalate (writtenFields group command)

def print (group : Group) (command : Command) : String :=
  String.ofList ((bytes group command).map Char.ofUInt8)

end Command

end MeshLight
