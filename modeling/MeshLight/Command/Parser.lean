import MeshLight.Command
import MeshLight.Command.ParseError
import MeshLight.Payload
import MeshLight.Text.Decimal

/-!
Reading commands. A command is a code byte, a comma and comma-separated fields: one level for a
limit, two levels and a duration in milliseconds for a transition. A level is written with two hex
digits for each channel of the group that it is meant for.
-/

namespace MeshLight

namespace Command

/-- More fields than this are refused whatever the code. -/
def maxFieldCount : Nat :=
  4

/-- The byte between the code and the fields, and between fields. -/
def comma : UInt8 :=
  0x2c

/-- The fields of a text, given what follows its code byte. An empty rest after the separator holds
no field at all. -/
def fields : List UInt8 → List (List UInt8)
  | _ :: first :: rest => (first :: rest).splitOn comma
  | _ => []

def levelWidth (group : Group) : Nat :=
  2 * group.channels.length

/-- Reads a level. Channels outside the group stay dark. -/
def parseLevel (group : Group) (field : List UInt8) : Except ParseError Level :=
  if field.length ≠ levelWidth group then
    .error (.levelLength (levelWidth group) field.length)
  else
    match Hex.decode field with
    | some components => .ok (.ofComponents group components)
    | none => .error .badHex

/-- Reads a duration, which has to fit 32 bits. -/
def parseDuration (field : List UInt8) : Except ParseError UInt32 :=
  match Decimal.decode field with
  | some number =>
      if number < UInt32.size then .ok (UInt32.ofNat number) else .error .badDuration
  | none => .error .badDuration

/-- Reads the fields that belong to a code. -/
def parseFields (group : Group) : Code → List (List UInt8) → Except ParseError Command
  | .limit source, [level] => do
      return .limit source (← parseLevel group level)
  | .limit _, fields => .error (.fieldCount 1 fields.length)
  | .play looping, [start, stop, duration] => do
      let start ← parseLevel group start
      let stop ← parseLevel group stop
      let durationMs ← parseDuration duration
      return .play { start, stop, durationMs, looping }
  | .play _, fields => .error (.fieldCount 3 fields.length)

/-- Reads the bytes of a command for a group. The checks run in a fixed order and the first that
fails is reported. A text as large as the whole buffer of a message is refused, and the separator is
only looked at when something follows it. -/
def parseBytes (group : Group) : List UInt8 → Except ParseError Command
  | [] => .error .empty
  | byte :: rest =>
      let size := rest.length + 1
      if Payload.capacity ≤ size then .error (.tooLong size)
      else if 2 < size ∧ rest.head? ≠ some comma then .error .badSeparator
      else
        match Code.ofByte? byte with
        | none => .error (.unknownCode byte)
        | some code =>
            let fields := fields rest
            if maxFieldCount < fields.length then
              .error (.fieldCount maxFieldCount fields.length)
            else parseFields group code fields

def parse (group : Group) (text : String) : Except ParseError Command :=
  parseBytes group text.toUTF8.data.toList

end Command

end MeshLight
