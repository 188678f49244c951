import MeshLight.LogRecord
import MeshLight.Message
import MeshLight.Record
import MeshLight.Traced

/-!
Everything that crosses the boundary between the node and the world around it, as data. A run of any
part of the node yields the list of its events in order.
-/

namespace MeshLight

/-- What the driver of a channel is told to do. -/
inductive ChannelCommand where
  /-- Show a value at once and give up any fade. -/
  | set (value : UInt8)
  /-- Fade from the present value to a target. -/
  | fade (target : UInt8) (durationMs : UInt32)
  deriving DecidableEq, Repr

/-- The value that a command asks for in the end. -/
def ChannelCommand.target : ChannelCommand → UInt8
  | set value => value
  | fade target _ => target

/-- What the driver of a single channel does to the world. -/
inductive OutputEvent where
  /-- A duty was handed to the output, which took it or refused it. -/
  | duty (amount : Nat) (accepted : Bool)
  | log (record : LogRecord)
  deriving DecidableEq, Repr

/-- An observable step of the node. -/
inductive Event where
  | log (record : LogRecord)
  /-- The driver of a channel got a command. -/
  | command (channel : Channel) (command : ChannelCommand)
  | duty (channel : Channel) (amount : Nat) (accepted : Bool)
  /-- The stored record was asked for. -/
  | read (offset : UInt32) (succeeded : Bool)
  /-- A record was handed to the memory. -/
  | write (offset : UInt32) (image : Record.Image) (succeeded : Bool)
  | status (sensor : UInt8) (on : Bool) (sent : Bool)
  | sketch (name version : String) (sent : Bool)
  | present (sensor : UInt8) (kind : SensorKind) (description : String) (sent : Bool)
  /-- A message is about to be handled. -/
  | received (message : Message)
  /-- The pin of the button was looked at; there is no level if it could not be read. -/
  | sampled (level : Option Bool)
  deriving DecidableEq, Repr

namespace Event

/-- An event of a channel's driver, seen from the node. -/
def ofOutput (channel : Channel) : OutputEvent → Event
  | .duty amount accepted => .duty channel amount accepted
  | .log record => .log record

end Event

end MeshLight
