import MeshLight.Command.Reading
import MeshLight.Lamp

/-!
What a message asks of the lamp. A message is turned down if it is for no sensor of the node, has a
type that the node does not know, or holds no command.
-/

namespace MeshLight

namespace Message

/-- The operation that a message asks for. Whatever the answer is, it is logged. -/
def request (config : Config) (message : Message) : Traced Event (Option Lamp.Op) := do
  Traced.emit (.received message)
  match config.group? message.sensor with
  | none =>
      Traced.emit (.log (.unexpectedSensor message.sensor))
      return none
  | some group =>
      match message.content with
      | .light on =>
          Traced.emit (.log (.lightReceived message.sensor on))
          return some (if on then .on group .external else .off group)
      | .text payload =>
          Traced.emit (.log (.textReceived message.sensor payload.text))
          let command ← Command.read group payload.text
          return command.map (.ofCommand group)
      | .unsupported type =>
          Traced.emit (.log (.unexpectedType message.sensor type))
          return none

end Message

end MeshLight
