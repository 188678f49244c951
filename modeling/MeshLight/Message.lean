import MeshLight.Payload

/-!
What the node and the gateway of its network tell each other.
-/

namespace MeshLight

/-- The value of a message to a sensor. -/
inductive Content where
  /-- A request to switch the light on or off. -/
  | light (on : Bool)
  | text (payload : Payload)
  /-- A value of any other type, with the number of that type. -/
  | unsupported (type : UInt8)
  deriving DecidableEq, Repr

structure Message where
  sensor : UInt8
  content : Content
  deriving DecidableEq, Repr

inductive SensorKind where
  | rgbLight
  | light
  deriving DecidableEq, Repr

end MeshLight
