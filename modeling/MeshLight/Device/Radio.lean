import MeshLight.Device.FaultPlan
import MeshLight.Message

/-!
The radio of a node: messages that have arrived, and sends that may not reach the next node.
-/

namespace MeshLight

structure Radio where
  /-- Messages that wait to be handled, in the order of their arrival. -/
  inbound : List Message
  faults : FaultPlan

namespace Radio

/-- Sends something and says whether it reached the next node. -/
def send (radio : Radio) : Bool × Radio :=
  let (fails, faults) := radio.faults.draw
  (!fails, { radio with faults })

def push (radio : Radio) (message : Message) : Radio :=
  { radio with inbound := radio.inbound ++ [message] }

def emptied (radio : Radio) : Radio :=
  { radio with inbound := [] }

end Radio

end MeshLight
