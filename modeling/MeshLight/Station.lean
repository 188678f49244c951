import MeshLight.Button
import MeshLight.Node

/-!
A node together with its push button: everything that is installed in one place.
-/

namespace MeshLight

structure Station (δ : Type) where
  node : Node δ
  button : Button (Node δ)

namespace Station

variable {δ : Type}

def ofNode (node : Node δ) : Station δ where
  node := node
  button := .ofThresholds
    { shortMs := node.lamp.config.shortPressMs, longMs := node.lamp.config.longPressMs }

variable [ChannelDriver δ]

/-- Lets a short press toggle the light when it ends, and a long press show the next scene. -/
def register (button : Button (Node δ)) : Button (Node δ) :=
  (button.on .shortRelease Node.toggle).on .longPress Node.showScene

/-- One cycle of the program: the messages, then the button, then the light. -/
def cycle (station : Station δ) (now : Nat) (level : Option Bool) : Traced Event (Station δ) := do
  let node ← station.node.drain now
  let (_, button, node) ← station.button.poll node now level
  let node ← node.operate now .advance
  return { node, button }

inductive Op where
  | start
  /-- A message is handled at once. -/
  | receive (message : Message)
  /-- A message arrives and waits. -/
  | push (message : Message)
  | toggle
  | showScene
  | poll
  | lamp (op : Lamp.Op)
  | cycle (level : Option Bool)
  | register
  | clear (gesture : Gesture)
  deriving DecidableEq, Repr

def apply (station : Station δ) (now : Nat) : Op → Traced Event (Station δ)
  | .start => onNode (station.node.start now)
  | .receive message => onNode (station.node.receive now message)
  | .push message => return { station with node := station.node.push message }
  | .toggle => onNode (station.node.toggle now)
  | .showScene => onNode (station.node.showScene now)
  | .poll => onNode (station.node.poll now)
  | .lamp op => onNode (station.node.operate now op)
  | .cycle level => station.cycle now level
  | .register => return { station with button := register station.button }
  | .clear gesture => return { station with button := station.button.clear gesture }
where
  onNode (result : Traced Event (Node δ)) : Traced Event (Station δ) := do
    let node ← result
    return { station with node }

/-- Carries out operations, each at the clock that stands beside it. -/
def replay (station : Station δ) (history : List (Nat × Op)) : Traced Event (Station δ) :=
  Traced.replay apply station history

end Station

end MeshLight
