import MeshLight.Request
import MeshLight.Scene

/-!
The node of the network: the lamp, the messages that come for it, and the two things that a button
can do to it.
-/

namespace MeshLight

structure Node (δ : Type) where
  lamp : Lamp δ
  /-- What the next long press shows. -/
  scene : Scene

namespace Node

variable {δ : Type}

def ofLamp (lamp : Lamp δ) : Node δ where
  lamp := lamp
  scene := .both

variable [ChannelDriver δ]

def operate (node : Node δ) (now : Nat) (op : Lamp.Op) : Traced Event (Node δ) := do
  let lamp ← node.lamp.apply now op
  return { node with lamp }

def start (node : Node δ) (now : Nat) : Traced Event (Node δ) := do
  let lamp ← node.lamp.present
  { node with lamp }.operate now .boot

/-- Does what a message asks for, if it asks for something. -/
def receive (node : Node δ) (now : Nat) (message : Message) : Traced Event (Node δ) := do
  match ← message.request node.lamp.config with
  | some op => node.operate now op
  | none => return node

/-- Switches everything off if anything is lit, else everything on at the button's level. The scenes
begin anew. -/
def toggle (node : Node δ) (now : Nat) : Traced Event (Node δ) :=
  let op (group : Group) : Lamp.Op :=
    if node.lamp.isOn then .off group else .on group .button
  Group.all.foldlM (fun node group => node.operate now (op group)) { node with scene := .both }

/-- Shows the scene whose turn it is at the button's level. -/
def showScene (node : Node δ) (now : Nat) : Traced Event (Node δ) :=
  let op (group : Group) : Lamp.Op :=
    if node.scene.lights group then .on group .button else .off group
  Group.all.foldlM (fun node group => node.operate now (op group))
    { node with scene := node.scene.next }

/-- Handles every message that waits, in the order of arrival. -/
def drain (node : Node δ) (now : Nat) : Traced Event (Node δ) :=
  let lamp := { node.lamp with radio := node.lamp.radio.emptied }
  node.lamp.radio.inbound.foldlM (fun node message => node.receive now message) { node with lamp }

def poll (node : Node δ) (now : Nat) : Traced Event (Node δ) := do
  let node ← node.drain now
  node.operate now .advance

def push (node : Node δ) (message : Message) : Node δ :=
  { node with lamp := { node.lamp with radio := node.lamp.radio.push message } }

end Node

end MeshLight
