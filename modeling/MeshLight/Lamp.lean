import MeshLight.Command
import MeshLight.Config
import MeshLight.Device.Radio
import MeshLight.Engine
import MeshLight.Store

/-!
The lamp: the one place from which the light is switched. Each operation goes together with what has
to be remembered and with a report to the network, and goes on when either of these fails.
-/

namespace MeshLight

structure Lamp (δ : Type) where
  config : Config
  engine : Engine δ
  store : Store
  radio : Radio

namespace Lamp

variable {δ : Type}

def assemble (config : Config) (fixture : Fixture δ) (eeprom : Eeprom) (radio : Radio) : Lamp δ where
  config := config
  engine := .ofFixture fixture
  store := .ofEeprom eeprom config.storageOffset
  radio := radio

/-- Sends something over the radio. A loss is logged, and nothing is sent again. -/
def send (lamp : Lamp δ) (event : Bool → Event) (lost : LogRecord) : Traced Event (Lamp δ) := do
  let (sent, radio) := lamp.radio.send
  Traced.emit (event sent)
  unless sent do
    Traced.emit (.log lost)
  return { lamp with radio }

/-- Tells the gateway what the node is and which sensors it has. -/
def present (lamp : Lamp δ) : Traced Event (Lamp δ) := do
  let config := lamp.config
  Traced.emit (.log (.presenting config.nodeId))
  let lamp ← lamp.send (.sketch config.sketchName config.sketchVersion) .sketchLost
  let lamp ← lamp.send (.present config.colorSensor .rgbLight "Color LEDs")
    (.presentationLost config.colorSensor)
  lamp.send (.present config.whiteSensor .light "White LED") (.presentationLost config.whiteSensor)

def report (lamp : Lamp δ) (group : Group) (on : Bool) : Traced Event (Lamp δ) :=
  let sensor := lamp.config.sensor group
  lamp.send (.status sensor on) (.statusLost sensor on)

def restore (lamp : Lamp δ) : Traced Event (Lamp δ) := do
  let (outcome, store) ← lamp.store.load
  if let .error error := outcome then
    Traced.emit (.log (.loadFailed error))
  return { lamp with store }

def remember (lamp : Lamp δ) (source : Source) (group : Group) (level : Level) :
    Traced Event (Lamp δ) := do
  let (outcome, store) ← lamp.store.save source group level
  if let .error error := outcome then
    Traced.emit (.log (.saveFailed group source error))
  return { lamp with store }

variable [ChannelDriver δ]

def isOn (lamp : Lamp δ) : Bool :=
  lamp.engine.fixture.isLit

/-- Stops the transition of a group, fades the group to a level and reports it as on or off. -/
def settle (lamp : Lamp δ) (now : Nat) (group : Group) (level : Level) (on : Bool) :
    Traced Event (Lamp δ) := do
  let engine ← (lamp.engine.stop group).fade now group level lamp.config.fadeTimeMs
  { lamp with engine }.report group on

def off (lamp : Lamp δ) (now : Nat) (group : Group) : Traced Event (Lamp δ) :=
  lamp.settle now group .off false

/-- Switches a group on, at the level remembered for a source. -/
def on (lamp : Lamp δ) (now : Nat) (group : Group) (source : Source) : Traced Event (Lamp δ) :=
  lamp.settle now group (lamp.store.level source) true

/-- Remembers a level for a source and switches the group to it. -/
def limit (lamp : Lamp δ) (now : Nat) (source : Source) (group : Group) (level : Level) :
    Traced Event (Lamp δ) := do
  let lamp ← lamp.remember source group level
  lamp.settle now group level true

/-- Runs a transition on a group from its start. -/
def play (lamp : Lamp δ) (now : Nat) (group : Group) (transition : Transition) :
    Traced Event (Lamp δ) := do
  let engine ← (lamp.engine.program group transition).start now group
  { lamp with engine }.report group true

def boot (lamp : Lamp δ) (now : Nat) : Traced Event (Lamp δ) := do
  let lamp ← lamp.restore
  Group.all.foldlM (fun lamp group => lamp.off now group) lamp

/-- Brings the light up to date. This is due in every cycle of the program. -/
def advance (lamp : Lamp δ) (now : Nat) : Traced Event (Lamp δ) := do
  let engine ← lamp.engine.advance now
  return { lamp with engine }

inductive Op where
  | boot
  | limit (source : Source) (group : Group) (level : Level)
  | play (group : Group) (transition : Transition)
  | off (group : Group)
  | on (group : Group) (source : Source)
  | advance
  deriving DecidableEq, Repr

def Op.ofCommand (group : Group) : Command → Op
  | .limit source level => .limit source group level
  | .play transition => .play group transition

def apply (lamp : Lamp δ) (now : Nat) : Op → Traced Event (Lamp δ)
  | .boot => lamp.boot now
  | .limit source group level => lamp.limit now source group level
  | .play group transition => lamp.play now group transition
  | .off group => lamp.off now group
  | .on group source => lamp.on now group source
  | .advance => lamp.advance now

/-- Carries out operations, each at the clock that stands beside it. -/
def replay (lamp : Lamp δ) (history : List (Nat × Op)) : Traced Event (Lamp δ) :=
  Traced.replay apply lamp history

end Lamp

end MeshLight
