import MeshLight.Channel

/-!
The settings of a node.
-/

namespace MeshLight

/-- What is fixed when a node is set up. Times are in milliseconds. -/
structure Config where
  nodeId : UInt8 := 4
  sketchName : String := "KitchenLEDs"
  sketchVersion : String := "0.4"
  colorSensor : UInt8 := 0
  whiteSensor : UInt8 := 1
  /-- How long it takes to reach a level that is switched to. -/
  fadeTimeMs : UInt32 := 3000
  shortPressMs : UInt32 := 50
  longPressMs : UInt32 := 2000
  storageOffset : UInt32 := 0
  deriving DecidableEq, Repr

namespace Config

def sensor (config : Config) : Group → UInt8
  | .color => config.colorSensor
  | .white => config.whiteSensor

/-- The group that a sensor stands for. The colour group wins if both have the same sensor. -/
def group? (config : Config) (sensor : UInt8) : Option Group :=
  Group.all.find? fun group => config.sensor group == sensor

end Config

end MeshLight
