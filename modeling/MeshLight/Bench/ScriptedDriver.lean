import MeshLight.ChannelDriver

/-!
A channel driver for the bench. It does not fade; it does to a pending fade what its script says.
-/

namespace MeshLight

/-- What becomes of a pending fade when the driver is polled. -/
inductive Script where
  /-- It is done. -/
  | complete
  /-- It stays pending. -/
  | hold
  /-- It is done, but stops one short of the target. -/
  | undershoot
  deriving DecidableEq, Repr

structure ScriptedDriver where
  value : UInt8
  pending : Option UInt8
  script : Script
  deriving DecidableEq, Repr

namespace ScriptedDriver

def ofScript (script : Script) : ScriptedDriver where
  value := 0
  pending := none
  script := script

/-- The value one short of a target. -/
def shortOf (value target : UInt8) : UInt8 :=
  if value < target then target - 1
  else if target < value then target + 1
  else value

def obey (driver : ScriptedDriver) : ChannelCommand → ScriptedDriver
  | .set value => { driver with value, pending := none }
  | .fade target _ => { driver with pending := some target }

def advance (driver : ScriptedDriver) : ScriptedDriver :=
  match driver.pending, driver.script with
  | none, _ | _, .hold => driver
  | some target, .complete => { driver with value := target, pending := none }
  | some target, .undershoot =>
      { driver with value := shortOf driver.value target, pending := none }

instance : ChannelDriver ScriptedDriver where
  value := value
  isFading driver := driver.pending.isSome
  obey driver _ command := return driver.obey command
  advance driver _ := return driver.advance

end ScriptedDriver

end MeshLight
