import MeshLight.Device.FaultPlan

/-!
A pulse-width output: brightness is the share of its duty range that it is given.
-/

namespace MeshLight

/-- An output that takes duties up to a maximum, or refuses them when it is out of order. -/
structure Pwm where
  maxDuty : UInt16
  faults : FaultPlan

namespace Pwm

/-- The duty for a brightness, rounded down. -/
def duty (pwm : Pwm) (value : UInt8) : Nat :=
  value.toNat * pwm.maxDuty.toNat / 255

/-- Offers a duty to the output and says whether it was taken. -/
def offer (pwm : Pwm) : Bool × Pwm :=
  let (fails, faults) := pwm.faults.draw
  (!fails, { pwm with faults })

end Pwm

end MeshLight
