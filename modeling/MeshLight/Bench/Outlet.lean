import MeshLight.Bench.ScriptedDriver
import MeshLight.Fader

/-!
A channel of the bench, which is either faded in software or follows a script.
-/

namespace MeshLight

abbrev Outlet :=
  Fader ⊕ ScriptedDriver

namespace Outlet

/-- Puts another value on a scripted channel. What is pending stays pending. -/
def force (outlet : Outlet) (value : UInt8) : Outlet :=
  outlet.map id fun driver => { driver with value }

def withScript (outlet : Outlet) (script : Script) : Outlet :=
  outlet.map id fun driver => { driver with script }

def withMaxDuty (outlet : Outlet) (maxDuty : UInt16) : Outlet :=
  outlet.map (fun fader => { fader with pwm := { fader.pwm with maxDuty } }) id

def withFaults (outlet : Outlet) (faults : FaultPlan) : Outlet :=
  outlet.map (fun fader => { fader with pwm := { fader.pwm with faults } }) id

end Outlet

end MeshLight
