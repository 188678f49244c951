import MeshLight.ChannelDriver
import MeshLight.Device.Pwm
import MeshLight.Ramp

/-!
A channel driver that fades a pulse-width output in software. It steps along a ramp each time that it
is polled and a step is due, and shows exactly the target once the duration has passed.
-/

namespace MeshLight

/-- A software fader. Its value is what it last wrote, whether or not the output took it. -/
structure Fader where
  value : UInt8
  ramp : Option Ramp
  pwm : Pwm

namespace Fader

/-- Where the fader is heading, which is where it stands if no fade is in progress. -/
def target (fader : Fader) : UInt8 :=
  match fader.ramp with
  | some ramp => ramp.target
  | none => fader.value

def isFading (fader : Fader) : Bool :=
  fader.ramp.isSome

/-- Shows a value. A refused duty is logged and nothing else comes of it. -/
def write (fader : Fader) (value : UInt8) : Traced OutputEvent Fader := do
  let (accepted, pwm) := fader.pwm.offer
  Traced.emit (.duty (fader.pwm.duty value) accepted)
  unless accepted do
    Traced.emit (.log .dutyRejected)
  return { fader with value, pwm }

/-- A fader that has just switched its output off. -/
def start (pwm : Pwm) : Traced OutputEvent Fader :=
  write { value := 0, ramp := none, pwm } 0

def set (fader : Fader) (value : UInt8) : Traced OutputEvent Fader :=
  write { fader with ramp := none } value

/-- Heads for a target. A fade that is too short for a single step is done at once, and one to the
present value has nothing to do. -/
def fade (fader : Fader) (now : Nat) (target : UInt8) (durationMs : UInt32) :
    Traced OutputEvent Fader :=
  if target = fader.value then
    return { fader with ramp := none }
  else if durationMs.toNat ≤ Ramp.minStepMs then
    write { fader with ramp := none } target
  else
    let ramp := { origin := fader.value, target, durationMs, startedAt := now, steppedAt := now }
    return { fader with ramp := some ramp }

/-- Brings the fade up to date: lands if the duration has passed, else steps if a step is due. -/
def advance (fader : Fader) (now : Nat) : Traced OutputEvent Fader :=
  match fader.ramp with
  | none => return fader
  | some ramp =>
      if ramp.isOver now then
        write { fader with ramp := none } ramp.target
      else if ramp.isDue now then
        write { fader with ramp := some { ramp with steppedAt := now } } (ramp.valueAt now)
      else
        return fader

def obey (fader : Fader) (now : Nat) : ChannelCommand → Traced OutputEvent Fader
  | .set value => fader.set value
  | .fade target durationMs => fader.fade now target durationMs

instance : ChannelDriver Fader where
  value := value
  isFading := isFading
  obey := obey
  advance := advance

end Fader

end MeshLight
