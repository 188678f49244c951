/-!
Linear ramps between two brightness values. The value at a time is the point of the straight line,
rounded towards the start of the ramp.
-/

namespace MeshLight

/-- A fade in progress. Times are in milliseconds, and a clock that has gone back counts as one that
has not moved. -/
structure Ramp where
  origin : UInt8
  target : UInt8
  durationMs : UInt32
  startedAt : Nat
  /-- When the output was last brought up to date. -/
  steppedAt : Nat
  deriving DecidableEq, Repr

namespace Ramp

/-- The least time between two steps of a ramp. -/
def minStepMs : Nat :=
  20

/-- How far the ramp goes, negative for a falling one. -/
def span (ramp : Ramp) : Int :=
  ramp.target.toNat - ramp.origin.toNat

/-- The time between two steps: as long as one unit of brightness takes, but not below the least
time. -/
def intervalMs (ramp : Ramp) : Nat :=
  max (ramp.durationMs.toNat / ramp.span.natAbs) minStepMs

def elapsedMs (ramp : Ramp) (now : Nat) : Nat :=
  now - ramp.startedAt

def isOver (ramp : Ramp) (now : Nat) : Bool :=
  ramp.durationMs.toNat ≤ ramp.elapsedMs now

def isDue (ramp : Ramp) (now : Nat) : Bool :=
  ramp.intervalMs ≤ now - ramp.steppedAt

/-- The value on the line. -/
def valueAt (ramp : Ramp) (now : Nat) : UInt8 :=
  .ofInt (ramp.origin.toNat + (ramp.span * ramp.elapsedMs now).tdiv ramp.durationMs.toNat)

end Ramp

end MeshLight
