import MeshLight.Level

/-!
Fades from one level to another.
-/

namespace MeshLight

inductive Direction where
  /-- From the start to the stop level. -/
  | forward
  /-- From the stop back to the start level. -/
  | backward
  deriving DecidableEq, Repr

namespace Direction

def flip : Direction → Direction
  | forward => backward
  | backward => forward

@[simp]
theorem flip_flip (direction : Direction) : direction.flip.flip = direction := by
  cases direction <;> rfl

theorem flip_ne (direction : Direction) : direction.flip ≠ direction := by
  cases direction <;> decide

end Direction

/-- A fade between two levels. A looping one turns round at each end. -/
structure Transition where
  start : Level
  stop : Level
  durationMs : UInt32
  looping : Bool
  deriving DecidableEq, Repr

namespace Transition

/-- The transition of a group that was never given one. -/
def idle : Transition where
  start := .off
  stop := .off
  durationMs := 0
  looping := false

/-- The level that a transition leaves when it runs in the given direction. -/
def origin (transition : Transition) : Direction → Level
  | .forward => transition.start
  | .backward => transition.stop

/-- The level that a transition heads for when it runs in the given direction. -/
def goal (transition : Transition) (direction : Direction) : Level :=
  transition.origin direction.flip

end Transition

end MeshLight
