import MeshLight.Transition

/-!
The progress of a group's transition.
-/

namespace MeshLight

/-- A group's transition and how far it has got. A group that is not running keeps the transition and
the direction it had. -/
structure Run where
  running : Bool
  transition : Transition
  direction : Direction
  deriving DecidableEq, Repr

inductive Phase where
  /-- Nothing runs; the light is what was last asked for. -/
  | idle
  /-- A transition without return was started. It counts as running until it is stopped. -/
  | oneShot
  | loop (direction : Direction)
  deriving DecidableEq, Repr

namespace Run

/-- The run of a group before anything was asked of it. -/
def initial : Run where
  running := false
  transition := .idle
  direction := .forward

def phase (run : Run) : Phase :=
  if !run.running then .idle
  else if run.transition.looping then .loop run.direction
  else .oneShot

/-- The level that the run came from. -/
def origin (run : Run) : Level :=
  run.transition.origin run.direction

/-- The level that the run heads for. -/
def goal (run : Run) : Level :=
  run.transition.goal run.direction

/-- The run from the start of its transition. -/
def started (run : Run) : Run :=
  { run with running := true, direction := .forward }

def stopped (run : Run) : Run :=
  { run with running := false }

def reversed (run : Run) : Run :=
  { run with direction := run.direction.flip }

@[simp]
theorem origin_reversed (run : Run) : run.reversed.origin = run.goal :=
  rfl

@[simp]
theorem goal_reversed (run : Run) : run.reversed.goal = run.origin := by
  simp [goal, origin, reversed, Transition.goal]

end Run

end MeshLight
