import MeshLight.Fixture
import MeshLight.Run

/-!
The transition engine: a fixture and the run of each group. A looping run turns round when its group
shows exactly the level that it heads for; the groups have nothing to do with each other.
-/

namespace MeshLight

structure Engine (δ : Type) where
  fixture : Fixture δ
  runs : PerGroup Run
  deriving DecidableEq, Repr

namespace Engine

variable {δ : Type}

def ofFixture (fixture : Fixture δ) : Engine δ where
  fixture := fixture
  runs := .replicate .initial

def run (engine : Engine δ) (group : Group) : Run :=
  engine.runs.get group

def withRun (engine : Engine δ) (group : Group) (run : Run) : Engine δ :=
  { engine with runs := engine.runs.set group run }

/-- Stores a transition without starting it. A run in progress keeps its direction and from now on
turns round at the ends of the new transition. -/
def program (engine : Engine δ) (group : Group) (transition : Transition) : Engine δ :=
  engine.withRun group { engine.run group with transition }

/-- Stops the run of a group and leaves its channels alone. -/
def stop (engine : Engine δ) (group : Group) : Engine δ :=
  engine.withRun group (engine.run group).stopped

@[simp]
theorem run_withRun_self (engine : Engine δ) (group : Group) (run : Run) :
    (engine.withRun group run).run group = run := by
  simp [Engine.run, withRun]

@[simp]
theorem run_withRun_of_ne (engine : Engine δ) {group other : Group} (run : Run)
    (different : other ≠ group) :
    (engine.withRun group run).run other = engine.run other := by
  simp [Engine.run, withRun, different]

@[simp]
theorem fixture_withRun (engine : Engine δ) (group : Group) (run : Run) :
    (engine.withRun group run).fixture = engine.fixture :=
  rfl

variable [ChannelDriver δ]

/-- Gives a group a run and sends its channels from the origin of that run to the goal. -/
def launch (engine : Engine δ) (now : Nat) (group : Group) (run : Run) :
    Traced Event (Engine δ) := do
  let durationMs := run.transition.durationMs
  Traced.emit (.log (.sweeping group run.origin run.goal durationMs))
  let fixture ← engine.fixture.sweep now group run.origin run.goal durationMs
  return { engine with fixture }.withRun group run

def start (engine : Engine δ) (now : Nat) (group : Group) : Traced Event (Engine δ) :=
  engine.launch now group (engine.run group).started

/-- The run of a group has reached the end where it has to turn round. -/
def turns (engine : Engine δ) (group : Group) : Bool :=
  let run := engine.run group
  run.running && run.transition.looping && engine.fixture.shows group run.goal

/-- Turns the run of a group round if it is due. -/
def bounce (engine : Engine δ) (now : Nat) (group : Group) : Traced Event (Engine δ) :=
  if engine.turns group then engine.launch now group (engine.run group).reversed
  else return engine

def tick (engine : Engine δ) (now : Nat) : Traced Event (Engine δ) :=
  Group.all.foldlM (fun engine group => engine.bounce now group) engine

/-- Brings the channels up to date, then turns the runs round that are due. -/
def advance (engine : Engine δ) (now : Nat) : Traced Event (Engine δ) := do
  let fixture ← engine.fixture.advance now
  { engine with fixture }.tick now

/-- Fades a group from where it is to a level. The run of the group does not change. -/
def fade (engine : Engine δ) (now : Nat) (group : Group) (target : Level) (durationMs : UInt32) :
    Traced Event (Engine δ) := do
  Traced.emit (.log (.fading group target durationMs))
  let fixture ← engine.fixture.fade now group target durationMs
  return { engine with fixture }

inductive Op where
  | program (group : Group) (transition : Transition)
  | start (group : Group)
  | stop (group : Group)
  | fade (group : Group) (target : Level) (durationMs : UInt32)
  | tick
  | advance
  deriving DecidableEq, Repr

def apply (engine : Engine δ) (now : Nat) : Op → Traced Event (Engine δ)
  | .program group transition => return engine.program group transition
  | .start group => engine.start now group
  | .stop group => return engine.stop group
  | .fade group target durationMs => engine.fade now group target durationMs
  | .tick => engine.tick now
  | .advance => engine.advance now

/-- Carries out operations, each at the clock that stands beside it. -/
def replay (engine : Engine δ) (history : List (Nat × Op)) : Traced Event (Engine δ) :=
  Traced.replay apply engine history

end Engine

end MeshLight
