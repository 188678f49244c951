import MeshLight.Bench.ScriptedDriver
import MeshLight.Proofs.Engine.Agreement

/-!
How loops turn round over drivers of any kind. A tick commands a group only if the group is at the end
that its loop heads for, whatever has brought it there, and then sends it to the other end. So the
sweeps that ticks send a group on go backwards and forwards in turn, starting with a backward one.
-/

namespace MeshLight

/-- The direction of a run that was started and has turned round a number of times. -/
def Direction.afterTurns (turns : Nat) : Direction :=
  if turns % 2 = 0 then forward else backward

theorem Direction.afterTurns_succ (turns : Nat) :
    afterTurns (turns + 1) = (afterTurns turns).flip := by
  by_cases even : turns % 2 = 0
  · have odd : (turns + 1) % 2 ≠ 0 := by omega
    rw [afterTurns, afterTurns, if_pos even, if_neg odd]
    rfl
  · have evenNext : (turns + 1) % 2 = 0 := by omega
    rw [afterTurns, afterTurns, if_neg even, if_pos evenNext]
    rfl

theorem Fixture.sweepCommands_ne_nil (group : Group) (start stop : Level) (durationMs : UInt32) :
    sweepCommands group start stop durationMs ≠ [] := by
  cases group <;> exact List.cons_ne_nil _ _

namespace Engine

variable {δ : Type}

/-- What can happen to an engine from outside. -/
inductive Happening (δ : Type) where
  | operation (now : Nat) (op : Op)
  /-- The drivers have come to be in other states, and to show other values. -/
  | drift (fixture : Fixture δ)

/-- The operation looks for runs to turn round. -/
def Op.ticks : Op → Bool
  | tick | advance => true
  | _ => false

namespace Happening

def ticks : Happening δ → Bool
  | operation _ op => op.ticks
  | drift _ => false

def Starts (group : Group) : Happening δ → Prop
  | operation _ (.start asked) => asked = group
  | _ => False

end Happening

variable [ChannelDriver δ]

def undergo (engine : Engine δ) : Happening δ → Traced Event (Engine δ)
  | .operation now op => engine.apply now op
  | .drift fixture => return { engine with fixture }

/-- Lets one thing after the other happen. -/
def live (engine : Engine δ) (course : List (Happening δ)) : Traced Event (Engine δ) :=
  course.foldlM undergo engine

/-- How many ticks of a course send commands to a group. -/
def turnCount (engine : Engine δ) (group : Group) : List (Happening δ) → Nat
  | [] => 0
  | happening :: rest =>
      let next := engine.undergo happening
      let turned := happening.ticks ∧ Event.commandsTo group next.events ≠ []
      turnCount next.value group rest + if turned then 1 else 0

variable (engine : Engine δ) (now : Nat) (group : Group)

theorem commandsTo_tick_ne_nil_iff :
    Event.commandsTo group (engine.tick now).events ≠ [] ↔ engine.turns group = true := by
  rw [commandsTo_tick]
  by_cases due : engine.turns group = true
  · rw [if_pos due]
    exact iff_of_true (Fixture.sweepCommands_ne_nil _ _ _ _) due
  · rw [if_neg due]
    exact iff_of_false (not_not_intro rfl) due

/-- A run turns round in a tick exactly if the tick commands its group. -/
theorem direction_tick :
    ((engine.tick now).value.run group).direction =
      if Event.commandsTo group (engine.tick now).events ≠ [] then
        (engine.run group).direction.flip
      else (engine.run group).direction := by
  simp only [commandsTo_tick_ne_nil_iff, run_tick, apply_ite Run.direction]
  rfl

theorem direction_undergo {happening : Happening δ} (noStart : ¬ happening.Starts group) :
    ((engine.undergo happening).value.run group).direction =
      if happening.ticks ∧ Event.commandsTo group (engine.undergo happening).events ≠ [] then
        (engine.run group).direction.flip
      else (engine.run group).direction := by
  cases happening with
  | drift fixture =>
      rfl
  | operation now op =>
      cases op with
      | program asked transition =>
          by_cases same : group = asked
          · subst same
            simp [undergo, apply, program, Happening.ticks, Op.ticks]
          · simp [undergo, apply, program, Happening.ticks, Op.ticks, same]
      | start asked =>
          have other : group ≠ asked := fun same => noStart same.symm
          simp [undergo, apply, Engine.start, run_launch, Happening.ticks, Op.ticks, other]
      | stop asked =>
          by_cases same : group = asked
          · subst same
            simp [undergo, apply, stop, Run.stopped, Happening.ticks, Op.ticks]
          · simp [undergo, apply, stop, Happening.ticks, Op.ticks, same]
      | fade asked target durationMs =>
          rfl
      | tick =>
          simp only [Happening.ticks, Op.ticks, true_and]
          exact engine.direction_tick now group
      | advance =>
          have turned := (engine.polled now).direction_tick now group
          rw [← commandsTo_advance] at turned
          simp only [Happening.ticks, Op.ticks, true_and]
          exact turned

/-- Between two starts the turns of a run are the ticks that command its group. -/
theorem direction_live {turns : Nat} {course : List (Happening δ)}
    (noStart : ∀ happening ∈ course, ¬ happening.Starts group)
    (before : (engine.run group).direction = .afterTurns turns) :
    ((engine.live course).value.run group).direction =
      .afterTurns (turns + engine.turnCount group course) := by
  induction course generalizing engine turns with
  | nil =>
      exact before
  | cons happening rest inductionHypothesis =>
      have headNoStart := noStart happening List.mem_cons_self
      have restNoStart : ∀ happening ∈ rest, ¬ happening.Starts group :=
        fun later member => noStart later (List.mem_cons_of_mem happening member)
      have next := engine.direction_undergo group headNoStart
      rw [live, List.foldlM_cons, Traced.bind_value, turnCount]
      by_cases turned :
          happening.ticks ∧ Event.commandsTo group (engine.undergo happening).events ≠ []
      · rw [if_pos turned, before, ← Direction.afterTurns_succ] at next
        have whole := inductionHypothesis _ restNoStart next
        rw [if_pos turned, ← Nat.add_assoc, Nat.add_right_comm]
        exact whole
      · rw [if_neg turned, before] at next
        rw [if_neg turned]
        exact inductionHypothesis _ restNoStart next

/-- Whatever a tick sends to a group is a sweep from the goal of its run back to the origin. -/
theorem commandsTo_tick_eq_nil_or :
    let run := engine.run group
    let commands := Event.commandsTo group (engine.tick now).events
    commands = [] ∨
      commands = Fixture.sweepCommands group run.goal run.origin run.transition.durationMs := by
  intro run commands
  by_cases due : engine.turns group = true
  · right
    exact (engine.commandsTo_tick now group).trans (if_pos due)
  · left
    exact (engine.commandsTo_tick now group).trans (if_neg due)

theorem commandsTo_apply_of_ticks {op : Op} (ticks : op.ticks = true) :
    let run := engine.run group
    let commands := Event.commandsTo group (engine.apply now op).events
    commands = [] ∨
      commands = Fixture.sweepCommands group run.goal run.origin run.transition.durationMs := by
  intro run commands
  cases op with
  | program _ _ | start _ | stop _ | fade _ _ _ =>
      cases ticks
  | tick =>
      exact engine.commandsTo_tick_eq_nil_or now group
  | advance =>
      have sent := (engine.polled now).commandsTo_tick_eq_nil_or now group
      rwa [← commandsTo_advance] at sent

/-- Over any drivers, in any state of them, a tick commands a group exactly if the group runs a loop and
shows the end that the loop heads for. It then sweeps the group from that end to the other one and turns
the run round, and else it leaves the run as it is; what the other group does at the same time makes no
difference. So the sweeps that ticks send a group on after a start, until the next one, go backwards and
forwards in turn, although transitions are stored, groups are faded and drivers drift in the meantime. -/
theorem ticks_turn_loops_in_turn :
    let run := engine.run group
    let ticked := engine.tick now
    let commands := Event.commandsTo group ticked.events
    let near := match run.direction with
      | .forward => run.transition.stop
      | .backward => run.transition.start
    let far := match run.direction with
      | .forward => run.transition.start
      | .backward => run.transition.stop
    let due := run.running = true ∧ run.transition.looping = true ∧
      ∀ channel, channel.group = group → engine.fixture.value channel = near.component channel
    (commands ≠ [] ↔ due) ∧
    (due →
      commands = Fixture.sweepCommands group near far run.transition.durationMs ∧
      ticked.value.run group = { run with direction := run.direction.flip }) ∧
    (¬ due → ticked.value.run group = run) ∧
    (∀ other : Engine δ, other.AgreeOn group engine →
      Event.commandsTo group (other.tick now).events = commands ∧
      (other.tick now).value.AgreeOn group ticked.value) ∧
    ∀ (course : List (Happening δ)) (later : Nat) (op : Op),
      (∀ happening ∈ course, ¬ happening.Starts group) → op.ticks = true →
        let launched := (engine.start now group).value
        let reached := (launched.live course).value
        let direction := Direction.afterTurns (launched.turnCount group course + 1)
        let stored := (reached.run group).transition
        let sent := Event.commandsTo group (reached.apply later op).events
        sent = [] ∨
          sent = Fixture.sweepCommands group (stored.origin direction) (stored.goal direction)
            stored.durationMs := by
  intro run ticked commands near far due
  have nearEq : near = run.goal := by
    simp only [near, Run.goal, Transition.goal, Transition.origin]
    cases run.direction <;> rfl
  have farEq : far = run.origin := rfl
  have due_iff : engine.turns group = true ↔ due := by
    simp only [due, nearEq]
    exact engine.turns_iff group
  refine ⟨?_, ?_, ?_, ?_, ?_⟩
  · rw [← due_iff]
    exact engine.commandsTo_tick_ne_nil_iff now group
  · intro holds
    have turns := due_iff.2 holds
    rw [nearEq, farEq]
    exact ⟨(engine.commandsTo_tick now group).trans (if_pos turns),
      (engine.run_tick now group).trans (if_pos turns)⟩
  · intro fails
    exact (engine.run_tick now group).trans (if_neg (mt due_iff.1 fails))
  · intro other agree
    exact ⟨agree.commandsTo_tick now, agree.tick now⟩
  · intro course later op noStart ticks launched reached direction stored sent
    have started : (launched.run group).direction = .afterTurns 0 := by
      simp only [launched, Engine.start, run_launch, if_pos]
      rfl
    have reachedDirection := launched.direction_live group noStart started
    rw [Nat.zero_add] at reachedDirection
    have directionEq : direction = (reached.run group).direction.flip := by
      rw [reachedDirection]
      exact Direction.afterTurns_succ _
    rw [directionEq, Transition.goal, Direction.flip_flip]
    exact reached.commandsTo_apply_of_ticks later group ticks

/-- White is pushed to 9, where its loop turns round, and gets new ends before it is pushed to 3. The
second turn is a forward one and goes between the new ends. -/
theorem pushed_loop_alternates :
    let driver := ScriptedDriver.ofScript .hold
    let pushed (value : UInt8) : Fixture ScriptedDriver :=
      ⟨driver, driver, driver, { driver with value }⟩
    let loop (start stop : UInt8) : Transition :=
      { start := .ofWhite start, stop := .ofWhite stop, durationMs := 50, looping := true }
    let engine := (ofFixture (pushed 0)).program .white (loop 1 9)
    let course : List (Happening ScriptedDriver) :=
      [.drift (pushed 9), .operation 1 .tick, .operation 2 .tick,
        .operation 3 (.program .white (loop 3 7)), .drift (pushed 3)]
    let launched := (engine.start 0 .white).value
    (∀ happening ∈ course, ¬ happening.Starts .white) ∧
      launched.turnCount .white course = 1 ∧
      Event.commandsTo .white ((launched.live course).value.apply 4 .advance).events =
        Fixture.sweepCommands .white (.ofWhite 3) (.ofWhite 7) 50 := by
  intro driver pushed loop engine course launched
  have noStart : ∀ happening ∈ course, ¬ happening.Starts .white := by
    intro happening member
    simp only [course, List.mem_cons, List.not_mem_nil, or_false] at member
    rcases member with rfl | rfl | rfl | rfl | rfl <;> exact id
  have turned : launched.turnCount .white course = 1 := by decide
  have stored : ((launched.live course).value.run .white).transition = loop 3 7 := by decide
  have sends : Event.commandsTo .white ((launched.live course).value.apply 4 .advance).events ≠ [] := by
    decide
  have law := (engine.ticks_turn_loops_in_turn 0 .white).2.2.2.2 course 4 .advance noStart rfl
  have sweeps := law.resolve_left sends
  rw [turned, stored] at sweeps
  exact ⟨noStart, turned, sweeps⟩

end Engine

end MeshLight
