import MeshLight.Proofs.Engine.Groups
import MeshLight.Proofs.Fader.Course
import MeshLight.Proofs.Replay

/-!
When a loop over software faders turns round. The faders of a group that was swept show the goal of the
sweep from the first poll on that is made when the duration has passed, all of them at once and none of
them before, so that the loop turns round in that very poll. A sweep that takes no time, or does not
move anything, is over as soon as it has begun.
-/

namespace MeshLight

/-- The transition takes more than one step, and there is a channel in the group that it moves. -/
def Transition.Travels (transition : Transition) (group : Group) : Prop :=
  Ramp.minStepMs < transition.durationMs.toNat ∧
    ∃ channel, channel.group = group ∧
      transition.start.component channel ≠ transition.stop.component channel

theorem Transition.travels_iff (transition : Transition) (direction : Direction) (group : Group) :
    transition.Travels group ↔
      Ramp.minStepMs < transition.durationMs.toNat ∧
        ∃ channel, channel.group = group ∧
          (transition.origin direction).component channel ≠
            (transition.goal direction).component channel := by
  cases direction with
  | forward =>
      exact Iff.rfl
  | backward =>
      simp only [Travels, ne_comm (a := (transition.origin .backward).component _)]
      exact Iff.rfl

namespace Engine

/-- The run of a group is a loop over a transition whose present sweep began at a certain time, and
which nobody has touched since. -/
structure Sweeps (engine : Engine Fader) (group : Group) (transition : Transition) (since : Nat) :
    Prop where
  running : (engine.run group).running = true
  transition_eq : (engine.run group).transition = transition
  course : ∀ channel, channel.group = group →
    (engine.fixture.driver channel).OnCourse ((engine.run group).origin.component channel)
      ((engine.run group).goal.component channel) transition.durationMs since
  fading : ∀ channel, channel.group = group →
    ((engine.fixture.driver channel).isFading = true ↔
      (engine.run group).origin.component channel ≠ (engine.run group).goal.component channel ∧
        Ramp.minStepMs < transition.durationMs.toNat)

theorem sweeps_launch (engine : Engine Fader) (now : Nat) (group : Group) (run : Run)
    (running : run.running = true) :
    (engine.launch now group run).value.Sweeps group run.transition now := by
  have runEq := engine.run_launch now group run group
  rw [if_pos rfl] at runEq
  refine ⟨by rw [runEq, running], by rw [runEq], ?_, ?_⟩
  · intro channel inside
    rw [runEq, driver_launch, if_pos inside]
    exact Fader.onCourse_set_fade _ now _ _ _
  · intro channel inside
    rw [runEq, driver_launch, if_pos inside]
    exact Fader.isFading_set_fade _ now _ _ _

namespace Sweeps

variable {engine : Engine Fader} {group : Group} {transition : Transition} {since : Nat}

theorem congr (sweeps : engine.Sweeps group transition since) {after : Engine Fader}
    (sameRun : after.run group = engine.run group)
    (sameDrivers : ∀ channel, channel.group = group →
      after.fixture.driver channel = engine.fixture.driver channel) :
    after.Sweeps group transition since := by
  refine ⟨by rw [sameRun, sweeps.running], by rw [sameRun, sweeps.transition_eq], ?_, ?_⟩
  · intro channel inside
    rw [sameDrivers channel inside, sameRun]
    exact sweeps.course channel inside
  · intro channel inside
    rw [sameDrivers channel inside, sameRun]
    exact sweeps.fading channel inside

/-- After a poll the group shows the goal exactly if the sweep is over. -/
theorem shows_polled_iff (sweeps : engine.Sweeps group transition since) (now : Nat) :
    (engine.polled now).fixture.shows group (engine.run group).goal = true ↔
      (transition.Travels group → transition.durationMs.toNat ≤ now - since) := by
  have stillFading (channel : Channel) (inside : channel.group = group) :
      (engine.polled now).fixture.value channel ≠ (engine.run group).goal.component channel ↔
        ((engine.run group).origin.component channel ≠
              (engine.run group).goal.component channel ∧
            Ramp.minStepMs < transition.durationMs.toNat) ∧
          now - since < transition.durationMs.toNat := by
    have course := sweeps.course channel inside
    rw [Fixture.value, driver_polled, ← sweeps.fading channel inside]
    exact (course.advance now).isFading_iff.symm.trans (course.isFading_advance now)
  rw [Fixture.shows_iff, Transition.travels_iff transition (engine.run group).direction]
  constructor
  · intro shown travels
    obtain ⟨long, channel, inside, apart⟩ := travels
    apply Nat.le_of_not_lt
    intro early
    have moving : (engine.run group).origin.component channel ≠
        (engine.run group).goal.component channel := by
      rw [Run.origin, Run.goal, sweeps.transition_eq]
      exact apart
    exact (stillFading channel inside).2 ⟨⟨moving, long⟩, early⟩ (shown channel inside)
  · intro ended channel inside
    apply Decidable.byContradiction
    intro short
    obtain ⟨⟨moving, long⟩, early⟩ := (stillFading channel inside).1 short
    rw [Run.origin, Run.goal, sweeps.transition_eq] at moving
    exact Nat.not_lt_of_le (ended ⟨long, channel, inside, moving⟩) early

/-- After a poll the loop turns round exactly if the sweep is over. -/
theorem turns_polled_iff (sweeps : engine.Sweeps group transition since)
    (looping : transition.looping = true) (now : Nat) :
    (engine.polled now).turns group = true ↔
      (transition.Travels group → transition.durationMs.toNat ≤ now - since) := by
  rw [← sweeps.shows_polled_iff now]
  simp [turns, sweeps.running, sweeps.transition_eq, looping]

theorem polled (sweeps : engine.Sweeps group transition since) {now : Nat}
    (early : ¬ (transition.Travels group → transition.durationMs.toNat ≤ now - since)) :
    (engine.polled now).Sweeps group transition since := by
  have remaining : now - since < transition.durationMs.toNat := by
    apply Nat.lt_of_not_le
    intro ended
    exact early fun _ => ended
  refine ⟨sweeps.running, sweeps.transition_eq, ?_, ?_⟩
  · intro channel inside
    rw [driver_polled]
    exact (sweeps.course channel inside).advance now
  · intro channel inside
    rw [driver_polled, run_polled, ← sweeps.fading channel inside]
    exact ((sweeps.course channel inside).isFading_advance now).trans (and_iff_left remaining)

/-- A poll after the end of a sweep begins the next one, in the other direction. -/
theorem advance_of_over (sweeps : engine.Sweeps group transition since)
    (looping : transition.looping = true) {now : Nat}
    (ended : transition.Travels group → transition.durationMs.toNat ≤ now - since) :
    (engine.advance now).value.run group = (engine.run group).reversed ∧
      (engine.advance now).value.Sweeps group transition now ∧
      Event.commandsTo group (engine.advance now).events =
        Fixture.sweepCommands group (engine.run group).goal (engine.run group).origin
          transition.durationMs := by
  have due := (sweeps.turns_polled_iff looping now).2 ended
  have runEq : (engine.advance now).value.run group = (engine.run group).reversed := by
    rw [advance_value, run_tick, if_pos due, run_polled]
  have launched := (engine.polled now).sweeps_launch now group (engine.run group).reversed
    sweeps.running
  rw [Run.transition_reversed, sweeps.transition_eq] at launched
  refine ⟨runEq, launched.congr ?_ ?_, ?_⟩
  · rw [runEq, run_launch, if_pos rfl]
  · intro channel inside
    rw [advance_value, driver_tick _ now group channel inside, if_pos due, driver_launch,
      if_pos inside, run_polled, Run.origin_reversed, Run.goal_reversed, Run.transition_reversed]
  · rw [commandsTo_advance, commandsTo_tick, if_pos due, run_polled, sweeps.transition_eq]

/-- A poll before the end of a sweep sends no command and lets the sweep go on. -/
theorem advance_of_early (sweeps : engine.Sweeps group transition since)
    (looping : transition.looping = true) {now : Nat}
    (early : ¬ (transition.Travels group → transition.durationMs.toNat ≤ now - since)) :
    (engine.advance now).value.run group = engine.run group ∧
      (engine.advance now).value.Sweeps group transition since ∧
      Event.commandsTo group (engine.advance now).events = [] := by
  have notDue : ¬ (engine.polled now).turns group = true := by
    rw [sweeps.turns_polled_iff looping now]
    exact early
  have runEq : (engine.advance now).value.run group = engine.run group := by
    rw [advance_value, run_tick, if_neg notDue, run_polled]
  refine ⟨runEq, (sweeps.polled early).congr runEq ?_, ?_⟩
  · intro channel inside
    rw [advance_value, driver_tick _ now group channel inside, if_neg notDue]
  · rw [commandsTo_advance, commandsTo_tick, if_neg notDue]

end Sweeps

/-! ## Whole histories -/

section History

variable {δ : Type} [ChannelDriver δ]

/-- When the run of a group last changed its direction in a history, or else the given time. -/
def lastTurn (engine : Engine δ) (history : List (Nat × Op)) (group : Group) (startedAt : Nat) :
    Nat :=
  (Traced.latest (Traced.timed apply)
    (fun reached timed =>
      if ((reached.apply timed.1 timed.2).value.run group).direction =
          (reached.run group).direction then none
      else some timed.1)
    engine history).getD startedAt

end History

/-- An operation finds the present sweep over: it is a poll, and the duration of the sweep, if it takes
time at all, has passed. -/
def FindsOver (transition : Transition) (group : Group) (since now : Nat) (op : Op) : Prop :=
  op = .advance ∧ (transition.Travels group → transition.durationMs.toNat ≤ now - since)

namespace Sweeps

variable {engine : Engine Fader} {group : Group} {transition : Transition} {since : Nat}

theorem apply_of_not_findsOver (sweeps : engine.Sweeps group transition since)
    (looping : transition.looping = true) {now : Nat} {op : Op} (spares : op.Spares group)
    (lasts : ¬ FindsOver transition group since now op) :
    (engine.apply now op).value.run group = engine.run group ∧
      (engine.apply now op).value.Sweeps group transition since ∧
      Event.commandsTo group (engine.apply now op).events = [] := by
  rcases spares with rfl | ⟨other, onOther, different⟩
  · exact sweeps.advance_of_early looping fun ended => lasts ⟨rfl, ended⟩
  · have runEq := engine.run_apply_of_ne now onOther different
    refine ⟨runEq, sweeps.congr runEq ?_, ?_⟩
    · exact engine.driver_apply_of_ne now onOther different
    · exact engine.commandsTo_apply_of_ne now onOther different

theorem replay {engine : Engine Fader} {startedAt : Nat}
    (sweeps : engine.Sweeps group transition startedAt) (looping : transition.looping = true)
    (history : List (Nat × Op)) (spared : ∀ timed ∈ history, timed.2.Spares group) :
    (engine.replay history).value.Sweeps group transition
      (engine.lastTurn history group startedAt) := by
  rw [Engine.replay, Traced.replay, lastTurn]
  apply Traced.latest_induction (Traced.timed apply)
    (motive := fun reached turned => reached.Sweeps group transition (turned.getD startedAt)) sweeps
  intro reached turned timed member reachedSweeps
  by_cases ended : FindsOver transition group (turned.getD startedAt) timed.1 timed.2
  · obtain ⟨polls, passed⟩ := ended
    obtain ⟨runEq, nextSweeps, _⟩ := reachedSweeps.advance_of_over looping passed
    have turns : ((reached.apply timed.1 timed.2).value.run group).direction ≠
        (reached.run group).direction := by
      rw [polls, apply, runEq, Run.reversed]
      exact Direction.flip_ne _
    rw [if_neg turns, Traced.timed, polls]
    exact nextSweeps
  · obtain ⟨runEq, nextSweeps, _⟩ :=
      reachedSweeps.apply_of_not_findsOver looping (spared timed member) ended
    rw [if_pos (by rw [runEq])]
    exact nextSweeps

end Sweeps

/-- Jumping to a level that is shown already changes nothing that can be seen. -/
theorem level_jump_of_shows {fixture : Fixture Fader} {group : Group} {level : Level}
    (shown : fixture.shows group level = true) (now : Nat) :
    (fixture.jump now group level).value.level = fixture.level := by
  rw [Fixture.shows_iff] at shown
  apply Level.ext_component
  intro channel
  rw [Fixture.level, Fixture.level, Level.component_ofFn, Level.component_ofFn, Fixture.value,
    Fixture.driver_jump]
  by_cases inside : channel.group = group
  · rw [if_pos inside, shown channel inside]
    exact Fader.value_set _ _
  · rw [if_neg inside]
    rfl

/-- A loop over software faders that is started, and then only polled while other groups are operated,
turns round in exactly the first poll after its last turn, or else its start, that is made when the
duration has passed; if nothing has to travel, it turns round in every poll. In a poll that turns it
round every channel of the group shows the end of the sweep already, so that the jump to that end
changes nothing, and the group is told to fade back. Nothing else tells the group anything. -/
theorem turns_round_on_time (engine : Engine Fader) (group : Group) (startedAt : Nat)
    (history : List (Nat × Op)) (now : Nat) (op : Op)
    (looping : (engine.run group).transition.looping = true)
    (spared : ∀ timed ∈ history, timed.2.Spares group) (spares : op.Spares group) :
    let transition := (engine.run group).transition
    let launched := (engine.start startedAt group).value
    let reached := (launched.replay history).value
    let run := reached.run group
    let polled := (reached.polled now).fixture
    let ended := FindsOver transition group (launched.lastTurn history group startedAt) now op
    run.running = true ∧ run.transition = transition ∧
      (ended →
        polled.shows group run.goal = true ∧
        (polled.jump now group run.goal).value.level = polled.level ∧
        (reached.apply now op).value.run group = run.reversed ∧
        Event.commandsTo group (reached.apply now op).events =
          Fixture.sweepCommands group run.goal run.origin transition.durationMs) ∧
      (¬ ended →
        (reached.apply now op).value.run group = run ∧
        Event.commandsTo group (reached.apply now op).events = []) := by
  intro transition launched reached run polled ended
  have launchedSweeps : launched.Sweeps group transition startedAt :=
    sweeps_launch engine startedAt group (engine.run group).started rfl
  have sweeps := launchedSweeps.replay looping history spared
  refine ⟨sweeps.running, sweeps.transition_eq, ?_, ?_⟩
  · rintro ⟨rfl, passed⟩
    have shown := (sweeps.shows_polled_iff now).2 passed
    obtain ⟨runEq, _, commands⟩ := sweeps.advance_of_over looping passed
    exact ⟨shown, level_jump_of_shows shown now, runEq, commands⟩
  · intro lasts
    obtain ⟨runEq, _, commands⟩ := sweeps.apply_of_not_findsOver looping spares lasts
    exact ⟨runEq, commands⟩

/-- A white loop of a hundred milliseconds, polled while the clock jumps about and the colour group is
started, turns round at the hundredth millisecond. -/
theorem white_loop_turns_at_hundred :
    let fader := (Fader.start { maxDuty := 255, faults := .always false }).value
    let transition : Transition :=
      { start := .ofWhite 16, stop := .ofWhite 240, durationMs := 100, looping := true }
    let engine := (ofFixture ⟨fader, fader, fader, fader⟩).program .white transition
    let launched := (engine.start 0 .white).value
    let history : List (Nat × Op) :=
      [(60, .advance), (10, .advance), (70, .start .color), (99, .advance)]
    let reached := (launched.replay history).value
    (engine.run .white).transition.looping = true ∧
      (∀ timed ∈ history, timed.2.Spares .white) ∧
      launched.lastTurn history .white 0 = 0 ∧
      (reached.run .white).direction = .forward ∧
      ((reached.apply 100 .advance).value.run .white) = (reached.run .white).reversed := by
  intro fader transition engine launched history reached
  have spared : ∀ timed ∈ history, timed.2.Spares .white := by decide
  have turned : launched.lastTurn history .white 0 = 0 := by decide
  have law := turns_round_on_time engine .white 0 history 100 .advance rfl spared (Or.inl rfl)
  have ended : FindsOver transition .white (launched.lastTurn history .white 0) 100 .advance :=
    ⟨rfl, fun _ => by rw [turned]; decide⟩
  refine ⟨rfl, spared, turned, by decide, ?_⟩
  exact (law.2.2.1 ended).2.2.1

end Engine

end MeshLight
