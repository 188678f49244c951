import MeshLight.Proofs.Fader.Course
import MeshLight.Proofs.Lamp.Engine
import MeshLight.Proofs.Replay

/-!
The lamp and its faders never lose touch: after any history, with any failures of memory, radio and
outputs, a group that runs is on its way to the goal of its run, and a group that does not run is on
its way to the level that was last asked of it.
-/

namespace MeshLight

/-- Whichever way a transition runs, its ends are its start and its stop level. -/
theorem Transition.between_ends (transition : Transition) {direction : Direction}
    {channel : Channel} {value : UInt8}
    (between : Between ((transition.origin direction).component channel)
      ((transition.goal direction).component channel) value) :
    Between (transition.start.component channel) (transition.stop.component channel) value := by
  cases direction with
  | forward =>
      exact between
  | backward =>
      exact between.symm

namespace Engine

/-- The faders of a group are where the run of the group, or the level last asked for, has them. -/
structure Tracks (engine : Engine Fader) (group : Group) (asked : Level) : Prop where
  idle : (engine.run group).running = false →
    ∀ channel, channel.group = group →
      ∃ origin durationMs sentAt,
        (engine.fixture.driver channel).OnCourse origin (asked.component channel) durationMs sentAt
  running : (engine.run group).running = true →
    ∀ channel, channel.group = group →
      ∃ sentAt,
        (engine.fixture.driver channel).OnCourse ((engine.run group).origin.component channel)
          ((engine.run group).goal.component channel) (engine.run group).transition.durationMs
          sentAt
  forward : (engine.run group).transition.looping = false →
    (engine.run group).direction = .forward

namespace Tracks

variable {engine : Engine Fader} {group : Group} {asked : Level}

theorem goal_eq (tracks : engine.Tracks group asked) :
    (engine.run group).goal =
      if (engine.run group).transition.looping = true ∧ (engine.run group).direction = .backward then
        (engine.run group).transition.start
      else (engine.run group).transition.stop := by
  cases direction : (engine.run group).direction with
  | forward =>
      simp [Run.goal, Transition.goal, Transition.origin, Direction.flip, direction]
  | backward =>
      have looping : (engine.run group).transition.looping = true := by
        apply Decidable.byContradiction
        intro oneShot
        have ahead := tracks.forward (Bool.eq_false_iff.2 oneShot)
        rw [direction] at ahead
        exact absurd ahead (by decide)
      simp [Run.goal, Transition.goal, Transition.origin, Direction.flip, direction, looping]

/-- Only the group's own run and faders matter. -/
theorem congr (tracks : engine.Tracks group asked) {after : Engine Fader}
    (sameRun : after.run group = engine.run group)
    (sameDrivers : ∀ channel, channel.group = group →
      after.fixture.driver channel = engine.fixture.driver channel) :
    after.Tracks group asked := by
  refine ⟨?_, ?_, ?_⟩
  · intro stopped channel inside
    rw [sameDrivers channel inside]
    exact tracks.idle (sameRun ▸ stopped) channel inside
  · intro going channel inside
    rw [sameDrivers channel inside, sameRun]
    exact tracks.running (sameRun ▸ going) channel inside
  · rw [sameRun]
    exact tracks.forward

theorem settled (tracks : engine.Tracks group asked) (now : Nat) (target : Group) (level : Level)
    (durationMs : UInt32) :
    (engine.settled now target level durationMs).Tracks group
      (if group = target then level else asked) := by
  by_cases same : group = target
  · subst same
    have runEq := engine.run_settled now group level durationMs group
    rw [if_pos rfl] at runEq ⊢
    refine ⟨?_, ?_, ?_⟩
    · intro _ channel inside
      rw [driver_settled, if_pos inside]
      exact ⟨_, _, _, Fader.onCourse_fade _ now _ _⟩
    · intro going
      rw [runEq] at going
      exact absurd going Bool.false_ne_true
    · rw [runEq]
      exact tracks.forward
  · rw [if_neg same]
    apply tracks.congr
    · rw [run_settled, if_neg same]
    · intro channel inside
      rw [driver_settled, if_neg (inside ▸ same)]

theorem played (tracks : engine.Tracks group asked) (now : Nat) (target : Group)
    (transition : Transition) (level : Level) :
    (engine.played now target transition).Tracks group
      (if group = target then level else asked) := by
  by_cases same : group = target
  · subst same
    have runEq := engine.run_launch now group
      { running := true, transition, direction := .forward } group
    rw [if_pos rfl] at runEq ⊢
    refine ⟨?_, ?_, ?_⟩
    · intro stopped
      rw [Engine.played, runEq] at stopped
      exact absurd stopped.symm Bool.false_ne_true
    · intro _ channel inside
      rw [Engine.played, runEq, driver_launch, if_pos inside]
      exact ⟨now, Fader.onCourse_set_fade _ now _ _ _⟩
    · rw [Engine.played, runEq]
      exact fun _ => rfl
  · rw [if_neg same]
    apply tracks.congr
    · rw [Engine.played, run_launch, if_neg same]
    · intro channel inside
      rw [Engine.played, driver_launch, if_neg (inside ▸ same)]

theorem polled (tracks : engine.Tracks group asked) (now : Nat) :
    (engine.polled now).Tracks group asked := by
  refine ⟨?_, ?_, tracks.forward⟩
  · intro stopped channel inside
    obtain ⟨origin, durationMs, sentAt, course⟩ := tracks.idle stopped channel inside
    rw [driver_polled]
    exact ⟨origin, durationMs, sentAt, course.advance now⟩
  · intro going channel inside
    obtain ⟨sentAt, course⟩ := tracks.running going channel inside
    rw [driver_polled]
    exact ⟨sentAt, course.advance now⟩

theorem tick (tracks : engine.Tracks group asked) (now : Nat) :
    (engine.tick now).value.Tracks group asked := by
  by_cases due : engine.turns group = true
  · have looping : (engine.run group).running = true ∧
        (engine.run group).transition.looping = true := by
      simp only [turns, Bool.and_eq_true] at due
      exact due.1
    have runEq := engine.run_tick now group
    rw [if_pos due] at runEq
    refine ⟨?_, ?_, ?_⟩
    · intro stopped
      rw [runEq] at stopped
      exact absurd (looping.1.symm.trans stopped).symm Bool.false_ne_true
    · intro _ channel inside
      rw [runEq, driver_tick engine now group channel inside, if_pos due, Run.origin_reversed,
        Run.goal_reversed]
      exact ⟨now, Fader.onCourse_set_fade _ now _ _ _⟩
    · intro oneShot
      rw [runEq] at oneShot
      exact absurd (looping.2.symm.trans oneShot).symm Bool.false_ne_true
  · apply tracks.congr
    · rw [run_tick, if_neg due]
    · intro channel inside
      rw [driver_tick engine now group channel inside, if_neg due]

theorem advance (tracks : engine.Tracks group asked) (now : Nat) :
    (engine.advance now).value.Tracks group asked :=
  (tracks.polled now).tick now

end Tracks

end Engine

namespace Lamp

section Asking

variable {δ : Type}

/-- The level at which an operation wants a group to end up, if it is an operation on that group. -/
def Op.asks (lamp : Lamp δ) (group : Group) : Op → Option Level
  | boot => some ⟨0, 0, 0, 0⟩
  | limit _ asked level => if group = asked then some level else none
  | play asked transition => if group = asked then some transition.stop else none
  | off asked => if group = asked then some ⟨0, 0, 0, 0⟩ else none
  | on asked .external => if group = asked then some lamp.store.record.external else none
  | on asked .button => if group = asked then some lamp.store.record.button else none
  | advance => none

variable [ChannelDriver δ]

/-- The level that the latest operation on a group asked for. A group of which nothing was asked yet
is dark. -/
def lastAsked (lamp : Lamp δ) (history : List (Nat × Op)) (group : Group) : Level :=
  (Traced.latest (Traced.timed apply) (fun reached timed => timed.2.asks reached group) lamp
    history).getD .off

end Asking

/-- A lamp over software faders as it is put together, with every output dark. -/
def ofPwms (config : Config) (pwm : Channel → Pwm) (eeprom : Eeprom) (radio : Radio) : Lamp Fader :=
  .assemble config (Fixture.assemble fun channel => Fader.start (pwm channel)).value eeprom radio

theorem driver_ofPwms (config : Config) (pwm : Channel → Pwm) (eeprom : Eeprom) (radio : Radio)
    (channel : Channel) :
    ((ofPwms config pwm eeprom radio).engine.fixture.driver channel) =
      (Fader.start (pwm channel)).value := by
  cases channel <;> rfl

theorem tracks_ofPwms (config : Config) (pwm : Channel → Pwm) (eeprom : Eeprom) (radio : Radio)
    (group : Group) :
    (ofPwms config pwm eeprom radio).engine.Tracks group .off := by
  have initial : (ofPwms config pwm eeprom radio).engine.run group = .initial :=
    PerGroup.get_replicate _ group
  refine ⟨?_, ?_, ?_⟩
  · intro _ channel inside
    rw [driver_ofPwms, Level.component_off]
    exact ⟨0, 0, 0, .arrived (Fader.ramp_write _ 0) (Fader.value_write _ 0)⟩
  · intro going
    rw [initial] at going
    exact absurd going Bool.false_ne_true
  · rw [initial]
    exact fun _ => rfl

/-- Whatever an operation does to memory and radio, it leaves the faders of each group where its run or
the level last asked for has them. -/
theorem tracks_apply {lamp : Lamp Fader} {group : Group} {asked : Level}
    (tracks : lamp.engine.Tracks group asked) (now : Nat) (op : Op) :
    (lamp.apply now op).value.engine.Tracks group ((op.asks lamp group).getD asked) := by
  cases op with
  | boot =>
      rw [apply, engine_boot]
      have colorOff := tracks.settled now .color .off lamp.config.fadeTimeMs
      have bothOff := colorOff.settled now .white .off lamp.config.fadeTimeMs
      cases group <;> exact bothOff
  | limit source target level =>
      rw [apply, engine_limit, Op.asks, apply_ite (Option.getD · asked)]
      exact tracks.settled now target level lamp.config.fadeTimeMs
  | play target transition =>
      rw [apply, engine_play, Op.asks, apply_ite (Option.getD · asked)]
      exact tracks.played now target transition transition.stop
  | off target =>
      rw [apply, engine_off, Op.asks, apply_ite (Option.getD · asked)]
      exact tracks.settled now target .off lamp.config.fadeTimeMs
  | on target source =>
      have settled := tracks.settled now target (lamp.store.level source) lamp.config.fadeTimeMs
      rw [apply, engine_on]
      cases source with
      | external | button =>
          rwa [Op.asks, apply_ite (Option.getD · asked)]
  | advance =>
      exact tracks.advance now

theorem tracks_replay {lamp : Lamp Fader} {group : Group} (tracks : lamp.engine.Tracks group .off)
    (history : List (Nat × Op)) :
    (lamp.replay history).value.engine.Tracks group (lamp.lastAsked history group) := by
  rw [replay, Traced.replay, lastAsked]
  apply Traced.latest_induction (Traced.timed apply)
    (motive := fun reached asked => reached.engine.Tracks group (asked.getD .off)) tracks
  intro reached asked timed _ reachedTracks
  have nextTracks := tracks_apply reachedTracks timed.1 timed.2
  rwa [← Option.getD_or] at nextTracks

/-- After any history of a lamp over software faders, whatever fails in it, the faders of a running
group head for the goal of its run and lie within its transition, and the faders of any other group
head for the level that was last asked of it. A transition without return never runs backwards. -/
theorem faders_in_step_with_runs (config : Config) (pwm : Channel → Pwm) (eeprom : Eeprom)
    (radio : Radio) (history : List (Nat × Op)) (group : Group) :
    let lamp := ofPwms config pwm eeprom radio
    let reached := (lamp.replay history).value
    let run := reached.engine.run group
    let transition := run.transition
    (run.running = true → ∀ channel, channel.group = group →
      (reached.engine.fixture.driver channel).target =
          (if transition.looping = true ∧ run.direction = .backward then transition.start
            else transition.stop).component channel ∧
        Between (transition.start.component channel) (transition.stop.component channel)
          (reached.engine.fixture.value channel)) ∧
    (run.running = false → ∀ channel, channel.group = group →
      (reached.engine.fixture.driver channel).target =
        (lamp.lastAsked history group).component channel) ∧
    (transition.looping = false → run.direction = .forward) := by
  intro lamp reached run transition
  have tracks : reached.engine.Tracks group (lamp.lastAsked history group) :=
    tracks_replay (tracks_ofPwms config pwm eeprom radio group) history
  refine ⟨?_, ?_, tracks.forward⟩
  · intro going channel inside
    obtain ⟨sentAt, course⟩ := tracks.running going channel inside
    have goalEq := tracks.goal_eq
    constructor
    · rw [← goalEq]
      exact course.target_eq
    · exact transition.between_ends course.between
  · intro stopped channel inside
    obtain ⟨origin, durationMs, sentAt, course⟩ := tracks.idle stopped channel inside
    exact course.target_eq

end Lamp

end MeshLight
