import MeshLight.Engine
import MeshLight.Fader
import MeshLight.Proofs.Event.Attempts
import MeshLight.Proofs.Fader.Course
import Mathlib.Tactic.SplitIfs

/-!
Faders whose outputs differ in their luck. Whether an output takes a duty is noticed by nobody: twins
stay twins whatever they are told, and offer the same duties to their outputs, and so do the fixtures and
engines that are made of them.
-/

namespace MeshLight

namespace Fader

/-- Two faders differ in nothing but which duties their outputs take. -/
structure Twins (first second : Fader) : Prop where
  value_eq : first.value = second.value
  ramp_eq : first.ramp = second.ramp
  maxDuty_eq : first.pwm.maxDuty = second.pwm.maxDuty

/-- Whatever comes of it, what writing attempts is to give the output one duty. -/
theorem attempts_write (fader : Fader) (value : UInt8) :
    (fader.write value).events.filterMap OutputEvent.attempt? =
      [.duty (fader.pwm.duty value) true] := by
  rcases offered : fader.pwm.offer with ⟨accepted, pwm⟩
  cases accepted <;> simp [write, offered, OutputEvent.attempt?]

/-- A write asks for nothing of what the fader showed before. -/
theorem matches_write {first second : Fader} (ramp_eq : first.ramp = second.ramp)
    (maxDuty_eq : first.pwm.maxDuty = second.pwm.maxDuty) (value : UInt8) :
    Traced.Matches OutputEvent.attempt? Twins (first.write value) (second.write value) where
  value := by
    rw [write_value, write_value]
    exact ⟨rfl, ramp_eq, maxDuty_eq⟩
  events := by
    rw [attempts_write, attempts_write, Pwm.duty, Pwm.duty, maxDuty_eq]

namespace Twins

variable {first second : Fader} (twins : first.Twins second)
include twins

theorem withRamp (ramp : Option Ramp) : { first with ramp }.Twins { second with ramp } :=
  ⟨twins.value_eq, rfl, twins.maxDuty_eq⟩

theorem write (value : UInt8) :
    Traced.Matches OutputEvent.attempt? Twins (first.write value) (second.write value) :=
  matches_write twins.ramp_eq twins.maxDuty_eq value

theorem fade (now : Nat) (target : UInt8) (durationMs : UInt32) :
    Traced.Matches OutputEvent.attempt? Twins (first.fade now target durationMs)
      (second.fade now target durationMs) := by
  rcases second with ⟨value, ramp, pwm⟩
  obtain rfl : first.value = value := twins.value_eq
  simp only [Fader.fade]
  split_ifs with there quick
  · exact Traced.matches_pure (twins.withRamp none)
  · exact (twins.withRamp none).write target
  · exact Traced.matches_pure (twins.withRamp _)

theorem obey (now : Nat) (command : ChannelCommand) :
    Traced.Matches OutputEvent.attempt? Twins (first.obey now command)
      (second.obey now command) := by
  cases command with
  | set value =>
      exact (twins.withRamp none).write value
  | fade target durationMs =>
      exact twins.fade now target durationMs

theorem advance (now : Nat) :
    Traced.Matches OutputEvent.attempt? Twins (first.advance now) (second.advance now) := by
  rw [Fader.advance, Fader.advance, twins.ramp_eq]
  cases second.ramp with
  | none =>
      exact Traced.matches_pure twins
  | some ramp =>
      simp only
      split_ifs with arrived due
      · exact (twins.withRamp none).write ramp.target
      · exact (twins.withRamp _).write (ramp.valueAt now)
      · exact Traced.matches_pure twins

end Twins

end Fader

namespace Fixture

/-- The drivers of each channel are twins. -/
def Twins (first second : Fixture Fader) : Prop :=
  ∀ channel, (first.driver channel).Twins (second.driver channel)

namespace Twins

variable {first second : Fixture Fader} (twins : first.Twins second)
include twins

theorem value_eq (channel : Channel) : first.value channel = second.value channel :=
  (twins channel).value_eq

theorem isLit_eq : first.isLit = second.isLit := by
  simp only [isLit, twins.value_eq]

theorem shows_eq (group : Group) (level : Level) :
    first.shows group level = second.shows group level := by
  simp only [shows, twins.value_eq]

theorem change {action : Fader → Traced OutputEvent Fader}
    (keeps : ∀ first second : Fader, first.Twins second →
      Traced.Matches OutputEvent.attempt? Fader.Twins (action first) (action second))
    (channel : Channel) :
    Traced.Matches Event.attempt? Twins (first.change channel action)
      (second.change channel action) := by
  refine ((keeps _ _ (twins channel)).ofOutput channel).bind fun changed => ?_
  apply Traced.matches_pure
  intro asked
  rw [driver_withDriver, driver_withDriver]
  split_ifs with same
  · exact changed
  · exact twins asked

theorem command (now : Nat) (channel : Channel) (command : ChannelCommand) :
    Traced.Matches Event.attempt? Twins (first.command now channel command)
      (second.command now channel command) :=
  Traced.matches_same_bind _
    (twins.change (fun _ _ drivers => drivers.obey now command) channel)

theorem jump (now : Nat) (group : Group) (level : Level) :
    Traced.Matches Event.attempt? Twins (first.jump now group level)
      (second.jump now group level) :=
  Traced.matches_foldlM
    (fun _ _ channel _ fixtures => fixtures.command now channel (.set (level.component channel)))
    twins

theorem fade (now : Nat) (group : Group) (target : Level) (durationMs : UInt32) :
    Traced.Matches Event.attempt? Twins (first.fade now group target durationMs)
      (second.fade now group target durationMs) :=
  Traced.matches_foldlM
    (fun _ _ channel _ fixtures =>
      fixtures.command now channel (.fade (target.component channel) durationMs))
    twins

theorem sweep (now : Nat) (group : Group) (start stop : Level) (durationMs : UInt32) :
    Traced.Matches Event.attempt? Twins (first.sweep now group start stop durationMs)
      (second.sweep now group start stop durationMs) :=
  (twins.jump now group start).bind fun jumped => jumped.fade now group stop durationMs

theorem advance (now : Nat) :
    Traced.Matches Event.attempt? Twins (first.advance now) (second.advance now) :=
  Traced.matches_foldlM
    (fun _ _ channel _ fixtures => fixtures.change (fun _ _ drivers => drivers.advance now) channel)
    twins

end Twins

end Fixture

namespace Engine

/-- The runs of two engines are the same, and their drivers are twins. -/
structure Twins (first second : Engine Fader) : Prop where
  runs_eq : first.runs = second.runs
  fixture : first.fixture.Twins second.fixture

namespace Twins

variable {first second : Engine Fader} (twins : first.Twins second)
include twins

theorem run_eq (group : Group) : first.run group = second.run group :=
  congrArg (PerGroup.get · group) twins.runs_eq

theorem turns_eq (group : Group) : first.turns group = second.turns group := by
  rw [turns, turns, twins.run_eq, twins.fixture.shows_eq]

theorem withRun (group : Group) (run : Run) :
    (first.withRun group run).Twins (second.withRun group run) :=
  ⟨congrArg (PerGroup.set · group run) twins.runs_eq, twins.fixture⟩

theorem withFixture {firstFixture secondFixture : Fixture Fader}
    (fixtures : firstFixture.Twins secondFixture) :
    { first with fixture := firstFixture }.Twins { second with fixture := secondFixture } :=
  ⟨twins.runs_eq, fixtures⟩

theorem program (group : Group) (transition : Transition) :
    (first.program group transition).Twins (second.program group transition) := by
  rw [Engine.program, Engine.program, twins.run_eq]
  exact twins.withRun group _

theorem stop (group : Group) : (first.stop group).Twins (second.stop group) := by
  rw [Engine.stop, Engine.stop, twins.run_eq]
  exact twins.withRun group _

theorem launch (now : Nat) (group : Group) (run : Run) :
    Traced.Matches Event.attempt? Twins (first.launch now group run)
      (second.launch now group run) := by
  refine Traced.matches_same_bind _ ?_
  refine (twins.fixture.sweep now group run.origin run.goal _).bind fun swept => ?_
  exact Traced.matches_pure ((twins.withFixture swept).withRun group run)

theorem start (now : Nat) (group : Group) :
    Traced.Matches Event.attempt? Twins (first.start now group) (second.start now group) := by
  rw [Engine.start, Engine.start, twins.run_eq]
  exact twins.launch now group _

theorem bounce (now : Nat) (group : Group) :
    Traced.Matches Event.attempt? Twins (first.bounce now group) (second.bounce now group) := by
  rw [Engine.bounce, Engine.bounce, twins.turns_eq, twins.run_eq]
  split_ifs with turns
  · exact twins.launch now group _
  · exact Traced.matches_pure twins

theorem tick (now : Nat) :
    Traced.Matches Event.attempt? Twins (first.tick now) (second.tick now) :=
  Traced.matches_foldlM (fun _ _ group _ engines => engines.bounce now group) twins

theorem advance (now : Nat) :
    Traced.Matches Event.attempt? Twins (first.advance now) (second.advance now) :=
  (twins.fixture.advance now).bind fun advanced => (twins.withFixture advanced).tick now

theorem fade (now : Nat) (group : Group) (target : Level) (durationMs : UInt32) :
    Traced.Matches Event.attempt? Twins (first.fade now group target durationMs)
      (second.fade now group target durationMs) := by
  refine Traced.matches_same_bind _ ?_
  refine (twins.fixture.fade now group target durationMs).bind fun faded => ?_
  exact Traced.matches_pure (twins.withFixture faded)

end Twins

end Engine

end MeshLight
