import MeshLight.Proofs.Lamp.Groups
import MeshLight.Proofs.Lamp.Tracking
import MeshLight.Proofs.Lamp.Twins

/-!
A transition that is started on a group leaves nothing of what the group did before. Every channel of
the group is set to the start level, which gives up its fade, before any of them fades on, and the run
of the group begins anew. So two lamps that differ in one group only are twins from then on.
-/

namespace MeshLight

/-- Setting a fader leaves nothing of the value that it showed and of the fade that it was in. -/
theorem Fader.matches_set {first second : Fader}
    (maxDuty_eq : first.pwm.maxDuty = second.pwm.maxDuty) (value : UInt8) :
    Traced.Matches OutputEvent.attempt? Twins (first.set value) (second.set value) := by
  rw [set, set]
  apply matches_write
  · rfl
  · exact maxDuty_eq

namespace Fixture

/-- The outputs of two fixtures have the same ranges, and the drivers of each channel are twins, but for
some channels that are still to be set. -/
structure TwinsBut (pending : List Channel) (first second : Fixture Fader) : Prop where
  maxDuty_eq : ∀ channel, (first.driver channel).pwm.maxDuty = (second.driver channel).pwm.maxDuty
  twins : ∀ channel, channel ∉ pending → (first.driver channel).Twins (second.driver channel)

namespace TwinsBut

variable {first second : Fixture Fader} {pending : List Channel}

/-- A channel that is set is pending no longer. -/
theorem set {channel : Channel} (twins : first.TwinsBut (channel :: pending) second) (now : Nat)
    (value : UInt8) :
    Traced.Matches Event.attempt? (TwinsBut pending) (first.command now channel (.set value))
      (second.command now channel (.set value)) := by
  have driverSet := Fader.matches_set (twins.maxDuty_eq channel) value
  refine Traced.matches_same_bind _ ?_
  refine (driverSet.ofOutput channel).bind fun changed => Traced.matches_pure ⟨?_, ?_⟩
  · intro asked
    rw [driver_withDriver, driver_withDriver]
    split_ifs with same
    · exact changed.maxDuty_eq
    · exact twins.maxDuty_eq asked
  · intro asked settled
    rw [driver_withDriver, driver_withDriver]
    split_ifs with same
    · exact changed
    · exact twins.twins asked (List.not_mem_cons_of_ne_of_not_mem same settled)

theorem jump {group : Group} (twins : first.TwinsBut group.channels second) (now : Nat)
    (level : Level) :
    Traced.Matches Event.attempt? Twins (first.jump now group level)
      (second.jump now group level) := by
  rw [Fixture.jump, Fixture.jump]
  -- The channels that are still to be commanded are the ones that are still pending.
  generalize group.channels = channels at twins ⊢
  induction channels generalizing first second with
  | nil =>
      exact Traced.matches_pure fun channel => twins.twins channel List.not_mem_nil
  | cons channel rest inductionHypothesis =>
      rw [List.foldlM_cons, List.foldlM_cons]
      exact (twins.set now _).bind fun next => inductionHypothesis next

theorem sweep {group : Group} (twins : first.TwinsBut group.channels second) (now : Nat)
    (start stop : Level) (durationMs : UInt32) :
    Traced.Matches Event.attempt? Twins (first.sweep now group start stop durationMs)
      (second.sweep now group start stop durationMs) :=
  (twins.jump now start).bind fun jumped => jumped.fade now group stop durationMs

end TwinsBut

end Fixture

namespace Engine

/-- Two engines over outputs of the same ranges differ in nothing but luck as far as the other group is
concerned. In the group itself they may differ in everything. -/
structure TwinsBut (group : Group) (first second : Engine Fader) : Prop where
  run_eq : ∀ other, other ≠ group → first.run other = second.run other
  fixture : first.fixture.TwinsBut group.channels second.fixture

theorem Twins.twinsBut {first second : Engine Fader} (twins : first.Twins second) (group : Group) :
    first.TwinsBut group second where
  run_eq other _ := twins.run_eq other
  fixture :=
    ⟨fun channel => (twins.fixture channel).maxDuty_eq, fun channel _ => twins.fixture channel⟩

/-- A transition that is stored and started runs forward, whatever ran before. -/
theorem started_run_program {δ : Type} (engine : Engine δ) (group : Group)
    (transition : Transition) :
    ((engine.program group transition).run group).started =
      { running := true, transition, direction := .forward } := by
  rw [program, run_withRun_self, Run.started]

namespace TwinsBut

variable {first second : Engine Fader} {group : Group} (twins : first.TwinsBut group second)
include twins

theorem program (transition : Transition) :
    (first.program group transition).TwinsBut group (second.program group transition) where
  run_eq other different := by
    rw [Engine.program, Engine.program, run_withRun_of_ne _ _ different,
      run_withRun_of_ne _ _ different, twins.run_eq other different]
  fixture := twins.fixture

theorem launch (now : Nat) (run : Run) :
    Traced.Matches Event.attempt? Twins (first.launch now group run)
      (second.launch now group run) := by
  refine Traced.matches_same_bind _ ?_
  refine (twins.fixture.sweep now run.origin run.goal _).bind fun swept => ?_
  exact Traced.matches_pure ⟨PerGroup.set_congr twins.run_eq run, swept⟩

/-- The group is not asked for anything that it did before. -/
theorem play (now : Nat) (transition : Transition) :
    Traced.Matches Event.attempt? Twins ((first.program group transition).start now group)
      ((second.program group transition).start now group) := by
  rw [Engine.start, Engine.start, started_run_program, started_run_program]
  exact (twins.program transition).launch now _

end TwinsBut

end Engine

namespace Lamp

/-- The operation reads or writes the remembered levels. -/
def Op.usesMemory : Op → Bool
  | boot | limit _ _ _ | on _ _ => true
  | play _ _ | off _ | advance => false

/-- Two lamps of one configuration have twin engines. Their memories and radios may differ in
everything. -/
structure LightTwins (first second : Lamp Fader) : Prop where
  config_eq : first.config = second.config
  engine : first.engine.Twins second.engine

theorem lightTwins_withEngine {first second : Lamp Fader} (config_eq : first.config = second.config)
    {firstEngine secondEngine : Engine Fader} (engines : firstEngine.Twins secondEngine) :
    { first with engine := firstEngine }.LightTwins { second with engine := secondEngine } :=
  ⟨config_eq, engines⟩

theorem LightTwins.report {first second : Lamp Fader} (lamps : first.LightTwins second)
    (group : Group) (on : Bool) :
    Traced.Matches Event.attempt? LightTwins (first.report group on) (second.report group on) where
  value := by
    rw [Lamp.report, Lamp.report, send_value, send_value]
    exact ⟨lamps.config_eq, lamps.engine⟩
  events := by
    rw [Lamp.report, Lamp.report, attempts_send first fun _ => rfl,
      attempts_send second fun _ => rfl, lamps.config_eq]

/-- A transition that is played on the group in which two lamps differ makes them light alike. -/
theorem matches_play {first second : Lamp Fader} {group : Group}
    (config_eq : first.config = second.config) (engines : first.engine.TwinsBut group second.engine)
    (now : Nat) (transition : Transition) :
    Traced.Matches Event.attempt? LightTwins (first.play now group transition)
      (second.play now group transition) :=
  (engines.play now transition).bind fun started =>
    (lightTwins_withEngine config_eq started).report group true

namespace LightTwins

variable {first second : Lamp Fader} (lamps : first.LightTwins second) (now : Nat)
include lamps

theorem play (group : Group) (transition : Transition) :
    Traced.Matches Event.attempt? LightTwins (first.play now group transition)
      (second.play now group transition) :=
  matches_play lamps.config_eq (lamps.engine.twinsBut group) now transition

theorem off (group : Group) :
    Traced.Matches Event.attempt? LightTwins (first.off now group) (second.off now group) := by
  refine Traced.Matches.bind ?_ fun faded =>
    (lightTwins_withEngine lamps.config_eq faded).report group false
  rw [lamps.config_eq]
  exact (lamps.engine.stop group).fade now group .off second.config.fadeTimeMs

theorem advance :
    Traced.Matches Event.attempt? LightTwins (first.advance now) (second.advance now) :=
  (lamps.engine.advance now).bind fun advanced =>
    Traced.matches_pure (lightTwins_withEngine lamps.config_eq advanced)

theorem apply {op : Op} (memoryless : op.usesMemory = false) :
    Traced.Matches Event.attempt? LightTwins (first.apply now op) (second.apply now op) := by
  cases op with
  | boot | limit source group level | on group source =>
      cases memoryless
  | play group transition =>
      exact lamps.play now group transition
  | off group =>
      exact lamps.off now group
  | advance =>
      exact lamps.advance now

theorem replay {history : List (Nat × Op)}
    (memoryless : ∀ timed ∈ history, timed.2.usesMemory = false) :
    Traced.Matches Event.attempt? LightTwins (first.replay history) (second.replay history) :=
  Traced.matches_foldlM
    (fun _ _ timed member lamps => lamps.apply timed.1 (memoryless timed member)) lamps

end LightTwins

/-- Take two lamps of one configuration, in whatever states, that are twins but for one group. What the
group shows, which fades and which run it is in, and what the memories and radios hold, need not have
anything in common. As soon as the same transition is played on the group at the same time, the two
engines have the same runs and the same faders, and playing it has sent the same commands, offered the
same duties and made the same report. From then on nothing tells the lamps apart, whatever is played on
either group, switched off and polled, at whatever clocks: their engines stay twins, and they attempt
the same things in the same order. -/
theorem play_erases_past {first second : Lamp Fader} {group : Group}
    (sameConfig : first.config = second.config)
    (elsewhere : first.engine.TwinsBut group second.engine) (now : Nat) (transition : Transition)
    {later : List (Nat × Op)} (memoryless : ∀ timed ∈ later, timed.2.usesMemory = false) :
    let firstPlayed := first.play now group transition
    let secondPlayed := second.play now group transition
    let firstLater := firstPlayed.value.replay later
    let secondLater := secondPlayed.value.replay later
    firstPlayed.value.engine.Twins secondPlayed.value.engine ∧
    Event.attempts firstPlayed.events = Event.attempts secondPlayed.events ∧
    firstLater.value.engine.Twins secondLater.value.engine ∧
    Event.attempts firstLater.events = Event.attempts secondLater.events := by
  intro firstPlayed secondPlayed firstLater secondLater
  have played : Traced.Matches Event.attempt? LightTwins firstPlayed secondPlayed :=
    matches_play sameConfig elsewhere now transition
  have goneOn : Traced.Matches Event.attempt? LightTwins firstLater secondLater :=
    played.value.replay memoryless
  exact ⟨played.value.engine, played.events, goneOn.value.engine, goneOn.events⟩

/-- White is on its way back in a loop in one lamp, and has just set out for 9 in the other, whose outputs
refuse every duty. The colour groups are in one and the same fade. -/
theorem white_forgets_its_loop :
    let dark (fails : Bool) := ofPwms {} (fun _ => ⟨255, .always fails⟩)
      { bytes := #[], readFaults := .always true, writeFaults := .always true } ⟨[], .always fails⟩
    let loop : Transition :=
      { start := .ofWhite 16, stop := .ofWhite 240, durationMs := 100, looping := true }
    let fade : Transition :=
      { start := .ofColor 0 16 255, stop := .full, durationMs := 1000, looping := false }
    let first := ((dark false).replay
      [(0, .play .color fade), (0, .play .white loop), (100, .advance), (150, .advance)]).value
    let second := ((dark true).replay
      [(0, .play .color fade), (100, .advance), (110, .limit .button .white (.ofWhite 9)),
        (150, .advance)]).value
    let later : List (Nat × Op) :=
      [(260, .advance), (9, .off .color), (300, .advance), (310, .play .color loop), (350, .advance)]
    let firstPlayed := first.play 160 .white loop
    let secondPlayed := second.play 160 .white loop
    let firstLater := firstPlayed.value.replay later
    let secondLater := secondPlayed.value.replay later
    first.engine.run .white = { running := true, transition := loop, direction := .backward } ∧
      second.engine.run .white = .initial ∧
      first.engine.fixture.level = { red := 38, green := 51, blue := 255, white := 128 } ∧
      second.engine.fixture.level = { red := 38, green := 51, blue := 255, white := 0 } ∧
      first.engine.TwinsBut .white second.engine ∧
      (∀ timed ∈ later, timed.2.usesMemory = false) ∧
      firstPlayed.events ≠ secondPlayed.events ∧
      firstPlayed.value.engine.Twins secondPlayed.value.engine ∧
      Event.attempts firstPlayed.events = Event.attempts secondPlayed.events ∧
      (firstLater.value.engine.run .white).direction = .backward ∧
      firstLater.value.engine.Twins secondLater.value.engine := by
  intro dark loop fade first second later firstPlayed secondPlayed firstLater secondLater
  have sameConfig : first.config = second.config :=
    (config_replay (dark false) _).trans (config_replay (dark true) _).symm
  have elsewhere : first.engine.TwinsBut .white second.engine := by
    refine ⟨?_, ?_, ?_⟩
    · intro other different
      cases other with
      | color =>
          decide
      | white =>
          exact absurd rfl different
    · intro channel
      cases channel <;> decide
    · intro channel settled
      cases channel with
      | red | green | blue =>
          exact ⟨by decide, by decide, by decide⟩
      | white =>
          exact absurd (List.mem_singleton_self _) settled
  have memoryless : ∀ timed ∈ later, timed.2.usesMemory = false := by decide
  obtain ⟨played, attempts, goneOn, _⟩ :=
    play_erases_past sameConfig elsewhere 160 loop memoryless
  exact ⟨by decide, by decide, by decide, by decide, elsewhere, memoryless, by decide, played,
    attempts, by decide, goneOn⟩

end Lamp

end MeshLight
