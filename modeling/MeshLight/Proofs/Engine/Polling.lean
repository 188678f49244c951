import MeshLight.Proofs.Engine.Agreement
import MeshLight.Proofs.Engine.Turning

/-!
Polls at one clock. The first poll brings every fader up to date and turns round what is due, and
that is all there is to do until the clock moves: a fader that has just stepped or set off is not
due for another step, and a group that has just turned round shows the end that it comes from. Only
a loop that does not travel would turn round once more.
-/

namespace MeshLight

/-- A poll of the ramp finds that it is neither over nor due for a step. -/
def Ramp.UpToDate (ramp : Ramp) (now : Nat) : Prop :=
  ¬ ramp.isOver now = true ∧ ¬ ramp.isDue now = true

/-- After a step the next one is not due before the clock has moved on. -/
theorem Ramp.upToDate_of_stepped {ramp : Ramp} {now : Nat} (stepped : ramp.steppedAt = now)
    (lasting : ¬ ramp.isOver now = true) : ramp.UpToDate now := by
  refine ⟨lasting, ?_⟩
  intro due
  have interval : ramp.intervalMs ≤ now - ramp.steppedAt := of_decide_eq_true due
  have positive : 20 ≤ ramp.intervalMs := ramp.minStepMs_le_intervalMs
  omega

namespace Fader

/-- A poll of the fader finds nothing to do. -/
def UpToDate (fader : Fader) (now : Nat) : Prop :=
  ∀ ramp, fader.ramp = some ramp → ramp.UpToDate now

variable {fader : Fader}

theorem upToDate_of_idle (idle : fader.ramp = none) (now : Nat) : fader.UpToDate now := by
  intro ramp fading
  rw [idle] at fading
  cases fading

theorem upToDate_of_ramp {ramp : Ramp} {now : Nat} (fading : fader.ramp = some ramp)
    (upToDate : ramp.UpToDate now) : fader.UpToDate now := by
  intro other same
  rw [fading] at same
  cases same
  exact upToDate

theorem advance_of_upToDate {now : Nat} (upToDate : fader.UpToDate now) :
    fader.advance now = pure fader := by
  cases fading : fader.ramp with
  | none =>
      exact advance_of_idle fading now
  | some ramp =>
      obtain ⟨lasting, early⟩ := upToDate ramp fading
      simp only [advance, fading, if_neg lasting, if_neg early]

variable (fader)

theorem upToDate_advance (now : Nat) : (fader.advance now).value.UpToDate now := by
  cases fading : fader.ramp with
  | none =>
      rw [advance_of_idle fading]
      exact upToDate_of_idle fading now
  | some ramp =>
      simp only [advance, fading]
      by_cases finished : ramp.isOver now = true
      · rw [if_pos finished]
        exact upToDate_of_idle (ramp_write _ _) now
      · rw [if_neg finished]
        by_cases due : ramp.isDue now = true
        · rw [if_pos due]
          exact upToDate_of_ramp (ramp_write _ _) (Ramp.upToDate_of_stepped rfl finished)
        · rw [if_neg due]
          exact upToDate_of_ramp fading ⟨finished, due⟩

/-- A fade that has just begun has not come anywhere yet. -/
theorem upToDate_fade (now : Nat) (target : UInt8) (durationMs : UInt32) :
    (fader.fade now target durationMs).value.UpToDate now := by
  by_cases there : target = fader.value
  · rw [fade, if_pos there]
    exact upToDate_of_idle rfl now
  · by_cases quick : durationMs.toNat ≤ Ramp.minStepMs
    · rw [fade, if_neg there, if_pos quick]
      exact upToDate_of_idle (ramp_write _ _) now
    · rw [fade, if_neg there, if_neg quick]
      refine upToDate_of_ramp rfl (Ramp.upToDate_of_stepped rfl ?_)
      rw [Ramp.isOver_iff]
      change ¬ durationMs.toNat ≤ now - now
      omega

/-- A sweep that takes more than one step shows where it starts. -/
theorem value_swept_of_long (now : Nat) (start stop : UInt8) {durationMs : UInt32}
    (long : Ramp.minStepMs < durationMs.toNat) :
    (ChannelDriver.swept fader now start stop durationMs).value = start := by
  have unmoved := value_fade_of_long (fader.set start).value now stop long
  rw [value_set] at unmoved
  exact unmoved

end Fader

namespace Fixture

variable {δ : Type}

theorem withDriver_driver (fixture : Fixture δ) (channel : Channel) :
    fixture.withDriver channel (fixture.driver channel) = fixture := by
  cases channel <;> rfl

theorem change_of_pure {fixture : Fixture δ} {channel : Channel} {action : δ → Traced OutputEvent δ}
    (idle : action (fixture.driver channel) = pure (fixture.driver channel)) :
    fixture.change channel action = pure fixture := by
  rw [change, idle]
  exact congrArg pure (fixture.withDriver_driver channel)

theorem advance_of_pure [ChannelDriver δ] {fixture : Fixture δ} {now : Nat}
    (idle : ∀ channel, ChannelDriver.advance (fixture.driver channel) now =
      pure (fixture.driver channel)) :
    fixture.advance now = pure fixture := by
  have unchanged (channel : Channel) :
      (fixture.change channel fun driver => ChannelDriver.advance driver now) = pure fixture :=
    change_of_pure (idle channel)
  simp [advance, Channel.all, unchanged]

end Fixture

namespace Engine

/-- Every loop that is running travels. -/
def LoopsTravel {δ : Type} (engine : Engine δ) : Prop :=
  ∀ group, (engine.run group).running = true → (engine.run group).transition.looping = true →
    (engine.run group).transition.Travels group

/-- A poll of the engine finds nothing to do. -/
structure UpToDate (engine : Engine Fader) (now : Nat) : Prop where
  driver : ∀ channel, (engine.fixture.driver channel).UpToDate now
  not_turns : ∀ group, ¬ engine.turns group = true

variable {engine : Engine Fader} {now : Nat}

theorem UpToDate.advance_eq (upToDate : engine.UpToDate now) :
    engine.advance now = pure engine := by
  have unmoved : engine.fixture.advance now = pure engine.fixture :=
    Fixture.advance_of_pure fun channel => Fader.advance_of_upToDate (upToDate.driver channel)
  rw [advance, unmoved, pure_bind]
  simp [tick, Group.all, bounce, upToDate.not_turns]

theorem UpToDate.replay_eq (upToDate : engine.UpToDate now) (times : Nat) :
    engine.replay (List.replicate times (now, .advance)) = pure engine := by
  induction times with
  | zero =>
      rfl
  | succ times inductionHypothesis =>
      rw [List.replicate_succ, replay, Traced.replay_cons]
      simp only [apply, upToDate.advance_eq, pure_bind]
      exact inductionHypothesis

theorem driver_advance_upToDate (engine : Engine Fader) (now : Nat) (channel : Channel) :
    ((engine.advance now).value.fixture.driver channel).UpToDate now := by
  rw [advance_value, driver_tick _ now channel.group channel rfl]
  by_cases due : (engine.polled now).turns channel.group = true
  · rw [if_pos due]
    exact Fader.upToDate_fade _ now _ _
  · rw [if_neg due, driver_polled]
    exact Fader.upToDate_advance _ now

/-- A group that has turned round is back at the end that it set off from, which is not the other
one. -/
theorem not_turns_advance (travel : engine.LoopsTravel) (now : Nat) (group : Group) :
    ¬ (engine.advance now).value.turns group = true := by
  rw [advance_value]
  by_cases due : (engine.polled now).turns group = true
  · obtain ⟨running, looping, _⟩ := (turns_iff _ group).1 due
    rw [run_polled] at running looping
    obtain ⟨long, channel, inside, apart⟩ :=
      (Transition.travels_iff _ (engine.run group).direction group).1 (travel group running looping)
    intro again
    have shown := ((turns_iff _ group).1 again).2.2 channel inside
    rw [run_tick, if_pos due, run_polled, Run.goal_reversed, Fixture.value,
      driver_tick _ now group channel inside, if_pos due, run_polled] at shown
    have departed : (engine.run group).goal.component channel =
        (engine.run group).origin.component channel :=
      (Fader.value_swept_of_long _ now _ _ long).symm.trans shown
    exact apart departed.symm
  · rw [(AgreeOn.tick_of_not_turns due now).turns_eq]
    exact due

theorem upToDate_advance (travel : engine.LoopsTravel) (now : Nat) :
    (engine.advance now).value.UpToDate now where
  driver := driver_advance_upToDate engine now
  not_turns := not_turns_advance travel now

/-- Polling software faders and their runs again and again at one clock is polling them once, in
whatever state the first poll finds them, if the loops that are running travel. A second poll sends
no command, writes to no output and logs nothing, and leaves every fader and every run as it was. -/
theorem polling_again_changes_nothing (engine : Engine Fader) (now : Nat)
    (travel : engine.LoopsTravel) :
    let polled := (engine.advance now).value
    (polled.advance now).events = [] ∧ (polled.advance now).value = polled ∧
      ∀ times, engine.replay (List.replicate (times + 1) (now, .advance)) = engine.advance now := by
  intro polled
  have upToDate : polled.UpToDate now := upToDate_advance travel now
  refine ⟨by rw [upToDate.advance_eq]; rfl, by rw [upToDate.advance_eq]; rfl, ?_⟩
  intro times
  have later : polled.replay (List.replicate times (now, .advance)) = pure polled :=
    upToDate.replay_eq times
  have first : engine.replay (List.replicate (times + 1) (now, .advance)) =
      engine.advance now >>= fun reached =>
        reached.replay (List.replicate times (now, .advance)) := by
    rw [List.replicate_succ, replay, Traced.replay_cons]
    rfl
  rw [first]
  refine Traced.ext ?_ ?_
  · rw [Traced.bind_value, later]
    rfl
  · rw [Traced.bind_events, later]
    exact List.append_nil _

/-- Two loops that set off together, looked at when the shorter one turns round and the longer one
steps. -/
theorem turning_poll_repeats_nothing :
    let fader := (Fader.start { maxDuty := 255, faults := .always false }).value
    let short : Transition :=
      { start := .ofWhite 16, stop := .ofWhite 240, durationMs := 100, looping := true }
    let long : Transition :=
      { start := .ofColor 0 9 200, stop := .ofColor 250 9 0, durationMs := 1000, looping := true }
    let engine := ofFixture ⟨fader, fader, fader, fader⟩
    let history : List (Nat × Op) :=
      [(0, .program .white short), (0, .program .color long), (0, .start .white), (0, .start .color)]
    let launched := (engine.replay history).value
    let polled := (launched.advance 100).value
    launched.LoopsTravel ∧ (polled.run .white).direction = .backward ∧
      polled.fixture.level = { red := 25, green := 9, blue := 180, white := 240 } ∧
      (polled.advance 100).events = [] ∧ (polled.advance 100).value = polled := by
  intro fader short long engine history launched polled
  have travel : launched.LoopsTravel := by
    intro group running looping
    cases group with
    | color =>
        exact ⟨by decide, .red, rfl, by decide⟩
    | white =>
        exact ⟨by decide, .white, rfl, by decide⟩
  obtain ⟨events, unchanged, _⟩ := polling_again_changes_nothing launched 100 travel
  exact ⟨travel, by decide, by decide, events, unchanged⟩

end Engine

end MeshLight
