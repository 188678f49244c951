import MeshLight.Proofs.Engine.Groups

/-!
Engines that agree on one group. Polls and ticks keep the agreement and send the group the same
commands, whatever the two engines have in the other group; and engines that agree on every group are
the same.
-/

namespace MeshLight

namespace Engine

variable {δ : Type}

/-- Two engines cannot be told apart by their run and their drivers of a group. -/
structure AgreeOn (group : Group) (first second : Engine δ) : Prop where
  run_eq : first.run group = second.run group
  driver_eq : ∀ channel, channel.group = group →
    first.fixture.driver channel = second.fixture.driver channel

theorem eq_of_agreeOn {first second : Engine δ}
    (agree : ∀ group, first.AgreeOn group second) : first = second := by
  have sameFixture : first.fixture = second.fixture := by
    apply Fixture.ext_driver
    intro channel
    exact (agree channel.group).driver_eq channel rfl
  have sameColor : first.runs.color = second.runs.color := (agree .color).run_eq
  have sameWhite : first.runs.white = second.runs.white := (agree .white).run_eq
  rcases first with ⟨fixture, color, white⟩
  subst sameFixture sameColor sameWhite
  rfl

namespace AgreeOn

variable {group : Group} {first second third : Engine δ}

theorem refl (engine : Engine δ) : engine.AgreeOn group engine where
  run_eq := rfl
  driver_eq _ _ := rfl

theorem symm (agree : first.AgreeOn group second) : second.AgreeOn group first where
  run_eq := agree.run_eq.symm
  driver_eq channel inside := (agree.driver_eq channel inside).symm

theorem trans (agree : first.AgreeOn group second) (next : second.AgreeOn group third) :
    first.AgreeOn group third where
  run_eq := agree.run_eq.trans next.run_eq
  driver_eq channel inside := (agree.driver_eq channel inside).trans (next.driver_eq channel inside)

variable [ChannelDriver δ]

theorem turns_eq (agree : first.AgreeOn group second) : first.turns group = second.turns group :=
  turns_congr group agree.run_eq agree.driver_eq

theorem launch (agree : first.AgreeOn group second) (now : Nat) (run : Run) :
    (first.launch now group run).value.AgreeOn group (second.launch now group run).value where
  run_eq := by rw [run_launch, run_launch, if_pos rfl, if_pos rfl]
  driver_eq channel inside := by
    rw [driver_launch, driver_launch, if_pos inside, if_pos inside, agree.driver_eq channel inside]

theorem polled (agree : first.AgreeOn group second) (now : Nat) :
    (first.polled now).AgreeOn group (second.polled now) where
  run_eq := agree.run_eq
  driver_eq channel inside := by
    rw [driver_polled, driver_polled, agree.driver_eq channel inside]

theorem tick (agree : first.AgreeOn group second) (now : Nat) :
    (first.tick now).value.AgreeOn group (second.tick now).value where
  run_eq := by rw [run_tick, run_tick, agree.turns_eq, agree.run_eq]
  driver_eq channel inside := by
    rw [driver_tick first now group channel inside, driver_tick second now group channel inside,
      agree.turns_eq, agree.run_eq, agree.driver_eq channel inside]

theorem commandsTo_tick (agree : first.AgreeOn group second) (now : Nat) :
    Event.commandsTo group (first.tick now).events =
      Event.commandsTo group (second.tick now).events := by
  rw [Engine.commandsTo_tick, Engine.commandsTo_tick, agree.turns_eq, agree.run_eq]

theorem tick_of_not_turns {engine : Engine δ} (stays : ¬ engine.turns group = true) (now : Nat) :
    (engine.tick now).value.AgreeOn group engine where
  run_eq := by rw [run_tick, if_neg stays]
  driver_eq channel inside := by rw [driver_tick engine now group channel inside, if_neg stays]

theorem advance (agree : first.AgreeOn group second) (now : Nat) :
    (first.advance now).value.AgreeOn group (second.advance now).value :=
  (agree.polled now).tick now

theorem commandsTo_advance (agree : first.AgreeOn group second) (now : Nat) :
    Event.commandsTo group (first.advance now).events =
      Event.commandsTo group (second.advance now).events := by
  rw [Engine.commandsTo_advance, Engine.commandsTo_advance]
  exact (agree.polled now).commandsTo_tick now

end AgreeOn

end Engine

end MeshLight
