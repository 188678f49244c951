import MeshLight.Fixture
import MeshLight.Proofs.Event.Dispatches

/-!
The commands that each operation of a fixture sends to the channels of one group. A poll sends none,
and an operation on a group sends none to the other group.
-/

namespace MeshLight

namespace Fixture

/-- What a group is told when it is to fade to a level. -/
def fadeCommands (group : Group) (target : Level) (durationMs : UInt32) :
    List (Channel × ChannelCommand) :=
  group.channels.map fun channel => (channel, .fade (target.component channel) durationMs)

/-- What a group is told when it is swept from one level to another: every channel jumps before any
of them starts to fade. -/
def sweepCommands (group : Group) (start stop : Level) (durationMs : UInt32) :
    List (Channel × ChannelCommand) :=
  (group.channels.map fun channel => (channel, .set (start.component channel))) ++
    group.channels.map fun channel => (channel, .fade (stop.component channel) durationMs)

theorem group_of_mem_fadeCommands {group : Group} {target : Level} {durationMs : UInt32} :
    ∀ order ∈ fadeCommands group target durationMs, order.1.group = group := by
  intro order member
  obtain ⟨channel, inside, rfl⟩ := List.mem_map.1 member
  exact Group.mem_channels.1 inside

theorem group_of_mem_sweepCommands {group : Group} {start stop : Level} {durationMs : UInt32} :
    ∀ order ∈ sweepCommands group start stop durationMs, order.1.group = group := by
  intro order member
  rcases List.mem_append.1 member with jump | fade
  · obtain ⟨channel, inside, rfl⟩ := List.mem_map.1 jump
    exact Group.mem_channels.1 inside
  · exact group_of_mem_fadeCommands order fade

/-- A group is told nothing of the components of other groups. -/
theorem fadeCommands_congr {group : Group} {target other : Level}
    (same : ∀ channel, channel.group = group → target.component channel = other.component channel)
    (durationMs : UInt32) :
    fadeCommands group target durationMs = fadeCommands group other durationMs := by
  apply List.map_congr_left
  intro channel member
  rw [same channel (Group.mem_channels.1 member)]

variable {δ : Type}

theorem dispatches_change (fixture : Fixture δ) (channel : Channel)
    (action : δ → Traced OutputEvent δ) :
    Event.dispatches (fixture.change channel action).events = [] := by
  rw [change, Traced.bind_events, Traced.pure_events, List.append_nil, Event.dispatches,
    Traced.mapEvents_events, List.filterMap_map]
  apply List.filterMap_eq_nil_iff.2
  intro output _
  cases output <;> rfl

variable [ChannelDriver δ] (fixture : Fixture δ) (now : Nat) (group : Group)

theorem dispatches_command (channel : Channel) (order : ChannelCommand) :
    Event.dispatches (fixture.command now channel order).events = [.command channel order] := by
  rw [command, Traced.bind_events, Event.dispatches_append, dispatches_change]
  rfl

theorem dispatches_jump (level : Level) :
    Event.dispatches (fixture.jump now group level).events =
      Dispatch.ofOrders
        (group.channels.map fun channel => (channel, .set (level.component channel))) := by
  rw [jump, Traced.dispatches_foldlM fun fixture channel => fixture.dispatches_command now channel _,
    ← List.map_eq_flatMap, Dispatch.ofOrders, List.map_map]
  rfl

theorem dispatches_fade (target : Level) (durationMs : UInt32) :
    Event.dispatches (fixture.fade now group target durationMs).events =
      Dispatch.ofOrders (fadeCommands group target durationMs) := by
  rw [fade, Traced.dispatches_foldlM fun fixture channel => fixture.dispatches_command now channel _,
    ← List.map_eq_flatMap, Dispatch.ofOrders, fadeCommands, List.map_map]
  rfl

theorem dispatches_sweep (start stop : Level) (durationMs : UInt32) :
    Event.dispatches (fixture.sweep now group start stop durationMs).events =
      Dispatch.ofOrders (sweepCommands group start stop durationMs) := by
  rw [sweep, Traced.bind_events, Event.dispatches_append, dispatches_jump, dispatches_fade,
    ← Dispatch.ofOrders_append]
  rfl

theorem dispatches_advance : Event.dispatches (fixture.advance now).events = [] := by
  rw [advance, Traced.dispatches_foldlM fun fixture channel => fixture.dispatches_change channel _]
  rfl

end Fixture

end MeshLight
