import MeshLight.Engine
import MeshLight.Proofs.Fixture.Commands

/-!
What an operation of the engine does to one group. An operation on the other group does nothing to it,
and a tick does to it what it would do if it were the only group: whether the other group turns round
in the same tick makes no difference.
-/

namespace MeshLight

/-- An operation lets a group go on by itself: it polls all channels, or it is on another group. -/
def Group.IsSpared {ι : Type} (advance : ι) (target? : ι → Option Group) (group : Group) (op : ι) :
    Prop :=
  op = advance ∨ ∃ other ∈ target? op, other ≠ group

instance {ι : Type} [DecidableEq ι] (advance : ι) (target? : ι → Option Group) (group : Group)
    (op : ι) : Decidable (group.IsSpared advance target? op) :=
  inferInstanceAs (Decidable (_ ∨ _))

/-- A driver that was set to one value and told to fade to another one from there. -/
def ChannelDriver.swept {δ : Type} [ChannelDriver δ] (driver : δ) (now : Nat)
    (start stop : UInt8) (durationMs : UInt32) : δ :=
  (obey (obey driver now (.set start)).value now (.fade stop durationMs)).value

@[simp]
theorem Run.transition_reversed (run : Run) : run.reversed.transition = run.transition :=
  rfl

namespace Engine

variable {δ : Type} [ChannelDriver δ] (engine : Engine δ) (now : Nat) (group : Group)

/-! ## Sending a group off -/

theorem run_launch (run : Run) (asked : Group) :
    (engine.launch now group run).value.run asked =
      if asked = group then run else engine.run asked := by
  by_cases same : asked = group
  · subst same
    simp [launch]
  · simp only [launch, Traced.bind_value, Traced.pure_value, run_withRun_of_ne _ _ same, same,
      ↓reduceIte]
    rfl

theorem driver_launch (run : Run) (channel : Channel) :
    (engine.launch now group run).value.fixture.driver channel =
      if channel.group = group then
        ChannelDriver.swept (engine.fixture.driver channel) now (run.origin.component channel)
          (run.goal.component channel) run.transition.durationMs
      else engine.fixture.driver channel := by
  simp [launch, Fixture.driver_sweep, ChannelDriver.swept]

theorem dispatches_launch (run : Run) :
    Event.dispatches (engine.launch now group run).events =
      Dispatch.ofOrders (Fixture.sweepCommands group run.origin run.goal run.transition.durationMs) := by
  rw [launch, Traced.bind_events, Traced.bind_events, Traced.pure_events, List.append_nil,
    Event.dispatches_append, Fixture.dispatches_sweep]
  rfl

theorem dispatches_fade (target : Level) (durationMs : UInt32) :
    Event.dispatches (engine.fade now group target durationMs).events =
      Dispatch.ofOrders (Fixture.fadeCommands group target durationMs) := by
  rw [fade, Traced.bind_events, Traced.bind_events, Traced.pure_events, List.append_nil,
    Event.dispatches_append, Fixture.dispatches_fade]
  rfl

/-! ## Turning round -/

theorem turns_iff :
    engine.turns group = true ↔
      (engine.run group).running = true ∧ (engine.run group).transition.looping = true ∧
        ∀ channel, channel.group = group →
          engine.fixture.value channel = (engine.run group).goal.component channel := by
  rw [← Fixture.shows_iff]
  simp only [turns, Bool.and_eq_true, and_assoc]

theorem turns_congr {first second : Engine δ}
    (sameRun : first.run group = second.run group)
    (sameDrivers : ∀ channel, channel.group = group →
      first.fixture.driver channel = second.fixture.driver channel) :
    first.turns group = second.turns group := by
  have sameShows (level : Level) :
      first.fixture.shows group level = second.fixture.shows group level := by
    rw [Bool.eq_iff_iff, Fixture.shows_iff, Fixture.shows_iff]
    simp +contextual only [Fixture.value, sameDrivers]
  rw [turns, turns, sameRun, sameShows]

theorem run_bounce (asked : Group) :
    (engine.bounce now group).value.run asked =
      if asked = group ∧ engine.turns group = true then (engine.run asked).reversed
      else engine.run asked := by
  by_cases due : engine.turns group = true
  · by_cases same : asked = group
    · subst same
      simp [bounce, due, run_launch]
    · simp [bounce, due, run_launch, same]
  · simp [bounce, due]

theorem driver_bounce (channel : Channel) :
    (engine.bounce now group).value.fixture.driver channel =
      if channel.group = group ∧ engine.turns group = true then
        ChannelDriver.swept (engine.fixture.driver channel) now
          ((engine.run group).goal.component channel)
          ((engine.run group).origin.component channel)
          (engine.run group).transition.durationMs
      else engine.fixture.driver channel := by
  by_cases due : engine.turns group = true
  · simp [bounce, due, driver_launch]
  · simp [bounce, due]

/-- What a group is told when it is looked at whether its run turns round. -/
def turnCommands : List (Channel × ChannelCommand) :=
  if engine.turns group = true then
    Fixture.sweepCommands group (engine.run group).goal (engine.run group).origin
      (engine.run group).transition.durationMs
  else []

theorem group_of_mem_turnCommands : ∀ order ∈ engine.turnCommands group, order.1.group = group := by
  rw [turnCommands]
  split
  · exact Fixture.group_of_mem_sweepCommands
  · exact List.forall_mem_nil _

theorem dispatches_bounce :
    Event.dispatches (engine.bounce now group).events =
      Dispatch.ofOrders (engine.turnCommands group) := by
  rw [bounce, turnCommands]
  split
  · rw [dispatches_launch, Run.origin_reversed, Run.goal_reversed, Run.transition_reversed]
  · rfl

theorem turns_bounce_of_ne {other : Group} (different : other ≠ group) :
    (engine.bounce now group).value.turns other = engine.turns other := by
  apply turns_congr
  · simp [run_bounce, different]
  · intro channel inside
    subst inside
    simp [driver_bounce, different]

/-! ## Ticks and polls -/

theorem run_tick :
    (engine.tick now).value.run group =
      if engine.turns group = true then (engine.run group).reversed else engine.run group := by
  have others : (engine.bounce now .color).value.turns .white = engine.turns .white :=
    turns_bounce_of_ne engine now .color (by decide)
  cases group <;> simp [tick, Group.all, run_bounce, others]

theorem driver_tick (channel : Channel) (inside : channel.group = group) :
    (engine.tick now).value.fixture.driver channel =
      if engine.turns group = true then
        ChannelDriver.swept (engine.fixture.driver channel) now
          ((engine.run group).goal.component channel)
          ((engine.run group).origin.component channel)
          (engine.run group).transition.durationMs
      else engine.fixture.driver channel := by
  have others : (engine.bounce now .color).value.turns .white = engine.turns .white :=
    turns_bounce_of_ne engine now .color (by decide)
  cases group <;> simp [tick, Group.all, run_bounce, driver_bounce, others, inside]

/-- The colour group goes first, and what it does makes no difference to the white one. -/
theorem dispatches_tick :
    Event.dispatches (engine.tick now).events =
      Dispatch.ofOrders (Group.all.flatMap engine.turnCommands) := by
  have second : (engine.bounce now .color).value.turnCommands .white =
      engine.turnCommands .white := by
    have sameRun : (engine.bounce now .color).value.run .white = engine.run .white := by
      simp [run_bounce]
    rw [turnCommands, turnCommands, turns_bounce_of_ne _ _ _ (by decide), sameRun]
  simp [tick, Group.all, dispatches_bounce, second, Dispatch.ofOrders_append]

theorem commandsTo_tick :
    Event.commandsTo group (engine.tick now).events =
      if engine.turns group = true then
        Fixture.sweepCommands group (engine.run group).goal (engine.run group).origin
          (engine.run group).transition.durationMs
      else [] := by
  rw [Event.commandsTo, Event.heard, dispatches_tick]
  exact Dispatch.filterMap_commandTo?_flatMap engine.group_of_mem_turnCommands group

/-- The engine with its channels brought up to date, at the moment when the groups are looked at. -/
def polled : Engine δ :=
  { engine with fixture := (engine.fixture.advance now).value }

theorem advance_value : (engine.advance now).value = ((engine.polled now).tick now).value :=
  rfl

@[simp]
theorem run_polled : (engine.polled now).run group = engine.run group :=
  rfl

theorem driver_polled (channel : Channel) :
    (engine.polled now).fixture.driver channel =
      (ChannelDriver.advance (engine.fixture.driver channel) now).value :=
  Fixture.driver_advance engine.fixture now channel

theorem dispatches_advance :
    Event.dispatches (engine.advance now).events =
      Event.dispatches ((engine.polled now).tick now).events := by
  rw [advance, Traced.bind_events, Event.dispatches_append, Fixture.dispatches_advance,
    List.nil_append]
  rfl

theorem commandsTo_advance :
    Event.commandsTo group (engine.advance now).events =
      Event.commandsTo group ((engine.polled now).tick now).events := by
  rw [Event.commandsTo, Event.heard, dispatches_advance]
  rfl

/-! ## Operations on other groups -/

/-- The group that an operation is on. Ticks and polls are for both groups. -/
def Op.target? : Op → Option Group
  | program group _ | start group | stop group | fade group _ _ => some group
  | tick | advance => none

/-- The operation lets a group go on by itself. -/
def Op.Spares (group : Group) (op : Op) : Prop :=
  group.IsSpared .advance Op.target? op

instance (group : Group) (op : Op) : Decidable (op.Spares group) :=
  inferInstanceAs (Decidable (group.IsSpared .advance Op.target? op))

variable {group} {op : Op} {other : Group} (onOther : op.target? = some other)
  (different : other ≠ group)
include onOther different

theorem run_apply_of_ne : (engine.apply now op).value.run group = engine.run group := by
  cases op with
  | program asked transition =>
      cases onOther
      exact run_withRun_of_ne engine _ different.symm
  | start asked =>
      cases onOther
      rw [apply, Engine.start, run_launch, if_neg different.symm]
  | stop asked =>
      cases onOther
      exact run_withRun_of_ne engine _ different.symm
  | fade asked target durationMs =>
      rfl
  | tick | advance =>
      cases onOther

theorem driver_apply_of_ne (channel : Channel) (inside : channel.group = group) :
    (engine.apply now op).value.fixture.driver channel = engine.fixture.driver channel := by
  subst inside
  cases op with
  | program asked transition | stop asked =>
      rfl
  | start asked =>
      cases onOther
      rw [apply, Engine.start, driver_launch, if_neg different.symm]
  | fade asked target durationMs =>
      cases onOther
      exact (Fixture.driver_fade _ _ _ _ _ _).trans (if_neg different.symm)
  | tick | advance =>
      cases onOther

theorem commandsTo_apply_of_ne : Event.commandsTo group (engine.apply now op).events = [] := by
  cases op with
  | program asked transition | stop asked =>
      rfl
  | start asked =>
      cases onOther
      rw [Event.commandsTo, Event.heard, apply, Engine.start, dispatches_launch,
        Dispatch.filterMap_commandTo?_ofOrders Fixture.group_of_mem_sweepCommands,
        if_neg different.symm]
  | fade asked target durationMs =>
      cases onOther
      rw [Event.commandsTo, Event.heard, apply, dispatches_fade,
        Dispatch.filterMap_commandTo?_ofOrders Fixture.group_of_mem_fadeCommands,
        if_neg different.symm]
  | tick | advance =>
      cases onOther

end Engine

end MeshLight
