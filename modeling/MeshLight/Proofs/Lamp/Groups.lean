import MeshLight.Proofs.Engine.Agreement
import MeshLight.Proofs.Lamp.Dispatches

/-!
What an operation of the lamp does to one group. An operation on a group says nothing to the channels of
the other one, makes no sensor report but its own, and leaves the engine of the other group alone.
-/

namespace MeshLight

namespace Engine

variable {δ : Type} [ChannelDriver δ] (engine : Engine δ) (now : Nat) {group other : Group}

theorem agreeOn_settled_of_ne (different : other ≠ group) (level : Level) (durationMs : UInt32) :
    (engine.settled now other level durationMs).AgreeOn group engine where
  run_eq := by rw [run_settled, if_neg (Ne.symm different)]
  driver_eq channel inside := by
    rw [driver_settled, if_neg (inside ▸ Ne.symm different)]

theorem agreeOn_played_of_ne (different : other ≠ group) (transition : Transition) :
    (engine.played now other transition).AgreeOn group engine where
  run_eq := by rw [played, run_launch, if_neg (Ne.symm different)]
  driver_eq channel inside := by
    rw [played, driver_launch, if_neg (inside ▸ Ne.symm different)]

end Engine

namespace Lamp

variable {δ : Type}

/-- The group that an operation is on. Booting and polling are for both groups. -/
def Op.target? : Op → Option Group
  | limit _ group _ | play group _ | off group | on group _ => some group
  | boot | advance => none

/-- The operation is on a group, among others or alone. -/
def Op.concerns (group : Group) (op : Op) : Bool :=
  op.target?.all (· = group)

theorem Op.exists_of_not_concerns {group : Group} {op : Op} (elsewhere : ¬ op.concerns group = true) :
    ∃ other, op.target? = some other ∧ other ≠ group := by
  rw [concerns] at elsewhere
  cases target : op.target? with
  | none =>
      rw [target] at elsewhere
      exact absurd rfl elsewhere
  | some other =>
      rw [target] at elsewhere
      exact ⟨other, rfl, fun same => elsewhere (decide_eq_true same)⟩

theorem Op.ne_boot_of_target? {op : Op} {group : Group} (onGroup : op.target? = some group) :
    op ≠ .boot := by
  rintro rfl
  cases onGroup

/-- The operations of a history that concern a group. -/
def share (group : Group) (history : List (Nat × Op)) : List (Nat × Op) :=
  history.filter fun timed => timed.2.concerns group

/-- The operation lets a group go on by itself. -/
def Op.Spares (group : Group) (op : Op) : Prop :=
  group.IsSpared .advance Op.target? op

instance (group : Group) (op : Op) : Decidable (op.Spares group) :=
  inferInstanceAs (Decidable (group.IsSpared .advance Op.target? op))

variable [ChannelDriver δ] (lamp : Lamp δ) (now : Nat) {op : Op} {group other : Group}

/-- An operation on a group has commands for channels of that group only, and one report to make. -/
theorem exists_dispatches_eq (onGroup : op.target? = some group) :
    ∃ orders on,
      Event.dispatches (lamp.apply now op).events =
          Dispatch.ofOrders orders ++ [.status (lamp.config.sensor group) on] ∧
        ∀ order ∈ orders, order.1.group = group := by
  rw [dispatches_apply]
  cases op with
  | boot | advance =>
      cases onGroup
  | limit source asked level =>
      cases onGroup
      exact ⟨_, true, rfl, Fixture.group_of_mem_fadeCommands⟩
  | play asked transition =>
      cases onGroup
      exact ⟨_, true, rfl, Fixture.group_of_mem_sweepCommands⟩
  | off asked =>
      cases onGroup
      exact ⟨_, false, rfl, Fixture.group_of_mem_fadeCommands⟩
  | on asked source =>
      cases onGroup
      exact ⟨_, true, rfl, Fixture.group_of_mem_fadeCommands⟩

/-- The sensor of the group is the only one to report. -/
theorem reporters_apply_of_target? (onGroup : op.target? = some group) :
    Event.reporters (lamp.apply now op).events = [lamp.config.sensor group] := by
  obtain ⟨orders, on, said, _⟩ := lamp.exists_dispatches_eq now onGroup
  rw [Event.reporters, Event.heard, said, List.filterMap_append,
    Dispatch.filterMap_ofOrders fun _ _ => rfl]
  rfl

/-- A poll has nothing but commands to give, so it makes no report. -/
theorem heard_advance {β : Type} {hear : Dispatch → Option β}
    (deaf : ∀ channel order, hear (.command channel order) = none) :
    Event.heard hear (lamp.apply now .advance).events = [] := by
  rw [Event.heard, dispatches_apply]
  exact Dispatch.filterMap_ofOrders deaf

/-! ## Operations on another group -/

section Elsewhere

variable (elsewhere : op.target? = some other)
include elsewhere

theorem commandsTo_apply_of_ne (different : other ≠ group) :
    Event.commandsTo group (lamp.apply now op).events = [] := by
  obtain ⟨orders, on, said, inside⟩ := lamp.exists_dispatches_eq now elsewhere
  rw [Event.commandsTo, Event.heard, said, List.filterMap_append,
    Dispatch.filterMap_commandTo?_ofOrders inside, if_neg different.symm]
  rfl

theorem reportsOf_apply_of_ne {sensor : UInt8} (different : lamp.config.sensor other ≠ sensor) :
    Event.reportsOf sensor (lamp.apply now op).events = [] := by
  obtain ⟨orders, on, said, _⟩ := lamp.exists_dispatches_eq now elsewhere
  rw [Event.reportsOf, Event.heard, said, List.filterMap_append,
    Dispatch.filterMap_ofOrders fun _ _ => rfl]
  simp [Dispatch.reportOf?, different]

theorem agreeOn_apply_of_ne (different : other ≠ group) :
    (lamp.apply now op).value.engine.AgreeOn group lamp.engine := by
  cases op with
  | boot | advance =>
      cases elsewhere
  | limit source asked level =>
      cases elsewhere
      rw [apply, engine_limit]
      exact lamp.engine.agreeOn_settled_of_ne now different level _
  | play asked transition =>
      cases elsewhere
      rw [apply, engine_play]
      exact lamp.engine.agreeOn_played_of_ne now different transition
  | off asked =>
      cases elsewhere
      rw [apply, engine_off]
      exact lamp.engine.agreeOn_settled_of_ne now different .off _
  | on asked source =>
      cases elsewhere
      rw [apply, engine_on]
      exact lamp.engine.agreeOn_settled_of_ne now different (lamp.store.level source) _

end Elsewhere

end Lamp

end MeshLight
