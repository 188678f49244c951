import MeshLight.Proofs.Fader.Course
import MeshLight.Proofs.Lamp.Dispatches
import MeshLight.Proofs.Log.Failures

/-!
The lamp keeps its log: a duty that is refused, an access to the memory that fails and something that is
lost on the radio are each told of at once, by whoever asked for it, and none of them is told of again
further up.
-/

namespace MeshLight

variable {config : Config}

/-! ## Light -/

namespace Fader

/-- A fader that is used writes once or not at all. -/
inductive Writes : Traced OutputEvent Fader → Prop
  | never (fader : Fader) : Writes (pure fader)
  | once (fader : Fader) (value : UInt8) : Writes (fader.write value)

theorem writes_obey (fader : Fader) (now : Nat) (command : ChannelCommand) :
    Writes (fader.obey now command) := by
  cases command with
  | set value =>
      exact .once _ value
  | fade target durationMs =>
      rw [obey, fade]
      split_ifs
      · exact .never _
      · exact .once _ target
      · exact .never _

theorem writes_advance (fader : Fader) (now : Nat) : Writes (fader.advance now) := by
  rw [advance]
  cases fader.ramp with
  | none =>
      exact .never fader
  | some ramp =>
      simp only
      split_ifs
      · exact .once _ ramp.target
      · exact .once _ (ramp.valueAt now)
      · exact .never fader

theorem Writes.told {result : Traced OutputEvent Fader} (writes : Writes result)
    (channel : Channel) : (result.mapEvents (Event.ofOutput channel)).Told config := by
  cases writes with
  | never fader =>
      exact .nil none
  | once fader value =>
      rw [Traced.Told, Traced.mapEvents_events, write_events, List.map_cons, apply_ite (List.map _)]
      exact Event.told_attempt ⟨rfl, rfl⟩ (.duty channel _) fader.pwm.offer.1

end Fader

namespace Fixture

variable (fixture : Fixture Fader) (now : Nat) (group : Group)

theorem told_change (channel : Channel) {action : Fader → Traced OutputEvent Fader}
    (writes : ∀ fader, Fader.Writes (action fader)) : (fixture.change channel action).Told config :=
  ((writes _).told channel).bind (Traced.told_pure _)

theorem told_command (channel : Channel) (order : ChannelCommand) :
    (fixture.command now channel order).Told config :=
  (Traced.told_emit ⟨rfl, rfl⟩).bind
    (fixture.told_change channel fun fader => fader.writes_obey now order)

theorem told_fade (target : Level) (durationMs : UInt32) :
    (fixture.fade now group target durationMs).Told config :=
  Traced.told_foldlM (fun fixture channel => fixture.told_command now channel _) fixture group.channels

theorem told_jump (level : Level) : (fixture.jump now group level).Told config :=
  Traced.told_foldlM (fun fixture channel => fixture.told_command now channel _) fixture group.channels

theorem told_sweep (start stop : Level) (durationMs : UInt32) :
    (fixture.sweep now group start stop durationMs).Told config :=
  (fixture.told_jump now group start).bind (told_fade _ now group stop durationMs)

theorem told_advance : (fixture.advance now).Told config :=
  Traced.told_foldlM
    (fun fixture channel => fixture.told_change channel fun fader => fader.writes_advance now)
    fixture Channel.all

end Fixture

namespace Engine

variable (engine : Engine Fader) (now : Nat) (group : Group)

theorem told_launch (run : Run) : (engine.launch now group run).Told config :=
  (Traced.told_emit ⟨rfl, rfl⟩).bind
    ((engine.fixture.told_sweep now group _ _ _).bind (Traced.told_pure _))

theorem told_fade (target : Level) (durationMs : UInt32) :
    (engine.fade now group target durationMs).Told config :=
  (Traced.told_emit ⟨rfl, rfl⟩).bind
    ((engine.fixture.told_fade now group _ _).bind (Traced.told_pure _))

theorem told_bounce : (engine.bounce now group).Told config := by
  rw [bounce]
  split_ifs
  · exact engine.told_launch now group _
  · exact Traced.told_pure engine

theorem told_advance : (engine.advance now).Told config :=
  (engine.fixture.told_advance now).bind
    (Traced.told_foldlM (fun engine group => engine.told_bounce now group) _ Group.all)

end Engine

/-! ## Memory -/

namespace Store

theorem isCalm_of_mem_notes {stored : Record} {event : Event} (member : event ∈ notes stored) :
    event.IsCalm config := by
  rcases List.mem_append.1 member with stale | restored
  · split at stale
    · cases stale
    · cases List.mem_singleton.1 stale
      exact ⟨rfl, rfl⟩
  · cases List.mem_singleton.1 restored
    exact ⟨rfl, rfl⟩

theorem Readies.isCalm {store ready : Store} {events : List Event}
    (readies : Readies store ready events) : ∀ event ∈ events, event.IsCalm config := by
  intro event member
  cases readies with
  | before =>
      cases member
  | now =>
      rcases List.mem_cons.1 member with rfl | note
      · exact ⟨rfl, rfl⟩
      · exact isCalm_of_mem_notes note

theorem Saves.told {store after : Store} {source : Source} {group : Group} {level : Level}
    {events : List Event} (saves : store.Saves source group level after events) :
    Event.Told config none events none := by
  cases saves with
  | unread =>
      exact .failure rfl (.record (.saveRead _ group source) (.nil none))
  | written readies =>
      exact (Event.Told.of_calm readies.isCalm).append (.calm ⟨rfl, rfl⟩ (.nil none))
  | unwritten readies =>
      refine (Event.Told.of_calm readies.isCalm).append ?_
      exact .failure rfl (.record (.saveWrite _ _ group source) (.nil none))

end Store

namespace Lamp

/-- A failure to read is told of where the record was asked for, which is here. -/
theorem told_restore {δ : Type} (lamp : Lamp δ) : lamp.restore.Told config := by
  rw [Traced.Told, restore_events]
  rcases lamp.store.load_cases with ⟨eeprom, _, failed⟩ | ⟨image, eeprom, _, _, read⟩
  · rw [failed]
    exact .failure rfl (.record (.load _) (.nil none))
  · rw [read, failureNotes, List.append_nil]
    exact .calm ⟨rfl, rfl⟩ (.of_calm fun event => Store.isCalm_of_mem_notes)

theorem told_remember {δ : Type} (lamp : Lamp δ) (source : Source) (group : Group) (level : Level) :
    (lamp.remember source group level).Told config := by
  rw [Traced.Told, remember_events]
  exact (lamp.store.saves_save source group level).told

/-! ## Radio -/

theorem told_send {δ : Type} (lamp : Lamp δ) {event : Bool → Event} {lost : LogRecord}
    (calm : (event true).IsCalm config) (tells : (event false).Tells config lost) :
    (lamp.send event lost).Told config := by
  rw [Traced.Told, send_events]
  exact Event.told_attempt calm tells lamp.radio.send.1

theorem told_report {δ : Type} (lamp : Lamp δ) (group : Group) (on : Bool) :
    (lamp.report group on).Told config :=
  lamp.told_send ⟨rfl, rfl⟩ (.status _ on)

theorem told_present {δ : Type} (lamp : Lamp δ) : lamp.present.Told config := by
  refine (Traced.told_emit ⟨rfl, rfl⟩).bind ?_
  refine (lamp.told_send ⟨rfl, rfl⟩ (.sketch _ _)).bind ?_
  refine (told_send _ ⟨rfl, rfl⟩ (.present _ _ _)).bind ?_
  exact told_send _ ⟨rfl, rfl⟩ (.present _ _ _)

/-! ## Operations -/

variable (lamp : Lamp Fader) (now : Nat)

theorem told_settle (group : Group) (level : Level) (on : Bool) :
    (lamp.settle now group level on).Told config :=
  ((lamp.engine.stop group).told_fade now group level _).bind (told_report _ group on)

theorem told_apply (op : Op) : (lamp.apply now op).Told config := by
  cases op with
  | boot =>
      exact lamp.told_restore.bind
        (Traced.told_foldlM (fun lamp group => lamp.told_settle now group .off false) _ Group.all)
  | limit source group level =>
      exact (lamp.told_remember source group level).bind (told_settle _ now group level true)
  | play group transition =>
      exact ((lamp.engine.program group transition).told_launch now group _).bind
        (told_report _ group true)
  | off group =>
      exact lamp.told_settle now group .off false
  | on group source =>
      exact lamp.told_settle now group _ true
  | advance =>
      exact (lamp.engine.told_advance now).bind (Traced.told_pure _)

theorem told_replay (history : List (Nat × Op)) : (lamp.replay history).Told config :=
  Traced.told_foldlM (fun lamp timed => lamp.told_apply timed.1 timed.2) lamp history

end Lamp

end MeshLight
