import MeshLight.Proofs.Lamp.Groups

/-!
What an operation of the lamp does to the world. Whatever it is and whatever fails, an operation on a
group makes one report, on the sensor of that group, and that is the last thing that it does. The
messages that wait at the radio have no part in it.
-/

namespace MeshLight

namespace Event

/-- The event is more than a note that is taken. -/
def isDeed : Event → Bool
  | log _ | received _ => false
  | _ => true

/-- What was done in a trace, oldest first. -/
def deeds (events : List Event) : List Event :=
  events.filter isDeed

@[simp]
theorem deeds_append (first second : List Event) :
    deeds (first ++ second) = deeds first ++ deeds second :=
  List.filter_append first second

/-- To say something is a deed. -/
theorem dispatches_deeds (events : List Event) : dispatches (deeds events) = dispatches events := by
  rw [dispatches, dispatches, deeds, List.filterMap_filter]
  congr 1
  funext event
  cases event <;> rfl

theorem reporters_deeds (events : List Event) : reporters (deeds events) = reporters events := by
  rw [reporters, heard, dispatches_deeds]
  rfl

/-- The event is part of what an operation does before it makes a report. -/
def IsOfWork (event : Event) : Prop :=
  event.IsOfLight ∨ event.IsOfMemory

end Event

namespace Traced

variable {α : Type} {property : Event → Prop} {result : Traced Event α}

theorem Emits.deeds (emits : result.Emits property) :
    ∀ event ∈ Event.deeds result.events, property event :=
  fun event member => emits event (List.mem_filter.1 member).1

end Traced

namespace Lamp

variable {δ : Type}

theorem deeds_report (lamp : Lamp δ) (group : Group) (on : Bool) :
    Event.deeds (lamp.report group on).events =
      [.status (lamp.config.sensor group) on lamp.radio.send.1] := by
  rcases sent : lamp.radio.send with ⟨succeeded, radio⟩
  cases succeeded <;> simp [report, send, sent, Event.deeds, List.filter_cons, Event.isDeed]

variable [ChannelDriver δ] (lamp : Lamp δ) (now : Nat)

/-- An operation does its work on a group and then makes a report, and the work leaves the radio alone. -/
structure Reports (group : Group) (on : Bool) (result work : Traced Event (Lamp δ)) : Prop where
  result_eq : result = work >>= fun done => done.report group on
  config_eq : work.value.config = lamp.config
  radio_eq : work.value.radio = lamp.radio
  emits : work.Emits Event.IsOfWork

theorem reports_settle (group : Group) (level : Level) (on : Bool) :
    let faded := (lamp.engine.stop group).fade now group level lamp.config.fadeTimeMs
    lamp.Reports group on (lamp.settle now group level on)
      ⟨{ lamp with engine := faded.value }, faded.events⟩ where
  result_eq := rfl
  config_eq := rfl
  radio_eq := rfl
  emits := ((lamp.engine.stop group).emits_fade now group level _).imp fun _ => Or.inl

theorem reports_apply {op : Op} {group : Group} (onGroup : op.target? = some group) :
    ∃ on work, lamp.Reports group on (lamp.apply now op) work := by
  cases op with
  | boot | advance =>
      cases onGroup
  | off asked =>
      cases onGroup
      exact ⟨false, _, lamp.reports_settle now group .off false⟩
  | on asked source =>
      cases onGroup
      exact ⟨true, _, lamp.reports_settle now group (lamp.store.level source) true⟩
  | limit source asked level =>
      cases onGroup
      let remembered := lamp.remember source group level
      let faded := (remembered.value.engine.stop group).fade now group level
        remembered.value.config.fadeTimeMs
      have configEq : remembered.value.config = lamp.config := by
        simp only [remembered, remember_value]
      have radioEq : remembered.value.radio = lamp.radio := by
        simp only [remembered, remember_value]
      refine ⟨true, ⟨{ remembered.value with engine := faded.value },
        remembered.events ++ faded.events⟩, ?_, configEq, radioEq, ?_⟩
      · exact Traced.ext rfl (List.append_assoc _ _ _).symm
      · refine List.forall_mem_append.2 ⟨?_, ?_⟩
        · exact (lamp.emits_remember source group level).imp fun _ => Or.inr
        · exact (Engine.emits_fade _ now group level _).imp fun _ => Or.inl
  | play asked transition =>
      cases onGroup
      let engine := lamp.engine.program group transition
      let launched := engine.launch now group (engine.run group).started
      refine ⟨true, ⟨{ lamp with engine := launched.value }, launched.events⟩, rfl, rfl, rfl, ?_⟩
      exact (engine.emits_launch now group _).imp fun _ => Or.inl

theorem deeds_apply_of_target? {op : Op} {group : Group} (onGroup : op.target? = some group) :
    ∃ work on,
      Event.deeds (lamp.apply now op).events =
        work ++ [.status (lamp.config.sensor group) on lamp.radio.send.1] ∧
      ∀ event ∈ work, event.IsOfWork := by
  obtain ⟨on, work, reports⟩ := lamp.reports_apply now onGroup
  refine ⟨Event.deeds work.events, on, ?_, reports.emits.deeds⟩
  rw [reports.result_eq, Traced.bind_events, Event.deeds_append, deeds_report, reports.config_eq,
    reports.radio_eq]

/-! ## Waiting messages -/

section Inbound

variable {δ : Type}

/-- The lamp with other messages waiting at its radio. -/
def withInbound (lamp : Lamp δ) (messages : List Message) : Lamp δ :=
  { lamp with radio := { lamp.radio with inbound := messages } }

variable (lamp : Lamp δ) (messages : List Message)

theorem send_withInbound (event : Bool → Event) (lost : LogRecord) :
    (lamp.withInbound messages).send event lost =
      (·.withInbound messages) <$> lamp.send event lost := by
  apply Traced.ext
  · rw [Traced.map_value, send_value, send_value]
    rfl
  · rw [Traced.map_events, send_events, send_events]
    rfl

theorem restore_withInbound :
    (lamp.withInbound messages).restore = (·.withInbound messages) <$> lamp.restore := by
  apply Traced.ext
  · rw [Traced.map_value, restore_value, restore_value]
    rfl
  · rw [Traced.map_events, restore_events, restore_events]
    rfl

theorem remember_withInbound (source : Source) (group : Group) (level : Level) :
    (lamp.withInbound messages).remember source group level =
      (·.withInbound messages) <$> lamp.remember source group level := by
  apply Traced.ext
  · rw [Traced.map_value, remember_value, remember_value]
    rfl
  · rw [Traced.map_events, remember_events, remember_events]
    rfl

variable [ChannelDriver δ] (now : Nat)

theorem settle_withInbound (group : Group) (level : Level) (on : Bool) :
    (lamp.withInbound messages).settle now group level on =
      (·.withInbound messages) <$> lamp.settle now group level on := by
  simp only [settle, map_bind]
  apply bind_congr
  intro engine
  exact send_withInbound { lamp with engine } messages _ _

/-- No operation looks at the messages that wait. -/
theorem apply_withInbound (op : Op) :
    (lamp.withInbound messages).apply now op =
      (·.withInbound messages) <$> lamp.apply now op := by
  cases op with
  | boot =>
      simp only [apply, boot, off, restore_withInbound, Group.all, List.foldlM_cons, List.foldlM_nil,
        bind_pure, map_bind, bind_map_left, settle_withInbound]
  | limit source group level =>
      simp only [apply, limit, remember_withInbound, map_bind, bind_map_left, settle_withInbound]
  | play group transition =>
      simp only [apply, play, map_bind]
      apply bind_congr
      intro engine
      exact send_withInbound { lamp with engine } messages _ _
  | off group =>
      exact lamp.settle_withInbound messages now group .off false
  | on group source =>
      exact lamp.settle_withInbound messages now group (lamp.store.level source) true
  | advance =>
      simp only [apply, advance, map_bind, map_pure]
      rfl

theorem inbound_apply (op : Op) :
    (lamp.apply now op).value.radio.inbound = lamp.radio.inbound :=
  congrArg (fun result => result.value.radio.inbound)
    (lamp.apply_withInbound lamp.radio.inbound now op)

theorem inbound_replay (history : List (Nat × Op)) :
    (lamp.replay history).value.radio.inbound = lamp.radio.inbound := by
  induction history generalizing lamp with
  | nil =>
      rfl
  | cons timed rest inductionHypothesis =>
      rw [replay_cons, Traced.bind_value, inductionHypothesis, inbound_apply]

end Inbound

end Lamp

end MeshLight
