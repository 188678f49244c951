import MeshLight.Proofs.Event.Origin
import MeshLight.Proofs.Lamp.Engine

/-!
What the lamp says to the drivers of its channels and to the network. It is fixed beforehand by what was
asked and by the state of the lamp: whatever fails on the way, an operation goes on to its last command
and its report.
-/

namespace MeshLight

/-- The memory has nothing to say to anybody. -/
theorem Event.IsOfMemory.dispatch?_eq_none {event : Event} (memory : event.IsOfMemory) :
    event.dispatch? = none := by
  cases event with
  | log | read | write =>
      rfl
  | command | duty | status | sketch | present | received | sampled =>
      exact memory.elim

theorem Traced.Emits.dispatches_eq_nil_of_memory {α : Type} {result : Traced Event α}
    (emits : result.Emits Event.IsOfMemory) : Event.dispatches result.events = [] :=
  List.filterMap_eq_nil_iff.2 fun event member => (emits event member).dispatch?_eq_none

/-! ## Memory -/

/-- What a store can come to when a level is saved, and what is seen of it. A record that cannot be read
is neither changed nor written; else the level is remembered, even if it cannot be written. -/
inductive Store.Saves (store : Store) (source : Source) (group : Group) (level : Level) :
    Store → List Event → Prop
  | unread {eeprom : Eeprom} (fresh : store.loaded = false)
      (same : eeprom.bytes = store.eeprom.bytes) :
      Saves store source group level { store with eeprom }
        [.read store.offset false, .log (.saveFailed group source .read)]
  | written {ready : Store} {readings : List Event} {eeprom : Eeprom}
      (readies : store.Readies ready readings)
      (changed : eeprom.bytes = ready.eeprom.overwrite ready.offset.toNat
        (ready.record.remember source group level).encode) :
      Saves store source group level
        { ready with eeprom, record := ready.record.remember source group level }
        (readings ++ [.write ready.offset (ready.record.remember source group level).encode true])
  | unwritten {ready : Store} {readings : List Event} {eeprom : Eeprom}
      (readies : store.Readies ready readings)
      (same : eeprom.bytes = ready.eeprom.bytes) :
      Saves store source group level
        { ready with eeprom, record := ready.record.remember source group level }
        (readings ++ [.write ready.offset (ready.record.remember source group level).encode false,
          .log (.saveFailed group source .write)])

theorem Store.saves_save (store : Store) (source : Source) (group : Group) (level : Level) :
    let saved := store.save source group level
    store.Saves source group level saved.value.2
      (saved.events ++ Lamp.failureNotes (.saveFailed group source) saved.value.1) := by
  intro saved
  rcases store.save_cases source group level with
    ⟨fresh, eeprom, same, refused⟩ | ⟨ready, readings, readies, savedEq⟩
  · rw [show saved = _ from refused]
    exact .unread fresh same
  · rw [show saved = _ from savedEq, List.append_assoc]
    rcases ready.commit_cases source group level with
      ⟨eeprom, changed, kept⟩ | ⟨eeprom, same, lost⟩
    · rw [kept]
      exact .written readies changed
    · rw [lost]
      exact .unwritten readies same

/-! ## Operations -/

namespace Lamp

variable {δ : Type}

theorem emits_restore (lamp : Lamp δ) : lamp.restore.Emits Event.IsOfMemory := by
  rw [Traced.Emits, restore_events]
  rcases lamp.store.load_cases with ⟨eeprom, _, failed⟩ | ⟨image, eeprom, _, _, read⟩
  · rw [failed]
    simp [failureNotes, Event.IsOfMemory]
  · rw [read, failureNotes, List.append_nil]
    refine List.forall_mem_cons.2 ⟨trivial, ?_⟩
    intro event member
    obtain ⟨record, rfl⟩ := Store.exists_log_of_mem_notes member
    exact trivial

theorem emits_remember (lamp : Lamp δ) (source : Source) (group : Group) (level : Level) :
    (lamp.remember source group level).Emits Event.IsOfMemory := by
  have saves := lamp.store.emits_save source group level
  rcases saved : (lamp.store.save source group level).value with ⟨outcome, store⟩
  cases outcome <;> simp [remember, saved, saves, Event.IsOfMemory]

theorem dispatches_send (lamp : Lamp δ) (event : Bool → Event) (lost : LogRecord) :
    Event.dispatches (lamp.send event lost).events =
      Event.dispatches [event lamp.radio.send.1] := by
  rw [send_events]
  cases lamp.radio.send.1 <;> rfl

/-- What a node tells the network about itself. -/
def announcements (config : Config) : List Dispatch :=
  [.sketch config.sketchName config.sketchVersion,
    .present config.colorSensor .rgbLight "Color LEDs",
    .present config.whiteSensor .light "White LED"]

theorem config_present (lamp : Lamp δ) : lamp.present.value.config = lamp.config := by
  simp only [present, Traced.bind_value, send_value]

theorem dispatches_present (lamp : Lamp δ) :
    Event.dispatches lamp.present.events = announcements lamp.config := by
  simp only [present, Traced.bind_events, Event.dispatches_append, dispatches_send, send_value]
  rfl

variable [ChannelDriver δ] (lamp : Lamp δ) (now : Nat)

/-- Telling a group to fade to a level, and the network that it is on or off. -/
def settleDispatches (group : Group) (level : Level) (on : Bool) : List Dispatch :=
  Dispatch.ofOrders (Fixture.fadeCommands group level lamp.config.fadeTimeMs) ++
    [.status (lamp.config.sensor group) on]

/-- What an operation has to say from its first command to its report. -/
def dispatchesOf : Op → List Dispatch
  | .boot => Group.all.flatMap fun group => lamp.settleDispatches group .off false
  | .limit _ group level => lamp.settleDispatches group level true
  | .play group transition =>
      Dispatch.ofOrders
          (Fixture.sweepCommands group transition.start transition.stop transition.durationMs) ++
        [.status (lamp.config.sensor group) true]
  | .off group => lamp.settleDispatches group .off false
  | .on group source => lamp.settleDispatches group (lamp.store.level source) true
  | .advance => Dispatch.ofOrders (Group.all.flatMap (lamp.engine.polled now).turnCommands)

theorem dispatches_settle (group : Group) (level : Level) (on : Bool) :
    Event.dispatches (lamp.settle now group level on).events =
      lamp.settleDispatches group level on := by
  rw [settle, Traced.bind_events, Event.dispatches_append, Engine.dispatches_fade, report,
    dispatches_send]
  rfl

theorem dispatches_apply (op : Op) :
    Event.dispatches (lamp.apply now op).events = lamp.dispatchesOf now op := by
  cases op with
  | boot =>
      have quiet := lamp.emits_restore.dispatches_eq_nil_of_memory
      simp [apply, boot, off, Group.all, quiet, dispatches_settle, dispatchesOf, settle_value,
        restore_value, settleDispatches]
  | limit source group level =>
      have quiet := (lamp.emits_remember source group level).dispatches_eq_nil_of_memory
      rw [apply, limit, Traced.bind_events, Event.dispatches_append, quiet, List.nil_append,
        dispatches_settle, remember_value]
      rfl
  | play group transition =>
      rw [apply, play, Traced.bind_events, Event.dispatches_append, Engine.start,
        Engine.dispatches_launch, report, dispatches_send]
      simp [Engine.program, Run.started, Run.origin, Run.goal, Transition.origin, Transition.goal,
        Direction.flip, dispatchesOf, Event.dispatches, Event.dispatch?]
  | off group =>
      exact lamp.dispatches_settle now group .off false
  | on group source =>
      exact lamp.dispatches_settle now group _ true
  | advance =>
      rw [apply, advance, Traced.bind_events, Traced.pure_events, List.append_nil,
        Engine.dispatches_advance, Engine.dispatches_tick]
      rfl

/-- A limit saves the level, whatever comes of that, and goes on as if there had been nothing to save. -/
theorem exists_limit_eq (source : Source) (group : Group) (level : Level) :
    let settled := lamp.settle now group level true
    ∃ store saving, lamp.store.Saves source group level store saving ∧
      lamp.limit now source group level = ⟨{ settled.value with store }, saving ++ settled.events⟩ := by
  intro settled
  refine ⟨_, _, lamp.store.saves_save source group level, ?_⟩
  apply Traced.ext
  · simp only [settled, limit_value, settle_value]
  · simp only [settled, limit, settle, report, Traced.bind_events, remember_value, remember_events,
      send_events]

/-- What operations have to say one after the other. -/
def dispatchesAlong (lamp : Lamp δ) : List (Nat × Op) → List Dispatch
  | [] => []
  | (now, op) :: rest => lamp.dispatchesOf now op ++ (lamp.apply now op).value.dispatchesAlong rest

theorem dispatches_replay (history : List (Nat × Op)) :
    Event.dispatches (lamp.replay history).events = lamp.dispatchesAlong history := by
  induction history generalizing lamp with
  | nil =>
      rfl
  | cons timed rest inductionHypothesis =>
      rw [replay_cons, Traced.bind_events, Event.dispatches_append, dispatches_apply,
        inductionHypothesis]
      rfl

end Lamp

end MeshLight
