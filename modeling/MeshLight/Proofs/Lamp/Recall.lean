import MeshLight.Bench.ScriptedDriver
import MeshLight.Proofs.Lamp.Groups
import MeshLight.Proofs.Store.Mirroring

/-!
At which level a group is switched on. A lamp switches on at the level that its store has cached, and
the store is read by booting and by limits only. So a lamp that was booted while its memory could not be
read stays dark when it is switched on (`unread_level_stays_dark`), until a limit reads the record.
-/

namespace MeshLight

/-- The event goes out to the light or to the network, or is a note. -/
def Event.IsOutward : Event → Prop
  | log _ | command .. | duty .. | status .. => True
  | _ => False

theorem Event.IsOfLight.isOutward {event : Event} (light : event.IsOfLight) : event.IsOutward := by
  cases event with
  | log | command | duty =>
      exact trivial
  | read | write | status | sketch | present | received | sampled =>
      exact light.elim

theorem Event.IsOutward.reading? {event : Event} (outward : event.IsOutward) :
    event.reading? = none := by
  cases event with
  | read =>
      exact outward.elim
  | _ =>
      rfl

namespace Lamp

variable {δ : Type}

/-- What an operation does with the store. -/
def Op.call? : Op → Option Store.Op
  | boot => some .load
  | limit source group level => some (.save source group level)
  | play _ _ | off _ | on _ _ | advance => none

/-- The calls of the store in a history, oldest first. -/
def callsOf (history : List (Nat × Op)) : List Store.Op :=
  history.filterMap fun timed => timed.2.call?

theorem callsOf_cons (timed : Nat × Op) (rest : List (Nat × Op)) :
    callsOf (timed :: rest) = timed.2.call?.toList ++ callsOf rest :=
  filterMap_cons_toList _ timed rest

theorem emits_failureNotes (note : StorageError → LogRecord) (outcome : Except StorageError Unit) :
    ∀ event ∈ failureNotes note outcome, event.IsOutward := by
  cases outcome <;> simp [failureNotes, Event.IsOutward]

theorem emits_report (lamp : Lamp δ) (group : Group) (on : Bool) :
    (lamp.report group on).Emits Event.IsOutward := by
  rw [Traced.Emits, report, send_events]
  cases lamp.radio.send.1 <;> simp [Event.IsOutward]

variable [ChannelDriver δ] (lamp : Lamp δ) (now : Nat)

theorem emits_settle (group : Group) (level : Level) (on : Bool) :
    (lamp.settle now group level on).Emits Event.IsOutward := by
  refine (Traced.emits_bind _ _).2 ⟨?_, emits_report _ group on⟩
  exact (Engine.emits_fade _ now group level _).imp fun _ => Event.IsOfLight.isOutward

/-- An operation calls the store, if it has a call to make, and after that turns to light and network. -/
theorem exists_events_eq (op : Op) :
    ∃ rest,
      (lamp.apply now op).events =
          (op.call?.elim [] fun call => (lamp.store.step call).events) ++ rest ∧
        ∀ event ∈ rest, event.IsOutward := by
  cases op with
  | boot =>
      let restored := lamp.restore.value
      let colored := (restored.settle now .color .off false).value
      refine ⟨failureNotes .loadFailed lamp.store.load.value.1 ++
        ((restored.settle now .color .off false).events ++
          (colored.settle now .white .off false).events), ?_, ?_⟩
      · simp [apply, boot, Group.all, off, restore_events, Op.call?, Store.step, Store.apply,
          restored, colored]
      · exact List.forall_mem_append.2 ⟨emits_failureNotes _ _, List.forall_mem_append.2
          ⟨emits_settle _ now _ _ _, emits_settle _ now _ _ _⟩⟩
  | limit source group level =>
      refine ⟨failureNotes (.saveFailed group source) (lamp.store.save source group level).value.1 ++
        ((lamp.remember source group level).value.settle now group level true).events, ?_, ?_⟩
      · simp [apply, limit, remember_events, Op.call?, Store.step, Store.apply]
      · exact List.forall_mem_append.2 ⟨emits_failureNotes _ _, emits_settle _ now _ _ _⟩
  | play group transition =>
      have launched := (lamp.engine.program group transition).emits_launch now group
        ((lamp.engine.program group transition).run group).started
      have outward : (lamp.play now group transition).Emits Event.IsOutward :=
        (Traced.emits_bind _ _).2
          ⟨launched.imp fun _ => Event.IsOfLight.isOutward, emits_report _ group true⟩
      exact ⟨_, rfl, outward⟩
  | off group =>
      exact ⟨_, rfl, lamp.emits_settle now group .off false⟩
  | on group source =>
      exact ⟨_, rfl, lamp.emits_settle now group (lamp.store.level source) true⟩
  | advance =>
      have outward := (lamp.engine.emits_advance now).imp fun _ => Event.IsOfLight.isOutward
      exact ⟨_, lamp.advance_events now, outward⟩

theorem store_apply (op : Op) :
    (lamp.apply now op).value.store =
      op.call?.elim lamp.store fun call => (lamp.store.step call).value := by
  cases op with
  | boot =>
      simp [apply, boot, Group.all, off, settle_value, restore_value, Op.call?, Store.step,
        Store.apply]
  | limit source group level =>
      rw [apply, limit_value]
      rfl
  | play group transition =>
      rw [apply, play_value]
      rfl
  | off group =>
      rw [apply, off, settle_value]
      rfl
  | on group source =>
      rw [apply, on, settle_value]
      rfl
  | advance =>
      rfl

theorem readings_apply (op : Op) :
    Event.readings (lamp.apply now op).events =
      op.call?.elim [] fun call => Event.readings (lamp.store.step call).events := by
  obtain ⟨rest, split, outward⟩ := lamp.exists_events_eq now op
  have quiet : Event.readings rest = [] :=
    List.filterMap_eq_nil_iff.2 fun event member => (outward event member).reading?
  rw [split, Event.readings_append, quiet, List.append_nil]
  cases op.call? <;> rfl

/-- The store of a lamp has a history of its own, in which nothing but its calls matters. -/
theorem store_replay (history : List (Nat × Op)) :
    (lamp.replay history).value.store = (lamp.store.replay (callsOf history)).value ∧
      Event.readings (lamp.replay history).events =
        Event.readings (lamp.store.replay (callsOf history)).events := by
  induction history generalizing lamp with
  | nil =>
      exact ⟨rfl, rfl⟩
  | cons timed rest inductionHypothesis =>
      obtain ⟨restStore, restReadings⟩ := inductionHypothesis (lamp.apply timed.1 timed.2).value
      have nextStore := lamp.store_apply timed.1 timed.2
      have nextReadings := lamp.readings_apply timed.1 timed.2
      rw [replay_cons, Traced.bind_value, Traced.bind_events, Event.readings_append, restStore,
        restReadings, nextStore, nextReadings, callsOf_cons]
      cases timed.2.call? with
      | none =>
          exact ⟨rfl, rfl⟩
      | some call =>
          simp only [Option.toList_some, List.singleton_append, Store.replay_cons,
            Traced.bind_value, Traced.bind_events, Event.readings_append]
          exact ⟨rfl, rfl⟩

theorem commandsTo_on (group : Group) (source : Source) :
    Event.commandsTo group (lamp.on now group source).events =
      group.channels.map fun channel =>
        (channel, .fade ((lamp.store.level source).component channel) lamp.config.fadeTimeMs) := by
  have said := lamp.dispatches_apply now (.on group source)
  rw [apply] at said
  rw [Event.commandsTo, Event.heard, said, dispatchesOf, settleDispatches, List.filterMap_append,
    Dispatch.filterMap_commandTo?_ofOrders Fixture.group_of_mem_fadeCommands, if_pos rfl]
  exact List.append_nil _

/-- Take a memory that holds a record of the current version and takes every write, while reads may fail
at any time. After a boot and any history, a group that is switched on is told to fade to its components
of the level that the memory holds for the source, provided that some read has succeeded by then. Until
that is the case it is told to fade to darkness, and the memory holds what it held before. -/
theorem switches_on_at_stored_level (config : Config) {eeprom : Eeprom} {image : Record.Image}
    (fixture : Fixture δ) (radio : Radio)
    (block : eeprom.block? config.storageOffset.toNat Record.size = some image)
    (current : (Record.decode image).version = 2)
    (takesWrites : eeprom.TakesWrites) (bootedAt : Nat) (history : List (Nat × Op)) :
    let run := (assemble config fixture eeprom radio).replay ((bootedAt, .boot) :: history)
    let wasRead := true ∈ Event.readings run.events
    ∃ stored,
      run.value.store.eeprom.block? config.storageOffset.toNat Record.size = some stored ∧
      (Record.decode stored).version = 2 ∧
      (¬ wasRead → stored = image) ∧
      ∀ now group source,
        Event.commandsTo group (run.value.on now group source).events =
          group.channels.map fun channel =>
            (channel, .fade
              ((if wasRead then (Record.decode stored).level source else .off).component channel)
              config.fadeTimeMs) := by
  intro run wasRead
  let calls := callsOf ((bootedAt, .boot) :: history)
  have fresh := Store.mirrors_ofEeprom takesWrites block
  obtain ⟨storeEq, readingsEq⟩ :=
    (assemble config fixture eeprom radio).store_replay ((bootedAt, .boot) :: history)
  have mirrors : run.value.store.Mirrors config.storageOffset image := by
    rw [storeEq]
    exact fresh.replay current calls
  have loaded_iff : run.value.store.loaded = true ↔ wasRead := by
    rw [storeEq, Store.loaded_replay_iff, ← readingsEq]
    exact or_iff_right Bool.false_ne_true
  have configEq : run.value.config = config := config_replay _ _
  refine ⟨_, mirrors.block_eq, ?_⟩
  by_cases loaded : run.value.store.loaded = true
  · rw [if_pos loaded, Record.decode_encode]
    refine ⟨(mirrors.read loaded).1, fun unread => absurd (loaded_iff.1 loaded) unread, ?_⟩
    intro now group source
    rw [commandsTo_on, configEq, if_pos (loaded_iff.1 loaded)]
    rfl
  · have dark : run.value.store.record = .blank :=
      (mirrors.unread (eq_false_of_ne_true loaded)).1
    rw [if_neg loaded]
    refine ⟨current, fun _ => rfl, ?_⟩
    intro now group source
    rw [commandsTo_on, configEq, if_neg (mt loaded_iff.2 loaded), Store.level, dark]
    cases source <;> rfl

/-- The read at boot fails. Limiting white for the network reads the record, and then colour is switched
on at the level that the memory holds for the button. -/
theorem limit_recalls_button_level :
    let driver := ScriptedDriver.ofScript .complete
    let eeprom : Eeprom :=
      { bytes := #[2, 17, 34, 51, 68, 85, 102, 119, 136]
        readFaults := { fails := fun use => use == 0 }
        writeFaults := .always false }
    let image : Record.Image := #v[2, 17, 34, 51, 68, 85, 102, 119, 136]
    let lamp := assemble {} ⟨driver, driver, driver, driver⟩ eeprom ⟨[], .always true⟩
    let run := lamp.replay [(0, .boot), (5, .limit .external .white (.ofWhite 66))]
    eeprom.block? (0 : UInt32).toNat Record.size = some image ∧
      (Record.decode image).version = 2 ∧ eeprom.TakesWrites ∧
      Event.readings run.events = [false, true] ∧
      Event.commandsTo .color (run.value.on 9 .color .button).events =
        [(.red, .fade 85 3000), (.green, .fade 102 3000), (.blue, .fade 119 3000)] := by
  intro driver eeprom image lamp run
  have block : eeprom.block? (0 : UInt32).toNat Record.size = some image := by decide
  have current : (Record.decode image).version = 2 := by decide
  have takesWrites : eeprom.TakesWrites := fun _ => rfl
  have readings : Event.readings run.events = [false, true] := by decide
  have wasRead : true ∈ Event.readings run.events := by
    rw [readings]
    decide
  obtain ⟨stored, held, _, _, commands⟩ := switches_on_at_stored_level {}
    ⟨driver, driver, driver, driver⟩ ⟨[], .always true⟩ block current takesWrites 0
    [(5, .limit .external .white (.ofWhite 66))]
  have storedEq : stored = #v[2, 17, 34, 51, 66, 85, 102, 119, 136] := by
    have now : run.value.store.eeprom.block? (0 : UInt32).toNat Record.size =
        some #v[2, 17, 34, 51, 66, 85, 102, 119, 136] := by decide
    exact Option.some.inj (held.symm.trans now)
  refine ⟨block, current, takesWrites, readings, ?_⟩
  rw [commands, if_pos wasRead, storedEq]
  rfl

/-- The read at boot fails, and although the memory can be read again and holds 136 for the button, white
is told to fade to darkness when the button switches it on. -/
theorem unread_level_stays_dark :
    let driver := ScriptedDriver.ofScript .complete
    let eeprom : Eeprom :=
      { bytes := #[2, 17, 34, 51, 68, 85, 102, 119, 136]
        readFaults := { fails := fun use => use == 0 }
        writeFaults := .always false }
    let lamp := assemble {} ⟨driver, driver, driver, driver⟩ eeprom ⟨[], .always false⟩
    let booted := (lamp.replay [(0, .boot)]).value
    let stored : Record.Image := #v[2, 17, 34, 51, 68, 85, 102, 119, 136]
    eeprom.TakesWrites ∧
      (booted.store.eeprom.read 0 Record.size).1 = some stored ∧
      (Record.decode stored).version = 2 ∧
      ((Record.decode stored).level .button).component .white = 136 ∧
      Event.commandsTo .white (booted.on 0 .white .button).events = [(.white, .fade 0 3000)] :=
  ⟨fun _ => rfl, by decide, by decide, by decide, by decide⟩

end Lamp

end MeshLight
