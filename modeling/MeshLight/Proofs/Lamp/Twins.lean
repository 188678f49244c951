import MeshLight.Proofs.Engine.Twins
import MeshLight.Proofs.Lamp.Engine
import MeshLight.Proofs.Store.Calls

/-!
Lamps whose devices differ in their luck. Twins stay twins whatever operation they carry out, since no
operation asks whether a report was heard or a record was written. Their memories may come to hold
different bytes; that is never found out, because a memory that has been read is not read again.
-/

namespace MeshLight

namespace Eeprom

variable {first second : Eeprom} (offset : Nat)

/-- What is read depends on the bytes and on the failures of reading, and on nothing else. -/
theorem read_congr (bytes : first.bytes = second.bytes)
    (readFaults : first.readFaults = second.readFaults) (length : Nat) :
    (first.read offset length).1 = (second.read offset length).1 ∧
      (first.read offset length).2.readFaults = (second.read offset length).2.readFaults := by
  simp only [read, block?_congr bytes, readFaults, and_self]

theorem readFaults_write (eeprom : Eeprom) {length : Nat} (block : Vector UInt8 length) :
    (eeprom.write offset block).2.readFaults = eeprom.readFaults := by
  simp only [write]
  split <;> rfl

end Eeprom

namespace Store

/-- Two stores have the same record, and as long as it was not read they will read the same. -/
structure Twins (first second : Store) : Prop where
  offset_eq : first.offset = second.offset
  record_eq : first.record = second.record
  loaded_eq : first.loaded = second.loaded
  readFaults_eq : first.eeprom.readFaults = second.eeprom.readFaults
  bytes_eq : first.loaded = false → first.eeprom.bytes = second.eeprom.bytes

namespace Twins

variable {first second : Store} (twins : first.Twins second)
include twins

theorem level_eq (source : Source) : first.level source = second.level source := by
  rw [level, level, twins.record_eq]

/-- Two memories that hold the same are read with the same outcome. -/
theorem load (bytes : first.eeprom.bytes = second.eeprom.bytes) :
    Traced.Matches Event.attempt?
      (fun first second => first.1 = second.1 ∧ first.2.Twins second.2 ∧
        (first.1 = .ok () → first.2.loaded = true))
      first.load second.load := by
  rcases second with ⟨offset, eeprom, record, loaded⟩
  obtain rfl : first.offset = offset := twins.offset_eq
  obtain rfl : first.record = record := twins.record_eq
  obtain rfl : first.loaded = loaded := twins.loaded_eq
  obtain ⟨image, faults⟩ :=
    Eeprom.read_congr first.offset.toNat bytes twins.readFaults_eq Record.size
  simp only [Store.load]
  rw [image]
  refine Traced.matches_same_bind _ ?_
  cases (eeprom.read first.offset.toNat Record.size).1 with
  | none =>
      refine Traced.matches_pure ⟨rfl, ⟨rfl, rfl, rfl, faults, fun _ => bytes⟩, ?_⟩
      intro succeeded
      cases succeeded
  | some image =>
      -- The record is noted to be of another version, or not; both stores note the same.
      simp only
      split
      case isTrue current =>
        refine Traced.matches_same_bind _ ?_
        exact Traced.matches_pure ⟨rfl, ⟨rfl, rfl, rfl, faults, fun _ => bytes⟩, fun _ => rfl⟩
      case isFalse stale =>
        refine Traced.matches_same_bind _ (Traced.matches_same_bind _ ?_)
        exact Traced.matches_pure ⟨rfl, ⟨rfl, rfl, rfl, faults, fun _ => bytes⟩, fun _ => rfl⟩

/-- A store that was read before may write, and whether that succeeds will not be noticed. -/
theorem commit (loaded : first.loaded = true) (source : Source) (group : Group) (level : Level) :
    Traced.Matches Event.attempt? (fun first second => first.2.Twins second.2)
      (first.commit source group level) (second.commit source group level) where
  value := by
    refine ⟨twins.offset_eq, ?_, twins.loaded_eq, ?_, ?_⟩
    · exact congrArg (Record.remember · source group level) twins.record_eq
    · exact (Eeprom.readFaults_write _ _ _).trans
        (twins.readFaults_eq.trans (Eeprom.readFaults_write _ _ _).symm)
    · intro unread
      exact absurd (loaded.symm.trans unread) (by decide)
  events := by
    simp [Store.commit, Event.attempt?, twins.offset_eq, twins.record_eq]

theorem save (source : Source) (group : Group) (level : Level) :
    Traced.Matches Event.attempt? (fun first second => first.2.Twins second.2)
      (first.save source group level) (second.save source group level) := by
  rw [Store.save, Store.save, ← twins.loaded_eq]
  cases loaded : first.loaded with
  | true =>
      exact twins.commit loaded source group level
  | false =>
      refine (twins.load (twins.bytes_eq loaded)).bind ?_
      rintro ⟨outcome, stores, readied⟩
      generalize first.load.value = firstReached at outcome stores readied ⊢
      generalize second.load.value = secondReached at outcome stores ⊢
      obtain ⟨firstOutcome, firstStore⟩ := firstReached
      obtain ⟨secondOutcome, secondStore⟩ := secondReached
      obtain rfl : firstOutcome = secondOutcome := outcome
      cases firstOutcome with
      | ok =>
          exact stores.commit (readied rfl) source group level
      | error error =>
          exact Traced.matches_pure stores

end Twins

end Store

namespace Lamp

/-- Two lamps differ in nothing but the luck of their devices and what their memories have come to hold
since they were read. -/
structure Twins (first second : Lamp Fader) : Prop where
  config_eq : first.config = second.config
  engine : first.engine.Twins second.engine
  store : first.store.Twins second.store
  inbound_eq : first.radio.inbound = second.radio.inbound

theorem attempts_failureNotes (note : StorageError → LogRecord)
    (outcome : Except StorageError Unit) :
    (failureNotes note outcome).filterMap Event.attempt? = [] := by
  cases outcome <;> rfl

/-- Whatever comes of it, what sending attempts is to send once. -/
theorem attempts_send (lamp : Lamp Fader) {event : Bool → Event} {attempt : Event}
    (attempts : ∀ sent, (event sent).attempt? = some attempt) (lost : LogRecord) :
    (lamp.send event lost).events.filterMap Event.attempt? = [attempt] := by
  rw [send_events, List.filterMap_cons_some (attempts _)]
  split <;> rfl

namespace Twins

variable {first second : Lamp Fader} (twins : first.Twins second)
include twins

theorem isOn_eq : first.isOn = second.isOn :=
  twins.engine.fixture.isLit_eq

theorem withEngine {firstEngine secondEngine : Engine Fader}
    (engines : firstEngine.Twins secondEngine) :
    { first with engine := firstEngine }.Twins { second with engine := secondEngine } :=
  ⟨twins.config_eq, engines, twins.store, twins.inbound_eq⟩

theorem withInbound (inbound : List Message) :
    { first with radio := { first.radio with inbound } }.Twins
      { second with radio := { second.radio with inbound } } :=
  ⟨twins.config_eq, twins.engine, twins.store, rfl⟩

/-- Sending uses the radio up by one try, whether it is heard or not. -/
theorem send {event : Bool → Event} {attempt : Event}
    (attempts : ∀ sent, (event sent).attempt? = some attempt) (lost : LogRecord) :
    Traced.Matches Event.attempt? Twins (first.send event lost) (second.send event lost) where
  value := by
    rw [send_value, send_value]
    exact ⟨twins.config_eq, twins.engine, twins.store, twins.inbound_eq⟩
  events := by
    rw [attempts_send first attempts, attempts_send second attempts]

theorem present :
    Traced.Matches Event.attempt? Twins first.present second.present := by
  rw [Lamp.present, Lamp.present, twins.config_eq]
  refine Traced.matches_same_bind _ ?_
  refine (twins.send (fun _ => rfl) _).bind fun named => ?_
  exact (named.send (fun _ => rfl) _).bind fun colored => colored.send (fun _ => rfl) _

theorem report (group : Group) (on : Bool) :
    Traced.Matches Event.attempt? Twins (first.report group on) (second.report group on) := by
  rw [Lamp.report, Lamp.report, twins.config_eq]
  exact twins.send (fun _ => rfl) _

theorem remember (source : Source) (group : Group) (level : Level) :
    Traced.Matches Event.attempt? Twins (first.remember source group level)
      (second.remember source group level) where
  value := by
    rw [remember_value, remember_value]
    exact ⟨twins.config_eq, twins.engine, (twins.store.save source group level).value,
      twins.inbound_eq⟩
  events := by
    rw [remember_events, remember_events, List.filterMap_append, List.filterMap_append,
      attempts_failureNotes, attempts_failureNotes, (twins.store.save source group level).events]

theorem restore (bytes : first.store.eeprom.bytes = second.store.eeprom.bytes) :
    Traced.Matches Event.attempt? Twins first.restore second.restore where
  value := by
    rw [restore_value, restore_value]
    exact ⟨twins.config_eq, twins.engine, (twins.store.load bytes).value.2.1, twins.inbound_eq⟩
  events := by
    rw [restore_events, restore_events, List.filterMap_append, List.filterMap_append,
      attempts_failureNotes, attempts_failureNotes, (twins.store.load bytes).events]

variable (now : Nat)

theorem settle (group : Group) (level : Level) (on : Bool) :
    Traced.Matches Event.attempt? Twins (first.settle now group level on)
      (second.settle now group level on) := by
  have stopped := twins.engine.stop group
  refine Traced.Matches.bind ?_ fun faded => (twins.withEngine faded).report group on
  rw [twins.config_eq]
  exact stopped.fade now group level second.config.fadeTimeMs

theorem off (group : Group) :
    Traced.Matches Event.attempt? Twins (first.off now group) (second.off now group) :=
  twins.settle now group .off false

theorem on (group : Group) (source : Source) :
    Traced.Matches Event.attempt? Twins (first.on now group source)
      (second.on now group source) := by
  rw [Lamp.on, Lamp.on, twins.store.level_eq]
  exact twins.settle now group _ true

theorem limit (source : Source) (group : Group) (level : Level) :
    Traced.Matches Event.attempt? Twins (first.limit now source group level)
      (second.limit now source group level) :=
  (twins.remember source group level).bind fun remembered =>
    remembered.settle now group level true

theorem play (group : Group) (transition : Transition) :
    Traced.Matches Event.attempt? Twins (first.play now group transition)
      (second.play now group transition) :=
  ((twins.engine.program group transition).start now group).bind fun started =>
    (twins.withEngine started).report group true

theorem advance :
    Traced.Matches Event.attempt? Twins (first.advance now) (second.advance now) :=
  (twins.engine.advance now).bind fun advanced =>
    Traced.matches_pure (twins.withEngine advanced)

theorem apply {op : Op} (notBoot : op ≠ .boot) :
    Traced.Matches Event.attempt? Twins (first.apply now op) (second.apply now op) := by
  cases op with
  | boot =>
      exact absurd rfl notBoot
  | limit source group level =>
      exact twins.limit now source group level
  | play group transition =>
      exact twins.play now group transition
  | off group =>
      exact twins.off now group
  | on group source =>
      exact twins.on now group source
  | advance =>
      exact twins.advance now

/-- Booting reads the memory, so it has to hold the same in both lamps. -/
theorem boot (bytes : first.store.eeprom.bytes = second.store.eeprom.bytes) :
    Traced.Matches Event.attempt? Twins (first.boot now) (second.boot now) :=
  (twins.restore bytes).bind fun restored =>
    Traced.matches_foldlM (fun _ _ group _ lamps => lamps.off now group) restored

theorem replay {history : List (Nat × Op)} (noBoot : ∀ timed ∈ history, timed.2 ≠ .boot) :
    Traced.Matches Event.attempt? Twins (first.replay history) (second.replay history) :=
  Traced.matches_foldlM
    (fun _ _ timed member lamps => lamps.apply timed.1 (noBoot timed member)) twins

end Twins

end Lamp

end MeshLight
