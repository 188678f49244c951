import MeshLight.Lamp
import MeshLight.Proofs.Engine.Groups

/-!
What an operation of the lamp does to its engine. Memory and radio have no say in it: their failures
leave no mark on the engine, and of the store only a remembered level reaches it.
-/

namespace MeshLight

namespace Engine

variable {δ : Type} [ChannelDriver δ] (engine : Engine δ) (now : Nat) (group : Group) (level : Level)
  (durationMs : UInt32)

/-- The engine after a group was stopped and told to fade to a level. -/
def settled : Engine δ :=
  ((engine.stop group).fade now group level durationMs).value

theorem run_settled (asked : Group) :
    (engine.settled now group level durationMs).run asked =
      if asked = group then (engine.run group).stopped else engine.run asked := by
  by_cases same : asked = group
  · subst same
    exact (run_withRun_self engine asked _).trans (if_pos rfl).symm
  · exact (run_withRun_of_ne engine _ same).trans (if_neg same).symm

theorem driver_settled (channel : Channel) :
    (engine.settled now group level durationMs).fixture.driver channel =
      if channel.group = group then
        (ChannelDriver.obey (engine.fixture.driver channel) now
          (.fade (level.component channel) durationMs)).value
      else engine.fixture.driver channel :=
  Fixture.driver_fade engine.fixture now group level durationMs channel

/-- The engine after a group was sent on a transition. -/
def played (transition : Transition) : Engine δ :=
  (engine.launch now group { running := true, transition, direction := .forward }).value

theorem start_program_value (transition : Transition) :
    ((engine.program group transition).start now group).value =
      engine.played now group transition := by
  simp [Engine.start, played, launch, program, withRun, Engine.run, Run.started, Run.origin,
    Run.goal]

end Engine

namespace Lamp

variable {δ : Type}

theorem send_value (lamp : Lamp δ) (event : Bool → Event) (lost : LogRecord) :
    (lamp.send event lost).value = { lamp with radio := lamp.radio.send.2 } := by
  rcases sent : lamp.radio.send with ⟨succeeded, radio⟩
  cases succeeded <;> simp [send, sent]

theorem send_events (lamp : Lamp δ) (event : Bool → Event) (lost : LogRecord) :
    (lamp.send event lost).events =
      event lamp.radio.send.1 :: if lamp.radio.send.1 then [] else [.log lost] := by
  rcases sent : lamp.radio.send with ⟨succeeded, radio⟩
  cases succeeded <;> simp [send, sent]

/-- What is logged of the outcome of a call of the store. -/
def failureNotes (note : StorageError → LogRecord) : Except StorageError Unit → List Event
  | .ok () => []
  | .error error => [.log (note error)]

theorem restore_value (lamp : Lamp δ) :
    lamp.restore.value = { lamp with store := lamp.store.load.value.2 } := by
  rcases loaded : lamp.store.load.value with ⟨outcome, store⟩
  cases outcome <;> simp [restore, loaded]

theorem restore_events (lamp : Lamp δ) :
    lamp.restore.events =
      lamp.store.load.events ++ failureNotes .loadFailed lamp.store.load.value.1 := by
  rcases loaded : lamp.store.load.value with ⟨outcome, store⟩
  cases outcome <;> simp [restore, loaded, failureNotes]

theorem remember_value (lamp : Lamp δ) (source : Source) (group : Group) (level : Level) :
    (lamp.remember source group level).value =
      { lamp with store := (lamp.store.save source group level).value.2 } := by
  rcases saved : (lamp.store.save source group level).value with ⟨outcome, store⟩
  cases outcome <;> simp [remember, saved]

theorem remember_events (lamp : Lamp δ) (source : Source) (group : Group) (level : Level) :
    (lamp.remember source group level).events =
      (lamp.store.save source group level).events ++
        failureNotes (.saveFailed group source) (lamp.store.save source group level).value.1 := by
  rcases saved : (lamp.store.save source group level).value with ⟨outcome, store⟩
  cases outcome <;> simp [remember, saved, failureNotes]

variable [ChannelDriver δ] (lamp : Lamp δ) (now : Nat)

theorem settle_value (group : Group) (level : Level) (on : Bool) :
    (lamp.settle now group level on).value =
      { lamp with
        engine := lamp.engine.settled now group level lamp.config.fadeTimeMs
        radio := lamp.radio.send.2 } := by
  simp [settle, report, send_value, Engine.settled]

theorem limit_value (source : Source) (group : Group) (level : Level) :
    (lamp.limit now source group level).value =
      { lamp with
        engine := lamp.engine.settled now group level lamp.config.fadeTimeMs
        store := (lamp.store.save source group level).value.2
        radio := lamp.radio.send.2 } := by
  rw [limit, Traced.bind_value, settle_value, remember_value]

theorem play_value (group : Group) (transition : Transition) :
    (lamp.play now group transition).value =
      { lamp with
        engine := lamp.engine.played now group transition
        radio := lamp.radio.send.2 } := by
  rw [play, Traced.bind_value, report, send_value, lamp.engine.start_program_value now]

theorem engine_off (group : Group) :
    (lamp.off now group).value.engine =
      lamp.engine.settled now group .off lamp.config.fadeTimeMs := by
  rw [off, settle_value]

theorem engine_on (group : Group) (source : Source) :
    (lamp.on now group source).value.engine =
      lamp.engine.settled now group (lamp.store.level source) lamp.config.fadeTimeMs := by
  rw [on, settle_value]

theorem engine_limit (source : Source) (group : Group) (level : Level) :
    (lamp.limit now source group level).value.engine =
      lamp.engine.settled now group level lamp.config.fadeTimeMs := by
  rw [limit_value]

theorem engine_play (group : Group) (transition : Transition) :
    (lamp.play now group transition).value.engine =
      lamp.engine.played now group transition := by
  rw [play_value]

theorem engine_boot :
    (lamp.boot now).value.engine =
      (lamp.engine.settled now .color .off lamp.config.fadeTimeMs).settled now .white .off
        lamp.config.fadeTimeMs := by
  simp [boot, Group.all, off, settle_value, restore_value]

theorem engine_advance : (lamp.advance now).value.engine = (lamp.engine.advance now).value :=
  rfl

theorem advance_events : (lamp.advance now).events = (lamp.engine.advance now).events :=
  List.append_nil _

theorem config_apply (op : Op) : (lamp.apply now op).value.config = lamp.config := by
  cases op with
  | boot =>
      simp [apply, boot, Group.all, off, settle_value, restore_value]
  | limit source target level =>
      rw [apply, limit_value]
  | play target transition =>
      rw [apply, play_value]
  | off target =>
      rw [apply, off, settle_value]
  | on target source =>
      rw [apply, on, settle_value]
  | advance =>
      rfl

theorem replay_cons (timed : Nat × Op) (rest : List (Nat × Op)) :
    lamp.replay (timed :: rest) =
      lamp.apply timed.1 timed.2 >>= fun next => next.replay rest :=
  Traced.replay_cons apply lamp timed rest

theorem config_replay (history : List (Nat × Op)) :
    (lamp.replay history).value.config = lamp.config := by
  induction history generalizing lamp with
  | nil =>
      rfl
  | cons timed rest inductionHypothesis =>
      rw [replay_cons, Traced.bind_value, inductionHypothesis, config_apply]

end Lamp

end MeshLight
