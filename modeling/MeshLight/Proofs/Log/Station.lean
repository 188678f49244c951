import MeshLight.Proofs.Lamp.Tracking
import MeshLight.Proofs.Log.Lamp
import MeshLight.Proofs.Station.Dispatches
import Mathlib.Data.List.Forall2

/-!
The log of a station. Whatever is done with it, no failure goes unsaid or is reported twice: the errors in
the log and the failures of the run correspond to each other one by one.
-/

namespace MeshLight

/-! ## Messages -/

namespace Message

/-- A message that is turned down is told of, with the reason. -/
theorem told_request (config : Config) (message : Message) : (message.request config).Told config := by
  cases known : message.addressee? config with
  | none =>
      simp only [request, group?_sensor, known]
      refine .failure ?_ (.record (.sensor known) (.nil none))
      simp [Event.fails, demand?, known]
  | some group =>
      cases content : message.content with
      | light on =>
          simp only [request, group?_sensor, known, content]
          refine .calm ⟨?_, rfl⟩ (.calm ⟨rfl, rfl⟩ (.nil none))
          cases on <;> simp [Event.fails, demand?, known, content]
      | text payload =>
          simp only [request, group?_sensor, known, content, Command.read]
          cases parsed : Command.parse group payload.text with
          | ok command =>
              refine .calm ⟨?_, rfl⟩
                (.calm ⟨rfl, rfl⟩ (.calm ⟨rfl, rfl⟩ (.calm ⟨rfl, rfl⟩ (.nil none))))
              cases command <;> simp [Event.fails, demand?, known, content, parsed]
          | error error =>
              refine .failure ?_ (.calm ⟨rfl, rfl⟩ (.calm ⟨rfl, rfl⟩
                (.record (.text known content parsed) (.nil none))))
              simp [Event.fails, demand?, known, content, parsed]
      | unsupported type =>
          simp only [request, group?_sensor, known, content]
          refine .failure ?_ (.record (.type known content) (.nil none))
          simp [Event.fails, demand?, known, content]

end Message

namespace Node

variable {config : Config} (node : Node Fader) (now : Nat)

theorem told_operate (op : Lamp.Op) : (node.operate now op).Told config :=
  (node.lamp.told_apply now op).bind (Traced.told_pure _)

theorem told_start : (node.start now).Told config :=
  node.lamp.told_present.bind (told_operate _ now .boot)

theorem told_receive (message : Message) : (node.receive now message).Told node.lamp.config := by
  rw [receive_eq]
  refine (message.told_request node.lamp.config).bind ?_
  cases message.demand? node.lamp.config with
  | none =>
      exact Traced.told_pure node
  | some op =>
      exact node.told_operate now op

theorem told_receiveAll (messages : List Message) :
    (node.receiveAll now messages).Told node.lamp.config := by
  induction messages generalizing node with
  | nil =>
      exact Traced.told_pure node
  | cons message rest inductionHypothesis =>
      rw [receiveAll_cons]
      refine (node.told_receive now message).bind ?_
      rw [← node.config_receive now message]
      exact inductionHypothesis _

theorem told_drain : (node.drain now).Told node.lamp.config :=
  (node.withInbound []).told_receiveAll now node.lamp.radio.inbound

theorem told_act (action : Action) : (node.act now action).Told config :=
  (node.lamp.told_replay _).bind (Traced.told_pure _)

theorem config_start : (node.start now).value.lamp.config = node.lamp.config := by
  rw [start, Traced.bind_value, operate_value, Lamp.config_apply, Lamp.config_present]

theorem config_drain : (node.drain now).value.lamp.config = node.lamp.config := by
  rw [drain_eq, ((node.withInbound []).receiveAll_serves now _).1, Lamp.config_replay]
  rfl

theorem config_act (action : Action) :
    (node.act now action).value.lamp.config = node.lamp.config :=
  Lamp.config_replay _ _

end Node

namespace Button

variable {config : Config}

theorem told_notes (level : Option Bool) (seen : Option Gesture) :
    Event.Told config none (notes level seen) none := by
  have seenCalm : ∀ event ∈ seen.toList.map fun gesture => Event.log (.gestureSeen gesture),
      event.IsCalm config := by
    intro event member
    obtain ⟨gesture, _, rfl⟩ := List.mem_map.1 member
    exact ⟨rfl, rfl⟩
  cases level with
  | none =>
      exact .failure rfl (.record .sampled (.of_calm seenCalm))
  | some pressed =>
      exact .calm ⟨rfl, rfl⟩ (.of_calm seenCalm)

end Button

namespace Station

variable {station : Station Fader}

/-! ## One step -/

theorem config_apply (wired : station.button.IsWired) (now : Nat) (op : Op) :
    (station.apply now op).value.node.lamp.config = station.node.lamp.config := by
  cases op with
  | start =>
      exact station.node.config_start now
  | receive message =>
      exact station.node.config_receive now message
  | toggle =>
      rw [apply, Node.toggle_eq]
      exact station.node.config_act now .toggle
  | showScene =>
      rw [apply, Node.showScene_eq]
      exact station.node.config_act now .showScene
  | poll =>
      exact (Lamp.config_apply _ now .advance).trans (station.node.config_drain now)
  | lamp op =>
      exact Lamp.config_apply _ now op
  | cycle level =>
      obtain ⟨due, _, _, cycled⟩ := exists_cycle_eq wired now level
      rw [apply, cycled]
      refine (Lamp.config_apply _ now .advance).trans ?_
      cases due with
      | none =>
          exact station.node.config_drain now
      | some action =>
          exact (Node.config_act _ now action).trans (station.node.config_drain now)
  | push message | register | clear gesture =>
      rfl

theorem wired_apply (wired : station.button.IsWired) (now : Nat) (op : Op) :
    (station.apply now op).value.button.IsWired := by
  cases op with
  | register =>
      exact (wired.on .shortRelease .toggle).on .longPress .showScene
  | clear gesture =>
      exact wired.clear gesture
  | cycle level =>
      obtain ⟨_, _, _, cycled⟩ := exists_cycle_eq wired now level
      rw [apply, cycled]
      exact wired
  | start | receive message | push message | toggle | showScene | poll | lamp op =>
      exact wired

theorem told_apply (wired : station.button.IsWired) (now : Nat) (op : Op) :
    (station.apply now op).Told station.node.lamp.config := by
  cases op with
  | start =>
      exact (station.node.told_start now).bind (Traced.told_pure _)
  | receive message =>
      exact (station.node.told_receive now message).bind (Traced.told_pure _)
  | toggle =>
      rw [apply, Node.toggle_eq]
      exact (station.node.told_act now .toggle).bind (Traced.told_pure _)
  | showScene =>
      rw [apply, Node.showScene_eq]
      exact (station.node.told_act now .showScene).bind (Traced.told_pure _)
  | poll =>
      exact ((station.node.told_drain now).bind (Node.told_operate _ now .advance)).bind
        (Traced.told_pure _)
  | lamp op =>
      exact (station.node.told_operate now op).bind (Traced.told_pure _)
  | cycle level =>
      obtain ⟨due, _, _, cycled⟩ := exists_cycle_eq wired now level
      rw [apply, cycled]
      refine (station.node.told_drain now).append ?_
      refine Event.Told.append ((Button.told_notes level _).append ?_) (Node.told_operate _ now .advance)
      cases due with
      | none =>
          exact .nil none
      | some action =>
          exact Node.told_act _ now action
  | push message | register | clear gesture =>
      exact Traced.told_pure _

theorem told_replay (wired : station.button.IsWired) (history : List (Nat × Op)) :
    (station.replay history).Told station.node.lamp.config := by
  induction history generalizing station with
  | nil =>
      exact Traced.told_pure station
  | cons timed rest inductionHypothesis =>
      have configEq := config_apply wired timed.1 timed.2
      refine (told_apply wired timed.1 timed.2).bind ?_
      rw [← configEq]
      exact inductionHypothesis (wired_apply wired timed.1 timed.2)

theorem wired_replay (wired : station.button.IsWired) (history : List (Nat × Op)) :
    (station.replay history).value.button.IsWired := by
  induction history generalizing station with
  | nil =>
      exact wired
  | cons timed rest inductionHypothesis =>
      exact inductionHypothesis (wired_apply wired timed.1 timed.2)

/-- Whatever is done with a station and whatever fails, each failure is logged once and nothing else is
logged as an error.

* The errors of a run tell of its failures, one by one and in their order.
* At any point of the run all failures but perhaps the latest one have been told of.
* A failure stops nothing: in the next step the station says to its drivers and to the network all that
  messages, button and the operation itself call for.
* A limit whose level cannot be saved goes on as one that has nothing to save. A record that cannot be read
  is neither changed nor written, and a level that cannot be written is remembered. -/
theorem failures_are_logged_once {station : Station Fader} (wired : station.button.IsWired)
    (history : List (Nat × Op)) :
    let config := station.node.lamp.config
    let run := station.replay history
    List.Forall₂ (Event.Tells config) (Event.failures config run.events) (Event.errors run.events) ∧
    (∀ earlier, earlier <+: run.events → ∃ told owed,
      Event.failures config earlier = told ++ owed ∧ owed.length ≤ 1 ∧
        List.Forall₂ (Event.Tells config) told (Event.errors earlier)) ∧
    (∀ now op, ∃ due, run.value.Calls now due op ∧
      Event.dispatches (run.value.apply now op).events = run.value.dispatchesOf now due op) ∧
    ∀ (lamp : Lamp Fader) now source group level,
      let settled := lamp.settle now group level true
      ∃ store saving, lamp.store.Saves source group level store saving ∧
        lamp.apply now (.limit source group level) =
          ⟨{ settled.value with store }, saving ++ settled.events⟩ := by
  intro config run
  have told : Event.Told config none run.events none := told_replay wired history
  refine ⟨?_, ?_, ?_, ?_⟩
  · obtain ⟨done, all, pairs⟩ := told.exists_told
    rw [Option.toList_none, List.nil_append, List.append_nil] at all
    rwa [all]
  · rintro earlier ⟨later, split⟩
    rw [← split] at told
    obtain ⟨left, before⟩ := told.of_append
    obtain ⟨done, all, pairs⟩ := before.exists_told
    refine ⟨done, left.toList, all, ?_, pairs⟩
    cases left <;> simp
  · intro now op
    exact dispatches_apply (wired_replay wired history) now op
  · intro lamp now source group level
    exact lamp.exists_limit_eq now source group level

/-- Nothing works here: eleven things go wrong, each is logged once, and a limit is still passed on to the
driver and reported. -/
theorem broken_station_logs_all :
    let pwm : Pwm := { maxDuty := 255, faults := .always true }
    let eeprom : Eeprom :=
      { bytes := #[], readFaults := .always false, writeFaults := .always false }
    let config : Config := { fadeTimeMs := 5 }
    let station := bound ⟨50, 400⟩ (Lamp.ofPwms config (fun _ => pwm) eeprom ⟨[], .always true⟩)
    let limit : Op := .lamp (.limit .button .white (.ofWhite 70))
    let run := station.replay
      [(0, .start), (5, limit), (6, .receive ⟨7, .light true⟩), (7, .cycle none)]
    station.button.IsWired ∧
      Event.errors run.events =
        [.sketchLost, .presentationLost 0, .presentationLost 1, .loadFailed .read,
          .statusLost 0 false, .statusLost 1 false, .saveFailed .white .button .read, .dutyRejected,
          .statusLost 1 true, .unexpectedSensor 7, .pinUnreadable] ∧
      (Event.failures config run.events).length = 11 ∧
      Event.dispatches (run.value.apply 9 limit).events =
        [.command .white (.fade 70 5), .status 1 true] := by
  intro pwm eeprom config station limit run
  have fresh : (Button.ofThresholds ⟨50, 400⟩ : Button (Node Fader)).IsWired := by
    intro gesture handler found
    cases found
  have wired : station.button.IsWired := (fresh.on .shortRelease .toggle).on .longPress .showScene
  have errors : Event.errors run.events =
      [.sketchLost, .presentationLost 0, .presentationLost 1, .loadFailed .read,
        .statusLost 0 false, .statusLost 1 false, .saveFailed .white .button .read, .dutyRejected,
        .statusLost 1 true, .unexpectedSensor 7, .pinUnreadable] := by decide
  obtain ⟨pairs, _, steps, _⟩ := failures_are_logged_once wired
    [(0, .start), (5, limit), (6, .receive ⟨7, .light true⟩), (7, .cycle none)]
  have count := pairs.length_eq
  rw [show Event.errors _ = _ from errors] at count
  obtain ⟨due, called, said⟩ := steps 9 limit
  cases called
  refine ⟨wired, errors, count, said.trans ?_⟩
  decide

end Station

end MeshLight
