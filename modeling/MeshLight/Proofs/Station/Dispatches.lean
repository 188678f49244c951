import MeshLight.Proofs.Lamp.Dispatches
import MeshLight.Proofs.Station.Failures

/-!
What a station says to the drivers of its channels and to the network in one step: what the messages call
for, what the button calls for, and what is due in any case, one after the other. Each part is what the
operations of the lamp have to say, whatever fails in the meantime.
-/

namespace MeshLight

namespace Lamp

variable {δ : Type} [ChannelDriver δ] (lamp : Lamp δ)

theorem dispatchesOf_withInbound (messages : List Message) (now : Nat) (op : Op) :
    (lamp.withInbound messages).dispatchesOf now op = lamp.dispatchesOf now op := by
  cases op <;> rfl

theorem replay_withInbound (messages : List Message) (history : List (Nat × Op)) :
    ((lamp.withInbound messages).replay history).value =
      (lamp.replay history).value.withInbound messages := by
  induction history generalizing lamp with
  | nil =>
      rfl
  | cons timed rest inductionHypothesis =>
      rw [replay_cons, replay_cons, apply_withInbound, Traced.bind_value, Traced.bind_value,
        Traced.map_value, inductionHypothesis]

theorem dispatchesAlong_withInbound (messages : List Message) (history : List (Nat × Op)) :
    (lamp.withInbound messages).dispatchesAlong history = lamp.dispatchesAlong history := by
  induction history generalizing lamp with
  | nil =>
      rfl
  | cons timed rest inductionHypothesis =>
      rw [dispatchesAlong, dispatchesAlong, dispatchesOf_withInbound, apply_withInbound,
        Traced.map_value, inductionHypothesis]

theorem dispatchesAlong_append (first second : List (Nat × Op)) :
    lamp.dispatchesAlong (first ++ second) =
      lamp.dispatchesAlong first ++ (lamp.replay first).value.dispatchesAlong second := by
  rw [← dispatches_replay, ← dispatches_replay, ← dispatches_replay, replay, Traced.replay_append,
    Traced.bind_events, Event.dispatches_append]
  rfl

end Lamp

namespace Node

variable {δ : Type} [ChannelDriver δ] (node : Node δ) (now : Nat)

theorem dispatches_operate (op : Lamp.Op) :
    Event.dispatches (node.operate now op).events = node.lamp.dispatchesOf now op := by
  rw [operate_events, Lamp.dispatches_apply]

theorem dispatches_receiveAll (messages : List Message) :
    Event.dispatches (node.receiveAll now messages).events =
      node.lamp.dispatchesAlong (Message.orders node.lamp.config now messages) := by
  rw [← Event.dispatches_deeds, (node.receiveAll_serves now messages).2, Event.dispatches_deeds,
    Lamp.dispatches_replay]

theorem dispatches_receive (message : Message) :
    Event.dispatches (node.receive now message).events =
      node.lamp.dispatchesAlong (Message.orders node.lamp.config now [message]) := by
  rw [← dispatches_receiveAll, receiveAll_cons]
  simp only [receiveAll, List.foldlM_nil, bind_pure]

theorem dispatches_start :
    Event.dispatches (node.start now).events =
      Lamp.announcements node.lamp.config ++ node.lamp.dispatchesOf now .boot := by
  rw [start, Traced.bind_events, Event.dispatches_append, Lamp.dispatches_present, dispatches_operate,
    Lamp.dispatchesOf, Lamp.dispatchesOf]
  simp only [Lamp.settleDispatches, Lamp.config_present]

theorem dispatches_act (action : Action) :
    Event.dispatches (node.act now action).events =
      node.lamp.dispatchesAlong ((action.orders node.lamp.isOn node.scene).map (now, ·)) := by
  rw [act, Traced.bind_events, Traced.pure_events, List.append_nil, Lamp.dispatches_replay]

/-- The messages, an action if one is due, and the polling of the light. -/
theorem dispatches_drain_act (due : Option Action) :
    let drained := node.drain now
    let acted := due.elim (pure drained.value) (drained.value.act now)
    let advanced := acted.value.operate now .advance
    let served := Message.orders node.lamp.config now node.lamp.radio.inbound
    let acts := due.elim [] (Action.orders (node.lamp.replay served).value.isOn node.scene)
    Event.dispatches (drained.events ++ (acted.events ++ advanced.events)) =
      node.lamp.dispatchesAlong (served ++ (acts ++ [Lamp.Op.advance]).map (now, ·)) := by
  intro drained acted advanced served acts
  obtain ⟨drainedValue, _⟩ := (node.withInbound []).receiveAll_serves now node.lamp.radio.inbound
  rw [← drain_eq] at drainedValue
  -- The radio is emptied before the first message is handled, and no operation can tell.
  have drainedLamp : drained.value.lamp = (node.lamp.replay served).value.withInbound [] := by
    rw [show drained.value = _ from drainedValue]
    exact node.lamp.replay_withInbound [] served
  have drainedScene : drained.value.scene = node.scene := node.scene_drain now
  have drainedLit : drained.value.lamp.isOn = (node.lamp.replay served).value.isOn := by
    rw [drainedLamp]
    rfl
  obtain ⟨actedLamp, actedEvents⟩ := drained.value.act_due now due
  rw [drainedLit, drainedScene] at actedLamp actedEvents
  have drainedDispatches : Event.dispatches drained.events = node.lamp.dispatchesAlong served := by
    rw [show drained = _ from node.drain_eq now, dispatches_receiveAll]
    exact node.lamp.dispatchesAlong_withInbound [] served
  rw [Event.dispatches_append, Event.dispatches_append, drainedDispatches, List.map_append,
    Lamp.dispatchesAlong_append, Lamp.dispatchesAlong_append]
  congr 1
  rw [actedEvents, Lamp.dispatches_replay, dispatches_operate, actedLamp, drainedLamp,
    Lamp.dispatchesAlong_withInbound, Lamp.replay_withInbound, Lamp.dispatchesOf_withInbound]
  simp [acts, Lamp.dispatchesAlong]

end Node

namespace Button

namespace IsWired

variable {button : Button (Node Fader)} (wired : button.IsWired)
include wired

/-- A gesture comes to an action or to nothing. -/
theorem exists_respond_eq (seen : Option Gesture) :
    ∃ due : Option Action, seen.bind button.handlers = due.map Action.handler ∧
      ∀ (node : Node Fader) (now : Nat),
        Button.respond button.handlers seen node now = due.elim (pure node) (node.act now) := by
  cases called : seen.bind button.handlers with
  | none =>
      refine ⟨none, rfl, ?_⟩
      intro node now
      rw [Button.respond, called]
      rfl
  | some handler =>
      obtain ⟨gesture, _, found⟩ := Option.bind_eq_some_iff.1 called
      obtain ⟨action, rfl⟩ := wired gesture handler found
      refine ⟨some action, rfl, ?_⟩
      intro node now
      rw [Button.respond, called]
      exact node.handler_eq now action

end IsWired

theorem dispatches_notes (level : Option Bool) (seen : Option Gesture) :
    Event.dispatches (notes level seen) = [] := by
  cases level <;> cases seen <;> rfl

end Button

namespace Station

variable {station : Station Fader}

/-- What the button is seen to do when it is looked at. -/
def seen (station : Station Fader) (now : Nat) (level : Option Bool) : Option Gesture :=
  (Press.step station.button.thresholds station.button.press now (level.getD false)).1

theorem exists_cycle_eq (wired : station.button.IsWired) (now : Nat) (level : Option Bool) :
    let drained := station.node.drain now
    let seen := station.seen now level
    ∃ due : Option Action, seen.bind station.button.handlers = due.map Action.handler ∧
      let acted := due.elim (pure drained.value) (drained.value.act now)
      let advanced := acted.value.operate now .advance
      ∃ press, station.cycle now level =
        ⟨⟨advanced.value, { station.button with press }⟩,
          drained.events ++ (Button.notes level seen ++ acted.events ++ advanced.events)⟩ := by
  intro drained seen
  obtain ⟨due, called, responds⟩ := wired.exists_respond_eq seen
  have looked : Press.step station.button.thresholds station.button.press now (level.getD false) =
      (seen, _) := rfl
  exact ⟨due, called, _, station.cycle_eq now looked (responds drained.value now)⟩

/-- The messages that an operation handles, in their order. -/
def handled (station : Station Fader) : Op → List Message
  | .receive message => [message]
  | .poll | .cycle _ => station.node.lamp.radio.inbound
  | .start | .push _ | .toggle | .showScene | .lamp _ | .register | .clear _ => []

/-- The operation calls for an action, or for none: it is one itself, or the button has a handler for
what it is seen to do. -/
def Calls (station : Station Fader) (now : Nat) (due : Option Action) : Op → Prop
  | .toggle => due = some .toggle
  | .showScene => due = some .showScene
  | .cycle level => (station.seen now level).bind station.button.handlers = due.map Action.handler
  | .start | .receive _ | .push _ | .poll | .lamp _ | .register | .clear _ => due = none

/-- What an operation asks of the lamp by itself, after messages and button. -/
def Op.own : Op → List Lamp.Op
  | .start => [.boot]
  | .lamp op => [op]
  | .poll | .cycle _ => [.advance]
  | .receive _ | .push _ | .toggle | .showScene | .register | .clear _ => []

/-- What a station has to say in one step, in which the given action is due. -/
def dispatchesOf (station : Station Fader) (now : Nat) (due : Option Action) (op : Op) :
    List Dispatch :=
  let lamp := station.node.lamp
  let served := Message.orders lamp.config now (station.handled op)
  let lit := (lamp.replay served).value.isOn
  let acts := due.elim [] (Action.orders lit station.node.scene)
  (if op = .start then Lamp.announcements lamp.config else []) ++
    lamp.dispatchesAlong (served ++ (acts ++ op.own).map (now, ·))

theorem dispatches_onNode (result : Traced Event (Node Fader)) :
    Event.dispatches (apply.onNode station result).events = Event.dispatches result.events := by
  rw [apply.onNode, Traced.bind_events, Traced.pure_events, List.append_nil]

/-- In each step a station says all that it has to say. -/
theorem dispatches_apply (wired : station.button.IsWired) (now : Nat) (op : Op) :
    ∃ due, station.Calls now due op ∧
      Event.dispatches (station.apply now op).events = station.dispatchesOf now due op := by
  cases op with
  | start =>
      refine ⟨none, rfl, ?_⟩
      rw [apply, dispatches_onNode, Node.dispatches_start]
      simp [dispatchesOf, handled, Message.orders, Op.own, Lamp.dispatchesAlong]
  | receive message =>
      refine ⟨none, rfl, ?_⟩
      rw [apply, dispatches_onNode, Node.dispatches_receive]
      simp [dispatchesOf, handled, Op.own]
  | toggle =>
      refine ⟨some .toggle, rfl, ?_⟩
      rw [apply, dispatches_onNode, Node.toggle_eq, Node.dispatches_act]
      simp [dispatchesOf, handled, Message.orders, Op.own, Lamp.replay]
  | showScene =>
      refine ⟨some .showScene, rfl, ?_⟩
      rw [apply, dispatches_onNode, Node.showScene_eq, Node.dispatches_act]
      simp [dispatchesOf, handled, Message.orders, Op.own, Lamp.replay]
  | poll =>
      refine ⟨none, rfl, ?_⟩
      have said := station.node.dispatches_drain_act now none
      rw [apply, dispatches_onNode, Node.poll, Traced.bind_events]
      simpa [dispatchesOf, handled, Op.own] using said
  | lamp op =>
      refine ⟨none, rfl, ?_⟩
      rw [apply, dispatches_onNode, Node.dispatches_operate]
      simp [dispatchesOf, handled, Message.orders, Op.own, Lamp.dispatchesAlong]
  | cycle level =>
      obtain ⟨due, called, _, cycled⟩ := exists_cycle_eq wired now level
      refine ⟨due, called, ?_⟩
      have said := station.node.dispatches_drain_act now due
      rw [apply, cycled]
      simp only [Event.dispatches_append, Button.dispatches_notes, List.nil_append] at said ⊢
      rw [said]
      simp [dispatchesOf, handled, Op.own]
  | push message | register | clear gesture =>
      exact ⟨none, rfl, rfl⟩

end Station

end MeshLight
