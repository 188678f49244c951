import MeshLight.Bench.ScriptedDriver
import MeshLight.Node
import MeshLight.Proofs.Lamp.Deeds
import MeshLight.Proofs.Replay

/-!
What a node makes of the messages that wait for it. A message either asks for one operation of the lamp
or is turned down, and a node that is polled carries out the operations that were asked for, in the order
of arrival, and then advances the light. Messages that are turned down leave no trace but in the log.
-/

namespace MeshLight

namespace Message

/-- The group that a message is for, if it is for one: the group of the sensor that it names. The colour
group comes first. -/
def addressee? (config : Config) (message : Message) : Option Group :=
  if message.sensor = config.colorSensor then some .color
  else if message.sensor = config.whiteSensor then some .white
  else none

theorem group?_sensor (config : Config) (message : Message) :
    config.group? message.sensor = message.addressee? config := by
  simp only [Config.group?, Group.all, Config.sensor, addressee?, List.find?_cons, List.find?_nil,
    beq_eq_decide, @eq_comm _ message.sensor]
  by_cases isColor : config.colorSensor = message.sensor
  · simp [isColor]
  · by_cases isWhite : config.whiteSensor = message.sensor <;> simp [isColor, isWhite]

theorem sensor_of_addressee? {config : Config} {message : Message} {group : Group}
    (addressed : message.addressee? config = some group) : config.sensor group = message.sensor := by
  rw [← group?_sensor] at addressed
  simpa using List.find?_some addressed

/-- The operation that a message asks for, if there is one. -/
def demand? (config : Config) (message : Message) : Option Lamp.Op := do
  let group ← message.addressee? config
  match message.content with
  | .light true => return .on group .external
  | .light false => return .off group
  | .text payload =>
      match Command.parse group payload.text with
      | .ok (.limit source level) => return .limit source group level
      | .ok (.play transition) => return .play group transition
      | .error _ => none
  | .unsupported _ => none

/-- The message is for a sensor of the node, of a type that the node knows, and if it is a text, it holds
a command for the group of the sensor. -/
def Accepted (config : Config) (message : Message) : Prop :=
  ∃ group, message.addressee? config = some group ∧
    match message.content with
    | .light _ => True
    | .text payload => ∃ command, Command.parse group payload.text = .ok command
    | .unsupported _ => False

theorem isSome_demand?_iff (config : Config) (message : Message) :
    (message.demand? config).isSome = true ↔ message.Accepted config := by
  simp only [demand?, Accepted]
  cases message.addressee? config with
  | none =>
      simp
  | some group =>
      rcases message.content with (_ | _) | payload | type
      · simp
      · simp
      · rcases parsed : Command.parse group payload.text with error | (_ | _) <;> simp [parsed]
      · simp

/-- What a message asks for is on the group of its sensor. -/
theorem exists_target_of_demand? {config : Config} {message : Message} {op : Lamp.Op}
    (demanded : message.demand? config = some op) :
    ∃ group, op.target? = some group ∧ config.sensor group = message.sensor := by
  obtain ⟨group, addressed, asked⟩ := Option.bind_eq_some_iff.1 demanded
  refine ⟨group, ?_, sensor_of_addressee? addressed⟩
  rcases holds : message.content with (_ | _) | payload | type <;> simp only [holds] at asked
  · cases asked
    rfl
  · cases asked
    rfl
  · split at asked <;> cases asked <;> rfl
  · cases asked

/-- The operations that messages ask for, in their order and all at one time. -/
def orders (config : Config) (now : Nat) (messages : List Message) : List (Nat × Lamp.Op) :=
  messages.filterMap fun message => (message.demand? config).map (now, ·)

theorem orders_cons (config : Config) (now : Nat) (message : Message) (rest : List Message) :
    orders config now (message :: rest) =
      ((message.demand? config).map (now, ·)).toList ++ orders config now rest :=
  filterMap_cons_toList _ message rest

theorem orders_filter (config : Config) (now : Nat) (messages : List Message) :
    orders config now (messages.filter fun message => (message.demand? config).isSome) =
      orders config now messages := by
  rw [orders, orders, List.filterMap_filter]
  congr 1
  funext message
  cases message.demand? config <;> simp

theorem request_value (config : Config) (message : Message) :
    (message.request config).value = message.demand? config := by
  simp only [request, demand?, group?_sensor]
  cases message.addressee? config with
  | none =>
      rfl
  | some group =>
      rcases message.content with (_ | _) | payload | type
      · rfl
      · rfl
      · rcases parsed : Command.parse group payload.text with error | (_ | _) <;>
          simp [Command.read, parsed, Lamp.Op.ofCommand]
      · rfl

/-- Finding out what a message asks for is no deed. -/
theorem deeds_request (config : Config) (message : Message) :
    Event.deeds (message.request config).events = [] := by
  simp only [request]
  cases config.group? message.sensor with
  | none =>
      rfl
  | some group =>
      rcases message.content with (_ | _) | payload | type
      · rfl
      · rfl
      · rcases parsed : Command.parse group payload.text with error | command <;>
          simp [Command.read, parsed, Event.deeds, Event.isDeed]
      · rfl

end Message

namespace Node

variable {δ : Type}

/-- The node with other messages waiting. -/
def withInbound (node : Node δ) (messages : List Message) : Node δ :=
  { node with lamp := node.lamp.withInbound messages }

variable [ChannelDriver δ] (node : Node δ) (now : Nat) (message : Message)

theorem operate_value (op : Lamp.Op) :
    (node.operate now op).value = { node with lamp := (node.lamp.apply now op).value } :=
  rfl

theorem operate_events (op : Lamp.Op) :
    (node.operate now op).events = (node.lamp.apply now op).events :=
  List.append_nil _

theorem receive_eq :
    node.receive now message = message.request node.lamp.config >>= fun _ =>
      (message.demand? node.lamp.config).elim (pure node) (node.operate now) := by
  rw [← message.request_value]
  apply Traced.ext
  · rw [receive, Traced.bind_value, Traced.bind_value]
    cases (message.request node.lamp.config).value <;> rfl
  · rw [receive, Traced.bind_events, Traced.bind_events]
    cases (message.request node.lamp.config).value <;> rfl

theorem receive_of_demand? {op : Lamp.Op}
    (demanded : message.demand? node.lamp.config = some op) :
    (node.receive now message).value = { node with lamp := (node.lamp.apply now op).value } ∧
      Event.deeds (node.receive now message).events =
        Event.deeds (node.lamp.apply now op).events := by
  rw [receive_eq, demanded, Traced.bind_events, Event.deeds_append, Message.deeds_request]
  exact ⟨rfl, congrArg Event.deeds (node.operate_events now op)⟩

theorem receive_of_not_demand? (refused : message.demand? node.lamp.config = none) :
    (node.receive now message).value = node ∧
      Event.deeds (node.receive now message).events = [] := by
  rw [receive_eq, refused, Traced.bind_events, Event.deeds_append, Message.deeds_request]
  exact ⟨rfl, rfl⟩

theorem config_receive : (node.receive now message).value.lamp.config = node.lamp.config := by
  cases demanded : message.demand? node.lamp.config with
  | none =>
      rw [(node.receive_of_not_demand? now message demanded).1]
  | some op =>
      rw [(node.receive_of_demand? now message demanded).1, Lamp.config_apply]

/-- A message that is accepted makes the sensor that it is for report, and no other one. -/
theorem reporters_receive :
    Event.reporters (node.receive now message).events =
      if (message.demand? node.lamp.config).isSome then [message.sensor] else [] := by
  cases demanded : message.demand? node.lamp.config with
  | none =>
      rw [← Event.reporters_deeds, (node.receive_of_not_demand? now message demanded).2]
      rfl
  | some op =>
      obtain ⟨group, onGroup, sensorEq⟩ := Message.exists_target_of_demand? demanded
      rw [← Event.reporters_deeds, (node.receive_of_demand? now message demanded).2,
        Event.reporters_deeds, node.lamp.reporters_apply_of_target? now onGroup, sensorEq]
      rfl

/-! ## The queue -/

/-- Receives messages one after the other. -/
def receiveAll (messages : List Message) : Traced Event (Node δ) :=
  messages.foldlM (fun node message => node.receive now message) node

theorem receiveAll_cons (rest : List Message) :
    node.receiveAll now (message :: rest) =
      node.receive now message >>= fun next => next.receiveAll now rest :=
  List.foldlM_cons

theorem drain_eq :
    node.drain now = (node.withInbound []).receiveAll now node.lamp.radio.inbound :=
  rfl

/-- Receiving messages comes to carrying out the operations that they ask for. -/
theorem receiveAll_serves (messages : List Message) :
    (node.receiveAll now messages).value =
        { node with
          lamp := (node.lamp.replay (Message.orders node.lamp.config now messages)).value } ∧
      Event.deeds (node.receiveAll now messages).events =
        Event.deeds (node.lamp.replay (Message.orders node.lamp.config now messages)).events := by
  induction messages generalizing node with
  | nil =>
      exact ⟨rfl, rfl⟩
  | cons message rest inductionHypothesis =>
      obtain ⟨restValue, restDeeds⟩ := inductionHypothesis (node.receive now message).value
      rw [config_receive] at restValue restDeeds
      rw [receiveAll_cons, Traced.bind_value, Traced.bind_events, Event.deeds_append, restValue,
        restDeeds, Message.orders_cons]
      cases demanded : message.demand? node.lamp.config with
      | none =>
          obtain ⟨value, deeds⟩ := node.receive_of_not_demand? now message demanded
          rw [value, deeds]
          exact ⟨rfl, rfl⟩
      | some op =>
          obtain ⟨value, deeds⟩ := node.receive_of_demand? now message demanded
          rw [value, deeds, Option.map_some, Option.toList_some, List.singleton_append,
            Lamp.replay_cons, Traced.bind_value, Traced.bind_events, Event.deeds_append]
          exact ⟨rfl, rfl⟩

theorem reporters_receiveAll (messages : List Message) :
    Event.reporters (node.receiveAll now messages).events =
      (messages.filter fun message => (message.demand? node.lamp.config).isSome).map (·.sensor) := by
  induction messages generalizing node with
  | nil =>
      rfl
  | cons message rest inductionHypothesis =>
      rw [receiveAll_cons, Traced.bind_events, Event.reporters_append, inductionHypothesis,
        config_receive, reporters_receive, List.filter_cons]
      cases (message.demand? node.lamp.config).isSome <;> rfl

theorem receive_withInbound (messages : List Message) :
    (node.withInbound messages).receive now message =
      (·.withInbound messages) <$> node.receive now message := by
  have configEq : (node.withInbound messages).lamp.config = node.lamp.config := rfl
  rw [receive_eq, receive_eq, map_bind, configEq]
  apply bind_congr
  intro _
  cases message.demand? node.lamp.config with
  | none =>
      rfl
  | some op =>
      simp only [Option.elim_some, operate, map_bind, withInbound, Lamp.apply_withInbound,
        bind_map_left]
      rfl

/-- Draining the queue is taking the first message off it, handling that, and draining what is left,
until nothing is left. -/
theorem drain_withInbound_cons (rest : List Message) :
    (node.withInbound (message :: rest)).drain now =
      (node.withInbound rest).receive now message >>= fun next => next.drain now := by
  have first : (node.withInbound (message :: rest)).drain now =
      (node.withInbound []).receive now message >>= fun next => next.receiveAll now rest :=
    (node.withInbound []).receiveAll_cons now message rest
  rw [first, receive_withInbound, receive_withInbound, bind_map_left, bind_map_left]
  rfl

/-- What a node has done when it was polled. -/
def served : Traced Event (Lamp δ) :=
  (node.lamp.withInbound []).replay
    (Message.orders node.lamp.config now node.lamp.radio.inbound ++ [(now, .advance)])

theorem poll_serves :
    (node.poll now).value = { node with lamp := (node.served now).value } ∧
      Event.deeds (node.poll now).events = Event.deeds (node.served now).events := by
  obtain ⟨value, deeds⟩ := (node.withInbound []).receiveAll_serves now node.lamp.radio.inbound
  rw [← drain_eq] at value deeds
  have servedEq : node.served now =
      (node.lamp.withInbound []).replay
        (Message.orders node.lamp.config now node.lamp.radio.inbound) >>=
          fun next => next.apply now .advance := by
    exact Traced.replay_concat Lamp.apply _ _ now .advance
  rw [servedEq, poll, Traced.bind_value, Traced.bind_events, Event.deeds_append, operate_value,
    operate_events, value, deeds, Traced.bind_value, Traced.bind_events, Event.deeds_append]
  exact ⟨rfl, rfl⟩

theorem reporters_poll :
    Event.reporters (node.poll now).events =
      (node.lamp.radio.inbound.filter fun message =>
        (message.demand? node.lamp.config).isSome).map (·.sensor) := by
  have quiet : Event.reporters ((node.drain now).value.lamp.apply now .advance).events = [] :=
    (node.drain now).value.lamp.heard_advance now fun _ _ => rfl
  rw [poll, Traced.bind_events, Event.reporters_append, operate_events, quiet,
    List.append_nil, drain_eq, reporters_receiveAll]
  rfl

/-- Whatever state a node is in and whatever fails, being polled it handles the messages that wait one
after the other, from the first to the last, and then advances the light; no message is left.

* It does what it would do if the operations that the accepted messages ask for were carried out in the
  order of arrival and the light advanced then.
* A message asks for one operation if it is accepted, and for none otherwise.
* Leaving out the messages that are not accepted makes no difference to the node and to what it does.
* A message that is not accepted changes nothing, and nothing is done about it.
* A message that is accepted is followed by the work on light and memory that it asks for and then by one
  report, on the sensor that the message is for. -/
theorem polls_serve_accepted_messages (node : Node δ) (now : Nat) :
    let config := node.lamp.config
    let inbound := node.lamp.radio.inbound
    let polled := node.poll now
    let served := (node.lamp.withInbound []).replay
      (Message.orders config now inbound ++ [(now, .advance)])
    let accepted := inbound.filter fun message => (message.demand? config).isSome
    (∀ message rest, inbound = message :: rest →
      polled = (node.withInbound rest).receive now message >>= fun next => next.poll now) ∧
    polled.value.lamp.radio.inbound = [] ∧
    polled.value = { node with lamp := served.value } ∧
    Event.deeds polled.events = Event.deeds served.events ∧
    Event.reporters polled.events = accepted.map (·.sensor) ∧
    ((node.withInbound accepted).poll now).value = polled.value ∧
    Event.deeds ((node.withInbound accepted).poll now).events = Event.deeds polled.events ∧
    ∀ (node : Node δ) (message : Message),
      let received := node.receive now message
      ((message.demand? node.lamp.config).isSome = true ↔ message.Accepted node.lamp.config) ∧
      (¬ message.Accepted node.lamp.config →
        received.value = node ∧ Event.deeds received.events = []) ∧
      ∀ op, message.demand? node.lamp.config = some op →
        received.value = { node with lamp := (node.lamp.apply now op).value } ∧
        ∃ work on sent,
          Event.deeds received.events = work ++ [.status message.sensor on sent] ∧
          ∀ event ∈ work, event.IsOfWork := by
  intro config inbound polled served accepted
  obtain ⟨value, deeds⟩ := node.poll_serves now
  obtain ⟨weededValue, weededDeeds⟩ := (node.withInbound accepted).poll_serves now
  have same : (node.withInbound accepted).served now = node.served now := by
    have ordersEq : Message.orders config now accepted = Message.orders config now inbound :=
      Message.orders_filter config now inbound
    exact congrArg (fun orders => (node.lamp.withInbound []).replay (orders ++ [(now, .advance)]))
      ordersEq
  refine ⟨?_, ?_, value, deeds, node.reporters_poll now, ?_, ?_, ?_⟩
  · intro message rest first
    have polledEq : polled = (node.withInbound (message :: rest)).poll now := by
      rw [← first]
      rfl
    rw [polledEq, poll, drain_withInbound_cons, bind_assoc]
    rfl
  · have lampEq : polled.value.lamp = (node.served now).value := congrArg Node.lamp value
    rw [lampEq]
    exact Lamp.inbound_replay _ _
  · rw [weededValue, same]
    exact value.symm
  · rw [weededDeeds, same]
    exact deeds.symm
  · intro node message received
    refine ⟨message.isSome_demand?_iff _, ?_, ?_⟩
    · intro refused
      rw [← message.isSome_demand?_iff, Option.not_isSome_iff_eq_none] at refused
      exact node.receive_of_not_demand? now message refused
    · intro op demanded
      obtain ⟨receivedValue, receivedDeeds⟩ := node.receive_of_demand? now message demanded
      obtain ⟨group, onGroup, sensorEq⟩ := Message.exists_target_of_demand? demanded
      obtain ⟨work, on, workDeeds, kinds⟩ := node.lamp.deeds_apply_of_target? now onGroup
      rw [sensorEq] at workDeeds
      exact ⟨receivedValue, work, on, _, receivedDeeds.trans workDeeds, kinds⟩

/-- Of five messages two are accepted: switching colour off and limiting white. They are served although
the memory is too small for a record and nothing that is sent is heard. The sensor of colour has a greater
number here than that of white. -/
theorem two_of_five_messages_are_served :
    let driver := ScriptedDriver.ofScript .hold
    let eeprom : Eeprom :=
      { bytes := #[], readFaults := .always false, writeFaults := .always false }
    let config : Config := { colorSensor := 12, whiteSensor := 7 }
    let inbound : List Message :=
      [⟨0, .light true⟩, ⟨12, .unsupported 24⟩, ⟨7, .text ⟨"0,544", by decide⟩⟩, ⟨12, .light false⟩,
        ⟨7, .text ⟨"0,33", by decide⟩⟩]
    let lamp := Lamp.assemble config ⟨driver, driver, driver, driver⟩ eeprom ⟨[], .always true⟩
    let polled := ((ofLamp lamp).withInbound inbound).poll 3
    polled.value.lamp.radio.inbound = [] ∧
      polled.value.lamp =
        (lamp.replay [(3, .off .color), (3, .limit .external .white (.ofWhite 51)), (3, .advance)]).value ∧
      Event.reporters polled.events = [12, 7] := by
  intro driver eeprom config inbound lamp polled
  have orders : Message.orders lamp.config 3 inbound =
      [(3, .off .color), (3, .limit .external .white (.ofWhite 51))] := by decide
  have senders : (inbound.filter fun message => (message.demand? lamp.config).isSome).map (·.sensor) =
      [12, 7] := by decide
  obtain ⟨_, empty, value, _, reporters, _⟩ :=
    ((ofLamp lamp).withInbound inbound).polls_serve_accepted_messages 3
  refine ⟨empty, ?_, reporters.trans senders⟩
  have lampEq : polled.value.lamp =
      (lamp.replay (Message.orders lamp.config 3 inbound ++ [(3, .advance)])).value :=
    congrArg Node.lamp value
  rw [lampEq, orders]
  rfl

end Node

end MeshLight
