import MeshLight.Proofs.Lamp.Twins
import MeshLight.Proofs.Station.Scenes

/-!
What failures can do to a station. Stations whose radio, memory and outputs differ in which sends, writes
and duties succeed go through the same states, as long as the memory is read before it can have been
written, and attempt the same things. So no failure is ever made up for, and none does any harm beyond
itself.
-/

namespace MeshLight

namespace Message

theorem ne_boot_of_demand? {config : Config} {message : Message} {op : Lamp.Op}
    (demanded : message.demand? config = some op) : op ≠ .boot := by
  obtain ⟨group, onGroup, _⟩ := exists_target_of_demand? demanded
  exact Lamp.Op.ne_boot_of_target? onGroup

end Message

theorem Action.ne_boot_of_mem_orders {lit : Bool} {scene : Scene} {action : Action} {op : Lamp.Op}
    (member : op ∈ action.orders lit scene) : op ≠ .boot := by
  cases action with
  | toggle =>
      rw [orders_toggle] at member
      obtain ⟨group, _, rfl⟩ := List.mem_map.1 member
      cases lit <;> simp
  | showScene =>
      rw [orders_showScene] at member
      obtain ⟨group, _, rfl⟩ := List.mem_map.1 member
      cases scene.lights group <;> simp

namespace Node

/-- Two nodes have lamps that are twins, and the same scene comes next. -/
structure Twins (first second : Node Fader) : Prop where
  lamp : first.lamp.Twins second.lamp
  scene_eq : first.scene = second.scene

namespace Twins

variable {first second : Node Fader} (twins : first.Twins second) (now : Nat)
include twins

theorem operate {op : Lamp.Op} (notBoot : op ≠ .boot) :
    Traced.Matches Event.attempt? Twins (first.operate now op) (second.operate now op) :=
  (twins.lamp.apply now notBoot).bind fun lamps => Traced.matches_pure ⟨lamps, twins.scene_eq⟩

/-- A node that starts reads its memory, so the memories have to hold the same. -/
theorem start (bytes : first.lamp.store.eeprom.bytes = second.lamp.store.eeprom.bytes) :
    Traced.Matches Event.attempt? Twins (first.start now) (second.start now) := by
  have untouched (lamp : Lamp Fader) : lamp.present.value.store = lamp.store := by
    simp only [Lamp.present, Traced.bind_value, Lamp.send_value]
  refine twins.lamp.present.bind fun presented => ?_
  refine (presented.boot now ?_).bind fun booted => Traced.matches_pure ⟨booted, twins.scene_eq⟩
  rw [untouched, untouched]
  exact bytes

theorem receive (message : Message) :
    Traced.Matches Event.attempt? Twins (first.receive now message) (second.receive now message) := by
  rw [receive_eq, receive_eq, twins.lamp.config_eq]
  refine Traced.matches_same_bind _ ?_
  cases demanded : message.demand? second.lamp.config with
  | none =>
      exact Traced.matches_pure twins
  | some op =>
      exact twins.operate now (Message.ne_boot_of_demand? demanded)

theorem drain :
    Traced.Matches Event.attempt? Twins (first.drain now) (second.drain now) := by
  rw [drain_eq, drain_eq, twins.lamp.inbound_eq]
  exact Traced.matches_foldlM (fun _ _ message _ nodes => nodes.receive now message)
    ⟨twins.lamp.withInbound [], twins.scene_eq⟩

theorem poll :
    Traced.Matches Event.attempt? Twins (first.poll now) (second.poll now) :=
  (twins.drain now).bind fun drained => drained.operate now Lamp.Op.noConfusion

/-- An action goes by what is lit and by the scene, not by what the outputs took. -/
theorem act (action : Action) :
    Traced.Matches Event.attempt? Twins (first.act now action) (second.act now action) := by
  rw [Node.act, Node.act, twins.lamp.isOn_eq, twins.scene_eq]
  refine (twins.lamp.replay ?_).bind fun lamps => Traced.matches_pure ⟨lamps, rfl⟩
  intro timed member
  obtain ⟨op, ordered, rfl⟩ := List.mem_map.1 member
  exact Action.ne_boot_of_mem_orders ordered

theorem handler (action : Action) :
    Traced.Matches Event.attempt? Twins (action.handler first now) (action.handler second now) := by
  rw [handler_eq, handler_eq]
  exact twins.act now action

end Twins

end Node

namespace Button

/-- The button has no handlers but those that a station registers. Some of them may have been taken
away, or stand at another gesture. -/
def IsWired (button : Button (Node Fader)) : Prop :=
  ∀ gesture handler, button.handlers gesture = some handler →
    ∃ action : Action, handler = action.handler

namespace IsWired

variable {button : Button (Node Fader)} (wired : button.IsWired)
include wired

theorem withHandler (gesture : Gesture) {handler : Option (Handler (Node Fader))}
    (known : ∀ found, handler = some found → ∃ action : Action, found = action.handler) :
    (button.withHandler gesture handler).IsWired := by
  intro asked found registered
  simp only [Button.withHandler] at registered
  split_ifs at registered with same
  · exact known found registered
  · exact wired asked found registered

theorem on (gesture : Gesture) (action : Action) : (button.on gesture action.handler).IsWired :=
  wired.withHandler gesture fun _ same => ⟨action, (Option.some.inj same).symm⟩

theorem clear (gesture : Gesture) : (button.clear gesture).IsWired :=
  wired.withHandler gesture fun _ absent => nomatch absent

theorem respond {first second : Node Fader} (twins : first.Twins second) (seen : Option Gesture)
    (now : Nat) :
    Traced.Matches Event.attempt? Node.Twins (Button.respond button.handlers seen first now)
      (Button.respond button.handlers seen second now) := by
  rw [Button.respond, Button.respond]
  cases registered : seen.bind button.handlers with
  | none =>
      exact Traced.matches_pure twins
  | some handler =>
      obtain ⟨gesture, _, found⟩ := Option.bind_eq_some_iff.1 registered
      obtain ⟨action, rfl⟩ := wired gesture handler found
      exact twins.handler now action

/-- The same button sees the same in both runs, and leaves twins behind. -/
theorem poll {first second : Node Fader} (twins : first.Twins second) (now : Nat)
    (level : Option Bool) :
    Traced.Matches Event.attempt?
      (fun first second => first.2.1 = second.2.1 ∧ first.2.1.IsWired ∧
        first.2.2.Twins second.2.2)
      (button.poll first now level) (button.poll second now level) where
  value := by
    rw [poll_eq, poll_eq]
    exact ⟨rfl, wired, (wired.respond twins _ now).value⟩
  events := by
    rw [poll_eq, poll_eq, List.filterMap_append, List.filterMap_append,
      (wired.respond twins _ now).events]

end IsWired

end Button

namespace Station

/-- Two stations have nodes that are twins, and the very same button. -/
structure Twins (first second : Station Fader) : Prop where
  node : first.node.Twins second.node
  button_eq : first.button = second.button
  wired : first.button.IsWired

namespace Twins

variable {first second : Station Fader} (twins : first.Twins second) (now : Nat)
include twins

theorem onNode {firstNode secondNode : Traced Event (Node Fader)}
    (nodes : Traced.Matches Event.attempt? Node.Twins firstNode secondNode) :
    Traced.Matches Event.attempt? Twins (apply.onNode first firstNode)
      (apply.onNode second secondNode) :=
  nodes.bind fun changed => Traced.matches_pure ⟨changed, twins.button_eq, twins.wired⟩

theorem start (bytes : first.node.lamp.store.eeprom.bytes = second.node.lamp.store.eeprom.bytes) :
    Traced.Matches Event.attempt? Twins (first.apply now .start) (second.apply now .start) :=
  twins.onNode (twins.node.start now bytes)

theorem cycle (level : Option Bool) :
    Traced.Matches Event.attempt? Twins (first.cycle now level) (second.cycle now level) := by
  rw [Station.cycle, Station.cycle, ← twins.button_eq]
  refine (twins.node.drain now).bind fun drained => ?_
  refine (twins.wired.poll drained now level).bind ?_
  rintro ⟨button, wired, acted⟩
  refine (acted.operate now Lamp.Op.noConfusion).bind fun advanced => ?_
  exact Traced.matches_pure ⟨advanced, button, wired⟩

theorem withButton (change : Button (Node Fader) → Button (Node Fader))
    (wired : (change first.button).IsWired) :
    { first with button := change first.button }.Twins
      { second with button := change second.button } :=
  ⟨twins.node, congrArg change twins.button_eq, wired⟩

theorem apply {op : Op} (notStart : op ≠ .start) (notBoot : op ≠ .lamp .boot) :
    Traced.Matches Event.attempt? Twins (first.apply now op) (second.apply now op) := by
  cases op with
  | start =>
      exact absurd rfl notStart
  | receive message =>
      exact twins.onNode (twins.node.receive now message)
  | push message =>
      have inbound := congrArg (· ++ [message]) twins.node.lamp.inbound_eq
      have lamps : (first.node.push message).lamp.Twins (second.node.push message).lamp :=
        { twins.node.lamp with inbound_eq := inbound }
      exact Traced.matches_pure ⟨⟨lamps, twins.node.scene_eq⟩, twins.button_eq, twins.wired⟩
  | toggle =>
      exact twins.onNode (twins.node.handler now .toggle)
  | showScene =>
      exact twins.onNode (twins.node.handler now .showScene)
  | poll =>
      exact twins.onNode (twins.node.poll now)
  | lamp op =>
      have notBootOp : op ≠ .boot := fun boots => notBoot (congrArg Op.lamp boots)
      exact twins.onNode (twins.node.operate now notBootOp)
  | cycle level =>
      exact twins.cycle now level
  | register =>
      have wired := (twins.wired.on .shortRelease .toggle).on .longPress .showScene
      exact Traced.matches_pure (twins.withButton register wired)
  | clear gesture =>
      exact Traced.matches_pure (twins.withButton (·.clear gesture) (twins.wired.clear gesture))

end Twins

/-- Runs match if the memories hold the same at the start and are read anew at most there. -/
theorem Twins.replay {first second : Station Fader} (twins : first.Twins second)
    (bytes : first.node.lamp.store.eeprom.bytes = second.node.lamp.store.eeprom.bytes)
    {history : List (Nat × Op)} (noBoot : ∀ timed ∈ history, timed.2 ≠ .lamp .boot)
    (startsOnce : ∀ timed ∈ history.tail, timed.2 ≠ .start) :
    Traced.Matches Event.attempt? Twins (first.replay history) (second.replay history) := by
  cases history with
  | nil =>
      exact Traced.matches_pure twins
  | cons timed rest =>
      obtain ⟨now, op⟩ := timed
      have begun : Traced.Matches Event.attempt? Twins (first.apply now op) (second.apply now op) := by
        by_cases starts : op = .start
        · subst starts
          exact twins.start now bytes
        · exact twins.apply now starts (noBoot (now, op) List.mem_cons_self)
      rw [Station.replay, Station.replay, Traced.replay, Traced.replay, List.foldlM_cons,
        List.foldlM_cons]
      refine begun.bind fun next => Traced.matches_foldlM ?_ next
      intro first second timed member stations
      exact stations.apply timed.1 (startsOnce timed member)
        (noBoot timed (List.mem_cons_of_mem _ member))

end Station

/-- Which sends, writes and duties of a station are to fail. -/
structure Luck where
  sends : FaultPlan
  writes : FaultPlan
  duties : Channel → FaultPlan

def Fader.under (fader : Fader) (faults : FaultPlan) : Fader :=
  { fader with pwm := { fader.pwm with faults } }

/-- The lamp with other luck. Which reads of the memory fail is no part of it. -/
def Lamp.under (lamp : Lamp Fader) (luck : Luck) : Lamp Fader :=
  let fixture := lamp.engine.fixture
  { lamp with
    engine := { lamp.engine with
      fixture := {
        red := fixture.red.under (luck.duties .red)
        green := fixture.green.under (luck.duties .green)
        blue := fixture.blue.under (luck.duties .blue)
        white := fixture.white.under (luck.duties .white) } }
    store := { lamp.store with
      eeprom := { lamp.store.eeprom with writeFaults := luck.writes } }
    radio := { lamp.radio with faults := luck.sends } }

/-- The lamp with other bytes in its memory. -/
def Lamp.holding (lamp : Lamp Fader) (bytes : Array UInt8) : Lamp Fader :=
  { lamp with store := { lamp.store with eeprom := { lamp.store.eeprom with bytes } } }

theorem Fader.Twins.eq_under {first second : Fader} (twins : first.Twins second) :
    second = first.under second.pwm.faults := by
  rcases first with ⟨value, ramp, maxDuty, faults⟩
  rcases second with ⟨otherValue, otherRamp, otherMaxDuty, otherFaults⟩
  obtain ⟨rfl, rfl, rfl⟩ := twins
  rfl

/-- There is nothing to lamps being twins but luck and what lies in the memory. -/
theorem Lamp.Twins.exists_eq_under {first second : Lamp Fader} (twins : first.Twins second) :
    ∃ luck bytes, second = (first.under luck).holding bytes := by
  obtain ⟨luck, sends, writes, fixtures⟩ : ∃ luck : Luck,
      luck.sends = second.radio.faults ∧ luck.writes = second.store.eeprom.writeFaults ∧
        (first.under luck).engine.fixture = second.engine.fixture := by
    let duties (channel : Channel) := (second.engine.fixture.driver channel).pwm.faults
    refine ⟨⟨second.radio.faults, second.store.eeprom.writeFaults, duties⟩, rfl, rfl, ?_⟩
    apply Fixture.ext_driver
    intro channel
    have drivers := twins.engine.fixture channel
    cases channel <;> exact drivers.eq_under.symm
  refine ⟨luck, second.store.eeprom.bytes, ?_⟩
  rcases second with ⟨config, ⟨fixture, runs⟩, ⟨offset, ⟨bytes, readFaults, writeFaults⟩, record,
    loaded⟩, ⟨inbound, faults⟩⟩
  obtain rfl : first.config = config := twins.config_eq
  obtain rfl : (first.under luck).engine.fixture = fixture := fixtures
  obtain rfl : first.engine.runs = runs := twins.engine.runs_eq
  obtain rfl : first.store.offset = offset := twins.store.offset_eq
  obtain rfl : first.store.eeprom.readFaults = readFaults := twins.store.readFaults_eq
  obtain rfl : luck.writes = writeFaults := writes
  obtain rfl : first.store.record = record := twins.store.record_eq
  obtain rfl : first.store.loaded = loaded := twins.store.loaded_eq
  obtain rfl : first.radio.inbound = inbound := twins.inbound_eq
  obtain rfl : luck.sends = faults := sends
  rfl

namespace Station

def under (station : Station Fader) (luck : Luck) : Station Fader :=
  { station with node := { station.node with lamp := station.node.lamp.under luck } }

def holding (station : Station Fader) (bytes : Array UInt8) : Station Fader :=
  { station with node := { station.node with lamp := station.node.lamp.holding bytes } }

theorem Twins.exists_eq_under {first second : Station Fader} (twins : first.Twins second) :
    ∃ luck bytes, second = (first.under luck).holding bytes := by
  obtain ⟨luck, bytes, lamps⟩ := twins.node.lamp.exists_eq_under
  refine ⟨luck, bytes, ?_⟩
  rcases second with ⟨⟨lamp, scene⟩, button⟩
  obtain rfl : lamp = (first.node.lamp.under luck).holding bytes := lamps
  obtain rfl : first.node.scene = scene := twins.node.scene_eq
  obtain rfl : first.button = button := twins.button_eq
  rfl

theorem twins_under {station : Station Fader} (wired : station.button.IsWired) (luck other : Luck) :
    (station.under luck).Twins (station.under other) := by
  have fixtures : (station.node.lamp.under luck).engine.fixture.Twins
      (station.node.lamp.under other).engine.fixture := by
    intro channel
    cases channel <;> exact ⟨rfl, rfl, rfl⟩
  have stores : (station.node.lamp.under luck).store.Twins (station.node.lamp.under other).store :=
    ⟨rfl, rfl, rfl, rfl, fun _ => rfl⟩
  exact ⟨⟨⟨rfl, ⟨rfl, fixtures⟩, stores, rfl⟩, rfl⟩, rfl, wired⟩

/-- Whatever state a station starts from, if it is started at most once and before anything else, it makes
no difference to it which sends, writes and duties fail: after every step it is in the same state, but
for the failures to come and what the memory holds, and it has attempted the same things in the same
order. -/
theorem luck_changes_nothing_else {station : Station Fader} (wired : station.button.IsWired)
    {history : List (Nat × Op)} (noBoot : ∀ timed ∈ history, timed.2 ≠ .lamp .boot)
    (startsOnce : ∀ timed ∈ history.tail, timed.2 ≠ .start) (luck other : Luck) :
    ∀ earlier, earlier <+: history →
      let first := (station.under luck).replay earlier
      let second := (station.under other).replay earlier
      let firstLamp := first.value.node.lamp
      let secondLamp := second.value.node.lamp
      (∀ channel,
        let firstDriver := firstLamp.engine.fixture.driver channel
        let secondDriver := secondLamp.engine.fixture.driver channel
        firstDriver.value = secondDriver.value ∧ firstDriver.ramp = secondDriver.ramp) ∧
      firstLamp.engine.runs = secondLamp.engine.runs ∧
      firstLamp.store.record = secondLamp.store.record ∧
      firstLamp.store.loaded = secondLamp.store.loaded ∧
      firstLamp.radio.inbound = secondLamp.radio.inbound ∧
      first.value.node.scene = second.value.node.scene ∧
      first.value.button = second.value.button ∧
      (∃ fortune bytes, second.value = (first.value.under fortune).holding bytes) ∧
      Event.attempts first.events = Event.attempts second.events := by
  rintro earlier ⟨later, rfl⟩ first second firstLamp secondLamp
  have noBootEarlier : ∀ timed ∈ earlier, timed.2 ≠ .lamp .boot := fun timed member =>
    noBoot timed (List.mem_append_left later member)
  have startsOnceEarlier : ∀ timed ∈ earlier.tail, timed.2 ≠ .start := by
    intro timed member
    cases earlier with
    | nil =>
        cases member
    | cons head rest =>
        exact startsOnce timed (List.mem_append_left later member)
  have runs : Traced.Matches Event.attempt? Twins first second :=
    (twins_under wired luck other).replay rfl noBootEarlier startsOnceEarlier
  have lamps := runs.value.node.lamp
  refine ⟨?_, lamps.engine.runs_eq, lamps.store.record_eq, lamps.store.loaded_eq, lamps.inbound_eq,
    runs.value.node.scene_eq, runs.value.button_eq, runs.value.exists_eq_under, runs.events⟩
  intro channel
  have drivers := lamps.engine.fixture channel
  exact ⟨drivers.value_eq, drivers.ramp_eq⟩

/-- Everything succeeds in one run and nothing in the other. The memories hold different bytes in the
end, but the stations have done the same. -/
theorem unlucky_station_does_the_same :
    let fader : Fader := { value := 0, ramp := none, pwm := ⟨1000, .always false⟩ }
    let eeprom : Eeprom :=
      { bytes := #[2, 17, 34, 51, 68, 85, 102, 119, 136]
        readFaults := .always false
        writeFaults := .always false }
    let lamp := Lamp.assemble {} ⟨fader, fader, fader, fader⟩ eeprom ⟨[], .always false⟩
    let station := bound { shortMs := 50, longMs := 400 } lamp
    let history : List (Nat × Op) :=
      [(0, .start), (10, .lamp (.limit .button .white (.ofWhite 51))), (20, .cycle (some true)),
        (420, .cycle (some true)), (4000, .poll)]
    let plans (fails : Bool) : Luck := ⟨.always fails, .always fails, fun _ => .always fails⟩
    let lucky := (station.under (plans false)).replay history
    let unlucky := (station.under (plans true)).replay history
    station.button.IsWired ∧
      (∀ timed ∈ history, timed.2 ≠ .lamp .boot) ∧
      (∀ timed ∈ history.tail, timed.2 ≠ .start) ∧
      lucky.value.node.lamp.store.record = unlucky.value.node.lamp.store.record ∧
      lucky.value.node.lamp.store.eeprom.bytes ≠ unlucky.value.node.lamp.store.eeprom.bytes ∧
      Event.attempts lucky.events = Event.attempts unlucky.events := by
  intro fader eeprom lamp station history plans lucky unlucky
  have fresh : (Button.ofThresholds ⟨50, 400⟩ : Button (Node Fader)).IsWired := by
    intro gesture handler found
    cases found
  have wired : station.button.IsWired := (fresh.on .shortRelease .toggle).on .longPress .showScene
  have noBoot : ∀ timed ∈ history, timed.2 ≠ .lamp .boot := by decide
  have startsOnce : ∀ timed ∈ history.tail, timed.2 ≠ .start := by decide
  obtain ⟨_, _, record, _, _, _, _, _, attempts⟩ :=
    luck_changes_nothing_else wired noBoot startsOnce (plans false) (plans true) history
      (List.prefix_refl history)
  have different :
      lucky.value.node.lamp.store.eeprom.bytes ≠ unlucky.value.node.lamp.store.eeprom.bytes := by
    decide
  exact ⟨wired, noBoot, startsOnce, record, different, attempts⟩

end Station

end MeshLight
