import MeshLight.Event
import Mathlib.Data.List.Basic

/-!
What is said to the drivers of the channels and to the network in a trace, whether or not it gets
through. The commands that a group gets and the reports that a sensor makes are a part of that, and known
with it.
-/

namespace MeshLight

/-- Something said to a driver or to the network, whether or not it gets through. -/
inductive Dispatch where
  | command (channel : Channel) (command : ChannelCommand)
  | status (sensor : UInt8) (on : Bool)
  | sketch (name version : String)
  | present (sensor : UInt8) (kind : SensorKind) (description : String)
  deriving DecidableEq, Repr

namespace Dispatch

def commandTo? (group : Group) : Dispatch → Option (Channel × ChannelCommand)
  | command channel order => if channel.group = group then some (channel, order) else none
  | status .. | sketch .. | present .. => none

def reportOf? (sensor : UInt8) : Dispatch → Option Bool
  | status asked on => if asked = sensor then some on else none
  | command .. | sketch .. | present .. => none

/-- The sensor that makes a report. -/
def reporter? : Dispatch → Option UInt8
  | status sensor _ => some sensor
  | command .. | sketch .. | present .. => none

/-- Commands, as they are said to the channels that they are for. -/
def ofOrders (orders : List (Channel × ChannelCommand)) : List Dispatch :=
  orders.map fun order => command order.1 order.2

variable {orders : List (Channel × ChannelCommand)} {group : Group}

theorem ofOrders_append (first second : List (Channel × ChannelCommand)) :
    ofOrders (first ++ second) = ofOrders first ++ ofOrders second :=
  List.map_append

/-- Whoever does not listen to commands hears nothing of them. -/
theorem filterMap_ofOrders {β : Type} {hear : Dispatch → Option β}
    (deaf : ∀ channel order, hear (command channel order) = none) :
    (ofOrders orders).filterMap hear = [] := by
  apply List.filterMap_eq_nil_iff.2
  intro dispatch member
  obtain ⟨order, _, rfl⟩ := List.mem_map.1 member
  exact deaf order.1 order.2

/-- Commands to the channels of one group are commands to that group and to no other one. -/
theorem filterMap_commandTo?_ofOrders (inside : ∀ order ∈ orders, order.1.group = group)
    (asked : Group) :
    (ofOrders orders).filterMap (commandTo? asked) = if asked = group then orders else [] := by
  rw [ofOrders, List.filterMap_map]
  by_cases same : asked = group
  · rw [if_pos same]
    refine (List.filterMap_congr ?_).trans List.filterMap_some
    intro order member
    exact if_pos ((inside order member).trans same.symm)
  · rw [if_neg same]
    apply List.filterMap_eq_nil_iff.2
    intro order member
    exact if_neg fun found => same (found.symm.trans (inside order member))

/-- Of what is said to the groups one after the other, each group gets its part. -/
theorem filterMap_commandTo?_flatMap {each : Group → List (Channel × ChannelCommand)}
    (inside : ∀ group, ∀ order ∈ each group, order.1.group = group) (asked : Group) :
    (ofOrders (Group.all.flatMap each)).filterMap (commandTo? asked) = each asked := by
  have parts (group : Group) := filterMap_commandTo?_ofOrders (inside group) asked
  cases asked <;> simp [Group.all, ofOrders_append, List.filterMap_append, parts]

end Dispatch

namespace Event

def dispatch? : Event → Option Dispatch
  | command channel order => some (.command channel order)
  | status sensor on _ => some (.status sensor on)
  | sketch name version _ => some (.sketch name version)
  | present sensor kind description _ => some (.present sensor kind description)
  | log _ | duty .. | read .. | write .. | received _ | sampled _ => none

/-- What was said in a trace, oldest first. -/
def dispatches (events : List Event) : List Dispatch :=
  events.filterMap dispatch?

/-- What somebody hears who listens to what is said in a trace, oldest first. -/
def heard {β : Type} (hear : Dispatch → Option β) (events : List Event) : List β :=
  (dispatches events).filterMap hear

/-- The commands in a trace that went to the channels of a group, oldest first. -/
def commandsTo (group : Group) (events : List Event) : List (Channel × ChannelCommand) :=
  heard (Dispatch.commandTo? group) events

/-- What a sensor was to report in a trace, oldest first, whether or not it got through. -/
def reportsOf (sensor : UInt8) (events : List Event) : List Bool :=
  heard (Dispatch.reportOf? sensor) events

/-- The sensors that made reports in a trace, oldest first. -/
def reporters (events : List Event) : List UInt8 :=
  heard Dispatch.reporter? events

variable (first second : List Event)

@[simp]
theorem dispatches_append : dispatches (first ++ second) = dispatches first ++ dispatches second :=
  List.filterMap_append

theorem heard_append {β : Type} (hear : Dispatch → Option β) :
    heard hear (first ++ second) = heard hear first ++ heard hear second := by
  rw [heard, dispatches_append, List.filterMap_append]
  rfl

@[simp]
theorem commandsTo_append (group : Group) :
    commandsTo group (first ++ second) = commandsTo group first ++ commandsTo group second :=
  heard_append first second _

@[simp]
theorem reportsOf_append (sensor : UInt8) :
    reportsOf sensor (first ++ second) = reportsOf sensor first ++ reportsOf sensor second :=
  heard_append first second _

@[simp]
theorem reporters_append : reporters (first ++ second) = reporters first ++ reporters second :=
  heard_append first second _

end Event

namespace Traced

variable {σ ι : Type}

/-- A loop says what its rounds say, if that does not depend on the state. -/
theorem dispatches_foldlM {step : σ → ι → Traced Event σ} {said : ι → List Dispatch}
    (each : ∀ state item, Event.dispatches (step state item).events = said item)
    (state : σ) (items : List ι) :
    Event.dispatches (items.foldlM step state).events = items.flatMap said := by
  induction items generalizing state with
  | nil =>
      rfl
  | cons item rest inductionHypothesis =>
      rw [List.foldlM_cons, bind_events, Event.dispatches_append, each, inductionHypothesis,
        List.flatMap_cons]

end Traced

end MeshLight
