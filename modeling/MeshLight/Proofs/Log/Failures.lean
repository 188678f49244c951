import MeshLight.Proofs.Node.Draining

/-!
Failures and what the log says about them. A device or the network fails to do what it was asked to, or a
message is turned down, and one error record tells of it before anything else can fail. Sequences and
loops of parts that keep the log in this way keep it.
-/

namespace MeshLight

namespace Event

/-- Something went wrong: a device or the network let the node down, or a message was turned down. -/
def fails (config : Config) : Event → Bool
  | duty _ _ succeeded | read _ succeeded | write _ _ succeeded | status _ _ succeeded
  | sketch _ _ succeeded | present _ _ _ succeeded => !succeeded
  | sampled level => level.isNone
  | received message => (message.demand? config).isNone
  | log _ | command _ _ => false

def failures (config : Config) (events : List Event) : List Event :=
  events.filter (fails config)

/-- The record that an event puts into the log as an error. -/
def error? : Event → Option LogRecord
  | log record => if record.severity = .error then some record else none
  | _ => none

/-- The errors that a trace puts into the log, oldest first. -/
def errors (events : List Event) : List LogRecord :=
  events.filterMap error?

theorem error?_eq_none_of_fails {config : Config} {event : Event}
    (fails : event.fails config = true) : event.error? = none := by
  cases event with
  | log record =>
      cases fails
  | command | duty | read | write | status | sketch | present | received | sampled =>
      rfl

/-- The record tells of the failure. -/
inductive Tells (config : Config) : Event → LogRecord → Prop
  | duty (channel : Channel) (amount : Nat) : Tells config (duty channel amount false) .dutyRejected
  | load (offset : UInt32) : Tells config (read offset false) (.loadFailed .read)
  | saveRead (offset : UInt32) (group : Group) (source : Source) :
      Tells config (read offset false) (.saveFailed group source .read)
  | saveWrite (offset : UInt32) (image : Record.Image) (group : Group) (source : Source) :
      Tells config (write offset image false) (.saveFailed group source .write)
  | status (sensor : UInt8) (on : Bool) :
      Tells config (status sensor on false) (.statusLost sensor on)
  | sketch (name version : String) : Tells config (sketch name version false) .sketchLost
  | present (sensor : UInt8) (kind : SensorKind) (description : String) :
      Tells config (present sensor kind description false) (.presentationLost sensor)
  | sampled : Tells config (sampled none) .pinUnreadable
  | sensor {message : Message} (unknown : message.addressee? config = none) :
      Tells config (received message) (.unexpectedSensor message.sensor)
  | type {message : Message} {group : Group} {type : UInt8}
      (known : message.addressee? config = some group)
      (unsupported : message.content = .unsupported type) :
      Tells config (received message) (.unexpectedType message.sensor type)
  | text {message : Message} {group : Group} {payload : Payload} {error : ParseError}
      (known : message.addressee? config = some group)
      (holds : message.content = .text payload)
      (refused : Command.parse group payload.text = .error error) :
      Tells config (received message) (.commandRejected payload.text error)

namespace Tells

variable {config : Config} {event : Event} {record : LogRecord} (tells : Tells config event record)
include tells

theorem fails_eq : event.fails config = true := by
  cases tells with
  | sensor unknown =>
      simp [fails, Message.demand?, unknown]
  | type known unsupported =>
      simp [fails, Message.demand?, known, unsupported]
  | text known holds refused =>
      simp [fails, Message.demand?, known, holds, refused]
  | duty | load | saveRead | saveWrite | status | sketch | present | sampled =>
      rfl

theorem error?_eq : (log record).error? = some record := by
  cases tells <;> rfl

end Tells

/-- The event neither is a failure nor puts an error into the log. -/
def IsCalm (config : Config) (event : Event) : Prop :=
  event.fails config = false ∧ event.error? = none

/-- A trace during which errors are logged in time: a failure that is left to be told of is told of
before there is another one, and nothing else is told of. The trace takes over one failure that has not
been told of, or none, and it leaves one, or none. -/
inductive Told (config : Config) : Option Event → List Event → Option Event → Prop
  | nil (owed : Option Event) : Told config owed [] owed
  | calm {owed left : Option Event} {event : Event} {rest : List Event}
      (calm : event.IsCalm config) (later : Told config owed rest left) :
      Told config owed (event :: rest) left
  | failure {left : Option Event} {event : Event} {rest : List Event}
      (fails : event.fails config = true)
      (later : Told config (some event) rest left) :
      Told config none (event :: rest) left
  | record {left : Option Event} {failed : Event} {record : LogRecord} {rest : List Event}
      (tells : Tells config failed record) (later : Told config none rest left) :
      Told config (some failed) (log record :: rest) left

namespace Told

variable {config : Config} {owed left last : Option Event} {first second : List Event}

theorem append (before : Told config owed first left) (after : Told config left second last) :
    Told config owed (first ++ second) last := by
  induction before with
  | nil =>
      exact after
  | calm calm _ inductionHypothesis =>
      exact .calm calm (inductionHypothesis after)
  | failure fails _ inductionHypothesis =>
      exact .failure fails (inductionHypothesis after)
  | record tells _ inductionHypothesis =>
      exact .record tells (inductionHypothesis after)

theorem of_calm (calm : ∀ event ∈ first, event.IsCalm config) : Told config owed first owed := by
  induction first with
  | nil =>
      exact .nil owed
  | cons event rest inductionHypothesis =>
      obtain ⟨head, tail⟩ := List.forall_mem_cons.1 calm
      exact .calm head (inductionHypothesis tail)

/-- Where a trace is cut off, some failure may be left to be told of. -/
theorem of_append (told : Told config owed (first ++ second) last) :
    ∃ left, Told config owed first left := by
  generalize split : first ++ second = events at told
  induction told generalizing first with
  | nil owed =>
      obtain ⟨rfl, rfl⟩ := List.append_eq_nil_iff.1 split
      exact ⟨owed, .nil owed⟩
  | @calm owed _ event rest calm _ inductionHypothesis =>
      cases first with
      | nil =>
          exact ⟨owed, .nil owed⟩
      | cons head tail =>
          obtain ⟨rfl, splitRest⟩ := List.cons_eq_cons.1 split
          exact (inductionHypothesis splitRest).imp fun _ before => .calm calm before
  | failure fails _ inductionHypothesis =>
      cases first with
      | nil =>
          exact ⟨none, .nil none⟩
      | cons head tail =>
          obtain ⟨rfl, splitRest⟩ := List.cons_eq_cons.1 split
          exact (inductionHypothesis splitRest).imp fun _ before => .failure fails before
  | @record _ failed _ _ tells _ inductionHypothesis =>
      cases first with
      | nil =>
          exact ⟨some failed, .nil (some failed)⟩
      | cons head tail =>
          obtain ⟨rfl, splitRest⟩ := List.cons_eq_cons.1 split
          exact (inductionHypothesis splitRest).imp fun _ before => .record tells before

/-- The errors tell of the failures one by one and in their order, but for the one that is left. -/
theorem exists_told (told : Told config owed first left) :
    ∃ done, owed.toList ++ failures config first = done ++ left.toList ∧
      List.Forall₂ (Tells config) done (errors first) := by
  induction told with
  | nil owed =>
      exact ⟨[], List.append_nil _, .nil⟩
  | calm calm _ inductionHypothesis =>
      obtain ⟨done, split, pairs⟩ := inductionHypothesis
      refine ⟨done, ?_, ?_⟩
      · rw [failures, List.filter_cons_of_neg (by simp [calm.1])]
        exact split
      · rw [errors, List.filterMap_cons_none calm.2]
        exact pairs
  | failure fails _ inductionHypothesis =>
      obtain ⟨done, split, pairs⟩ := inductionHypothesis
      refine ⟨done, ?_, ?_⟩
      · rw [failures, List.filter_cons_of_pos fails]
        exact split
      · rw [errors, List.filterMap_cons_none (error?_eq_none_of_fails fails)]
        exact pairs
  | @record _ failed record rest tells _ inductionHypothesis =>
      obtain ⟨done, split, pairs⟩ := inductionHypothesis
      refine ⟨failed :: done, ?_, ?_⟩
      · rw [Option.toList_some, List.singleton_append, List.cons_append, ← split]
        rfl
      · rw [errors, List.filterMap_cons_some tells.error?_eq]
        exact .cons tells pairs

end Told

end Event

namespace Traced

variable {α β σ ι : Type} {config : Config}

/-- Each failure on the way to a result is told of, and nothing is left to be told. -/
def Told (config : Config) (result : Traced Event α) : Prop :=
  Event.Told config none result.events none

theorem told_pure (value : α) : (pure value : Traced Event α).Told config :=
  .nil none

theorem told_emit {event : Event} (calm : event.IsCalm config) : (emit event).Told config :=
  .calm calm (.nil none)

theorem Told.bind {first : Traced Event α} {next : α → Traced Event β} (before : first.Told config)
    (after : (next first.value).Told config) : (first >>= next).Told config :=
  Event.Told.append before after

theorem told_foldlM {step : σ → ι → Traced Event σ}
    (each : ∀ state item, (step state item).Told config) (state : σ) (items : List ι) :
    (items.foldlM step state).Told config := by
  induction items generalizing state with
  | nil =>
      exact told_pure state
  | cons item rest inductionHypothesis =>
      rw [List.foldlM_cons]
      exact (each state item).bind (inductionHypothesis _)

end Traced

/-- Something is attempted, and if it fails, that is logged. -/
theorem Event.told_attempt {config : Config} {event : Bool → Event} {lost : LogRecord}
    (calm : (event true).IsCalm config)
    (tells : Tells config (event false) lost) (succeeded : Bool) :
    Told config none (event succeeded :: if succeeded then [] else [.log lost]) none := by
  cases succeeded with
  | false =>
      exact .failure tells.fails_eq (.record tells (.nil none))
  | true =>
      exact .calm calm (.nil none)

end MeshLight
