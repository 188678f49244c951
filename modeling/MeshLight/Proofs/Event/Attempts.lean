import MeshLight.Event

/-!
Runs that differ in their luck only. An attempt is what remains of an event when its outcome is left out,
and two results match if their values are related and the same attempts have led to them. Sequences and
loops of matching steps match.
-/

namespace MeshLight

/-- The attempt that an output event tells of. The attempt is put down as one that succeeded. -/
def OutputEvent.attempt? : OutputEvent → Option OutputEvent
  | duty amount _ => some (.duty amount true)
  | log _ => none

/-- The attempt that an event tells of. Reading the memory is not taken for an attempt; whether it
succeeds is there to be seen. -/
def Event.attempt? : Event → Option Event
  | log _ => none
  | duty channel amount _ => some (.duty channel amount true)
  | write offset image _ => some (.write offset image true)
  | status sensor on _ => some (.status sensor on true)
  | sketch name version _ => some (.sketch name version true)
  | present sensor kind description _ => some (.present sensor kind description true)
  | event => some event

/-- The attempts of a trace, oldest first. -/
def Event.attempts (events : List Event) : List Event :=
  events.filterMap Event.attempt?

theorem Event.attempt?_ofOutput (channel : Channel) (output : OutputEvent) :
    (Event.ofOutput channel output).attempt? = output.attempt?.map (Event.ofOutput channel) := by
  cases output <;> rfl

namespace Traced

variable {ε φ α β σ τ ι : Type} {look : ε → Option φ}

/-- Two results have related values, and whoever looks at their traces in this way finds no
difference. -/
structure Matches (look : ε → Option φ) (related : α → β → Prop) (first : Traced ε α)
    (second : Traced ε β) : Prop where
  value : related first.value second.value
  events : first.events.filterMap look = second.events.filterMap look

theorem matches_pure {related : α → β → Prop} {first : α} {second : β}
    (start : related first second) :
    Matches look related (pure first) (pure second) where
  value := start
  events := rfl

theorem Matches.bind {before : α → β → Prop} {after : σ → τ → Prop} {first : Traced ε α}
    {second : Traced ε β} {firstNext : α → Traced ε σ} {secondNext : β → Traced ε τ}
    (result : Matches look before first second)
    (next : before first.value second.value →
      Matches look after (firstNext first.value) (secondNext second.value)) :
    Matches look after (first >>= firstNext) (second >>= secondNext) where
  value := (next result.value).value
  events := by
    rw [bind_events, bind_events, List.filterMap_append, List.filterMap_append, result.events,
      (next result.value).events]

/-- The same beginning makes no difference. -/
theorem matches_same_bind {related : σ → τ → Prop} {firstNext : α → Traced ε σ}
    {secondNext : α → Traced ε τ} (result : Traced ε α)
    (next : Matches look related (firstNext result.value) (secondNext result.value)) :
    Matches look related (result >>= firstNext) (result >>= secondNext) where
  value := next.value
  events := by
    rw [bind_events, bind_events, List.filterMap_append, List.filterMap_append, next.events]

theorem matches_foldlM {related : σ → τ → Prop} {firstStep : σ → ι → Traced ε σ}
    {secondStep : τ → ι → Traced ε τ} {items : List ι}
    (step : ∀ first second, ∀ item ∈ items, related first second →
      Matches look related (firstStep first item) (secondStep second item))
    {first : σ} {second : τ} (start : related first second) :
    Matches look related (items.foldlM firstStep first) (items.foldlM secondStep second) := by
  induction items generalizing first second with
  | nil =>
      exact matches_pure start
  | cons item rest inductionHypothesis =>
      rw [List.foldlM_cons, List.foldlM_cons]
      refine (step first second item List.mem_cons_self start).bind fun next => ?_
      exact inductionHypothesis
        (fun first second item member => step first second item (List.mem_cons_of_mem _ member)) next

theorem Matches.ofOutput {related : α → β → Prop} {first : Traced OutputEvent α}
    {second : Traced OutputEvent β}
    (result : Matches OutputEvent.attempt? related first second) (channel : Channel) :
    Matches Event.attempt? related (first.mapEvents (Event.ofOutput channel))
      (second.mapEvents (Event.ofOutput channel)) where
  value := result.value
  events := by
    have attempts (events : List OutputEvent) :
        (events.map (Event.ofOutput channel)).filterMap Event.attempt? =
          (events.filterMap OutputEvent.attempt?).map (Event.ofOutput channel) := by
      rw [List.filterMap_map, List.map_filterMap]
      exact congrArg (List.filterMap · events) (funext (Event.attempt?_ofOutput channel))
    rw [mapEvents_events, mapEvents_events, attempts, attempts, result.events]

end Traced

end MeshLight
