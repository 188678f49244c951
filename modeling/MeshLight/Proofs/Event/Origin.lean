import MeshLight.Engine
import MeshLight.Proofs.Store.Calls

/-!
Where events come from. A fixture and an engine cause commands, duties and log records only, and a
store causes reads, writes and log records only, so that a trace of theirs is empty for whoever looks
for events of another kind.
-/

namespace MeshLight

namespace Traced

variable {ε σ ι α β : Type} {property : ε → Prop}

/-- Every event on the way to a result has a property. -/
def Emits (property : ε → Prop) (result : Traced ε α) : Prop :=
  ∀ event ∈ result.events, property event

@[simp]
theorem emits_pure (value : α) : (pure value : Traced ε α).Emits property := by
  intro event member
  cases member

@[simp]
theorem emits_emit (event : ε) : (emit event).Emits property ↔ property event :=
  List.forall_mem_singleton

@[simp]
theorem emits_bind (first : Traced ε α) (next : α → Traced ε β) :
    (first >>= next).Emits property ↔
      first.Emits property ∧ (next first.value).Emits property :=
  List.forall_mem_append

@[simp]
theorem emits_map (f : α → β) (result : Traced ε α) :
    (f <$> result).Emits property ↔ result.Emits property := by
  rw [Emits, map_events]
  exact Iff.rfl

theorem emits_foldlM {step : σ → ι → Traced ε σ}
    (each : ∀ state item, (step state item).Emits property) (state : σ) (items : List ι) :
    (items.foldlM step state).Emits property := by
  induction items generalizing state with
  | nil =>
      exact emits_pure state
  | cons item rest inductionHypothesis =>
      rw [List.foldlM_cons, emits_bind]
      exact ⟨each state item, inductionHypothesis (step state item).value⟩

theorem Emits.imp {other : ε → Prop} {result : Traced ε α} (emits : result.Emits property)
    (implies : ∀ event, property event → other event) : result.Emits other :=
  fun event member => implies event (emits event member)

end Traced

namespace Event

/-- What the light does: it is commanded and driven, and that may be logged. -/
def IsOfLight : Event → Prop
  | log _ | command .. | duty .. => True
  | _ => False

/-- What the memory does: it is read and written, and that may be logged. -/
def IsOfMemory : Event → Prop
  | log _ | read .. | write .. => True
  | _ => False

theorem isOfLight_ofOutput (channel : Channel) (output : OutputEvent) :
    (ofOutput channel output).IsOfLight := by
  cases output <;> exact trivial

end Event

namespace Fixture

variable {δ : Type}

theorem emits_change (fixture : Fixture δ) (channel : Channel)
    (action : δ → Traced OutputEvent δ) :
    (fixture.change channel action).Emits Event.IsOfLight := by
  refine (Traced.emits_bind _ _).2 ⟨?_, Traced.emits_pure _⟩
  intro event member
  obtain ⟨output, _, rfl⟩ := List.mem_map.1 member
  exact Event.isOfLight_ofOutput channel output

variable [ChannelDriver δ] (fixture : Fixture δ) (now : Nat)

theorem emits_command (channel : Channel) (order : ChannelCommand) :
    (fixture.command now channel order).Emits Event.IsOfLight :=
  (Traced.emits_bind _ _).2 ⟨(Traced.emits_emit _).2 trivial, emits_change _ _ _⟩

theorem emits_fade (group : Group) (target : Level) (durationMs : UInt32) :
    (fixture.fade now group target durationMs).Emits Event.IsOfLight :=
  Traced.emits_foldlM (fun fixture channel => fixture.emits_command now channel _) _ _

theorem emits_sweep (group : Group) (start stop : Level) (durationMs : UInt32) :
    (fixture.sweep now group start stop durationMs).Emits Event.IsOfLight := by
  refine (Traced.emits_bind _ _).2 ⟨?_, emits_fade _ _ _ _ _⟩
  exact Traced.emits_foldlM (fun fixture channel => fixture.emits_command now channel _) _ _

theorem emits_advance : (fixture.advance now).Emits Event.IsOfLight :=
  Traced.emits_foldlM (fun fixture channel => fixture.emits_change channel _) _ _

end Fixture

namespace Engine

variable {δ : Type} [ChannelDriver δ] (engine : Engine δ) (now : Nat) (group : Group)

theorem emits_launch (run : Run) : (engine.launch now group run).Emits Event.IsOfLight := by
  simp [launch, Fixture.emits_sweep, Event.IsOfLight]

theorem emits_fade (target : Level) (durationMs : UInt32) :
    (engine.fade now group target durationMs).Emits Event.IsOfLight := by
  simp [fade, Fixture.emits_fade, Event.IsOfLight]

theorem emits_bounce : (engine.bounce now group).Emits Event.IsOfLight := by
  rw [bounce]
  split
  · exact engine.emits_launch now group _
  · exact Traced.emits_pure engine

theorem emits_tick : (engine.tick now).Emits Event.IsOfLight :=
  Traced.emits_foldlM (fun engine group => engine.emits_bounce now group) _ _

theorem emits_advance : (engine.advance now).Emits Event.IsOfLight :=
  (Traced.emits_bind _ _).2 ⟨engine.fixture.emits_advance now, emits_tick _ now⟩

end Engine

namespace Store

theorem Readies.emits {store ready : Store} {events : List Event}
    (readies : Readies store ready events) : ∀ event ∈ events, event.IsOfMemory := by
  intro event member
  cases readies with
  | before =>
      cases member
  | now =>
      rcases List.mem_cons.1 member with rfl | note
      · exact trivial
      · obtain ⟨record, rfl⟩ := exists_log_of_mem_notes note
        exact trivial

variable (store : Store) (source : Source) (group : Group) (level : Level)

theorem emits_commit : (store.commit source group level).Emits Event.IsOfMemory := by
  simp [commit, Event.IsOfMemory]

theorem emits_save : (store.save source group level).Emits Event.IsOfMemory := by
  rcases store.save_cases source group level with
    ⟨_, eeprom, _, refused⟩ | ⟨ready, events, readies, saved⟩
  · rw [refused]
    exact List.forall_mem_singleton.2 trivial
  · rw [saved]
    exact List.forall_mem_append.2 ⟨readies.emits, ready.emits_commit source group level⟩

end Store

end MeshLight
