import MeshLight.Proofs.Store.Reading

/-!
The store over a memory that takes every write. As soon as the record was read, the cached record is the
one that the memory holds, and until then the memory is as it was found. Reads may fail, and may be
repeated, at any time.
-/

namespace MeshLight

namespace Eeprom

/-- No write is going to fail as long as its block lies inside the memory. -/
def TakesWrites (eeprom : Eeprom) : Prop :=
  ∀ use, eeprom.writeFaults.fails use = false

namespace TakesWrites

variable {eeprom : Eeprom} {offset length : Nat} (takesWrites : eeprom.TakesWrites)
  (block : Vector UInt8 length)
include takesWrites

theorem read : (eeprom.read offset length).2.TakesWrites :=
  takesWrites

theorem write : (eeprom.write offset block).2.TakesWrites := by
  simp only [Eeprom.write]
  split <;> exact takesWrites

theorem write_succeeds (inside : offset + length ≤ eeprom.bytes.size) :
    (eeprom.write offset block).1 = true := by
  have sound : eeprom.writeFaults.draw.1 = false := takesWrites _
  rw [Eeprom.write]
  simp [sound, inside]

/-- What was written can be read back. -/
theorem block?_write (inside : offset + length ≤ eeprom.bytes.size) :
    (eeprom.write offset block).2.block? offset length = some block := by
  rcases eeprom.write_cases offset block with ⟨_, bytes⟩ | ⟨failed, _⟩
  · rw [← eeprom.block?_overwrite offset block inside]
    exact block?_congr bytes
  · rw [takesWrites.write_succeeds block inside] at failed
    cases failed

end TakesWrites

end Eeprom

namespace Event

def reading? : Event → Option Bool
  | .read _ succeeded => some succeeded
  | _ => none

/-- Which reads in a trace succeeded, oldest first. -/
def readings (events : List Event) : List Bool :=
  events.filterMap reading?

@[simp]
theorem readings_append (first second : List Event) :
    readings (first ++ second) = readings first ++ readings second :=
  List.filterMap_append

end Event

namespace Store

theorem eeprom_load (store : Store) :
    store.load.value.2.eeprom = (store.eeprom.read store.offset.toNat Record.size).2 := by
  cases read : (store.eeprom.read store.offset.toNat Record.size).1 with
  | none =>
      simp [load, read]
  | some image =>
      by_cases current : (Record.decode image).version = Record.currentVersion <;>
        simp [load, read, current]

/-- A store counts as read from the first read on that succeeds. -/
theorem loaded_step_iff (store : Store) (op : Op) :
    (store.step op).value.loaded = true ↔
      store.loaded = true ∨ true ∈ Event.readings (store.step op).events := by
  cases op with
  | load =>
      rw [step, apply]
      rcases store.load_cases with ⟨_, _, failed⟩ | ⟨_, _, _, _, read⟩
      · simp [failed, Event.readings, Event.reading?]
      · simp [read, Event.readings, Event.reading?]
  | save source group level =>
      rw [step, apply]
      rcases store.save_cases source group level with
        ⟨_, _, _, refused⟩ | ⟨ready, events, readies, saved⟩
      · simp [refused, Event.readings, Event.reading?]
      · have loaded : (ready.commit source group level).value.2.loaded = true := readies.ready_loaded
        rw [saved, Traced.map_value, Traced.map_events]
        refine iff_of_true loaded ?_
        cases readies with
        | before already =>
            exact Or.inl already
        | now =>
            exact Or.inr List.mem_cons_self

theorem replay_cons (store : Store) (op : Op) (rest : List Op) :
    store.replay (op :: rest) = store.step op >>= fun next => next.replay rest :=
  List.foldlM_cons

theorem loaded_replay_iff (store : Store) (history : List Op) :
    (store.replay history).value.loaded = true ↔
      store.loaded = true ∨ true ∈ Event.readings (store.replay history).events := by
  induction history generalizing store with
  | nil =>
      simp [replay, Event.readings]
  | cons op rest inductionHypothesis =>
      rw [replay_cons, Traced.bind_value, inductionHypothesis, loaded_step_iff, Traced.bind_events,
        Event.readings_append, List.mem_append, or_assoc]

/-- The memory takes every write and holds a record of the current version: the cached one, once it was
read, and before that the one that it held from the start. -/
structure Mirrors (offset : UInt32) (image : Record.Image) (store : Store) : Prop where
  offset_eq : store.offset = offset
  takesWrites : store.eeprom.TakesWrites
  unread : store.loaded = false → store.record = .blank ∧
    store.eeprom.block? offset.toNat Record.size = some image
  read : store.loaded = true → store.record.version = Record.currentVersion ∧
    store.eeprom.block? offset.toNat Record.size = some store.record.encode

namespace Mirrors

variable {offset : UInt32} {image : Record.Image} {store : Store}
  (mirrors : store.Mirrors offset image)
include mirrors

/-- The memory holds what was cached last, or what it held from the start. -/
theorem block_eq :
    store.eeprom.block? offset.toNat Record.size =
      some (if store.loaded then store.record.encode else image) := by
  cases loaded : store.loaded with
  | false =>
      exact (mirrors.unread loaded).2
  | true =>
      exact (mirrors.read loaded).2

theorem commit (loaded : store.loaded = true) (source : Source) (group : Group) (level : Level) :
    (store.commit source group level).value.2.Mirrors offset image where
  offset_eq := mirrors.offset_eq
  takesWrites := mirrors.takesWrites.write _
  unread := by
    intro unread
    exact absurd (unread.symm.trans loaded) Bool.false_ne_true
  read := by
    intro _
    have inside := Eeprom.inside_of_block? mirrors.block_eq
    refine ⟨(Record.version_remember _ _ _ _).trans (mirrors.read loaded).1, ?_⟩
    rw [← mirrors.offset_eq] at inside ⊢
    exact mirrors.takesWrites.block?_write _ inside

/-- A repeated read finds what is cached anyway. -/
theorem load (current : (Record.decode image).version = Record.currentVersion) :
    store.load.value.2.Mirrors offset image := by
  have takesWrites : store.load.value.2.eeprom.TakesWrites := by
    rw [eeprom_load]
    exact mirrors.takesWrites.read
  rcases store.load_cases with ⟨eeprom, same, failed⟩ | ⟨found, eeprom, block, same, read⟩
  · rw [failed] at takesWrites ⊢
    refine ⟨mirrors.offset_eq, takesWrites, ?_, ?_⟩
    · intro unread
      exact ⟨(mirrors.unread unread).1, (Eeprom.block?_congr same).trans (mirrors.unread unread).2⟩
    · intro loaded
      exact ⟨(mirrors.read loaded).1, (Eeprom.block?_congr same).trans (mirrors.read loaded).2⟩
  · rw [mirrors.offset_eq] at block
    have isCurrent : (Record.decode found).version = Record.currentVersion := by
      rw [mirrors.block_eq, Option.some.injEq] at block
      rw [← block]
      cases loaded : store.loaded with
      | false =>
          exact current
      | true =>
          exact (mirrors.read loaded).1
    have adopted : adopt (.decode found) = .decode found := if_pos isCurrent
    rw [read] at takesWrites ⊢
    refine ⟨mirrors.offset_eq, takesWrites, nofun, ?_⟩
    intro _
    rw [adopted, Record.encode_decode]
    exact ⟨isCurrent, (Eeprom.block?_congr same).trans block⟩

theorem step (current : (Record.decode image).version = Record.currentVersion) (op : Op) :
    (store.step op).value.Mirrors offset image := by
  have afterLoad := mirrors.load current
  cases op with
  | load =>
      exact afterLoad
  | save source group level =>
      rw [Store.step, Store.apply, Traced.map_value]
      by_cases loaded : store.loaded = true
      · rw [Store.save, if_pos loaded]
        exact mirrors.commit loaded source group level
      · rw [Store.save, if_neg loaded, Traced.bind_value]
        rcases store.load_cases with ⟨_, _, failed⟩ | ⟨_, _, _, _, read⟩
        · rw [failed] at afterLoad ⊢
          exact afterLoad
        · rw [read] at afterLoad ⊢
          exact afterLoad.commit rfl source group level

theorem replay (current : (Record.decode image).version = Record.currentVersion)
    (history : List Op) : (store.replay history).value.Mirrors offset image := by
  induction history generalizing store with
  | nil =>
      exact mirrors
  | cons op rest inductionHypothesis =>
      rw [replay_cons, Traced.bind_value]
      exact inductionHypothesis (mirrors.step current op)

end Mirrors

theorem mirrors_ofEeprom {eeprom : Eeprom} {offset : UInt32} {image : Record.Image}
    (takesWrites : eeprom.TakesWrites)
    (block : eeprom.block? offset.toNat Record.size = some image) :
    (ofEeprom eeprom offset).Mirrors offset image where
  offset_eq := rfl
  takesWrites := takesWrites
  unread := fun _ => ⟨rfl, block⟩
  read := nofun

end Store

end MeshLight
