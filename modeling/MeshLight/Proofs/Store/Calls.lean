import MeshLight.Store

/-!
What a single call of the store can do: reading fails or takes over the stored record, writing fails or
overwrites the block, and a save is a write behind at most one read.
-/

namespace MeshLight

namespace Eeprom

variable {eeprom other : Eeprom} {offset length : Nat}

@[simp]
theorem read_bytes (eeprom : Eeprom) (offset length : Nat) :
    (eeprom.read offset length).2.bytes = eeprom.bytes :=
  rfl

theorem block?_of_read {image : Vector UInt8 length}
    (read : (eeprom.read offset length).1 = some image) :
    eeprom.block? offset length = some image := by
  simp only [Eeprom.read] at read
  split at read
  · cases read
  · exact read

/-- A block depends on nothing but the bytes. -/
theorem block?_congr (same : other.bytes = eeprom.bytes) :
    other.block? offset length = eeprom.block? offset length := by
  simp only [block?, same]

theorem inside_of_block? {image : Vector UInt8 length}
    (stored : eeprom.block? offset length = some image) :
    offset + length ≤ eeprom.bytes.size := by
  rw [block?] at stored
  split at stored
  · assumption
  · cases stored

theorem write_cases (eeprom : Eeprom) (offset : Nat) (block : Vector UInt8 length) :
    (eeprom.write offset block).1 = true ∧
        (eeprom.write offset block).2.bytes = eeprom.overwrite offset block ∨
      (eeprom.write offset block).1 = false ∧
        (eeprom.write offset block).2.bytes = eeprom.bytes := by
  simp only [Eeprom.write]
  split
  · exact .inl ⟨rfl, rfl⟩
  · exact .inr ⟨rfl, rfl⟩

theorem overwrite_outside {block : Vector UInt8 length} {address : Nat}
    (outside : address < offset ∨ offset + length ≤ address) :
    (eeprom.overwrite offset block)[address]? = eeprom.bytes[address]? := by
  rw [overwrite, Array.getElem?_mapIdx]
  cases eeprom.bytes[address]? with
  | none =>
      rfl
  | some byte =>
      simp only [Option.map_some, Option.some.injEq]
      split
      case isTrue above =>
        rw [Vector.getElem?_eq_none (by omega), Option.getD_none]
      · rfl

end Eeprom

namespace Store

/-- What is logged about a record that was read. -/
def notes (stored : Record) : List Event :=
  (if stored.version = Record.currentVersion then []
    else [.log (.staleRecord stored.version)]) ++
      [.log (.restored (adopt stored).external (adopt stored).button)]

theorem exists_log_of_mem_notes {stored : Record} {event : Event} (member : event ∈ notes stored) :
    ∃ record, event = .log record := by
  rcases List.mem_append.1 member with stale | restored
  · split at stale
    · cases stale
    · exact ⟨_, List.mem_singleton.1 stale⟩
  · exact ⟨_, List.mem_singleton.1 restored⟩

theorem load_cases (store : Store) :
    (∃ eeprom, eeprom.bytes = store.eeprom.bytes ∧
      store.load = ⟨(.error .read, { store with eeprom }), [.read store.offset false]⟩) ∨
    ∃ image eeprom, store.eeprom.block? store.offset.toNat Record.size = some image ∧
      eeprom.bytes = store.eeprom.bytes ∧
        store.load =
          ⟨(.ok (), { store with eeprom, record := adopt (.decode image), loaded := true }),
            .read store.offset true :: notes (.decode image)⟩ := by
  cases read : store.eeprom.read store.offset.toNat Record.size with
  | mk image? eeprom =>
      have same : eeprom.bytes = store.eeprom.bytes := by
        rw [← store.eeprom.read_bytes store.offset.toNat Record.size, read]
      cases image? with
      | none =>
          refine .inl ⟨eeprom, same, ?_⟩
          apply Traced.ext <;> simp [load, read]
      | some image =>
          have stored := Eeprom.block?_of_read (congrArg Prod.fst read)
          refine .inr ⟨image, eeprom, stored, same, ?_⟩
          by_cases current : (Record.decode image).version = Record.currentVersion
          · apply Traced.ext <;> simp [load, read, notes, current]
          · apply Traced.ext <;> simp [load, read, notes, current]

theorem commit_cases (store : Store) (source : Source) (group : Group) (level : Level) :
    (∃ eeprom, eeprom.bytes = store.eeprom.overwrite store.offset.toNat
        (store.record.remember source group level).encode ∧
      store.commit source group level =
        ⟨(.ok (), { store with eeprom, record := store.record.remember source group level }),
          [.write store.offset (store.record.remember source group level).encode true]⟩) ∨
    ∃ eeprom, eeprom.bytes = store.eeprom.bytes ∧
      store.commit source group level =
        ⟨(.error .write,
            { store with eeprom, record := store.record.remember source group level }),
          [.write store.offset (store.record.remember source group level).encode false]⟩ := by
  have written := store.eeprom.write_cases store.offset.toNat
    (store.record.remember source group level).encode
  rcases written with ⟨succeeds, bytes⟩ | ⟨fails, bytes⟩
  · refine .inl ⟨_, bytes, ?_⟩
    apply Traced.ext <;> simp [commit, succeeds]
  · refine .inr ⟨_, bytes, ?_⟩
    apply Traced.ext <;> simp [commit, fails]

/-- The store becomes ready to write, with these events: it was read before, or it is read now. -/
inductive Readies (store : Store) : Store → List Event → Prop
  | before (loaded : store.loaded = true) : Readies store store []
  | now {image : Record.Image} {eeprom : Eeprom}
      (fresh : store.loaded = false)
      (stored : store.eeprom.block? store.offset.toNat Record.size = some image)
      (same : eeprom.bytes = store.eeprom.bytes) :
      Readies store { store with eeprom, record := adopt (.decode image), loaded := true }
        (.read store.offset true :: notes (.decode image))

theorem save_cases (store : Store) (source : Source) (group : Group) (level : Level) :
    (store.loaded = false ∧ ∃ eeprom, eeprom.bytes = store.eeprom.bytes ∧
      store.save source group level =
        ⟨(.error .read, { store with eeprom }), [.read store.offset false]⟩) ∨
    ∃ ready events, Readies store ready events ∧
      store.save source group level =
        ⟨(ready.commit source group level).value,
          events ++ (ready.commit source group level).events⟩ := by
  by_cases loaded : store.loaded = true
  · refine .inr ⟨store, [], .before loaded, ?_⟩
    rw [save, if_pos loaded]
    rfl
  · have fresh : store.loaded = false := eq_false_of_ne_true loaded
    rw [save, if_neg loaded]
    rcases load_cases store with ⟨eeprom, same, failed⟩ | ⟨image, eeprom, stored, same, read⟩
    · refine .inl ⟨fresh, eeprom, same, ?_⟩
      rw [failed]
      rfl
    · refine .inr ⟨_, _, .now fresh stored same, ?_⟩
      rw [read]
      rfl

theorem Readies.ready_loaded {store ready : Store} {events : List Event}
    (readies : Readies store ready events) : ready.loaded = true := by
  cases readies with
  | before loaded =>
      exact loaded
  | now =>
      rfl

theorem Readies.ready_offset {store ready : Store} {events : List Event}
    (readies : Readies store ready events) : ready.offset = store.offset := by
  cases readies <;> rfl

/-- What any call can do that does not read a second time. -/
theorem apply_cases {store : Store} {op : Op} (fresh : op = .load → store.loaded = false) :
    (store.loaded = false ∧ ∃ eeprom, eeprom.bytes = store.eeprom.bytes ∧
      store.apply op = ⟨(.error .read, { store with eeprom }), [.read store.offset false]⟩) ∨
    ∃ ready events, Readies store ready events ∧
      (op = .load ∧ store.apply op = ⟨(.ok (), ready), events⟩ ∨
        ∃ source group level, op = .save source group level ∧
          store.apply op =
            ⟨(ready.commit source group level).value,
              events ++ (ready.commit source group level).events⟩) := by
  cases op with
  | load =>
      rcases load_cases store with ⟨eeprom, same, failed⟩ | ⟨image, eeprom, stored, same, read⟩
      · exact .inl ⟨fresh rfl, eeprom, same, failed⟩
      · exact .inr ⟨_, _, .now (fresh rfl) stored same, .inl ⟨rfl, read⟩⟩
  | save source group level =>
      rcases save_cases store source group level with refused | ⟨ready, events, readies, saved⟩
      · exact .inl refused
      · exact .inr ⟨ready, events, readies, .inr ⟨source, group, level, rfl, saved⟩⟩

end Store

end MeshLight
