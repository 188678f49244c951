import MeshLight.Proofs.Store.Reading

/-!
What the store remembers. However reads and writes fail, the cached record is the stored one with the
latest level that was saved for each source and group, and the memory holds the cached record of the
latest write that succeeded.
-/

namespace MeshLight

namespace Store

/-! ## Latest saves -/

/-- The level that a call keeps for a source and a group: the one that is saved for them, if the record
was read before or is read now. -/
def keptBy (source : Source) (group : Group) (store : Store) : Op → Option Level
  | .load => none
  | .save target area level =>
      if (store.loaded = true ∨ .read store.offset true ∈ (store.save target area level).events) ∧
          target = source ∧ area = group then
        some level
      else none

/-- The memory took a record at the offset. -/
def tookRecord (offset : UInt32) : Event → Bool
  | .write target _ succeeded => target = offset && succeeded
  | _ => false

/-- The cached record after a call that wrote it. -/
def storedBy (store : Store) (op : Op) : Option Record :=
  if (store.apply op).events.any (tookRecord store.offset) then
    some (store.apply op).value.2.record
  else none

def lastKept (store : Store) (history : List Op) (source : Source) (group : Group) :
    Option Level :=
  Traced.latest step (keptBy source group) store history

def lastStored (store : Store) (history : List Op) : Option Record :=
  Traced.latest step storedBy store history

section Calls

variable {store : Store} {op : Op} {source asked : Source} {group area : Group} {level : Level}

theorem keptBy_of_unread (unread : store.loaded = false)
    (stillUnread : .read store.offset true ∉ (store.apply op).events) :
    keptBy asked area store op = none := by
  cases op with
  | load =>
      rfl
  | save source group level =>
      rw [keptBy, if_neg]
      rintro ⟨loaded | read, _⟩
      · rw [unread] at loaded
        cases loaded
      · exact stillUnread read

theorem keptBy_save_of_read
    (read : store.loaded = true ∨
      .read store.offset true ∈ (store.save source group level).events) :
    keptBy asked area store (.save source group level) =
      if source = asked ∧ group = area then some level else none := by
  simp only [keptBy, read, true_and]

theorem storedBy_of_quiet
    (quiet : ∀ event ∈ (store.apply op).events, tookRecord store.offset event = false) :
    storedBy store op = none := by
  rw [storedBy, if_neg]
  simpa using quiet

theorem storedBy_of_write {image : Record.Image}
    (written : .write store.offset image true ∈ (store.apply op).events) :
    storedBy store op = some (store.apply op).value.2.record := by
  rw [storedBy, if_pos]
  exact List.any_eq_true.2 ⟨_, written, by simp [tookRecord]⟩

theorem Readies.tookRecord_eq_false {ready : Store} {events : List Event}
    (readies : Readies store ready events) (offset : UInt32) :
    ∀ event ∈ events, tookRecord offset event = false := by
  intro event member
  have quiet := readies.quiet event member
  cases event with
  | write target image succeeded =>
      exact absurd rfl (quiet target image succeeded)
  | _ =>
      rfl

theorem Readies.read {ready : Store} {events : List Event} (readies : Readies store ready events) :
    store.loaded = true ∨ .read store.offset true ∈ events := by
  cases readies with
  | before loaded =>
      exact .inl loaded
  | now =>
      exact .inr List.mem_cons_self

end Calls

/-! ## Contents -/

/-- The level of a source before it was ever saved: the stored one if the bytes have version 2, and full
brightness otherwise. -/
def baseLevel (image : Record.Image) : Source → Level
  | .external =>
      if image.get 0 = 2 then ⟨image.get 1, image.get 2, image.get 3, image.get 4⟩
      else ⟨255, 255, 255, 255⟩
  | .button =>
      if image.get 0 = 2 then ⟨image.get 5, image.get 6, image.get 7, image.get 8⟩
      else ⟨255, 255, 255, 255⟩

/-- A level whose colour and white were replaced by what was kept for them. -/
def overlay (color white : Option Level) (base : Level) : Level where
  red := (color.getD base).red
  green := (color.getD base).green
  blue := (color.getD base).blue
  white := (white.getD base).white

/-- The record that the stored bytes and the kept levels amount to. -/
def recalled (image : Record.Image) (kept : Source → Group → Option Level) : Record where
  version := 2
  external := overlay (kept .external .color) (kept .external .white) (baseLevel image .external)
  button := overlay (kept .button .color) (kept .button .white) (baseLevel image .button)

/-- The nine bytes of a record. -/
def layout (record : Record) : Record.Image :=
  #v[2, record.external.red, record.external.green, record.external.blue, record.external.white,
    record.button.red, record.button.green, record.button.blue, record.button.white]

theorem encode_recalled (image : Record.Image) (kept : Source → Group → Option Level) :
    (recalled image kept).encode = layout (recalled image kept) :=
  rfl

theorem adopt_decode (image : Record.Image) :
    adopt (.decode image) = recalled image fun _ _ => none := by
  by_cases current : image.get 0 = 2
  · have version : (Record.decode image).version = Record.currentVersion := current
    rw [adopt, if_pos version, recalled, baseLevel, baseLevel, if_pos current, if_pos current]
    exact congrArg (Record.mk · _ _) current
  · have version : (Record.decode image).version ≠ Record.currentVersion := current
    rw [adopt, if_neg version, recalled, baseLevel, baseLevel, if_neg current, if_neg current]
    rfl

theorem remember_recalled (image : Record.Image) (kept : Source → Group → Option Level)
    (source : Source) (group : Group) (level : Level) :
    (recalled image kept).remember source group level =
      recalled image fun asked area =>
        (if source = asked ∧ group = area then some level else none).or (kept asked area) := by
  cases source <;> cases group <;> rfl

/-- The store holds what was kept for each source and group, over a memory that holds what was stored
last. -/
structure Holds (eeprom : Eeprom) (offset : UInt32) (image : Record.Image)
    (kept : Source → Group → Option Level) (stored : Option Record) (store : Store) : Prop where
  offset_eq : store.offset = offset
  block_eq : store.eeprom.block? offset.toNat Record.size = some (stored.elim image layout)
  elsewhere : ∀ address, address < offset.toNat ∨ offset.toNat + Record.size ≤ address →
    store.eeprom.bytes[address]? = eeprom.bytes[address]?
  blank : store.loaded = false →
    store.record = .blank ∧ store.eeprom.bytes = eeprom.bytes ∧ stored = none ∧
      ∀ source group, kept source group = none
  record_eq : store.loaded = true → store.record = recalled image kept

namespace Holds

variable {eeprom memory : Eeprom} {offset : UInt32} {image : Record.Image}
  {kept : Source → Group → Option Level} {stored : Option Record} {store ready : Store}

theorem start (block : eeprom.block? offset.toNat Record.size = some image) :
    Holds eeprom offset image (fun _ _ => none) none (ofEeprom eeprom offset) where
  offset_eq := rfl
  block_eq := block
  elsewhere := fun _ _ => rfl
  blank := fun _ => ⟨rfl, rfl, rfl, fun _ _ => rfl⟩
  record_eq := nofun

theorem refused (holds : Holds eeprom offset image kept stored store)
    (same : memory.bytes = store.eeprom.bytes) :
    Holds eeprom offset image kept stored { store with eeprom := memory } where
  offset_eq := holds.offset_eq
  block_eq := (Eeprom.block?_congr same).trans holds.block_eq
  elsewhere := by
    intro address outside
    rw [same]
    exact holds.elsewhere address outside
  blank := by
    intro unread
    obtain ⟨record, bytes, nothing⟩ := holds.blank unread
    exact ⟨record, same.trans bytes, nothing⟩
  record_eq := holds.record_eq

theorem readies {events : List Event} (holds : Holds eeprom offset image kept stored store)
    (readies : Readies store ready events) : Holds eeprom offset image kept stored ready := by
  cases readies with
  | before =>
      exact holds
  | @now found memory unread block same =>
      obtain ⟨_, _, nothing, nowhere⟩ := holds.blank unread
      have isImage : found = image := by
        rw [holds.offset_eq, holds.block_eq, nothing, Option.some.injEq] at block
        exact block.symm
      have keptNothing : kept = fun _ _ => none :=
        funext fun source => funext fun group => nowhere source group
      subst isImage
      exact {
        offset_eq := holds.offset_eq
        block_eq := (Eeprom.block?_congr same).trans holds.block_eq
        elsewhere := (holds.refused same).elsewhere
        blank := nofun
        record_eq := by
          intro _
          rw [keptNothing]
          exact adopt_decode found }

/-- A level is remembered, over a memory that may have changed inside the block. -/
theorem remembered {storedNow : Option Record}
    (holds : Holds eeprom offset image kept stored store) (loaded : store.loaded = true)
    (source : Source) (group : Group) (level : Level)
    (block : memory.block? offset.toNat Record.size = some (storedNow.elim image layout))
    (elsewhere : ∀ address, address < offset.toNat ∨ offset.toNat + Record.size ≤ address →
      memory.bytes[address]? = store.eeprom.bytes[address]?) :
    Holds eeprom offset image
      (fun asked area =>
        (if source = asked ∧ group = area then some level else none).or (kept asked area))
      storedNow
      { store with eeprom := memory, record := store.record.remember source group level } where
  offset_eq := holds.offset_eq
  block_eq := block
  elsewhere := by
    intro address outside
    rw [elsewhere address outside]
    exact holds.elsewhere address outside
  blank := by
    intro unread
    rw [loaded] at unread
    cases unread
  record_eq := by
    intro _
    rw [holds.record_eq loaded]
    exact remember_recalled image kept source group level

theorem written (holds : Holds eeprom offset image kept stored store)
    (loaded : store.loaded = true) (source : Source) (group : Group) (level : Level)
    (bytes : memory.bytes = store.eeprom.overwrite store.offset.toNat
      (store.record.remember source group level).encode) :
    Holds eeprom offset image
      (fun asked area =>
        (if source = asked ∧ group = area then some level else none).or (kept asked area))
      (some (store.record.remember source group level))
      { store with eeprom := memory, record := store.record.remember source group level } := by
  rw [holds.offset_eq] at bytes
  have inside := Eeprom.inside_of_block? holds.block_eq
  refine holds.remembered loaded source group level ?_ ?_
  · have block := Eeprom.block?_overwrite store.eeprom offset.toNat
      (store.record.remember source group level).encode inside
    rw [Eeprom.block?_congr bytes.symm, holds.record_eq loaded, remember_recalled,
      encode_recalled] at block
    rw [holds.record_eq loaded, remember_recalled]
    exact block
  · intro address outside
    rw [bytes, Eeprom.overwrite_outside outside]

theorem apply (holds : Holds eeprom offset image kept stored store) {op : Op}
    (fresh : op = .load → store.loaded = false) :
    Holds eeprom offset image
      (fun source group => (keptBy source group store op).or (kept source group))
      ((storedBy store op).or stored) (store.apply op).value.2 := by
  rcases apply_cases fresh with ⟨unread, memory, same, refused⟩ | ⟨ready, events, becomes, done⟩
  · have nothingKept (asked : Source) (area : Group) : keptBy asked area store op = none :=
      keptBy_of_unread unread (by simp [refused])
    have nothingStored : storedBy store op = none :=
      storedBy_of_quiet (by simp [refused, tookRecord])
    simp only [nothingKept, nothingStored, Option.none_or]
    rw [refused]
    exact holds.refused same
  · have holdsReady := holds.readies becomes
    have quiet := becomes.tookRecord_eq_false store.offset
    rcases done with ⟨rfl, loaded⟩ | ⟨source, group, level, rfl, saved⟩
    · have nothingStored : storedBy store .load = none :=
        storedBy_of_quiet (by simpa [loaded] using quiet)
      simp only [keptBy, nothingStored, Option.none_or]
      rw [loaded]
      exact holdsReady
    · have keptNow (asked : Source) (area : Group) :
          keptBy asked area store (.save source group level) =
            if source = asked ∧ group = area then some level else none := by
        refine keptBy_save_of_read (becomes.read.imp_right fun read => ?_)
        exact (congrArg Traced.events saved) ▸ List.mem_append_left _ read
      simp only [keptNow]
      rcases commit_cases ready source group level with
        ⟨memory, bytes, committed⟩ | ⟨memory, same, committed⟩
      · rw [committed] at saved
        have storedNow : storedBy store (.save source group level) =
            some (ready.record.remember source group level) := by
          have written : .write store.offset (ready.record.remember source group level).encode true ∈
              (store.apply (.save source group level)).events := by
            simp [saved, becomes.ready_offset]
          rw [storedBy_of_write written, saved]
        rw [storedNow, Option.some_or, saved]
        exact holdsReady.written becomes.ready_loaded source group level bytes
      · rw [committed] at saved
        have nothingStored : storedBy store (.save source group level) = none := by
          refine storedBy_of_quiet fun event member => ?_
          rw [saved] at member
          rcases List.mem_append.1 member with before | last
          · exact quiet event before
          · rw [List.mem_singleton.1 last]
            simp [tookRecord]
        rw [nothingStored, Option.none_or, saved]
        refine holdsReady.remembered becomes.ready_loaded source group level ?_ fun address _ => ?_
        · exact (Eeprom.block?_congr same).trans holdsReady.block_eq
        · rw [same]

end Holds

theorem lastKept_concat (store : Store) (history : List Op) (op : Op) (source : Source)
    (group : Group) :
    lastKept store (history ++ [op]) source group =
      (keptBy source group (store.replay history).value op).or
        (lastKept store history source group) :=
  Traced.latest_concat step (keptBy source group) store history op

theorem lastStored_concat (store : Store) (history : List Op) (op : Op) :
    lastStored store (history ++ [op]) =
      (storedBy (store.replay history).value op).or (lastStored store history) :=
  Traced.latest_concat step storedBy store history op

theorem holds_replay {eeprom : Eeprom} {offset : UInt32} {image : Record.Image}
    {history : List Op}
    (block : eeprom.block? offset.toNat Record.size = some image)
    (loadsOnce : LoadsOnce (ofEeprom eeprom offset) history) :
    Holds eeprom offset image (lastKept (ofEeprom eeprom offset) history)
      (lastStored (ofEeprom eeprom offset) history)
      ((ofEeprom eeprom offset).replay history).value := by
  induction history using List.reverseRecOn with
  | nil =>
      exact .start block
  | append_singleton history op inductionHypothesis =>
      have before := inductionHypothesis loadsOnce.of_concat.1
      have after := before.apply loadsOnce.fresh
      rw [replay_concat, lastStored_concat]
      simp only [← lastKept_concat] at after
      exact after

/-! ## Outcomes of a save -/

section Outcomes

variable (store : Store) (source : Source) (group : Group) (level : Level)

theorem save_read_failed_iff :
    (store.save source group level).value.1 = .error .read ↔
      store.loaded = false ∧
        .read store.offset false ∈ (store.save source group level).events := by
  rcases save_cases store source group level with
    ⟨unread, memory, _, refused⟩ | ⟨ready, events, becomes, saved⟩
  · simp [refused, unread]
  · have noFailedRead : store.loaded = false → .read store.offset false ∉ events := by
      intro unread member
      cases becomes with
      | before loaded =>
          cases member
      | now =>
          rcases List.mem_cons.1 member with read | note
          · cases read
          · obtain ⟨record, isLog⟩ := exists_log_of_mem_notes note
            cases isLog
    rcases commit_cases ready source group level with
      ⟨memory, _, committed⟩ | ⟨memory, _, committed⟩
    all_goals
      rw [saved, committed]
      simpa using noFailedRead

/-- A save ends as its write does, if it comes that far. -/
theorem save_written_iff :
    ((store.save source group level).value.1 = .ok () ↔
      ∃ image, .write store.offset image true ∈ (store.save source group level).events) ∧
    ((store.save source group level).value.1 = .error .write ↔
      ∃ image, .write store.offset image false ∈ (store.save source group level).events) := by
  rcases save_cases store source group level with
    ⟨_, memory, _, refused⟩ | ⟨ready, events, becomes, saved⟩
  · simp [refused]
  · have quiet : ∀ image succeeded, .write store.offset image succeeded ∉ events := by
      intro image succeeded member
      exact becomes.quiet _ member _ _ _ rfl
    rcases commit_cases ready source group level with
      ⟨memory, _, committed⟩ | ⟨memory, _, committed⟩
    all_goals
      simp [saved, committed, quiet, becomes.ready_offset]

end Outcomes

/-- A save that cannot read the record changes nothing but the order of what will fail next. -/
theorem save_of_unread {store : Store} {source : Source} {group : Group} {level : Level}
    (unread : store.loaded = false)
    (stillUnread : .read store.offset true ∉ (store.save source group level).events) :
    ∃ memory, memory.bytes = store.eeprom.bytes ∧
      (store.save source group level).value = (.error .read, { store with eeprom := memory }) := by
  rcases save_cases store source group level with
    ⟨_, memory, same, refused⟩ | ⟨ready, events, becomes, saved⟩
  · exact ⟨memory, same, by rw [refused]⟩
  · rw [saved] at stillUnread
    cases becomes with
    | before loaded =>
        rw [loaded] at unread
        cases unread
    | now =>
        simp at stillUnread

/-- Whatever reads and writes fail, as long as the record is read only once:

* nothing is written before it was read, and until then the store stays as it was made;
* from then on, each level has the colour and the white of the latest saves for them that got past
  reading, whether or not those were written;
* a save fails to read only if the record is unread and its read fails, and otherwise ends as its write;
* the memory holds its first record or the latest that was written, and nothing else of it changed. -/
theorem latest_saves_are_remembered {eeprom : Eeprom} {offset : UInt32} {image : Record.Image}
    {history : List Op}
    (block : eeprom.block? offset.toNat 9 = some image)
    (loadsOnce : LoadsOnce (ofEeprom eeprom offset) history) :
    let run := (ofEeprom eeprom offset).replay history
    ReadsFirst run.events ∧
    (run.value.loaded = true ↔ .read offset true ∈ run.events) ∧
    (.read offset true ∉ run.events →
      run.value.record = ⟨2, ⟨0, 0, 0, 0⟩, ⟨0, 0, 0, 0⟩⟩ ∧
        run.value.eeprom.bytes = eeprom.bytes) ∧
    (∀ source group level,
      .read offset true ∉ run.events →
      .read offset true ∉ (run.value.save source group level).events →
        ∃ memory, memory.bytes = run.value.eeprom.bytes ∧
          (run.value.save source group level).value =
            (.error .read, { run.value with eeprom := memory })) ∧
    (.read offset true ∈ run.events →
      run.value.record = recalled image (lastKept (ofEeprom eeprom offset) history)) ∧
    (∀ source group level,
      let save := run.value.save source group level
      (save.value.1 = .error .read ↔
        .read offset true ∉ run.events ∧ .read offset false ∈ save.events) ∧
      (save.value.1 = .ok () ↔ ∃ stored, .write offset stored true ∈ save.events) ∧
      (save.value.1 = .error .write ↔ ∃ stored, .write offset stored false ∈ save.events)) ∧
    run.value.eeprom.block? offset.toNat 9 =
      some ((lastStored (ofEeprom eeprom offset) history).elim image layout) ∧
    ∀ address, address < offset.toNat ∨ offset.toNat + 9 ≤ address →
      run.value.eeprom.bytes[address]? = eeprom.bytes[address]? := by
  intro run
  have accounts : Accounts offset run.events run.value := accounts_replay loadsOnce
  have holds := holds_replay block loadsOnce
  have unread_iff : run.value.loaded = false ↔ .read offset true ∉ run.events := by
    rw [← accounts.loaded_iff, Bool.not_eq_true]
  refine ⟨accounts.readsFirst, accounts.loaded_iff, ?_, ?_, ?_, ?_, holds.block_eq,
    holds.elsewhere⟩
  · intro unread
    obtain ⟨record, bytes, _⟩ := holds.blank (unread_iff.2 unread)
    exact ⟨record, bytes⟩
  · intro source group level unread stillUnread
    rw [← accounts.offset_eq] at stillUnread
    exact save_of_unread (unread_iff.2 unread) stillUnread
  · intro read
    exact holds.record_eq (accounts.loaded_iff.2 read)
  · intro source group level save
    have readFailed := save_read_failed_iff run.value source group level
    have written := save_written_iff run.value source group level
    rw [unread_iff, accounts.offset_eq] at readFailed
    rw [accounts.offset_eq] at written
    exact ⟨readFailed, written⟩

/-- The first read and the first write fail, and the last save says again what was said before. What the
first write did not bring to the memory, the second does. The same happens to a record of another
version, over full brightness. -/
theorem failed_write_is_caught_up :
    let eeprom (version : UInt8) : Eeprom :=
      { bytes := #[7, version, 1, 2, 3, 4, 5, 6, 7, 8, 9]
        readFaults := { fails := fun use => use == 0 }
        writeFaults := { fails := fun use => use == 0 } }
    let saves : List Op :=
      [.save .button .white (.ofWhite 70), .save .external .color (.ofColor 10 20 30),
        .save .external .color (.ofColor 10 20 30)]
    let run version := (ofEeprom (eeprom version) 1).replay (.load :: saves)
    (∀ version ∈ [2, 1],
      (eeprom version).block? (1 : UInt32).toNat 9 = some #v[version, 1, 2, 3, 4, 5, 6, 7, 8] ∧
        LoadsOnce (ofEeprom (eeprom version) 1) (.load :: saves) ∧
        ((run version).value.save .button .white (.ofWhite 70)).value.1 = .ok ()) ∧
      (run 2).value.record = ⟨2, ⟨10, 20, 30, 4⟩, ⟨5, 6, 7, 70⟩⟩ ∧
      (run 2).value.eeprom.block? (1 : UInt32).toNat 9 = some #v[2, 10, 20, 30, 4, 5, 6, 7, 70] ∧
      (run 1).value.record = ⟨2, ⟨10, 20, 30, 255⟩, ⟨255, 255, 255, 70⟩⟩ ∧
      (run 1).value.eeprom.block? (1 : UInt32).toNat 9 =
        some #v[2, 10, 20, 30, 255, 255, 255, 255, 70] := by
  intro eeprom saves run
  have block (version : UInt8) : (eeprom version).block? (1 : UInt32).toNat 9 =
      some #v[version, 1, 2, 3, 4, 5, 6, 7, 8] := rfl
  have loadsOnce (version : UInt8) : LoadsOnce (ofEeprom (eeprom version) 1) (.load :: saves) :=
    loadsOnce_load_cons (by decide)
  have laws (version : UInt8) := latest_saves_are_remembered (block version) (loadsOnce version)
  obtain ⟨_, _, _, _, current, _, stored, _⟩ := laws 2
  obtain ⟨_, _, _, _, other, _, rewritten, _⟩ := laws 1
  refine ⟨fun version listed => ⟨block version, loadsOnce version, ?_⟩, ?_, ?_, ?_, ?_⟩
  · obtain ⟨_, _, _, _, _, outcomes, _, _⟩ := laws version
    have written : .write 1 (layout (run version).value.record) true ∈
        ((run version).value.save .button .white (.ofWhite 70)).events := by
      simp only [List.mem_cons, List.not_mem_nil, or_false] at listed
      rcases listed with rfl | rfl <;> decide
    exact (outcomes .button .white (.ofWhite 70)).2.1.2 ⟨_, written⟩
  · rw [current (by decide)]
    decide
  · rw [stored]
    decide
  · rw [other (by decide)]
    decide
  · rw [rewritten]
    decide

end Store

end MeshLight
