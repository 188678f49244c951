import MeshLight.Device.Eeprom
import MeshLight.Event

/-!
The remembered levels: a copy of the stored record, and the memory in which it outlives a loss of
power. Nothing is written before the memory was read, so that a level that could not be read is not
lost.
-/

namespace MeshLight

structure Store where
  offset : UInt32
  eeprom : Eeprom
  record : Record
  /-- The record was read at least once. -/
  loaded : Bool

namespace Store

def ofEeprom (eeprom : Eeprom) (offset : UInt32) : Store where
  offset := offset
  eeprom := eeprom
  record := .blank
  loaded := false

def level (store : Store) (source : Source) : Level :=
  store.record.level source

/-- What is taken over from a stored record: nothing unless it has the current version. -/
def adopt (stored : Record) : Record :=
  if stored.version = Record.currentVersion then stored else .factory

/-- Reads the record. If that fails, nothing changes. -/
def load (store : Store) : Traced Event (Except StorageError Unit × Store) := do
  let (image, eeprom) := store.eeprom.read store.offset.toNat Record.size
  Traced.emit (.read store.offset image.isSome)
  match image with
  | none => return (.error .read, { store with eeprom })
  | some image =>
      let stored := Record.decode image
      let record := adopt stored
      unless stored.version = Record.currentVersion do
        Traced.emit (.log (.staleRecord stored.version))
      Traced.emit (.log (.restored record.external record.button))
      return (.ok (), { store with eeprom, record, loaded := true })

/-- Remembers a group's components of a level for a source and writes the record. They are remembered
even if the write fails. -/
def commit (store : Store) (source : Source) (group : Group) (level : Level) :
    Traced Event (Except StorageError Unit × Store) := do
  let record := store.record.remember source group level
  let (succeeded, eeprom) := store.eeprom.write store.offset.toNat record.encode
  Traced.emit (.write store.offset record.encode succeeded)
  let outcome := if succeeded then .ok () else .error .write
  return (outcome, { store with eeprom, record })

/-- Remembers a group's components of a level for a source. A record that was never read is read
first, and if that fails, nothing is remembered. -/
def save (store : Store) (source : Source) (group : Group) (level : Level) :
    Traced Event (Except StorageError Unit × Store) := do
  if store.loaded then store.commit source group level
  else
    let (outcome, store) ← store.load
    match outcome with
    | .ok () => store.commit source group level
    | .error error => return (.error error, store)

inductive Op where
  | load
  | save (source : Source) (group : Group) (level : Level)
  deriving DecidableEq, Repr

def apply (store : Store) : Op → Traced Event (Except StorageError Unit × Store)
  | .load => store.load
  | .save source group level => store.save source group level

/-- Carries out operations, whatever their outcomes. -/
def replay (store : Store) (history : List Op) : Traced Event Store :=
  history.foldlM (fun store op => Prod.snd <$> store.apply op) store

end Store

end MeshLight
