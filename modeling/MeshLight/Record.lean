import MeshLight.Level
import MeshLight.Source

/-!
The stored record: the level remembered for each source, behind a byte that tells the format. The
nine stored bytes and the record determine each other (`decode_encode`, `encode_decode`).
-/

namespace MeshLight

/-- A level for each source, and the version of the format that they were stored in. -/
structure Record where
  version : UInt8
  external : Level
  button : Level
  deriving DecidableEq, Repr

namespace Record

abbrev size : Nat :=
  9

abbrev Image :=
  Vector UInt8 size

/-- The version that is written, and the only one that is read. -/
def currentVersion : UInt8 :=
  2

/-- The record with one level for both sources, in the current version. -/
def uniform (level : Level) : Record where
  version := currentVersion
  external := level
  button := level

/-- What is remembered before anything was read. -/
def blank : Record :=
  uniform .off

/-- What is remembered when the memory holds no record of the current version. -/
def factory : Record :=
  uniform .full

def level (record : Record) : Source → Level
  | .external => record.external
  | .button => record.button

def withLevel (record : Record) (source : Source) (level : Level) : Record :=
  match source with
  | .external => { record with external := level }
  | .button => { record with button := level }

/-- The record in which a source's level takes a group's components from the given one. -/
def remember (record : Record) (source : Source) (group : Group) (level : Level) : Record :=
  record.withLevel source ((record.level source).withGroup group level)

/-- The version, then red, green, blue and white of the external and of the button level. -/
def encode (record : Record) : Image :=
  #v[record.version,
    record.external.red, record.external.green, record.external.blue, record.external.white,
    record.button.red, record.button.green, record.button.blue, record.button.white]

/-- The record that was stored. Its version may be any byte. -/
def decode (image : Image) : Record where
  version := image[0]
  external := ⟨image[1], image[2], image[3], image[4]⟩
  button := ⟨image[5], image[6], image[7], image[8]⟩

theorem decode_encode (record : Record) : decode record.encode = record :=
  rfl

theorem encode_decode (image : Image) : (decode image).encode = image := by
  apply Vector.ext
  intro index bound
  match index, bound with
  | 0, _ | 1, _ | 2, _ | 3, _ | 4, _ | 5, _ | 6, _ | 7, _ | 8, _ => rfl

@[simp]
theorem level_withLevel (record : Record) (source asked : Source) (level : Level) :
    (record.withLevel source level).level asked =
      if asked = source then level else record.level asked := by
  cases source <;> cases asked <;> rfl

@[simp]
theorem version_remember (record : Record) (source : Source) (group : Group) (level : Level) :
    (record.remember source group level).version = record.version := by
  cases source <;> rfl

theorem component_level_remember (record : Record) (source asked : Source) (group : Group)
    (level : Level) (channel : Channel) :
    ((record.remember source group level).level asked).component channel =
      if asked = source ∧ channel.group = group then level.component channel
      else (record.level asked).component channel := by
  by_cases same : asked = source
  · subst same
    simp [remember, Level.component_withGroup]
  · simp [remember, same]

end Record

end MeshLight
