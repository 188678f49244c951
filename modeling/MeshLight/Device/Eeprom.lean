import MeshLight.Device.FaultPlan

/-!
A small non-volatile memory that is read and written in blocks. An access fails if its block does not
lie inside the memory, or when the memory is out of order; a failed write changes nothing.
-/

namespace MeshLight

structure Eeprom where
  bytes : Array UInt8
  readFaults : FaultPlan
  writeFaults : FaultPlan

namespace Eeprom

variable {length : Nat}

/-- The block at an offset, if it lies inside the memory. -/
def block? (eeprom : Eeprom) (offset length : Nat) : Option (Vector UInt8 length) :=
  if inside : offset + length ≤ eeprom.bytes.size then
    some <| .ofFn fun index =>
      have bound := index.isLt
      eeprom.bytes[offset + index.val]
  else none

def read (eeprom : Eeprom) (offset length : Nat) : Option (Vector UInt8 length) × Eeprom :=
  let (fails, readFaults) := eeprom.readFaults.draw
  (if fails then none else eeprom.block? offset length, { eeprom with readFaults })

/-- The memory after a block was overwritten. -/
def overwrite (eeprom : Eeprom) (offset : Nat) (block : Vector UInt8 length) : Array UInt8 :=
  eeprom.bytes.mapIdx fun address byte =>
    if offset ≤ address then block[address - offset]?.getD byte else byte

/-- Writes a block and says whether that succeeded. -/
def write (eeprom : Eeprom) (offset : Nat) (block : Vector UInt8 length) : Bool × Eeprom :=
  let (fails, writeFaults) := eeprom.writeFaults.draw
  if !fails ∧ offset + length ≤ eeprom.bytes.size then
    (true, { eeprom with bytes := eeprom.overwrite offset block, writeFaults })
  else (false, { eeprom with writeFaults })

@[simp]
theorem size_overwrite (eeprom : Eeprom) (offset : Nat) (block : Vector UInt8 length) :
    (eeprom.overwrite offset block).size = eeprom.bytes.size := by
  simp [overwrite]

/-- What was written is what lies there. -/
theorem block?_overwrite (eeprom : Eeprom) (offset : Nat) (block : Vector UInt8 length)
    (inside : offset + length ≤ eeprom.bytes.size) :
    { eeprom with bytes := eeprom.overwrite offset block }.block? offset length =
      some block := by
  simp only [block?, size_overwrite, inside, ↓reduceDIte, Option.some.injEq]
  apply Vector.ext
  intro index bound
  simp [overwrite]

end Eeprom

end MeshLight
