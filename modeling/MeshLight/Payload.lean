/-!
The text that a message can carry.
-/

namespace MeshLight

/-- The number of bytes that the buffer of a message holds. -/
def Payload.capacity : Nat :=
  50

/-- Text whose UTF-8 form fits the buffer of a message. -/
structure Payload where
  text : String
  fits : text.utf8ByteSize ≤ Payload.capacity
  deriving DecidableEq, Repr

namespace Payload

def ofString? (text : String) : Option Payload :=
  if fits : text.utf8ByteSize ≤ capacity then some ⟨text, fits⟩ else none

end Payload

end MeshLight
