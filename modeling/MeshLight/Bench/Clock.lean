/-!
The clock of the bench.
-/

namespace MeshLight.Clock

def lastMs : Nat :=
  UInt64.size - 1

/-- The clock after a while. It stops at its last millisecond. -/
def advance (now ms : Nat) : Nat :=
  min (now + ms) lastMs

end MeshLight.Clock
