/-!
Failures of the memory that holds the stored record.
-/

namespace MeshLight

inductive StorageError where
  | read
  | write
  deriving DecidableEq, Repr

def StorageError.message : StorageError → String
  | read => "storage read failed: EepromError"
  | write => "storage write failed: EepromError"

end MeshLight
