/-!
What a push button can be seen to do.
-/

namespace MeshLight

/-- A press that reaches a threshold, or the release that ends such a press. -/
inductive Gesture where
  | shortPress
  | longPress
  | shortRelease
  | longRelease
  deriving DecidableEq, Repr

def Gesture.name : Gesture → String
  | shortPress => "ShortPress"
  | longPress => "LongPress"
  | shortRelease => "ShortRelease"
  | longRelease => "LongRelease"

end MeshLight
