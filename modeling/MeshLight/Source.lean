/-!
The two actors that switch the light.
-/

namespace MeshLight

/-- Who asked for a level. Each source has a remembered level of its own. -/
inductive Source where
  /-- A command received over the network. -/
  | external
  /-- The push button on the wall. -/
  | button
  deriving DecidableEq, Repr

namespace Source

def all : List Source :=
  [external, button]

def name : Source → String
  | external => "External"
  | button => "Button"

end Source

end MeshLight
