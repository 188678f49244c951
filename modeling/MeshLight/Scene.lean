import MeshLight.Channel

/-!
The scenes that long presses of the button go through.
-/

namespace MeshLight

inductive Scene where
  | both
  | colorOnly
  | whiteOnly
  deriving DecidableEq, Repr

namespace Scene

/-- The scene that follows. The last one is followed by the first. -/
def next : Scene → Scene
  | both => colorOnly
  | colorOnly => whiteOnly
  | whiteOnly => both

/-- The group is lit in the scene. -/
def lights : Scene → Group → Bool
  | both, _ => true
  | colorOnly, group => group = .color
  | whiteOnly, group => group = .white

end Scene

end MeshLight
