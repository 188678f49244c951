import MeshLight.Proofs.Lamp.Recall
import MeshLight.Proofs.Lamp.Settling
import MeshLight.Proofs.Station.Scenes

/-!
What a row of short presses does. Each of them finds the light where the one before has left it if the
light had time to settle, so the light goes off and comes back to the level remembered for the button by
turns. Loops and fades that were in progress before the first press end with it.
-/

namespace MeshLight

namespace Fixture

variable {δ : Type} [ChannelDriver δ] (fixture : Fixture δ)

end Fixture

namespace Lamp

variable {lamp : Lamp Fader} {group : Group} {level : Level}

end Lamp

namespace Lamp

variable {lamp : Lamp Fader}

end Lamp

namespace Station

/-- A short press, and the times at which the station is polled until the next one. -/
structure Round where
  pressedAt : Nat
  polledAt : List Nat
  deriving DecidableEq, Repr

namespace Round

def history (round : Round) : List (Nat × Op) :=
  (round.pressedAt, .toggle) :: round.polledAt.map (·, .poll)

end Round

variable {station : Station Fader}

theorem replay_cons (station : Station Fader) (now : Nat) (op : Op) (rest : List (Nat × Op)) :
    station.replay ((now, op) :: rest) =
      station.apply now op >>= fun next => next.replay rest :=
  Traced.replay_cons apply station (now, op) rest

theorem replay_append (station : Station Fader) (first second : List (Nat × Op)) :
    station.replay (first ++ second) =
      station.replay first >>= fun next => next.replay second :=
  Traced.replay_append apply station first second

end Station

end MeshLight
