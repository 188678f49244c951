import MeshLight.Event

/-!
Drivers of single channels. A driver owns the live value of its channel; whoever uses it can only
command it, let it go on, and read the value back.
-/

namespace MeshLight

/-- What a type of channel drivers has to offer. The time is the number of milliseconds that the
clock shows. -/
class ChannelDriver (δ : Type) where
  /-- The value that the channel shows. -/
  value : δ → UInt8
  /-- A fade is in progress. -/
  isFading : δ → Bool
  obey : δ → Nat → ChannelCommand → Traced OutputEvent δ
  /-- Brings a fade up to date. -/
  advance : δ → Nat → Traced OutputEvent δ

/-- Channels may have drivers of two different types. -/
instance {δ ε : Type} [ChannelDriver δ] [ChannelDriver ε] : ChannelDriver (δ ⊕ ε) where
  value
    | .inl driver => ChannelDriver.value driver
    | .inr driver => ChannelDriver.value driver
  isFading
    | .inl driver => ChannelDriver.isFading driver
    | .inr driver => ChannelDriver.isFading driver
  obey
    | .inl driver, now, command => .inl <$> ChannelDriver.obey driver now command
    | .inr driver, now, command => .inr <$> ChannelDriver.obey driver now command
  advance
    | .inl driver, now => .inl <$> ChannelDriver.advance driver now
    | .inr driver, now => .inr <$> ChannelDriver.advance driver now

inductive ChannelDriver.Op where
  | obey (command : ChannelCommand)
  | advance
  deriving DecidableEq, Repr

namespace ChannelDriver

variable {δ : Type} [ChannelDriver δ]

def apply (driver : δ) (now : Nat) : Op → Traced OutputEvent δ
  | .obey command => obey driver now command
  | .advance => advance driver now

/-- Uses a driver again and again, each time at the clock that stands beside the use. -/
def run (driver : δ) (history : List (Nat × Op)) : Traced OutputEvent δ :=
  Traced.replay apply driver history

end ChannelDriver

end MeshLight
