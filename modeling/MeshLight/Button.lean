import MeshLight.Event
import MeshLight.Press

/-!
A push button with a handler for each gesture. The handlers work on a context of any type, which is
handed through each time that the button is polled.
-/

namespace MeshLight

/-- What to do at a time when a gesture is seen. -/
abbrev Handler (γ : Type) :=
  γ → Nat → Traced Event γ

structure Button (γ : Type) where
  thresholds : Thresholds
  press : Option Press
  handlers : Gesture → Option (Handler γ)

namespace Button

variable {γ : Type}

def ofThresholds (thresholds : Thresholds) : Button γ where
  thresholds := thresholds
  press := none
  handlers := fun _ => none

def withHandler (button : Button γ) (gesture : Gesture) (handler : Option (Handler γ)) : Button γ :=
  { button with
    handlers := fun asked => if asked = gesture then handler else button.handlers asked }

def on (button : Button γ) (gesture : Gesture) (handler : Handler γ) : Button γ :=
  button.withHandler gesture (some handler)

def clear (button : Button γ) (gesture : Gesture) : Button γ :=
  button.withHandler gesture none

/-- Runs the handler of a gesture, if there is one. -/
def handle (button : Button γ) (gesture : Gesture) (context : γ) (now : Nat) : Traced Event γ :=
  match button.handlers gesture with
  | some handler => handler context now
  | none => return context

/-- Looks at the button and runs the handler of the gesture that is seen. A pin that cannot be read
counts as released. -/
def poll (button : Button γ) (context : γ) (now : Nat) (level : Option Bool) :
    Traced Event (Option Gesture × Button γ × γ) := do
  Traced.emit (.sampled level)
  if level.isNone then
    Traced.emit (.log .pinUnreadable)
  let (gesture, press) := Press.step button.thresholds button.press now (level.getD false)
  let button := { button with press }
  match gesture with
  | none => return (none, button, context)
  | some gesture =>
      Traced.emit (.log (.gestureSeen gesture))
      let context ← button.handle gesture context now
      return (some gesture, button, context)

/-- What is done with a button. -/
inductive Op (γ : Type) where
  | poll (level : Option Bool)
  | on (gesture : Gesture) (handler : Handler γ)
  | clear (gesture : Gesture)

def apply (button : Button γ) (context : γ) (now : Nat) :
    Op γ → Traced Event (Option Gesture × Button γ × γ)
  | .poll level => button.poll context now level
  | .on gesture handler => return (none, button.on gesture handler, context)
  | .clear gesture => return (none, button.clear gesture, context)

/-- Carries out operations, each at the clock that stands beside it, and collects the gestures that are
seen. -/
def replay (button : Button γ) (context : γ) (history : List (Nat × Op γ)) :
    Traced Event (List Gesture × Button γ × γ) :=
  Traced.replay
    (fun (seen, button, context) now op => do
      let (gesture, next) ← button.apply context now op
      return (seen ++ gesture.toList, next))
    ([], button, context) history

end Button

end MeshLight
