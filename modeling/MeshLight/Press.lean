import MeshLight.Gesture

/-!
Telling short from long presses. A press is graded by how long it has been held each time that the
button is looked at, and a gesture is seen when the grade changes and when a graded press ends.
-/

namespace MeshLight

/-- How long a press has been held so far. -/
inductive Grade where
  /-- Too short to count. -/
  | brief
  | short
  | long
  deriving DecidableEq, Repr

namespace Grade

/-- What is seen when a press reaches a grade. -/
def pressGesture : Grade → Option Gesture
  | brief => none
  | short => some .shortPress
  | long => some .longPress

/-- What is seen when a press of a grade ends. -/
def releaseGesture : Grade → Option Gesture
  | brief => none
  | short => some .shortRelease
  | long => some .longRelease

end Grade

/-- The times from which a press is short and long. -/
structure Thresholds where
  shortMs : UInt32
  longMs : UInt32
  deriving DecidableEq, Repr

/-- The grade of a press after a time. A press that is below both thresholds keeps the grade that it
had. -/
def Thresholds.grade (thresholds : Thresholds) (heldMs : Nat) (before : Grade) : Grade :=
  if thresholds.longMs.toNat ≤ heldMs then .long
  else if thresholds.shortMs.toNat ≤ heldMs then .short
  else before

structure Press where
  since : Nat
  grade : Grade
  deriving DecidableEq, Repr

namespace Press

def fresh (now : Nat) : Press where
  since := now
  grade := .brief

/-- What is seen, and the press afterwards, when the button is looked at. -/
def step (thresholds : Thresholds) (press : Option Press) (now : Nat) (pressed : Bool) :
    Option Gesture × Option Press :=
  if pressed then
    let before := press.getD (.fresh now)
    let grade := thresholds.grade (now - before.since) before.grade
    let gesture := if grade = before.grade then none else grade.pressGesture
    (gesture, some { before with grade })
  else
    (press.bind fun press => press.grade.releaseGesture, none)

end Press

end MeshLight
