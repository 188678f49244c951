import MeshLight.Channel

/-!
Brightness levels: one byte for each channel of a fixture.
-/

namespace MeshLight

/-- The brightness of all four channels. -/
structure Level where
  red : UInt8
  green : UInt8
  blue : UInt8
  white : UInt8
  deriving DecidableEq, Repr

namespace Level

def off : Level where
  red := 0
  green := 0
  blue := 0
  white := 0

def full : Level where
  red := 255
  green := 255
  blue := 255
  white := 255

/-- A colour without any white. -/
def ofColor (red green blue : UInt8) : Level :=
  { off with red, green, blue }

/-- White without any colour. -/
def ofWhite (white : UInt8) : Level :=
  { off with white }

/-- The level whose brightness on each channel is given by a function. -/
def ofFn (brightness : Channel → UInt8) : Level where
  red := brightness .red
  green := brightness .green
  blue := brightness .blue
  white := brightness .white

def component (level : Level) : Channel → UInt8
  | .red => level.red
  | .green => level.green
  | .blue => level.blue
  | .white => level.white

/-- The brightness of each channel of a group, in the group's order. -/
def components (level : Level) (group : Group) : List UInt8 :=
  group.channels.map level.component

/-- The level with the given components on a group's channels and zero on the other channels. -/
def ofComponents : Group → List UInt8 → Level
  | .color, [red, green, blue] => ofColor red green blue
  | .white, [white] => ofWhite white
  | _, _ => off

/-- This level with a group's components taken from another one. -/
def withGroup (level : Level) (group : Group) (donor : Level) : Level :=
  match group with
  | .color => { donor with white := level.white }
  | .white => { level with white := donor.white }

/-- Some channel of the group is not dark. -/
def isLit (level : Level) (group : Group) : Bool :=
  group.channels.any fun channel => level.component channel != 0

@[ext]
theorem ext_component {first second : Level}
    (equal : ∀ channel, first.component channel = second.component channel) :
    first = second := by
  cases first
  cases second
  cases equal .red
  cases equal .green
  cases equal .blue
  cases equal .white
  rfl

@[simp]
theorem component_off (channel : Channel) : off.component channel = 0 := by
  cases channel <;> rfl

@[simp]
theorem component_ofFn (brightness : Channel → UInt8) (channel : Channel) :
    (ofFn brightness).component channel = brightness channel := by
  cases channel <;> rfl

theorem ofComponents_components (level : Level) (group : Group) :
    ofComponents group (level.components group) = off.withGroup group level := by
  cases group <;> rfl

theorem component_withGroup (level donor : Level) (group : Group) (channel : Channel) :
    (level.withGroup group donor).component channel =
      if channel.group = group then donor.component channel else level.component channel := by
  cases group <;> cases channel <;> rfl

end Level

end MeshLight
