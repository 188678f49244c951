import MeshLight.ChannelDriver

/-!
A light fixture: a driver for each of the four channels. A command to a group goes to the drivers of
that group's channels only, in the group's order.
-/

namespace MeshLight

structure Fixture (δ : Type) where
  red : δ
  green : δ
  blue : δ
  white : δ
  deriving DecidableEq, Repr

namespace Fixture

variable {δ : Type}

def driver (fixture : Fixture δ) : Channel → δ
  | .red => fixture.red
  | .green => fixture.green
  | .blue => fixture.blue
  | .white => fixture.white

def withDriver (fixture : Fixture δ) (channel : Channel) (driver : δ) : Fixture δ :=
  match channel with
  | .red => { fixture with red := driver }
  | .green => { fixture with green := driver }
  | .blue => { fixture with blue := driver }
  | .white => { fixture with white := driver }

@[simp]
theorem driver_withDriver (fixture : Fixture δ) (channel asked : Channel) (driver : δ) :
    (fixture.withDriver channel driver).driver asked =
      if asked = channel then driver else fixture.driver asked := by
  cases channel <;> cases asked <;> rfl

@[ext]
theorem ext_driver {first second : Fixture δ}
    (equal : ∀ channel, first.driver channel = second.driver channel) : first = second := by
  cases first
  cases second
  cases equal .red
  cases equal .green
  cases equal .blue
  cases equal .white
  rfl

/-- Sets up the drivers of all channels, red first. -/
def assemble (start : Channel → Traced OutputEvent δ) : Traced Event (Fixture δ) := do
  let red ← (start .red).mapEvents (.ofOutput .red)
  let green ← (start .green).mapEvents (.ofOutput .green)
  let blue ← (start .blue).mapEvents (.ofOutput .blue)
  let white ← (start .white).mapEvents (.ofOutput .white)
  return { red, green, blue, white }

/-- Lets the driver of a channel do something. -/
def change (fixture : Fixture δ) (channel : Channel) (action : δ → Traced OutputEvent δ) :
    Traced Event (Fixture δ) := do
  let driver ← (action (fixture.driver channel)).mapEvents (.ofOutput channel)
  return fixture.withDriver channel driver

@[simp]
theorem driver_change (fixture : Fixture δ) (channel asked : Channel)
    (action : δ → Traced OutputEvent δ) :
    (fixture.change channel action).value.driver asked =
      if asked = channel then (action (fixture.driver channel)).value
      else fixture.driver asked := by
  simp [change]

variable [ChannelDriver δ]

def value (fixture : Fixture δ) (channel : Channel) : UInt8 :=
  ChannelDriver.value (fixture.driver channel)

def level (fixture : Fixture δ) : Level :=
  .ofFn fixture.value

def isLit (fixture : Fixture δ) : Bool :=
  Channel.all.any fun channel => fixture.value channel != 0

def isFading (fixture : Fixture δ) : Bool :=
  Channel.all.any fun channel => ChannelDriver.isFading (fixture.driver channel)

/-- The channels of a group show exactly a level's components. -/
def shows (fixture : Fixture δ) (group : Group) (level : Level) : Bool :=
  group.channels.all fun channel => fixture.value channel == level.component channel

def command (fixture : Fixture δ) (now : Nat) (channel : Channel) (command : ChannelCommand) :
    Traced Event (Fixture δ) := do
  Traced.emit (.command channel command)
  fixture.change channel fun driver => ChannelDriver.obey driver now command

/-- Shows a level on a group at once. -/
def jump (fixture : Fixture δ) (now : Nat) (group : Group) (level : Level) :
    Traced Event (Fixture δ) :=
  group.channels.foldlM
    (fun fixture channel => fixture.command now channel (.set (level.component channel))) fixture

def fade (fixture : Fixture δ) (now : Nat) (group : Group) (target : Level) (durationMs : UInt32) :
    Traced Event (Fixture δ) :=
  group.channels.foldlM
    (fun fixture channel =>
      fixture.command now channel (.fade (target.component channel) durationMs))
    fixture

/-- Shows one level on a group and fades it to another. Every channel of the group jumps before any
of them starts to fade. -/
def sweep (fixture : Fixture δ) (now : Nat) (group : Group) (start stop : Level)
    (durationMs : UInt32) : Traced Event (Fixture δ) := do
  let fixture ← fixture.jump now group start
  fixture.fade now group stop durationMs

def advance (fixture : Fixture δ) (now : Nat) : Traced Event (Fixture δ) :=
  Channel.all.foldlM
    (fun fixture channel =>
      fixture.change channel fun driver => ChannelDriver.advance driver now)
    fixture

/-! ## The drivers after a command -/

@[simp]
theorem driver_command (fixture : Fixture δ) (now : Nat) (channel asked : Channel)
    (command : ChannelCommand) :
    (fixture.command now channel command).value.driver asked =
      if asked = channel then (ChannelDriver.obey (fixture.driver channel) now command).value
      else fixture.driver asked := by
  simp [Fixture.command]

theorem driver_jump (fixture : Fixture δ) (now : Nat) (group : Group) (level : Level)
    (asked : Channel) :
    (fixture.jump now group level).value.driver asked =
      if asked.group = group then
        (ChannelDriver.obey (fixture.driver asked) now (.set (level.component asked))).value
      else fixture.driver asked := by
  cases group <;> cases asked <;> simp [jump, Group.channels, Channel.group]

theorem driver_fade (fixture : Fixture δ) (now : Nat) (group : Group) (target : Level)
    (durationMs : UInt32) (asked : Channel) :
    (fixture.fade now group target durationMs).value.driver asked =
      if asked.group = group then
        (ChannelDriver.obey (fixture.driver asked) now
          (.fade (target.component asked) durationMs)).value
      else fixture.driver asked := by
  cases group <;> cases asked <;> simp [fade, Group.channels, Channel.group]

/-- A channel of the group obeys two commands, and a channel outside it none. -/
theorem driver_sweep (fixture : Fixture δ) (now : Nat) (group : Group) (start stop : Level)
    (durationMs : UInt32) (asked : Channel) :
    (fixture.sweep now group start stop durationMs).value.driver asked =
      if asked.group = group then
        (ChannelDriver.obey
          (ChannelDriver.obey (fixture.driver asked) now (.set (start.component asked))).value
          now (.fade (stop.component asked) durationMs)).value
      else fixture.driver asked := by
  by_cases inside : asked.group = group <;> simp [sweep, driver_fade, driver_jump, inside]

theorem driver_advance (fixture : Fixture δ) (now : Nat) (asked : Channel) :
    (fixture.advance now).value.driver asked =
      (ChannelDriver.advance (fixture.driver asked) now).value := by
  cases asked <;> simp [advance, Channel.all]

/-- A group shows a level exactly when every one of its channels does. -/
theorem shows_iff (fixture : Fixture δ) (group : Group) (level : Level) :
    fixture.shows group level = true ↔
      ∀ channel, channel.group = group → fixture.value channel = level.component channel := by
  simp [shows, Group.mem_channels]

end Fixture

end MeshLight
