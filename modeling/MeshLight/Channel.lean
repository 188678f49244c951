/-!
The four light outputs of a fixture and the two groups in which they are controlled.
-/

namespace MeshLight

/-- One light output. -/
inductive Channel where
  | red
  | green
  | blue
  | white
  deriving DecidableEq, Repr

/-- A set of channels that is always commanded together. -/
inductive Group where
  | color
  | white
  deriving DecidableEq, Repr

namespace Channel

/-- Every channel, in the order in which channels are polled. -/
def all : List Channel :=
  [red, green, blue, white]

def group : Channel → Group
  | red | green | blue => .color
  | white => .white

end Channel

namespace Group

def all : List Group :=
  [color, white]

/-- The channels of a group, in the order in which they are commanded. -/
def channels : Group → List Channel
  | color => [.red, .green, .blue]
  | white => [.white]

def name : Group → String
  | color => "Color"
  | white => "White"

theorem mem_channels {group : Group} {channel : Channel} :
    channel ∈ group.channels ↔ channel.group = group := by
  cases group <;> cases channel <;> decide

end Group

/-- One value for each group. -/
structure PerGroup (α : Type) where
  color : α
  white : α
  deriving DecidableEq, Repr

namespace PerGroup

variable {α : Type}

def replicate (value : α) : PerGroup α where
  color := value
  white := value

def get (values : PerGroup α) : Group → α
  | .color => values.color
  | .white => values.white

def set (values : PerGroup α) (group : Group) (value : α) : PerGroup α :=
  match group with
  | .color => { values with color := value }
  | .white => { values with white := value }

@[simp]
theorem get_replicate (value : α) (group : Group) : (replicate value).get group = value := by
  cases group <;> rfl

@[simp]
theorem get_set_self (values : PerGroup α) (group : Group) (value : α) :
    (values.set group value).get group = value := by
  cases group <;> rfl

@[simp]
theorem get_set_of_ne (values : PerGroup α) {group other : Group} (value : α)
    (different : other ≠ group) :
    (values.set group value).get other = values.get other := by
  cases group <;> cases other <;> simp_all [get, set]

@[simp]
theorem set_set (values : PerGroup α) (group : Group) (first second : α) :
    (values.set group first).set group second = values.set group second := by
  cases group <;> rfl

theorem set_congr {first second : PerGroup α} {group : Group}
    (elsewhere : ∀ other, other ≠ group → first.get other = second.get other) (value : α) :
    first.set group value = second.set group value := by
  cases group with
  | color =>
      exact congrArg (mk value) (elsewhere .white (by decide))
  | white =>
      exact congrArg (mk · value) (elsewhere .color (by decide))

end PerGroup

end MeshLight
