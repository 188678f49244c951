/-!
Which uses of a device fail. A plan fixes the outcome of every use beforehand, so that any pattern of
failures is some plan and a run is still a function of its start.
-/

namespace MeshLight

/-- The failing uses of a device, counted from zero, and how many uses there have been. -/
structure FaultPlan where
  fails : Nat → Bool
  used : Nat := 0

namespace FaultPlan

def always (fails : Bool) : FaultPlan where
  fails := fun _ => fails

/-- Whether the next use fails, and the plan after it. -/
def draw (plan : FaultPlan) : Bool × FaultPlan :=
  (plan.fails plan.used, { plan with used := plan.used + 1 })

end FaultPlan

end MeshLight
