import MeshLight.Ramp

/-!
Where a ramp stands before its end. The output has moved from the origin by the rounded-down share of
the whole distance that has been due so far (`toNat_valueAt_rising`, `toNat_valueAt_falling`), so it
stays between the two ends, never goes back and does not reach the target early.
-/

namespace MeshLight

/-- A brightness lies between two others, in whichever order these stand. Both of them count. -/
def Between (first second value : UInt8) : Prop :=
  first ≤ value ∧ value ≤ second ∨ second ≤ value ∧ value ≤ first

namespace Between

variable {first second : UInt8}

theorem first_mem : Between first second first := by
  rcases UInt8.le_total first second with rising | falling
  · exact Or.inl ⟨UInt8.le_refl first, rising⟩
  · exact Or.inr ⟨falling, UInt8.le_refl first⟩

theorem symm {value : UInt8} (between : Between first second value) :
    Between second first value :=
  Or.symm between

theorem second_mem : Between first second second :=
  first_mem.symm

theorem eq_of_self {value : UInt8} (between : Between first first value) : value = first := by
  rcases between with ⟨lower, upper⟩ | ⟨lower, upper⟩
  · exact UInt8.le_antisymm upper lower
  · exact UInt8.le_antisymm upper lower

end Between

/-- How far two brightnesses are apart. -/
def gap (first second : UInt8) : Nat :=
  (first.toNat - second.toNat : Int).natAbs

namespace Ramp

/-- How many units of brightness the output is away from the origin, as long as the ramp lasts. -/
def moved (ramp : Ramp) (now : Nat) : Nat :=
  ramp.span.natAbs * ramp.elapsedMs now / ramp.durationMs.toNat

theorem isOver_iff {ramp : Ramp} {now : Nat} :
    ramp.isOver now = true ↔ ramp.durationMs.toNat ≤ now - ramp.startedAt := by
  rw [isOver, elapsedMs]
  exact decide_eq_true_iff

theorem elapsedMs_lt_of_not_isOver {ramp : Ramp} {now : Nat}
    (lasting : ¬ ramp.isOver now = true) :
    ramp.elapsedMs now < ramp.durationMs.toNat := by
  rw [isOver_iff] at lasting
  exact Nat.lt_of_not_le lasting

theorem moved_le (ramp : Ramp) {now : Nat}
    (lasting : ramp.elapsedMs now < ramp.durationMs.toNat) :
    ramp.moved now ≤ ramp.span.natAbs := by
  apply Nat.div_le_of_le_mul
  rw [Nat.mul_comm ramp.durationMs.toNat]
  exact Nat.mul_le_mul_left ramp.span.natAbs (Nat.le_of_lt lasting)

/-- Rounding towards the origin keeps the output short of the target until the time is up. -/
theorem moved_lt (ramp : Ramp) {now : Nat} (distinct : ramp.origin ≠ ramp.target)
    (lasting : ramp.elapsedMs now < ramp.durationMs.toNat) :
    ramp.moved now < ramp.span.natAbs := by
  have spanPositive : 0 < ramp.span.natAbs := by
    have apart : ramp.origin.toNat ≠ ramp.target.toNat := by
      intro equality
      exact distinct (UInt8.toNat_inj.1 equality)
    simp only [span]
    omega
  apply Nat.div_lt_of_lt_mul
  rw [Nat.mul_comm ramp.durationMs.toNat]
  exact Nat.mul_lt_mul_of_pos_left lasting spanPositive

private theorem toNat_ofInt_natCast {value : Nat} (small : value < 256) :
    (UInt8.ofInt value).toNat = value := by
  have reduced : ((value : Int) % 2 ^ 8).toNat = value := by
    omega
  rw [UInt8.ofInt, reduced]
  exact UInt8.toNat_ofNat_of_lt' small

/-- What a rising ramp adds to its origin. -/
theorem offset_rising (ramp : Ramp) (now : Nat) (rising : ramp.origin ≤ ramp.target) :
    (ramp.span * ramp.elapsedMs now).tdiv ramp.durationMs.toNat = (ramp.moved now : Int) := by
  have ordered : ramp.origin.toNat ≤ ramp.target.toNat := UInt8.le_iff_toNat_le.1 rising
  have spanEq : ramp.span = (ramp.span.natAbs : Int) := by
    simp only [span]
    omega
  rw [spanEq, ← Int.natCast_mul, ← Int.ofNat_tdiv]
  rfl

/-- What a falling ramp takes from its origin. -/
theorem offset_falling (ramp : Ramp) (now : Nat) (falling : ramp.target ≤ ramp.origin) :
    (ramp.span * ramp.elapsedMs now).tdiv ramp.durationMs.toNat = -(ramp.moved now : Int) := by
  have ordered : ramp.target.toNat ≤ ramp.origin.toNat := UInt8.le_iff_toNat_le.1 falling
  have spanEq : ramp.span = -(ramp.span.natAbs : Int) := by
    simp only [span]
    omega
  rw [spanEq, Int.neg_mul, Int.neg_tdiv, ← Int.natCast_mul, ← Int.ofNat_tdiv]
  simp [moved]

theorem toNat_valueAt_rising (ramp : Ramp) {now : Nat} (rising : ramp.origin ≤ ramp.target)
    (lasting : ramp.elapsedMs now < ramp.durationMs.toNat) :
    (ramp.valueAt now).toNat = ramp.origin.toNat + ramp.moved now := by
  have ordered : ramp.origin.toNat ≤ ramp.target.toNat := UInt8.le_iff_toNat_le.1 rising
  have bounded : ramp.origin.toNat + ramp.moved now < 256 := by
    have movedLe := ramp.moved_le lasting
    have targetLt := ramp.target.toNat_lt
    simp only [span] at movedLe
    omega
  rw [valueAt, ramp.offset_rising now rising, ← Int.natCast_add]
  exact toNat_ofInt_natCast bounded

theorem toNat_valueAt_falling (ramp : Ramp) {now : Nat} (falling : ramp.target ≤ ramp.origin)
    (lasting : ramp.elapsedMs now < ramp.durationMs.toNat) :
    (ramp.valueAt now).toNat = ramp.origin.toNat - ramp.moved now := by
  have ordered : ramp.target.toNat ≤ ramp.origin.toNat := UInt8.le_iff_toNat_le.1 falling
  have movedLe : ramp.moved now ≤ ramp.origin.toNat := by
    have movedLe := ramp.moved_le lasting
    simp only [span] at movedLe
    omega
  have originLt := ramp.origin.toNat_lt
  rw [valueAt, ramp.offset_falling now falling, ← Int.sub_eq_add_neg, ← Int.natCast_sub movedLe]
  exact toNat_ofInt_natCast (by omega)

/-- No byte is cut off: before the end of the ramp the point of the line is a brightness. -/
theorem toNat_valueAt (ramp : Ramp) {now : Nat}
    (lasting : ramp.elapsedMs now < ramp.durationMs.toNat) :
    ((ramp.valueAt now).toNat : Int) =
      ramp.origin.toNat + (ramp.span * ramp.elapsedMs now).tdiv ramp.durationMs.toNat := by
  have movedLe := ramp.moved_le lasting
  simp only [span] at movedLe
  rcases UInt8.le_total ramp.origin ramp.target with rising | falling
  · rw [ramp.toNat_valueAt_rising rising lasting, ramp.offset_rising now rising]
    exact Int.natCast_add _ _
  · rw [ramp.toNat_valueAt_falling falling lasting, ramp.offset_falling now falling]
    rw [UInt8.le_iff_toNat_le] at falling
    omega

theorem valueAt_between (ramp : Ramp) {now : Nat}
    (lasting : ramp.elapsedMs now < ramp.durationMs.toNat) :
    Between ramp.origin ramp.target (ramp.valueAt now) := by
  have movedLe := ramp.moved_le lasting
  simp only [span] at movedLe
  rcases UInt8.le_total ramp.origin ramp.target with rising | falling
  · have valueEq := ramp.toNat_valueAt_rising rising lasting
    rw [UInt8.le_iff_toNat_le] at rising
    left
    simp only [UInt8.le_iff_toNat_le, valueEq]
    omega
  · have valueEq := ramp.toNat_valueAt_falling falling lasting
    rw [UInt8.le_iff_toNat_le] at falling
    right
    simp only [UInt8.le_iff_toNat_le, valueEq]
    omega

/-- What is left of the way to the target. -/
theorem gap_valueAt (ramp : Ramp) {now : Nat}
    (lasting : ramp.elapsedMs now < ramp.durationMs.toNat) :
    gap (ramp.valueAt now) ramp.target = ramp.span.natAbs - ramp.moved now := by
  have movedLe := ramp.moved_le lasting
  simp only [gap, span] at movedLe ⊢
  rcases UInt8.le_total ramp.origin ramp.target with rising | falling
  · have valueEq := ramp.toNat_valueAt_rising rising lasting
    rw [UInt8.le_iff_toNat_le] at rising
    omega
  · have valueEq := ramp.toNat_valueAt_falling falling lasting
    rw [UInt8.le_iff_toNat_le] at falling
    omega

/-- What is done of the way to the target. -/
theorem gap_origin_valueAt (ramp : Ramp) {now : Nat}
    (lasting : ramp.elapsedMs now < ramp.durationMs.toNat) :
    gap ramp.origin (ramp.valueAt now) = ramp.moved now := by
  have movedLe := ramp.moved_le lasting
  simp only [gap, span] at movedLe ⊢
  rcases UInt8.le_total ramp.origin ramp.target with rising | falling
  · have valueEq := ramp.toNat_valueAt_rising rising lasting
    omega
  · have valueEq := ramp.toNat_valueAt_falling falling lasting
    rw [UInt8.le_iff_toNat_le] at falling
    omega

theorem gap_ends (ramp : Ramp) : gap ramp.origin ramp.target = ramp.span.natAbs := by
  simp only [gap, span]
  omega

/-- The output is never ahead of the line. -/
theorem moved_mul_le (ramp : Ramp) (now : Nat) :
    ramp.moved now * ramp.durationMs.toNat ≤ ramp.span.natAbs * ramp.elapsedMs now :=
  Nat.div_mul_le_self _ _

/-- A step puts the output less than one unit behind the line. -/
theorem lt_moved_succ_mul (ramp : Ramp) (now : Nat) (lasts : 0 < ramp.durationMs.toNat) :
    ramp.span.natAbs * ramp.elapsedMs now < (ramp.moved now + 1) * ramp.durationMs.toNat := by
  rw [Nat.mul_comm (ramp.moved now + 1)]
  exact Nat.lt_mul_div_succ _ lasts

theorem minStepMs_le_intervalMs (ramp : Ramp) : minStepMs ≤ ramp.intervalMs :=
  Nat.le_max_right _ _

theorem moved_mono (ramp : Ramp) {earlier later : Nat} (inOrder : earlier ≤ later) :
    ramp.moved earlier ≤ ramp.moved later :=
  Nat.div_le_div_right (Nat.mul_le_mul_left _ (Nat.sub_le_sub_right inOrder ramp.startedAt))

/-- A ramp never gets farther from its target. -/
theorem gap_valueAt_antitone (ramp : Ramp) {earlier later : Nat} (inOrder : earlier ≤ later)
    (lasting : ramp.elapsedMs later < ramp.durationMs.toNat) :
    gap (ramp.valueAt later) ramp.target ≤ gap (ramp.valueAt earlier) ramp.target := by
  have lastingBefore : ramp.elapsedMs earlier < ramp.durationMs.toNat :=
    Nat.lt_of_le_of_lt (Nat.sub_le_sub_right inOrder ramp.startedAt) lasting
  rw [ramp.gap_valueAt lasting, ramp.gap_valueAt lastingBefore]
  exact Nat.sub_le_sub_left (ramp.moved_mono inOrder) _

theorem valueAt_startedAt (ramp : Ramp) : ramp.valueAt ramp.startedAt = ramp.origin := by
  have unmoved : ramp.valueAt ramp.startedAt = .ofInt ramp.origin.toNat := by
    simp [valueAt, elapsedMs]
  rw [unmoved, ← UInt8.toNat_inj]
  exact toNat_ofInt_natCast ramp.origin.toNat_lt

/-- Two steps of a ramp are never made at the same time. -/
theorem steppedAt_lt_of_isDue {ramp : Ramp} {now : Nat} (due : ramp.isDue now = true) :
    ramp.steppedAt < now := by
  have interval : minStepMs ≤ now - ramp.steppedAt :=
    Nat.le_trans ramp.minStepMs_le_intervalMs (of_decide_eq_true due)
  rw [minStepMs] at interval
  omega

theorem valueAt_ne_target (ramp : Ramp) {now : Nat} (distinct : ramp.origin ≠ ramp.target)
    (lasting : ramp.elapsedMs now < ramp.durationMs.toNat) :
    ramp.valueAt now ≠ ramp.target := by
  intro arrived
  have movedLt := ramp.moved_lt distinct lasting
  simp only [span] at movedLt
  rcases UInt8.le_total ramp.origin ramp.target with rising | falling
  · have valueEq := ramp.toNat_valueAt_rising rising lasting
    rw [arrived] at valueEq
    rw [UInt8.le_iff_toNat_le] at rising
    omega
  · have valueEq := ramp.toNat_valueAt_falling falling lasting
    rw [arrived] at valueEq
    rw [UInt8.le_iff_toNat_le] at falling
    omega

end Ramp

end MeshLight
