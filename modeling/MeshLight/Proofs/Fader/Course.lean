import MeshLight.Fader
import MeshLight.Proofs.Ramp

/-!
The course of a fader: what is known of it from the last command that it obeyed, however often it was
polled since. It is either at the target with no fade in progress, or short of the target on one ramp
from the place where the command found it. Which of the two depends on the clock alone
(`OnCourse.isFading_advance`).
-/

namespace MeshLight

namespace Fader

/-- Writing changes the value and uses up one outcome of the output, whatever that outcome is. -/
theorem write_value (fader : Fader) (value : UInt8) :
    (fader.write value).value = { fader with value, pwm := fader.pwm.offer.2 } := by
  rcases offered : fader.pwm.offer with ⟨accepted, pwm⟩
  cases accepted <;> simp [write, offered]

theorem write_events (fader : Fader) (value : UInt8) :
    (fader.write value).events =
      .duty (fader.pwm.duty value) fader.pwm.offer.1 ::
        if fader.pwm.offer.1 then [] else [.log .dutyRejected] := by
  rcases offered : fader.pwm.offer with ⟨accepted, pwm⟩
  cases accepted <;> simp [write, offered]

@[simp]
theorem value_write (fader : Fader) (value : UInt8) :
    (fader.write value).value.value = value := by
  rw [write_value]

@[simp]
theorem ramp_write (fader : Fader) (value : UInt8) :
    (fader.write value).value.ramp = fader.ramp := by
  rw [write_value]

@[simp]
theorem value_set (fader : Fader) (value : UInt8) : (fader.set value).value.value = value :=
  value_write _ value

theorem advance_of_idle {fader : Fader} (idle : fader.ramp = none) (now : Nat) :
    fader.advance now = pure fader := by
  simp only [advance, idle]

/-- The fader was sent from one value to another at a certain time, and has only been polled since. -/
inductive OnCourse (fader : Fader) (origin target : UInt8) (durationMs : UInt32) (sentAt : Nat) :
    Prop
  | arrived
      (idle : fader.ramp = none)
      (there : fader.value = target) :
      OnCourse fader origin target durationMs sentAt
  | underway (steppedAt : Nat)
      (ramp : fader.ramp = some { origin, target, durationMs, startedAt := sentAt, steppedAt })
      (between : Between origin target fader.value)
      (short : fader.value ≠ target) :
      OnCourse fader origin target durationMs sentAt

/-- A fade starts from the value at which it finds the fader. -/
theorem onCourse_fade (fader : Fader) (now : Nat) (target : UInt8) (durationMs : UInt32) :
    (fader.fade now target durationMs).value.OnCourse fader.value target durationMs now := by
  by_cases there : target = fader.value
  · rw [fade, if_pos there]
    exact .arrived rfl there.symm
  · by_cases quick : durationMs.toNat ≤ Ramp.minStepMs
    · rw [fade, if_neg there, if_pos quick]
      exact .arrived (ramp_write _ target) (value_write _ target)
    · rw [fade, if_neg there, if_neg quick]
      exact .underway now rfl Between.first_mem (Ne.symm there)

theorem isFading_fade (fader : Fader) (now : Nat) (target : UInt8) (durationMs : UInt32) :
    (fader.fade now target durationMs).value.isFading = true ↔
      fader.value ≠ target ∧ Ramp.minStepMs < durationMs.toNat := by
  by_cases there : target = fader.value
  · rw [fade, if_pos there]
    simp [isFading, there]
  · by_cases quick : durationMs.toNat ≤ Ramp.minStepMs
    · rw [fade, if_neg there, if_pos quick]
      simp [isFading, quick]
    · rw [fade, if_neg there, if_neg quick]
      simp [isFading, Ne.symm there, Nat.lt_of_not_le quick]

theorem onCourse_set_fade (fader : Fader) (now : Nat) (start stop : UInt8) (durationMs : UInt32) :
    ((fader.set start).value.fade now stop durationMs).value.OnCourse start stop durationMs now := by
  have course := onCourse_fade (fader.set start).value now stop durationMs
  rwa [value_set] at course

theorem isFading_set_fade (fader : Fader) (now : Nat) (start stop : UInt8) (durationMs : UInt32) :
    ((fader.set start).value.fade now stop durationMs).value.isFading = true ↔
      start ≠ stop ∧ Ramp.minStepMs < durationMs.toNat := by
  rw [isFading_fade, value_set]

theorem value_fade_of_quick (fader : Fader) (now : Nat) (target : UInt8) {durationMs : UInt32}
    (quick : durationMs.toNat ≤ Ramp.minStepMs) :
    (fader.fade now target durationMs).value.value = target := by
  by_cases there : target = fader.value
  · rw [fade, if_pos there]
    exact there.symm
  · rw [fade, if_neg there, if_pos quick]
    exact value_write _ target

theorem value_fade_of_long (fader : Fader) (now : Nat) (target : UInt8) {durationMs : UInt32}
    (long : Ramp.minStepMs < durationMs.toNat) :
    (fader.fade now target durationMs).value.value = fader.value := by
  by_cases there : target = fader.value
  · rw [fade, if_pos there]
    rfl
  · rw [fade, if_neg there, if_neg (Nat.not_le_of_lt long)]
    rfl

namespace OnCourse

variable {fader : Fader} {origin target : UInt8} {durationMs : UInt32} {sentAt : Nat}

theorem target_eq (course : fader.OnCourse origin target durationMs sentAt) :
    fader.target = target := by
  cases course with
  | arrived idle there =>
      simpa [Fader.target, idle] using there
  | underway steppedAt ramp between short =>
      simp [Fader.target, ramp]

theorem between (course : fader.OnCourse origin target durationMs sentAt) :
    Between origin target fader.value := by
  cases course with
  | arrived idle there =>
      rw [there]
      exact Between.second_mem
  | underway steppedAt ramp between short =>
      exact between

/-- The value tells whether the fade is still in progress. -/
theorem isFading_iff (course : fader.OnCourse origin target durationMs sentAt) :
    fader.isFading = true ↔ fader.value ≠ target := by
  cases course with
  | arrived idle there =>
      simp [isFading, idle, there]
  | underway steppedAt ramp between short =>
      simp [isFading, ramp, short]

/-- A poll keeps the fader on its course, whatever clock it is made at, and the fade outlasts the poll
exactly as long as its duration has not passed. -/
theorem poll (course : fader.OnCourse origin target durationMs sentAt) (now : Nat) :
    (fader.advance now).value.OnCourse origin target durationMs sentAt ∧
      ((fader.advance now).value.isFading = true ↔
        fader.isFading = true ∧ now - sentAt < durationMs.toNat) := by
  cases course with
  | arrived idle there =>
      rw [advance_of_idle idle, Traced.pure_value]
      exact ⟨.arrived idle there, by simp [isFading, idle]⟩
  | underway steppedAt ramp between short =>
      have apart : origin ≠ target := by
        intro same
        subst same
        exact short between.eq_of_self
      simp only [Fader.advance, ramp]
      split
      case isTrue finished =>
        rw [Ramp.isOver_iff] at finished
        refine ⟨.arrived (ramp_write _ target) (value_write _ target), ?_⟩
        simpa [isFading] using fun _ => finished
      case isFalse lasting =>
        have elapsedLt := Ramp.elapsedMs_lt_of_not_isOver lasting
        have remaining : now - sentAt < durationMs.toNat := elapsedLt
        have fadingBefore : fader.isFading = true := by
          simp [isFading, ramp]
        split
        case isTrue due =>
          refine ⟨.underway now (ramp_write _ _) ?_ ?_, ?_⟩
          · rw [value_write]
            exact Ramp.valueAt_between _ elapsedLt
          · rw [value_write]
            exact Ramp.valueAt_ne_target _ apart elapsedLt
          · rw [isFading, ramp_write]
            exact iff_of_true rfl ⟨fadingBefore, remaining⟩
        case isFalse early =>
          refine ⟨.underway steppedAt ramp between short, ?_⟩
          exact iff_of_true fadingBefore ⟨fadingBefore, remaining⟩

theorem advance (course : fader.OnCourse origin target durationMs sentAt) (now : Nat) :
    (fader.advance now).value.OnCourse origin target durationMs sentAt :=
  (course.poll now).1

theorem isFading_advance (course : fader.OnCourse origin target durationMs sentAt) (now : Nat) :
    (fader.advance now).value.isFading = true ↔
      fader.isFading = true ∧ now - sentAt < durationMs.toNat :=
  (course.poll now).2

/-- No poll after the duration finds the fader anywhere but at its target. -/
theorem value_advance_of_over (course : fader.OnCourse origin target durationMs sentAt) {now : Nat}
    (ended : durationMs.toNat ≤ now - sentAt) :
    (fader.advance now).value.value = target := by
  apply Decidable.byContradiction
  intro short
  have fading := (course.advance now).isFading_iff.2 short
  have remaining := ((course.isFading_advance now).1 fading).2
  exact Nat.not_lt_of_le ended remaining

/-- A fader that is at its target stays there. -/
theorem value_advance_of_there (course : fader.OnCourse origin target durationMs sentAt)
    (there : fader.value = target) (now : Nat) :
    (fader.advance now).value.value = target := by
  apply Decidable.byContradiction
  intro short
  have fading := (course.advance now).isFading_iff.2 short
  have fadingBefore := ((course.isFading_advance now).1 fading).1
  exact course.isFading_iff.1 fadingBefore there

end OnCourse

/-- A fade takes its course from the value that it shows when it begins, also if it is done at once. -/
theorem onCourse_value_fade (fader : Fader) (now : Nat) (target : UInt8) (durationMs : UInt32) :
    let faded := (fader.fade now target durationMs).value
    faded.OnCourse faded.value target durationMs now := by
  intro faded
  by_cases fading : faded.isFading = true
  · obtain ⟨apart, long⟩ := (isFading_fade fader now target durationMs).1 fading
    have unmoved : faded.value = fader.value := value_fade_of_long fader now target long
    rw [unmoved]
    exact onCourse_fade fader now target durationMs
  · refine .arrived (by simpa [isFading] using fading) ?_
    have course := onCourse_fade fader now target durationMs
    exact Decidable.not_not.1 (mt course.isFading_iff.2 fading)

end Fader

end MeshLight
