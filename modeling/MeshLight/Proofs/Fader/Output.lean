import MeshLight.Proofs.Fader.Approach

/-!
What the output of a fader is left at. A fader decides by its own value whether there is anything to
write, and takes over a value before it knows whether the output has taken it. So a fade to another value
brings the output to the target once the output works again, but a fade to the value that the fader has
already leaves the output where it is, even if it is somewhere else.
-/

namespace MeshLight

namespace OutputEvent

def taken? : OutputEvent → Option Nat
  | duty amount true => some amount
  | _ => none

/-- The duty that an output was left at by some events, if it took one. -/
def shown? (events : List OutputEvent) : Option Nat :=
  (events.filterMap taken?).getLast?

theorem shown?_append (first second : List OutputEvent) :
    shown? (first ++ second) = (shown? second).or (shown? first) := by
  rw [shown?, List.filterMap_append, List.getLast?_append]
  rfl

end OutputEvent

namespace Pwm

/-- The output takes every duty that it will be offered. -/
def Works (pwm : Pwm) : Prop :=
  ∀ use, pwm.faults.used ≤ use → pwm.faults.fails use = false

/-- The same output when it has been offered some more duties. -/
def Precedes (pwm later : Pwm) : Prop :=
  ∃ offers, later = { pwm with faults := { pwm.faults with used := pwm.faults.used + offers } }

variable {pwm later last : Pwm}

theorem Precedes.refl (pwm : Pwm) : pwm.Precedes pwm :=
  ⟨0, rfl⟩

theorem Precedes.trans (first : pwm.Precedes later) (second : later.Precedes last) :
    pwm.Precedes last := by
  obtain ⟨offers, rfl⟩ := first
  obtain ⟨more, rfl⟩ := second
  exact ⟨offers + more, by simp only [Nat.add_assoc]⟩

theorem precedes_offer (pwm : Pwm) : pwm.Precedes pwm.offer.2 :=
  ⟨1, rfl⟩

theorem Precedes.duty_eq (first : pwm.Precedes later) (value : UInt8) :
    later.duty value = pwm.duty value := by
  obtain ⟨offers, rfl⟩ := first
  rfl

theorem Precedes.works (first : pwm.Precedes later) (works : pwm.Works) : later.Works := by
  obtain ⟨offers, rfl⟩ := first
  intro use unused
  exact works use (Nat.le_of_add_right_le unused)

end Pwm

namespace Fader

open ChannelDriver (Op)

section Pwm

variable (fader : Fader) (now : Nat)

theorem precedes_write (value : UInt8) : fader.pwm.Precedes (fader.write value).value.pwm := by
  rw [write_value]
  exact fader.pwm.precedes_offer

theorem precedes_fade (target : UInt8) (durationMs : UInt32) :
    fader.pwm.Precedes (fader.fade now target durationMs).value.pwm := by
  rw [fade]
  split_ifs
  · exact .refl _
  · exact precedes_write _ target
  · exact .refl _

theorem precedes_advance : fader.pwm.Precedes (fader.advance now).value.pwm := by
  rw [advance]
  split
  · exact .refl _
  · split_ifs
    · exact precedes_write _ _
    · exact precedes_write _ _
    · exact .refl _

theorem precedes_apply (op : Op) :
    fader.pwm.Precedes (ChannelDriver.apply fader now op).value.pwm := by
  rcases op with (value | ⟨target, durationMs⟩) | _
  · exact precedes_write _ value
  · exact fader.precedes_fade now target durationMs
  · exact fader.precedes_advance now

theorem precedes_run (history : List (Nat × Op)) :
    fader.pwm.Precedes (ChannelDriver.run fader history).value.pwm := by
  induction history generalizing fader with
  | nil =>
      exact .refl _
  | cons timed rest inductionHypothesis =>
      exact (fader.precedes_apply timed.1 timed.2).trans (inductionHypothesis _)

theorem precedes_lived (pwm : Pwm) (history : List (Nat × Op)) :
    pwm.Precedes (lived pwm history).value.pwm :=
  (precedes_write _ 0).trans (precedes_run _ history)

end Pwm

variable {fader : Fader} {origin target : UInt8} {durationMs : UInt32} {sentAt : Nat}

theorem write_events_of_works (fader : Fader) (works : fader.pwm.Works) (value : UInt8) :
    (fader.write value).events = [.duty (fader.pwm.duty value) true] := by
  have taken : fader.pwm.offer.1 = true := congrArg Bool.not (works _ (Nat.le_refl _))
  rw [write_events, taken]
  rfl

/-- A fade that is told to a fader whose output works finds the fader at the target, or is in progress and
has nothing to write yet, or is over when it has written the duty of the target. -/
theorem fade_events_of_works (works : fader.pwm.Works) (now : Nat) (target : UInt8)
    (durationMs : UInt32) :
    let faded := fader.fade now target durationMs
    faded.events = [] ∧ (fader.value = target ∨ faded.value.isFading = true) ∨
      faded.events = [.duty (fader.pwm.duty target) true] ∧ fader.value ≠ target ∧
        faded.value.isFading = false := by
  intro faded
  simp only [faded]
  by_cases there : target = fader.value
  · rw [fade, if_pos there]
    exact Or.inl ⟨rfl, Or.inl there.symm⟩
  · by_cases quick : durationMs.toNat ≤ Ramp.minStepMs
    · rw [fade, if_neg there, if_pos quick]
      refine Or.inr ⟨?_, Ne.symm there, ?_⟩
      · exact write_events_of_works { fader with ramp := none } works target
      · rw [isFading, ramp_write]
        rfl
    · rw [fade, if_neg there, if_neg quick]
      exact Or.inl ⟨rfl, Or.inr rfl⟩

/-- The last poll of a fade is the one that writes the duty of the target. -/
theorem OnCourse.poll_events (course : fader.OnCourse origin target durationMs sentAt)
    (works : fader.pwm.Works) (now : Nat) :
    let polled := fader.advance now
    (fader.isFading = false → polled.events = []) ∧
      (fader.isFading = true → polled.value.isFading = false →
        polled.events = [.duty (fader.pwm.duty target) true]) := by
  intro polled
  simp only [polled, Fader.advance]
  cases course with
  | arrived idle there =>
      simp [isFading, idle]
  | underway steppedAt ramp between short =>
      refine ⟨fun idle => ?_, fun _ => ?_⟩
      · rw [isFading, ramp] at idle
        cases idle
      · simp only [ramp]
        split_ifs with finished due
        · intro _
          exact write_events_of_works { fader with ramp := none } works target
        · simp [isFading]
        · simp [isFading, ramp]

theorem OnCourse.polls_events (course : fader.OnCourse origin target durationMs sentAt)
    (works : fader.pwm.Works) (clocks : List Nat) :
    let polled := ChannelDriver.run fader (ChannelDriver.polls clocks)
    (fader.isFading = false → polled.events = []) ∧
      (fader.isFading = true → polled.value.isFading = false →
        OutputEvent.shown? polled.events = some (fader.pwm.duty target)) := by
  induction clocks using List.reverseRecOn with
  | nil =>
      refine ⟨fun _ => rfl, fun fading idle => ?_⟩
      exact absurd (fading.symm.trans idle) (by decide)
  | append_singleton clocks now inductionHypothesis =>
      obtain ⟨quiet, landed⟩ := inductionHypothesis
      obtain ⟨courseBefore, fadingBefore⟩ := course.polls clocks
      have aged := fader.precedes_run (ChannelDriver.polls clocks)
      obtain ⟨quietNow, landsNow⟩ := courseBefore.poll_events (aged.works works) now
      rw [aged.duty_eq] at landsNow
      rw [ChannelDriver.run_polls_concat]
      have advanced := courseBefore.isFading_advance now
      refine ⟨?_, ?_⟩
      · intro idle
        have idleBefore := eq_false_of_ne_true fun fading =>
          absurd ((fadingBefore.1 fading).1.symm.trans idle) (by decide)
        rw [Traced.bind_events, quiet idle]
        exact quietNow idleBefore
      · intro fading idle
        rw [Traced.bind_events, OutputEvent.shown?_append]
        cases stillFading : (ChannelDriver.run fader (ChannelDriver.polls clocks)).value.isFading with
        | true =>
            have landing := landsNow stillFading idle
            rw [show (ChannelDriver.advance _ now).events = _ from landing]
            rfl
        | false =>
            have nothing := quietNow stillFading
            rw [show (ChannelDriver.advance _ now).events = _ from nothing, landed fading stillFading]
            rfl

/-- The end of a fade finds the output at the duty of the target, unless there was nothing to fade. -/
theorem fade_polls_of_works (works : fader.pwm.Works) (target : UInt8) {clocks : List Nat}
    (passed : ∃ now ∈ clocks, durationMs.toNat ≤ now - sentAt) :
    let after := ChannelDriver.run fader
      ((sentAt, .obey (.fade target durationMs)) :: ChannelDriver.polls clocks)
    after.value.value = target ∧
      (fader.value ≠ target →
        OutputEvent.shown? after.events = some (fader.pwm.duty target)) ∧
      (fader.value = target → after.events = []) := by
  let faded := fader.fade sentAt target durationMs
  let polled := ChannelDriver.run faded.value (ChannelDriver.polls clocks)
  intro after
  have eventsEq : after.events = faded.events ++ polled.events := rfl
  have course : faded.value.OnCourse fader.value target durationMs sentAt :=
    fader.onCourse_fade sentAt target durationMs
  have aged : fader.pwm.Precedes faded.value.pwm := fader.precedes_fade sentAt target durationMs
  obtain ⟨polledCourse, fading⟩ := course.polls clocks
  obtain ⟨quiet, landed⟩ := course.polls_events (aged.works works) clocks
  have idle : polled.value.isFading = false := by
    obtain ⟨now, member, ended⟩ := passed
    apply eq_false_of_ne_true
    intro stillFading
    exact Nat.not_lt_of_le ended ((fading.1 stillFading).2 now member)
  have there : polled.value.value = target := by
    apply Decidable.not_not.1
    intro short
    exact absurd idle (ne_false_of_eq_true (polledCourse.isFading_iff.2 short))
  have fadedEvents := fade_events_of_works works sentAt target durationMs
  refine ⟨there, ?_, ?_⟩
  · intro apart
    rw [eventsEq, OutputEvent.shown?_append]
    rcases fadedEvents with ⟨nothing, same | begun⟩ | ⟨written, _, ended⟩
    · exact absurd same apart
    · rw [show OutputEvent.shown? polled.events = _ from landed begun idle, aged.duty_eq]
      rfl
    · rw [show faded.events = _ from written, show polled.events = [] from quiet ended]
      rfl
  · intro same
    have notFading : faded.value.isFading = false := by
      apply eq_false_of_ne_true
      intro begun
      exact ((isFading_fade fader sentAt target durationMs).1 begun).1 same
    rcases fadedEvents with ⟨nothing, _⟩ | ⟨_, apart, _⟩
    · rw [eventsEq, show faded.events = [] from nothing, show polled.events = [] from quiet notFading]
      rfl
    · exact absurd same apart

/-- However often the output of a fader has failed, if it works again when a fade is told to the fader and
the fader is polled when the duration has passed, then the fader stands at the target, and its output is at
the duty of the target if the fader had another value before. A fade to the value that the fader had leaves
the output at the duty that it has taken last, so that it is at the duty of the target only if it was there
already. -/
theorem outputs_follow_new_targets {pwm : Pwm} {history : List (Nat × Op)} {sentAt : Nat}
    {durationMs : UInt32} {clocks : List Nat} (works : (lived pwm history).value.pwm.Works)
    (target : UInt8) (passed : ∃ now ∈ clocks, durationMs.toNat ≤ now - sentAt) :
    let before := lived pwm history
    let later := (sentAt, .obey (.fade target durationMs)) :: ChannelDriver.polls clocks
    let after := ChannelDriver.run before.value later
    after.value.value = target ∧
    (before.value.value ≠ target →
      OutputEvent.shown? after.events = some (pwm.duty target)) ∧
    (before.value.value = target → after.events = []) ∧
    (OutputEvent.shown? (before.events ++ after.events) = some (pwm.duty target) ↔
      before.value.value ≠ target ∨
        OutputEvent.shown? before.events = some (pwm.duty target)) := by
  intro before later after
  obtain ⟨there, caughtUp, nothing⟩ := fade_polls_of_works works target passed
  rw [(precedes_lived pwm history).duty_eq] at caughtUp
  refine ⟨there, caughtUp, nothing, ?_⟩
  rw [OutputEvent.shown?_append]
  by_cases same : before.value.value = target
  · rw [show after.events = [] from nothing same]
    simp [same, OutputEvent.shown?]
  · rw [show OutputEvent.shown? after.events = _ from caughtUp same]
    simp [same]

/-- The output refuses the duty of zero and stays at 200. The fader is at zero all the same, so when
the output works again, a fade to zero that lasts a second has nothing to write at its end. -/
theorem lost_duty_is_never_repeated :
    let pwm : Pwm := { maxDuty := 255, faults := { fails := fun use => use == 2 } }
    let before := lived pwm [(0, .obey (.set 200)), (0, .obey (.set 0))]
    let later := (0, .obey (.fade 0 1000)) :: ChannelDriver.polls [1000]
    let after := ChannelDriver.run before.value later
    before.value.pwm.Works ∧
      (∃ now ∈ [1000], (1000 : UInt32).toNat ≤ now - 0) ∧
      after.value.value = 0 ∧
      OutputEvent.shown? (before.events ++ after.events) = some 200 ∧
      OutputEvent.shown? (before.events ++ after.events) ≠ some (pwm.duty 0) := by
  refine ⟨?_, by decide, by decide, by decide, by decide⟩
  intro use unused
  have used : 3 ≤ use := unused
  exact beq_eq_false_iff_ne.2 (by omega)

/-- The output misses two steps on the way to 200 and is still dark when a fade back to 60 begins. It is at
60 of 255 in the end. -/
theorem output_recovers_from_lost_steps :
    let pwm : Pwm := { maxDuty := 1000, faults := { fails := fun use => use == 1 || use == 2 } }
    let before := lived pwm [(0, .obey (.fade 200 1000)), (500, .advance), (700, .advance)]
    let later := (700, .obey (.fade 60 100)) :: ChannelDriver.polls [650, 760, 800]
    let after := ChannelDriver.run before.value later
    before.value.pwm.Works ∧
      (∃ now ∈ [650, 760, 800], (100 : UInt32).toNat ≤ now - 700) ∧
      before.value.value = 140 ∧
      OutputEvent.shown? before.events = some 0 ∧
      OutputEvent.shown? after.events = some 235 := by
  intro pwm before later after
  have works : before.value.pwm.Works := by
    intro use unused
    have used : before.value.pwm.faults.used = 3 := by decide
    have apart : use ≠ 1 ∧ use ≠ 2 := by omega
    obtain ⟨offers, aged⟩ := precedes_lived pwm _
    rw [show before.value.pwm = _ from aged]
    simpa [pwm] using apart
  have passed : ∃ now ∈ [650, 760, 800], (100 : UInt32).toNat ≤ now - 700 := by decide
  have moved : before.value.value = 140 := by decide
  obtain ⟨_, caughtUp, _⟩ := outputs_follow_new_targets works 60 passed
  have apart : before.value.value ≠ 60 := by
    rw [moved]
    decide
  have amount : pwm.duty 60 = 235 := by decide
  exact ⟨works, passed, moved, by decide, (caughtUp apart).trans (congrArg some amount)⟩

end Fader

end MeshLight
