import MeshLight.Proofs.Fader.Course
import MeshLight.Proofs.Replay

/-!
How a fader closes in on its target. At every moment of a fade the fader shows the point of its ramp at
the time of its latest step (`Ramp.Shows`), and steps are only made at later and later times, so no poll
takes the fader away from the target, not even after the clock has gone back.
-/

namespace MeshLight

/-- The ramp has put up a value: the one that belongs to the time of its latest step, which was made
before the end. -/
structure Ramp.Shows (ramp : Ramp) (value : UInt8) : Prop where
  apart : ramp.origin ≠ ramp.target
  begun : ramp.startedAt ≤ ramp.steppedAt
  lasting : ramp.elapsedMs ramp.steppedAt < ramp.durationMs.toNat
  value_eq : value = ramp.valueAt ramp.steppedAt

/-- A ramp that has not made a step yet stands at its origin. -/
theorem Ramp.shows_origin {ramp : Ramp} (apart : ramp.origin ≠ ramp.target)
    (fresh : ramp.steppedAt = ramp.startedAt) (lasts : 0 < ramp.durationMs.toNat) :
    ramp.Shows ramp.origin := by
  refine ⟨apart, Nat.le_of_eq fresh.symm, ?_, ?_⟩
  · rw [fresh, elapsedMs, Nat.sub_self]
    exact lasts
  · rw [fresh, valueAt_startedAt]

namespace ChannelDriver

def Op.command? : Op → Option ChannelCommand
  | obey command => some command
  | advance => none

/-- What the latest command of a history asks for. A driver that was never commanded is to be dark. -/
def lastTarget (history : List (Nat × Op)) : UInt8 :=
  ((history.filterMap fun timed => timed.2.command?).getLast?.map ChannelCommand.target).getD 0

variable {δ : Type} [ChannelDriver δ]

theorem run_concat (driver : δ) (history : List (Nat × Op)) (now : Nat) (op : Op) :
    run driver (history ++ [(now, op)]) =
      run driver history >>= fun reached => apply reached now op :=
  Traced.replay_concat apply driver history now op

theorem lastTarget_concat (history : List (Nat × Op)) (now : Nat) (op : Op) :
    lastTarget (history ++ [(now, op)]) =
      (op.command?.map ChannelCommand.target).getD (lastTarget history) := by
  rw [lastTarget, filterMap_concat_toList]
  cases op with
  | obey command =>
      simp [Op.command?]
  | advance =>
      simp [Op.command?, lastTarget]

/-- Polls a driver at one clock after the other. -/
def polls (clocks : List Nat) : List (Nat × Op) :=
  clocks.map fun now => (now, .advance)

theorem run_polls_concat (driver : δ) (clocks : List Nat) (now : Nat) :
    run driver (polls (clocks ++ [now])) =
      run driver (polls clocks) >>= fun reached => advance reached now := by
  rw [polls, List.map_append]
  exact run_concat driver (polls clocks) now .advance

end ChannelDriver

namespace Fader

open ChannelDriver (Op)

/-- The fader shows what its ramp has put up, if it has a ramp. -/
def IsSteady (fader : Fader) : Prop :=
  ∀ ramp, fader.ramp = some ramp → ramp.Shows fader.value

theorem isSteady_of_idle {fader : Fader} (idle : fader.ramp = none) : fader.IsSteady := by
  intro ramp fading
  rw [idle] at fading
  cases fading

theorem isSteady_start (pwm : Pwm) : (start pwm).value.IsSteady :=
  isSteady_of_idle (ramp_write _ 0)

theorem isSteady_fade (fader : Fader) (now : Nat) (target : UInt8) (durationMs : UInt32) :
    (fader.fade now target durationMs).value.IsSteady := by
  rw [fade]
  split
  case isTrue there =>
    exact isSteady_of_idle rfl
  case isFalse elsewhere =>
    split
    case isTrue quick =>
      exact isSteady_of_idle (ramp_write _ target)
    case isFalse long =>
      intro ramp fading
      cases fading
      refine Ramp.shows_origin (Ne.symm elsewhere) rfl ?_
      exact Nat.lt_of_le_of_lt (Nat.zero_le _) (Nat.lt_of_not_le long)

theorem isSteady_obey (fader : Fader) (now : Nat) (command : ChannelCommand) :
    (fader.obey now command).value.IsSteady := by
  cases command with
  | set value =>
      exact isSteady_of_idle (ramp_write _ value)
  | fade target durationMs =>
      exact fader.isSteady_fade now target durationMs

theorem target_advance (fader : Fader) (now : Nat) :
    (fader.advance now).value.target = fader.target := by
  cases fading : fader.ramp with
  | none =>
      simp only [advance, fading]
      rfl
  | some ramp =>
      simp only [advance, fading]
      split_ifs with finished due <;> simp [target, fading]

/-- A poll leaves the fader on its ramp, and no farther from the target than it was. -/
theorem IsSteady.poll {fader : Fader} (steady : fader.IsSteady) (now : Nat) :
    (fader.advance now).value.IsSteady ∧
      gap (fader.advance now).value.value fader.target ≤ gap fader.value fader.target := by
  cases fading : fader.ramp with
  | none =>
      simp only [advance, fading]
      exact ⟨steady, Nat.le_refl _⟩
  | some ramp =>
      have shows := steady ramp fading
      have targetEq : fader.target = ramp.target := by
        simp only [target, fading]
      rw [targetEq]
      simp only [advance, fading]
      split
      case isTrue finished =>
        refine ⟨isSteady_of_idle (ramp_write _ _), ?_⟩
        simp [gap]
      case isFalse lasting =>
        have lastingNow := Ramp.elapsedMs_lt_of_not_isOver lasting
        split
        case isTrue due =>
          -- A step is due only at a time after the one before it, whatever the clock did meanwhile.
          have later := Ramp.steppedAt_lt_of_isDue due
          constructor
          · intro next stepped
            rw [ramp_write] at stepped
            cases stepped
            exact ⟨shows.apart, Nat.le_trans shows.begun (Nat.le_of_lt later), lastingNow,
              value_write _ _⟩
          · rw [value_write, shows.value_eq]
            exact ramp.gap_valueAt_antitone (Nat.le_of_lt later) lastingNow
        case isFalse early =>
          exact ⟨steady, Nat.le_refl _⟩

theorem IsSteady.run {fader : Fader} (steady : fader.IsSteady) (history : List (Nat × Op)) :
    (ChannelDriver.run fader history).value.IsSteady := by
  induction history generalizing fader with
  | nil =>
      exact steady
  | cons timed rest inductionHypothesis =>
      obtain ⟨now, op⟩ := timed
      cases op with
      | obey command =>
          exact inductionHypothesis (fader.isSteady_obey now command)
      | advance =>
          exact inductionHypothesis (steady.poll now).1

theorem IsSteady.isFading_iff {fader : Fader} (steady : fader.IsSteady) :
    fader.isFading = true ↔ fader.value ≠ fader.target := by
  cases fading : fader.ramp with
  | none =>
      simp [isFading, target, fading]
  | some ramp =>
      have shows := steady ramp fading
      have short := ramp.valueAt_ne_target shows.apart shows.lasting
      rw [← shows.value_eq] at short
      simp [isFading, target, fading, short]

theorem target_obey (fader : Fader) (now : Nat) (command : ChannelCommand) :
    (fader.obey now command).value.target = command.target := by
  cases command with
  | set value =>
      simp [obey, set, target, ChannelCommand.target]
  | fade target durationMs =>
      exact (fader.onCourse_fade now target durationMs).target_eq

/-- A fader from the moment when it has switched its output off. -/
def lived (pwm : Pwm) (history : List (Nat × Op)) : Traced OutputEvent Fader := do
  let fader ← start pwm
  ChannelDriver.run fader history

theorem lived_concat (pwm : Pwm) (history : List (Nat × Op)) (now : Nat) (op : Op) :
    lived pwm (history ++ [(now, op)]) =
      lived pwm history >>= fun reached => ChannelDriver.apply reached now op := by
  simp only [lived, ChannelDriver.run_concat, bind_assoc]

theorem isSteady_lived (pwm : Pwm) (history : List (Nat × Op)) :
    (lived pwm history).value.IsSteady :=
  (isSteady_start pwm).run history

theorem target_lived (pwm : Pwm) (history : List (Nat × Op)) :
    (lived pwm history).value.target = ChannelDriver.lastTarget history := by
  induction history using List.reverseRecOn with
  | nil =>
      simp [lived, ChannelDriver.run, start, target, ChannelDriver.lastTarget]
  | append_singleton history timed inductionHypothesis =>
      obtain ⟨now, op⟩ := timed
      rw [lived_concat, ChannelDriver.lastTarget_concat, ← inductionHypothesis]
      cases op with
      | obey command =>
          exact target_obey _ now command
      | advance =>
          exact target_advance _ now

/-- Polls at any clocks, in any order, keep the fader on its course, and the fade lasts until the first
poll that is made when the duration has passed. -/
theorem OnCourse.polls {fader : Fader} {origin target : UInt8} {durationMs : UInt32} {sentAt : Nat}
    (course : fader.OnCourse origin target durationMs sentAt) (clocks : List Nat) :
    let reached := (ChannelDriver.run fader (ChannelDriver.polls clocks)).value
    reached.OnCourse origin target durationMs sentAt ∧
      (reached.isFading = true ↔
        fader.isFading = true ∧ ∀ now ∈ clocks, now - sentAt < durationMs.toNat) := by
  induction clocks using List.reverseRecOn with
  | nil =>
      exact ⟨course, by simp [ChannelDriver.polls, ChannelDriver.run]⟩
  | append_singleton clocks now inductionHypothesis =>
      obtain ⟨courseBefore, fadingBefore⟩ := inductionHypothesis
      intro reached
      have reachedEq : reached =
          ((ChannelDriver.run fader (ChannelDriver.polls clocks)).value.advance now).value := by
        simp only [reached, ChannelDriver.run_polls_concat]
        rfl
      rw [reachedEq, courseBefore.isFading_advance now, fadingBefore]
      refine ⟨courseBefore.advance now, ?_⟩
      simp only [List.mem_append, List.mem_singleton, or_imp, forall_and, forall_eq, and_assoc]

/-- Whatever a fader was told and however often and at whatever clocks it was polled, whether or not its
output takes what it is given:

* it heads for what the latest command asked for, and is fading exactly while it is not there;
* no point of its ramp is cut to a byte;
* a fade that is told to it keeps it between the value at which the fade began and the target, lasts
  exactly until the first poll that is made when the duration has passed, and never goes back. -/
theorem fades_close_in_on_targets (pwm : Pwm) (history : List (Nat × Op)) :
    let fader := (lived pwm history).value
    fader.target = ChannelDriver.lastTarget history ∧
    (fader.value ≠ fader.target ↔ fader.isFading = true) ∧
    (∀ ramp now, fader.ramp = some ramp → ¬ ramp.isOver now = true →
      ((ramp.valueAt now).toNat : Int) =
        ramp.origin.toNat + (ramp.span * ramp.elapsedMs now).tdiv ramp.durationMs.toNat) ∧
    ∀ sentAt target durationMs clocks,
      let sent := (fader.fade sentAt target durationMs).value
      let reached := (ChannelDriver.run sent (ChannelDriver.polls clocks)).value
      Between fader.value target reached.value ∧
      (reached.value ≠ target ↔ reached.isFading = true) ∧
      (reached.isFading = true ↔
        fader.value ≠ target ∧ Ramp.minStepMs < durationMs.toNat ∧
          ∀ now ∈ clocks, now - sentAt < durationMs.toNat) ∧
      ∀ now, gap (reached.advance now).value.value target ≤ gap reached.value target := by
  intro fader
  have steady : fader.IsSteady := isSteady_lived pwm history
  refine ⟨target_lived pwm history, steady.isFading_iff.symm, ?_, ?_⟩
  · intro ramp now _ lasting
    exact ramp.toNat_valueAt (Ramp.elapsedMs_lt_of_not_isOver lasting)
  · intro sentAt target durationMs clocks sent reached
    obtain ⟨course, fading⟩ := (fader.onCourse_fade sentAt target durationMs).polls clocks
    refine ⟨course.between, course.isFading_iff.symm, ?_, ?_⟩
    · rw [fading, isFading_fade, and_assoc]
    · intro now
      have reachedSteady : reached.IsSteady :=
        (fader.isSteady_fade sentAt target durationMs).run (ChannelDriver.polls clocks)
      have closer := (reachedSteady.poll now).2
      rwa [course.target_eq] at closer

end Fader

end MeshLight
