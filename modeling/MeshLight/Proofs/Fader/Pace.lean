import MeshLight.Proofs.Fader.Approach

/-!
The pace of a fader. The steps of a fade are an interval of its ramp apart, and no poll leaves the
fader a whole interval behind its latest step, so that the output follows the straight line closely
however it is polled. The landing does not look at the latest step: it is made by the first poll
after the duration, and may come right after a step.
-/

namespace MeshLight

/-- A duty is handed to the output, whether or not the output takes it. -/
def OutputEvent.isOffer : OutputEvent → Bool
  | duty .. => true
  | log _ => false

/-- A poll within one interval of a step finds the output behind the line by less than one unit and
what the line gains in the interval. -/
theorem Ramp.lag_lt (ramp : Ramp) {latest now : Nat} (lasts : 0 < ramp.durationMs.toNat)
    (begun : ramp.startedAt ≤ latest) (recent : now - latest < ramp.intervalMs) :
    ramp.span.natAbs * ramp.elapsedMs now <
      (ramp.moved latest + 1) * ramp.durationMs.toNat + ramp.span.natAbs * ramp.intervalMs := by
  have elapsedLe : ramp.elapsedMs now ≤ ramp.elapsedMs latest + ramp.intervalMs := by
    simp only [elapsedMs]
    omega
  calc ramp.span.natAbs * ramp.elapsedMs now
      ≤ ramp.span.natAbs * (ramp.elapsedMs latest + ramp.intervalMs) :=
        Nat.mul_le_mul_left _ elapsedLe
    _ = ramp.span.natAbs * ramp.elapsedMs latest + ramp.span.natAbs * ramp.intervalMs :=
        Nat.mul_add _ _ _
    _ < (ramp.moved latest + 1) * ramp.durationMs.toNat + ramp.span.natAbs * ramp.intervalMs :=
        Nat.add_lt_add_right (ramp.lt_moved_succ_mul latest lasts) _

namespace ChannelDriver

variable {δ : Type} [ChannelDriver δ]

/-- The clocks of those polls that write to the output. -/
def writeClocks (driver : δ) : List Nat → List Nat
  | [] => []
  | now :: rest =>
      let polled := advance driver now
      (if polled.events.any OutputEvent.isOffer then [now] else []) ++
        writeClocks polled.value rest

theorem writeClocks_cons (driver : δ) (now : Nat) (rest : List Nat) :
    writeClocks driver (now :: rest) =
      writeClocks driver [now] ++ writeClocks (advance driver now).value rest := by
  simp only [writeClocks, List.append_nil]

theorem run_polls_cons (driver : δ) (now : Nat) (rest : List Nat) :
    (run driver (polls (now :: rest))).value =
      (run (advance driver now).value (polls rest)).value :=
  rfl

theorem writeClocks_append (driver : δ) (first second : List Nat) :
    writeClocks driver (first ++ second) =
      writeClocks driver first ++ writeClocks (run driver (polls first)).value second := by
  induction first generalizing driver with
  | nil =>
      rfl
  | cons now rest inductionHypothesis =>
      rw [List.cons_append, writeClocks_cons, inductionHypothesis, writeClocks_cons driver now rest,
        List.append_assoc, run_polls_cons]

theorem mem_of_mem_writeClocks {driver : δ} {now : Nat} {clocks : List Nat}
    (written : now ∈ writeClocks driver clocks) : now ∈ clocks := by
  induction clocks generalizing driver with
  | nil =>
      exact written
  | cons first rest inductionHypothesis =>
      rw [writeClocks, List.mem_append] at written
      rcases written with atFirst | later
      · split at atFirst
        · exact List.mem_cons.2 (Or.inl (List.mem_singleton.1 atFirst))
        · cases atFirst
      · exact List.mem_cons_of_mem first (inductionHypothesis later)

end ChannelDriver

namespace Fader

open ChannelDriver (polls writeClocks)

theorem write_offers (fader : Fader) (value : UInt8) :
    (fader.write value).events.any OutputEvent.isOffer = true := by
  rw [write_events]
  rfl

theorem writeClocks_of_idle {fader : Fader} (idle : fader.ramp = none) (clocks : List Nat) :
    writeClocks fader clocks = [] := by
  induction clocks with
  | nil =>
      rfl
  | cons now rest inductionHypothesis =>
      rw [writeClocks, show ChannelDriver.advance fader now = _ from advance_of_idle idle now]
      exact inductionHypothesis

/-- The fader is on a ramp that is not over and has made steps at certain times since it was sent
off. The latest time is that of the last step, or the start if there was no step. -/
structure Walks (fader : Fader) (ramp : Ramp) (steps : List Nat) (latest : Nat) : Prop where
  ramp_eq : fader.ramp = some { ramp with steppedAt := latest }
  latest_mem : latest ∈ ramp.startedAt :: steps
  le_latest : ∀ step ∈ ramp.startedAt :: steps, step ≤ latest
  lasting : ∀ step ∈ steps, ramp.elapsedMs step < ramp.durationMs.toNat
  spaced : (ramp.startedAt :: steps).Pairwise fun earlier later =>
    earlier + ramp.intervalMs ≤ later

theorem walks_fade {fader : Fader} {target : UInt8} {durationMs : UInt32}
    (apart : fader.value ≠ target) (long : Ramp.minStepMs < durationMs.toNat) (now : Nat) :
    (fader.fade now target durationMs).value.Walks
      { origin := fader.value, target, durationMs, startedAt := now, steppedAt := now } [] now := by
  rw [fade, if_neg (Ne.symm apart), if_neg (Nat.not_le_of_lt long)]
  exact ⟨rfl, List.mem_singleton_self now, by simp, by simp, List.pairwise_singleton _ now⟩

namespace Walks

variable {fader : Fader} {ramp : Ramp} {steps : List Nat} {latest now : Nat}

theorem stepped (walks : fader.Walks ramp steps latest)
    (waited : latest + ramp.intervalMs ≤ now)
    (lasting : ramp.elapsedMs now < ramp.durationMs.toNat) {after : Fader}
    (rampEq : after.ramp = some { ramp with steppedAt := now }) :
    after.Walks ramp (steps ++ [now]) now := by
  have spacedNow : ∀ step ∈ ramp.startedAt :: steps, step + ramp.intervalMs ≤ now := by
    intro step member
    exact Nat.le_trans (Nat.add_le_add_right (walks.le_latest step member) _) waited
  refine ⟨rampEq, by simp, ?_, ?_, ?_⟩
  · intro step member
    rw [← List.cons_append, List.mem_append, List.mem_singleton] at member
    rcases member with before | rfl
    · exact Nat.le_trans (Nat.le_add_right _ _) (spacedNow step before)
    · exact Nat.le_refl _
  · intro step member
    rw [List.mem_append, List.mem_singleton] at member
    rcases member with before | rfl
    · exact walks.lasting step before
    · exact lasting
  · rw [← List.cons_append, List.pairwise_append]
    refine ⟨walks.spaced, List.pairwise_singleton _ _, ?_⟩
    intro step member later isNow
    rw [List.mem_singleton.1 isNow]
    exact spacedNow step member

/-- A poll before the end makes a step exactly if an interval has passed since the latest one. -/
theorem poll (walks : fader.Walks ramp steps latest)
    (lasting : ramp.elapsedMs now < ramp.durationMs.toNat) :
    ∃ next, (fader.advance now).value.Walks ramp (steps ++ writeClocks fader [now]) next ∧
      now - next < ramp.intervalMs := by
  have going : ¬ Ramp.isOver { ramp with steppedAt := latest } now = true := by
    rw [Ramp.isOver_iff]
    exact Nat.not_le_of_lt lasting
  by_cases due : Ramp.isDue { ramp with steppedAt := latest } now = true
  · have stepsNow : fader.advance now =
        write { fader with ramp := some { ramp with steppedAt := now } } (ramp.valueAt now) := by
      simp only [advance, walks.ramp_eq, if_neg going, if_pos due]
      rfl
    have written : writeClocks fader [now] = [now] := by
      rw [writeClocks, show ChannelDriver.advance fader now = _ from stepsNow, write_offers]
      rfl
    have positive : 20 ≤ ramp.intervalMs := Ramp.minStepMs_le_intervalMs ramp
    have interval : ramp.intervalMs ≤ now - latest := of_decide_eq_true due
    rw [stepsNow, written]
    exact ⟨now, walks.stepped (by omega) lasting (ramp_write _ _), by omega⟩
  · have idle : fader.advance now = pure fader := by
      simp only [advance, walks.ramp_eq, if_neg going, if_neg due]
    have unwritten : writeClocks fader [now] = [] := by
      rw [writeClocks, show ChannelDriver.advance fader now = _ from idle]
      rfl
    rw [idle, unwritten, List.append_nil]
    exact ⟨latest, walks, Nat.lt_of_not_le (mt decide_eq_true due)⟩

theorem run (walks : fader.Walks ramp steps latest) {clocks : List Nat}
    (lasting : ∀ now ∈ clocks, ramp.elapsedMs now < ramp.durationMs.toNat) :
    ∃ next, (ChannelDriver.run fader (polls clocks)).value.Walks ramp
      (steps ++ writeClocks fader clocks) next := by
  induction clocks generalizing fader steps latest with
  | nil =>
      refine ⟨latest, ?_⟩
      rw [writeClocks, List.append_nil]
      exact walks
  | cons now rest inductionHypothesis =>
      obtain ⟨next, walksNext, _⟩ := walks.poll (lasting now List.mem_cons_self)
      rw [ChannelDriver.writeClocks_cons, ← List.append_assoc, ChannelDriver.run_polls_cons]
      exact inductionHypothesis walksNext fun later member =>
        lasting later (List.mem_cons_of_mem now member)

/-- A poll after the end writes, and leaves nothing to be written by the polls after it. -/
theorem writeClocks_of_over (walks : fader.Walks ramp steps latest)
    (finished : ramp.durationMs.toNat ≤ ramp.elapsedMs now) (rest : List Nat) :
    writeClocks fader (now :: rest) = [now] := by
  have finished : Ramp.isOver { ramp with steppedAt := latest } now = true :=
    Ramp.isOver_iff.2 finished
  have landed : fader.advance now = write { fader with ramp := none } ramp.target := by
    simp only [advance, walks.ramp_eq, if_pos finished]
  rw [writeClocks, show ChannelDriver.advance fader now = _ from landed, write_offers,
    writeClocks_of_idle (ramp_write _ _)]
  rfl

end Walks

/-- The writes of a fade are steps and at most one landing. -/
theorem Walks.exists_writeClocks_eq {fader : Fader} {ramp : Ramp} {latest : Nat}
    (walks : fader.Walks ramp [] latest) (clocks : List Nat) :
    ∃ steps,
      writeClocks fader clocks =
        steps ++ (clocks.find? fun now => ramp.durationMs.toNat ≤ now - ramp.startedAt).toList ∧
      (∀ step ∈ steps, ramp.elapsedMs step < ramp.durationMs.toNat) ∧
      (ramp.startedAt :: steps).Pairwise fun earlier later =>
        earlier + ramp.intervalMs ≤ later := by
  cases landing : clocks.find? fun now => ramp.durationMs.toNat ≤ now - ramp.startedAt with
  | none =>
      have lasting : ∀ now ∈ clocks, ramp.elapsedMs now < ramp.durationMs.toNat := by
        intro now member
        simpa [Ramp.elapsedMs] using List.find?_eq_none.1 landing now member
      obtain ⟨next, walked⟩ := walks.run lasting
      exact ⟨writeClocks fader clocks, by simp, walked.lasting, walked.spaced⟩
  | some now =>
      obtain ⟨finished, early, late, rfl, before⟩ := List.find?_eq_some_iff_append.1 landing
      have lasting : ∀ now ∈ early, ramp.elapsedMs now < ramp.durationMs.toNat := by
        intro now member
        simpa [Ramp.elapsedMs] using before now member
      obtain ⟨next, walked⟩ := walks.run lasting
      rw [ChannelDriver.writeClocks_append, walked.writeClocks_of_over (of_decide_eq_true finished)]
      exact ⟨writeClocks fader early, rfl, walked.lasting, walked.spaced⟩

/-- However a fade that is not done at once is polled, and whether or not the output takes what it
is given, the fade writes nothing in its first twenty milliseconds, its steps are all made before
its end and twenty milliseconds apart, and the only other write is the landing, in the first poll
after the duration. So any two writes are twenty milliseconds apart, unless that poll comes too soon
after the last step. -/
theorem steps_keep_their_distance {fader : Fader} {target : UInt8} {durationMs : UInt32}
    (apart : fader.value ≠ target) (long : Ramp.minStepMs < durationMs.toNat) (sentAt : Nat)
    (clocks : List Nat) :
    let sent := (fader.fade sentAt target durationMs).value
    let written := writeClocks sent clocks
    let landing := clocks.find? fun now => durationMs.toNat ≤ now - sentAt
    ∃ steps,
      written = steps ++ landing.toList ∧
      (∀ step ∈ steps, step - sentAt < durationMs.toNat) ∧
      (∀ now ∈ written, sentAt + Ramp.minStepMs ≤ now) ∧
      (steps.Pairwise fun earlier later => earlier + Ramp.minStepMs ≤ later) ∧
      ((written.Pairwise fun earlier later => earlier + Ramp.minStepMs ≤ later) ↔
        ∀ step ∈ steps, ∀ now ∈ landing, step + Ramp.minStepMs ≤ now) := by
  intro sent written landing
  let ramp : Ramp :=
    { origin := fader.value, target, durationMs, startedAt := sentAt, steppedAt := sentAt }
  have walks : sent.Walks ramp [] sentAt := walks_fade apart long sentAt
  obtain ⟨steps, writtenEq, lasting, spaced⟩ := walks.exists_writeClocks_eq clocks
  have widely : (sentAt :: steps).Pairwise fun earlier later =>
      earlier + Ramp.minStepMs ≤ later := by
    refine spaced.imp fun interval => ?_
    exact Nat.le_trans (Nat.add_le_add_left ramp.minStepMs_le_intervalMs _) interval
  obtain ⟨fromStart, stepsSpaced⟩ := List.pairwise_cons.1 widely
  have landingLate : ∀ now ∈ landing, sentAt + Ramp.minStepMs ≤ now := by
    intro now found
    have ended := List.find?_some found
    simp only [decide_eq_true_eq] at ended
    omega
  refine ⟨steps, writtenEq, lasting, ?_, stepsSpaced, ?_⟩
  · intro now member
    rw [show written = _ from writtenEq, List.mem_append, Option.mem_toList] at member
    rcases member with step | landed
    · exact fromStart now step
    · exact landingLate now landed
  · rw [show written = _ from writtenEq, List.pairwise_append]
    constructor
    · rintro ⟨_, _, apart⟩ step member now found
      exact apart step member now (Option.mem_toList.2 found)
    · intro apart
      refine ⟨stepsSpaced, ?_, ?_⟩
      · cases landing <;> simp
      · intro step member now found
        exact apart step member now (Option.mem_toList.1 found)

/-- A fade over 1010 milliseconds makes a step at the thousandth one and lands ten milliseconds
later. -/
theorem landing_crowds_last_step :
    let fader := (start { maxDuty := 255, faults := .always false }).value
    let clocks := [980, 1000, 1010]
    let written := writeClocks (fader.fade 0 255 1010).value clocks
    fader.value ≠ 255 ∧
      Ramp.minStepMs < (1010 : UInt32).toNat ∧
      (0 :: clocks).Pairwise (fun earlier later => earlier ≤ later) ∧
      written = [980, 1000, 1010] ∧
      ¬ written.Pairwise fun earlier later => earlier + Ramp.minStepMs ≤ later := by
  decide

/-- The same fade keeps its distance when it is polled more carelessly. -/
theorem careless_polls_keep_distance :
    let fader := (start { maxDuty := 255, faults := .always false }).value
    let clocks := [5, 19, 20, 33, 47, 980, 1000, 1025, 1030]
    let written := writeClocks (fader.fade 0 255 1010).value clocks
    fader.value ≠ 255 ∧
      Ramp.minStepMs < (1010 : UInt32).toNat ∧
      written = [20, 47, 980, 1000, 1025] ∧
      written.Pairwise fun earlier later => earlier + Ramp.minStepMs ≤ later := by
  intro fader clocks written
  have apart : fader.value ≠ 255 := by decide
  have long : Ramp.minStepMs < (1010 : UInt32).toNat := by decide
  have writtenEq : written = [20, 47, 980, 1000, 1025] := by decide
  refine ⟨apart, long, writtenEq, ?_⟩
  obtain ⟨steps, split, _, _, _, spaced⟩ := steps_keep_their_distance apart long 0 clocks
  have stepsEq : steps = [20, 47, 980, 1000] := by
    have both : steps ++ [1025] = [20, 47, 980, 1000] ++ [1025] := split.symm.trans writtenEq
    exact List.append_cancel_right both
  apply spaced.2
  subst stepsEq
  decide

/-- The last of some polls before the end leaves the latest step less than an interval ago. -/
theorem Walks.exists_recent_step {fader : Fader} {ramp : Ramp} {latest now : Nat} {clocks : List Nat}
    (walks : fader.Walks ramp [] latest) (inOrder : ∀ earlier ∈ clocks, earlier ≤ now)
    (lasting : ramp.elapsedMs now < ramp.durationMs.toNat) :
    ∃ steps next,
      (ChannelDriver.run fader (polls (clocks ++ [now]))).value.Walks ramp steps next ∧
        ramp.elapsedMs next ≤ ramp.elapsedMs now ∧ now - next < ramp.intervalMs := by
  have lastingBefore : ∀ earlier ∈ clocks, ramp.elapsedMs earlier < ramp.durationMs.toNat := by
    intro earlier member
    exact Nat.lt_of_le_of_lt (Nat.sub_le_sub_right (inOrder earlier member) _) lasting
  obtain ⟨before, walksBefore⟩ := walks.run lastingBefore
  obtain ⟨next, walked, recent⟩ := walksBefore.poll lasting
  rw [List.nil_append, ← ChannelDriver.writeClocks_append] at walked
  refine ⟨writeClocks fader (clocks ++ [now]), next, ?_, ?_, recent⟩
  · rw [ChannelDriver.run_polls_concat]
    exact walked
  · simp only [Ramp.elapsedMs]
    rcases List.mem_cons.1 walked.latest_mem with atStart | step
    · omega
    · have polled := ChannelDriver.mem_of_mem_writeClocks step
      rcases List.mem_append.1 polled with earlier | last
      · exact Nat.sub_le_sub_right (inOrder next earlier) _
      · rw [List.mem_singleton] at last
        omega

/-- A fade that is not done at once is polled at clocks of which the last is the latest, and has not
come to its end. Then the fader has moved no farther than the straight line, and what it lacks of
the line is less than one unit and what the line gains in one interval: twenty milliseconds, or as
long as one unit takes if that is more. -/
theorem trails_line_by_one_interval {fader : Fader} {target : UInt8} {durationMs : UInt32}
    (apart : fader.value ≠ target) (long : Ramp.minStepMs < durationMs.toNat) {sentAt now : Nat}
    {clocks : List Nat} (inOrder : ∀ earlier ∈ clocks, earlier ≤ now)
    (lasting : now - sentAt < durationMs.toNat) :
    let sent := (fader.fade sentAt target durationMs).value
    let reached := (ChannelDriver.run sent (polls (clocks ++ [now]))).value
    let distance := gap fader.value target
    let moved := gap fader.value reached.value
    let elapsed := now - sentAt
    moved * durationMs.toNat ≤ distance * elapsed ∧
      distance * elapsed <
        (moved + 1) * durationMs.toNat +
          distance * max Ramp.minStepMs (durationMs.toNat / distance) := by
  intro sent reached distance moved elapsed
  let ramp : Ramp :=
    { origin := fader.value, target, durationMs, startedAt := sentAt, steppedAt := sentAt }
  have walks : sent.Walks ramp [] sentAt := walks_fade apart long sentAt
  obtain ⟨steps, latest, walked, elapsedLe, recent⟩ := walks.exists_recent_step inOrder lasting
  have steady : reached.IsSteady :=
    (fader.isSteady_fade sentAt target durationMs).run (polls (clocks ++ [now]))
  have shows := steady _ walked.ramp_eq
  have distanceEq : distance = ramp.span.natAbs := ramp.gap_ends
  have movedEq : moved = ramp.moved latest := by
    simp only [moved, shows.value_eq]
    exact ramp.gap_origin_valueAt shows.lasting
  have lasts : 0 < ramp.durationMs.toNat := Nat.lt_of_le_of_lt (Nat.zero_le _) long
  have begun : sentAt ≤ latest := walked.le_latest sentAt List.mem_cons_self
  rw [distanceEq, movedEq, Nat.max_comm]
  refine ⟨?_, ramp.lag_lt lasts begun recent⟩
  exact Nat.le_trans (ramp.moved_mul_le latest) (Nat.mul_le_mul_left _ elapsedLe)

/-- A second's fade from 200 down to 60, polled at odd times, has done 98 of its 140 units after 719
milliseconds. -/
theorem falling_fade_trails_line :
    let fader := ((start { maxDuty := 255, faults := .always false }).value.set 200).value
    let sent := (fader.fade 5000 60 1000).value
    let reached := (ChannelDriver.run sent (polls [5003, 5030, 5031, 5333, 5334, 5700, 5719])).value
    fader.value ≠ 60 ∧
      Ramp.minStepMs < (1000 : UInt32).toNat ∧
      (∀ earlier ∈ [5003, 5030, 5031, 5333, 5334, 5700], earlier ≤ 5719) ∧
      5719 - 5000 < (1000 : UInt32).toNat ∧
      gap 200 reached.value = 98 ∧
      98 * 1000 ≤ 140 * 719 ∧ 140 * 719 < (98 + 1) * 1000 + 140 * 20 := by
  intro fader sent reached
  have apart : fader.value ≠ 60 := by decide
  have long : Ramp.minStepMs < (1000 : UInt32).toNat := by decide
  have inOrder : ∀ earlier ∈ [5003, 5030, 5031, 5333, 5334, 5700], earlier ≤ 5719 := by decide
  have lasting : 5719 - 5000 < (1000 : UInt32).toNat := by decide
  have movedEq : gap fader.value reached.value = 98 := by decide
  have bounds := trails_line_by_one_interval apart long inOrder lasting
  simp only [List.cons_append, List.nil_append] at bounds
  rw [show gap fader.value _ = 98 from movedEq, show gap fader.value 60 = 140 by decide] at bounds
  exact ⟨apart, long, inOrder, lasting, movedEq, bounds⟩

end Fader

end MeshLight
