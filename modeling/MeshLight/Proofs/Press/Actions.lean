import MeshLight.Proofs.Press.Samples

/-!
What presses of the button are good for. Two gestures stand for an action, and which action is due at a
sample can be read off the samples (`Press.step_action?`). A press has at most one: at the first sample
at which it is long, or else at its end (`IsPress.course_of_long`, `IsPress.course_of_not_long`).
-/

namespace MeshLight

/-- What a press of the button can do to the light. -/
inductive Action where
  /-- Switch everything off, or on if nothing is lit. -/
  | toggle
  /-- Show the scene whose turn it is. -/
  | showScene
  deriving DecidableEq, Repr

/-- The action that a gesture stands for, if there is one. -/
def Gesture.action? : Gesture → Option Action
  | shortRelease => some .toggle
  | longPress => some .showScene
  | shortPress | longRelease => none

namespace Sample

variable {samples earlier : List Sample} {sample : Sample} {ms : Nat}

/-- At the latest sample, the button had been held for a time or longer. -/
def heldFor (samples : List Sample) (ms : Nat) : Bool :=
  (heldMs samples).any (ms ≤ ·)

theorem heldFor_of_heldMs {held : Nat} (heldNow : heldMs samples = some held) :
    heldFor samples ms = decide (ms ≤ held) := by
  rw [heldFor, heldNow]
  rfl

theorem heldFor_of_idle (idle : heldMs samples = none) : heldFor samples ms = false := by
  rw [heldFor, idle]
  rfl

theorem heldFor_concat (inOrder : InOrder (samples ++ [sample])) (pressed : sample.pressed = true)
    (longEnough : heldFor samples ms = true) :
    heldFor (samples ++ [sample]) ms = true := by
  obtain ⟨before, heldBefore, reached⟩ := (Option.any_eq_true _ _).1 longEnough
  obtain ⟨held, heldNow⟩ : ∃ held, heldMs (samples ++ [sample]) = some held :=
    ⟨_, heldMs_concat_of_pressed pressed⟩
  have longer := Press.le_of_heldMs_concat inOrder heldBefore heldNow
  rw [heldFor_of_heldMs heldNow, decide_eq_true_eq]
  exact Nat.le_trans (of_decide_eq_true reached) longer

theorem hold_append (pressed : ∀ sample ∈ samples, sample.pressed = true) :
    hold (earlier ++ samples) = hold earlier ++ samples := by
  induction samples using List.reverseRecOn with
  | nil =>
      simp
  | append_singleton samples sample inductionHypothesis =>
      have last : sample.pressed = true := pressed sample (by simp)
      have before := inductionHypothesis fun sample member =>
        pressed sample (List.mem_append_left _ member)
      rw [← List.append_assoc, hold_concat_of_pressed last, before, List.append_assoc]

theorem hold_eq_nil_of_idle (idle : heldMs samples = none) : hold samples = [] := by
  rw [← heldSince_eq_none_iff, heldSince, Option.map_eq_none_iff] at idle
  exact List.head?_eq_none_iff.1 idle

end Sample

namespace Press

open Sample

variable {thresholds : Thresholds} {samples : List Sample}

theorem heldFor_long_eq :
    heldFor samples thresholds.longMs.toNat = decide (gradeOf thresholds samples = .long) := by
  rw [Bool.eq_iff_iff, decide_eq_true_iff, gradeOf_eq_long_iff, heldFor, Option.any_eq_true]
  simp only [decide_eq_true_eq]

theorem heldFor_short_of_not_long (notLong : gradeOf thresholds samples ≠ .long) :
    heldFor samples thresholds.shortMs.toNat = decide (gradeOf thresholds samples = .short) := by
  rw [Bool.eq_iff_iff, decide_eq_true_iff, gradeOf_eq_short_iff, heldFor, Option.any_eq_true]
  simp only [decide_eq_true_eq]
  constructor
  · rintro ⟨held, heldNow, short⟩
    refine ⟨held, heldNow, short, ?_⟩
    apply Nat.lt_of_not_le
    intro long
    exact notLong (gradeOf_eq_long_iff.2 ⟨held, heldNow, long⟩)
  · rintro ⟨held, heldNow, short, _⟩
    exact ⟨held, heldNow, short⟩

end Press

namespace Thresholds

open Sample

variable (thresholds : Thresholds)

/-- The action that is due at a sample that comes after others. A press that was long before has had its
action already. -/
def due? (earlier : List Sample) (sample : Sample) : Option Action :=
  if heldFor earlier thresholds.longMs.toNat then none
  else if heldFor (earlier ++ [sample]) thresholds.longMs.toNat then some .showScene
  else if !sample.pressed && heldFor earlier thresholds.shortMs.toNat then some .toggle
  else none

/-- What is due at each of some samples that come after others. -/
def course (earlier : List Sample) : List Sample → List (Option Action)
  | [] => []
  | sample :: rest => thresholds.due? earlier sample :: course (earlier ++ [sample]) rest

theorem course_append (earlier first second : List Sample) :
    thresholds.course earlier (first ++ second) =
      thresholds.course earlier first ++ thresholds.course (earlier ++ first) second := by
  induction first generalizing earlier with
  | nil =>
      rw [List.append_nil]
      rfl
  | cons sample rest inductionHypothesis =>
      rw [List.cons_append, course, inductionHypothesis, course, List.append_assoc]
      rfl

variable {thresholds} {earlier samples : List Sample} {sample : Sample}

theorem due?_of_pressed (pressed : sample.pressed = true)
    (notLong : heldFor (earlier ++ [sample]) thresholds.longMs.toNat = false) :
    thresholds.due? earlier sample = none := by
  simp [due?, pressed, notLong]

/-- When a press is long, nothing more is due until it has ended. -/
theorem course_after_long (long : heldFor earlier thresholds.longMs.toNat = true)
    (pressed : ∀ sample ∈ samples, sample.pressed = true)
    (inOrder : InOrder (earlier ++ samples)) (ended : Sample) :
    thresholds.course earlier (samples ++ [ended]) = List.replicate (samples.length + 1) none := by
  induction samples generalizing earlier with
  | nil =>
      simp [course, due?, long]
  | cons sample rest inductionHypothesis =>
      rw [List.append_cons] at inOrder
      have nothing : thresholds.due? earlier sample = none := by
        simp [due?, long]
      have stillLong : heldFor (earlier ++ [sample]) thresholds.longMs.toNat = true :=
        heldFor_concat (List.pairwise_append.1 inOrder).1 (pressed sample List.mem_cons_self) long
      have later := inductionHypothesis stillLong
        (fun sample member => pressed sample (List.mem_cons_of_mem _ member)) inOrder
      rw [List.cons_append, course, nothing, later]
      rfl

end Thresholds

/-- The action of the gesture that is seen is the one that is due. -/
theorem Press.step_action? {thresholds : Thresholds} {samples : List Sample} {sample : Sample}
    (inOrder : Sample.InOrder (samples ++ [sample])) :
    (step thresholds (ofSamples thresholds samples) sample.takenAt sample.pressed).1.bind
        Gesture.action? =
      thresholds.due? samples sample := by
  simp only [Thresholds.due?, heldFor_long_eq]
  cases pressed : sample.pressed with
  | false =>
      have unheld : gradeOf thresholds (samples ++ [sample]) = .brief := by
        rw [gradeOf, Sample.heldMs_concat_of_released pressed]
        rfl
      rw [step_of_released thresholds pressed, unheld]
      cases grade : gradeOf thresholds samples with
      | long =>
          rfl
      | brief | short =>
          have notLong : gradeOf thresholds samples ≠ .long := by
            rw [grade]
            decide
          rw [heldFor_short_of_not_long notLong, grade]
          rfl
  | true =>
      rw [step_of_pressed thresholds inOrder pressed]
      cases gradeOf thresholds samples <;> cases gradeOf thresholds (samples ++ [sample]) <;> rfl

namespace Sample

/-- Samples that come after others make up a whole press: the button was not held before the first one,
it is held from then on, and the last sample finds it released. -/
structure IsPress (earlier : List Sample) (first : Sample) (rest : List Sample)
    (ended : Sample) : Prop where
  idle : heldMs earlier = none
  pressed : ∀ sample ∈ first :: rest, sample.pressed = true
  released : ended.pressed = false

namespace IsPress

variable {thresholds : Thresholds} {earlier rest before after : List Sample}
  {first ended reached : Sample} (isPress : IsPress earlier first rest ended)
include isPress

theorem heldMs_eq :
    heldMs (earlier ++ first :: rest) =
      some (((first :: rest).getLast (List.cons_ne_nil first rest)).takenAt - first.takenAt) := by
  have held : hold (earlier ++ first :: rest) = first :: rest := by
    rw [hold_append isPress.pressed, hold_eq_nil_of_idle isPress.idle, List.nil_append]
  rw [heldMs, heldSince, held, List.getLast?_eq_getLast_of_ne_nil (List.cons_ne_nil first rest)]
  rfl

theorem initial (split : rest = before ++ after) : IsPress earlier first before ended where
  idle := isPress.idle
  pressed := fun sample member => isPress.pressed sample <| by
    rw [split, ← List.cons_append]
    exact List.mem_append_left after member
  released := isPress.released

/-- While a press is not long, nothing is due. -/
theorem course_while_not_long
    (notLong : ∀ sample ∈ first :: rest, sample.takenAt - first.takenAt < thresholds.longMs.toNat) :
    thresholds.course earlier (first :: rest) = List.replicate (rest.length + 1) none := by
  -- Samples are added at the end, since how long the button was held is known for a press as a whole.
  induction rest using List.reverseRecOn with
  | nil =>
      have held := isPress.heldMs_eq
      have below : heldFor (earlier ++ [first]) thresholds.longMs.toNat = false := by
        rw [heldFor_of_heldMs held, decide_eq_false_iff_not]
        exact Nat.not_le_of_lt (notLong first (by simp))
      rw [Thresholds.course, Thresholds.due?_of_pressed (isPress.pressed first (by simp)) below]
      rfl
  | append_singleton rest sample inductionHypothesis =>
      have held := isPress.heldMs_eq
      have below : heldFor (earlier ++ first :: rest ++ [sample]) thresholds.longMs.toNat = false := by
        rw [List.append_assoc, List.cons_append, heldFor_of_heldMs held]
        simpa using notLong sample (by simp)
      have before := inductionHypothesis (isPress.initial rfl) fun sample member =>
        notLong sample (List.mem_append_left _ member)
      rw [← List.cons_append, Thresholds.course_append, before, Thresholds.course,
        Thresholds.due?_of_pressed (isPress.pressed sample (by simp)) below, Thresholds.course,
        ← List.replicate_succ', List.length_append, List.length_singleton]

/-- A press that never gets long may have an action at its end. -/
theorem course_of_not_long
    (notLong : ∀ sample ∈ first :: rest, sample.takenAt - first.takenAt < thresholds.longMs.toNat) :
    let last := (first :: rest).getLast (List.cons_ne_nil first rest)
    thresholds.course earlier (first :: rest ++ [ended]) =
      List.replicate (rest.length + 1) none ++
        [if thresholds.shortMs.toNat ≤ last.takenAt - first.takenAt then some .toggle else none] := by
  intro last
  have held := isPress.heldMs_eq
  have below : heldFor (earlier ++ first :: rest) thresholds.longMs.toNat = false := by
    rw [heldFor_of_heldMs held, decide_eq_false_iff_not]
    exact Nat.not_le_of_lt (notLong last (List.getLast_mem _))
  have unheld : heldFor (earlier ++ first :: rest ++ [ended]) thresholds.longMs.toNat = false :=
    heldFor_of_idle (heldMs_concat_of_released isPress.released)
  have atEnd : thresholds.due? (earlier ++ first :: rest) ended =
      if thresholds.shortMs.toNat ≤ last.takenAt - first.takenAt then some .toggle else none := by
    rw [Thresholds.due?, below, unheld, isPress.released, heldFor_of_heldMs held]
    simp [last]
  rw [Thresholds.course_append, isPress.course_while_not_long notLong, Thresholds.course, atEnd]
  rfl

/-- A press that gets long has its action as soon as it is, and no other one. -/
theorem course_of_long (inOrder : InOrder (earlier ++ first :: rest))
    (split : first :: rest = before ++ reached :: after)
    (notLong : ∀ sample ∈ before, sample.takenAt - first.takenAt < thresholds.longMs.toNat)
    (long : thresholds.longMs.toNat ≤ reached.takenAt - first.takenAt) :
    thresholds.course earlier (first :: rest ++ [ended]) =
      List.replicate before.length none ++
        some .showScene :: List.replicate (after.length + 1) none := by
  have pressedAfter : ∀ sample ∈ after, sample.pressed = true := fun sample member =>
    isPress.pressed sample <| by
      rw [split]
      exact List.mem_append_right before (List.mem_cons_of_mem _ member)
  have quietBefore : thresholds.course earlier before = List.replicate before.length none ∧
      heldFor (earlier ++ before) thresholds.longMs.toNat = false ∧
      heldFor (earlier ++ before ++ [reached]) thresholds.longMs.toNat = true := by
    cases before with
    | nil =>
        obtain ⟨rfl, rfl⟩ := List.cons.inj split
        refine ⟨rfl, ?_, ?_⟩
        · rw [List.append_nil]
          exact heldFor_of_idle isPress.idle
        · rw [List.append_nil, heldFor_of_heldMs (isPress.initial rfl).heldMs_eq]
          simpa using long
    | cons earliest before =>
        obtain ⟨rfl, rfl⟩ := List.cons.inj split
        have whileShort := isPress.initial rfl
        refine ⟨whileShort.course_while_not_long notLong, ?_, ?_⟩
        · rw [heldFor_of_heldMs whileShort.heldMs_eq, decide_eq_false_iff_not]
          exact Nat.not_le_of_lt (notLong _ (List.getLast_mem _))
        · have untilLong : IsPress earlier first (before ++ [reached]) ended :=
            isPress.initial (List.append_cons before reached after)
          rw [List.append_assoc, List.cons_append, heldFor_of_heldMs untilLong.heldMs_eq]
          simpa using long
  obtain ⟨quiet, shortBefore, longNow⟩ := quietBefore
  have acts : thresholds.due? (earlier ++ before) reached = some .showScene := by
    rw [Thresholds.due?, shortBefore, longNow]
    rfl
  rw [split, List.append_cons, ← List.append_assoc, ← List.append_assoc] at inOrder
  rw [split, List.append_assoc, List.cons_append, Thresholds.course_append, quiet,
    Thresholds.course, acts, Thresholds.course_after_long longNow pressedAfter inOrder ended]

end IsPress

end Sample

end MeshLight
