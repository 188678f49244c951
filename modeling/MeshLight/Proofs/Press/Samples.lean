import MeshLight.Press
import MeshLight.Proofs.Replay
import Mathlib.Data.List.DropRight

/-!
Presses as they can be read off the looks at a button. A press begins with the first sample of a
sequence of pressed samples, and how long it has been held settles its grade (`step_press`), which
settles the gesture that is seen (`step_gesture_iff`).
-/

namespace MeshLight

/-- What was found when the button was looked at. -/
structure Sample where
  takenAt : Nat
  pressed : Bool
  deriving DecidableEq, Repr

namespace Sample

section Looking

variable {ι : Type} (look? : ι → Option (Option Bool))

/-- What an operation finds if it is one that looks at a button. A pin that cannot be read counts as
released. -/
def taken? (now : Nat) (op : ι) : Option Sample :=
  (look? op).map fun level => ⟨now, level.getD false⟩

/-- What the operations of a history find, oldest first. -/
def samplesOf (history : List (Nat × ι)) : List Sample :=
  history.filterMap fun timed => taken? look? timed.1 timed.2

theorem samplesOf_append (first second : List (Nat × ι)) :
    samplesOf look? (first ++ second) = samplesOf look? first ++ samplesOf look? second :=
  List.filterMap_append

theorem samplesOf_cons (now : Nat) (op : ι) (rest : List (Nat × ι)) :
    samplesOf look? ((now, op) :: rest) = (taken? look? now op).toList ++ samplesOf look? rest :=
  filterMap_cons_toList _ (now, op) rest

theorem samplesOf_concat (history : List (Nat × ι)) (now : Nat) (op : ι) :
    samplesOf look? (history ++ [(now, op)]) =
      samplesOf look? history ++ (taken? look? now op).toList :=
  filterMap_concat_toList _ history (now, op)

end Looking

/-- The clock did not go back from one sample to the next. -/
def InOrder (samples : List Sample) : Prop :=
  samples.Pairwise fun earlier later => earlier.takenAt ≤ later.takenAt

instance (samples : List Sample) : Decidable (InOrder samples) :=
  inferInstanceAs (Decidable (samples.Pairwise _))

/-- The samples of the press that is still on: all pressed ones at the end. -/
def hold (samples : List Sample) : List Sample :=
  samples.rtakeWhile (·.pressed)

def heldSince (samples : List Sample) : Option Nat :=
  (hold samples).head?.map (·.takenAt)

/-- How long the button had been held at the latest sample, if that found it pressed. -/
def heldMs (samples : List Sample) : Option Nat := do
  let since ← heldSince samples
  (hold samples).getLast?.map (·.takenAt - since)

variable {samples : List Sample} {sample : Sample}

theorem hold_concat_of_pressed (pressed : sample.pressed = true) :
    hold (samples ++ [sample]) = hold samples ++ [sample] :=
  List.rtakeWhile_concat_pos _ _ _ pressed

theorem hold_concat_of_released (released : sample.pressed = false) :
    hold (samples ++ [sample]) = [] :=
  List.rtakeWhile_concat_neg _ _ _ (by simp [released])

theorem heldSince_concat_of_pressed (pressed : sample.pressed = true) :
    heldSince (samples ++ [sample]) = some ((heldSince samples).getD sample.takenAt) := by
  rw [heldSince, heldSince, hold_concat_of_pressed pressed]
  cases hold samples <;> rfl

theorem heldMs_concat_of_pressed (pressed : sample.pressed = true) :
    heldMs (samples ++ [sample]) =
      some (sample.takenAt - (heldSince samples).getD sample.takenAt) := by
  rw [heldMs, heldSince_concat_of_pressed pressed, hold_concat_of_pressed pressed,
    List.getLast?_concat]
  rfl

theorem heldSince_concat_of_released (released : sample.pressed = false) :
    heldSince (samples ++ [sample]) = none := by
  rw [heldSince, hold_concat_of_released released]
  rfl

theorem heldMs_concat_of_released (released : sample.pressed = false) :
    heldMs (samples ++ [sample]) = none := by
  rw [heldMs, heldSince_concat_of_released released]
  rfl

theorem heldSince_eq_none_iff : heldSince samples = none ↔ heldMs samples = none := by
  rw [heldMs, heldSince]
  cases held : hold samples with
  | nil =>
      exact Iff.rfl
  | cons first rest =>
      simp [List.getLast?_cons]

theorem exists_heldMs_of_heldSince {since : Nat} (heldFrom : heldSince samples = some since) :
    ∃ held, heldMs samples = some held := by
  apply Option.ne_none_iff_exists'.1
  rw [ne_eq, ← heldSince_eq_none_iff, heldFrom]
  exact Option.some_ne_none since

/-- As long as a press goes on it is held longer and longer. -/
theorem le_of_heldMs {before since : Nat} (inOrder : InOrder (samples ++ [sample]))
    (heldBefore : heldMs samples = some before) (heldFrom : heldSince samples = some since) :
    before ≤ sample.takenAt - since := by
  rw [heldMs, heldFrom] at heldBefore
  obtain ⟨latest, last, rfl⟩ := Option.map_eq_some_iff.1 heldBefore
  have member : latest ∈ samples :=
    (List.rtakeWhile_suffix _ _).mem (List.mem_of_getLast? last)
  have later : latest.takenAt ≤ sample.takenAt :=
    (List.pairwise_append.1 inOrder).2.2 latest member sample (List.mem_singleton_self sample)
  exact Nat.sub_le_sub_right later since

end Sample

namespace Grade

theorem pressGesture_eq_some_iff {grade : Grade} {gesture : Gesture} :
    grade.pressGesture = some gesture ↔
      grade = .short ∧ gesture = .shortPress ∨ grade = .long ∧ gesture = .longPress := by
  cases grade <;> simp [pressGesture, eq_comm]

theorem releaseGesture_eq_some_iff {grade : Grade} {gesture : Gesture} :
    grade.releaseGesture = some gesture ↔
      grade = .short ∧ gesture = .shortRelease ∨ grade = .long ∧ gesture = .longRelease := by
  cases grade <;> simp [releaseGesture, eq_comm]

end Grade

namespace Thresholds

variable (thresholds : Thresholds)

/-- The grade of a press that has been held for a time. -/
def gradeAfter (heldMs : Nat) : Grade :=
  thresholds.grade heldMs .brief

variable {thresholds} {before held : Nat}

theorem gradeAfter_eq_long_iff :
    thresholds.gradeAfter held = .long ↔ thresholds.longMs.toNat ≤ held := by
  simp only [gradeAfter, grade]
  split_ifs <;> simp_all

theorem gradeAfter_eq_short_iff :
    thresholds.gradeAfter held = .short ↔
      thresholds.shortMs.toNat ≤ held ∧ held < thresholds.longMs.toNat := by
  simp only [gradeAfter, grade]
  split_ifs <;> simp_all

theorem gradeAfter_eq_brief_iff :
    thresholds.gradeAfter held = .brief ↔
      held < thresholds.shortMs.toNat ∧ held < thresholds.longMs.toNat := by
  simp only [gradeAfter, grade]
  split_ifs <;> simp_all

/-- The grade that a press had before does not matter as long as the clock does not go back. -/
theorem grade_gradeAfter (longer : before ≤ held) :
    thresholds.grade held (thresholds.gradeAfter before) = thresholds.gradeAfter held := by
  simp only [gradeAfter, grade]
  split_ifs <;> first | rfl | omega

/-- A press only ever rises in grade. -/
theorem gradeAfter_rises (longer : before ≤ held) :
    thresholds.gradeAfter before = thresholds.gradeAfter held ∨
      thresholds.gradeAfter before = .brief ∨ thresholds.gradeAfter held = .long := by
  by_cases long : thresholds.longMs.toNat ≤ held
  · exact Or.inr (Or.inr (gradeAfter_eq_long_iff.2 long))
  · have notLongBefore : before < thresholds.longMs.toNat := by omega
    by_cases short : thresholds.shortMs.toNat ≤ before
    · have shortBefore := gradeAfter_eq_short_iff.2 ⟨short, notLongBefore⟩
      have shortNow : thresholds.gradeAfter held = .short :=
        gradeAfter_eq_short_iff.2 ⟨by omega, by omega⟩
      exact Or.inl (shortBefore.trans shortNow.symm)
    · exact Or.inr (Or.inl (gradeAfter_eq_brief_iff.2 ⟨by omega, notLongBefore⟩))

open Sample in
/-- When a gesture is to be seen in a sample that comes after others: a press gesture when the press
reaches the threshold, and a release gesture at the first released sample after a press that has. -/
def Shows (thresholds : Thresholds) (earlier : List Sample) (sample : Sample) : Gesture → Prop
  | .shortPress => ∃ held, heldMs (earlier ++ [sample]) = some held ∧
      thresholds.shortMs.toNat ≤ held ∧ held < thresholds.longMs.toNat ∧
      ∀ before, heldMs earlier = some before → before < thresholds.shortMs.toNat
  | .longPress => ∃ held, heldMs (earlier ++ [sample]) = some held ∧
      thresholds.longMs.toNat ≤ held ∧
      ∀ before, heldMs earlier = some before → before < thresholds.longMs.toNat
  | .shortRelease => heldMs (earlier ++ [sample]) = none ∧
      ∃ before, heldMs earlier = some before ∧
        thresholds.shortMs.toNat ≤ before ∧ before < thresholds.longMs.toNat
  | .longRelease => heldMs (earlier ++ [sample]) = none ∧
      ∃ before, heldMs earlier = some before ∧ thresholds.longMs.toNat ≤ before

end Thresholds

namespace Press

open Sample

variable (thresholds : Thresholds) {samples : List Sample} {sample : Sample}

/-- The press that a button is in after some samples. -/
def ofSamples (samples : List Sample) : Option Press := do
  let since ← heldSince samples
  let held ← heldMs samples
  return { since, grade := thresholds.gradeAfter held }

/-- The grade that a press has at the latest sample. A press that has not begun yet is brief. -/
def gradeOf (samples : List Sample) : Grade :=
  (heldMs samples).elim .brief thresholds.gradeAfter

theorem gradeOf_concat (pressed : sample.pressed = true) :
    gradeOf thresholds (samples ++ [sample]) =
      thresholds.gradeAfter (sample.takenAt - (heldSince samples).getD sample.takenAt) := by
  rw [gradeOf, heldMs_concat_of_pressed pressed]
  rfl

/-- Looking at a pressed button grades the press, and shows something if the grade is a new one. -/
theorem step_of_pressed (inOrder : InOrder (samples ++ [sample]))
    (pressed : sample.pressed = true) :
    step thresholds (ofSamples thresholds samples) sample.takenAt true =
      (if gradeOf thresholds (samples ++ [sample]) = gradeOf thresholds samples then none
        else (gradeOf thresholds (samples ++ [sample])).pressGesture,
        ofSamples thresholds (samples ++ [sample])) := by
  have after : ofSamples thresholds (samples ++ [sample]) =
      some ⟨(heldSince samples).getD sample.takenAt, gradeOf thresholds (samples ++ [sample])⟩ := by
    rw [ofSamples, heldSince_concat_of_pressed pressed, heldMs_concat_of_pressed pressed,
      gradeOf_concat thresholds pressed]
    rfl
  rw [after, gradeOf_concat thresholds pressed]
  cases heldFrom : heldSince samples with
  | none =>
      have idle : heldMs samples = none := heldSince_eq_none_iff.1 heldFrom
      have absent : ofSamples thresholds samples = none := by
        rw [ofSamples, heldFrom]
        rfl
      have brief : gradeOf thresholds samples = .brief := by
        rw [gradeOf, idle]
        rfl
      rw [absent, brief]
      rfl
  | some since =>
      obtain ⟨before, heldBefore⟩ := exists_heldMs_of_heldSince heldFrom
      have present : ofSamples thresholds samples =
          some ⟨since, thresholds.gradeAfter before⟩ := by
        rw [ofSamples, heldFrom, heldBefore]
        rfl
      have graded : gradeOf thresholds samples = thresholds.gradeAfter before := by
        rw [gradeOf, heldBefore]
        rfl
      have same := thresholds.grade_gradeAfter (le_of_heldMs inOrder heldBefore heldFrom)
      rw [present, graded, Option.getD_some, ← same]
      rfl

/-- Looking at a released button ends the press that it was in. -/
theorem step_of_released (released : sample.pressed = false) :
    step thresholds (ofSamples thresholds samples) sample.takenAt false =
      ((gradeOf thresholds samples).releaseGesture,
        ofSamples thresholds (samples ++ [sample])) := by
  have after : ofSamples thresholds (samples ++ [sample]) = none := by
    rw [ofSamples, heldSince_concat_of_released released]
    rfl
  rw [after]
  cases heldFrom : heldSince samples with
  | none =>
      have idle : heldMs samples = none := heldSince_eq_none_iff.1 heldFrom
      rw [gradeOf, idle, ofSamples, heldFrom]
      rfl
  | some since =>
      obtain ⟨before, heldBefore⟩ := exists_heldMs_of_heldSince heldFrom
      rw [gradeOf, ofSamples, heldFrom, heldBefore]
      rfl

/-! ## Gestures -/

variable {thresholds}

theorem gradeOf_eq_short_iff :
    gradeOf thresholds samples = .short ↔ ∃ held, heldMs samples = some held ∧
      thresholds.shortMs.toNat ≤ held ∧ held < thresholds.longMs.toNat := by
  rw [gradeOf]
  cases heldMs samples with
  | none =>
      simp
  | some held =>
      simp [Thresholds.gradeAfter_eq_short_iff]

theorem gradeOf_eq_long_iff :
    gradeOf thresholds samples = .long ↔ ∃ held, heldMs samples = some held ∧
      thresholds.longMs.toNat ≤ held := by
  rw [gradeOf]
  cases heldMs samples with
  | none =>
      simp
  | some held =>
      simp [Thresholds.gradeAfter_eq_long_iff]

theorem heldMs_concat_eq_none_iff :
    heldMs (samples ++ [sample]) = none ↔ sample.pressed = false := by
  cases pressed : sample.pressed with
  | false =>
      simp [heldMs_concat_of_released pressed]
  | true =>
      simp [heldMs_concat_of_pressed pressed]

/-- A press that was held for a time is held no shorter afterwards. -/
theorem le_of_heldMs_concat {before held : Nat} (inOrder : InOrder (samples ++ [sample]))
    (heldBefore : heldMs samples = some before)
    (heldNow : heldMs (samples ++ [sample]) = some held) :
    before ≤ held := by
  have pressed : sample.pressed = true := by
    apply eq_true_of_ne_false
    intro released
    rw [heldMs_concat_eq_none_iff.2 released] at heldNow
    cases heldNow
  cases heldFrom : heldSince samples with
  | none =>
      rw [heldSince_eq_none_iff.1 heldFrom] at heldBefore
      cases heldBefore
  | some since =>
      rw [heldMs_concat_of_pressed pressed, heldFrom] at heldNow
      cases heldNow
      exact le_of_heldMs inOrder heldBefore heldFrom

/-- While a press goes on, it only rises in grade. -/
theorem gradeOf_rises (thresholds : Thresholds) (inOrder : InOrder (samples ++ [sample]))
    (pressed : sample.pressed = true) :
    gradeOf thresholds samples = gradeOf thresholds (samples ++ [sample]) ∨
      gradeOf thresholds samples = .brief ∨
        gradeOf thresholds (samples ++ [sample]) = .long := by
  obtain ⟨held, heldNow⟩ : ∃ held, heldMs (samples ++ [sample]) = some held :=
    ⟨_, heldMs_concat_of_pressed pressed⟩
  cases heldBefore : heldMs samples with
  | none =>
      right
      left
      rw [gradeOf, heldBefore]
      rfl
  | some before =>
      have longer := le_of_heldMs_concat inOrder heldBefore heldNow
      rw [gradeOf, gradeOf, heldBefore, heldNow]
      exact thresholds.gradeAfter_rises longer

theorem shows_shortPress_iff (inOrder : InOrder (samples ++ [sample])) :
    thresholds.Shows samples sample .shortPress ↔
      gradeOf thresholds (samples ++ [sample]) = .short ∧ gradeOf thresholds samples ≠ .short := by
  rw [gradeOf_eq_short_iff, ne_eq, gradeOf_eq_short_iff]
  constructor
  · rintro ⟨held, heldNow, short, notLong, first⟩
    refine ⟨⟨held, heldNow, short, notLong⟩, ?_⟩
    rintro ⟨before, heldBefore, shortBefore, _⟩
    exact Nat.not_lt_of_le shortBefore (first before heldBefore)
  · rintro ⟨⟨held, heldNow, short, notLong⟩, first⟩
    refine ⟨held, heldNow, short, notLong, ?_⟩
    intro before heldBefore
    have longer := le_of_heldMs_concat inOrder heldBefore heldNow
    apply Nat.lt_of_not_le
    intro shortBefore
    exact first ⟨before, heldBefore, shortBefore, Nat.lt_of_le_of_lt longer notLong⟩

theorem shows_longPress_iff :
    thresholds.Shows samples sample .longPress ↔
      gradeOf thresholds (samples ++ [sample]) = .long ∧ gradeOf thresholds samples ≠ .long := by
  rw [gradeOf_eq_long_iff, ne_eq, gradeOf_eq_long_iff]
  constructor
  · rintro ⟨held, heldNow, long, first⟩
    refine ⟨⟨held, heldNow, long⟩, ?_⟩
    rintro ⟨before, heldBefore, longBefore⟩
    exact Nat.not_lt_of_le longBefore (first before heldBefore)
  · rintro ⟨⟨held, heldNow, long⟩, first⟩
    refine ⟨held, heldNow, long, ?_⟩
    intro before heldBefore
    exact Nat.lt_of_not_le fun longBefore => first ⟨before, heldBefore, longBefore⟩

theorem shows_shortRelease_iff :
    thresholds.Shows samples sample .shortRelease ↔
      sample.pressed = false ∧ gradeOf thresholds samples = .short := by
  rw [gradeOf_eq_short_iff, ← heldMs_concat_eq_none_iff]
  exact Iff.rfl

theorem shows_longRelease_iff :
    thresholds.Shows samples sample .longRelease ↔
      sample.pressed = false ∧ gradeOf thresholds samples = .long := by
  rw [gradeOf_eq_long_iff, ← heldMs_concat_eq_none_iff]
  exact Iff.rfl

/-- What is seen in a sample is what there is to be seen in it, and nothing else. -/
theorem step_gesture_iff (inOrder : InOrder (samples ++ [sample])) (gesture : Gesture) :
    (step thresholds (ofSamples thresholds samples) sample.takenAt sample.pressed).1 =
        some gesture ↔
      thresholds.Shows samples sample gesture := by
  cases pressed : sample.pressed with
  | false =>
      have unheld : gradeOf thresholds (samples ++ [sample]) = .brief := by
        rw [gradeOf, heldMs_concat_of_released pressed]
        rfl
      rw [step_of_released thresholds pressed, Grade.releaseGesture_eq_some_iff]
      cases gesture with
      | shortPress =>
          simp [shows_shortPress_iff inOrder, unheld]
      | longPress =>
          simp [shows_longPress_iff, unheld]
      | shortRelease =>
          simp [shows_shortRelease_iff, pressed]
      | longRelease =>
          simp [shows_longRelease_iff, pressed]
  | true =>
      rw [step_of_pressed thresholds inOrder pressed, Option.ite_none_left_eq_some,
        Grade.pressGesture_eq_some_iff]
      cases gesture with
      | shortPress =>
          rw [shows_shortPress_iff inOrder]
          grind
      | longPress =>
          rw [shows_longPress_iff]
          grind
      | shortRelease =>
          simp [shows_shortRelease_iff, pressed]
      | longRelease =>
          simp [shows_longRelease_iff, pressed]

theorem step_press (inOrder : InOrder (samples ++ [sample])) :
    (step thresholds (ofSamples thresholds samples) sample.takenAt sample.pressed).2 =
      ofSamples thresholds (samples ++ [sample]) := by
  cases pressed : sample.pressed with
  | false =>
      rw [step_of_released thresholds pressed]
  | true =>
      rw [step_of_pressed thresholds inOrder pressed]

end Press

end MeshLight
