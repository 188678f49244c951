import MeshLight.Button
import MeshLight.Proofs.Press.Samples
import MeshLight.Proofs.Replay

/-!
What a button makes of being pressed. Whatever handlers come and go, the gesture that a poll sees is the
one that the samples taken so far show, the handler that is registered for it runs, and the gestures of
one whole press are one of four sequences.
-/

namespace MeshLight

open Sample

/-- The gestures of a press from its beginning to its end. -/
def Gesture.wholePresses : List (List Gesture) :=
  [[], [.shortPress, .shortRelease], [.shortPress, .longPress, .longRelease],
    [.longPress, .longRelease]]

/-- What has been seen of a press that has risen to a grade. -/
inductive Grade.Announced : Grade → List Gesture → Prop
  | brief : Announced .brief []
  | short : Announced .short [.shortPress]
  | long : Announced .long [.longPress]
  | shortThenLong : Announced .long [.shortPress, .longPress]

namespace Grade.Announced

variable {before after : Grade} {seen : List Gesture}

theorem rise (announced : before.Announced seen)
    (rises : before = after ∨ before = .brief ∨ after = .long) :
    after.Announced
      (seen ++ (if after = before then none else after.pressGesture).toList) := by
  cases announced with
  | brief =>
      cases after with
      | brief => exact .brief
      | short => exact .short
      | long => exact .long
  | short =>
      cases after with
      | brief => simp at rises
      | short => exact .short
      | long => exact .shortThenLong
  | long =>
      obtain rfl : after = .long := by grind
      exact .long
  | shortThenLong =>
      obtain rfl : after = .long := by grind
      exact .shortThenLong

theorem release (announced : before.Announced seen) :
    seen ++ before.releaseGesture.toList ∈ Gesture.wholePresses := by
  cases announced <;> decide

end Grade.Announced

namespace Button

variable {γ : Type}

/-- The level of the pin that an operation finds, if it looks at the button. -/
def Op.look? : Op γ → Option (Option Bool)
  | poll level => some level
  | on _ _ | clear _ => none

/-- What an operation does to the handler of a gesture: nothing, or it is set or taken away. -/
def Op.registration? (gesture : Gesture) : Op γ → Option (Option (Handler γ))
  | poll _ => none
  | on asked handler => if gesture = asked then some (some handler) else none
  | clear asked => if gesture = asked then some none else none

/-- The handler of a gesture after a history. -/
def registered (history : List (Nat × Op γ)) (gesture : Gesture) : Option (Handler γ) :=
  (history.filterMap fun timed => timed.2.registration? gesture).getLast?.join

theorem registered_concat (history : List (Nat × Op γ)) (now : Nat) (op : Op γ)
    (gesture : Gesture) :
    registered (history ++ [(now, op)]) gesture =
      (op.registration? gesture).getD (registered history gesture) := by
  rw [registered, List.filterMap_append]
  cases changed : op.registration? gesture <;> simp [registered, changed]

/-! ## One operation -/

/-- What comes of a gesture, if one was seen and there is a handler for it. -/
def respond (handlers : Gesture → Option (Handler γ)) (seen : Option Gesture) (context : γ)
    (now : Nat) : Traced Event γ :=
  (seen.bind handlers).elim (pure context) fun handler => handler context now

/-- What is noted while the button is looked at. -/
def notes (level : Option Bool) (seen : Option Gesture) : List Event :=
  .sampled level :: (if level.isNone then [.log .pinUnreadable] else []) ++
    seen.toList.map fun gesture => .log (.gestureSeen gesture)

theorem handle_eq (button : Button γ) (gesture : Gesture) (context : γ) (now : Nat) :
    button.handle gesture context now = respond button.handlers (some gesture) context now := by
  rw [handle, respond, Option.bind_some]
  cases button.handlers gesture <;> rfl

theorem poll_eq (button : Button γ) (context : γ) (now : Nat) (level : Option Bool) :
    let looked := Press.step button.thresholds button.press now (level.getD false)
    let response := respond button.handlers looked.1 context now
    button.poll context now level =
      ⟨(looked.1, { button with press := looked.2 }, response.value),
        notes level looked.1 ++ response.events⟩ := by
  intro looked response
  unfold response
  rw [poll, show Press.step _ _ _ _ = looked from rfl]
  obtain ⟨seen, press⟩ := looked
  cases seen with
  | none =>
      cases level <;> rfl
  | some gesture =>
      simp only [handle_eq]
      cases level <;> exact Traced.ext rfl (by simp [notes])

theorem handlers_apply (button : Button γ) (context : γ) (now : Nat) (op : Op γ)
    (gesture : Gesture) :
    (button.apply context now op).value.2.1.handlers gesture =
      (op.registration? gesture).getD (button.handlers gesture) := by
  cases op with
  | poll level =>
      rw [apply, poll_eq]
      rfl
  | on asked handler | clear asked =>
      by_cases same : gesture = asked
      · simp [apply, on, clear, withHandler, Op.registration?, same]
      · simp [apply, on, clear, withHandler, Op.registration?, same]

/-- The button is in the press that the samples show. -/
structure Follows (button : Button γ) (thresholds : Thresholds) (samples : List Sample) : Prop where
  thresholds_eq : button.thresholds = thresholds
  press_eq : button.press = Press.ofSamples thresholds samples

namespace Follows

variable {button : Button γ} {thresholds : Thresholds} {samples : List Sample} {now : Nat}
  (follows : button.Follows thresholds samples) (context : γ)
include follows

theorem apply {op : Op γ} (inOrder : InOrder (samples ++ (taken? Op.look? now op).toList)) :
    (button.apply context now op).value.2.1.Follows thresholds
      (samples ++ (taken? Op.look? now op).toList) := by
  cases op with
  | poll level =>
      rw [Button.apply, poll_eq, follows.thresholds_eq, follows.press_eq]
      exact ⟨rfl, Press.step_press inOrder⟩
  | on gesture handler | clear gesture =>
      rw [taken?, Op.look?, Option.map_none, Option.toList_none, List.append_nil]
      exact ⟨follows.thresholds_eq, follows.press_eq⟩

/-- While the button is pressed, what has been seen keeps up with the grade of the press. -/
theorem announced_apply {op : Op γ} {seen : List Gesture}
    (inOrder : InOrder (samples ++ (taken? Op.look? now op).toList))
    (pressed : ∀ sample ∈ taken? Op.look? now op, sample.pressed = true)
    (announced : (Press.gradeOf thresholds samples).Announced seen) :
    (Press.gradeOf thresholds (samples ++ (taken? Op.look? now op).toList)).Announced
      (seen ++ (button.apply context now op).value.1.toList) := by
  cases op with
  | poll level =>
      have high : level.getD false = true := pressed _ rfl
      have rises := Press.gradeOf_rises thresholds inOrder high
      have looked := Press.step_of_pressed thresholds inOrder high
      rw [Button.apply, poll_eq, follows.thresholds_eq, follows.press_eq, high, looked]
      exact announced.rise rises
  | on gesture handler | clear gesture =>
      simpa [taken?, Op.look?, Button.apply] using announced

theorem poll_released (now : Nat) {level : Option Bool} (released : level.getD false = false) :
    (button.poll context now level).value.1 = (Press.gradeOf thresholds samples).releaseGesture := by
  have low : Sample.pressed ⟨now, false⟩ = false := rfl
  rw [poll_eq, follows.thresholds_eq, follows.press_eq, released]
  exact congrArg Prod.fst (Press.step_of_released thresholds low)

end Follows

/-! ## Histories -/

theorem replay_concat (button : Button γ) (context : γ) (history : List (Nat × Op γ)) (now : Nat)
    (op : Op γ) :
    button.replay context (history ++ [(now, op)]) =
      button.replay context history >>= fun (seen, reached, context) => do
        let (gesture, next) ← reached.apply context now op
        return (seen ++ gesture.toList, next) :=
  Traced.replay_concat _ _ history now op

/-- A history of operations finds the handlers that it has registered. -/
theorem handlers_replay (thresholds : Thresholds) (context : γ) (history : List (Nat × Op γ)) :
    ((ofThresholds thresholds).replay context history).value.2.1.handlers = registered history := by
  induction history using List.reverseRecOn with
  | nil =>
      rfl
  | append_singleton history timed inductionHypothesis =>
      obtain ⟨now, op⟩ := timed
      funext gesture
      rw [registered_concat, ← inductionHypothesis, replay_concat]
      exact handlers_apply _ _ now op gesture

variable {button : Button γ} {thresholds : Thresholds} {samples : List Sample}

theorem Follows.replay (follows : button.Follows thresholds samples) (context : γ)
    {history : List (Nat × Op γ)} (inOrder : InOrder (samples ++ samplesOf Op.look? history)) :
    (button.replay context history).value.2.1.Follows thresholds
      (samples ++ samplesOf Op.look? history) := by
  induction history using List.reverseRecOn with
  | nil =>
      rw [samplesOf, List.filterMap_nil, List.append_nil]
      exact follows
  | append_singleton history timed inductionHypothesis =>
      obtain ⟨now, op⟩ := timed
      rw [samplesOf_concat, ← List.append_assoc] at inOrder ⊢
      have before := inductionHypothesis (List.pairwise_append.1 inOrder).1
      rw [replay_concat]
      exact before.apply _ inOrder

/-- From the beginning of a press on, what is seen announces the grade of the press. -/
theorem Follows.announced_replay (follows : button.Follows thresholds samples)
    (idle : heldMs samples = none) (context : γ) {press : List (Nat × Op γ)}
    (inOrder : InOrder (samples ++ samplesOf Op.look? press))
    (pressed : ∀ sample ∈ samplesOf Op.look? press, sample.pressed = true) :
    (Press.gradeOf thresholds (samples ++ samplesOf Op.look? press)).Announced
      (button.replay context press).value.1 := by
  induction press using List.reverseRecOn with
  | nil =>
      rw [samplesOf, List.filterMap_nil, List.append_nil, Press.gradeOf, idle]
      exact .brief
  | append_singleton press timed inductionHypothesis =>
      obtain ⟨now, op⟩ := timed
      rw [samplesOf_concat] at pressed
      rw [samplesOf_concat, ← List.append_assoc] at inOrder ⊢
      have inOrderBefore : InOrder (samples ++ samplesOf Op.look? press) :=
        (List.pairwise_append.1 inOrder).1
      have before := inductionHypothesis inOrderBefore fun sample member =>
        pressed sample (List.mem_append_left _ member)
      have pressedNow : ∀ sample ∈ taken? Op.look? now op, sample.pressed = true := fun sample found =>
        pressed sample (List.mem_append_right _ (Option.mem_toList.2 found))
      rw [replay_concat]
      exact (follows.replay context inOrderBefore).announced_apply _ inOrder pressedNow before

/-- At the first sample that finds the button released, the gestures of the press are complete. -/
theorem Follows.wholePress_replay (follows : button.Follows thresholds samples)
    (idle : heldMs samples = none) (context : γ) {press : List (Nat × Op γ)}
    (inOrder : InOrder (samples ++ samplesOf Op.look? press))
    (pressed : ∀ sample ∈ samplesOf Op.look? press, sample.pressed = true) (now : Nat)
    {level : Option Bool} (released : level.getD false = false) :
    (button.replay context (press ++ [(now, .poll level)])).value.1 ∈ Gesture.wholePresses := by
  have announced := follows.announced_replay idle context inOrder pressed
  have seenAtRelease := (follows.replay context inOrder).poll_released
    (button.replay context press).value.2.2 now released
  rw [replay_concat]
  simp only [Button.apply, Traced.bind_value, Traced.pure_value, seenAtRelease]
  exact announced.release

/-- Whatever comes before, and whatever handlers come and go meanwhile, a look at the button sees the
gesture that is to be seen, runs the handler that was registered for it last, if it still is, and does
nothing else to the context. From its first sample to the release, a press makes one of four sequences
of gestures. -/
theorem gestures_tell_presses (thresholds : Thresholds) (context : γ)
    (earlier : List (Nat × Op γ)) :
    let start := ((ofThresholds thresholds).replay context earlier).value
    let button := start.2.1
    let reached := start.2.2
    (∀ now level, InOrder (samplesOf Op.look? (earlier ++ [(now, .poll level)])) →
      let polled := button.poll reached now level
      let response := respond (registered earlier) polled.value.1 reached now
      (∀ gesture, polled.value.1 = some gesture ↔
        thresholds.Shows (samplesOf Op.look? earlier) ⟨now, level.getD false⟩ gesture) ∧
      polled.value.2.2 = response.value ∧
      polled.events = notes level polled.value.1 ++ response.events) ∧
    ∀ press now level, InOrder (samplesOf Op.look? (earlier ++ press)) →
      heldMs (samplesOf Op.look? earlier) = none → (∀ sample ∈ samplesOf Op.look? press, sample.pressed = true) →
      level.getD false = false →
      (button.replay reached (press ++ [(now, .poll level)])).value.1 ∈ Gesture.wholePresses := by
  intro start button reached
  have fresh : (ofThresholds thresholds : Button γ).Follows thresholds [] := ⟨rfl, rfl⟩
  have handlers : button.handlers = registered earlier := handlers_replay thresholds context earlier
  refine ⟨?_, ?_⟩
  · intro now level inOrder
    rw [samplesOf_append] at inOrder
    have follows : button.Follows thresholds (samplesOf Op.look? earlier) :=
      fresh.replay context (List.pairwise_append.1 inOrder).1
    rw [poll_eq, follows.thresholds_eq, follows.press_eq, handlers]
    exact ⟨fun gesture => Press.step_gesture_iff inOrder gesture, rfl, rfl⟩
  · intro press now level inOrder idle pressed released
    rw [samplesOf_append] at inOrder
    have follows : button.Follows thresholds (samplesOf Op.look? earlier) :=
      fresh.replay context (List.pairwise_append.1 inOrder).1
    exact follows.wholePress_replay idle reached inOrder pressed now released

/-- A press is held for 490 milliseconds, and then the pin cannot be read. The handler of the short
press is taken away before the press is short, and that of the long release counts. -/
theorem pin_error_ends_long_press :
    let count : Handler Nat := fun seen _ => pure (seen + 1)
    let thresholds : Thresholds := { shortMs := 50, longMs := 400 }
    let earlier : List (Nat × Op Nat) :=
      [(0, .on .shortPress count), (1, .poll (some true)), (2, .poll none)]
    let press : List (Nat × Op Nat) :=
      [(10, .poll (some true)), (20, .clear .shortPress), (70, .poll (some true)),
        (80, .on .longRelease count), (500, .poll (some true))]
    let start := ((ofThresholds thresholds).replay 0 earlier).value
    let held := ((ofThresholds thresholds).replay 0 (earlier ++ press)).value
    let polled := held.2.1.poll held.2.2 510 none
    InOrder (samplesOf Op.look? (earlier ++ press ++ [(510, .poll none)])) ∧
      heldMs (samplesOf Op.look? earlier) = none ∧
      (∀ sample ∈ samplesOf Op.look? press, sample.pressed = true) ∧
      polled.value.1 = some .longRelease ∧ held.2.2 = 0 ∧ polled.value.2.2 = 1 ∧
      (start.2.1.replay start.2.2 (press ++ [(510, .poll none)])).value.1 ∈
        Gesture.wholePresses := by
  intro count thresholds earlier press start held polled
  have inOrder : InOrder (samplesOf Op.look? (earlier ++ press ++ [(510, .poll none)])) := by decide
  have idle : heldMs (samplesOf Op.look? earlier) = none := by decide
  have pressed : ∀ sample ∈ samplesOf Op.look? press, sample.pressed = true := by decide
  obtain ⟨seen, _⟩ :=
    (gestures_tell_presses thresholds 0 (earlier ++ press)).1 510 none inOrder
  have released : polled.value.1 = some .longRelease := (seen .longRelease).2 ⟨rfl, 490, by decide⟩
  have inOrderBefore : InOrder (samplesOf Op.look? (earlier ++ press)) := by decide
  have whole :=
    (gestures_tell_presses thresholds 0 earlier).2 press 510 none inOrderBefore idle pressed rfl
  exact ⟨inOrder, idle, pressed, released, rfl, rfl, whole⟩

end Button

end MeshLight
