import MeshLight.Bench.ScriptedDriver
import MeshLight.Proofs.Button.Gestures
import MeshLight.Proofs.Node.Draining
import MeshLight.Proofs.Press.Actions
import MeshLight.Station

/-!
What presses of the button come to in a station. A cycle carries out the action that is due, after the
messages and before the light advances, and the scenes go round with every long press until a short one
lets them begin anew. Nothing else moves them.
-/

namespace MeshLight

namespace Scene

/-- Every scene, in the order in which they are shown. -/
def all : List Scene :=
  [both, colorOnly, whiteOnly]

theorem all_getElem?_next {scene : Scene} {shown : Nat} (turn : all[shown % 3]? = some scene) :
    all[(shown + 1) % 3]? = some scene.next := by
  have position : shown % 3 = 0 ∨ shown % 3 = 1 ∨ shown % 3 = 2 := by omega
  rw [Nat.add_mod]
  rcases position with first | second | third
  · rw [first] at turn ⊢
    cases turn
    rfl
  · rw [second] at turn ⊢
    cases turn
    rfl
  · rw [third] at turn ⊢
    cases turn
    rfl

end Scene

namespace Action

/-- What an action asks of the lamp, given whether anything is lit and the scene whose turn it is. -/
def orders (lit : Bool) (scene : Scene) : Action → List Lamp.Op
  | toggle =>
      if lit then [.off .color, .off .white] else [.on .color .button, .on .white .button]
  | showScene =>
      match scene with
      | .both => [.on .color .button, .on .white .button]
      | .colorOnly => [.on .color .button, .off .white]
      | .whiteOnly => [.off .color, .on .white .button]

/-- The groups are dealt with one after the other. -/
theorem orders_toggle (lit : Bool) (scene : Scene) :
    toggle.orders lit scene =
      Group.all.map fun group => if lit then .off group else .on group .button := by
  cases lit <;> rfl

theorem orders_showScene (lit : Bool) (scene : Scene) :
    showScene.orders lit scene =
      Group.all.map fun group => if scene.lights group then .on group .button else .off group := by
  cases scene <;> rfl

/-- The scene whose turn it is after an action. -/
def sceneAfter (scene : Scene) : Action → Scene
  | toggle => .both
  | showScene => scene.next

/-- How many scenes have been shown since everything was toggled. -/
def shown (actions : List Action) : Nat :=
  (actions.rtakeWhile (· = .showScene)).length

theorem shown_concat_showScene (actions : List Action) :
    shown (actions ++ [.showScene]) = shown actions + 1 := by
  rw [shown, List.rtakeWhile_concat_pos _ _ _ (by decide), List.length_append]
  rfl

theorem shown_concat_toggle (actions : List Action) : shown (actions ++ [.toggle]) = 0 := by
  rw [shown, List.rtakeWhile_concat_neg _ _ _ (by decide)]
  rfl

theorem sceneAfter_turn {actions : List Action} {scene : Scene}
    (turn : Scene.all[shown actions % 3]? = some scene) (action : Action) :
    Scene.all[shown (actions ++ [action]) % 3]? = some (action.sceneAfter scene) := by
  cases action with
  | toggle =>
      rw [shown_concat_toggle]
      rfl
  | showScene =>
      rw [shown_concat_showScene]
      exact Scene.all_getElem?_next turn

variable {δ : Type} [ChannelDriver δ]

def handler : Action → Handler (Node δ)
  | toggle => Node.toggle
  | showScene => Node.showScene

end Action

theorem Lamp.isOn_eq_decide {δ : Type} [ChannelDriver δ] (lamp : Lamp δ) :
    let value := lamp.engine.fixture.value
    lamp.isOn = decide (value .red ≠ 0 ∨ value .green ≠ 0 ∨ value .blue ≠ 0 ∨ value .white ≠ 0) := by
  intro value
  rw [Bool.eq_iff_iff, decide_eq_true_iff]
  simp [isOn, Fixture.isLit, Channel.all, value]

namespace Node

variable {δ : Type} [ChannelDriver δ] (node : Node δ) (now : Nat)

theorem foldlM_operate (ops : List Lamp.Op) :
    ops.foldlM (fun node op => node.operate now op) node = do
      let lamp ← node.lamp.replay (ops.map (now, ·))
      return { node with lamp } := by
  induction ops generalizing node with
  | nil =>
      rfl
  | cons op rest inductionHypothesis =>
      rw [List.foldlM_cons, List.map_cons, Lamp.replay_cons, bind_assoc, operate, bind_assoc]
      simp only [inductionHypothesis, pure_bind]

/-- Carries out an action of the button. -/
def act (action : Action) : Traced Event (Node δ) := do
  let lamp ← node.lamp.replay ((action.orders node.lamp.isOn node.scene).map (now, ·))
  return { lamp, scene := action.sceneAfter node.scene }

theorem handler_eq (action : Action) : action.handler node now = node.act now action := by
  cases action with
  | toggle =>
      have operated := { node with scene := .both }.foldlM_operate now
        (Action.toggle.orders node.lamp.isOn node.scene)
      rw [Action.orders_toggle, List.foldlM_map] at operated
      rw [act, Action.orders_toggle]
      exact operated
  | showScene =>
      have operated := { node with scene := node.scene.next }.foldlM_operate now
        (Action.showScene.orders node.lamp.isOn node.scene)
      rw [Action.orders_showScene, List.foldlM_map] at operated
      rw [act, Action.orders_showScene]
      exact operated

theorem toggle_eq : node.toggle now = node.act now .toggle :=
  node.handler_eq now .toggle

theorem showScene_eq : node.showScene now = node.act now .showScene :=
  node.handler_eq now .showScene

theorem act_due (due : Option Action) :
    let acted := due.elim (pure node) (node.act now)
    let orders := due.elim [] (Action.orders node.lamp.isOn node.scene)
    let replayed := node.lamp.replay (orders.map (now, ·))
    acted.value.lamp = replayed.value ∧ acted.events = replayed.events := by
  cases due with
  | none =>
      exact ⟨rfl, rfl⟩
  | some action =>
      exact ⟨rfl, List.append_nil _⟩

theorem scene_receive (message : Message) :
    (node.receive now message).value.scene = node.scene := by
  cases demanded : message.demand? node.lamp.config with
  | none =>
      rw [(node.receive_of_not_demand? now message demanded).1]
  | some op =>
      rw [(node.receive_of_demand? now message demanded).1]

theorem scene_drain : (node.drain now).value.scene = node.scene := by
  rw [drain_eq, ((node.withInbound []).receiveAll_serves now _).1]
  rfl

end Node

namespace Station

open Sample

/-- The level of the pin that an operation finds, if it looks at the button. -/
def Op.look? : Op → Option (Option Bool)
  | cycle level => some level
  | start | receive _ | push _ | toggle | showScene | poll | lamp _ | register | clear _ => none

/-- The operation leaves the handlers of the button as they are. -/
def Op.keepsHandlers : Op → Bool
  | register | clear _ => false
  | _ => true

/-- The action that an operation comes to, after some samples. It need not be the button that asks for
it. -/
def Op.action? (thresholds : Thresholds) (earlier : List Sample) (now : Nat) : Op → Option Action
  | toggle => some .toggle
  | showScene => some .showScene
  | cycle level => thresholds.due? earlier ⟨now, level.getD false⟩
  | start | receive _ | push _ | poll | lamp _ | register | clear _ => none

/-- The actions of a history that comes after some samples. -/
def actionsOf (thresholds : Thresholds) (earlier : List Sample) : List (Nat × Op) → List Action
  | [] => []
  | (now, op) :: rest =>
      (op.action? thresholds earlier now).toList ++
        actionsOf thresholds (earlier ++ (taken? Op.look? now op).toList) rest

theorem actionsOf_concat (thresholds : Thresholds) (earlier : List Sample)
    (history : List (Nat × Op)) (now : Nat) (op : Op) :
    actionsOf thresholds earlier (history ++ [(now, op)]) =
      actionsOf thresholds earlier history ++
        (op.action? thresholds (earlier ++ samplesOf Op.look? history) now).toList := by
  induction history generalizing earlier with
  | nil =>
      simp [actionsOf, samplesOf]
  | cons timed rest inductionHypothesis =>
      rw [List.cons_append, actionsOf, actionsOf, inductionHypothesis, samplesOf_cons,
        List.append_assoc, List.append_assoc]

variable {δ : Type}

/-- A station whose button has just been registered. -/
def bound [ChannelDriver δ] (thresholds : Thresholds) (lamp : Lamp δ) : Station δ where
  node := .ofLamp lamp
  button := register (.ofThresholds thresholds)

variable [ChannelDriver δ]

/-- The press and the scene of a station are those that the samples and the actions so far call for, and
the button has its handlers. -/
structure Stands (station : Station δ) (thresholds : Thresholds) (samples : List Sample)
    (actions : List Action) : Prop where
  follows : station.button.Follows thresholds samples
  handlers_eq : station.button.handlers = fun gesture => gesture.action?.map Action.handler
  scene_eq : Scene.all[Action.shown actions % 3]? = some station.node.scene

theorem stands_bound (thresholds : Thresholds) (lamp : Lamp δ) :
    (bound thresholds lamp).Stands thresholds [] [] where
  follows := ⟨rfl, rfl⟩
  handlers_eq := by
    funext gesture
    cases gesture <;> rfl
  scene_eq := rfl

/-- A cycle is made of the messages, the look at the button with what comes of it, and the polling of the
light. -/
theorem cycle_eq (station : Station δ) (now : Nat) {level : Option Bool} {seen : Option Gesture}
    {press : Option Press} {acted : Traced Event (Node δ)}
    (looked : Press.step station.button.thresholds station.button.press now (level.getD false) =
      (seen, press))
    (responds : Button.respond station.button.handlers seen (station.node.drain now).value now = acted) :
    let advanced := acted.value.operate now .advance
    station.cycle now level =
      ⟨⟨advanced.value, { station.button with press }⟩,
        (station.node.drain now).events ++
          (Button.notes level seen ++ acted.events ++ advanced.events)⟩ := by
  have polled := station.button.poll_eq (station.node.drain now).value now level
  rw [looked] at polled
  simp only [responds] at polled
  apply Traced.ext
  · rw [cycle, Traced.bind_value, Traced.bind_value, polled]
    rfl
  · simp only [cycle, Traced.bind_events, Traced.pure_events, List.append_nil]
    rw [polled]

namespace Stands

variable {station : Station δ} {thresholds : Thresholds} {samples : List Sample}
  {actions : List Action} (stands : station.Stands thresholds samples actions)
include stands

/-- A cycle carries out the action that is due on what the messages have left. -/
theorem cycle_eq (now : Nat) (level : Option Bool)
    (inOrder : InOrder (samples ++ [⟨now, level.getD false⟩])) :
    let due := thresholds.due? samples ⟨now, level.getD false⟩
    let drained := station.node.drain now
    let acted := due.elim (pure drained.value) (drained.value.act now)
    let advanced := acted.value.operate now .advance
    ∃ seen button,
      seen.bind Gesture.action? = due ∧
      station.cycle now level =
        ⟨⟨advanced.value, button⟩,
          drained.events ++ (Button.notes level seen ++ acted.events ++ advanced.events)⟩ ∧
      button.Follows thresholds (samples ++ [⟨now, level.getD false⟩]) ∧
      button.handlers = station.button.handlers := by
  intro due drained acted advanced
  let looked := Press.step station.button.thresholds station.button.press now (level.getD false)
  have lookedEq : looked =
      Press.step thresholds (Press.ofSamples thresholds samples) now (level.getD false) := by
    simp only [looked, stands.follows.thresholds_eq, stands.follows.press_eq]
  have asked : looked.1.bind Gesture.action? = due := by
    rw [lookedEq]
    exact Press.step_action? inOrder
  have responds : Button.respond station.button.handlers looked.1 drained.value now = acted := by
    simp only [acted, ← asked, Button.respond, stands.handlers_eq]
    cases looked.1 with
    | none =>
        rfl
    | some gesture =>
        cases called : gesture.action? with
        | none =>
            simp [called]
        | some action =>
            simp [called, Node.handler_eq]
  have cycled := station.cycle_eq now rfl responds
  refine ⟨looked.1, { station.button with press := looked.2 }, asked, cycled, ?_, rfl⟩
  refine ⟨stands.follows.thresholds_eq, ?_⟩
  rw [← Press.step_press inOrder, lookedEq]

/-- The scene moves with the actions, and only with them. -/
theorem scene_apply (now : Nat) (op : Op)
    (inOrder : InOrder (samples ++ (taken? Op.look? now op).toList)) :
    (station.apply now op).value.node.scene =
      (op.action? thresholds samples now).elim station.node.scene
        (Action.sceneAfter station.node.scene) := by
  cases op with
  | toggle =>
      exact congrArg (fun result => result.value.scene) (station.node.toggle_eq now)
  | showScene =>
      exact congrArg (fun result => result.value.scene) (station.node.showScene_eq now)
  | cycle level =>
      obtain ⟨seen, button, _, cycled, _, _⟩ := stands.cycle_eq now level inOrder
      rw [apply, cycled, Op.action?]
      cases thresholds.due? samples ⟨now, level.getD false⟩ with
      | none =>
          exact station.node.scene_drain now
      | some action =>
          exact congrArg action.sceneAfter (station.node.scene_drain now)
  | receive message =>
      exact station.node.scene_receive now message
  | poll =>
      exact station.node.scene_drain now
  | start | push message | lamp op | register | clear gesture =>
      rfl

theorem apply {op : Op} {now : Nat} (keeps : op.keepsHandlers = true)
    (inOrder : InOrder (samples ++ (taken? Op.look? now op).toList)) :
    (station.apply now op).value.Stands thresholds (samples ++ (taken? Op.look? now op).toList)
      (actions ++ (op.action? thresholds samples now).toList) := by
  have scene : Scene.all[Action.shown (actions ++ (op.action? thresholds samples now).toList) % 3]? =
      some (station.apply now op).value.node.scene := by
    rw [stands.scene_apply now op inOrder]
    cases op.action? thresholds samples now with
    | none =>
        rw [Option.toList_none, List.append_nil]
        exact stands.scene_eq
    | some action =>
        exact Action.sceneAfter_turn stands.scene_eq action
  cases op with
  | cycle level =>
      obtain ⟨seen, button, _, cycled, follows, handlersEq⟩ := stands.cycle_eq now level inOrder
      refine ⟨?_, ?_, scene⟩
      · rw [Station.apply, cycled]
        exact follows
      · rw [Station.apply, cycled]
        exact handlersEq.trans stands.handlers_eq
  | register | clear gesture =>
      cases keeps
  | start | receive message | push message | toggle | showScene | poll | lamp op =>
      rw [taken?, Op.look?, Option.map_none, Option.toList_none, List.append_nil]
      exact ⟨stands.follows, stands.handlers_eq, scene⟩

end Stands

theorem replay_concat (station : Station δ) (history : List (Nat × Op)) (now : Nat) (op : Op) :
    station.replay (history ++ [(now, op)]) =
      station.replay history >>= fun reached => reached.apply now op :=
  Traced.replay_concat apply station history now op

theorem stands_replay (thresholds : Thresholds) (lamp : Lamp δ) {history : List (Nat × Op)}
    (handlersKept : ∀ timed ∈ history, timed.2.keepsHandlers = true)
    (inOrder : InOrder (samplesOf Op.look? history)) :
    ((bound thresholds lamp).replay history).value.Stands thresholds (samplesOf Op.look? history)
      (actionsOf thresholds [] history) := by
  induction history using List.reverseRecOn with
  | nil =>
      exact stands_bound thresholds lamp
  | append_singleton history timed inductionHypothesis =>
      obtain ⟨now, op⟩ := timed
      rw [samplesOf_concat] at inOrder
      have before := inductionHypothesis
        (fun timed member => handlersKept timed (List.mem_append_left _ member))
        (List.pairwise_append.1 inOrder).1
      have keeps : op.keepsHandlers = true := handlersKept (now, op) (by simp)
      rw [replay_concat, samplesOf_concat, actionsOf_concat, List.nil_append]
      exact before.apply keeps inOrder

/-- Whatever messages and operations come between the looks at the button, as long as nobody changes its
handlers and the clock does not go back:

* the scene whose turn it is goes by the number of scenes shown since everything was toggled;
* a cycle handles the messages, then gives the lamp the orders of the action that is due, if one is, and
  then advances the light;
* an operation that does not come to an action leaves the scene as it is;
* a press has an action at the first sample at which it is long, or if it never is, at its end if it was
  short by then, and no other action. -/
theorem presses_act_once (thresholds : Thresholds) (lamp : Lamp δ) (history : List (Nat × Op))
    (handlersKept : ∀ timed ∈ history, timed.2.keepsHandlers = true)
    (inOrder : InOrder (samplesOf Op.look? history)) :
    let reached := ((bound thresholds lamp).replay history).value
    let scene := reached.node.scene
    let shown := Action.shown (actionsOf thresholds [] history)
    Scene.all[shown % 3]? = some scene ∧
    (∀ now level, InOrder (samplesOf Op.look? history ++ [⟨now, level.getD false⟩]) →
      let due := thresholds.due? (samplesOf Op.look? history) ⟨now, level.getD false⟩
      let cycled := reached.cycle now level
      let drained := reached.node.drain now
      let value := drained.value.lamp.engine.fixture.value
      let lit := value .red ≠ 0 ∨ value .green ≠ 0 ∨ value .blue ≠ 0 ∨ value .white ≠ 0
      let orders := due.elim [] (Action.orders lit scene)
      let acted := drained.value.lamp.replay (orders.map (now, ·))
      let advanced := acted.value.advance now
      cycled.value.node.lamp = advanced.value ∧
      ∃ seen, seen.bind Gesture.action? = due ∧
        cycled.events =
          drained.events ++ (Button.notes level seen ++ acted.events ++ advanced.events)) ∧
    (∀ now op, InOrder (samplesOf Op.look? history ++ (taken? Op.look? now op).toList) →
      (reached.apply now op).value.node.scene =
        (op.action? thresholds (samplesOf Op.look? history) now).elim scene (Action.sceneAfter scene)) ∧
    ∀ earlier first rest ended later,
      samplesOf Op.look? history = earlier ++ first :: rest ++ ended :: later →
      IsPress earlier first rest ended →
      let course := thresholds.course earlier (first :: rest ++ [ended])
      let last := (first :: rest).getLast (List.cons_ne_nil first rest)
      (∀ before reached after, first :: rest = before ++ reached :: after →
        (∀ sample ∈ before, sample.takenAt - first.takenAt < thresholds.longMs.toNat) →
        thresholds.longMs.toNat ≤ reached.takenAt - first.takenAt →
        course = List.replicate before.length none ++
          some .showScene :: List.replicate (after.length + 1) none) ∧
      ((∀ sample ∈ first :: rest, sample.takenAt - first.takenAt < thresholds.longMs.toNat) →
        course = List.replicate (rest.length + 1) none ++
          [if thresholds.shortMs.toNat ≤ last.takenAt - first.takenAt then some .toggle else none]) := by
  intro reached scene shown
  have stands := stands_replay thresholds lamp handlersKept inOrder
  refine ⟨stands.scene_eq, ?_, fun now op => stands.scene_apply now op, ?_⟩
  · intro now level inOrderNow due cycled drained value lit orders acted advanced
    obtain ⟨seen, button, asked, cycledEq, _, _⟩ := stands.cycle_eq now level inOrderNow
    obtain ⟨actedLamp, actedEvents⟩ := drained.value.act_due now due
    rw [reached.node.scene_drain now, Lamp.isOn_eq_decide] at actedLamp actedEvents
    refine ⟨?_, seen, asked, ?_⟩
    · rw [show cycled = _ from cycledEq]
      exact congrArg (fun lamp => (lamp.advance now).value) actedLamp
    · rw [show cycled = _ from cycledEq, Node.operate_events, actedEvents, actedLamp]
      rfl
  · intro earlier first rest ended later split isPress course last
    refine ⟨?_, isPress.course_of_not_long⟩
    intro before longOne after splitPress notLong long
    rw [split] at inOrder
    exact isPress.course_of_long (List.pairwise_append.1 inOrder).1 splitPress notLong long

/-- Three long presses show the three scenes, although white is switched off from outside while the button
is held for the second one, and the short press after them switches everything off. -/
theorem presses_go_round :
    let thresholds : Thresholds := { shortMs := 50, longMs := 400 }
    let driver := ScriptedDriver.ofScript .complete
    let eeprom : Eeprom :=
      { bytes := #[2, 1, 2, 3, 4, 85, 102, 119, 136]
        readFaults := .always false
        writeFaults := .always true }
    let lamp := Lamp.assemble {} ⟨driver, driver, driver, driver⟩ eeprom ⟨[], .always false⟩
    let first : List (Nat × Op) := [(0, .start), (10, .cycle (some true))]
    let second := first ++
      [(410, .cycle (some true)), (420, .cycle none), (500, .cycle (some true)),
        (700, .push ⟨1, .light false⟩)]
    let third := second ++
      [(900, .cycle (some true)), (910, .cycle (some false)), (1000, .cycle (some true))]
    let fourth := third ++
      [(1400, .cycle (some true)), (1410, .cycle (some false)), (1500, .cycle (some true)),
        (1560, .cycle (some true))]
    let acts (history : List (Nat × Op)) (now : Nat) (level : Bool) (orders : List Lamp.Op) : Prop :=
      let reached := ((bound thresholds lamp).replay history).value
      let shown := (reached.node.drain now).value.lamp.replay (orders.map (now, ·))
      (reached.cycle now (some level)).value.node.lamp = (shown.value.advance now).value
    (∀ timed ∈ fourth, timed.2.keepsHandlers = true) ∧
      InOrder (samplesOf Op.look? fourth ++ [⟨1570, false⟩]) ∧
      acts first 410 true [.on .color .button, .on .white .button] ∧
      acts second 900 true [.on .color .button, .off .white] ∧
      acts third 1400 true [.off .color, .on .white .button] ∧
      acts fourth 1570 false [.off .color, .off .white] ∧
      thresholds.course [] [⟨10, true⟩, ⟨410, true⟩, ⟨420, false⟩] =
        [none, some .showScene, none] := by
  intro thresholds driver eeprom lamp first second third fourth acts
  have kept : ∀ timed ∈ fourth, timed.2.keepsHandlers = true := by decide
  have inOrder : InOrder (samplesOf Op.look? fourth ++ [⟨1570, false⟩]) := by decide
  have carried (history : List (Nat × Op)) (now : Nat) (level : Bool) (action : Action) (scene : Scene)
      (kept : ∀ timed ∈ history, timed.2.keepsHandlers = true)
      (inOrder : InOrder (samplesOf Op.look? history ++ [⟨now, level⟩]))
      (turn : Scene.all[Action.shown (actionsOf thresholds [] history) % 3]? = some scene)
      (due : thresholds.due? (samplesOf Op.look? history) ⟨now, level⟩ = some action) :
      let drained := ((bound thresholds lamp).replay history).value.node.drain now
      ∃ lit, (drained.value.lamp.engine.fixture.value .white ≠ 0 → lit = true) ∧
        acts history now level (action.orders lit scene) := by
    intro drained
    obtain ⟨turnNow, cycles, _⟩ :=
      presses_act_once thresholds lamp history kept (List.pairwise_append.1 inOrder).1
    obtain ⟨cycled, _⟩ := cycles now (some level) inOrder
    rw [turn, Option.some.injEq] at turnNow
    simp only [Option.getD_some, due, Option.elim_some, ← turnNow] at cycled
    exact ⟨_, fun white => decide_eq_true (Or.inr (Or.inr (Or.inr white))), cycled⟩
  refine ⟨kept, inOrder, ?_, ?_, ?_, ?_, ?_⟩
  · obtain ⟨_, _, shown⟩ :=
      carried first 410 true .showScene .both (by decide) (by decide) (by decide) (by decide)
    exact shown
  · obtain ⟨_, _, shown⟩ :=
      carried second 900 true .showScene .colorOnly (by decide) (by decide) (by decide) (by decide)
    exact shown
  · obtain ⟨_, _, shown⟩ :=
      carried third 1400 true .showScene .whiteOnly (by decide) (by decide) (by decide) (by decide)
    exact shown
  · obtain ⟨lit, isLit, toggled⟩ :=
      carried fourth 1570 false .toggle .both kept inOrder (by decide) (by decide)
    rw [isLit (by decide +kernel)] at toggled
    exact toggled
  · have isPress : IsPress [] ⟨10, true⟩ [⟨410, true⟩] ⟨420, false⟩ := ⟨rfl, by decide, rfl⟩
    obtain ⟨_, _, _, presses⟩ := presses_act_once thresholds lamp second (by decide) (by decide)
    exact (presses [] _ _ _ _ rfl isPress).1 [⟨10, true⟩] ⟨410, true⟩ [] rfl (by decide) (by decide)

end Station

end MeshLight
