import MeshLight.Proofs.Lamp.Groups
import MeshLight.Proofs.Lamp.Tracking

/-!
How a group of software faders gets to the level that was asked of it. From the operation on, the group
heads for that level and nothing turns it away: no tick commands it, and operations on the other group
do not reach it. It shows the level after the first poll that is made when the duration has passed.
-/

namespace MeshLight

namespace Engine

/-- A group was sent from one level to another, and its run will not send it back. -/
structure Heads (engine : Engine Fader) (group : Group) (origin level : Level)
    (durationMs : UInt32) (sentAt : Nat) : Prop where
  noLoop : (engine.run group).running = true → (engine.run group).transition.looping = false
  course : ∀ channel, channel.group = group →
    (engine.fixture.driver channel).OnCourse (origin.component channel) (level.component channel)
      durationMs sentAt

/-- An operation sends a group to a level: from what the group shows now, and there at once if the
duration is that of a single step. -/
structure Sends (engine : Engine Fader) (group : Group) (level : Level) (durationMs : UInt32)
    (sentAt : Nat) : Prop where
  heads : engine.Heads group engine.fixture.level level durationMs sentAt
  quick : durationMs.toNat ≤ Ramp.minStepMs → engine.fixture.shows group level = true

section Sending

variable (engine : Engine Fader) (now : Nat) (group : Group)

/-- It does not matter where the fade of each channel begins, nor what the channel did before. -/
theorem sends_of_faded {after : Engine Fader} {level : Level} {durationMs : UInt32}
    (noLoop : (after.run group).running = true → (after.run group).transition.looping = false)
    (faded : ∀ channel, channel.group = group → ∃ before : Fader,
      after.fixture.driver channel =
        (before.fade now (level.component channel) durationMs).value) :
    after.Sends group level durationMs now := by
  refine ⟨⟨noLoop, ?_⟩, ?_⟩
  · intro channel inside
    obtain ⟨before, driverEq⟩ := faded channel inside
    have valueEq : after.fixture.level.component channel =
        (before.fade now (level.component channel) durationMs).value.value := by
      rw [Fixture.level, Level.component_ofFn, Fixture.value, driverEq]
      rfl
    rw [valueEq, driverEq]
    exact before.onCourse_value_fade now _ _
  · intro quick
    rw [Fixture.shows_iff]
    intro channel inside
    obtain ⟨before, driverEq⟩ := faded channel inside
    rw [Fixture.value, driverEq]
    exact before.value_fade_of_quick now _ quick

theorem sends_settled (level : Level) (durationMs : UInt32) :
    (engine.settled now group level durationMs).Sends group level durationMs now := by
  apply sends_of_faded
  · intro going
    rw [run_settled, if_pos rfl] at going
    exact absurd going Bool.false_ne_true
  · intro channel inside
    refine ⟨engine.fixture.driver channel, ?_⟩
    rw [driver_settled, if_pos inside]
    rfl

theorem sends_played {transition : Transition} (once : transition.looping = false) :
    (engine.played now group transition).Sends group transition.stop transition.durationMs now := by
  apply sends_of_faded
  · intro _
    rw [played, run_launch, if_pos rfl]
    exact once
  · intro channel inside
    refine ⟨((engine.fixture.driver channel).set (transition.start.component channel)).value, ?_⟩
    rw [played, driver_launch, if_pos inside]
    rfl

end Sending

variable {engine after : Engine Fader} {group : Group} {origin level : Level} {durationMs : UInt32}
  {sentAt : Nat}

theorem Heads.congr (heads : engine.Heads group origin level durationMs sentAt)
    (agree : after.AgreeOn group engine) :
    after.Heads group origin level durationMs sentAt := by
  refine ⟨?_, ?_⟩
  · rw [agree.run_eq]
    exact heads.noLoop
  · intro channel inside
    rw [agree.driver_eq channel inside]
    exact heads.course channel inside

theorem shows_congr (agree : after.AgreeOn group engine)
    (shown : engine.fixture.shows group level = true) :
    after.fixture.shows group level = true := by
  rw [Fixture.shows_iff] at shown ⊢
  intro channel inside
  rw [Fixture.value, agree.driver_eq channel inside]
  exact shown channel inside

theorem Sends.congr (sends : engine.Sends group level durationMs sentAt)
    (agree : after.AgreeOn group engine) :
    after.Sends group level durationMs sentAt := by
  refine ⟨⟨(sends.heads.congr agree).noLoop, ?_⟩, fun quick => shows_congr agree (sends.quick quick)⟩
  intro channel inside
  have sameOrigin : after.fixture.level.component channel =
      engine.fixture.level.component channel := by
    simp only [Fixture.level, Level.component_ofFn, Fixture.value, agree.driver_eq channel inside]
  rw [sameOrigin]
  exact (sends.heads.congr agree).course channel inside

namespace Heads

variable (heads : engine.Heads group origin level durationMs sentAt)
include heads

theorem polled (now : Nat) :
    (engine.polled now).Heads group origin level durationMs sentAt := by
  refine ⟨heads.noLoop, ?_⟩
  intro channel inside
  rw [driver_polled]
  exact (heads.course channel inside).advance now

theorem not_turns : ¬ engine.turns group = true := by
  intro due
  simp only [turns, Bool.and_eq_true] at due
  have once := heads.noLoop due.1.1
  rw [due.1.2] at once
  exact absurd once.symm Bool.false_ne_true

/-- A group that does not loop has nothing from a tick. -/
theorem agreeOn_tick (now : Nat) : (engine.tick now).value.AgreeOn group engine :=
  .tick_of_not_turns heads.not_turns now

theorem agreeOn_advance (now : Nat) :
    (engine.advance now).value.AgreeOn group (engine.polled now) :=
  (heads.polled now).agreeOn_tick now

theorem commandsTo_advance (now : Nat) :
    Event.commandsTo group (engine.advance now).events = [] := by
  rw [Engine.commandsTo_advance, commandsTo_tick, if_neg (heads.polled now).not_turns]

/-- A poll after the duration finds the group at its level, and every later one leaves it there. -/
theorem shows_advance {now : Nat}
    (arrived : engine.fixture.shows group level = true ∨ durationMs.toNat ≤ now - sentAt) :
    (engine.advance now).value.fixture.shows group level = true := by
  apply shows_congr (heads.agreeOn_advance now)
  rw [Fixture.shows_iff]
  intro channel inside
  have course := heads.course channel inside
  rw [Fixture.value, driver_polled]
  rcases arrived with shown | ended
  · exact course.value_advance_of_there ((Fixture.shows_iff _ _ _).1 shown channel inside) now
  · exact course.value_advance_of_over ended

end Heads

end Engine

namespace Lamp

/-- How long an operation gives a group to reach the level that it asks for. -/
def Op.durationMs (config : Config) : Op → UInt32
  | play _ transition => transition.durationMs
  | _ => config.fadeTimeMs

/-- The operation asks for a level to come back from. -/
def Op.Loops : Op → Prop
  | play _ transition => transition.looping = true
  | _ => False

variable {lamp : Lamp Fader} {group : Group} {level origin : Level} {durationMs : UInt32}
  {sentAt : Nat}

/-- Whatever runs on a group, an operation that asks for a level sends the group there. -/
theorem sends_apply {op : Op} (asked : op.asks lamp group = some level) (once : ¬ op.Loops)
    (now : Nat) :
    (lamp.apply now op).value.engine.Sends group level (op.durationMs lamp.config) now := by
  have settled (level : Level) := lamp.engine.sends_settled now group level lamp.config.fadeTimeMs
  cases op with
  | boot =>
      cases asked
      rw [apply, engine_boot]
      cases group with
      | color =>
          exact (settled .off).congr (Engine.agreeOn_settled_of_ne _ now (by decide) _ _)
      | white =>
          exact Engine.sends_settled _ now .white .off lamp.config.fadeTimeMs
  | limit source target asked' =>
      obtain ⟨rfl, ⟨⟩⟩ := Option.ite_none_right_eq_some.1 asked
      rw [apply, engine_limit]
      exact settled _
  | play target transition =>
      obtain ⟨rfl, ⟨⟩⟩ := Option.ite_none_right_eq_some.1 asked
      rw [apply, engine_play]
      exact lamp.engine.sends_played now _ (eq_false_of_ne_true once)
  | off target =>
      obtain ⟨rfl, ⟨⟩⟩ := Option.ite_none_right_eq_some.1 asked
      rw [apply, engine_off]
      exact settled .off
  | on target source =>
      rw [apply, engine_on]
      cases source with
      | external | button =>
          obtain ⟨rfl, ⟨⟩⟩ := Option.ite_none_right_eq_some.1 asked
          exact settled _
  | advance =>
      cases asked

theorem heads_apply_of_spares (heads : lamp.engine.Heads group origin level durationMs sentAt)
    (now : Nat) {op : Op} (spares : op.Spares group) :
    let after := lamp.apply now op
    after.value.engine.Heads group origin level durationMs sentAt ∧
      after.value.engine.run group = lamp.engine.run group ∧
      Event.commandsTo group after.events = [] := by
  rcases spares with rfl | ⟨other, elsewhere, different⟩
  · have agree := heads.agreeOn_advance now
    refine ⟨(heads.polled now).congr agree, agree.run_eq, ?_⟩
    rw [apply, advance_events]
    exact heads.commandsTo_advance now
  · have agree := lamp.agreeOn_apply_of_ne now elsewhere different
    exact ⟨heads.congr agree, agree.run_eq, lamp.commandsTo_apply_of_ne now elsewhere different⟩

theorem shows_apply_of_spares (heads : lamp.engine.Heads group origin level durationMs sentAt)
    (now : Nat) {op : Op} (spares : op.Spares group)
    (arrived : lamp.engine.fixture.shows group level = true ∨
      op = .advance ∧ durationMs.toNat ≤ now - sentAt) :
    (lamp.apply now op).value.engine.fixture.shows group level = true := by
  rcases spares with rfl | ⟨other, elsewhere, different⟩
  · rw [apply, engine_advance]
    exact heads.shows_advance (arrived.imp_right And.right)
  · have agree := lamp.agreeOn_apply_of_ne now elsewhere different
    rcases arrived with shown | ⟨rfl, _⟩
    · exact Engine.shows_congr agree shown
    · cases elsewhere

section Later

variable {later : List (Nat × Op)} (spared : ∀ timed ∈ later, timed.2.Spares group)
include spared

theorem heads_replay (heads : lamp.engine.Heads group origin level durationMs sentAt) :
    let after := lamp.replay later
    after.value.engine.Heads group origin level durationMs sentAt ∧
      after.value.engine.run group = lamp.engine.run group ∧
      Event.commandsTo group after.events = [] := by
  induction later generalizing lamp with
  | nil =>
      exact ⟨heads, rfl, rfl⟩
  | cons timed rest inductionHypothesis =>
      obtain ⟨next, runEq, quiet⟩ :=
        heads_apply_of_spares heads timed.1 (spared timed List.mem_cons_self)
      obtain ⟨last, runEqRest, quietRest⟩ := inductionHypothesis
        (fun later member => spared later (List.mem_cons_of_mem timed member)) next
      refine ⟨last, runEqRest.trans runEq, ?_⟩
      rw [replay_cons, Traced.bind_events, Event.commandsTo_append]
      exact List.append_eq_nil_iff.2 ⟨quiet, quietRest⟩

theorem shows_replay (heads : lamp.engine.Heads group origin level durationMs sentAt)
    (arrived : lamp.engine.fixture.shows group level = true ∨
      ∃ now, (now, Op.advance) ∈ later ∧ durationMs.toNat ≤ now - sentAt) :
    (lamp.replay later).value.engine.fixture.shows group level = true := by
  induction later generalizing lamp with
  | nil =>
      rcases arrived with shown | ⟨now, member, _⟩
      · exact shown
      · cases member
  | cons timed rest inductionHypothesis =>
      have spares := spared timed List.mem_cons_self
      apply inductionHypothesis fun later member => spared later (List.mem_cons_of_mem timed member)
      · exact (heads_apply_of_spares heads timed.1 spares).1
      · rcases arrived with shown | ⟨now, member, ended⟩
        · exact Or.inl (shows_apply_of_spares heads timed.1 spares (Or.inl shown))
        · rcases List.mem_cons.1 member with rfl | later
          · exact Or.inl (shows_apply_of_spares heads now spares (Or.inr ⟨rfl, ended⟩))
          · exact Or.inr ⟨now, later, ended⟩

end Later

/-- Whatever state the lamp is in, an operation that asks for a level, and not for a loop, brings the
group there, however often the lamp is polled afterwards, at whatever clocks, and whatever is done to
the other group in the meantime. The group shows the level at once if the duration is that of a single
step, and else from the first poll on that is made when the duration has passed. Nothing is left of
what ran before: until the next operation on the group its run stays as it is, no channel of it gets a
command, and the only fade in progress is the one from what the operation left to the level. -/
theorem asked_level_is_reached {lamp : Lamp Fader} {group : Group} {level : Level} {op : Op}
    {later : List (Nat × Op)}
    (asked : op.asks lamp group = some level) (once : ¬ op.Loops)
    (spared : ∀ timed ∈ later, timed.2.Spares group) (sentAt : Nat) :
    let sent := (lamp.apply sentAt op).value
    let after := sent.replay later
    let fixture := after.value.engine.fixture
    let durationMs := op.durationMs lamp.config
    (durationMs.toNat ≤ 20 ∨
        (∃ now, (now, Op.advance) ∈ later ∧ durationMs.toNat ≤ now - sentAt) →
      ∀ channel, channel.group = group → fixture.value channel = level.component channel) ∧
    after.value.engine.run group = sent.engine.run group ∧
    Event.commandsTo group after.events = [] ∧
    ∀ channel, channel.group = group →
      (fixture.driver channel).OnCourse (sent.engine.fixture.value channel)
        (level.component channel) durationMs sentAt := by
  intro sent after fixture durationMs
  have sends : sent.engine.Sends group level durationMs sentAt := sends_apply asked once sentAt
  obtain ⟨heads, runEq, quiet⟩ := heads_replay spared sends.heads
  refine ⟨?_, runEq, quiet, ?_⟩
  · intro passed
    have shown : fixture.shows group level = true :=
      shows_replay spared sends.heads (passed.imp_left sends.quick)
    exact (Fixture.shows_iff fixture group level).1 shown
  · intro channel inside
    have course := heads.course channel inside
    rwa [Fixture.level, Level.component_ofFn] at course

/-- Both groups are on their way back in a loop when one of them is asked for a level, and show 128. That
group is at the level after 100 milliseconds, whatever kind of operation asked for it, while the clock
jumps about and a loop is started on the other group. -/
theorem loops_end_at_asked_level :
    let pwm : Pwm := { maxDuty := 255, faults := .always false }
    let eeprom : Eeprom :=
      { bytes := #[2, 1, 2, 3, 4, 85, 102, 119, 136]
        readFaults := .always false
        writeFaults := .always true }
    let dark := ofPwms { fadeTimeMs := 100 } (fun _ => pwm) eeprom ⟨[], .always true⟩
    let loop : Transition :=
      { start := ⟨16, 16, 16, 16⟩, stop := ⟨240, 240, 240, 240⟩, durationMs := 200, looping := true }
    let once : Transition :=
      { start := ⟨9, 9, 9, 9⟩, stop := ⟨33, 44, 55, 66⟩, durationMs := 90, looping := false }
    let lamp := (dark.replay
      [(0, .boot), (0, .play .color loop), (0, .play .white loop), (200, .advance),
        (300, .advance)]).value
    let later (other : Group) : List (Nat × Op) :=
      [(40, .advance), (350, .play other loop), (410, .advance), (405, .off other), (9, .advance)]
    let shown (group other : Group) (op : Op) : List UInt8 :=
      group.channels.map ((lamp.apply 310 op).value.replay (later other)).value.engine.fixture.value
    (∀ group, (lamp.engine.run group).phase = .loop .backward) ∧
      lamp.engine.fixture.level = ⟨128, 128, 128, 128⟩ ∧
      (∀ timed ∈ later .white, timed.2.Spares .color) ∧
      (∀ timed ∈ later .color, timed.2.Spares .white) ∧
      shown .color .white (.off .color) = [0, 0, 0] ∧
      shown .color .white (.on .color .external) = [1, 2, 3] ∧
      shown .color .white (.on .color .button) = [85, 102, 119] ∧
      shown .color .white (.limit .external .color ⟨70, 80, 90, 0⟩) = [70, 80, 90] ∧
      shown .white .color (.on .white .external) = [4] ∧
      shown .white .color (.on .white .button) = [136] ∧
      shown .white .color (.limit .button .white ⟨0, 0, 0, 70⟩) = [70] ∧
      shown .white .color (.play .white once) = [66] := by
  intro pwm eeprom dark loop once lamp later shown
  have remembered : lamp.store.record.external = ⟨1, 2, 3, 4⟩ ∧
      lamp.store.record.button = ⟨85, 102, 119, 136⟩ := by decide
  obtain ⟨external, button⟩ := remembered
  have fadeTime : lamp.config.fadeTimeMs = 100 := congrArg Config.fadeTimeMs (config_replay dark _)
  have backward : ∀ group, (lamp.engine.run group).phase = .loop .backward := by
    intro group
    cases group <;> decide
  have halfway : lamp.engine.fixture.level = ⟨128, 128, 128, 128⟩ := by decide
  -- The state that the operations meet does not matter any more and is not to be computed.
  clear_value lamp
  have sparesColor : ∀ timed ∈ later .white, timed.2.Spares .color := by decide
  have sparesWhite : ∀ timed ∈ later .color, timed.2.Spares .white := by decide
  have reached (group other : Group) (op : Op) {level : Level}
      (asked : op.asks lamp group = some level) (noLoop : ¬ op.Loops)
      (spared : ∀ timed ∈ later other, timed.2.Spares group)
      (quick : (op.durationMs lamp.config).toNat ≤ 100) :
      shown group other op = group.channels.map level.component := by
    have law := asked_level_is_reached asked noLoop spared 310
    have passed : ∃ now, (now, Op.advance) ∈ later other ∧
        (op.durationMs lamp.config).toNat ≤ now - 310 := ⟨410, by simp [later], quick⟩
    exact List.map_congr_left fun channel member =>
      law.1 (Or.inr passed) channel (Group.mem_channels.1 member)
  have fades : lamp.config.fadeTimeMs.toNat ≤ 100 := by
    rw [fadeTime]
    decide
  refine ⟨backward, halfway, sparesColor, sparesWhite, ?_, ?_, ?_, ?_, ?_, ?_, ?_, ?_⟩
  · exact reached .color .white (.off .color) rfl id sparesColor fades
  · exact reached .color .white (.on .color .external) (congrArg some external) id sparesColor fades
  · exact reached .color .white (.on .color .button) (congrArg some button) id sparesColor fades
  · exact reached .color .white (.limit .external .color _) rfl id sparesColor fades
  · exact reached .white .color (.on .white .external) (congrArg some external) id sparesWhite fades
  · exact reached .white .color (.on .white .button) (congrArg some button) id sparesWhite fades
  · exact reached .white .color (.limit .button .white _) rfl id sparesWhite fades
  · exact reached .white .color (.play .white once) rfl (by simp [Op.Loops, once]) sparesWhite
      (by simp [Op.durationMs, once])

end Lamp

end MeshLight
