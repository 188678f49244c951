import MeshLight.Fader
import MeshLight.Proofs.Lamp.Groups

/-!
The two groups of a lamp are isolated from each other. What one group shows, runs, remembers, is told
and reports is settled by the polls and the operations on that group, each at its clock: neither the
operations on the other group nor the failures of writes and sends make a difference to it.
-/

namespace MeshLight

/-- Sensors that are told apart are those of different groups. -/
theorem Config.sensor_ne {config : Config} (distinct : config.colorSensor ≠ config.whiteSensor)
    {group other : Group} (different : other ≠ group) :
    config.sensor other ≠ config.sensor group := by
  cases group <;> cases other
  case color.color | white.white =>
    exact absurd rfl different
  case color.white =>
    exact Ne.symm distinct
  case white.color =>
    exact distinct

namespace Engine.AgreeOn

variable {δ : Type} [ChannelDriver δ] {group : Group} {first second : Engine δ}

theorem settled (agree : first.AgreeOn group second) (now : Nat) {level other : Level}
    (same : ∀ channel, channel.group = group → level.component channel = other.component channel)
    (durationMs : UInt32) :
    (first.settled now group level durationMs).AgreeOn group
      (second.settled now group other durationMs) where
  run_eq := by rw [run_settled, run_settled, if_pos rfl, if_pos rfl, agree.run_eq]
  driver_eq channel inside := by
    rw [driver_settled, driver_settled, if_pos inside, if_pos inside,
      agree.driver_eq channel inside, same channel inside]

end Engine.AgreeOn

namespace Store

/-- A store that was read remembers a level whether or not it can write it. -/
theorem save_value_of_loaded {store : Store} (loaded : store.loaded = true) (source : Source)
    (group : Group) (level : Level) :
    (store.save source group level).value.2.record = store.record.remember source group level ∧
      (store.save source group level).value.2.loaded = true := by
  rw [save, if_pos loaded]
  exact ⟨rfl, loaded⟩

/-- Two stores were read and cannot be told apart by the levels that they remember for a group. -/
structure AgreeOn (group : Group) (first second : Store) : Prop where
  first_loaded : first.loaded = true
  second_loaded : second.loaded = true
  version_eq : first.record.version = second.record.version
  component_eq : ∀ source channel, channel.group = group →
    (first.level source).component channel = (second.level source).component channel

/-- Stores that agree on every group remember the same record. -/
theorem record_eq_of_agreeOn {first second : Store}
    (agree : ∀ group, first.AgreeOn group second) : first.record = second.record := by
  have sameLevel (source : Source) : first.level source = second.level source := by
    apply Level.ext_component
    intro channel
    exact (agree channel.group).component_eq source channel rfl
  have sameVersion := (agree .color).version_eq
  have sameExternal : first.record.external = second.record.external := sameLevel .external
  have sameButton : first.record.button = second.record.button := sameLevel .button
  calc
    first.record = ⟨first.record.version, first.record.external, first.record.button⟩ := rfl
    _ = second.record := by rw [sameVersion, sameExternal, sameButton]

namespace AgreeOn

variable {group : Group} {first second third : Store}

theorem symm (agree : first.AgreeOn group second) : second.AgreeOn group first where
  first_loaded := agree.second_loaded
  second_loaded := agree.first_loaded
  version_eq := agree.version_eq.symm
  component_eq source channel inside := (agree.component_eq source channel inside).symm

theorem trans (agree : first.AgreeOn group second) (next : second.AgreeOn group third) :
    first.AgreeOn group third where
  first_loaded := agree.first_loaded
  second_loaded := next.second_loaded
  version_eq := agree.version_eq.trans next.version_eq
  component_eq source channel inside :=
    (agree.component_eq source channel inside).trans (next.component_eq source channel inside)

theorem save (agree : first.AgreeOn group second) (source : Source) (target : Group)
    (level : Level) :
    (first.save source target level).value.2.AgreeOn group
      (second.save source target level).value.2 := by
  obtain ⟨firstRecord, firstLoaded⟩ := save_value_of_loaded agree.first_loaded source target level
  obtain ⟨secondRecord, secondLoaded⟩ :=
    save_value_of_loaded agree.second_loaded source target level
  refine ⟨firstLoaded, secondLoaded, ?_, ?_⟩
  · rw [firstRecord, secondRecord, Record.version_remember, Record.version_remember,
      agree.version_eq]
  · intro asked channel inside
    have before := agree.component_eq asked channel inside
    simp only [Store.level] at before
    rw [Store.level, Store.level, firstRecord, secondRecord, Record.component_level_remember,
      Record.component_level_remember, before]

/-- A level that is remembered for another group is none of this group's. -/
theorem save_of_ne (agree : first.AgreeOn group second) (source : Source) {other : Group}
    (different : other ≠ group) (level : Level) :
    (first.save source other level).value.2.AgreeOn group second := by
  obtain ⟨record, loaded⟩ := save_value_of_loaded agree.first_loaded source other level
  refine ⟨loaded, agree.second_loaded, ?_, ?_⟩
  · rw [record, Record.version_remember, agree.version_eq]
  · intro asked channel inside
    have outside : ¬ (asked = source ∧ channel.group = other) := by
      rintro ⟨_, same⟩
      exact different (same.symm.trans inside)
    rw [Store.level, record, Record.component_level_remember, if_neg outside]
    exact agree.component_eq asked channel inside

end AgreeOn

end Store

namespace Lamp

variable {δ : Type}

/-- Two lamps of one configuration cannot be told apart by what they have for a group. Their memories
and radios may differ in everything. -/
structure AgreeOn (group : Group) (first second : Lamp δ) : Prop where
  config_eq : first.config = second.config
  engine : first.engine.AgreeOn group second.engine
  store : first.store.AgreeOn group second.store

namespace AgreeOn

variable {group : Group} {first second third : Lamp δ}

theorem symm (agree : first.AgreeOn group second) : second.AgreeOn group first :=
  ⟨agree.config_eq.symm, agree.engine.symm, agree.store.symm⟩

theorem trans (agree : first.AgreeOn group second) (next : second.AgreeOn group third) :
    first.AgreeOn group third :=
  ⟨agree.config_eq.trans next.config_eq, agree.engine.trans next.engine,
    agree.store.trans next.store⟩

/-- A lamp agrees with itself as soon as its record is read. -/
theorem refl {lamp : Lamp δ} (loaded : lamp.store.loaded = true) (group : Group) :
    lamp.AgreeOn group lamp :=
  ⟨rfl, .refl lamp.engine, ⟨loaded, loaded, rfl, fun _ _ _ => rfl⟩⟩

end AgreeOn

/-- Two runs end in agreement on a group, and have told its channels and reported from its sensor the
same things in the same order. -/
structure Alike (group : Group) (first second : Traced Event (Lamp δ)) : Prop where
  agree : first.value.AgreeOn group second.value
  commands_eq : Event.commandsTo group first.events = Event.commandsTo group second.events
  reports_eq : Event.reportsOf (first.value.config.sensor group) first.events =
    Event.reportsOf (first.value.config.sensor group) second.events

namespace Alike

variable {group : Group} {first second third : Traced Event (Lamp δ)}

theorem symm (alike : Alike group first second) : Alike group second first where
  agree := alike.agree.symm
  commands_eq := alike.commands_eq.symm
  reports_eq := by
    rw [← alike.agree.config_eq]
    exact alike.reports_eq.symm

theorem trans (alike : Alike group first second) (next : Alike group second third) :
    Alike group first third where
  agree := alike.agree.trans next.agree
  commands_eq := alike.commands_eq.trans next.commands_eq
  reports_eq := by
    have nextReports := next.reports_eq
    rw [← alike.agree.config_eq] at nextReports
    exact alike.reports_eq.trans nextReports

theorem bind {firstNext secondNext : Lamp δ → Traced Event (Lamp δ)}
    (alike : Alike group first second)
    (next : Alike group (firstNext first.value) (secondNext second.value))
    (kept : (firstNext first.value).value.config = first.value.config) :
    Alike group (first >>= firstNext) (second >>= secondNext) where
  agree := next.agree
  commands_eq := by
    rw [Traced.bind_events, Traced.bind_events, Event.commandsTo_append,
      Event.commandsTo_append, alike.commands_eq, next.commands_eq]
  reports_eq := by
    have reports := alike.reports_eq
    rw [← kept] at reports
    rw [Traced.bind_events, Traced.bind_events, Event.reportsOf_append, Event.reportsOf_append,
      Traced.bind_value, reports, next.reports_eq]

end Alike

section Operations

variable [ChannelDriver δ] {group : Group} {first second : Lamp δ}

/-- An operation on a group has the same things to say in two lamps that agree on the group. -/
theorem AgreeOn.dispatchesOf_eq (agree : first.AgreeOn group second) (now : Nat) {op : Op}
    (onGroup : op.target? = some group) : first.dispatchesOf now op = second.dispatchesOf now op := by
  cases op with
  | boot | advance =>
      cases onGroup
  | limit source target level | play target transition | off target =>
      simp only [dispatchesOf, settleDispatches, agree.config_eq]
  | on target source =>
      cases onGroup
      have commandsEq := Fixture.fadeCommands_congr (agree.store.component_eq source)
        first.config.fadeTimeMs
      rw [dispatchesOf, dispatchesOf, settleDispatches, settleDispatches, commandsEq,
        agree.config_eq]

/-- The same is done to the group in both lamps. -/
theorem AgreeOn.agree_apply (agree : first.AgreeOn group second) (now : Nat) {op : Op}
    (concerns : op.concerns group = true) (noBoot : op ≠ .boot) :
    (first.apply now op).value.AgreeOn group (second.apply now op).value := by
  have settled {level other : Level}
      (same : ∀ channel, channel.group = group →
        level.component channel = other.component channel) :
      (first.engine.settled now group level first.config.fadeTimeMs).AgreeOn group
        (second.engine.settled now group other second.config.fadeTimeMs) := by
    rw [agree.config_eq]
    exact agree.engine.settled now same _
  cases op with
  | boot =>
      exact absurd rfl noBoot
  | limit source target level =>
      obtain rfl : target = group := of_decide_eq_true concerns
      rw [Lamp.apply, Lamp.apply, limit_value, limit_value]
      exact ⟨agree.config_eq, settled fun _ _ => rfl, agree.store.save source target level⟩
  | play target transition =>
      obtain rfl : target = group := of_decide_eq_true concerns
      rw [Lamp.apply, Lamp.apply, play_value, play_value]
      exact ⟨agree.config_eq, agree.engine.launch now _, agree.store⟩
  | off target =>
      obtain rfl : target = group := of_decide_eq_true concerns
      rw [Lamp.apply, Lamp.apply, off, off, settle_value, settle_value]
      exact ⟨agree.config_eq, settled fun _ _ => rfl, agree.store⟩
  | on target source =>
      obtain rfl : target = group := of_decide_eq_true concerns
      rw [Lamp.apply, Lamp.apply, on, on, settle_value, settle_value]
      exact ⟨agree.config_eq, settled (agree.store.component_eq source), agree.store⟩
  | advance =>
      exact ⟨agree.config_eq, agree.engine.advance now, agree.store⟩

/-- An operation that concerns a group does the same to it in two lamps that agree on it. -/
theorem AgreeOn.apply (agree : first.AgreeOn group second) (now : Nat) {op : Op}
    (concerns : op.concerns group = true) (noBoot : op ≠ .boot) :
    Alike group (first.apply now op) (second.apply now op) := by
  have agreeAfter := agree.agree_apply now concerns noBoot
  cases target : op.target? with
  | some asked =>
      obtain rfl : asked = group := by
        simpa [Op.concerns, target] using concerns
      have said := agree.dispatchesOf_eq now target
      rw [← dispatches_apply, ← dispatches_apply] at said
      refine ⟨agreeAfter, ?_, ?_⟩
      · rw [Event.commandsTo, Event.heard, said]
        rfl
      · rw [Event.reportsOf, Event.heard, said]
        rfl
  | none =>
      obtain rfl : op = .advance := by
        cases op <;> simp_all [Op.target?]
      refine ⟨agreeAfter, ?_, ?_⟩
      · rw [Lamp.apply, Lamp.apply, advance_events, advance_events]
        exact agree.engine.commandsTo_advance now
      · exact (first.heard_advance now fun _ _ => rfl).trans
          (second.heard_advance now fun _ _ => rfl).symm

theorem AgreeOn.store_apply_of_ne (agree : first.AgreeOn group second) (now : Nat) {op : Op}
    {other : Group} (elsewhere : op.target? = some other) (different : other ≠ group) :
    (first.apply now op).value.store.AgreeOn group second.store := by
  cases op with
  | boot | advance =>
      cases elsewhere
  | limit source target level =>
      cases elsewhere
      rw [Lamp.apply, limit_value]
      exact agree.store.save_of_ne source different level
  | play target transition =>
      rw [Lamp.apply, play_value]
      exact agree.store
  | off target =>
      rw [Lamp.apply, off, settle_value]
      exact agree.store
  | on target source =>
      rw [Lamp.apply, on, settle_value]
      exact agree.store

/-- An operation on another group is as good as none. -/
theorem AgreeOn.apply_of_ne (agree : first.AgreeOn group second)
    (distinct : first.config.colorSensor ≠ first.config.whiteSensor) (now : Nat) {op : Op}
    {other : Group} (elsewhere : op.target? = some other) (different : other ≠ group) :
    Alike group (first.apply now op) (pure second) where
  agree :=
    ⟨(first.config_apply now op).trans agree.config_eq,
      (first.agreeOn_apply_of_ne now elsewhere different).trans agree.engine,
      agree.store_apply_of_ne now elsewhere different⟩
  commands_eq := first.commandsTo_apply_of_ne now elsewhere different
  reports_eq := by
    rw [config_apply]
    exact first.reportsOf_apply_of_ne now elsewhere (Config.sensor_ne distinct different)

/-- A history leaves a group as the operations that concern it do. -/
theorem AgreeOn.replay_share (agree : first.AgreeOn group second)
    (distinct : first.config.colorSensor ≠ first.config.whiteSensor) {history : List (Nat × Op)}
    (noBoot : ∀ timed ∈ history, timed.2 ≠ .boot) :
    Alike group (first.replay history) (second.replay (share group history)) := by
  induction history generalizing first second with
  | nil =>
      exact ⟨agree, rfl, rfl⟩
  | cons timed rest inductionHypothesis =>
      have stillDistinct : (first.apply timed.1 timed.2).value.config.colorSensor ≠
          (first.apply timed.1 timed.2).value.config.whiteSensor := by
        rwa [config_apply]
      have restNoBoot : ∀ timed ∈ rest, timed.2 ≠ .boot :=
        fun later member => noBoot later (List.mem_cons_of_mem timed member)
      have kept := (first.apply timed.1 timed.2).value.config_replay rest
      rw [replay_cons]
      by_cases concerns : timed.2.concerns group = true
      · have head := agree.apply timed.1 concerns (noBoot timed List.mem_cons_self)
        rw [share, List.filter_cons, if_pos concerns, replay_cons]
        exact head.bind (inductionHypothesis head.agree stillDistinct restNoBoot) kept
      · obtain ⟨other, elsewhere, different⟩ := Op.exists_of_not_concerns concerns
        have head := agree.apply_of_ne distinct timed.1 elsewhere different
        rw [share, List.filter_cons, if_neg concerns]
        have whole : Alike group (first.apply timed.1 timed.2 >>= fun next => next.replay rest)
            (pure second >>= fun next => next.replay (share group rest)) :=
          head.bind (inductionHypothesis head.agree stillDistinct restNoBoot) kept
        rwa [pure_bind] at whole

/-- Operations on different groups that are made at one time can be swapped. -/
theorem agreeOn_replay_swap {lamp : Lamp δ} (loaded : lamp.store.loaded = true)
    (distinct : lamp.config.colorSensor ≠ lamp.config.whiteSensor) (now : Nat)
    {colorOp whiteOp : Op} (color : colorOp.target? = some .color)
    (white : whiteOp.target? = some .white) (group : Group) :
    (lamp.replay [(now, colorOp), (now, whiteOp)]).value.AgreeOn group
      (lamp.replay [(now, whiteOp), (now, colorOp)]).value := by
  have colorNoBoot := Op.ne_boot_of_target? color
  have whiteNoBoot := Op.ne_boot_of_target? white
  have same : share group [(now, colorOp), (now, whiteOp)] =
      share group [(now, whiteOp), (now, colorOp)] := by
    cases group <;> simp [share, Op.concerns, color, white]
  have colorFirstNoBoot : ∀ timed ∈ [(now, colorOp), (now, whiteOp)], timed.2 ≠ .boot := by
    simp [colorNoBoot, whiteNoBoot]
  have whiteFirstNoBoot : ∀ timed ∈ [(now, whiteOp), (now, colorOp)], timed.2 ≠ .boot := by
    simp [colorNoBoot, whiteNoBoot]
  have agree := AgreeOn.refl loaded group
  have colorFirst := agree.replay_share distinct colorFirstNoBoot
  have whiteFirst := agree.replay_share distinct whiteFirstNoBoot
  rw [← same] at whiteFirst
  exact colorFirst.agree.trans whiteFirst.agree.symm

end Operations

/-- Take two runs that start in agreement on a group, with all records read, and that become the same
when the operations on the other group are left out. The memories and radios of the two lamps, and with
them the writes and sends that fail, need not have anything in common. Then the group ends with the
same drivers, the same run and the same levels of each source, and on the way its channels get the same
commands and its sensor makes the same reports. In particular, what is done to the two groups at one
time can be done in either order, with the same engine and the same record in the end. -/
theorem groups_are_isolated [ChannelDriver δ] {group : Group} {first second : Lamp δ}
    {firstHistory secondHistory : List (Nat × Op)}
    (agree : first.AgreeOn group second)
    (distinct : first.config.colorSensor ≠ first.config.whiteSensor)
    (firstNoBoot : ∀ timed ∈ firstHistory, timed.2 ≠ .boot)
    (secondNoBoot : ∀ timed ∈ secondHistory, timed.2 ≠ .boot)
    (same : share group firstHistory = share group secondHistory) :
    let firstRun := first.replay firstHistory
    let secondRun := second.replay secondHistory
    let sensor := first.config.sensor group
    firstRun.value.AgreeOn group secondRun.value ∧
    Event.commandsTo group firstRun.events = Event.commandsTo group secondRun.events ∧
    Event.reportsOf sensor firstRun.events = Event.reportsOf sensor secondRun.events ∧
    ∀ now colorOp whiteOp, colorOp.target? = some .color → whiteOp.target? = some .white →
      let colorFirst := (first.replay [(now, colorOp), (now, whiteOp)]).value
      let whiteFirst := (first.replay [(now, whiteOp), (now, colorOp)]).value
      colorFirst.engine = whiteFirst.engine ∧
        colorFirst.store.record = whiteFirst.store.record := by
  intro firstRun secondRun sensor
  have config : firstRun.value.config = first.config := first.config_replay firstHistory
  have alike : Alike group firstRun secondRun := by
    have firstShare := (AgreeOn.refl agree.store.first_loaded group).replay_share distinct firstNoBoot
    have secondShare := agree.symm.replay_share (agree.config_eq ▸ distinct) secondNoBoot
    rw [← same] at secondShare
    exact firstShare.trans secondShare.symm
  have reports := alike.reports_eq
  rw [config] at reports
  refine ⟨alike.agree, alike.commands_eq, reports, ?_⟩
  intro now colorOp whiteOp color white colorFirst whiteFirst
  have swapped := agreeOn_replay_swap agree.store.first_loaded distinct now color white
  exact ⟨Engine.eq_of_agreeOn fun group => (swapped group).engine,
    Store.record_eq_of_agreeOn fun group => (swapped group).store⟩

/-- White does not notice whether the colour group loops and is switched off in between, nor whether
the memory and the radio work. -/
theorem white_is_isolated_from_color :
    let fader := (Fader.start { maxDuty := 255, faults := .always false }).value
    let eeprom (fails : Bool) : Eeprom :=
      { bytes := Array.replicate 9 255, readFaults := .always fails, writeFaults := .always fails }
    let lamp (fails : Bool) : Lamp Fader :=
      { config := {}
        engine := .ofFixture ⟨fader, fader, fader, fader⟩
        store := { offset := 0, eeprom := eeprom fails, record := .factory, loaded := true }
        radio := ⟨[], .always fails⟩ }
    let loop : Transition :=
      { start := .ofColor 0 16 255, stop := .full, durationMs := 40, looping := true }
    let limit : Op := .limit .button .white (.ofWhite 9)
    let busy : List (Nat × Op) :=
      [(0, .play .color loop), (5, limit), (50, .advance), (60, .off .color), (99, .advance)]
    let calm : List (Nat × Op) := [(5, limit), (50, .advance), (99, .advance)]
    (lamp false).AgreeOn .white (lamp true) ∧
      (lamp false).config.colorSensor ≠ (lamp false).config.whiteSensor ∧
      (∀ timed ∈ busy, timed.2 ≠ .boot) ∧ (∀ timed ∈ calm, timed.2 ≠ .boot) ∧
      share .white busy = share .white calm ∧
      ((lamp false).replay busy).value.engine.fixture.value .blue = 252 ∧
      ((lamp true).replay calm).value.engine.fixture.value .blue = 0 ∧
      ((lamp false).replay busy).value.AgreeOn .white ((lamp true).replay calm).value := by
  intro fader eeprom lamp loop limit busy calm
  have agree : (lamp false).AgreeOn .white (lamp true) :=
    ⟨rfl, .refl _, ⟨rfl, rfl, rfl, fun _ _ _ => rfl⟩⟩
  have distinct : (lamp false).config.colorSensor ≠ (lamp false).config.whiteSensor := by decide
  have busyNoBoot : ∀ timed ∈ busy, timed.2 ≠ .boot := by decide
  have calmNoBoot : ∀ timed ∈ calm, timed.2 ≠ .boot := by decide
  have same : share .white busy = share .white calm := by decide
  have law := groups_are_isolated agree distinct busyNoBoot calmNoBoot same
  exact ⟨agree, distinct, busyNoBoot, calmNoBoot, same, by decide, by decide, law.1⟩

end Lamp

end MeshLight
