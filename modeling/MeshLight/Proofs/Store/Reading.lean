import MeshLight.Proofs.Replay
import MeshLight.Proofs.Store.Calls

/-!
Which events lead to which state of the store. Nothing is written before it was read, and the store
counts as loaded exactly when a read succeeded.
-/

namespace MeshLight

namespace Store

/-! ## Runs -/

def step (store : Store) (op : Op) : Traced Event Store :=
  Prod.snd <$> store.apply op

theorem replay_concat (store : Store) (history : List Op) (op : Op) :
    store.replay (history ++ [op]) =
      store.replay history >>= fun reached => Prod.snd <$> reached.apply op :=
  Traced.foldlM_concat step store history op

/-- No load follows the first read that succeeded. -/
def LoadsOnce (store : Store) (history : List Op) : Prop :=
  ∀ earlier later, history = earlier ++ .load :: later →
    .read store.offset true ∉ (store.replay earlier).events

theorem LoadsOnce.of_concat {store : Store} {history : List Op} {op : Op}
    (loadsOnce : LoadsOnce store (history ++ [op])) :
    LoadsOnce store history ∧
      (op = .load → .read store.offset true ∉ (store.replay history).events) := by
  constructor
  · intro earlier later split
    exact loadsOnce earlier (later ++ [op]) (by simp [split])
  · rintro rfl
    exact loadsOnce history [] rfl

theorem loadsOnce_load_cons {store : Store} {saves : List Op} (only : .load ∉ saves) :
    LoadsOnce store (.load :: saves) := by
  intro earlier later split
  cases earlier with
  | nil =>
      simp [replay]
  | cons head earlier =>
      rw [List.cons_append, List.cons.injEq] at split
      exact absurd (by simp [split.2]) only

/-! ## Reads before writes -/

/-- Nothing is written anywhere before it was read there. -/
def ReadsFirst (events : List Event) : Prop :=
  ∀ before offset image succeeded after,
    events = before ++ .write offset image succeeded :: after → .read offset true ∈ before

theorem readsFirst_nil : ReadsFirst [] := by
  intro before offset image succeeded after split
  simp at split

theorem ReadsFirst.append {first second : List Event} (reads : ReadsFirst first)
    (later : ∀ before offset image succeeded after,
      second = before ++ .write offset image succeeded :: after →
        .read offset true ∈ first ++ before) :
    ReadsFirst (first ++ second) := by
  intro before offset image succeeded after split
  rcases List.append_eq_append_iff.1 split with ⟨middle, rfl, inSecond⟩ | ⟨middle, inFirst, rest⟩
  · exact later middle offset image succeeded after inSecond
  · cases middle with
    | nil =>
        rw [List.append_nil] at inFirst
        have read := later [] offset image succeeded after rest.symm
        rwa [List.append_nil, inFirst] at read
    | cons head middle =>
        rw [List.cons_append, List.cons.injEq] at rest
        rw [← rest.1] at inFirst
        exact reads before offset image succeeded middle inFirst

theorem ReadsFirst.append_of_no_write {first second : List Event} (reads : ReadsFirst first)
    (quiet : ∀ event ∈ second, ∀ offset image succeeded,
      event ≠ .write offset image succeeded) :
    ReadsFirst (first ++ second) := by
  apply reads.append
  intro before offset image succeeded after split
  have member : .write offset image succeeded ∈ second := by
    simp [split]
  exact absurd rfl (quiet _ member offset image succeeded)

theorem ReadsFirst.append_write {events : List Event} {offset : UInt32} {image : Record.Image}
    {succeeded : Bool}
    (reads : ReadsFirst events)
    (read : .read offset true ∈ events) :
    ReadsFirst (events ++ [.write offset image succeeded]) := by
  apply reads.append
  intro before otherOffset otherImage otherSucceeded after split
  cases before with
  | nil =>
      cases split
      rwa [List.append_nil]
  | cons head before =>
      simp at split

theorem Readies.quiet {store ready : Store} {events : List Event}
    (readies : Readies store ready events) :
    ∀ event ∈ events, ∀ offset image succeeded, event ≠ .write offset image succeeded := by
  intro event member offset image succeeded
  cases readies with
  | before =>
      cases member
  | now =>
      rcases List.mem_cons.1 member with rfl | note
      · simp
      · obtain ⟨record, rfl⟩ := exists_log_of_mem_notes note
        simp

/-- What the events of a run tell of the store that it reached. -/
structure Accounts (offset : UInt32) (events : List Event) (store : Store) : Prop where
  offset_eq : store.offset = offset
  loaded_iff : store.loaded = true ↔ .read offset true ∈ events
  readsFirst : ReadsFirst events

namespace Accounts

variable {offset : UInt32} {events later : List Event} {store ready : Store}

theorem start (eeprom : Eeprom) (offset : UInt32) : Accounts offset [] (ofEeprom eeprom offset) where
  offset_eq := rfl
  loaded_iff := by simp [ofEeprom]
  readsFirst := readsFirst_nil

theorem readies (accounts : Accounts offset events store) (readies : Readies store ready later) :
    Accounts offset (events ++ later) ready where
  offset_eq := readies.ready_offset.trans accounts.offset_eq
  loaded_iff := by
    refine iff_of_true readies.ready_loaded ?_
    cases readies with
    | before loaded =>
        exact List.mem_append_left [] (accounts.loaded_iff.1 loaded)
    | now =>
        rw [accounts.offset_eq]
        exact List.mem_append_right events List.mem_cons_self
  readsFirst := accounts.readsFirst.append_of_no_write readies.quiet

theorem commit (accounts : Accounts offset events store) (loaded : store.loaded = true)
    (source : Source) (group : Group) (level : Level) :
    Accounts offset (events ++ (store.commit source group level).events)
      (store.commit source group level).value.2 := by
  have read := accounts.loaded_iff.1 loaded
  rcases commit_cases store source group level with
    ⟨eeprom, _, committed⟩ | ⟨eeprom, _, committed⟩
  all_goals
    rw [committed, accounts.offset_eq]
    exact {
      offset_eq := rfl
      loaded_iff := iff_of_true loaded (List.mem_append_left _ read)
      readsFirst := accounts.readsFirst.append_write read }

theorem apply (accounts : Accounts offset events store) {op : Op}
    (fresh : op = .load → store.loaded = false) :
    Accounts offset (events ++ (store.apply op).events) (store.apply op).value.2 := by
  rcases apply_cases fresh with ⟨unread, eeprom, _, refused⟩ | ⟨ready, now, becomes, done⟩
  · rw [refused]
    refine ⟨accounts.offset_eq, ?_, accounts.readsFirst.append_of_no_write (by simp)⟩
    simpa using accounts.loaded_iff
  · have accountsReady := accounts.readies becomes
    rcases done with ⟨rfl, loaded⟩ | ⟨source, group, level, rfl, saved⟩
    · rw [loaded]
      exact accountsReady
    · rw [saved, ← List.append_assoc]
      exact accountsReady.commit becomes.ready_loaded source group level

end Accounts

theorem accounts_replay {eeprom : Eeprom} {offset : UInt32} {history : List Op}
    (loadsOnce : LoadsOnce (ofEeprom eeprom offset) history) :
    Accounts offset ((ofEeprom eeprom offset).replay history).events
      ((ofEeprom eeprom offset).replay history).value := by
  induction history using List.reverseRecOn with
  | nil =>
      exact .start eeprom offset
  | append_singleton history op inductionHypothesis =>
      have before := inductionHypothesis loadsOnce.of_concat.1
      rw [replay_concat, Traced.bind_events, Traced.bind_value, Traced.map_events,
        Traced.map_value]
      refine before.apply fun isLoad => ?_
      have unread := loadsOnce.of_concat.2 isLoad
      exact eq_false_of_ne_true fun loaded => unread (before.loaded_iff.1 loaded)

/-- A load that is still allowed finds the store as it was made. -/
theorem LoadsOnce.fresh {eeprom : Eeprom} {offset : UInt32} {history : List Op} {op : Op}
    (loadsOnce : LoadsOnce (ofEeprom eeprom offset) (history ++ [op])) :
    op = .load → ((ofEeprom eeprom offset).replay history).value.loaded = false := by
  intro isLoad
  have accounts := accounts_replay loadsOnce.of_concat.1
  have unread := loadsOnce.of_concat.2 isLoad
  exact eq_false_of_ne_true fun loaded => unread (accounts.loaded_iff.1 loaded)

end Store

end MeshLight
