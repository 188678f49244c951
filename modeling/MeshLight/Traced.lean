/-!
Results that carry a trace: a value together with the events that were observed while it was
computed, in order. The value never depends on the trace, and `bind_value` and `bind_events` say how
the two parts of a sequence come from its steps. Whatever is operated at certain times is run by
`replay`.
-/

namespace MeshLight

/-- A value and the events observed on the way to it, oldest first. -/
structure Traced (ε α : Type) where
  value : α
  events : List ε
  deriving DecidableEq, Repr

namespace Traced

variable {ε φ α β σ : Type}

instance : Monad (Traced ε) where
  pure value := ⟨value, []⟩
  bind first next :=
    let second := next first.value
    ⟨second.value, first.events ++ second.events⟩

def emit (event : ε) : Traced ε Unit :=
  ⟨(), [event]⟩

def mapEvents (rename : ε → φ) (result : Traced ε α) : Traced φ α :=
  ⟨result.value, result.events.map rename⟩

@[simp]
theorem pure_value (value : α) : (pure value : Traced ε α).value = value :=
  rfl

@[simp]
theorem pure_events (value : α) : (pure value : Traced ε α).events = [] :=
  rfl

@[simp]
theorem bind_value (first : Traced ε α) (next : α → Traced ε β) :
    (first >>= next).value = (next first.value).value :=
  rfl

@[simp]
theorem bind_events (first : Traced ε α) (next : α → Traced ε β) :
    (first >>= next).events = first.events ++ (next first.value).events :=
  rfl

@[simp]
theorem map_value (f : α → β) (result : Traced ε α) :
    (f <$> result).value = f result.value :=
  rfl

@[simp]
theorem map_events (f : α → β) (result : Traced ε α) :
    (f <$> result).events = result.events :=
  List.append_nil result.events

@[simp]
theorem emit_value (event : ε) : (emit event).value = () :=
  rfl

@[simp]
theorem emit_events (event : ε) : (emit event).events = [event] :=
  rfl

@[simp]
theorem mapEvents_value (rename : ε → φ) (result : Traced ε α) :
    (result.mapEvents rename).value = result.value :=
  rfl

@[simp]
theorem mapEvents_events (rename : ε → φ) (result : Traced ε α) :
    (result.mapEvents rename).events = result.events.map rename :=
  rfl

@[ext]
theorem ext {first second : Traced ε α}
    (value : first.value = second.value) (events : first.events = second.events) :
    first = second := by
  cases first
  cases second
  cases value
  cases events
  rfl

instance : LawfulMonad (Traced ε) :=
  LawfulMonad.mk' (Traced ε)
    (fun result => Traced.ext rfl (map_events id result))
    (fun _ _ => rfl)
    (fun first _ _ => Traced.ext rfl (List.append_assoc first.events _ _))

section Runs

variable {ι : Type} (apply : σ → Nat → ι → Traced ε σ)

/-- An operation at the clock that stands beside it. -/
def timed (state : σ) (item : Nat × ι) : Traced ε σ :=
  apply state item.1 item.2

/-- Carries out operations, each at the clock that stands beside it. -/
def replay (state : σ) (history : List (Nat × ι)) : Traced ε σ :=
  history.foldlM (timed apply) state

@[simp]
theorem replay_nil (state : σ) : replay apply state [] = pure state :=
  rfl

theorem replay_cons (state : σ) (item : Nat × ι) (rest : List (Nat × ι)) :
    replay apply state (item :: rest) =
      apply state item.1 item.2 >>= fun next => replay apply next rest :=
  List.foldlM_cons

theorem replay_append (state : σ) (first second : List (Nat × ι)) :
    replay apply state (first ++ second) =
      replay apply state first >>= fun next => replay apply next second :=
  List.foldlM_append

theorem replay_concat (state : σ) (history : List (Nat × ι)) (now : Nat) (op : ι) :
    replay apply state (history ++ [(now, op)]) =
      replay apply state history >>= fun reached => apply reached now op := by
  rw [replay_append]
  simp only [replay, timed, List.foldlM_cons, List.foldlM_nil, bind_pure]

end Runs

end Traced

end MeshLight
