import MeshLight.Traced
import Mathlib.Data.List.Induction

/-!
Runs that grow at their end. A run is a monadic fold, and what is known of it is mostly known of its
last step: these are the equations for one more step, and a way to speak of the latest step of a kind.
-/

namespace MeshLight

section Answers

variable {ι α : Type} (ask : ι → Option α)

/-- A question put to one more item adds the answer to that. -/
theorem filterMap_cons_toList (item : ι) (items : List ι) :
    (item :: items).filterMap ask = (ask item).toList ++ items.filterMap ask := by
  cases answered : ask item <;> simp [answered]

theorem filterMap_concat_toList (items : List ι) (item : ι) :
    (items ++ [item]).filterMap ask = items.filterMap ask ++ (ask item).toList := by
  rw [List.filterMap_append, filterMap_cons_toList, List.filterMap_nil, List.append_nil]

end Answers

namespace Traced

variable {ε σ ι α : Type} (step : σ → ι → Traced ε σ)

theorem foldlM_concat (state : σ) (items : List ι) (item : ι) :
    (items ++ [item]).foldlM step state =
      items.foldlM step state >>= fun reached => step reached item := by
  simp

/-- The latest answer that a question about each step of a run gave. It is put to the state before the
step. -/
def latest (ask : σ → ι → Option α) (state : σ) : List ι → Option α
  | [] => none
  | item :: rest => (latest ask (step state item).value rest).or (ask state item)

theorem latest_concat (ask : σ → ι → Option α) (state : σ) (items : List ι) (item : ι) :
    latest step ask state (items ++ [item]) =
      (ask (items.foldlM step state).value item).or (latest step ask state items) := by
  induction items generalizing state with
  | nil =>
      simp [latest]
  | cons head rest inductionHypothesis =>
      rw [List.cons_append, latest, inductionHypothesis, latest, Option.or_assoc]
      rfl

/-- What a step keeps, given the latest answer before it and after it, a whole run keeps. -/
theorem latest_induction {ask : σ → ι → Option α} {state : σ} {motive : σ → Option α → Prop}
    (start : motive state none) (items : List ι)
    (next : ∀ reached answer, ∀ item ∈ items, motive reached answer →
      motive (step reached item).value ((ask reached item).or answer)) :
    motive (items.foldlM step state).value (latest step ask state items) := by
  induction items using List.reverseRecOn with
  | nil =>
      exact start
  | append_singleton items item inductionHypothesis =>
      have before := inductionHypothesis fun reached answer earlier member =>
        next reached answer earlier (List.mem_append_left [item] member)
      rw [foldlM_concat, latest_concat]
      exact next _ _ item (List.mem_append_right items (List.mem_singleton_self item)) before

end Traced

end MeshLight
