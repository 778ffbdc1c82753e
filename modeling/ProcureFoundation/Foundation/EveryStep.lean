import Mathlib.Tactic.Common

/-!
# Properties of every step

A property of a state and a step holds along a run when it holds of each step and the state before
it. Two properties hold along the same runs when an invariant makes them agree and the first keeps
it.
-/

namespace ProcureFoundation

variable {σ α : Type*} (step : σ → α → σ)

def EveryStep (P : σ → α → Prop) : σ → List α → Prop
  | _, [] => True
  | state, action :: actions => P state action ∧ EveryStep P (step state action) actions

variable {step} {P Q : σ → α → Prop} {Inv : σ → Prop} {state : σ} {actions : List α}

theorem EveryStep.congr_of_inv (hIff : ∀ state action, Inv state → (P state action ↔ Q state action))
    (hStep : ∀ state action, Inv state → P state action → Inv (step state action))
    (hState : Inv state) : EveryStep step P state actions ↔ EveryStep step Q state actions := by
  induction actions generalizing state with
  | nil => exact Iff.rfl
  | cons action actions ih =>
    rw [EveryStep, EveryStep, ← hIff state action hState]
    exact and_congr_right fun hP => ih (hStep state action hState hP)

theorem EveryStep.of_inv (hP : ∀ state action, Inv state → P state action)
    (hStep : ∀ state action, Inv state → Inv (step state action)) (hState : Inv state) :
    EveryStep step P state actions := by
  induction actions generalizing state with
  | nil => trivial
  | cons action actions ih => exact ⟨hP state action hState, ih (hStep state action hState)⟩

theorem EveryStep.congr (h : ∀ state action, P state action ↔ Q state action) :
    EveryStep step P state actions ↔ EveryStep step Q state actions :=
  @EveryStep.congr_of_inv σ α step P Q (fun _ => True) state actions
    (fun state action _ => h state action)
    (fun _ _ _ _ => trivial) trivial

end ProcureFoundation
