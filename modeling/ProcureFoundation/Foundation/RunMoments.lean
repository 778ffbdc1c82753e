import Mathlib.Data.List.Induction
import ProcureFoundation.Foundation.EveryStep

/-!
# Moments of a run

What has been true once along a run stays so when the run goes on. An invariant of the runs whose
every step has a property is proved one step at a time, from the whole run before it.
-/

namespace ProcureFoundation

variable {σ α : Type*} (step : σ → α → σ)

def runFrom (start : σ) (actions : List α) : σ := actions.foldl step start

/-- The property held in one of the states of the run. -/
def Once (P : σ → Prop) (start : σ) (actions : List α) : Prop :=
  ∃ past, past <+: actions ∧ P (runFrom step start past)

/-- The property held of one of the actions of the run and those before it. -/
def OneStep (R : List α → α → Prop) (actions : List α) : Prop :=
  ∃ past action, past ++ [action] <+: actions ∧ R past action

variable {step} {P : σ → Prop} {R : σ → α → Prop} {start : σ} {actions later : List α}
  {action : α}

theorem runFrom_append :
    runFrom step start (actions ++ later) = runFrom step (runFrom step start actions) later :=
  List.foldl_append

theorem runFrom_concat :
    runFrom step start (actions ++ [action]) = step (runFrom step start actions) action :=
  List.foldl_append

theorem Once.now (h : P (runFrom step start actions)) : Once step P start actions :=
  ⟨actions, List.prefix_rfl, h⟩

theorem Once.append (h : Once step P start actions) : Once step P start (actions ++ later) := by
  obtain ⟨past, hPast, hP⟩ := h
  exact ⟨past, hPast.trans (List.prefix_append _ _), hP⟩

theorem OneStep.now {R : List α → α → Prop} (h : R actions action) :
    OneStep R (actions ++ [action]) :=
  ⟨actions, action, List.prefix_rfl, h⟩

theorem OneStep.append {R : List α → α → Prop} (h : OneStep R actions) :
    OneStep R (actions ++ later) := by
  obtain ⟨past, action, hPast, hR⟩ := h
  exact ⟨past, action, hPast.trans (List.prefix_append _ _), hR⟩

theorem EveryStep.append_iff : EveryStep step R start (actions ++ later) ↔
    EveryStep step R start actions ∧ EveryStep step R (runFrom step start actions) later := by
  induction actions generalizing start with
  | nil => exact (and_iff_right trivial).symm
  | cons first actions ih =>
    rw [List.cons_append, EveryStep, EveryStep, ih, and_assoc]
    rfl

theorem EveryStep.concat_iff : EveryStep step R start (actions ++ [action]) ↔
    EveryStep step R start actions ∧ R (runFrom step start actions) action := by
  rw [append_iff]
  exact and_congr_right fun _ => and_iff_left trivial

theorem EveryStep.run_inv {Inv : List α → Prop} (hNil : Inv [])
    (hConcat : ∀ actions action, R (runFrom step start actions) action → Inv actions →
      Inv (actions ++ [action]))
    (hRun : EveryStep step R start actions) : Inv actions := by
  induction actions using List.reverseRecOn with
  | nil => exact hNil
  | append_singleton actions action ih =>
    obtain ⟨hBefore, hAction⟩ := EveryStep.concat_iff.mp hRun
    exact hConcat actions action hAction (ih hBefore)

end ProcureFoundation
