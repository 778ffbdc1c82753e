import ProcureFoundation.Foundation.ExactDecimals
import ProcureFoundation.Foundation.Outcomes

/-!
# Running totals

Numbers that are added one after the other are rounded by the arithmetic context at every step.
Where no total on the way is rounded the result is the sum, in whatever order the numbers come.
-/

namespace ProcureFoundation

open Outcome

namespace Number

/-- The context returns the number as it is. -/
def Representable (q : ℚ) : Prop := ofContext q = .ok (.finite q)

instance (q : ℚ) : Decidable (Representable q) :=
  decidable_of_iff ((ofContext q).toOption = some (.finite q)) (by
    unfold Representable
    cases ofContext q with
    | error message => exact iff_of_false (fun h => by cases h) fun h => by cases h
    | ok value => exact ⟨fun h => congrArg Except.ok (Option.some.inj h), fun h =>
      congrArg some (Except.ok.inj h)⟩)

def sum (amounts : List Number) : Except String Number := amounts.foldlM add (.finite 0)

variable {q start : ℚ} {scale : ℕ}

theorem representable_value {x : FixedPoint scale} (h : x.Digits) : Representable x.value :=
  ofContext_value h

theorem add_of_representable {x y : ℚ} (h : Representable (x + y)) :
    (finite x).add (.finite y) = .ok (.finite (x + y)) := h

end Number

/-- Every total on the way has the property. -/
def EveryTotal (P : ℚ → Prop) (start : ℚ) : List ℚ → Prop
  | [] => True
  | amount :: amounts => P (start + amount) ∧ EveryTotal P (start + amount) amounts

namespace EveryTotal

variable {start : ℚ} {amounts : List ℚ}

instance decidable (P : ℚ → Prop) [DecidablePred P] (start : ℚ) :
    (amounts : List ℚ) → Decidable (EveryTotal P start amounts)
  | [] => isTrue trivial
  | amount :: amounts =>
    let _ := decidable P (start + amount) amounts
    inferInstanceAs (Decidable (P (start + amount) ∧ EveryTotal P (start + amount) amounts))

theorem foldlM_add (h : EveryTotal Number.Representable start amounts) :
    (amounts.map Number.finite).foldlM Number.add (.finite start) =
      .ok (.finite (start + amounts.sum)) := by
  induction amounts generalizing start with
  | nil =>
    rw [List.sum_nil, add_zero]
    rfl
  | cons amount amounts ih =>
    rw [List.map_cons, List.foldlM_cons, bind_of_eq_ok (Number.add_of_representable h.1), ih h.2,
      List.sum_cons, add_assoc]

theorem sum_eq (h : EveryTotal Number.Representable 0 amounts) :
    Number.sum (amounts.map Number.finite) = .ok (.finite amounts.sum) := by
  rw [Number.sum, h.foldlM_add, zero_add]

/-- Totals of bounded numbers of one scale stay within the digits of the context. -/
theorem of_digits {scale bound count : ℕ} {start : FixedPoint scale}
    {figures : List (FixedPoint scale)} (hFigures : ∀ x ∈ figures, |x.units| ≤ bound)
    (hStart : |start.units| ≤ count * bound)
    (hDigits : (count + figures.length) * bound < 10 ^ 28) :
    EveryTotal Number.Representable start.value (figures.map FixedPoint.value) := by
  induction figures generalizing start count with
  | nil => trivial
  | cons x figures ih =>
    obtain ⟨hHead, hRest⟩ := List.forall_mem_cons.mp hFigures
    have hTotal : |(start + x).units| ≤ ((count + 1 : ℕ) : ℤ) * bound := by
      refine (abs_add_le start.units x.units).trans ((add_le_add hStart hHead).trans (le_of_eq ?_))
      push_cast
      ring
    rw [List.length_cons, add_comm figures.length 1, ← add_assoc] at hDigits
    have hBelow : (count + 1) * bound < 10 ^ 28 :=
      lt_of_le_of_lt (Nat.mul_le_mul_right _ (Nat.le_add_right _ _)) hDigits
    have hFits : (start + x).Digits := lt_of_le_of_lt hTotal (by exact_mod_cast hBelow)
    rw [List.map_cons]
    refine ⟨?_, ?_⟩
    · rw [← FixedPoint.value_add]
      exact Number.representable_value hFits
    · rw [← FixedPoint.value_add]
      exact ih hRest hTotal hDigits

end EveryTotal

end ProcureFoundation
