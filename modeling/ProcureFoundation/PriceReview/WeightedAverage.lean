import Mathlib.Algebra.BigOperators.Ring.List
import ProcureFoundation.Foundation.RoundedMeans
import ProcureFoundation.Foundation.RoundingOrder
import ProcureFoundation.Foundation.RunningTotals
import ProcureFoundation.PriceReview.Summary

/-!
# The weighted average of the increases

Numerator and denominator are kept over the lines that have a percentage, a quantity and a movement
that counts. The rounding of the arithmetic context moves the quotient by less than half of the last
decimal, so the average stays between the least and the greatest percentage; where nothing is
rounded before the quotient it is the mean.
-/

namespace ProcureFoundation.PriceReview

open Outcome

structure PriceReviewLineForSummary where
  movementType : MovementType
  percentageChange : Option Number
  annualImpact : Option Number
  annualQuantity : Option Number
  packChanged : Bool
  requiresReview : Bool
deriving DecidableEq

def weigh (totals : Number × Number) (line : PriceReviewLineForSummary) :
    Except String (Number × Number) :=
  match line.percentageChange, line.annualQuantity with
  | some change, some quantity =>
    if line.movementType.isMatched then do
      let weighted ← change.mul quantity
      let numerator ← totals.1.add weighted
      let denominator ← totals.2.add quantity
      return (numerator, denominator)
    else .ok totals
  | _, _ => .ok totals

def average (totals : Number × Number) : Except String (Option (Numeric 6)) :=
  if totals.2.isZero then .ok none
  else do
    let quotient ← totals.1.div totals.2
    let rounded ← quotient.quantize 6
    return some rounded

/-- The weighted average of any numbers; it raises where an operation of the context does. -/
def weightedAverageInContext (lines : List PriceReviewLineForSummary) :
    Except String (Option (Numeric 6)) := do
  let totals ← lines.foldlM weigh (.finite 0, .finite 0)
  average totals

namespace PriceReviewLineForSummary

variable (line : PriceReviewLineForSummary)

def isIncluded : Bool := line.percentageChange.isSome && line.annualQuantity.isSome &&
    line.movementType.isMatched

/-- The percentage and the quantity of a line that is included. -/
def term : Option (ℚ × ℚ) :=
  match line.percentageChange, line.annualQuantity with
  | some (.finite change), some (.finite quantity) =>
    if line.movementType.isMatched then some (change, quantity) else none
  | _, _ => none

/-- A percentage has six decimals and a quantity is positive, where they are present. -/
structure Weighable : Prop where
  percentage : ∀ x, line.percentageChange = some x → ∃ p : Percentage, x = p.number
  quantity : ∀ x, line.annualQuantity = some x → ∃ q : ℚ, 0 < q ∧ x = .finite q

end PriceReviewLineForSummary

open PriceReviewLineForSummary

def terms (lines : List PriceReviewLineForSummary) : List (ℚ × ℚ) := lines.filterMap term

def finiteTotals (totals : ℚ × ℚ) : Number × Number := (.finite totals.1, .finite totals.2)

def weighTerm (totals : Number × Number) (term : ℚ × ℚ) : Except String (Number × Number) := do
  let weighted ← (Number.finite term.1).mul (.finite term.2)
  let numerator ← totals.1.add weighted
  let denominator ← totals.2.add (.finite term.2)
  return (numerator, denominator)

section Terms

variable {line : PriceReviewLineForSummary} {lines : List PriceReviewLineForSummary}
  {totals : Number × Number}

theorem weigh_of_not_included (h : line.isIncluded = false) : weigh totals line = .ok totals := by
  obtain ⟨movementType, percentage, impact, quantity, packChanged, requiresReview⟩ := line
  obtain - | change := percentage
  · rfl
  · obtain - | quantity := quantity
    · rfl
    · have hMovement : movementType.isMatched = false := h
      unfold weigh
      dsimp only
      rw [hMovement]
      rfl

theorem term_of_not_included (h : line.isIncluded = false) : line.term = none := by
  obtain ⟨movementType, percentage, impact, quantity, packChanged, requiresReview⟩ := line
  obtain - | change := percentage
  · rfl
  · obtain - | quantity := quantity
    · cases change <;> rfl
    · have hMovement : movementType.isMatched = false := h
      unfold term
      dsimp only
      split
      · rw [hMovement]
        rfl
      · rfl

/-- An included line has a term, and weighing the line is weighing its term. -/
theorem exists_term_of_included (hLine : line.Weighable) (h : line.isIncluded = true) :
    ∃ (p : Percentage) (q : ℚ), 0 < q ∧ line.term = some (p.value, q) ∧
      ∀ totals, weigh totals line = weighTerm totals (p.value, q) := by
  obtain ⟨movementType, percentage, impact, quantity, packChanged, requiresReview⟩ := line
  obtain ⟨hSome, hMovement⟩ := Bool.and_eq_true_iff.mp h
  obtain ⟨hPercentage, hQuantity⟩ := Bool.and_eq_true_iff.mp hSome
  obtain ⟨change, rfl⟩ := Option.isSome_iff_exists.mp hPercentage
  obtain ⟨amount, rfl⟩ := Option.isSome_iff_exists.mp hQuantity
  obtain ⟨p, rfl⟩ := hLine.percentage change rfl
  obtain ⟨q, hPositive, rfl⟩ := hLine.quantity amount rfl
  refine ⟨p, q, hPositive, if_pos hMovement, fun totals => ?_⟩
  exact if_pos hMovement

theorem foldlM_weigh (hLines : ∀ line ∈ lines, line.Weighable) :
    lines.foldlM weigh totals = (terms lines).foldlM weighTerm totals := by
  induction lines generalizing totals with
  | nil => rfl
  | cons line lines ih =>
    obtain ⟨hHead, hRest⟩ := List.forall_mem_cons.mp hLines
    cases hIncluded : line.isIncluded with
    | false =>
      rw [List.foldlM_cons, bind_of_eq_ok (weigh_of_not_included hIncluded), ih hRest, terms, terms,
        List.filterMap_cons_none (term_of_not_included hIncluded)]
    | true =>
      obtain ⟨p, q, -, hTerm, hWeigh⟩ := exists_term_of_included hHead hIncluded
      rw [terms, List.filterMap_cons_some hTerm, List.foldlM_cons, List.foldlM_cons, hWeigh]
      exact bind_congr fun next => ih hRest

theorem terms_eq_nil_iff (hLines : ∀ line ∈ lines, line.Weighable) :
    terms lines = [] ↔ ∀ line ∈ lines, line.isIncluded = false := by
  rw [terms, List.filterMap_eq_nil_iff]
  refine forall₂_congr fun line hLine => ⟨fun hNone => ?_, term_of_not_included⟩
  by_contra hIncluded
  obtain ⟨p, q, -, hTerm, -⟩ :=
    exists_term_of_included (hLines line hLine) (Bool.not_eq_false _ ▸ hIncluded)
  rw [hTerm] at hNone
  cases hNone

theorem mem_terms {term : ℚ × ℚ} (hLines : ∀ line ∈ lines, line.Weighable)
    (h : term ∈ terms lines) : (∃ p : Percentage, term.1 = p.value) ∧ 0 < term.2 := by
  obtain ⟨line, hLine, hTerm⟩ := List.mem_filterMap.mp h
  cases hIncluded : line.isIncluded with
  | false =>
    rw [term_of_not_included hIncluded] at hTerm
    cases hTerm
  | true =>
    obtain ⟨p, q, hPositive, hSame, -⟩ := exists_term_of_included (hLines line hLine) hIncluded
    rw [hSame] at hTerm
    cases hTerm
    exact ⟨⟨p, rfl⟩, hPositive⟩

end Terms

section Context

variable {q : ℚ} {k : ℤ} {totals term : ℚ × ℚ} {weighted : List (ℚ × ℚ)}

theorem relativeError_contextRound : RelativeError contextRound (5 / 10 ^ 28) := by
  intro q
  by_cases hq : q = 0
  · rw [hq, contextRound, zero_div, ← Int.cast_zero, roundHalfEven_intCast, Int.cast_zero, zero_mul,
      sub_zero, abs_zero, mul_zero]
  · have hUnit : (0 : ℚ) < 10 ^ (Int.log 10 |q| - 27) := zpow_pos (by norm_num) _
    have hLow := (scaled_bounds hq).1
    have hNear := (roundHalfEven_spec (q / 10 ^ (Int.log 10 |q| - 27))).1
    have hPart : |(roundHalfEven (q / 10 ^ (Int.log 10 |q| - 27)) : ℚ) - q / 10 ^ (Int.log 10 |q| - 27)| ≤
        5 / 10 ^ 28 * |q / 10 ^ (Int.log 10 |q| - 27)| := by
      linarith
    calc |contextRound q - q|
        = |(roundHalfEven (q / 10 ^ (Int.log 10 |q| - 27)) : ℚ) - q / 10 ^ (Int.log 10 |q| - 27)| *
            10 ^ (Int.log 10 |q| - 27) := by
          rw [← abs_of_pos hUnit, ← abs_mul, abs_of_pos hUnit, sub_mul, div_mul_cancel₀ _ hUnit.ne',
            contextRound]
      _ ≤ 5 / 10 ^ 28 * |q / 10 ^ (Int.log 10 |q| - 27)| * 10 ^ (Int.log 10 |q| - 27) :=
          mul_le_mul_of_nonneg_right hPart hUnit.le
      _ = 5 / 10 ^ 28 * |q| := by
          rw [abs_div, abs_of_pos hUnit, mul_assoc, div_mul_cancel₀ _ hUnit.ne']

theorem weighTerm_of_ok
    (hProduct : Number.ofContext (term.1 * term.2) = .ok (.finite (contextRound (term.1 * term.2))))
    (hNumerator : Number.ofContext (totals.1 + contextRound (term.1 * term.2)) =
      .ok (.finite (contextRound (totals.1 + contextRound (term.1 * term.2)))))
    (hDenominator : Number.ofContext (totals.2 + term.2) =
      .ok (.finite (contextRound (totals.2 + term.2)))) :
    weighTerm (finiteTotals totals) term =
      .ok (finiteTotals (addWeighted contextRound totals term)) := by
  refine (bind_of_eq_ok hProduct _).trans ?_
  refine (bind_of_eq_ok hNumerator _).trans ?_
  exact bind_of_eq_ok hDenominator _

theorem weighTerm_cases (totals term : ℚ × ℚ) :
    weighTerm (finiteTotals totals) term =
      .ok (finiteTotals (addWeighted contextRound totals term)) ∨
      weighTerm (finiteTotals totals) term = .error "Overflow" := by
  obtain hProduct | hProduct := Number.ofContext_cases (term.1 * term.2)
  · obtain hNumerator | hNumerator :=
      Number.ofContext_cases (totals.1 + contextRound (term.1 * term.2))
    · obtain hDenominator | hDenominator := Number.ofContext_cases (totals.2 + term.2)
      · exact .inl (weighTerm_of_ok hProduct hNumerator hDenominator)
      · refine .inr ((bind_of_eq_ok hProduct _).trans ((bind_of_eq_ok hNumerator _).trans ?_))
        exact bind_of_eq_error hDenominator _
    · refine .inr ((bind_of_eq_ok hProduct _).trans ?_)
      exact bind_of_eq_error hNumerator _
  · exact .inr (bind_of_eq_error hProduct _)

theorem foldlM_weighTerm_cases :
    weighted.foldlM weighTerm (finiteTotals totals) =
      .ok (finiteTotals (weighted.foldl (addWeighted contextRound) totals)) ∨
      weighted.foldlM weighTerm (finiteTotals totals) = .error "Overflow" := by
  induction weighted generalizing totals with
  | nil => exact .inl rfl
  | cons term weighted ih =>
    rw [List.foldlM_cons, List.foldl_cons]
    obtain hStep | hStep := weighTerm_cases totals term
    · rw [bind_of_eq_ok hStep]
      exact ih
    · exact .inr (bind_of_eq_error hStep _)

end Context

section Average

variable {n : ℤ} {q : ℚ} {totals : ℚ × ℚ} {lines : List PriceReviewLineForSummary}

theorem average_of_zero (h : totals.2 = 0) : average (finiteTotals totals) = .ok none :=
  if_pos (decide_eq_true h)

theorem average_of_ne (h : totals.2 ≠ 0) : average (finiteTotals totals) = (do
    let quotient ← Number.ofContext (totals.1 / totals.2)
    let rounded ← quotient.quantize 6
    return some rounded) := by
  have hZero : ¬(finiteTotals totals).2.isZero = true := fun hZero => h (of_decide_eq_true hZero)
  rw [average, if_neg hZero]
  change (Number.div (.finite totals.1) (.finite totals.2) >>= _) = _
  rw [Number.div, if_neg h]

theorem average_ne_none (h : totals.2 ≠ 0) : average (finiteTotals totals) ≠ .ok none := by
  intro hNone
  rw [average_of_ne h] at hNone
  obtain ⟨quotient, -, hNone⟩ := exists_of_bind_eq_ok hNone
  obtain ⟨rounded, -, hSome⟩ := bind_pure_eq_ok.mp hNone
  cases hSome

theorem weightedAverageInContext_eq (hLines : ∀ line ∈ lines, line.Weighable) :
    weightedAverageInContext lines =
    ((terms lines).foldlM weighTerm (finiteTotals (0, 0)) >>= average) := by
  rw [weightedAverageInContext]
  exact congrArg (fun x => x >>= average) (foldlM_weigh hLines)

theorem weightedAverageInContext_of_nil (hLines : ∀ line ∈ lines, line.Weighable)
    (h : terms lines = []) : weightedAverageInContext lines = .ok none := by
  rw [weightedAverageInContext_eq hLines, h, List.foldlM_nil]
  exact @average_of_zero (0, 0) rfl

theorem totals_pos (hLines : ∀ line ∈ lines, line.Weighable) (h : terms lines ≠ []) :
    0 < ((terms lines).foldl (addWeighted contextRound) (0, 0)).2 :=
  denominator_pos relativeError_contextRound (by norm_num)
    (fun _ hTerm => (mem_terms hLines hTerm).2) le_rfl (.inr h)

/-- There is no average exactly when no line is included. -/
theorem weightedAverageInContext_eq_none (hLines : ∀ line ∈ lines, line.Weighable) :
    weightedAverageInContext lines = .ok none ↔ ∀ line ∈ lines, line.isIncluded = false := by
  rw [← terms_eq_nil_iff hLines]
  refine ⟨fun hNone => ?_, weightedAverageInContext_of_nil hLines⟩
  by_contra hSome
  rw [weightedAverageInContext_eq hLines] at hNone
  obtain hTotals | hTotals := @foldlM_weighTerm_cases (0, 0) (terms lines)
  · rw [bind_of_eq_ok hTotals] at hNone
    exact average_ne_none (totals_pos hLines hSome).ne' hNone
  · rw [hTotals] at hNone
    cases hNone

theorem value_quantize_between {least greatest : Percentage} (hLow : least.value - 4 / 10 ^ 7 ≤ q)
    (hHigh : q ≤ greatest.value + 4 / 10 ^ 7) :
    least.value ≤ (FixedPoint.quantize 6 q).value ∧ (FixedPoint.quantize 6 q).value ≤
      greatest.value := by
  have hLeast := FixedPoint.value_mul least
  have hGreatest := FixedPoint.value_mul greatest
  have hUp : least.units ≤ roundHalfEven (q * 10 ^ 6) := le_roundHalfEven_of_lt (by linarith)
  have hDown : roundHalfEven (q * 10 ^ 6) ≤ greatest.units := roundHalfEven_le_of_lt (by linarith)
  exact ⟨div_le_div_of_nonneg_right (by exact_mod_cast hUp) (by positivity),
    div_le_div_of_nonneg_right (by exact_mod_cast hDown) (by positivity)⟩

end Average

section Bounds

variable {bound weight : ℚ} {least greatest : Percentage} {totals : ℚ × ℚ} {weighted : List (ℚ × ℚ)}
  {count : ℕ}

/-- How far the totals of so many terms may be off. -/
def totalError (count : ℕ) : ℚ := 5 / 10 ^ 28 + 5 * (5 / 10 ^ 28) * count

theorem totalError_small (hBound : 1 ≤ bound) (hCount : count * bound ≤ 10 ^ 20) :
    totalError count ≤ 1 / 10 ^ 6 := by
  have hLess : (count : ℚ) ≤ count * bound := le_mul_of_one_le_right (Nat.cast_nonneg _) hBound
  rw [totalError]
  linarith

theorem average_between (hBound : 1 ≤ bound) (hLeast : |least.value| ≤ bound)
    (hGreatest : |greatest.value| ≤ bound) (hSome : 1 ≤ count) (hCount : count * bound ≤ 10 ^ 20)
    (hPositive : 0 < totals.2)
    (h : NearRange bound least.value greatest.value weight (totalError count) count totals) :
    ∃ mean : Percentage, average (finiteTotals totals) = .ok (some (.number mean)) ∧
      least.value ≤ mean.value ∧ mean.value ≤ greatest.value := by
  have hSmall := totalError_small hBound hCount
  have hOne : (1 : ℚ) ≤ count := by exact_mod_cast hSome
  have hWithin : bound ≤ 10 ^ 20 := (le_mul_of_one_le_left (by linarith) hOne).trans hCount
  have hOff : (totalError count + 2 * (5 / 10 ^ 28)) * bound ≤ 4 / 10 ^ 7 := by
    rw [totalError]
    linarith
  obtain ⟨hLow, hHigh⟩ :=
    h.mean relativeError_contextRound (by norm_num) (by linarith) hLeast hGreatest hPositive
  have hLeastLow := (abs_le.mp hLeast).1
  have hGreatestHigh := (abs_le.mp hGreatest).2
  have hAbs : |contextRound (totals.1 / totals.2)| ≤ 10 ^ 20 + 1 := by
    rw [abs_le]
    constructor
    · linarith
    · linarith
  have hQuotient : Number.ofContext (totals.1 / totals.2) =
      .ok (.finite (contextRound (totals.1 / totals.2))) :=
    Number.ofContext_of_abs_lt (hAbs.trans_lt (by norm_num))
  have hQuantize : (Number.finite (contextRound (totals.1 / totals.2))).quantize 6 =
      .ok (.number (FixedPoint.quantize 6 (contextRound (totals.1 / totals.2)))) := by
    refine Number.quantize_finite ?_
    rw [abs_mul, abs_of_pos (by positivity : (0 : ℚ) < 10 ^ 6)]
    linarith
  have hBetween := @value_quantize_between (contextRound (totals.1 / totals.2)) least greatest
    (by linarith) (by linarith)
  refine ⟨_, ?_, hBetween⟩
  rw [average_of_ne hPositive.ne', bind_of_eq_ok hQuotient, bind_of_eq_ok hQuantize]
  rfl

theorem nearRange_totals (hBound : 1 ≤ bound) (hLeast : |least.value| ≤ bound)
    (hGreatest : |greatest.value| ≤ bound) (hCount : weighted.length * bound ≤ 10 ^ 20)
    (hTerms : ∀ term ∈ weighted, Weighs bound least.value greatest.value weight term) :
    NearRange bound least.value greatest.value weight (totalError weighted.length) weighted.length
      (weighted.foldl (addWeighted contextRound) (0, 0)) := by
  have hStart : NearRange bound least.value greatest.value weight (5 / 10 ^ 28) 0 ((0, 0) : ℚ × ℚ) := by
    constructor <;> simp
  have hLess : (weighted.length : ℚ) ≤ weighted.length * bound :=
    le_mul_of_one_le_right (Nat.cast_nonneg _) hBound
  have hRun := hStart.foldl relativeError_contextRound (by norm_num) le_rfl
    (by linarith) hLeast hGreatest hTerms
  rwa [Nat.zero_add] at hRun

theorem ofContext_of_weight {x : ℚ} (hWeight : weight ≤ 10 ^ 100)
    (h : |contextRound x| ≤ 4 * 10 ^ 20 * weight) :
    Number.ofContext x = .ok (.finite (contextRound x)) := by
  refine @Number.ofContext_of_abs_lt_zpow _ 130 (by norm_num) (h.trans_lt ?_)
  have hLimit : (4 * 10 ^ 20 : ℚ) * 10 ^ 100 < 10 ^ (130 : ℤ) := by norm_num
  exact (mul_le_mul_of_nonneg_left hWeight (by norm_num)).trans_lt hLimit

/-- With quantities of at most 10¹⁰⁰ no exponent is too large. -/
theorem foldlM_weighTerm_returns (hBound : 1 ≤ bound) (hLeast : |least.value| ≤ bound)
    (hGreatest : |greatest.value| ≤ bound) (hWeight : weight ≤ 10 ^ 100)
    (hCount : ((count + weighted.length : ℕ) : ℚ) * bound ≤ 10 ^ 20)
    (hTerms : ∀ term ∈ weighted, Weighs bound least.value greatest.value weight term)
    (h : NearRange bound least.value greatest.value weight (totalError count) count totals) :
    weighted.foldlM weighTerm (finiteTotals totals) =
      .ok (finiteTotals (weighted.foldl (addWeighted contextRound) totals)) := by
  induction weighted generalizing count totals with
  | nil => rfl
  | cons term weighted ih =>
    obtain ⟨hHead, hRest⟩ := List.forall_mem_cons.mp hTerms
    rw [List.length_cons, ← Nat.add_assoc, Nat.add_right_comm] at hCount
    have hLater : ((count + 1 : ℕ) : ℚ) * bound ≤ 10 ^ 20 := by
      refine (mul_le_mul_of_nonneg_right ?_ (by linarith)).trans hCount
      exact_mod_cast Nat.le_add_right _ _
    have hSmall := totalError_small hBound hLater
    have hSame : totalError count + 5 * (5 / 10 ^ 28) = totalError (count + 1) := by
      rw [totalError, totalError, Nat.cast_add, Nat.cast_one]
      ring
    have hStart : 5 / 10 ^ 28 ≤ totalError count := by
      rw [totalError]
      exact le_add_of_nonneg_right (by positivity)
    have hNext :=
      h.step relativeError_contextRound (by norm_num) hStart (by linarith) hLeast hGreatest hHead
    rw [hSame] at hNext
    have hOther : 0 ≤ weight := hHead.nonneg.trans hHead.weight
    have hMany : ((count + 1 : ℕ) : ℚ) * weight ≤ 10 ^ 20 * weight := by
      refine mul_le_mul_of_nonneg_right (le_trans ?_ hLater) hOther
      exact le_mul_of_one_le_right (Nat.cast_nonneg _) hBound
    have hDenominator : (addWeighted contextRound totals term).2 ≤
        2 * (((count + 1 : ℕ) : ℚ) * weight) :=
      hNext.weight.trans
        (mul_le_mul_of_nonneg_right (by linarith) (mul_nonneg (Nat.cast_nonneg _) hOther))
    have hNumerator : |(addWeighted contextRound totals term).1| ≤ 4 * 10 ^ 20 * weight := by
      refine (hNext.abs_numerator_le hLeast hGreatest).trans ?_
      have hFactor : (1 + totalError (count + 1)) * bound ≤ 2 * bound :=
        mul_le_mul_of_nonneg_right (by linarith) (by linarith)
      have hProduct := mul_le_mul hFactor hDenominator hNext.nonneg (by linarith)
      have hTotal := mul_le_mul_of_nonneg_right hLater hOther
      linarith
    have hTerm : |contextRound (term.1 * term.2)| ≤ 4 * 10 ^ 20 * weight := by
      have hProduct : |term.1 * term.2| ≤ 10 ^ 20 * weight := by
        rw [abs_mul, abs_of_nonneg hHead.nonneg]
        refine mul_le_mul (hHead.abs.trans ?_) hHead.weight hHead.nonneg (by norm_num)
        refine (le_mul_of_one_le_left (by linarith) ?_).trans hLater
        exact_mod_cast Nat.le_add_left 1 count
      exact (abs_contextRound_le _).trans (by linarith)
    have hDenominatorAbs : |(addWeighted contextRound totals term).2| ≤ 4 * 10 ^ 20 * weight := by
      rw [abs_of_nonneg hNext.nonneg]
      exact hDenominator.trans (by linarith)
    have hStep :=
      weighTerm_of_ok (ofContext_of_weight hWeight hTerm) (ofContext_of_weight hWeight hNumerator)
        (ofContext_of_weight hWeight hDenominatorAbs)
    rw [List.foldlM_cons, bind_of_eq_ok hStep]
    exact ih hCount hRest hNext

end Bounds

def sums (weighted : List (ℚ × ℚ)) : ℚ × ℚ :=
  ((weighted.map fun term => term.1 * term.2).sum, (weighted.map Prod.snd).sum)

/-- No product and no total on the way is rounded. -/
structure ExactTotals (weighted : List (ℚ × ℚ)) : Prop where
  products : ∀ term ∈ weighted, Number.Representable (term.1 * term.2)
  numerator : EveryTotal Number.Representable 0 (weighted.map fun term => term.1 * term.2)
  denominator : EveryTotal Number.Representable 0 (weighted.map Prod.snd)

def scaleNumber (factor : ℚ) : Number → Number
  | .finite q => .finite (factor * q)
  | other => other

def scaleQuantity (factor : ℚ) (line : PriceReviewLineForSummary) : PriceReviewLineForSummary :=
  { line with annualQuantity := line.annualQuantity.map (scaleNumber factor) }

/-- Two included lines of one percentage, and a line of it with their quantities together. -/
structure Merges (first second merged : PriceReviewLineForSummary) : Prop where
  included : first.isIncluded = true ∧ second.isIncluded = true ∧ merged.isIncluded = true
  percentage : second.percentageChange = first.percentageChange ∧
    merged.percentageChange = first.percentageChange
  quantity : ∃ q r, first.annualQuantity = some (.finite q) ∧
    second.annualQuantity = some (.finite r) ∧ merged.annualQuantity = some (.finite (q + r))

section Exact

variable {totals other : ℚ × ℚ} {weighted : List (ℚ × ℚ)} {factor : ℚ}
  {line first second merged : PriceReviewLineForSummary}
  {lines before between after : List PriceReviewLineForSummary}

theorem foldlM_weighTerm_of_exact (hProducts : ∀ term ∈ weighted, Number.Representable (term.1 * term.2))
    (hNumerator : EveryTotal Number.Representable totals.1 (weighted.map fun term => term.1 * term.2))
    (hDenominator : EveryTotal Number.Representable totals.2 (weighted.map Prod.snd)) :
    weighted.foldlM weighTerm (finiteTotals totals) =
      .ok (finiteTotals (totals.1 + (sums weighted).1, totals.2 + (sums weighted).2)) := by
  induction weighted generalizing totals with
  | nil =>
    rw [sums, List.map_nil, List.map_nil, List.sum_nil]
    dsimp only
    rw [add_zero, add_zero]
    rfl
  | cons term weighted ih =>
    obtain ⟨hProduct, hRest⟩ := List.forall_mem_cons.mp hProducts
    have hStep : weighTerm (finiteTotals totals) term =
        .ok (finiteTotals (totals.1 + term.1 * term.2, totals.2 + term.2)) := by
      refine (bind_of_eq_ok hProduct _).trans ?_
      refine (bind_of_eq_ok hNumerator.1 _).trans ?_
      exact bind_of_eq_ok hDenominator.1 _
    have hLater :=
      @ih (totals.1 + term.1 * term.2, totals.2 + term.2) hRest hNumerator.2 hDenominator.2
    rw [List.foldlM_cons, bind_of_eq_ok hStep, hLater, sums, sums, List.map_cons, List.map_cons,
      List.sum_cons, List.sum_cons, ← add_assoc, ← add_assoc]

theorem weightedAverageInContext_of_exact (hLines : ∀ line ∈ lines, line.Weighable)
    (h : ExactTotals (terms lines)) :
    weightedAverageInContext lines = average (finiteTotals (sums (terms lines))) := by
  have hTotals := @foldlM_weighTerm_of_exact (0, 0) _ h.products h.numerator h.denominator
  rw [weightedAverageInContext_eq hLines, bind_of_eq_ok hTotals, zero_add, zero_add]

theorem average_scale (hFactor : factor ≠ 0) (totals : ℚ × ℚ) :
    average (finiteTotals (factor * totals.1, factor * totals.2)) =
      average (finiteTotals totals) := by
  by_cases hZero : totals.2 = 0
  · rw [average_of_zero hZero, average_of_zero (mul_eq_zero_of_right factor hZero)]
  · rw [average_of_ne hZero, average_of_ne (mul_ne_zero hFactor hZero),
      mul_div_mul_left _ _ hFactor]

theorem term_scaleQuantity (factor : ℚ) (line : PriceReviewLineForSummary) :
    (scaleQuantity factor line).term = line.term.map fun term => (term.1, factor * term.2) := by
  obtain ⟨movementType, percentage, impact, quantity, packChanged, requiresReview⟩ := line
  obtain - | change := percentage
  · rfl
  · obtain - | quantity := quantity
    · cases change <;> rfl
    · cases change <;> cases quantity <;> cases movementType <;> rfl

theorem terms_scaleQuantity (factor : ℚ) (lines : List PriceReviewLineForSummary) :
    terms (lines.map (scaleQuantity factor)) = (terms lines).map fun term =>
      (term.1, factor * term.2) := by
  rw [terms, terms, List.filterMap_map, List.map_filterMap]
  exact congrArg (fun f => lines.filterMap f) (funext fun line => term_scaleQuantity factor line)

theorem weighable_scaleQuantity (hFactor : 0 < factor) (h : line.Weighable) :
    (scaleQuantity factor line).Weighable := by
  refine ⟨h.percentage, fun x hx => ?_⟩
  obtain ⟨quantity, hQuantity, rfl⟩ := Option.map_eq_some_iff.mp hx
  obtain ⟨q, hPositive, rfl⟩ := h.quantity quantity hQuantity
  exact ⟨factor * q, mul_pos hFactor hPositive, rfl⟩

theorem sums_scale (factor : ℚ) (weighted : List (ℚ × ℚ)) :
    sums (weighted.map fun term => (term.1, factor * term.2)) =
      (factor * (sums weighted).1, factor * (sums weighted).2) := by
  have hProducts : (fun term : ℚ × ℚ => term.1 * term.2) ∘
    (fun term : ℚ × ℚ => (term.1, factor * term.2)) =
      fun term => factor * (term.1 * term.2) := funext fun term => mul_left_comm _ _ _
  rw [sums, sums, List.map_map, List.map_map, hProducts, List.sum_map_mul_left]
  exact congrArg (Prod.mk _) (List.sum_map_mul_left ..)

theorem sums_of_perm {others : List (ℚ × ℚ)} (h : weighted.Perm others) :
    sums weighted = sums others := by
  rw [sums, sums, (h.map _).sum_eq, (h.map _).sum_eq]

theorem exists_term_of_quantity (hLine : line.Weighable) (h : line.isIncluded = true) {q : ℚ}
    (hQuantity : line.annualQuantity = some (.finite q)) :
    ∃ p : Percentage, line.percentageChange = some p.number ∧ line.term = some (p.value, q) := by
  obtain ⟨movementType, percentage, impact, quantity, packChanged, requiresReview⟩ := line
  obtain ⟨hSome, hMovement⟩ := Bool.and_eq_true_iff.mp h
  obtain ⟨change, rfl⟩ := Option.isSome_iff_exists.mp (Bool.and_eq_true_iff.mp hSome).1
  obtain ⟨p, rfl⟩ := hLine.percentage change rfl
  obtain rfl := hQuantity
  exact ⟨p, rfl, if_pos hMovement⟩

theorem sums_merge (hFirst : first.Weighable) (hSecond : second.Weighable)
    (hMerged : merged.Weighable) (h : Merges first second merged) :
    sums (terms (before ++ first :: between ++ second :: after)) =
      sums (terms (before ++ merged :: between ++ after)) := by
  obtain ⟨q, r, hQuantity, hOther, hTogether⟩ := h.quantity
  obtain ⟨p, hPercentage, hFirstTerm⟩ := exists_term_of_quantity hFirst h.included.1 hQuantity
  obtain ⟨p', hSame, hSecondTerm⟩ := exists_term_of_quantity hSecond h.included.2.1 hOther
  obtain ⟨p'', hAlike, hMergedTerm⟩ := exists_term_of_quantity hMerged h.included.2.2 hTogether
  rw [h.percentage.1, hPercentage] at hSame
  rw [h.percentage.2, hPercentage] at hAlike
  have hValue : p.value = p'.value := Number.finite.inj (Option.some.inj hSame)
  have hOtherValue : p.value = p''.value := Number.finite.inj (Option.some.inj hAlike)
  simp only [sums, terms, List.filterMap_append, List.filterMap_cons_some hFirstTerm,
    List.filterMap_cons_some hSecondTerm,
    List.filterMap_cons_some hMergedTerm, List.map_append, List.map_cons, List.sum_append,
    List.sum_cons, ← hValue, ← hOtherValue]
  refine Prod.ext ?_ ?_
  · dsimp only
    ring
  · dsimp only
    ring

theorem foldlM_weigh_filter {totals : Number × Number} :
    lines.foldlM weigh totals = (lines.filter isIncluded).foldlM weigh totals := by
  induction lines generalizing totals with
  | nil => rfl
  | cons line lines ih =>
    cases hIncluded : line.isIncluded with
    | false =>
      rw [List.filter_cons_of_neg (by rw [hIncluded]; exact Bool.false_ne_true), List.foldlM_cons,
        bind_of_eq_ok (weigh_of_not_included hIncluded), ih]
    | true =>
      rw [List.filter_cons_of_pos hIncluded, List.foldlM_cons, List.foldlM_cons]
      exact bind_congr fun next => ih

end Exact

def SummaryLine.inContext (line : SummaryLine) : PriceReviewLineForSummary where
  movementType := line.movementType
  percentageChange := line.percentageChange.map FixedPoint.number
  annualImpact := line.annualImpact.map FixedPoint.number
  annualQuantity := line.annualQuantity.map FixedPoint.number
  packChanged := line.packChanged
  requiresReview := line.requiresReview

/-- The average of rounded totals. -/
def averageOf (totals : ℚ × ℚ) : Option Percentage :=
  if totals.2 = 0 then none else some (roundPercentage (contextRound (totals.1 / totals.2)))

section Columns

variable {lines : List SummaryLine} {mean : Option (Numeric 6)}

theorem weightOf_eq (line : SummaryLine) :
    weightOf line = line.inContext.term.map fun term =>
      (contextRound (term.1 * term.2), term.2) := by
  obtain ⟨movementType, percentage, impact, quantity, packChanged, requiresReview⟩ := line
  cases percentage <;> cases quantity <;> cases movementType <;> rfl

theorem foldl_addWeighted (weighted : List (ℚ × ℚ)) (numerator denominator : ℚ) :
    weighted.foldl (addWeighted contextRound) (numerator, denominator) =
      ((weighted.map fun term => contextRound (term.1 * term.2)).foldl
        (fun total x => contextRound (total + x)) numerator,
        (weighted.map Prod.snd).foldl (fun total x => contextRound (total + x)) denominator) := by
  induction weighted generalizing numerator denominator with
  | nil => rfl
  | cons term weighted ih => exact ih _ _

theorem weights_eq (lines : List SummaryLine) : lines.filterMap weightOf =
    (terms (lines.map SummaryLine.inContext)).map fun term =>
      (contextRound (term.1 * term.2), term.2) := by
  rw [terms, List.filterMap_map, List.map_filterMap]
  exact congrArg (fun f => lines.filterMap f) (funext weightOf_eq)

theorem weightedAverageIncrease_eq (lines : List SummaryLine) : weightedAverageIncrease lines =
    averageOf ((terms (lines.map SummaryLine.inContext)).foldl (addWeighted contextRound) (0, 0)) := by
  unfold weightedAverageIncrease averageOf
  rw [foldl_addWeighted]
  dsimp only
  rw [weights_eq, List.map_map, List.map_map]
  rfl

theorem average_eq_ok {totals : ℚ × ℚ} (h : average (finiteTotals totals) = .ok mean) :
    mean = (averageOf totals).map Numeric.number := by
  unfold averageOf
  split
  · rename_i hZero
    rw [average_of_zero hZero] at h
    exact (Except.ok.inj h).symm
  · rename_i hSome
    rw [average_of_ne hSome] at h
    obtain ⟨quotient, hQuotient, h⟩ := exists_of_bind_eq_ok h
    obtain ⟨rounded, hQuantize, rfl⟩ := bind_pure_eq_ok.mp h
    obtain hRounded | hRounded := Number.ofContext_cases (totals.1 / totals.2)
    · obtain rfl := Except.ok.inj (hRounded.symm.trans hQuotient)
      change (if _ then _ else _) = _ at hQuantize
      split at hQuantize
      · exact congrArg some (Except.ok.inj hQuantize).symm
      · cases hQuantize
    · cases hRounded.symm.trans hQuotient

/-- On column values the average of the context is that of the summary. -/
theorem weightedAverageIncrease_of_inContext
    (hLines : ∀ line ∈ lines.map SummaryLine.inContext, line.Weighable)
    (h : weightedAverageInContext (lines.map SummaryLine.inContext) = .ok mean) :
    mean = (weightedAverageIncrease lines).map Numeric.number := by
  rw [weightedAverageInContext_eq hLines] at h
  rw [weightedAverageIncrease_eq]
  obtain hTotals | hTotals :=
    @foldlM_weighTerm_cases (0, 0) (terms (lines.map SummaryLine.inContext))
  · rw [bind_of_eq_ok hTotals] at h
    exact average_eq_ok h
  · rw [hTotals] at h
    cases h

end Columns

section Between

variable {lines : List PriceReviewLineForSummary} {least greatest : Percentage} {bound weight : ℚ}

theorem weighs_of_mem_terms (hLines : ∀ line ∈ lines, line.Weighable)
    (hRange : ∀ term ∈ terms lines, least.value ≤ term.1 ∧ term.1 ≤ greatest.value)
    (hLeast : |least.value| ≤ bound) (hGreatest : |greatest.value| ≤ bound)
    (hWeight : ∀ term ∈ terms lines, term.2 ≤ weight) :
    ∀ term ∈ terms lines, Weighs bound least.value greatest.value weight term := by
  intro term hTerm
  obtain ⟨hLow, hHigh⟩ := hRange term hTerm
  refine ⟨abs_le.mpr ⟨?_, ?_⟩, hLow, hHigh, (mem_terms hLines hTerm).2.le, hWeight term hTerm⟩
  · exact (abs_le.mp hLeast).1.trans hLow
  · exact hHigh.trans (abs_le.mp hGreatest).2

theorem quantity_le_sum (hLines : ∀ line ∈ lines, line.Weighable) :
    ∀ term ∈ terms lines, term.2 ≤ ((terms lines).map Prod.snd).sum := by
  intro term hTerm
  refine List.single_le_sum (fun quantity hQuantity => ?_) _ (List.mem_map_of_mem hTerm)
  obtain ⟨other, hOther, rfl⟩ := List.mem_map.mp hQuantity
  exact (mem_terms hLines hOther).2.le

theorem mean_between (hLines : ∀ line ∈ lines, line.Weighable) (hSome : terms lines ≠ [])
    (hRange : ∀ term ∈ terms lines, least.value ≤ term.1 ∧ term.1 ≤ greatest.value)
    (hBound : 1 ≤ bound) (hLeast : |least.value| ≤ bound) (hGreatest : |greatest.value| ≤ bound)
    (hCount : (terms lines).length * bound ≤ 10 ^ 20) :
    ∃ mean : Percentage,
      average (finiteTotals ((terms lines).foldl (addWeighted contextRound) (0, 0))) =
      .ok (some (.number mean)) ∧ least.value ≤ mean.value ∧ mean.value ≤ greatest.value := by
  have hOne : 1 ≤ (terms lines).length := List.length_pos_iff.mpr hSome
  have hWeighs := weighs_of_mem_terms hLines hRange hLeast hGreatest (quantity_le_sum hLines)
  exact average_between hBound hLeast hGreatest hOne hCount (totals_pos hLines hSome)
    (nearRange_totals hBound hLeast hGreatest hCount hWeighs)

/-- Whatever is rounded on the way, the average lies between the percentages. -/
theorem weightedAverageInContext_between (hLines : ∀ line ∈ lines, line.Weighable)
    (hSome : terms lines ≠ [])
    (hRange : ∀ term ∈ terms lines, least.value ≤ term.1 ∧ term.1 ≤ greatest.value)
    (hBound : 1 ≤ bound) (hLeast : |least.value| ≤ bound) (hGreatest : |greatest.value| ≤ bound)
    (hCount : (terms lines).length * bound ≤ 10 ^ 20) :
    weightedAverageInContext lines = .error "Overflow" ∨
      ∃ mean : Percentage, weightedAverageInContext lines = .ok (some (.number mean)) ∧
        least.value ≤ mean.value ∧ mean.value ≤ greatest.value := by
  obtain ⟨mean, hMean, hBetween⟩ := mean_between hLines hSome hRange hBound hLeast hGreatest hCount
  rw [weightedAverageInContext_eq hLines]
  obtain hTotals | hTotals := @foldlM_weighTerm_cases (0, 0) (terms lines)
  · rw [bind_of_eq_ok hTotals]
    exact .inr ⟨mean, hMean, hBetween⟩
  · rw [hTotals]
    exact .inl rfl

theorem weightedAverageInContext_ne_overflow (hLines : ∀ line ∈ lines, line.Weighable)
    (hSome : terms lines ≠ [])
    (hRange : ∀ term ∈ terms lines, least.value ≤ term.1 ∧ term.1 ≤ greatest.value)
    (hBound : 1 ≤ bound) (hLeast : |least.value| ≤ bound) (hGreatest : |greatest.value| ≤ bound)
    (hCount : (terms lines).length * bound ≤ 10 ^ 20)
    (hQuantities : ∀ term ∈ terms lines, term.2 ≤ 10 ^ 100) :
    weightedAverageInContext lines ≠ .error "Overflow" := by
  obtain ⟨mean, hMean, -⟩ := mean_between hLines hSome hRange hBound hLeast hGreatest hCount
  have hWeighs := weighs_of_mem_terms hLines hRange hLeast hGreatest hQuantities
  have hStart := @nearRange_totals _ (10 ^ 100) _ _ [] hBound hLeast hGreatest (by simp)
    (fun term hTerm => by cases hTerm)
  rw [List.foldl_nil] at hStart
  have hTotals := foldlM_weighTerm_returns hBound hLeast hGreatest le_rfl
    (by rwa [List.length_nil, Nat.zero_add]) hWeighs hStart
  rw [weightedAverageInContext_eq hLines, bind_of_eq_ok hTotals, hMean]
  intro hError
  cases hError

end Between

def increasedLine (percentage : Percentage) (quantity : ℚ) : PriceReviewLineForSummary where
  movementType := .priceIncrease
  percentageChange := some percentage.number
  annualImpact := none
  annualQuantity := some (.finite quantity)
  packChanged := false
  requiresReview := false

theorem weighable_increasedLine {percentage : Percentage} {quantity : ℚ} (h : 0 < quantity) :
    (increasedLine percentage quantity).Weighable :=
  ⟨fun _ hx => ⟨percentage, (Option.some.inj hx).symm⟩, fun _ hx =>
    ⟨quantity, h, (Option.some.inj hx).symm⟩⟩

/-- The quantities of the last two are lost after those of the first two, but not before them. -/
def lopsidedLines : List PriceReviewLineForSummary :=
  [increasedLine ⟨1⟩ (5 * 10 ^ 27), increasedLine ⟨0⟩ (5 * 10 ^ 27), increasedLine ⟨1⟩ 5,
    increasedLine ⟨0⟩ 5]

end ProcureFoundation.PriceReview
