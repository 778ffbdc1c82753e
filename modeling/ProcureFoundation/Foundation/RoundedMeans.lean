import Mathlib.Algebra.Order.Field.Basic
import Mathlib.Tactic.Linarith
import Mathlib.Tactic.Ring

/-!
# Rounded means

A weighted mean whose products, sums and quotient are each off by at most a small part of themselves
leaves the range of its values by no more than a few such parts for each of them.
-/

namespace ProcureFoundation

variable {K : Type*} [Field K] [LinearOrder K] [IsStrictOrderedRing K]

/-- Rounding moves a number by at most this part of it. -/
def RelativeError (round : K → K) (u : K) : Prop := ∀ x, |round x - x| ≤ u * |x|

theorem RelativeError.pos {round : K → K} {u x : K} (hRound : RelativeError round u) (hu : u < 1)
    (hx : 0 < x) : 0 < round x := by
  have hNear := (abs_le.mp (hRound x)).1
  have hLess := mul_lt_mul_of_pos_right hu hx
  rw [abs_of_pos hx] at hNear
  linarith

/-- The weighted sum and the sum of the weights, with every product and every sum rounded. -/
def addWeighted (round : K → K) (totals term : K × K) : K × K :=
  (round (totals.1 + round (term.1 * term.2)), round (totals.2 + term.2))

section Step

variable {u e bound high N D v w t N' D' : K}

theorem upper_step (hu : 0 ≤ u) (hue : u ≤ e) (hSmall : 2 * e + 5 * u ≤ 3) (hHigh : |high| ≤ bound)
    (hv : |v| ≤ bound) (hvHigh : v ≤ high) (hw : 0 ≤ w) (hD : 0 ≤ D)
    (hN : N ≤ (high + e * bound) * D) (hAbs : |N| ≤ (1 + e) * bound * D)
    (ht : |t - v * w| ≤ u * |v * w|) (hNext : |N' - (N + t)| ≤ u * |N + t|)
    (hWeight : |D' - (D + w)| ≤ u * |D + w|) : N' ≤ (high + (e + 5 * u) * bound) * D' := by
  have hBound : 0 ≤ bound := (abs_nonneg _).trans hv
  have he : 0 ≤ e := hu.trans hue
  have hSum : 0 ≤ D + w := add_nonneg hD hw
  have hProduct : |v * w| ≤ bound * w := by
    rw [abs_mul, abs_of_nonneg hw]
    exact mul_le_mul_of_nonneg_right hv hw
  have hError : u * |v * w| ≤ e * (bound * w) := mul_le_mul hue hProduct (abs_nonneg _) he
  have hTerm : t ≤ (high + e * bound) * w := by
    have hNear := (abs_le.mp ht).2
    have hLess := mul_le_mul_of_nonneg_right hvHigh hw
    linarith
  have hTermAbs : |t| ≤ (1 + e) * bound * w := by
    have hNear := abs_sub_abs_le_abs_sub t (v * w)
    linarith
  have hTotal : N + t ≤ (high + e * bound) * (D + w) := by
    rw [mul_add]
    exact add_le_add hN hTerm
  have hTotalAbs : |N + t| ≤ (1 + e) * bound * (D + w) := by
    rw [mul_add]
    exact (abs_add_le _ _).trans (add_le_add hAbs hTermAbs)
  have hUpper : N' ≤ (high + e * bound) * (D + w) + u * ((1 + e) * bound * (D + w)) := by
    have hNear := (abs_le.mp hNext).2
    have hPart := mul_le_mul_of_nonneg_left hTotalAbs hu
    linarith
  have hRise : 0 ≤ (e + 5 * u) * bound := mul_nonneg (by linarith) hBound
  have hSlope : |high + (e + 5 * u) * bound| ≤ (1 + e + 5 * u) * bound := by
    refine (abs_add_le _ _).trans ?_
    rw [abs_of_nonneg hRise]
    linarith
  have hLoss : (high + (e + 5 * u) * bound) * (D + w) - (1 + e + 5 * u) * bound * (u * (D + w)) ≤
      (high + (e + 5 * u) * bound) * D' := by
    have hMoved : |(high + (e + 5 * u) * bound) * (D' - (D + w))| ≤
        (1 + e + 5 * u) * bound * (u * (D + w)) := by
      rw [abs_mul]
      rw [abs_of_nonneg hSum] at hWeight
      exact mul_le_mul hSlope hWeight (abs_nonneg _) ((abs_nonneg _).trans hSlope)
    have hLow := (abs_le.mp hMoved).1
    rw [mul_sub] at hLow
    linarith
  have hRest : 0 ≤ u * (3 - 2 * e - 5 * u) * (bound * (D + w)) :=
    mul_nonneg (mul_nonneg hu (by linarith)) (mul_nonneg hBound hSum)
  have hBalance : (high + e * bound) * (D + w) + u * ((1 + e) * bound * (D + w)) +
      u * (3 - 2 * e - 5 * u) * (bound * (D + w)) =
        (high + (e + 5 * u) * bound) * (D + w) - (1 + e + 5 * u) * bound * (u * (D + w)) := by
    ring
  linarith

end Step

/-- The weights are not negative, and the weighted sum is off by at most that part of the largest
one possible. -/
structure NearRange (bound low high weight e : K) (count : ℕ) (totals : K × K) : Prop where
  nonneg : 0 ≤ totals.2
  low : (low - e * bound) * totals.2 ≤ totals.1
  high : totals.1 ≤ (high + e * bound) * totals.2
  weight : totals.2 ≤ (1 + e) * (count * weight)

section Run

variable {round : K → K} {u e bound low high weight v w : K} {count : ℕ} {totals term : K × K}
  {terms : List (K × K)}

/-- A value of the range with its weight. -/
structure Weighs (bound low high weight : K) (term : K × K) : Prop where
  abs : |term.1| ≤ bound
  low : low ≤ term.1
  high : term.1 ≤ high
  nonneg : 0 ≤ term.2
  weight : term.2 ≤ weight

theorem NearRange.abs_numerator_le (hLow : |low| ≤ bound) (hHigh : |high| ≤ bound)
    (h : NearRange bound low high weight e count totals) :
    |totals.1| ≤ (1 + e) * bound * totals.2 := by
  have hUp := mul_le_mul_of_nonneg_right (abs_le.mp hHigh).2 h.nonneg
  have hDown := mul_le_mul_of_nonneg_right (abs_le.mp hLow).1 h.nonneg
  have hTotalLow := h.low
  have hTotalHigh := h.high
  rw [abs_le]
  constructor
  · linarith
  · linarith

theorem NearRange.step (hRound : RelativeError round u) (hu : 0 ≤ u) (hue : u ≤ e)
    (hSmall : 2 * e + 5 * u ≤ 3) (hLow : |low| ≤ bound) (hHigh : |high| ≤ bound)
    (hTerm : Weighs bound low high weight term)
    (h : NearRange bound low high weight e count totals) :
    NearRange bound low high weight (e + 5 * u) (count + 1) (addWeighted round totals term) := by
  have hAbs := h.abs_numerator_le hLow hHigh
  have hProduct := hRound (term.1 * term.2)
  have hNext := hRound (totals.1 + round (term.1 * term.2))
  have hWeight := hRound (totals.2 + term.2)
  have hSum : 0 ≤ totals.2 + term.2 := add_nonneg h.nonneg hTerm.nonneg
  have hNear := abs_le.mp hWeight
  rw [abs_of_nonneg hSum] at hNear
  refine ⟨?_, ?_, ?_, ?_⟩
  · have hKept : 0 ≤ (1 - u) * (totals.2 + term.2) := mul_nonneg (by linarith) hSum
    dsimp only [addWeighted]
    linarith
  · have hMirror := @upper_step _ _ _ _ u e bound (-low) (-totals.1) totals.2 (-term.1) term.2
      (-round (term.1 * term.2)) (-round (totals.1 + round (term.1 * term.2)))
        (round (totals.2 + term.2)) hu hue hSmall
      (by rwa [abs_neg]) (by rw [abs_neg]; exact hTerm.abs) (neg_le_neg hTerm.low) hTerm.nonneg h.nonneg
      (by linarith [h.low]) (by rwa [abs_neg]) (by rwa [neg_mul, neg_sub_neg, abs_sub_comm, abs_neg])
      (by rwa [← neg_add, neg_sub_neg, abs_sub_comm, abs_neg]) hWeight
    dsimp only [addWeighted]
    linarith
  · exact upper_step hu hue hSmall hHigh hTerm.abs hTerm.high hTerm.nonneg h.nonneg h.high hAbs
      hProduct hNext hWeight
  · have hOther : 0 ≤ weight := hTerm.nonneg.trans hTerm.weight
    have hCount : (0 : K) ≤ count := Nat.cast_nonneg count
    have hBefore := h.weight
    have hRise : 0 ≤ e * weight := mul_nonneg (hu.trans hue) hOther
    have hLarger : totals.2 + term.2 ≤ (1 + e) * ((count + 1) * weight) := by
      have hOne := hTerm.weight
      linarith
    have hScale : u * (totals.2 + term.2) ≤ u * ((1 + e) * ((count + 1) * weight)) :=
      mul_le_mul_of_nonneg_left hLarger hu
    have hRest : 0 ≤ u * (3 - e) * ((count + 1) * weight) :=
      mul_nonneg (mul_nonneg hu (by linarith)) (mul_nonneg (by linarith) hOther)
    dsimp only [addWeighted]
    rw [Nat.cast_add, Nat.cast_one]
    linarith

theorem NearRange.foldl (hRound : RelativeError round u) (hu : 0 ≤ u) (hue : u ≤ e)
    (hSmall : 2 * e + 10 * u * terms.length ≤ 3) (hLow : |low| ≤ bound) (hHigh : |high| ≤ bound)
    (hTerms : ∀ term ∈ terms, Weighs bound low high weight term)
    (h : NearRange bound low high weight e count totals) :
    NearRange bound low high weight (e + 5 * u * terms.length) (count + terms.length)
      (terms.foldl (addWeighted round) totals) := by
  induction terms generalizing e count totals with
  | nil =>
    rw [List.length_nil, Nat.cast_zero, mul_zero, add_zero, Nat.add_zero]
    exact h
  | cons term terms ih =>
    rw [List.length_cons, Nat.cast_add, Nat.cast_one] at hSmall
    obtain ⟨hHead, hRest⟩ := List.forall_mem_cons.mp hTerms
    have hLater : 0 ≤ u * terms.length := mul_nonneg hu (Nat.cast_nonneg _)
    have hNext := h.step hRound hu hue (by linarith) hLow hHigh hHead
    have hRun := ih (by linarith) (by linarith) hRest hNext
    rw [List.length_cons, Nat.cast_add, Nat.cast_one, List.foldl_cons]
    rwa [show e + 5 * u * (terms.length + 1) = e + 5 * u + 5 * u * terms.length by ring,
      show count + (terms.length + 1) = count + 1 + terms.length by omega]

theorem denominator_pos (hRound : RelativeError round u) (hu : u < 1)
    (hWeights : ∀ term ∈ terms, 0 < term.2) (hTotals : 0 ≤ totals.2)
    (hSome : 0 < totals.2 ∨ terms ≠ []) :
    0 < (terms.foldl (addWeighted round) totals).2 := by
  induction terms generalizing totals with
  | nil => exact hSome.resolve_right fun hNil => hNil rfl
  | cons term terms ih =>
    obtain ⟨hHead, hRest⟩ := List.forall_mem_cons.mp hWeights
    have hNext : 0 < (addWeighted round totals term).2 :=
      hRound.pos hu (add_pos_of_nonneg_of_pos hTotals hHead)
    exact ih hRest hNext.le (.inl hNext)

/-- The rounded quotient of the totals is near the range as well. -/
theorem NearRange.mean (hRound : RelativeError round u) (hu : 0 ≤ u) (he : e ≤ 1)
    (hLow : |low| ≤ bound) (hHigh : |high| ≤ bound) (hPositive : 0 < totals.2)
    (h : NearRange bound low high weight e count totals) :
    low - (e + 2 * u) * bound ≤ round (totals.1 / totals.2) ∧
      round (totals.1 / totals.2) ≤ high + (e + 2 * u) * bound := by
  have hBound : 0 ≤ bound := (abs_nonneg _).trans hLow
  have hBelow : totals.1 / totals.2 ≤ high + e * bound := (div_le_iff₀ hPositive).mpr h.high
  have hAbove : low - e * bound ≤ totals.1 / totals.2 := (le_div_iff₀ hPositive).mpr h.low
  have hAbs : |totals.1 / totals.2| ≤ (1 + e) * bound := by
    rw [abs_div, abs_of_pos hPositive, div_le_iff₀ hPositive]
    exact h.abs_numerator_le hLow hHigh
  have hPart : u * |totals.1 / totals.2| ≤ u * (2 * bound) := by
    refine mul_le_mul_of_nonneg_left (hAbs.trans ?_) hu
    exact mul_le_mul_of_nonneg_right (by linarith) hBound
  obtain ⟨hRoundLow, hRoundHigh⟩ := abs_le.mp (hRound (totals.1 / totals.2))
  constructor
  · linarith
  · linarith

end Run

end ProcureFoundation
