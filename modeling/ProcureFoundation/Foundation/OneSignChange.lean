import Mathlib.Topology.Instances.Real.Lemmas
import Mathlib.Topology.Order.IntermediateValue
import Mathlib.Tactic.Linarith
import Mathlib.Tactic.Positivity

/-!
# Sums with one change of sign

The coefficients of a power series that is cut off come in two runs: none of the first is positive
and none of the second is negative. On the positive numbers the sum then crosses zero exactly once,
from below.
-/

namespace ProcureFoundation

section Values

variable {K : Type} [CommRing K]

/-- The value at a point, the lowest power first. -/
def powerSum (x : K) : List K → K
  | [] => 0
  | c :: cs => c + x * powerSum x cs

variable {x : K} {c : K} {cs ds : List K}

theorem powerSum_append :
    powerSum x (cs ++ ds) = powerSum x cs + x ^ cs.length * powerSum x ds := by
  induction cs with
  | nil => rw [List.nil_append, powerSum, List.length_nil, pow_zero, one_mul, zero_add]
  | cons c cs ih =>
    rw [List.cons_append, powerSum, powerSum, ih, List.length_cons, pow_succ]
    ring

theorem powerSum_map_mul (factor : K) :
    powerSum x (cs.map (factor * ·)) = factor * powerSum x cs := by
  induction cs with
  | nil => exact (mul_zero factor).symm
  | cons c cs ih =>
    rw [List.map_cons, powerSum, powerSum, ih]
    ring

theorem powerSum_replicate_zero (count : ℕ) :
    powerSum x (List.replicate count 0 ++ cs) = x ^ count * powerSum x cs := by
  induction count with
  | zero => rw [List.replicate_zero, List.nil_append, pow_zero, one_mul]
  | succ count ih =>
    rw [List.replicate_succ, List.cons_append, powerSum, ih, pow_succ]
    ring

theorem powerSum_neg_map : powerSum x (cs.map (- ·)) = -powerSum x cs := by
  induction cs with
  | nil => exact neg_zero.symm
  | cons c cs ih =>
    rw [List.map_cons, powerSum, powerSum, ih]
    ring

end Values

section Order

variable {K : Type} [Field K] [LinearOrder K] [IsStrictOrderedRing K]

/-- The coefficients are first at most zero and then at least zero, and in both runs one is not
zero. -/
structure CrossesOnce (cs : List K) : Prop where
  runs : ∃ before after, cs = before ++ after ∧ (∀ c ∈ before, c ≤ 0) ∧ (∃ c ∈ before, c < 0) ∧
    (∀ c ∈ after, 0 ≤ c) ∧ ∃ c ∈ after, 0 < c

variable {x factor : K} {cs before after : List K}

theorem powerSum_nonneg (hx : 0 ≤ x) (h : ∀ c ∈ cs, 0 ≤ c) : 0 ≤ powerSum x cs := by
  induction cs with
  | nil => exact le_rfl
  | cons c cs ih =>
    obtain ⟨hHead, hTail⟩ := List.forall_mem_cons.mp h
    exact add_nonneg hHead (mul_nonneg hx (ih hTail))

theorem powerSum_pos (hx : 0 < x) (h : ∀ c ∈ cs, 0 ≤ c) (hPos : ∃ c ∈ cs, 0 < c) :
    0 < powerSum x cs := by
  induction cs with
  | nil =>
    obtain ⟨c, hMem, -⟩ := hPos
    exact absurd hMem List.not_mem_nil
  | cons c cs ih =>
    obtain ⟨hHead, hTail⟩ := List.forall_mem_cons.mp h
    obtain hc | hRest := (List.exists_mem_cons_iff _ _ _).mp hPos
    · exact add_pos_of_pos_of_nonneg hc (mul_nonneg hx.le (powerSum_nonneg hx.le hTail))
    · exact add_pos_of_nonneg_of_pos hHead (mul_pos hx (ih hTail hRest))

theorem powerSum_mono {y : K} (hx : 0 ≤ x) (hxy : x ≤ y) (h : ∀ c ∈ cs, 0 ≤ c) :
    powerSum x cs ≤ powerSum y cs := by
  induction cs with
  | nil => exact le_rfl
  | cons c cs ih =>
    obtain ⟨-, hTail⟩ := List.forall_mem_cons.mp h
    have hProduct := mul_le_mul hxy (ih hTail) (powerSum_nonneg hx hTail) (hx.trans hxy)
    exact add_le_add_right hProduct c

/-- At a larger point a run of negative coefficients falls at most by the power below its length. -/
theorem pow_mul_powerSum_le (hx : 0 ≤ x) (hFactor : 1 ≤ factor) (h : ∀ c ∈ cs, c ≤ 0) :
    factor ^ cs.length * powerSum x cs ≤ factor * powerSum (factor * x) cs := by
  induction cs with
  | nil => rw [powerSum, powerSum, mul_zero, mul_zero]
  | cons c cs ih =>
    obtain ⟨hHead, hTail⟩ := List.forall_mem_cons.mp h
    have hPower : factor ≤ factor ^ (cs.length + 1) := le_self_pow₀ hFactor (Nat.succ_ne_zero _)
    have hFirst : factor ^ (cs.length + 1) * c ≤ factor * c :=
      mul_le_mul_of_nonpos_right hPower hHead
    have hRest := mul_le_mul_of_nonneg_left (ih hTail) (mul_nonneg (zero_le_one.trans hFactor) hx)
    calc factor ^ (cs.length + 1) * powerSum x (c :: cs)
        = factor ^ (cs.length + 1) * c + factor * x * (factor ^ cs.length * powerSum x cs) := by
          rw [powerSum, pow_succ]
          ring
      _ ≤ factor * c + factor * x * (factor * powerSum (factor * x) cs) := add_le_add hFirst hRest
      _ = factor * powerSum (factor * x) (c :: cs) := by
          rw [powerSum]
          ring

theorem scaled_le (hx : 0 ≤ x) (hFactor : 1 ≤ factor) (hBefore : ∀ c ∈ before, c ≤ 0)
    (hAfter : ∀ c ∈ after, 0 ≤ c) :
    factor ^ before.length * (powerSum x before + factor * (x ^ before.length * powerSum x after)) ≤
      factor * powerSum (factor * x) (before ++ after) := by
  have hLow := pow_mul_powerSum_le hx hFactor hBefore
  have hNonneg : 0 ≤ factor := zero_le_one.trans hFactor
  have hGrows : powerSum x after ≤ powerSum (factor * x) after :=
    powerSum_mono hx (le_mul_of_one_le_left hx hFactor) hAfter
  have hHigh := mul_le_mul_of_nonneg_left hGrows
    (mul_nonneg hNonneg (pow_nonneg (mul_nonneg hNonneg hx) before.length))
  rw [powerSum_append]
  calc factor ^ before.length * (powerSum x before + factor * (x ^ before.length * powerSum x after))
      = factor ^ before.length * powerSum x before + factor * (factor * x) ^ before.length *
        powerSum x after := by
        rw [mul_pow]
        ring
    _ ≤ factor * powerSum (factor * x) before + factor * (factor * x) ^ before.length * powerSum
      (factor * x) after :=
        add_le_add hLow hHigh
    _ = factor * (powerSum (factor * x) before + (factor * x) ^ before.length * powerSum
      (factor * x) after) := by
        ring

/-- Once the sum is not negative it is positive further on. -/
theorem CrossesOnce.pos_of_lt (h : CrossesOnce cs) {y : K} (hx : 0 < x) (hxy : x < y)
    (hSum : 0 ≤ powerSum x cs) : 0 < powerSum y cs := by
  obtain ⟨before, after, rfl, hBefore, -, hAfter, hPos⟩ := h.runs
  have hFactor : 1 < y / x := (one_lt_div hx).mpr hxy
  have hy : y / x * x = y := div_mul_cancel₀ y hx.ne'
  have hScaled := scaled_le hx.le hFactor.le hBefore hAfter
  rw [hy] at hScaled
  have hTail : 0 < x ^ before.length * powerSum x after :=
    mul_pos (pow_pos hx _) (powerSum_pos hx hAfter hPos)
  have hMore : powerSum x (before ++ after) <
      powerSum x before + y / x * (x ^ before.length * powerSum x after) := by
    rw [powerSum_append]
    exact add_lt_add_right (lt_mul_of_one_lt_left hTail hFactor) _
  have hPositive :=
    mul_pos (pow_pos (zero_lt_one.trans hFactor) before.length) (hSum.trans_lt hMore)
  exact pos_of_mul_pos_right (hPositive.trans_le hScaled) (zero_le_one.trans hFactor.le)

theorem CrossesOnce.neg_of_lt (h : CrossesOnce cs) {y : K} (hx : 0 < x) (hxy : x < y)
    (hSum : powerSum y cs ≤ 0) : powerSum x cs < 0 := by
  by_contra hNot
  exact (h.pos_of_lt hx hxy (not_lt.mp hNot)).not_ge hSum

theorem CrossesOnce.exists_pos (h : CrossesOnce cs) : ∃ x, 0 < x ∧ 0 < powerSum x cs := by
  obtain ⟨before, after, rfl, hBefore, hNeg, hAfter, hPos⟩ := h.runs
  have hTail := powerSum_pos one_pos hAfter hPos
  refine ⟨1 + |powerSum 1 before| / powerSum 1 after, by positivity, ?_⟩
  have hFactor : 1 ≤ 1 + |powerSum 1 before| / powerSum 1 after :=
    le_add_of_nonneg_right (by positivity)
  have hScaled := scaled_le zero_le_one hFactor hBefore hAfter
  rw [one_pow, one_mul, mul_one] at hScaled
  have hSum : 0 < powerSum 1 before + (1 + |powerSum 1 before| / powerSum 1 after) *
      powerSum 1 after := by
    rw [add_mul, one_mul, div_mul_cancel₀ _ hTail.ne']
    linarith [neg_abs_le (powerSum 1 before)]
  have hPositive := mul_pos (pow_pos (zero_lt_one.trans_le hFactor) before.length) hSum
  exact pos_of_mul_pos_right (hPositive.trans_le hScaled) (zero_le_one.trans hFactor)

theorem CrossesOnce.exists_neg (h : CrossesOnce cs) : ∃ x, 0 < x ∧ powerSum x cs < 0 := by
  obtain ⟨before, after, rfl, hBefore, ⟨c, hMem, hc⟩, hAfter, -⟩ := h.runs
  have hHead : powerSum 1 before < 0 := by
    rw [← neg_pos, ← powerSum_neg_map]
    refine powerSum_pos one_pos ?_ ⟨-c, List.mem_map_of_mem hMem, neg_pos.mpr hc⟩
    intro d hd
    obtain ⟨e, he, rfl⟩ := List.mem_map.mp hd
    exact neg_nonneg.mpr (hBefore e he)
  have hTail := powerSum_nonneg zero_le_one hAfter
  -- far enough below one, the first run outweighs the second
  let factor := 1 + powerSum 1 after / -powerSum 1 before
  have hFactor : 1 ≤ factor := le_add_of_nonneg_right (div_nonneg hTail (neg_pos.mpr hHead).le)
  have hFactorPos : 0 < factor := zero_lt_one.trans_le hFactor
  refine ⟨factor⁻¹, inv_pos.mpr hFactorPos, ?_⟩
  have hPoint : factor * factor⁻¹ = 1 := mul_inv_cancel₀ hFactorPos.ne'
  have hLow := pow_mul_powerSum_le (inv_pos.mpr hFactorPos).le hFactor hBefore
  rw [hPoint] at hLow
  have hHigh : powerSum factor⁻¹ after ≤ powerSum 1 after :=
    powerSum_mono (inv_pos.mpr hFactorPos).le (inv_le_one_of_one_le₀ hFactor) hAfter
  have hSum : factor * powerSum 1 before + powerSum 1 after < 0 := by
    have hCancel : powerSum 1 after / -powerSum 1 before * powerSum 1 before =
        -powerSum 1 after := by
      rw [div_neg, neg_mul, div_mul_cancel₀ _ hHead.ne]
    change (1 + powerSum 1 after / -powerSum 1 before) * powerSum 1 before + powerSum 1 after < 0
    rw [add_mul, one_mul, hCancel]
    linarith
  have hPower : factor ^ before.length * powerSum factor⁻¹ (before ++ after) < 0 := by
    rw [powerSum_append, mul_add, ← mul_assoc, ← mul_pow, hPoint, one_pow, one_mul]
    linarith
  exact neg_of_mul_neg_right hPower (pow_pos hFactorPos _).le

end Order

section Reals

variable {cs : List ℝ}

theorem continuous_powerSum (cs : List ℝ) : Continuous fun x => powerSum x cs := by
  induction cs with
  | nil => exact continuous_const
  | cons c cs ih => exact continuous_const.add (continuous_id.mul ih)

theorem CrossesOnce.exists_root (h : CrossesOnce cs) : ∃ x, 0 < x ∧ powerSum x cs = 0 := by
  obtain ⟨low, hLow, hNeg⟩ := h.exists_neg
  obtain ⟨high, hHigh, hPos⟩ := h.exists_pos
  have hOrder : low ≤ high := by
    by_contra hNot
    exact (h.neg_of_lt hHigh (not_le.mp hNot) hNeg.le).not_ge hPos.le
  obtain ⟨x, ⟨hLowx, -⟩, hx⟩ :=
    intermediate_value_Icc hOrder (continuous_powerSum cs).continuousOn ⟨hNeg.le, hPos.le⟩
  exact ⟨x, hLow.trans_le hLowx, hx⟩

end Reals

end ProcureFoundation
