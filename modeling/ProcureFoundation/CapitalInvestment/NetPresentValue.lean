import ProcureFoundation.Foundation.FixedPoint
import ProcureFoundation.Foundation.OneSignChange

/-!
# Net present value

Cash flows are discounted at one rate, the first not at all. The arithmetic is exact up to the final
rounding. The value is that of a sum of powers of the discount factor, so that flows with one change
of sign have one rate at which it is zero.
-/

namespace ProcureFoundation.CapitalInvestment

section Value

variable {K : Type} [Field K]

def npvAtRate (rate : K) (cashFlows : List K) : K :=
  cashFlows.zipIdx.foldl (fun total flow => total + flow.1 / (1 + rate) ^ flow.2) 0

variable {rate : K} {cashFlows : List K}

theorem foldl_zipIdx (total : K) (t : ℕ) : (cashFlows.zipIdx t).foldl
    (fun total flow => total + flow.1 / (1 + rate) ^ flow.2) total =
      total + ((1 + rate)⁻¹) ^ t * powerSum (1 + rate)⁻¹ cashFlows := by
  induction cashFlows generalizing total t with
  | nil => rw [List.zipIdx_nil, List.foldl_nil, powerSum, mul_zero, add_zero]
  | cons cf cashFlows ih =>
    rw [List.zipIdx_cons, List.foldl_cons, ih, powerSum, pow_succ, div_eq_mul_inv, ← inv_pow]
    ring

theorem npvAtRate_eq (rate : K) (cashFlows : List K) :
    npvAtRate rate cashFlows = powerSum (1 + rate)⁻¹ cashFlows := by
  rw [npvAtRate, foldl_zipIdx, pow_zero, one_mul, zero_add]

theorem npvAtRate_neg : npvAtRate rate (cashFlows.map (- ·)) = -npvAtRate rate cashFlows := by
  have hNeg := @powerSum_map_mul K _ (1 + rate)⁻¹ cashFlows (-1)
  simp only [neg_one_mul] at hNeg
  rw [npvAtRate_eq, npvAtRate_eq, hNeg]

theorem npvAtRate_mul (factor : K) :
    npvAtRate rate (cashFlows.map (factor * ·)) = factor * npvAtRate rate cashFlows := by
  rw [npvAtRate_eq, npvAtRate_eq, powerSum_map_mul]

theorem npvAtRate_replicate_zero (count : ℕ) :
    npvAtRate rate (List.replicate count 0 ++ cashFlows) =
      (1 + rate)⁻¹ ^ count * npvAtRate rate cashFlows := by
  rw [npvAtRate_eq, npvAtRate_eq, powerSum_replicate_zero]

theorem npvAtRate_map {L : Type} [Field L] (f : K →+* L) :
    npvAtRate (f rate) (cashFlows.map f) = f (npvAtRate rate cashFlows) := by
  have hMap : ∀ x cs, powerSum (f x) (cs.map f) = f (powerSum x cs) := by
    intro x cs
    induction cs with
    | nil => exact (map_zero f).symm
    | cons c cs ih => rw [List.map_cons, powerSum, powerSum, ih, map_add, map_mul]
  rw [npvAtRate_eq, npvAtRate_eq, ← map_one f, ← map_add, ← map_inv₀, hMap]

end Value

abbrev Rate := FixedPoint 6

def roundRate (value : ℚ) : Rate := FixedPoint.quantize 6 value

section SignChanges

variable {K : Type} [Zero K] [LinearOrder K]

/-- Zeros are no change of sign; only flips between neighbouring flows that are not zero count. -/
def countSignChanges (cashFlows : List K) : ℕ :=
  let nonzero := cashFlows.filter (· ≠ 0)
  if nonzero.length < 2 then 0
  else ((nonzero.tail.zip nonzero).filter fun flows =>
    decide (0 < flows.1) != decide (0 < flows.2)).length

end SignChanges

end ProcureFoundation.CapitalInvestment
