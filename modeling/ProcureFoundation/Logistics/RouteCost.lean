import ProcureFoundation.Foundation.RoundingBounds

/-!
# Segregated route cost

The cost pool of a trip is shared by distance between the legs from and to the depot and the legs
between drops. The two shares are rounded each for itself, so they add up to the pool exactly when
they do not both end in half a unit of an odd pool. The arithmetic before the rounding is exact.
-/

namespace ProcureFoundation.Logistics

/-- The text of an error with the number that it prints. -/
structure ValueError where
  before : String
  got : ℚ
  after : String
deriving DecidableEq

structure SegregatedRouteCost where
  fixedStemCost : Money
  variableDropCost : Money
  totalDistanceKm : ℚ
deriving DecidableEq

def roundCurrency (amount : ℚ) : Money := FixedPoint.quantize 4 amount

def calculateSegregatedRouteCost (stemDistanceKm dropDistanceKm returnDistanceKm totalTripCostPool : ℚ) :
    Except ValueError SegregatedRouteCost := do
  if stemDistanceKm ≤ 0 then
    throw ⟨"stem_distance_km must be positive, got ", stemDistanceKm,
      " - a delivery trip must leave the depot"⟩
  if returnDistanceKm ≤ 0 then
    throw ⟨"return_distance_km must be positive, got ", returnDistanceKm,
      " - a delivery trip must return to the depot"⟩
  if dropDistanceKm < 0 then
    throw ⟨"drop_distance_km cannot be negative, got ", dropDistanceKm, ""⟩
  if totalTripCostPool ≤ 0 then
    throw ⟨"total_trip_cost_pool must be positive, got ", totalTripCostPool,
      " - if this is a Collection trip " ++
      "(genuinely zero cost), route it through separate logic, not this function"⟩
  let totalDistance := stemDistanceKm + dropDistanceKm + returnDistanceKm
  let costPerKm := totalTripCostPool / totalDistance
  return {
    fixedStemCost := roundCurrency ((stemDistanceKm + returnDistanceKm) * costPerKm)
    variableDropCost := roundCurrency (dropDistanceKm * costPerKm)
    totalDistanceKm := totalDistance }

section Conservation

variable {stem drop back : ℚ} {pool : Money}

/-- The trip has a cost, and its parts are the pool. -/
def Conserves (stem drop back : ℚ) (pool : Money) : Prop :=
  ∃ cost, calculateSegregatedRouteCost stem drop back pool.value = .ok cost ∧
    cost.fixedStemCost + cost.variableDropCost = pool

/-- The pool is odd in its last decimal, and the depot legs take an odd number of half units of it.
-/
def SplitsHalfUnit (stem drop back : ℚ) (pool : Money) : Prop :=
  pool.units % 2 = 1 ∧ ∃ k : ℤ, 2 * ((stem + back) * pool.units) =
    (2 * k + 1) * (stem + drop + back)

theorem calculateSegregatedRouteCost_ok (hStem : 0 < stem) (hDrop : 0 ≤ drop) (hBack : 0 < back)
    (hPool : 0 < pool.value) : calculateSegregatedRouteCost stem drop back pool.value =
      .ok ⟨roundCurrency ((stem + back) * (pool.value / (stem + drop + back))),
        roundCurrency (drop * (pool.value / (stem + drop + back))), stem + drop + back⟩ := by
  unfold calculateSegregatedRouteCost
  rw [if_neg hStem.not_ge, if_neg hBack.not_ge, if_neg hDrop.not_gt, if_neg hPool.not_ge]
  rfl

end Conservation

end ProcureFoundation.Logistics
