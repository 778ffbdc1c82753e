import ProcureFoundation.Foundation.ExactDecimals
import ProcureFoundation.Foundation.RoundingOrder
import ProcureFoundation.PriceReview.ColumnFit

/-!
# Movements of stored unit prices

Matching divides each price by its pack and the column rounds the quotient to four decimals.
Confirming the match compares the two rounded unit prices, where the methodology compares the prices
normalized to full precision. Unit prices that the column holds as they are lose nothing: the
rounding of the context does not show in the percentage.
-/

namespace ProcureFoundation.PriceReview

open Ingestion Matching Outcome

/-- The normalized price as its column holds it. -/
def storedUnitPrice (price quantity : ℚ) : Money :=
  FixedPoint.assign 4 (contextRound (price / quantity))

def exactMovement (oldPrice oldQuantity newPrice newQuantity : ℚ) : ℚ :=
  (newPrice / newQuantity - oldPrice / oldQuantity) / (oldPrice / oldQuantity)

/-- The unit price has no more decimals than the column that holds it. -/
def Unrounded (price quantity : ℚ) : Prop := ∃ amount : Money, amount.value = price / quantity

/-- The sides of a line as matching has inserted it, with the flag of their packs. -/
structure PersistedMatch (oldRow newRow : PriceListRow) (row : LineRow) : Prop where
  old : row.old = (ListSide.ofRow oldRow).stored
  new : row.new = (ListSide.ofRow newRow).stored
  packChanged : row.figures.packChanged = row.packsDiffer

/-- The price and the pack that are read of a row. -/
structure Packed (row : PriceListRow) (price quantity : ℚ) (unit : BaseUnit) : Prop where
  price : ∃ amount, (ListSide.ofRow row).price = some amount ∧ amount.toRat = some price
  pack : ∃ pack, packOf row.packSize = some pack ∧ pack.baseQuantity = quantity ∧
    pack.baseUnit = unit
  positive : 0 < quantity

def movementOf (difference : ℚ) : MovementType :=
  if 0 < difference then .priceIncrease else if difference < 0 then .priceDecrease else .noChange

variable {q price quantity : ℚ} {unit : BaseUnit} {row confirmed : LineRow}
  {oldRow newRow listRow : PriceListRow}

section UnitPrices

theorem toRat_decimalOfContext (q : ℚ) : (decimalOfContext q).toRat = some (contextRound q) := by
  have hUnit : (0 : ℚ) < 10 ^ (Int.log 10 |q| - 27) := zpow_pos (by norm_num) _
  rw [decimalOfContext, Decimal.toRat, Option.some.injEq, contextRound]
  congr 1
  obtain hNeg | hNonneg := lt_or_ge q 0
  · have hRound : 0 ≤ roundHalfEven (|q| / 10 ^ (Int.log 10 |q| - 27)) :=
      le_roundHalfEven (by rw [Int.cast_zero]; exact div_nonneg (abs_nonneg q) hUnit.le)
    rw [decide_eq_true hNeg, if_pos rfl, Nat.cast_natAbs, abs_of_nonneg hRound, abs_of_neg hNeg,
      neg_div, roundHalfEven_neg, Int.cast_neg, neg_one_mul, neg_neg]
  · have hRound : 0 ≤ roundHalfEven (q / 10 ^ (Int.log 10 |q| - 27)) :=
      le_roundHalfEven (by rw [Int.cast_zero]; exact div_nonneg hNonneg hUnit.le)
    rw [decide_eq_false hNonneg.not_gt, if_neg Bool.false_ne_true, one_mul, Nat.cast_natAbs]
    nth_rewrite 1 [abs_of_nonneg hNonneg]
    rw [abs_of_nonneg hRound]

theorem Packed.stored (h : Packed listRow price quantity unit) :
    (ListSide.ofRow listRow).stored.normalizedPrice = some (storedUnitPrice price quantity) ∧
      (ListSide.ofRow listRow).stored.normalizedBaseUnit = some unit := by
  obtain ⟨amount, hAmount, hPrice⟩ := h.price
  obtain ⟨pack, hPack, rfl, rfl⟩ := h.pack
  have hNormalize : normalize listRow.packSize (ListSide.ofRow listRow).price =
      some (decimalOfContext (price / pack.baseQuantity), pack.baseUnit) := by
    rw [hAmount, normalize, Option.bind_some, hPack, Option.bind_some, if_neg h.positive.ne',
      pricePerBaseUnit, hPrice]
  constructor
  · change ((normalize listRow.packSize (ListSide.ofRow listRow).price).map Prod.fst).bind moneyColumn = _
    rw [hNormalize, Option.map_some, Option.bind_some, moneyColumn, toRat_decimalOfContext]
    rfl
  · change (normalize listRow.packSize (ListSide.ofRow listRow).price).map Prod.snd = _
    rw [hNormalize]
    rfl

theorem persistedMatch_inserted (oldRow newRow : PriceListRow) (result : MatchResult) :
    PersistedMatch oldRow newRow (matchedLine (.ofRow oldRow) (.ofRow newRow) result).inserted :=
  ⟨rfl, rfl, rfl⟩

end UnitPrices

section Confirm

variable {oldPrice oldQuantity newPrice newQuantity : ℚ} {userId : ℕ} {candidate : Option LineRow}

theorem comparison_of_normalized {line : PriceReviewLine ℚ} {cmpOld cmpNew : ℚ}
    (hOld : line.old.normalizedPrice = some cmpOld) (hNew : line.new.normalizedPrice = some cmpNew)
    (hUnit : line.old.normalizedBaseUnit = line.new.normalizedBaseUnit) :
    line.comparisonBasis = .normalized ∧ comparison line = some (cmpOld, cmpNew) := by
  have hBasis : line.comparisonBasis = .normalized := by
    rw [PriceReviewLine.comparisonBasis, hOld, hNew, hUnit, determineComparisonBasis,
      if_pos ⟨rfl, rfl⟩, if_pos rfl]
  refine ⟨hBasis, ?_⟩
  rw [comparison, hBasis, if_neg (by decide), PriceReviewLine.comparedPrices, if_pos rfl,
    if_pos rfl, hOld, hNew]
  rfl

/-- The confirmed line compares the two stored unit prices. -/
theorem confirm_movement (hMatch : PersistedMatch oldRow newRow row)
    (hOld : Packed oldRow oldPrice oldQuantity unit)
    (hNew : Packed newRow newPrice newQuantity unit)
    (hConfirm : resolveMatch userId row .confirm candidate = .ok confirmed) :
    confirmed.figures.percentageChange =
      calculatePercentageChange (storedUnitPrice oldPrice oldQuantity).value
        (storedUnitPrice newPrice newQuantity).value ∧
      confirmed.figures.movementType = some (classifyMovementType true false false row.packsDiffer
        (calculatePercentageChange (storedUnitPrice oldPrice oldQuantity).value
          (storedUnitPrice newPrice newQuantity).value)) := by
  obtain ⟨decided, hDecided, hConfirm⟩ := exists_of_bind_eq_ok hConfirm
  obtain rfl := Except.ok.inj hDecided
  obtain ⟨calculated, hCalculated, hSave⟩ := exists_of_bind_eq_ok hConfirm
  obtain rfl := PriceReviewLine.eq_of_save hSave
  obtain ⟨hOldPrice, hOldUnit⟩ := hOld.stored
  obtain ⟨hNewPrice, hNewUnit⟩ := hNew.stored
  rw [← hMatch.old] at hOldPrice hOldUnit
  rw [← hMatch.new] at hNewPrice hNewUnit
  obtain ⟨hBasis, hCompared⟩ := @comparison_of_normalized
    { row.load with matchStatus := .matched, matchConfirmedByUserId := some userId } _ _
    (congrArg (Option.map FixedPoint.value) hOldPrice) (congrArg (Option.map FixedPoint.value) hNewPrice)
    (hOldUnit.trans hNewUnit.symm)
  obtain ⟨hMismatch, -⟩ | ⟨-, hNone, -⟩ | ⟨-, cmpOld, cmpNew, hPrices, hFigures⟩ :=
    calculateLineMovement_live rfl hCalculated
  · exact absurd (hBasis.symm.trans hMismatch) (by decide)
  · exact absurd (hCompared.symm.trans hNone) (Option.some_ne_none _)
  · obtain ⟨rfl, rfl⟩ := Prod.mk.inj (Option.some.inj (hPrices.symm.trans hCompared))
    rw [applyAnnualImpact_eq] at hFigures
    obtain ⟨hFigures, -⟩ := applyMargins_ok hFigures
    change calculated.figures.percentageChange = _ ∧ calculated.figures.movementType = _
    rw [hFigures, ← hMatch.packChanged]
    exact ⟨rfl, rfl⟩

end Confirm

section Signs

/-- A rounded movement keeps its sign unless it is at most half of the last decimal. -/
theorem movementOf_roundPercentage (q : ℚ) :
    (if 0 < (roundPercentage q).value then MovementType.priceIncrease
      else if (roundPercentage q).value < 0 then .priceDecrease else .noChange) = movementOf q ↔
    q = 0 ∨ 1 < 2000000 * |q| := by
  have hPower : (0 : ℚ) < 10 ^ 6 := by positivity
  have hPositive : 0 < (roundPercentage q).value ↔ 1 < 2000000 * q := by
    rw [FixedPoint.value, div_pos_iff_of_pos_right hPower, Int.cast_pos, roundPercentage,
      FixedPoint.quantize, lt_roundHalfEven_iff (by norm_num)]
    constructor
    · intro h
      push_cast at h
      linarith
    · intro h
      push_cast
      linarith
  have hNegative : (roundPercentage q).value < 0 ↔ 1 < 2000000 * -q := by
    rw [FixedPoint.value, div_lt_iff₀ hPower, zero_mul, Int.cast_lt_zero, roundPercentage,
      FixedPoint.quantize, roundHalfEven_lt_iff (by norm_num)]
    constructor
    · intro h
      push_cast at h
      linarith
    · intro h
      push_cast
      linarith
  rw [movementOf, if_congr hPositive rfl rfl, if_congr hNegative rfl rfl]
  obtain hBelow | hZero | hAbove := lt_trichotomy q 0
  · rw [if_neg (by linarith : ¬1 < 2000000 * q), if_neg hBelow.not_gt, if_pos hBelow,
      abs_of_neg hBelow]
    by_cases hSmall : 1 < 2000000 * -q
    · rw [if_pos hSmall]
      exact iff_of_true rfl (.inr hSmall)
    · rw [if_neg hSmall]
      exact iff_of_false (by decide) (fun h => h.elim hBelow.ne hSmall)
  · rw [hZero]
    norm_num
  · rw [if_pos hAbove, abs_of_pos hAbove]
    by_cases hSmall : 1 < 2000000 * q
    · rw [if_pos hSmall]
      exact iff_of_true rfl (.inr hSmall)
    · rw [if_neg hSmall, if_neg (by linarith : ¬1 < 2000000 * -q)]
      exact iff_of_false (by decide) (fun h => h.elim hAbove.ne' hSmall)

end Signs

/-- The stored percentage is the exact one to its six decimals, and with one pack the movement goes
the way of the exact difference. -/
structure MovedExactly (row confirmed : LineRow) (oldPrice oldQuantity newPrice newQuantity : ℚ) :
    Prop where
  percentage : confirmed.figures.percentageChange =
    some (roundPercentage (exactMovement oldPrice oldQuantity newPrice newQuantity))
  movement : row.packsDiffer = false →
    confirmed.figures.movementType =
      some (movementOf (newPrice / newQuantity - oldPrice / oldQuantity))

section Exact

variable {oldPrice oldQuantity newPrice newQuantity : ℚ} {userId : ℕ} {candidate : Option LineRow}

theorem movementOf_div {difference scale : ℚ} (h : 0 < scale) :
    movementOf (difference / scale) = movementOf difference := by
  rw [movementOf, movementOf, if_congr (div_pos_iff_of_pos_right h) rfl rfl]
  congr 1
  rw [if_congr (by rw [div_lt_iff₀ h, zero_mul]) rfl rfl]

theorem quantity_eq_of_samePack (hMatch : PersistedMatch oldRow newRow row)
    (hOld : Packed oldRow oldPrice oldQuantity unit)
    (hNew : Packed newRow newPrice newQuantity unit) (hSame : row.packsDiffer = false) :
    newQuantity = oldQuantity := by
  obtain ⟨oldPack, hOldPack, rfl, -⟩ := hOld.pack
  obtain ⟨newPack, hNewPack, rfl, -⟩ := hNew.pack
  rw [PriceReviewLine.packsDiffer, hMatch.old, hMatch.new, bne_eq_false_iff_eq] at hSame
  have hText : oldRow.packSize.getD "" = newRow.packSize.getD "" := hSame
  rw [packOf, hText] at hOldPack
  exact congrArg ParsedPack.baseQuantity (Option.some.inj (hNewPack.symm.trans hOldPack))

theorem exactMovement_samePack (hQuantity : oldQuantity ≠ 0) (hPrice : oldPrice ≠ 0) :
    exactMovement oldPrice oldQuantity newPrice oldQuantity = (newPrice - oldPrice) / oldPrice := by
  rw [exactMovement]
  field_simp

/-- A percentage that fits its column is the same whether the context rounds the movement first or
not. -/
theorem roundPercentage_movement {old new : Money} {cmpOld cmpNew : ℚ} (hOld : PriceOf cmpOld old)
    (hNew : PriceOf cmpNew new) (hPositive : 0 < cmpOld)
    (hLimit : |(cmpNew - cmpOld) / cmpOld| < percentageLimit) :
    roundPercentage (contextRound (contextRound (cmpNew - cmpOld) / cmpOld)) =
      roundPercentage ((cmpNew - cmpOld) / cmpOld) := by
  have hUnits : (0 : ℚ) < old.units := by
    rw [hOld.value, FixedPoint.value, div_pos_iff_of_pos_right (by positivity)] at hPositive
    exact hPositive
  have hQuotient : (cmpNew - cmpOld) / cmpOld = ((new.units - old.units : ℤ) : ℚ) / old.units := by
    rw [hOld.value, hNew.value, FixedPoint.value, FixedPoint.value, Int.cast_sub]
    field_simp
  rw [(calculatePriceChange_eq hOld hNew).1]
  rw [hQuotient] at hLimit ⊢
  exact FixedPoint.quantize_contextRound_div (by exact_mod_cast hUnits) hOld.fits
    (hLimit.trans (by norm_num [percentageLimit]))

theorem Unrounded.stored (h : Unrounded price quantity)
    (hFits : fitsNumeric 18 (some (storedUnitPrice price quantity)) = true) :
    (storedUnitPrice price quantity).value = price / quantity := by
  obtain ⟨amount, hAmount⟩ := h
  rw [storedUnitPrice, ← hAmount] at hFits ⊢
  have hRounded : |contextRound amount.value| < (9999999999999999995000000000 : ℤ) * 10 ^ (-14 : ℤ) := by
    refine (fits_assign.mp hFits).trans_eq ?_
    norm_num [amountLimit]
  rw [abs_contextRound_lt_iff (by norm_num) (by norm_num) (by norm_num), FixedPoint.value, abs_div,
    abs_of_pos (by positivity : (0 : ℚ) < 10 ^ 4), div_lt_iff₀ (by positivity)] at hRounded
  have hUnits : |(amount.units : ℚ)| < 10 ^ 28 := hRounded.trans (by norm_num)
  have hDigits : amount.Digits := by
    rw [FixedPoint.Digits]
    exact_mod_cast hUnits
  rw [FixedPoint.contextRound_value hDigits, FixedPoint.assign_value]

theorem Packed.priceOf (hPacked : Packed listRow price quantity unit) (h : Unrounded price quantity)
    (hFits : (ListSide.ofRow listRow).stored.fits = true)
    (hNonneg : NonnegPrices (ListSide.ofRow listRow).stored) :
    PriceOf (price / quantity) (storedUnitPrice price quantity) := by
  have hPrice := hPacked.stored.1
  simp only [ListSide.fits, Bool.and_eq_true] at hFits
  obtain ⟨-, hColumn⟩ := hFits
  rw [hPrice] at hColumn
  exact ⟨(h.stored hColumn).symm, hNonneg.normalizedPrice _ hPrice,
    (abs_lt.mp (of_decide_eq_true hColumn)).2⟩

theorem comparison_confirmed (hMatch : PersistedMatch oldRow newRow row)
    (hOld : Packed oldRow oldPrice oldQuantity unit)
    (hNew : Packed newRow newPrice newQuantity unit) :
    comparison (PriceReview.confirmed userId row).load =
      some ((storedUnitPrice oldPrice oldQuantity).value,
        (storedUnitPrice newPrice newQuantity).value) := by
  obtain ⟨hOldPrice, hOldUnit⟩ := hOld.stored
  obtain ⟨hNewPrice, hNewUnit⟩ := hNew.stored
  rw [← hMatch.old] at hOldPrice hOldUnit
  rw [← hMatch.new] at hNewPrice hNewUnit
  exact (comparison_of_normalized (congrArg (Option.map FixedPoint.value) hOldPrice)
    (congrArg (Option.map FixedPoint.value) hNewPrice) (hOldUnit.trans hNewUnit.symm)).2

theorem confirm_completes_iff (hMatch : PersistedMatch oldRow newRow row)
    (hOld : Packed oldRow oldPrice oldQuantity unit)
    (hNew : Packed newRow newPrice newQuantity unit) (hRow : Stored row) :
    (∃ confirmed, resolveMatch userId row .confirm candidate = .ok confirmed) ↔
      ComparisonFits (storedUnitPrice oldPrice oldQuantity).value
        (storedUnitPrice newPrice newQuantity).value
        row.load.annualQuantity row.load.sellingPrice := by
  have hFits :
    (∃ after, resolveMatch userId row .confirm candidate = .ok after ∧ after.fits = true) ↔
      MovementFits (PriceReview.confirmed userId row).load :=
        pairing_fits_iff (hRow.confirmed userId)
  have hCompared := @comparison_confirmed _ _ _ _ _ _ _ _ userId hMatch hOld hNew
  constructor
  · rintro ⟨confirmed, hConfirm⟩
    obtain ⟨decided, -, hDecided⟩ := exists_of_bind_eq_ok hConfirm
    obtain ⟨calculated, -, hSave⟩ := exists_of_bind_eq_ok hDecided
    obtain ⟨hSaved, rfl⟩ := save_eq_ok.mp hSave
    exact hFits.mp ⟨_, hConfirm, hSaved⟩ rfl _ _ hCompared
  · intro hComparison
    obtain ⟨confirmed, hConfirm, -⟩ := hFits.mpr fun _ cmpOld cmpNew hPrices => by
      obtain ⟨rfl, rfl⟩ := Prod.mk.inj (Option.some.inj (hPrices.symm.trans hCompared))
      exact hComparison
    exact ⟨confirmed, hConfirm⟩

/-- Where no unit price needs more than four decimals, confirming the match stores the exact
movement exactly when the figures of the comparison fit their columns and, with one pack, the prices
are equal or differ by more than a two-millionth. -/
theorem movement_exact_iff (hMatch : PersistedMatch oldRow newRow row)
    (hOld : Packed oldRow oldPrice oldQuantity unit)
    (hNew : Packed newRow newPrice newQuantity unit) (hPrice : 0 < oldPrice) (hRow : Stored row)
    (hOldUnrounded : Unrounded oldPrice oldQuantity)
    (hNewUnrounded : Unrounded newPrice newQuantity) :
    (∃ confirmed, resolveMatch userId row .confirm candidate = .ok confirmed ∧
        MovedExactly row confirmed oldPrice oldQuantity newPrice newQuantity) ↔
      ComparisonFits (oldPrice / oldQuantity)
      (newPrice / newQuantity) row.load.annualQuantity row.load.sellingPrice ∧
      (row.packsDiffer = false → newPrice = oldPrice ∨
        oldPrice < 2000000 * |newPrice - oldPrice|) := by
  have hOldPrice :=
    hOld.priceOf hOldUnrounded (hMatch.old ▸ hRow.sides_fit.1) (hMatch.old ▸ hRow.old)
  have hNewPrice :=
    hNew.priceOf hNewUnrounded (hMatch.new ▸ hRow.sides_fit.2) (hMatch.new ▸ hRow.new)
  have hUnitPrice : 0 < oldPrice / oldQuantity := div_pos hPrice hOld.positive
  have hCompletes := @confirm_completes_iff _ _ _ _ _ _ _ _ userId candidate hMatch hOld hNew hRow
  rw [← hOldPrice.value, ← hNewPrice.value] at hCompletes
  have hFigures : ∀ confirmed, resolveMatch userId row .confirm candidate = .ok confirmed →
      (MovedExactly row confirmed oldPrice oldQuantity newPrice newQuantity ↔
        (row.packsDiffer = false → newPrice = oldPrice ∨
          oldPrice < 2000000 * |newPrice - oldPrice|)) := by
    intro confirmed hConfirm
    have hLimit := (hCompletes.mp ⟨confirmed, hConfirm⟩).percentage hUnitPrice.ne'
    obtain ⟨hPercentage, hMovement⟩ := confirm_movement hMatch hOld hNew hConfirm
    rw [← hOldPrice.value, ← hNewPrice.value, calculatePercentageChange, if_neg hUnitPrice.ne',
      roundPercentage_movement hOldPrice hNewPrice hUnitPrice hLimit] at hPercentage hMovement
    have hSign : row.packsDiffer = false →
        (confirmed.figures.movementType =
          some (movementOf (newPrice / newQuantity - oldPrice / oldQuantity)) ↔
          newPrice = oldPrice ∨ oldPrice < 2000000 * |newPrice - oldPrice|) := by
      intro hPacks
      rw [hMovement, hPacks, classifyMovementType, Option.some.injEq, ← movementOf_div hUnitPrice]
      refine (movementOf_roundPercentage _).trans ?_
      obtain rfl := quantity_eq_of_samePack hMatch hOld hNew hPacks
      rw [← exactMovement, exactMovement_samePack hOld.positive.ne' hPrice.ne', div_eq_zero_iff,
        or_iff_left hPrice.ne',
        sub_eq_zero, abs_div, abs_of_pos hPrice, mul_div_assoc', one_lt_div hPrice]
    constructor
    · rintro ⟨-, hDirection⟩ hPacks
      exact (hSign hPacks).mp (hDirection hPacks)
    · intro h
      exact ⟨hPercentage, fun hPacks => (hSign hPacks).mpr (h hPacks)⟩
  constructor
  · rintro ⟨confirmed, hConfirm, hExact⟩
    exact ⟨hCompletes.mp ⟨confirmed, hConfirm⟩, (hFigures confirmed hConfirm).mp hExact⟩
  · rintro ⟨hComparison, hDirection⟩
    obtain ⟨confirmed, hConfirm⟩ := hCompletes.mpr hComparison
    exact ⟨confirmed, hConfirm, (hFigures confirmed hConfirm).mpr hDirection⟩

end Exact

section Samples

def matchedRow (oldRow newRow : PriceListRow) : LineRow :=
  (matchedLine (.ofRow oldRow) (.ofRow newRow)
    (findBestMatch asciiTools (candidateItem oldRow) [candidateItem newRow])).inserted

theorem packed_flour {price : String} {coefficient : ℕ} {exponent : ℤ} {value : ℚ}
    (hPrice : (ListSide.ofRow (plainRow "FL-10" price)).price =
      some (.finite false coefficient exponent))
    (hValue : (Decimal.finite false coefficient exponent).toRat = some value) :
    Packed (plainRow "FL-10" price) value 10 .kg where
  price := ⟨_, hPrice, hValue⟩
  pack := ⟨⟨1, 10, "kg", 10, .kg⟩, (by decide +kernel : packOf (some "10kg") = _), rfl, rfl⟩
  positive := by norm_num

theorem flour_moved_exactly : ∃ confirmed,
    resolveMatch 7 (matchedRow (plainRow "FL-10" "120.50") (plainRow "FL-10" "130")) .confirm none =
      .ok confirmed ∧
    MovedExactly (matchedRow (plainRow "FL-10" "120.50") (plainRow "FL-10" "130")) confirmed
      (241 / 2) 10 130 10 := by
  have hStored : Stored (matchedRow (plainRow "FL-10" "120.50") (plainRow "FL-10" "130")) := by
    have hNonneg : ∀ price ∈ ["120.50", "130"], let side :=
      (ListSide.ofRow (plainRow "FL-10" price)).stored
        (∀ amount ∈ side.price, 0 ≤ amount.units) ∧ ∀ amount ∈ side.normalizedPrice,
          0 ≤ amount.units := by
      decide +kernel
    have hOld := hNonneg "120.50" (by decide)
    have hNew := hNonneg "130" (by decide)
    exact ⟨by decide +kernel, ⟨hOld.1, hOld.2⟩, ⟨hNew.1, hNew.2⟩⟩
  exact (movement_exact_iff (persistedMatch_inserted _ _ _)
    (@packed_flour "120.50" 12050 (-2) (241 / 2) (by decide +kernel) (by decide +kernel))
    (@packed_flour "130" 130 0 130 (by decide +kernel) (by decide +kernel)) (by norm_num) hStored
    ⟨⟨120500⟩, by norm_num [FixedPoint.value]⟩ ⟨⟨130000⟩, by norm_num [FixedPoint.value]⟩).mpr
    ⟨by decide +kernel, fun _ => .inr (by norm_num)⟩

def toothpickRow (price : String) : PriceListRow :=
  ⟨some "TP-500", some "Toothpicks", some "500 units", some price, none⟩

/-- One per cent on a price of two thousandths of a unit is lost. -/
theorem toothpicks_unmoved : ∃ confirmed,
    resolveMatch 7 (matchedRow (toothpickRow "1.00") (toothpickRow "1.01")) .confirm none =
      .ok confirmed ∧
    Packed (toothpickRow "1.00") 1 500 .each ∧ Packed (toothpickRow "1.01") (101 / 100) 500 .each ∧
    confirmed.figures.percentageChange = some 0 ∧ confirmed.figures.movementType = some .noChange ∧
    roundPercentage (exactMovement 1 500 (101 / 100) 500) = ⟨10000⟩ ∧
    ¬MovedExactly (matchedRow (toothpickRow "1.00") (toothpickRow "1.01")) confirmed 1 500
      (101 / 100) 500 := by
  obtain ⟨confirmed, hConfirm, hFigures⟩ := @exists_of_any _ _ (resolveMatch 7
    (matchedRow (toothpickRow "1.00") (toothpickRow "1.01")) .confirm none)
    (fun confirmed => decide (confirmed.figures.percentageChange = some 0 ∧
      confirmed.figures.movementType = some .noChange)) (by decide +kernel)
  obtain ⟨hPercentage, hMovement⟩ := of_decide_eq_true hFigures
  have hExact : roundPercentage (exactMovement 1 500 (101 / 100) 500) = ⟨10000⟩ := by decide +kernel
  refine ⟨confirmed, hConfirm, ?_, ?_, hPercentage, hMovement, hExact, ?_⟩
  · exact ⟨⟨.finite false 100 (-2), by decide +kernel, by decide +kernel⟩,
      ⟨⟨500, 1, "each", 500, .each⟩, by decide +kernel, rfl, rfl⟩, by norm_num⟩
  · exact ⟨⟨.finite false 101 (-2), by decide +kernel, by decide +kernel⟩,
      ⟨⟨500, 1, "each", 500, .each⟩, by decide +kernel, rfl, rfl⟩, by norm_num⟩
  · rintro ⟨hSame, -⟩
    rw [hPercentage, hExact] at hSame
    exact absurd hSame (by decide)

end Samples

end ProcureFoundation.PriceReview
