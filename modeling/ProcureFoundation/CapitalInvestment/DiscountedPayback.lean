import ProcureFoundation.CapitalInvestment.NetPresentValue

/-!
# Discounted payback

The years until the discounted flows so far add up to zero, with the part of the crossing year that
its flow takes. The value before the final rounding is the zero of the interpolated running total,
there is one exactly where the net present value is not negative, and it comes no sooner at a higher
rate.
-/

namespace ProcureFoundation.CapitalInvestment

def paybackFrom (discountRate : ℚ) : ℕ → ℚ → List ℚ → Option ℚ
  | _, _, [] => none
  | t, cumulative, cf :: cashFlows =>
    let discounted := cf / (1 + discountRate) ^ t
    if 0 < t ∧ cumulative < 0 ∧ 0 ≤ cumulative + discounted then
      some ((t : ℚ) - 1 + -cumulative / discounted)
    else paybackFrom discountRate (t + 1) (cumulative + discounted) cashFlows

/-- The payback period before it is rounded. -/
def paybackPeriod (discountRate : ℚ) (cashFlows : List ℚ) : Option ℚ :=
  paybackFrom discountRate 0 0 cashFlows

/-- The message goes on with the rate as its decimal is written. -/
structure DiscountRateError where
  message : String
  got : ℚ

def calculateDiscountedPaybackPeriod (discountRate : ℚ) (cashFlows : List ℚ) :
    Except DiscountRateError (Option Rate) :=
  if discountRate ≤ 0 then .error ⟨"discount_rate must be positive, got ", discountRate⟩
  else .ok ((paybackPeriod discountRate cashFlows).map roundRate)

/-- The discounted flows of the years before. -/
def totalBefore (discountRate : ℚ) (cashFlows : List ℚ) (year : ℕ) : ℚ :=
  npvAtRate discountRate (cashFlows.take year)

def totalThrough (discountRate : ℚ) (cashFlows : List ℚ) (year : ℕ) : ℚ :=
  totalBefore discountRate cashFlows (year + 1)

/-- An outlay and then no further one. -/
structure Conventional (cashFlows : List ℚ) : Prop where
  outlay : ∃ first rest, cashFlows = first :: rest ∧ first < 0 ∧ ∀ cf ∈ rest, 0 ≤ cf

/-- The running total crosses zero in this year. -/
structure Crosses (discountRate : ℚ) (cashFlows : List ℚ) (year : ℕ) : Prop where
  later : 0 < year
  within : year < cashFlows.length
  before : totalBefore discountRate cashFlows year < 0
  through : 0 ≤ totalThrough discountRate cashFlows year

def crossingPoint (discountRate : ℚ) (cashFlows : List ℚ) (year : ℕ) : ℚ :=
  year - 1 + -totalBefore discountRate cashFlows year /
    (totalThrough discountRate cashFlows year - totalBefore discountRate cashFlows year)

section Totals

variable {discountRate : ℚ} {cashFlows : List ℚ} {year : ℕ}

theorem totalThrough_sub (h : year < cashFlows.length) : totalThrough discountRate cashFlows year -
    totalBefore discountRate cashFlows year = cashFlows[year] / (1 + discountRate) ^ year := by
  have hLength : (cashFlows.take year).length = year := List.length_take_of_le h.le
  rw [totalThrough, totalBefore, totalBefore, List.take_succ_eq_append_getElem h, npvAtRate_eq,
    npvAtRate_eq,
    powerSum_append, hLength, add_sub_cancel_left, powerSum, powerSum, mul_zero, add_zero, inv_pow,
    div_eq_inv_mul]

theorem totalBefore_length :
    totalBefore discountRate cashFlows cashFlows.length = npvAtRate discountRate cashFlows := by
  rw [totalBefore, List.take_length]

/-- The loop finds the first crossing. -/
theorem paybackFrom_eq_some_iff {p : ℚ} {rest : List ℚ} (hRest : cashFlows.drop year = rest)
    (hYear : year ≤ cashFlows.length) :
    paybackFrom discountRate year (totalBefore discountRate cashFlows year) rest = some p ↔
      ∃ crossing, year ≤ crossing ∧ Crosses discountRate cashFlows crossing ∧
        (∀ other, year ≤ other → other < crossing → ¬Crosses discountRate cashFlows other) ∧
        p = crossingPoint discountRate cashFlows crossing := by
  induction rest generalizing year with
  | nil =>
    have hEnd : cashFlows.length ≤ year := List.drop_eq_nil_iff.mp hRest
    constructor
    · intro h
      cases h
    · rintro ⟨crossing, hLater, hCrosses, -⟩
      exact absurd (hCrosses.within.trans_le hEnd) hLater.not_gt
  | cons cf rest ih =>
    have hLess : year < cashFlows.length := by
      by_contra hNot
      rw [List.drop_eq_nil_of_le (not_lt.mp hNot)] at hRest
      cases hRest
    have hFlow : cashFlows[year] = cf ∧ cashFlows.drop (year + 1) = rest := by
      rw [List.drop_eq_getElem_cons hLess] at hRest
      exact List.cons.inj hRest
    have hTotal : totalBefore discountRate cashFlows year + cf / (1 + discountRate) ^ year =
        totalThrough discountRate cashFlows year := by
      rw [← hFlow.1, ← totalThrough_sub hLess, add_sub_cancel]
    have hDiscounted : cf / (1 + discountRate) ^ year =
        totalThrough discountRate cashFlows year - totalBefore discountRate cashFlows year := by
      rw [← hFlow.1, totalThrough_sub hLess]
    rw [paybackFrom, hTotal]
    split
    · rename_i hCrossing
      have hCrosses : Crosses discountRate cashFlows year :=
        ⟨hCrossing.1, hLess, hCrossing.2.1, hCrossing.2.2⟩
      constructor
      · intro h
        refine ⟨year, le_rfl, hCrosses, fun other hLow hHigh => absurd hLow hHigh.not_ge, ?_⟩
        rw [← Option.some.inj h, hDiscounted]
        rfl
      · rintro ⟨crossing, hLow, -, hFirst, rfl⟩
        obtain rfl | hLater := hLow.eq_or_lt
        · rw [hDiscounted]
          rfl
        · exact absurd hCrosses (hFirst year le_rfl hLater)
    · rename_i hNot
      have hNotCrosses : ¬Crosses discountRate cashFlows year :=
        fun h => hNot ⟨h.later, h.before, h.through⟩
      rw [totalThrough, ih hFlow.2 hLess]
      constructor
      · rintro ⟨crossing, hLow, hCrosses, hFirst, hPoint⟩
        refine ⟨crossing, (Nat.lt_of_succ_le hLow).le, hCrosses, fun other hOther hHigh =>
          ?_, hPoint⟩
        obtain rfl | hLater := hOther.eq_or_lt
        · exact hNotCrosses
        · exact hFirst other hLater hHigh
      · rintro ⟨crossing, hLow, hCrosses, hFirst, hPoint⟩
        obtain rfl | hLater := hLow.eq_or_lt
        · exact absurd hCrosses hNotCrosses
        · exact ⟨crossing, hLater, hCrosses, fun other hOther =>
            hFirst other (Nat.le_of_succ_le hOther), hPoint⟩

theorem paybackPeriod_eq_some_iff {p : ℚ} : paybackPeriod discountRate cashFlows = some p ↔
    ∃ year, Crosses discountRate cashFlows year ∧
      (∀ other < year, ¬Crosses discountRate cashFlows other) ∧
      p = crossingPoint discountRate cashFlows year := by
  have hStart : totalBefore discountRate cashFlows 0 = 0 := rfl
  have hLoop := @paybackFrom_eq_some_iff discountRate cashFlows 0 p cashFlows rfl (Nat.zero_le _)
  rw [hStart] at hLoop
  rw [paybackPeriod, hLoop]
  constructor
  · rintro ⟨year, -, hCrosses, hFirst, hPoint⟩
    exact ⟨year, hCrosses, fun other => hFirst other (Nat.zero_le other), hPoint⟩
  · rintro ⟨year, hCrosses, hFirst, hPoint⟩
    exact ⟨year, Nat.zero_le year, hCrosses, fun other _ => hFirst other, hPoint⟩

end Totals

section Conventional

variable {discountRate higherRate : ℚ} {cashFlows : List ℚ} {year other : ℕ} {p : ℚ}

theorem Conventional.length_pos (h : Conventional cashFlows) : 0 < cashFlows.length := by
  obtain ⟨first, rest, rfl, -⟩ := h.outlay
  exact Nat.succ_pos _

theorem Conventional.getElem_nonneg (h : Conventional cashFlows) (hLater : 0 < year)
    (hYear : year < cashFlows.length) : 0 ≤ cashFlows[year] := by
  obtain ⟨first, rest, rfl, -, hRest⟩ := h.outlay
  obtain ⟨year, rfl⟩ := Nat.exists_eq_add_one_of_ne_zero hLater.ne'
  exact hRest _ (List.getElem_mem _)

theorem Conventional.totalBefore_one (h : Conventional cashFlows) :
    totalBefore discountRate cashFlows 1 < 0 := by
  obtain ⟨first, rest, rfl, hFirst, -⟩ := h.outlay
  rw [totalBefore, npvAtRate_eq]
  change first + _ * 0 < 0
  rwa [mul_zero, add_zero]

theorem Conventional.flow_nonneg (h : Conventional cashFlows) (hRate : 0 < discountRate)
    (hLater : 0 < year) (hYear : year < cashFlows.length) :
    0 ≤ cashFlows[year] / (1 + discountRate) ^ year :=
  div_nonneg (h.getElem_nonneg hLater hYear) (pow_pos (by linarith) year).le

theorem Conventional.totalBefore_mono (h : Conventional cashFlows) (hRate : 0 < discountRate)
    (hLater : 0 < year) (hOrder : year ≤ other) (hOther : other ≤ cashFlows.length) :
    totalBefore discountRate cashFlows year ≤ totalBefore discountRate cashFlows other := by
  induction other, hOrder using Nat.le_induction with
  | base => exact le_rfl
  | succ other hOrder ih =>
    have hDifference := @totalThrough_sub discountRate cashFlows other hOther
    have hFlow := h.flow_nonneg hRate (hLater.trans_le hOrder) hOther
    have hStep : totalBefore discountRate cashFlows other ≤ totalBefore discountRate cashFlows
        (other + 1) := by
      rw [totalThrough] at hDifference
      linarith
    exact (ih (Nat.le_of_succ_le hOther)).trans hStep

theorem Crosses.unique (h : Conventional cashFlows) (hRate : 0 < discountRate)
    (hCrosses : Crosses discountRate cashFlows year)
    (hOther : Crosses discountRate cashFlows other) : year = other := by
  have hNotLess : ∀ {i j : ℕ}, Crosses discountRate cashFlows i → Crosses discountRate cashFlows j →
      ¬i < j := by
    intro i j hi hj hLess
    have hMono := h.totalBefore_mono hRate (Nat.succ_pos i) hLess hj.within.le
    exact (hi.through.trans hMono).not_gt hj.before
  exact le_antisymm (not_lt.mp (hNotLess hOther hCrosses)) (not_lt.mp (hNotLess hCrosses hOther))

theorem paybackPeriod_eq_some_iff_of_conventional (h : Conventional cashFlows)
    (hRate : 0 < discountRate) : paybackPeriod discountRate cashFlows = some p ↔
      ∃ year, Crosses discountRate cashFlows year ∧
        p = crossingPoint discountRate cashFlows year := by
  rw [paybackPeriod_eq_some_iff]
  constructor
  · rintro ⟨year, hCrosses, -, hPoint⟩
    exact ⟨year, hCrosses, hPoint⟩
  · rintro ⟨year, hCrosses, hPoint⟩
    exact ⟨year, hCrosses, fun other hOther hSame =>
      hOther.ne (hSame.unique h hRate hCrosses), hPoint⟩

/-- A total that is not negative any more has crossed zero on the way. -/
theorem exists_crosses (h : Conventional cashFlows) (hYear : year ≤ cashFlows.length)
    (hTotal : 0 ≤ totalBefore discountRate cashFlows year) (hLater : 0 < year) :
    ∃ crossing < year, Crosses discountRate cashFlows crossing := by
  induction year, hLater using Nat.le_induction with
  | base => exact absurd hTotal h.totalBefore_one.not_ge
  | succ year hLater ih =>
    obtain hNeg | hNonneg := lt_or_ge (totalBefore discountRate cashFlows year) 0
    · exact ⟨year, year.lt_succ_self, hLater, hYear, hNeg, hTotal⟩
    · obtain ⟨crossing, hLess, hCrosses⟩ := ih (Nat.le_of_succ_le hYear) hNonneg
      exact ⟨crossing, hLess.trans year.lt_succ_self, hCrosses⟩

theorem exists_crosses_iff (h : Conventional cashFlows) (hRate : 0 < discountRate) :
    (∃ year, Crosses discountRate cashFlows year) ↔ 0 ≤ npvAtRate discountRate cashFlows := by
  rw [← totalBefore_length]
  constructor
  · rintro ⟨year, hCrosses⟩
    exact hCrosses.through.trans (h.totalBefore_mono hRate (Nat.succ_pos year) hCrosses.within le_rfl)
  · intro hTotal
    obtain ⟨year, -, hCrosses⟩ := exists_crosses h le_rfl hTotal h.length_pos
    exact ⟨year, hCrosses⟩

theorem Crosses.fraction (h : Crosses discountRate cashFlows year) :
    0 < -totalBefore discountRate cashFlows year /
      (totalThrough discountRate cashFlows year - totalBefore discountRate cashFlows year) ∧
    -totalBefore discountRate cashFlows year /
      (totalThrough discountRate cashFlows year - totalBefore discountRate cashFlows year) ≤ 1 := by
  have hBefore := h.before
  have hThrough := h.through
  have hFlow : 0 < totalThrough discountRate cashFlows year - totalBefore discountRate cashFlows
    year := by linarith
  refine ⟨div_pos (neg_pos.mpr hBefore) hFlow, (div_le_one hFlow).mpr ?_⟩
  linarith

/-- The year in which it crosses is the period rounded up. -/
theorem Crosses.ceil_crossingPoint (h : Crosses discountRate cashFlows year) :
    ⌈crossingPoint discountRate cashFlows year⌉₊ = year := by
  obtain ⟨hPos, hLe⟩ := h.fraction
  rw [Nat.ceil_eq_iff h.later.ne', Nat.cast_pred h.later, crossingPoint]
  constructor
  · linarith
  · linarith

/-- What a payback period is, given the discounted flows. -/
structure PaysBack (discountRate : ℚ) (cashFlows : List ℚ) (p : ℚ) : Prop where
  pos : 0 < p
  within : p ≤ (cashFlows.length - 1 : ℕ)
  before : totalThrough discountRate cashFlows (⌈p⌉₊ - 1) < 0
  through : 0 ≤ totalThrough discountRate cashFlows ⌈p⌉₊
  interpolated : totalThrough discountRate cashFlows (⌈p⌉₊ - 1) + (p - (⌈p⌉₊ - 1 : ℕ)) *
    (totalThrough discountRate cashFlows ⌈p⌉₊ - totalThrough discountRate cashFlows (⌈p⌉₊ - 1)) = 0

theorem Crosses.paysBack (h : Crosses discountRate cashFlows year) :
    PaysBack discountRate cashFlows (crossingPoint discountRate cashFlows year) := by
  obtain ⟨hPos, hLe⟩ := h.fraction
  have hCeil := h.ceil_crossingPoint
  have hFlow : totalThrough discountRate cashFlows year - totalBefore discountRate cashFlows year ≠
      0 := by
    have hBefore := h.before
    have hThrough := h.through
    exact (by linarith : 0 < totalThrough discountRate cashFlows year - totalBefore discountRate cashFlows year).ne'
  have hPrevious : totalThrough discountRate cashFlows (year - 1) =
      totalBefore discountRate cashFlows year := by
    rw [totalThrough, Nat.sub_add_cancel h.later]
  have hOne : (1 : ℚ) ≤ year := by exact_mod_cast h.later
  have hPoint : crossingPoint discountRate cashFlows year ≤ year := by
    rw [crossingPoint]
    linarith
  refine ⟨?_, ?_, ?_, ?_, ?_⟩
  · rw [crossingPoint]
    linarith
  · refine hPoint.trans ?_
    exact_mod_cast Nat.le_sub_one_of_lt h.within
  · rw [hCeil, hPrevious]
    exact h.before
  · rw [hCeil]
    exact h.through
  · rw [hCeil, hPrevious, Nat.cast_pred h.later, crossingPoint, add_sub_cancel_left,
      div_mul_cancel₀ _ hFlow, add_neg_cancel]

/-- A higher rate discounts what comes back more. -/
theorem totalBefore_anti (h : Conventional cashFlows) (hRate : 0 < discountRate)
    (hHigher : discountRate ≤ higherRate) (hLater : 0 < year) :
    totalBefore higherRate cashFlows year ≤ totalBefore discountRate cashFlows year := by
  obtain ⟨first, rest, rfl, -, hRest⟩ := h.outlay
  obtain ⟨year, rfl⟩ := Nat.exists_eq_add_one_of_ne_zero hLater.ne'
  have hFactor : (1 + higherRate)⁻¹ ≤ (1 + discountRate)⁻¹ :=
    inv_anti₀ (by linarith) (by linarith)
  have hPos : 0 ≤ (1 + higherRate)⁻¹ := inv_nonneg.mpr (by linarith)
  have hTaken : ∀ cf ∈ rest.take year, 0 ≤ cf := fun cf hcf => hRest cf (List.mem_of_mem_take hcf)
  rw [totalBefore, totalBefore, npvAtRate_eq, npvAtRate_eq, List.take_succ_cons, powerSum, powerSum]
  exact add_le_add_right
    (mul_le_mul hFactor (powerSum_mono hPos hFactor hTaken) (powerSum_nonneg hPos hTaken)
    (hPos.trans hFactor)) first

theorem flow_anti (h : Conventional cashFlows) (hRate : 0 < discountRate)
    (hHigher : discountRate ≤ higherRate) (hLater : 0 < year) (hYear : year < cashFlows.length) :
    totalThrough higherRate cashFlows year - totalBefore higherRate cashFlows year ≤
      totalThrough discountRate cashFlows year - totalBefore discountRate cashFlows year := by
  rw [totalThrough_sub hYear, totalThrough_sub hYear]
  have hPos : (0 : ℚ) < 1 + discountRate := by linarith
  exact div_le_div_of_nonneg_left (h.getElem_nonneg hLater hYear) (pow_pos hPos year)
    (pow_le_pow_left₀ hPos.le (by linarith) year)

theorem Crosses.le_of_higher (h : Conventional cashFlows) (hRate : 0 < discountRate)
    (hHigher : discountRate ≤ higherRate) (hCrosses : Crosses higherRate cashFlows other) :
    ∃ year, Crosses discountRate cashFlows year ∧
      crossingPoint discountRate cashFlows year ≤ crossingPoint higherRate cashFlows other := by
  have hTotal : 0 ≤ totalBefore discountRate cashFlows (other + 1) :=
    hCrosses.through.trans (totalBefore_anti h hRate hHigher (Nat.succ_pos other))
  obtain ⟨year, hYear, hSooner⟩ := exists_crosses h hCrosses.within hTotal (Nat.succ_pos other)
  refine ⟨year, hSooner, ?_⟩
  obtain ⟨hPos, hLe⟩ := hSooner.fraction
  obtain ⟨hOtherPos, -⟩ := hCrosses.fraction
  rw [crossingPoint, crossingPoint]
  obtain rfl | hLess := (Nat.le_of_lt_succ hYear).eq_or_lt
  · have hTotals := totalBefore_anti h hRate hHigher hSooner.later
    have hFlows := flow_anti h hRate hHigher hSooner.later hSooner.within
    have hBefore := hCrosses.before
    have hThrough := hCrosses.through
    have hFraction := div_le_div₀ (neg_pos.mpr hBefore).le (neg_le_neg hTotals)
      (by linarith : 0 < totalThrough higherRate cashFlows year - totalBefore higherRate cashFlows year) hFlows
    linarith
  · have hNext : (year : ℚ) + 1 ≤ other := by exact_mod_cast hLess
    linarith

/-- There is a payback period exactly where the net present value is not negative, it is the zero of
the interpolated total, and at a higher rate it comes no sooner. -/
theorem payback_agrees_with_npv (hFlows : Conventional cashFlows) (hRate : 0 < discountRate) :
    calculateDiscountedPaybackPeriod discountRate cashFlows =
      .ok ((paybackPeriod discountRate cashFlows).map roundRate) ∧
    ((∃ p, paybackPeriod discountRate cashFlows = some p) ↔ 0 ≤ npvAtRate discountRate cashFlows) ∧
    (∀ p, paybackPeriod discountRate cashFlows = some p → PaysBack discountRate cashFlows p) ∧
    ∀ higher, discountRate ≤ higher → ∀ later, paybackPeriod higher cashFlows = some later →
      ∃ p, paybackPeriod discountRate cashFlows = some p ∧ p ≤ later := by
  refine ⟨if_neg hRate.not_ge, ?_, ?_, ?_⟩
  · rw [← exists_crosses_iff hFlows hRate]
    constructor
    · rintro ⟨p, hp⟩
      obtain ⟨year, hCrosses, -⟩ := (paybackPeriod_eq_some_iff_of_conventional hFlows hRate).mp hp
      exact ⟨year, hCrosses⟩
    · rintro ⟨year, hCrosses⟩
      exact ⟨_, (paybackPeriod_eq_some_iff_of_conventional hFlows hRate).mpr ⟨year, hCrosses, rfl⟩⟩
  · intro p hp
    obtain ⟨year, hCrosses, rfl⟩ := (paybackPeriod_eq_some_iff_of_conventional hFlows hRate).mp hp
    exact hCrosses.paysBack
  · intro higher hHigher later hLater
    obtain ⟨other, hOther, rfl⟩ :=
      (paybackPeriod_eq_some_iff_of_conventional hFlows (hRate.trans_le hHigher)).mp hLater
    obtain ⟨year, hCrosses, hLe⟩ := hOther.le_of_higher hFlows hRate hHigher
    exact ⟨_, (paybackPeriod_eq_some_iff_of_conventional hFlows hRate).mpr ⟨year, hCrosses, rfl⟩,
      hLe⟩

theorem payback_agrees_with_npv_of_two_years :
    calculateDiscountedPaybackPeriod (1 / 10) [-100, 60, 60] =
      .ok ((paybackPeriod (1 / 10) [-100, 60, 60]).map roundRate) ∧
    ((∃ p, paybackPeriod (1 / 10) [-100, 60, 60] = some p) ↔
      0 ≤ npvAtRate (1 / 10 : ℚ) [-100, 60, 60]) ∧
    (∀ p, paybackPeriod (1 / 10) [-100, 60, 60] = some p → PaysBack (1 / 10) [-100, 60, 60] p) ∧
    ∀ higher, 1 / 10 ≤ higher → ∀ later, paybackPeriod higher [-100, 60, 60] = some later →
      ∃ p, paybackPeriod (1 / 10) [-100, 60, 60] = some p ∧ p ≤ later := by
  have hFlows : Conventional [-100, 60, 60] := ⟨-100, [60, 60], rfl, by norm_num, by norm_num⟩
  exact payback_agrees_with_npv hFlows (by norm_num)

end Conventional

end ProcureFoundation.CapitalInvestment
