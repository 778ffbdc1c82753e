import ProcureFoundation.Foundation.ExactDecimals
import ProcureFoundation.ManagementAccounting.NetMargin

/-!
# Two routes to the net margin

The waterfall and the trade spend are one deduction with two sign conventions. While no total has
more than the 28 digits of the arithmetic context nothing is rounded, and a margin is the same
whichever of the two precedes it.
-/

namespace ProcureFoundation.ManagementAccounting

open Outcome

/-- The lines of a waterfall of which none is missing. -/
structure SourcedLines where
  grossSales : Money
  settlementDiscounts : Money
  volumeGrowthRebates : Money
  creditNotesIssued : Money
  operationalClaimsReturns : Money
  retroPricingAdjustment : Money
  supplierRecoveriesAllowances : Money

structure Costs where
  cogs : Money
  directLogisticsCost : Money
  warehouseAbcCost : Money

namespace SourcedLines

variable (lines : SourcedLines)

def input : GrossToNetWaterfallInput where
  grossSales := lines.grossSales.number
  settlementDiscounts := some lines.settlementDiscounts.number
  volumeGrowthRebates := some lines.volumeGrowthRebates.number
  creditNotesIssued := some lines.creditNotesIssued.number
  operationalClaimsReturns := some lines.operationalClaimsReturns.number
  retroPricingAdjustment := some lines.retroPricingAdjustment.number
  supplierRecoveriesAllowances := some lines.supplierRecoveriesAllowances.number

def afterDiscounts : Money := lines.grossSales - lines.settlementDiscounts

def afterRebates : Money := lines.afterDiscounts - lines.volumeGrowthRebates

def afterCreditNotes : Money := lines.afterRebates - lines.creditNotesIssued

def afterClaims : Money := lines.afterCreditNotes - lines.operationalClaimsReturns

def afterRetroPricing : Money := lines.afterClaims + lines.retroPricingAdjustment

def netRevenue : Money := lines.afterRetroPricing + lines.supplierRecoveriesAllowances

/-- The deductions less the signed lines. -/
def tradeSpend : Money :=
  lines.settlementDiscounts + lines.volumeGrowthRebates + lines.creditNotesIssued +
    lines.operationalClaimsReturns -
    lines.retroPricingAdjustment - lines.supplierRecoveriesAllowances

theorem grossSales_sub_tradeSpend : lines.grossSales - lines.tradeSpend = lines.netRevenue := by
  have hUnits :
    lines.grossSales.units - (lines.settlementDiscounts.units + lines.volumeGrowthRebates.units +
      lines.creditNotesIssued.units +
        lines.operationalClaimsReturns.units - lines.retroPricingAdjustment.units -
        lines.supplierRecoveriesAllowances.units) =
      lines.grossSales.units - lines.settlementDiscounts.units - lines.volumeGrowthRebates.units -
        lines.creditNotesIssued.units - lines.operationalClaimsReturns.units +
          lines.retroPricingAdjustment.units + lines.supplierRecoveriesAllowances.units := by ring
  exact congrArg FixedPoint.mk hUnits

/-- No amount and no running total of the waterfall has more than 28 digits. -/
structure FitsContext : Prop where
  grossSales : lines.grossSales.Digits
  settlementDiscounts : lines.settlementDiscounts.Digits
  volumeGrowthRebates : lines.volumeGrowthRebates.Digits
  creditNotesIssued : lines.creditNotesIssued.Digits
  operationalClaimsReturns : lines.operationalClaimsReturns.Digits
  retroPricingAdjustment : lines.retroPricingAdjustment.Digits
  supplierRecoveriesAllowances : lines.supplierRecoveriesAllowances.Digits
  afterDiscounts : lines.afterDiscounts.Digits
  afterRebates : lines.afterRebates.Digits
  afterCreditNotes : lines.afterCreditNotes.Digits
  afterClaims : lines.afterClaims.Digits
  afterRetroPricing : lines.afterRetroPricing.Digits
  netRevenue : lines.netRevenue.Digits

theorem deducted (h : lines.FitsContext) :
    deductionLines.foldlM (fun netRevenue line => do netRevenue.sub (← lines.input.lineValue line))
      lines.input.grossSales = .ok lines.afterClaims.number := by
  have hDiscounts := Number.sub_number h.afterDiscounts
  have hRebates := Number.sub_number h.afterRebates
  have hCreditNotes := Number.sub_number h.afterCreditNotes
  have hClaims := Number.sub_number h.afterClaims
  unfold deductionLines
  refine (bind_of_eq_ok hDiscounts _).trans ?_
  refine (bind_of_eq_ok hRebates _).trans ?_
  refine (bind_of_eq_ok hCreditNotes _).trans ?_
  exact (bind_of_eq_ok hClaims _).trans rfl

theorem adjusted (h : lines.FitsContext) :
    signedLines.foldlM (fun netRevenue line => do netRevenue.add (← lines.input.lineValue line))
      lines.afterClaims.number = .ok lines.netRevenue.number := by
  have hRetroPricing := Number.add_number h.afterRetroPricing
  have hRecoveries := Number.add_number h.netRevenue
  unfold signedLines
  refine (bind_of_eq_ok hRetroPricing _).trans ?_
  exact (bind_of_eq_ok hRecoveries _).trans rfl

def roundedLines : List (String × Numeric 4) :=
  [("settlement_discounts", .number lines.settlementDiscounts),
    ("volume_growth_rebates", .number lines.volumeGrowthRebates),
    ("credit_notes_issued", .number lines.creditNotesIssued),
    ("operational_claims_returns", .number lines.operationalClaimsReturns),
    ("retro_pricing_adjustment", .number lines.retroPricingAdjustment),
    ("supplier_recoveries_allowances", .number lines.supplierRecoveriesAllowances)]

theorem mapM_roundedLines (h : lines.FitsContext) :
    (lines.input.allLineValues.mapM fun line => do
      return (line.1, ← (← GrossToNetWaterfallInput.present line.1 line.2).quantize 4)) =
        .ok lines.roundedLines := by
  have hLine : ∀ (name : String) {x : Money}, x.Digits → (do
      return (name, ← (← GrossToNetWaterfallInput.present name (some x.number)).quantize 4)) =
        (Except.ok (name, .number x) : Except String (String × Numeric 4)) := fun name x hx =>
    bind_of_eq_ok (Number.quantize_number hx) fun value => .ok (name, value)
  rw [mapM_eq_ok]
  exact .cons (hLine _ h.settlementDiscounts)
    (.cons (hLine _ h.volumeGrowthRebates) (.cons (hLine _ h.creditNotesIssued)
    (.cons (hLine _ h.operationalClaimsReturns) (.cons (hLine _ h.retroPricingAdjustment)
      (.cons (hLine _ h.supplierRecoveriesAllowances) .nil)))))

theorem calculateGrossToNetWaterfall_input (h : lines.FitsContext) :
    calculateGrossToNetWaterfall lines.input =
    .ok ⟨true, [], some (.number lines.netRevenue), .number lines.grossSales,
      lines.roundedLines⟩ := by
  refine (bind_of_eq_ok (lines.deducted h) _).trans ?_
  refine (bind_of_eq_ok (lines.adjusted h) _).trans ?_
  refine (bind_of_eq_ok (Number.quantize_number h.grossSales) _).trans ?_
  refine (bind_of_eq_ok (Number.quantize_number h.netRevenue) _).trans ?_
  exact bind_of_eq_ok (lines.mapM_roundedLines h) _

end SourcedLines

namespace Costs

variable (costs : Costs) (netRevenue : Money)

def grossMargin : Money := netRevenue - costs.cogs

def costToServe : Money := costs.directLogisticsCost + costs.warehouseAbcCost

def netMargin : Money := costs.grossMargin netRevenue - costs.costToServe

structure FitsContext : Prop where
  revenue : netRevenue.Digits
  gross : (costs.grossMargin netRevenue).Digits
  service : costs.costToServe.Digits
  net : (costs.netMargin netRevenue).Digits

end Costs

theorem isZero_number {x : Money} : x.number.isZero = decide (x.units = 0) := by
  have hValue : x.value = 0 ↔ x.units = 0 := by
    rw [FixedPoint.value, div_eq_zero_iff, Int.cast_eq_zero]
    exact or_iff_left (by norm_num)
  exact decide_eq_decide.mpr hValue

/-- In percent the margin has at most 28 digits at two decimals, unless the revenue is zero. -/
def SharePrints (margin revenue : Money) : Prop :=
  revenue.units ≠ 0 → 2 * 10 ^ 4 * |margin.units| < (2 * 10 ^ 28 - 1) * |revenue.units|

theorem abs_share_lt {margin revenue : Money} (h : SharePrints margin revenue)
    (hZero : revenue.units ≠ 0) :
    |contextRound (margin.value / revenue.value)| < 10 ^ (24 : ℤ) := by
  have hRevenue : (0 : ℚ) < |(revenue.units : ℚ)| := abs_pos.mpr (Int.cast_ne_zero.mpr hZero)
  have hUnits : 2 * 10 ^ 4 * |(margin.units : ℚ)| < (2 * 10 ^ 28 - 1) * |(revenue.units : ℚ)| := by
    exact_mod_cast h hZero
  have hShare : |margin.value / revenue.value| < (((10 ^ 28 : ℤ) : ℚ) - 1 / 2) * 10 ^ (-4 : ℤ) := by
    rw [FixedPoint.value, FixedPoint.value, div_div_div_cancel_right₀ (by norm_num), abs_div,
      div_lt_iff₀ hRevenue]
    norm_num at hUnits ⊢
    linarith
  refine ((abs_contextRound_lt_iff (by norm_num) (by norm_num) le_rfl).mpr hShare).trans_eq ?_
  norm_num

theorem exists_marginPct {margin revenue : Money} (h : SharePrints margin revenue) :
    ∃ pct, marginPct (.number margin) revenue.number = .ok pct := by
  unfold marginPct
  rw [isZero_number]
  by_cases hZero : revenue.units = 0
  · exact ⟨none, if_pos (decide_eq_true hZero)⟩
  · have hValue : revenue.value ≠ 0 := by
      rw [FixedPoint.value]
      exact div_ne_zero (Int.cast_ne_zero.mpr hZero) (by norm_num)
    have hShare := abs_share_lt h hZero
    have hPercentage : contextRound (contextRound (margin.value / revenue.value) * 100) =
        contextRound (margin.value / revenue.value) * 100 := by
      obtain ⟨n, k, hn, hDigits⟩ := exists_digits (margin.value / revenue.value)
      have hScaled : contextRound (margin.value / revenue.value) * 100 = n * 10 ^ (k + 2) := by
        rw [hDigits, zpow_add₀ (by norm_num)]
        norm_num
        ring
      rw [hScaled, contextRound_of_digits hn]
    have hDiv : (Numeric.number margin).toNumber.div revenue.number =
        .ok (.finite (contextRound (margin.value / revenue.value))) :=
      (if_neg hValue).trans (Number.ofContext_of_abs_lt (hShare.trans (by norm_num)))
    have hMul : (Number.finite (contextRound (margin.value / revenue.value))).mul (.finite 100) =
        .ok (.finite (contextRound (contextRound (margin.value / revenue.value) * 100))) := by
      refine Number.ofContext_of_abs_lt ?_
      rw [hPercentage, abs_mul]
      norm_num at hShare ⊢
      linarith
    have hQuantize : |contextRound (contextRound (margin.value / revenue.value) * 100)| * 10 ^ 2 <
        10 ^ 28 := by
      rw [hPercentage, abs_mul]
      norm_num at hShare ⊢
      linarith
    rw [decide_eq_false hZero, if_neg Bool.false_ne_true, bind_of_eq_ok hDiv, bind_of_eq_ok hMul,
      bind_of_eq_ok (Number.quantize_contextRound hQuantize)]
    exact ⟨_, rfl⟩

section Margin

variable {quoted : String → String} {revenue tradeSpend : Money} {costs : Costs} {basis : String}

/-- The figures of a margin follow from the net revenue. -/
theorem calculateCustomerNetMargin_number (hKnown : basis ∈ ["gross", "net_of_waterfall"])
    (hOnce : basis = "net_of_waterfall" → tradeSpend.units = 0)
    (h : costs.FitsContext (revenue - tradeSpend))
    (hShare : SharePrints (costs.netMargin (revenue - tradeSpend)) revenue) :
    ∃ pct, calculateCustomerNetMargin quoted revenue.number costs.cogs.number
      costs.directLogisticsCost.number
        costs.warehouseAbcCost.number tradeSpend.number basis =
      .ok ⟨.number (revenue - tradeSpend), .number (costs.grossMargin (revenue - tradeSpend)),
        .number costs.costToServe,
        .number (costs.netMargin (revenue - tradeSpend)), pct,
        decide ((revenue - tradeSpend).units < 0)⟩ := by
  obtain ⟨pct, hPct⟩ := exists_marginPct hShare
  have hNotTwice : ¬(basis = "net_of_waterfall" ∧ tradeSpend.number.isZero = false) := by
    rintro ⟨hBasis, hSpend⟩
    rw [isZero_number, hOnce hBasis] at hSpend
    exact absurd hSpend (by decide)
  have hGross : (Numeric.number (revenue - tradeSpend)).toNumber.sub costs.cogs.number =
      .ok (costs.grossMargin (revenue - tradeSpend)).number := Number.sub_number h.gross
  have hNet : (Numeric.number (costs.grossMargin (revenue - tradeSpend))).toNumber.sub
      (Numeric.number costs.costToServe).toNumber =
        .ok (costs.netMargin (revenue - tradeSpend)).number :=
    Number.sub_number h.net
  refine ⟨pct, ?_⟩
  unfold calculateCustomerNetMargin
  rw [if_neg (not_not.mpr hKnown), if_neg hNotTwice]
  refine (bind_of_eq_ok (Number.sub_number h.revenue) _).trans ?_
  refine (bind_of_eq_ok (Number.quantize_number h.revenue) _).trans ?_
  refine (bind_of_eq_ok hGross _).trans ?_
  refine (bind_of_eq_ok (Number.quantize_number h.gross) _).trans ?_
  refine (bind_of_eq_ok (Number.add_number h.service) _).trans ?_
  refine (bind_of_eq_ok (Number.quantize_number h.service) _).trans ?_
  refine (bind_of_eq_ok hNet _).trans ?_
  refine (bind_of_eq_ok (Number.quantize_number h.net) _).trans ?_
  exact (bind_of_eq_ok hPct _).trans rfl

theorem netOfWaterfall_raises {revenue cogs directLogisticsCost warehouseAbcCost tradeSpend : Number}
    (h : tradeSpend.isZero = false) :
    ∃ message, calculateCustomerNetMargin quoted revenue cogs directLogisticsCost
      warehouseAbcCost tradeSpend "net_of_waterfall" = .error message := by
  unfold calculateCustomerNetMargin
  rw [if_neg (by decide), if_pos ⟨rfl, h⟩]
  exact ⟨_, rfl⟩

end Margin

section Routes

variable {quoted : String → String} {lines : SourcedLines} {costs : Costs}
  {inputs : GrossToNetWaterfallInput}

/-- Both routes return, and with the same figures. -/
def RoutesAgree (quoted : String → String) (lines : SourcedLines) (costs : Costs) : Prop :=
  ∃ waterfall revenue net gross, calculateGrossToNetWaterfall lines.input = .ok waterfall ∧
    waterfall.netRevenue = some revenue ∧
    calculateCustomerNetMargin quoted revenue.toNumber costs.cogs.number costs.directLogisticsCost.number
      costs.warehouseAbcCost.number (.finite 0) "net_of_waterfall" = .ok net ∧
    calculateCustomerNetMargin quoted lines.grossSales.number costs.cogs.number costs.directLogisticsCost.number
      costs.warehouseAbcCost.number lines.tradeSpend.number "gross" = .ok gross ∧
    net.netRevenue = gross.netRevenue ∧ net.grossMargin = gross.grossMargin ∧
      net.costToServe = gross.costToServe ∧
    net.netMargin = gross.netMargin ∧ net.isNetRevenueNegative = gross.isNetRevenueNegative

/-- No total of either route needs more digits than the context has. -/
structure WithinContext (lines : SourcedLines) (costs : Costs) : Prop where
  waterfall : lines.FitsContext
  margin : costs.FitsContext lines.netRevenue
  shareOfNet : SharePrints (costs.netMargin lines.netRevenue) lines.netRevenue
  shareOfGross : SharePrints (costs.netMargin lines.netRevenue) lines.grossSales

theorem sub_zero_money (x : Money) : x - 0 = x := congrArg FixedPoint.mk (sub_zero x.units)

theorem number_zero : (0 : Money).number = .finite 0 := congrArg Number.finite FixedPoint.value_zero

theorem routesAgree (h : WithinContext lines costs) : RoutesAgree quoted lines costs := by
  have hFits := h.margin
  have hNetShare := h.shareOfNet
  have hGrossFits := h.margin
  have hGrossShare := h.shareOfGross
  rw [← sub_zero_money lines.netRevenue] at hFits
  rw [← lines.grossSales_sub_tradeSpend] at hGrossFits hGrossShare
  obtain ⟨netPct, hNet⟩ :=
    @calculateCustomerNetMargin_number quoted lines.netRevenue 0 costs "net_of_waterfall"
      (by decide) (fun _ => rfl) hFits (by rwa [sub_zero_money])
  obtain ⟨grossPct, hGross⟩ :=
    @calculateCustomerNetMargin_number quoted lines.grossSales lines.tradeSpend costs "gross"
      (by decide) (fun hBasis => absurd hBasis (by decide)) hGrossFits hGrossShare
  rw [sub_zero_money, number_zero] at hNet
  rw [lines.grossSales_sub_tradeSpend] at hGross
  exact ⟨_, _, _, _, lines.calculateGrossToNetWaterfall_input h.waterfall, rfl, hNet, hGross, rfl,
    rfl, rfl, rfl, rfl⟩

/-- The names in the order of the fields. -/
def fieldNames : List String := deductionLines ++ signedLines

theorem lookup_allLineValues : ∀ line ∈ inputs.allLineValues, inputs.allLineValues.lookup line.1 =
    some line.2 := by
  simp only [GrossToNetWaterfallInput.allLineValues, List.forall_mem_cons]
  exact ⟨rfl, rfl, rfl, rfl, rfl, rfl, fun line hLine => nomatch hLine⟩

theorem missingLines_eq :
    inputs.missingLines = fieldNames.filter fun name => inputs.allLineValues.lookup name =
      some none := by
  have hNames : fieldNames = inputs.allLineValues.map Prod.fst := rfl
  rw [hNames, List.filter_map]
  refine congrArg (List.map Prod.fst) (List.filter_congr fun line hLine => ?_)
  rw [Function.comp_apply, lookup_allLineValues line hLine]
  cases line.2 with
  | none => rfl
  | some value => rfl

theorem calculateGrossToNetWaterfall_missing {grossSales : Money}
    (hGross : inputs.grossSales = grossSales.number) (hDigits : grossSales.Digits)
    (hMissing : ∃ name ∈ fieldNames, inputs.allLineValues.lookup name = some none) :
    calculateGrossToNetWaterfall inputs = .ok ⟨false, inputs.missingLines, none, .number grossSales, []⟩ := by
  have hSome : inputs.missingLines ≠ [] := by
    obtain ⟨name, hName, hNone⟩ := hMissing
    rw [missingLines_eq]
    exact List.ne_nil_of_mem (List.mem_filter.mpr ⟨hName, decide_eq_true hNone⟩)
  unfold calculateGrossToNetWaterfall
  rw [if_pos hSome, hGross]
  exact bind_of_eq_ok (Number.quantize_number hDigits) _

theorem deductions_count_once (quoted : String → String) :
    (∀ lines costs, WithinContext lines costs → RoutesAgree quoted lines costs) ∧
      (∀ (inputs : GrossToNetWaterfallInput) (grossSales : Money),
        inputs.grossSales = grossSales.number →
        grossSales.Digits → (∃ name ∈ fieldNames, inputs.allLineValues.lookup name = some none) →
        ∃ waterfall, calculateGrossToNetWaterfall inputs = .ok waterfall ∧
          waterfall.isComplete = false ∧ waterfall.netRevenue = none ∧ waterfall.missingLines =
            fieldNames.filter fun name => inputs.allLineValues.lookup name = some none) ∧
      ∀ revenue cogs directLogisticsCost warehouseAbcCost tradeSpend : Number,
        tradeSpend.isZero = false →
        ∃ message, calculateCustomerNetMargin quoted revenue cogs directLogisticsCost
          warehouseAbcCost tradeSpend
          "net_of_waterfall" = .error message := by
  refine ⟨fun lines costs => routesAgree, fun inputs grossSales hGross hDigits hMissing => ?_,
    fun revenue cogs directLogisticsCost warehouseAbcCost tradeSpend => netOfWaterfall_raises⟩
  exact ⟨_, calculateGrossToNetWaterfall_missing hGross hDigits hMissing, rfl, rfl, missingLines_eq⟩

/-- A sum of so many figures of at most 10¹⁶. -/
structure SumOf (count : ℕ) (x : Money) : Prop where
  bound : |x.units| ≤ count * 10 ^ 20

instance (count : ℕ) (x : Money) : Decidable (SumOf count x) :=
  decidable_of_iff (|x.units| ≤ count * 10 ^ 20) ⟨SumOf.mk, SumOf.bound⟩

theorem SumOf.add {m n : ℕ} {x y : Money} (hx : SumOf m x) (hy : SumOf n y) :
    SumOf (m + n) (x + y) := by
  refine ⟨(abs_add_le x.units y.units).trans ?_⟩
  rw [Nat.cast_add, add_mul]
  exact add_le_add hx.bound hy.bound

theorem SumOf.sub {m n : ℕ} {x y : Money} (hx : SumOf m x) (hy : SumOf n y) :
    SumOf (m + n) (x - y) := by
  refine ⟨(abs_sub x.units y.units).trans ?_⟩
  rw [Nat.cast_add, add_mul]
  exact add_le_add hx.bound hy.bound

theorem SumOf.digits {n : ℕ} {x : Money} (h : SumOf n x) (hn : n ≤ 10) : x.Digits := by
  refine h.bound.trans_lt ?_
  have hCount : (n : ℤ) ≤ 10 := by exact_mod_cast hn
  linarith

theorem SumOf.sharePrints {margin revenue : Money} (h : SumOf 10 margin) :
    SharePrints margin revenue := by
  intro hRevenue
  have hOne := Int.one_le_abs hRevenue
  have hMargin : |margin.units| ≤ 10 * 10 ^ 20 := h.bound
  linarith

theorem WithinContext.of_small
    (h : ∀ figure ∈ [lines.grossSales, lines.settlementDiscounts, lines.volumeGrowthRebates, lines.creditNotesIssued,
      lines.operationalClaimsReturns, lines.retroPricingAdjustment,
      lines.supplierRecoveriesAllowances, costs.cogs,
      costs.directLogisticsCost, costs.warehouseAbcCost], SumOf 1 figure) :
      WithinContext lines costs := by
  simp only [List.forall_mem_cons] at h
  obtain ⟨hGross, hDiscounts, hRebates, hCreditNotes, hClaims, hRetroPricing, hRecoveries, hCogs,
      hDirect, hWarehouse, -⟩ :=
    h
  have hAfterDiscounts : SumOf 2 lines.afterDiscounts := hGross.sub hDiscounts
  have hAfterRebates : SumOf 3 lines.afterRebates := hAfterDiscounts.sub hRebates
  have hAfterCreditNotes : SumOf 4 lines.afterCreditNotes := hAfterRebates.sub hCreditNotes
  have hAfterClaims : SumOf 5 lines.afterClaims := hAfterCreditNotes.sub hClaims
  have hAfterRetroPricing : SumOf 6 lines.afterRetroPricing := hAfterClaims.add hRetroPricing
  have hNetRevenue : SumOf 7 lines.netRevenue := hAfterRetroPricing.add hRecoveries
  have hGrossMargin : SumOf 8 (costs.grossMargin lines.netRevenue) := hNetRevenue.sub hCogs
  have hCostToServe : SumOf 2 costs.costToServe := hDirect.add hWarehouse
  have hNetMargin : SumOf 10 (costs.netMargin lines.netRevenue) := hGrossMargin.sub hCostToServe
  exact {
    waterfall := {
      grossSales := hGross.digits (by decide)
      settlementDiscounts := hDiscounts.digits (by decide)
      volumeGrowthRebates := hRebates.digits (by decide)
      creditNotesIssued := hCreditNotes.digits (by decide)
      operationalClaimsReturns := hClaims.digits (by decide)
      retroPricingAdjustment := hRetroPricing.digits (by decide)
      supplierRecoveriesAllowances := hRecoveries.digits (by decide)
      afterDiscounts := hAfterDiscounts.digits (by decide)
      afterRebates := hAfterRebates.digits (by decide)
      afterCreditNotes := hAfterCreditNotes.digits (by decide)
      afterClaims := hAfterClaims.digits (by decide)
      afterRetroPricing := hAfterRetroPricing.digits (by decide)
      netRevenue := hNetRevenue.digits (by decide) }
    margin := {
      revenue := hNetRevenue.digits (by decide)
      gross := hGrossMargin.digits (by decide)
      service := hCostToServe.digits (by decide)
      net := hNetMargin.digits (by decide) }
    shareOfNet := hNetMargin.sharePrints
    shareOfGross := hNetMargin.sharePrints }

theorem grossSales_digits {waterfall : GrossToNetWaterfall}
    (h : calculateGrossToNetWaterfall lines.input = .ok waterfall) : lines.grossSales.Digits := by
  obtain ⟨deducted, -, h⟩ := exists_of_bind_eq_ok (show (_ >>= _) = _ from h)
  obtain ⟨adjusted, -, h⟩ := exists_of_bind_eq_ok h
  obtain ⟨grossSales, hGross, -⟩ := exists_of_bind_eq_ok h
  by_contra hDigits
  have hRaises : lines.grossSales.number.quantize 4 = .error "InvalidOperation" := by
    rw [FixedPoint.number, Number.quantize, FixedPoint.quantize_value]
    exact if_neg hDigits
  cases hRaises.symm.trans hGross

end Routes

/-- Gross sales of 2·10²⁴, three quarters of which are discounted. -/
def immense : SourcedLines := ⟨⟨2 * 10 ^ 28⟩, ⟨15 * 10 ^ 27⟩, 0, 0, 0, 0, 0⟩

/-- The waterfall cannot print the gross sales, and the other route returns. -/
theorem immense_routes_differ : ¬RoutesAgree (fun text => text) immense ⟨0, 0, 0⟩ ∧
    ∃ margin, calculateCustomerNetMargin (fun text => text) immense.grossSales.number (.finite 0)
    (.finite 0) (.finite 0)
      immense.tradeSpend.number "gross" = .ok margin ∧
        margin.netRevenue = .number ⟨5 * 10 ^ 27⟩ := by
  constructor
  · rintro ⟨waterfall, -, -, -, hWaterfall, -⟩
    have hDigits := grossSales_digits hWaterfall
    revert hDigits
    decide
  · obtain ⟨pct, hMargin⟩ :=
      @calculateCustomerNetMargin_number (fun text => text) immense.grossSales immense.tradeSpend
        ⟨0, 0, 0⟩ "gross" (by decide) (fun hBasis => absurd hBasis (by decide))
        ⟨by decide, by decide, by decide, by decide⟩ fun _ => by decide
    rw [number_zero] at hMargin
    exact ⟨_, hMargin, rfl⟩

/-- A year of sales with the discounts allowed and the rebates paid. -/
def yearOfSales : SourcedLines := ⟨⟨3645888371600⟩, ⟨82403991600⟩, ⟨31459130700⟩, 0, 0, 0, 0⟩

def yearOfCosts : Costs := ⟨⟨3000000000000⟩, ⟨120000000000⟩, ⟨80000000000⟩⟩

theorem yearOfSales_withinContext : WithinContext yearOfSales yearOfCosts := by
  refine WithinContext.of_small ?_
  decide

theorem yearOfSales_routesAgree : RoutesAgree (fun text => text) yearOfSales yearOfCosts ∧
    yearOfSales.netRevenue = ⟨3532025249300⟩ ∧
    ∃ message, calculateCustomerNetMargin (fun text => text) yearOfSales.netRevenue.number
      yearOfCosts.cogs.number
      yearOfCosts.directLogisticsCost.number yearOfCosts.warehouseAbcCost.number
        yearOfSales.volumeGrowthRebates.number
        "net_of_waterfall" = .error message := by
  have hAll := deductions_count_once fun text => text
  refine ⟨hAll.1 yearOfSales yearOfCosts yearOfSales_withinContext, rfl, hAll.2.2 _ _ _ _ _ ?_⟩
  rw [isZero_number]
  rfl

end ProcureFoundation.ManagementAccounting
