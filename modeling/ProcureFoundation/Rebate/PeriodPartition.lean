import ProcureFoundation.Foundation.DayOrder
import ProcureFoundation.Foundation.RunningTotals
import ProcureFoundation.Rebate.Calculations

/-!
# Aggregating over adjacent periods

Periods that follow each other day by day cut a range of dates into parts, so each dated row falls
into exactly one of them. While no total on the way has more digits than the arithmetic context, the
figures of the parts add up to those of the whole range, in whatever order the rows come.
-/

namespace ProcureFoundation.Rebate

open Outcome

/-- The figures of a period as the arithmetic context returns them. -/
structure ContextAggregate where
  totalSpend : Numeric 4
  totalVolume : Number
  transactionCount : ℕ
deriving DecidableEq

/-- The aggregation of any numbers; it raises where a sum or the rounding does. -/
def aggregateInContext (transactions : List (Number × Number × Date))
    (periodStart periodEnd : Date) : Except String ContextAggregate := do
  let rows := inPeriod (fun row => row.2.2) periodStart periodEnd transactions
  let totalSpend ← Number.sum (rows.map fun row => row.1)
  let totalVolume ← Number.sum (rows.map fun row => row.2.1)
  let totalSpend ← totalSpend.quantize 4
  return ⟨totalSpend, totalVolume, rows.length⟩

/-- Inclusive periods of which each starts on the day after the one before it ends. -/
inductive Covers : Date → Date → List (Date × Date) → Prop
  | last {start finish : Date} (hPeriod : start ≤ finish) : Covers start finish [(start, finish)]
  | cons {start stop next finish : Date} {rest : List (Date × Date)} (hPeriod : start ≤ stop)
      (hNext : next.toOrdinal = stop.toOrdinal + 1) (hRest : Covers next finish rest) :
      Covers start finish ((start, stop) :: rest)

def inPeriodOf (date : Date) (period : Date × Date) : Bool :=
  decide (period.1 ≤ date ∧ date ≤ period.2)

section Days

variable {start stop next finish date : Date} {periods : List (Date × Date)}

theorem next_le_iff (hNext : next.toOrdinal = stop.toOrdinal + 1) : next ≤ date ↔ stop < date := by
  rw [← not_lt, ← Date.toOrdinal_lt_iff, ← Date.toOrdinal_lt_iff, hNext]
  omega

theorem Covers.le (h : Covers start finish periods) : start ≤ finish := by
  induction h with
  | last hPeriod => exact hPeriod
  | cons hPeriod hNext hRest ih => exact hPeriod.trans ((next_le_iff hNext).mp ih).le

/-- A day of the range lies in exactly one of the periods, another one in none. -/
theorem Covers.countP (h : Covers start finish periods) (date : Date) :
    periods.countP (inPeriodOf date) = if start ≤ date ∧ date ≤ finish then 1 else 0 := by
  induction h with
  | last hPeriod =>
    rw [List.countP_singleton, inPeriodOf]
    simp only [decide_eq_true_eq]
  | @cons start stop next finish rest hPeriod hNext hRest ih =>
    have hFinish : stop < finish := (next_le_iff hNext).mp hRest.le
    rw [List.countP_cons, ih, inPeriodOf]
    simp only [decide_eq_true_eq]
    obtain hWithin | hBeyond := le_or_gt date stop
    · rw [if_neg fun hLater => absurd ((next_le_iff hNext).mp hLater.1) (not_lt.mpr hWithin),
        Nat.zero_add]
      exact if_congr (and_congr_right fun _ => iff_of_true hWithin (hWithin.trans hFinish.le)) rfl rfl
    · rw [if_neg fun hEarlier : start ≤ date ∧ date ≤ stop =>
        absurd hEarlier.2 (not_le.mpr hBeyond), Nat.add_zero]
      exact if_congr (and_congr_left fun _ =>
        iff_of_true ((next_le_iff hNext).mpr hBeyond) (hPeriod.trans hBeyond.le))
        rfl rfl

end Days

section Rows

variable {α : Type*} {dateOf : α → Date} {start stop next finish : Date}
  {periods : List (Date × Date)}

theorem inPeriod_append_perm (hStart : start ≤ stop) (hNext : next.toOrdinal = stop.toOrdinal + 1)
    (hFinish : next ≤ finish) (rows : List α) :
    (inPeriod dateOf start stop rows ++ inPeriod dateOf next finish rows).Perm
      (inPeriod dateOf start finish rows) := by
  have hStop : stop < finish := (next_le_iff hNext).mp hFinish
  have hEarly : inPeriod dateOf start stop rows =
      (inPeriod dateOf start finish rows).filter fun row => decide (dateOf row ≤ stop) := by
    rw [inPeriod, inPeriod, List.filter_filter]
    refine List.filter_congr fun row _ => ?_
    rw [← Bool.decide_and, decide_eq_decide]
    exact ⟨fun h => ⟨h.2, h.1, h.2.trans hStop.le⟩, fun h => ⟨h.2.1, h.1⟩⟩
  have hLate : inPeriod dateOf next finish rows =
      (inPeriod dateOf start finish rows).filter fun row => !decide (dateOf row ≤ stop) := by
    rw [inPeriod, inPeriod, List.filter_filter]
    refine List.filter_congr fun row _ => ?_
    rw [← decide_not, ← Bool.decide_and, decide_eq_decide, not_le, next_le_iff hNext]
    exact ⟨fun h => ⟨h.1, hStart.trans h.1.le, h.2⟩, fun h => ⟨h.1, h.2.2⟩⟩
  rw [hEarly, hLate]
  exact List.filter_append_perm _ _

theorem Covers.inPeriod_perm (h : Covers start finish periods) (rows : List α) :
    (periods.flatMap fun period => inPeriod dateOf period.1 period.2 rows).Perm
      (inPeriod dateOf start finish rows) := by
  induction h with
  | last hPeriod =>
    rw [List.flatMap_singleton]
  | cons hPeriod hNext hRest ih =>
    rw [List.flatMap_cons]
    exact (ih.append_left _).trans (inPeriod_append_perm hPeriod hNext hRest.le rows)

/-- What is summed over the rows of each period adds up to the sum over the rows of the range. -/
theorem Covers.sum_inPeriod {M : Type*} [AddCommMonoid M] (h : Covers start finish periods)
    (rows : List α) (f : α → M) :
    (periods.map fun period => ((inPeriod dateOf period.1 period.2 rows).map f).sum).sum =
      ((inPeriod dateOf start finish rows).map f).sum := by
  rw [← ((h.inPeriod_perm rows).map f).sum_eq, List.map_flatMap, List.flatMap_def, List.sum_flatten,
    List.map_map]
  rfl

theorem Covers.length_inPeriod (h : Covers start finish periods) (rows : List α) :
    (periods.map fun period => (inPeriod dateOf period.1 period.2 rows).length).sum =
      (inPeriod dateOf start finish rows).length := by
  rw [← (h.inPeriod_perm rows).length_eq, List.length_flatMap]

theorem inPeriod_map {β : Type*} {f : β → α} (rows : List β) :
    inPeriod dateOf start finish (rows.map f) =
      (inPeriod (dateOf ∘ f) start finish rows).map f := by
  rw [inPeriod, inPeriod, List.filter_map]
  rfl

end Rows

/-- An amount of four decimals, a quantity and the date of a transaction. -/
abbrev DatedRow := Money × ℚ × Date

namespace DatedRow

def numbers (row : DatedRow) : Number × Number × Date := (row.1.number, .finite row.2.1, row.2.2)

def exact (row : DatedRow) : ℚ × ℚ × Date := (row.1.value, row.2.1, row.2.2)

def date (row : DatedRow) : Date := row.2.2

end DatedRow

def TransactionAggregate.inContext (aggregate : TransactionAggregate) : ContextAggregate :=
  ⟨.number aggregate.totalSpend, .finite aggregate.totalVolume, aggregate.transactionCount⟩

def exactAggregate (transactions : List DatedRow) (periodStart periodEnd : Date) :
    TransactionAggregate :=
  aggregateTransactionsForPeriod (transactions.map DatedRow.exact) periodStart periodEnd

/-- No total on the way is rounded, and the spend of the period has at most 28 digits with its four
decimals. -/
structure FitsContext (transactions : List DatedRow) (periodStart periodEnd : Date) : Prop where
  spend : EveryTotal Number.Representable 0
    ((inPeriod DatedRow.date periodStart periodEnd transactions).map fun row => row.1.value)
  volume : EveryTotal Number.Representable 0
    ((inPeriod DatedRow.date periodStart periodEnd transactions).map fun row => row.2.1)
  rounded : |((inPeriod DatedRow.date periodStart periodEnd transactions).map fun row =>
    row.1.value).sum| < 10 ^ 24

section Aggregates

variable {transactions others : List DatedRow} {start finish : Date} {periods : List (Date × Date)}

theorem inPeriod_exact :
    inPeriod (fun row => row.2.2) start finish (transactions.map DatedRow.exact) =
    (inPeriod DatedRow.date start finish transactions).map DatedRow.exact :=
  inPeriod_map transactions

theorem totalSpend_exactAggregate : (exactAggregate transactions start finish).totalSpend.value =
    ((inPeriod DatedRow.date start finish transactions).map fun row => row.1.value).sum := by
  unfold exactAggregate aggregateTransactionsForPeriod
  dsimp only
  rw [inPeriod_exact, List.map_map]
  refine FixedPoint.value_quantize_sum _ fun amount hAmount => ?_
  obtain ⟨row, -, rfl⟩ := List.mem_map.mp hAmount
  exact ⟨row.1, rfl⟩

theorem totalVolume_exactAggregate : (exactAggregate transactions start finish).totalVolume =
    ((inPeriod DatedRow.date start finish transactions).map fun row => row.2.1).sum := by
  unfold exactAggregate aggregateTransactionsForPeriod
  dsimp only
  rw [inPeriod_exact, List.map_map]
  rfl

theorem transactionCount_exactAggregate :
    (exactAggregate transactions start finish).transactionCount =
    (inPeriod DatedRow.date start finish transactions).length := by
  unfold exactAggregate aggregateTransactionsForPeriod
  dsimp only
  rw [inPeriod_exact, List.length_map]

theorem digits_of_value_lt {scale : ℕ} {x : FixedPoint scale}
    (h : |x.value| * 10 ^ scale < 10 ^ 28) : x.Digits := by
  have hScale : (0 : ℚ) < 10 ^ scale := by positivity
  rw [← abs_of_pos hScale, ← abs_mul, FixedPoint.value_mul] at h
  exact_mod_cast h

/-- In the context the figures are those of the exact sums. -/
theorem aggregateInContext_of_fits (h : FitsContext transactions start finish) :
    aggregateInContext (transactions.map DatedRow.numbers) start finish =
      .ok (exactAggregate transactions start finish).inContext := by
  have hRows : inPeriod (fun row => row.2.2) start finish (transactions.map DatedRow.numbers) =
      (inPeriod DatedRow.date start finish transactions).map DatedRow.numbers :=
        inPeriod_map transactions
  have hSpend := h.spend.sum_eq
  have hVolume := h.volume.sum_eq
  rw [List.map_map, ← totalSpend_exactAggregate] at hSpend
  rw [List.map_map, ← totalVolume_exactAggregate] at hVolume
  have hRounded := h.rounded
  rw [← totalSpend_exactAggregate] at hRounded
  have hDigits : (exactAggregate transactions start finish).totalSpend.Digits :=
    digits_of_value_lt (by linarith)
  rw [aggregateInContext, hRows, List.map_map, List.map_map,
    List.length_map, ← transactionCount_exactAggregate]
  refine (bind_of_eq_ok hSpend _).trans ?_
  refine (bind_of_eq_ok hVolume _).trans ?_
  exact bind_of_eq_ok (Number.quantize_number hDigits) _

theorem transactionCount_aggregateInContext {numbers : List (Number × Number × Date)}
    {aggregate : ContextAggregate} (h : aggregateInContext numbers start finish = .ok aggregate) :
    aggregate.transactionCount = (inPeriod (fun row => row.2.2) start finish numbers).length := by
  obtain ⟨spend, -, h⟩ := exists_of_bind_eq_ok h
  obtain ⟨volume, -, h⟩ := exists_of_bind_eq_ok h
  obtain ⟨rounded, -, rfl⟩ := bind_pure_eq_ok.mp h
  rfl

theorem exactAggregate_of_perm (h : transactions.Perm others) :
    exactAggregate transactions start finish = exactAggregate others start finish := by
  have hRows := (h.map DatedRow.exact).filter fun row => decide (start ≤ row.2.2 ∧ row.2.2 ≤ finish)
  unfold exactAggregate aggregateTransactionsForPeriod inPeriod
  dsimp only
  rw [(hRows.map _).sum_eq, (hRows.map _).sum_eq, hRows.length_eq]

/-- A row as the columns of the ledger hold it: 18 digits, four of them decimals. -/
def InColumns (row : DatedRow) : Prop :=
  |row.1.units| ≤ (10 ^ 18 : ℕ) ∧ ∃ quantity : Money, quantity.value = row.2.1 ∧
    |quantity.units| ≤ (10 ^ 18 : ℕ)

theorem everyTotal_of_columns {amounts : List ℚ}
    (hAmounts : ∀ amount ∈ amounts, ∃ x : Money, x.value = amount ∧
    |x.units| ≤ (10 ^ 18 : ℕ)) (hLength : amounts.length ≤ 10 ^ 9) :
    EveryTotal Number.Representable 0 amounts := by
  have hValues : (amounts.map (FixedPoint.quantize 4)).map FixedPoint.value = amounts := by
    rw [List.map_map]
    refine (List.map_congr_left fun amount hAmount => ?_).trans (List.map_id amounts)
    obtain ⟨x, rfl, -⟩ := hAmounts amount hAmount
    exact congrArg FixedPoint.value (FixedPoint.quantize_value x)
  have hFigures : ∀ x ∈ amounts.map (FixedPoint.quantize 4), |x.units| ≤ (10 ^ 18 : ℕ) := by
    intro x hx
    obtain ⟨amount, hAmount, rfl⟩ := List.mem_map.mp hx
    obtain ⟨x, rfl, hBound⟩ := hAmounts amount hAmount
    rwa [FixedPoint.quantize_value]
  have hTotals :=
    @EveryTotal.of_digits 4 (10 ^ 18) 0 0 _ hFigures (abs_nonpos_iff.mpr rfl |>.trans (by simp)) (by
      rw [Nat.zero_add, List.length_map]
      omega)
  rwa [hValues, FixedPoint.value_zero] at hTotals

theorem abs_sum_le_of_forall {amounts : List ℚ} {bound : ℚ}
    (h : ∀ amount ∈ amounts, |amount| ≤ bound) :
    |amounts.sum| ≤ amounts.length * bound := by
  rw [← nsmul_eq_mul, abs_le, ← neg_nsmul]
  exact ⟨List.card_nsmul_le_sum _ _ fun amount hAmount => (abs_le.mp (h amount hAmount)).1,
    List.sum_le_card_nsmul _ _ fun amount hAmount => (abs_le.mp (h amount hAmount)).2⟩

theorem fitsContext_of_columns (hColumns : ∀ row ∈ transactions, InColumns row)
    (hLength : transactions.length ≤ 10 ^ 9) (start finish : Date) :
    FitsContext transactions start finish := by
  have hRows : ∀ row ∈ inPeriod DatedRow.date start finish transactions, InColumns row :=
    fun row hRow => hColumns row (List.mem_of_mem_filter hRow)
  have hCount : (inPeriod DatedRow.date start finish transactions).length ≤ 10 ^ 9 :=
    (List.length_filter_le _ _).trans hLength
  refine ⟨everyTotal_of_columns ?_ ?_, everyTotal_of_columns ?_ ?_, ?_⟩
  · intro amount hAmount
    obtain ⟨row, hRow, rfl⟩ := List.mem_map.mp hAmount
    exact ⟨row.1, rfl, (hRows row hRow).1⟩
  · rwa [List.length_map]
  · intro quantity hQuantity
    obtain ⟨row, hRow, rfl⟩ := List.mem_map.mp hQuantity
    exact (hRows row hRow).2
  · rwa [List.length_map]
  · have hAmounts :
      ∀ amount ∈ (inPeriod DatedRow.date start finish transactions).map (fun row => row.1.value),
        |amount| ≤ 10 ^ 14 := by
      intro amount hAmount
      obtain ⟨row, hRow, rfl⟩ := List.mem_map.mp hAmount
      have hUnits : |(row.1.units : ℚ)| ≤ 10 ^ 18 := by exact_mod_cast (hRows row hRow).1
      rw [FixedPoint.value, abs_div, abs_of_pos (by positivity : (0 : ℚ) < 10 ^ 4),
        div_le_iff₀ (by positivity)]
      linarith
    refine (abs_sum_le_of_forall hAmounts).trans_lt ?_
    have hCast :
        (((inPeriod DatedRow.date start finish transactions).map fun row => row.1.value).length :
          ℚ) ≤ 10 ^ 9 := by
      rw [List.length_map]
      exact_mod_cast hCount
    linarith

end Aggregates

/-- The figures of the parts add up to those of the whole. -/
structure AddUp (parts : List TransactionAggregate) (whole : TransactionAggregate) : Prop where
  totalSpend : (parts.map fun part => part.totalSpend.value).sum = whole.totalSpend.value
  totalVolume : (parts.map fun part => part.totalVolume).sum = whole.totalVolume
  transactionCount : (parts.map fun part => part.transactionCount).sum = whole.transactionCount

theorem Covers.addUp {transactions : List DatedRow} {start finish : Date}
    {periods : List (Date × Date)} (h : Covers start finish periods) :
    AddUp (periods.map fun period => exactAggregate transactions period.1 period.2)
      (exactAggregate transactions start finish) := by
  constructor
  · simp only [List.map_map, Function.comp_def, totalSpend_exactAggregate]
    exact h.sum_inPeriod transactions fun row => row.1.value
  · simp only [List.map_map, Function.comp_def, totalVolume_exactAggregate]
    exact h.sum_inPeriod transactions fun row => row.2.1
  · simp only [List.map_map, Function.comp_def, transactionCount_exactAggregate]
    exact h.length_inPeriod transactions

def firstDelivery : DatedRow := (⟨12500000⟩, 40, ⟨2024, 8, 14, by decide⟩)

def secondDelivery : DatedRow := (⟨-2500000⟩, 5 / 2, ⟨2024, 11, 29, by decide⟩)

/-- A quantity that makes the total longer than 28 digits, and two that are then lost or not. -/
def immenseRows : List DatedRow :=
  [(0, 10 ^ 28, ⟨2024, 8, 15, by decide⟩), (0, 5, ⟨2024, 8, 15, by decide⟩),
    (0, 5, ⟨2024, 8, 15, by decide⟩)]

end ProcureFoundation.Rebate
