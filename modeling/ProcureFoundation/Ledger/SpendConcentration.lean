import ProcureFoundation.Foundation.RankedTotals
import ProcureFoundation.Foundation.RoundingOrder
import ProcureFoundation.Ledger.SpendViews

/-!
# Where the spend is concentrated

The ABC classes band every item by the rounded share that it and those before it have of the total;
the Pareto count is how many items it takes to reach a share that is not rounded. Sums and quotients
are exact up to that rounding.
-/

namespace ProcureFoundation.Ledger

open Rebate

inductive ABCClass
  | A
  | B
  | C
deriving DecidableEq

structure ABCResult where
  item : SpendItem
  cumulativePct : ℚ
  classification : ABCClass
deriving DecidableEq

def totalAmount (items : List SpendItem) : ℚ := (items.map fun item => item.amount.value).sum

def roundedShare (running total : ℚ) : ℚ := (roundCurrency (running / total * 100)).value / 100

def classify (aThresholdPct bThresholdPct cumulativePct : ℚ) : ABCClass :=
  if cumulativePct ≤ aThresholdPct then .A
  else if cumulativePct ≤ bThresholdPct then .B
  else .C

def abcFrom (total aThresholdPct bThresholdPct : ℚ) : ℚ → List SpendItem → List ABCResult
  | _, [] => []
  | running, item :: items =>
    let running := running + item.amount.value
    let cumulativePct := roundedShare running total
    ⟨item, cumulativePct, classify aThresholdPct bThresholdPct cumulativePct⟩ ::
      abcFrom total aThresholdPct bThresholdPct running items

def calculateAbcClassification (items : List SpendItem) (aThresholdPct bThresholdPct : ℚ) :
    List ABCResult :=
  let total := totalAmount items
  if total = 0 then items.map fun item => ⟨item, 0, .C⟩
  else abcFrom total aThresholdPct bThresholdPct 0 items

structure ParetoResult where
  contributors : List SpendItem
  contributorCount : ℕ
  totalItemCount : ℕ
  cumulativePctCovered : ℚ
deriving DecidableEq

/-- The items up to the one with which the share is reached, and their sum. -/
def contributorsFrom (total targetPct : ℚ) : ℚ → List SpendItem → List SpendItem × ℚ
  | running, [] => ([], running)
  | running, item :: items =>
    let running := running + item.amount.value
    if targetPct ≤ running / total then ([item], running)
    else
      let rest := contributorsFrom total targetPct running items
      (item :: rest.1, rest.2)

def calculateParetoContributors (items : List SpendItem) (targetPct : ℚ) : ParetoResult :=
  let total := totalAmount items
  if total = 0 then ⟨[], 0, items.length, 0⟩
  else
    let reached := contributorsFrom total targetPct 0 items
    ⟨reached.1, reached.1.length, items.length, roundedShare reached.2 total⟩

def defaultShare : ℚ := 80 / 100

def getAbcClassification (ledger : PurchaseLedger) (organisationId : ℕ) : List ABCResult :=
  calculateAbcClassification (getSpendBySupplier ledger organisationId) defaultShare (95 / 100)

def getParetoContributors (ledger : PurchaseLedger) (organisationId : ℕ) : ParetoResult :=
  calculateParetoContributors (getSpendBySupplier ledger organisationId) defaultShare

section Running

variable {total targetPct aThresholdPct bThresholdPct running : ℚ} {items : List SpendItem}

def runningAmount (items : List SpendItem) (count : ℕ) : ℚ :=
  ((items.map fun item => item.amount.value).take count).sum

theorem runningAmount_length : runningAmount items items.length = totalAmount items := by
  rw [runningAmount, totalAmount, List.take_of_length_le (List.length_map _).le]

theorem runningAmount_cons (item : SpendItem) (count : ℕ) :
    runningAmount (item :: items) (count + 1) = item.amount.value + runningAmount items count := by
  rw [runningAmount, List.map_cons, List.take_succ_cons, List.sum_cons, runningAmount]

/-- The contributors are the shortest beginning that reaches the share, or all items. -/
theorem contributorsFrom_spec (total targetPct running : ℚ) (items : List SpendItem) :
    ∃ count ≤ items.length, (contributorsFrom total targetPct running items).1 = items.take count ∧
    (∀ fewer, 0 < fewer → fewer < count → (running + runningAmount items fewer) / total <
      targetPct) ∧
    (count = items.length ∨ 0 < count ∧ targetPct ≤ (running + runningAmount items count) / total) ∧
    (0 < items.length → 0 < count) := by
  induction items generalizing running with
  | nil => exact ⟨0, le_rfl, rfl, fun fewer _ hLess => absurd hLess (Nat.not_lt_zero fewer),
      .inl rfl, id⟩
  | cons item items ih =>
    have hOne : running + runningAmount (item :: items) 1 = running + item.amount.value := by
      rw [runningAmount_cons]
      exact congrArg (running + ·) (add_zero _)
    rw [contributorsFrom]
    split
    · rename_i hReached
      refine ⟨1, Nat.succ_le_succ (Nat.zero_le _), rfl, ?_, .inr ⟨Nat.one_pos, ?_⟩, fun _ =>
        Nat.one_pos⟩
      · intro fewer hPos hLess
        exact absurd hLess (Nat.not_lt.mpr hPos)
      · rwa [hOne]
    · rename_i hNot
      obtain ⟨count, hLength, hTaken, hBefore, hEnd, -⟩ := ih (running + item.amount.value)
      have hShift : ∀ fewer, running + runningAmount (item :: items) (fewer + 1) =
          running + item.amount.value + runningAmount items fewer := by
        intro fewer
        rw [runningAmount_cons, add_assoc]
      refine ⟨count + 1, Nat.succ_le_succ hLength, ?_, ?_, ?_, fun _ => Nat.succ_pos count⟩
      · dsimp only
        rw [hTaken, List.take_succ_cons]
      · intro fewer hPos hLess
        obtain ⟨fewer, rfl⟩ := Nat.exists_eq_add_one_of_ne_zero hPos.ne'
        rw [hShift]
        obtain rfl | hLater := Nat.eq_zero_or_pos fewer
        · rw [← hShift, hOne]
          exact not_le.mp hNot
        · exact hBefore fewer hLater (Nat.lt_of_succ_lt_succ hLess)
      · obtain hAll | ⟨hPos, hReached⟩ := hEnd
        · exact .inl (congrArg (· + 1) hAll)
        · refine .inr ⟨Nat.succ_pos count, ?_⟩
          rwa [hShift]

theorem getElem?_abcFrom (i : ℕ) : (abcFrom total aThresholdPct bThresholdPct running items)[i]? =
    (items[i]?).map fun item =>
      ABCResult.mk item (roundedShare (running + runningAmount items (i + 1)) total)
      (classify aThresholdPct bThresholdPct
        (roundedShare (running + runningAmount items (i + 1)) total)) := by
  induction items generalizing running i with
  | nil => rfl
  | cons item items ih =>
    rw [runningAmount_cons, abcFrom]
    cases i with
    | zero =>
      have hZero : runningAmount items 0 = 0 := rfl
      rw [hZero, add_zero]
      rfl
    | succ i =>
      rw [List.getElem?_cons_succ, List.getElem?_cons_succ, ih, add_assoc]

end Running

section Ranking

variable {rows : List SpendTotal} {items : List SpendItem}
  {targetPct aThresholdPct bThresholdPct : ℚ} {n m : ℕ}

/-- Each amount has four decimals and none is negative. -/
structure SpendRows (rows : List SpendTotal) : Prop where
  amounts : ∀ row ∈ rows, ∃ amount : Money, 0 ≤ amount.value ∧ amount.value = row.amount
  total : 0 < (rows.map SpendTotal.amount).sum

/-- Every key once, the largest amounts first, nothing lost. -/
structure Ranked (rows : List SpendTotal) (items : List SpendItem) : Prop where
  keys : (items.map SpendItem.key).Nodup
  order : (items.map fun item => item.amount.value).Pairwise (· ≥ ·)
  total : totalAmount items = (rows.map SpendTotal.amount).sum

theorem ranked_aggregateSpend (h : ∀ row ∈ rows, ∃ amount : Money, amount.value = row.amount) :
    Ranked rows (aggregateSpend rows) := by
  have hGroups := groups_aggregateSpend h
  refine ⟨?_, ?_, ?_⟩
  · have hKeys := hGroups.keys
    rwa [List.map_map] at hKeys
  · rw [List.pairwise_map]
    have hSorted : (aggregateSpend rows).Pairwise fun a b => b.amount.units ≤ a.amount.units :=
      List.pairwise_insertionSort (fun a b : SpendItem => b.amount.units ≤ a.amount.units) _
    refine hSorted.imp fun hUnits => ?_
    exact div_le_div_of_nonneg_right (by exact_mod_cast hUnits) (by positivity)
  · have hSum := hGroups.sum_eq
    rw [List.map_map, List.map_map] at hSum
    exact hSum

theorem nonneg_aggregateSpend (h : SpendRows rows) :
    ∀ amount ∈ (aggregateSpend rows).map (fun item => item.amount.value), 0 ≤ amount := by
  have hGroups := groups_aggregateSpend fun row hRow => (h.amounts row hRow).imp fun _ hAmount =>
    hAmount.2
  intro amount hAmount
  obtain ⟨item, hItem, rfl⟩ := List.mem_map.mp hAmount
  have hSum := hGroups.amounts item.entry (List.mem_map_of_mem hItem)
  dsimp only [SpendItem.entry] at hSum
  rw [hSum, keySum]
  refine List.sum_nonneg fun amount hAmount => ?_
  obtain ⟨entry, hEntry, rfl⟩ := List.mem_map.mp hAmount
  obtain ⟨row, hRow, rfl⟩ := List.mem_map.mp (List.mem_filter.mp hEntry).1
  obtain ⟨money, hNonneg, hValue⟩ := h.amounts row hRow
  exact hNonneg.trans_eq hValue

theorem runningAmount_mono (hNonneg : ∀ amount ∈ items.map (fun item => item.amount.value),
    0 ≤ amount) (h : n ≤ m) :
    runningAmount items n ≤ runningAmount items m := sum_take_le_sum_take hNonneg h

/-- The contributors are a smallest choice of items that reaches the share. -/
theorem isLeast_contributorCount (hNodup : items.Nodup)
    (hRanked : (items.map fun item => item.amount.value).Pairwise (· ≥ ·))
    (hTotal : 0 < totalAmount items) (hPositive : 0 < targetPct) (hAtMost : targetPct ≤ 1) :
    IsLeast (Reaching items (fun item => item.amount.value) (targetPct * totalAmount items))
      (calculateParetoContributors items targetPct).contributorCount := by
  obtain ⟨count, hLength, hTaken, hBefore, hEnd, -⟩ :=
    contributorsFrom_spec (totalAmount items) targetPct 0 items
  have hCount : (calculateParetoContributors items targetPct).contributorCount = count := by
    rw [calculateParetoContributors]
    dsimp only
    rw [if_neg hTotal.ne', hTaken, List.length_take_of_le hLength]
  rw [hCount]
  refine isLeast_reaching hNodup hRanked hLength ?_ ?_
  · change _ ≤ runningAmount items count
    obtain rfl | ⟨-, hReached⟩ := hEnd
    · rw [runningAmount_length]
      exact mul_le_of_le_one_left hTotal.le hAtMost
    · rwa [zero_add, le_div_iff₀ hTotal] at hReached
  · intro fewer hLess hReached
    change _ ≤ runningAmount items fewer at hReached
    obtain rfl | hPos := Nat.eq_zero_or_pos fewer
    · exact (mul_pos hPositive hTotal).not_ge hReached
    · have hShort := hBefore fewer hPos hLess
      rw [zero_add, div_lt_iff₀ hTotal] at hShort
      exact hShort.not_ge hReached

end Ranking

section Bands

variable {items : List SpendItem} {targetPct aThresholdPct bThresholdPct running total : ℚ}
  {i j : ℕ}

def ABCClass.rank : ABCClass → ℕ
  | .A => 0
  | .B => 1
  | .C => 2

theorem rank_classify_mono {low high : ℚ} (h : low ≤ high) :
    (classify aThresholdPct bThresholdPct low).rank ≤
      (classify aThresholdPct bThresholdPct high).rank := by
  unfold classify
  split
  · exact Nat.zero_le _
  · rename_i hLow
    rw [if_neg fun hHigh => hLow (h.trans hHigh)]
    split
    · split
      · exact le_rfl
      · exact Nat.le_succ 1
    · rename_i hLowB
      rw [if_neg fun hHigh => hLowB (h.trans hHigh)]

theorem roundedShare_mono (hTotal : 0 < total) {low high : ℚ} (h : low ≤ high) :
    roundedShare low total ≤ roundedShare high total := by
  have hShare : low / total * 100 ≤ high / total * 100 :=
    mul_le_mul_of_nonneg_right (div_le_div_of_nonneg_right h hTotal.le) (by norm_num)
  exact div_le_div_of_nonneg_right (FixedPoint.value_quantize_mono hShare) (by norm_num)

theorem roundedShare_self (hTotal : 0 < total) : roundedShare total total = 1 := by
  rw [roundedShare, div_self hTotal.ne', one_mul]
  decide +kernel

/-- Rounding does not take a share beyond a threshold of six decimals that it is below. -/
theorem roundedShare_le (threshold : Percentage) (h : running / total < threshold.value) :
    roundedShare running total ≤ threshold.value := by
  have hUnits : running / total * 100 * 10 ^ 4 ≤ (threshold.units : ℚ) := by
    rw [← threshold.value_mul]
    linarith
  have hRounded : ((roundHalfEven (running / total * 100 * 10 ^ 4) : ℤ) : ℚ) ≤ threshold.units :=
    Int.cast_le.mpr (roundHalfEven_le hUnits)
  change (roundHalfEven (running / total * 100 * 10 ^ 4) : ℚ) / 10 ^ 4 / 100 ≤
    threshold.units / 10 ^ 6
  have hScale : (10 : ℚ) ^ 4 * 100 = 10 ^ 6 := by norm_num
  rw [div_div, hScale]
  exact div_le_div_of_nonneg_right hRounded (by norm_num)

theorem map_abcFrom : (abcFrom total aThresholdPct bThresholdPct running items).map
      (fun result => (result.cumulativePct, result.classification)) =
    (List.range items.length).map fun i =>
      (roundedShare (running + runningAmount items (i + 1)) total,
        classify aThresholdPct bThresholdPct
          (roundedShare (running + runningAmount items (i + 1)) total)) := by
  refine List.ext_getElem? fun i => ?_
  rw [List.getElem?_map, List.getElem?_map, getElem?_abcFrom]
  obtain hLess | hGreater := lt_or_ge i items.length
  · rw [List.getElem?_range hLess, List.getElem?_eq_getElem hLess]
    rfl
  · rw [List.getElem?_eq_none hGreater, List.getElem?_eq_none (by rwa [List.length_range])]
    rfl

/-- The shares grow to the whole, and no class is followed by an earlier one. -/
structure Banded (results : List ABCResult) : Prop where
  increasing : (results.map ABCResult.cumulativePct).Pairwise (· ≤ ·)
  complete : (results.map ABCResult.cumulativePct).getLast? = some 1
  classes : (results.map fun result => result.classification.rank).Pairwise (· ≤ ·)

theorem banded_calculateAbcClassification
    (hNonneg : ∀ amount ∈ items.map (fun item => item.amount.value), 0 ≤ amount)
    (hTotal : 0 < totalAmount items) :
    Banded (calculateAbcClassification items aThresholdPct bThresholdPct) := by
  have hResults : calculateAbcClassification items aThresholdPct bThresholdPct =
      abcFrom (totalAmount items) aThresholdPct bThresholdPct 0 items := if_neg hTotal.ne'
  have hPairs := @map_abcFrom items aThresholdPct bThresholdPct 0 (totalAmount items)
  have hShares : (abcFrom (totalAmount items) aThresholdPct bThresholdPct 0 items).map
    ABCResult.cumulativePct =
      (List.range items.length).map fun i =>
        roundedShare (0 + runningAmount items (i + 1)) (totalAmount items) := by
    have hFirst := congrArg (List.map Prod.fst) hPairs
    rwa [List.map_map, List.map_map] at hFirst
  have hClasses : (abcFrom (totalAmount items) aThresholdPct bThresholdPct 0 items).map
        (fun result => result.classification.rank) = (List.range items.length).map fun i =>
      (classify aThresholdPct bThresholdPct
        (roundedShare (0 + runningAmount items (i + 1)) (totalAmount items))).rank := by
    have hSecond := congrArg (List.map fun pair => pair.2.rank) hPairs
    rwa [List.map_map, List.map_map] at hSecond
  have hMono : ∀ {i j : ℕ}, i < j →
    roundedShare (0 + runningAmount items (i + 1)) (totalAmount items) ≤
      roundedShare (0 + runningAmount items (j + 1)) (totalAmount items) := fun hLess =>
    roundedShare_mono hTotal (add_le_add_right (runningAmount_mono hNonneg (Nat.succ_le_succ hLess.le)) 0)
  have hSome : items.length ≠ 0 := by
    intro hEmpty
    rw [List.length_eq_zero_iff.mp hEmpty] at hTotal
    exact lt_irrefl _ hTotal
  rw [hResults]
  refine ⟨?_, ?_, ?_⟩
  · rw [hShares, List.pairwise_map]
    exact List.pairwise_lt_range.imp hMono
  · rw [hShares, List.getLast?_map, List.getLast?_range, if_neg hSome, Option.map_some,
      Nat.sub_add_cancel (Nat.one_le_iff_ne_zero.mpr hSome), runningAmount_length, zero_add,
      roundedShare_self hTotal]
  · rw [hClasses, List.pairwise_map]
    exact List.pairwise_lt_range.imp fun hLess => rank_classify_mono (hMono hLess)

/-- Every item before the last contributor stays below the share and so is in class A. -/
theorem classA_before_last (hTotal : 0 < totalAmount items) (threshold : Percentage)
    (hCount : i + 1 < (calculateParetoContributors items threshold.value).contributorCount) :
    ∃ result, (calculateAbcClassification items threshold.value bThresholdPct)[i]? = some result ∧
      items[i]? = some result.item ∧ result.classification = .A := by
  obtain ⟨count, hLength, hTaken, hBefore, -⟩ :=
    contributorsFrom_spec (totalAmount items) threshold.value 0 items
  have hContributors : (calculateParetoContributors items threshold.value).contributorCount =
      count := by
    rw [calculateParetoContributors]
    dsimp only
    rw [if_neg hTotal.ne', hTaken, List.length_take_of_le hLength]
  rw [hContributors] at hCount
  have hLess : i < items.length := (Nat.lt_of_succ_lt hCount).trans_le hLength
  have hShare := roundedShare_le threshold (hBefore (i + 1) (Nat.succ_pos i) hCount)
  have hResults : calculateAbcClassification items threshold.value bThresholdPct =
      abcFrom (totalAmount items) threshold.value bThresholdPct 0 items := if_neg hTotal.ne'
  rw [hResults, getElem?_abcFrom, List.getElem?_eq_getElem hLess]
  exact ⟨_, rfl, rfl, if_pos hShare⟩

end Bands

def threeSpends : List SpendTotal := [⟨"a", "Alpha", 30⟩, ⟨"b", "Beta", 50⟩, ⟨"a", "Alpha", 20⟩]

end ProcureFoundation.Ledger
