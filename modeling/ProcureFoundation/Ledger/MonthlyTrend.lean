import ProcureFoundation.Ledger.SpendViews

/-!
# Month over month

The trend holds one point for each month that has purchases, and compares it with the point before.
That is the month before only where no month is missing in between, or where the change is left out
because nothing was spent in the earlier one.
-/

namespace ProcureFoundation.Ledger

open Rebate

variable {ledger : PurchaseLedger} {organisationId : ℕ}

def monthRows (ledger : PurchaseLedger) (organisationId : ℕ) : List ((ℕ × ℕ) × ℚ) :=
  (readRows ledger organisationId).map monthEntry

/-- Zero for a month without purchases. -/
def monthTotal (ledger : PurchaseLedger) (organisationId : ℕ) (month : ℕ × ℕ) : ℚ :=
  keySum (monthRows ledger organisationId) month

def monthsWithPurchases (ledger : PurchaseLedger) (organisationId : ℕ) : List (ℕ × ℕ) :=
  (monthRows ledger organisationId).map Prod.fst

def previousMonth (month : ℕ × ℕ) : ℕ × ℕ := if month.2 = 1 then (month.1 - 1, 12)
    else (month.1, month.2 - 1)

def earlier (a b : ℕ × ℕ) : Prop := a.1 < b.1 ∨ a.1 = b.1 ∧ a.2 < b.2

/-- The change from one total to another, none from zero. -/
def changeSince (prior amount : ℚ) : Option ℚ :=
  if prior = 0 then none
  else some ((roundCurrency (contextRound (contextRound ((amount - prior) / prior) * 100))).value /
    100)

/-- Each month is compared with the month before. -/
structure ComparesWithPreviousMonth (ledger : PurchaseLedger) (organisationId : ℕ) : Prop where
  change : ∀ point ∈ getMonthOverMonthTrend ledger organisationId, point.changePct =
    changeSince (monthTotal ledger organisationId (previousMonth point.month))
      (monthTotal ledger organisationId point.month)
  first : ∀ point ∈ getMonthOverMonthTrend ledger organisationId,
    (∀ month ∈ monthsWithPurchases ledger organisationId, ¬earlier month point.month) →
      point.changePct = none

/-- A month with purchases and the latest earlier one that has some. -/
structure Neighbours (ledger : PurchaseLedger) (organisationId : ℕ) (prior month : ℕ × ℕ) :
    Prop where
  priorBought : prior ∈ monthsWithPurchases ledger organisationId
  bought : month ∈ monthsWithPurchases ledger organisationId
  order : earlier prior month
  between : ∀ other ∈ monthsWithPurchases ledger organisationId, earlier other month →
    other = prior ∨ earlier other prior

section Points

variable {prior : Option ℚ} {totals : List ((ℕ × ℕ) × ℚ)} {point : MonthOverMonthPoint}
  {month : ℕ × ℕ} {amount : ℚ}

theorem changePct_monthPoint_some (prior : ℚ) :
    (monthPoint (some prior) month amount).changePct = changeSince prior amount := by
  unfold monthPoint changeSince
  dsimp only
  by_cases hZero : prior = 0
  · rw [if_pos hZero, Option.filter_some,
      if_neg (by rw [decide_eq_true_eq]; exact not_not.mpr hZero), Option.map_none]
  · rw [if_neg hZero, Option.filter_some, if_pos (decide_eq_true hZero), Option.map_some]

theorem mem_monthPoints_iff : point ∈ monthPoints prior totals ↔ ∃ before total after,
    totals = before ++ total :: after ∧
      point = monthPoint ((before.getLast?.map Prod.snd).or prior) total.1 total.2 := by
  induction totals generalizing prior with
  | nil =>
    constructor
    · intro h
      cases h
    · rintro ⟨before, total, after, h, -⟩
      exact absurd h.symm (List.append_ne_nil_of_right_ne_nil before (List.cons_ne_nil total after))
  | cons total totals ih =>
    rw [monthPoints, List.mem_cons, ih]
    constructor
    · rintro (rfl | ⟨before, other, after, rfl, rfl⟩)
      · exact ⟨[], total, totals, rfl, rfl⟩
      · refine ⟨total :: before, other, after, rfl, ?_⟩
        rw [List.getLast?_cons]
        cases before.getLast? with
        | none => rfl
        | some last => rfl
    · rintro ⟨before, other, after, hSplit, rfl⟩
      cases before with
      | nil =>
        obtain ⟨rfl, -⟩ := List.cons.inj hSplit
        exact .inl rfl
      | cons head before =>
        obtain ⟨rfl, rfl⟩ := List.cons.inj hSplit
        refine .inr ⟨before, other, after, rfl, ?_⟩
        rw [List.getLast?_cons]
        cases before.getLast? with
        | none => rfl
        | some last => rfl

end Points

section Months

variable {a b c : ℕ × ℕ} {prior month : ℕ × ℕ} {total : (ℕ × ℕ) × ℚ}
  {before after : List ((ℕ × ℕ) × ℚ)}

theorem earlier_irrefl (a : ℕ × ℕ) : ¬earlier a a := by
  rintro (h | ⟨-, h⟩)
  · exact lt_irrefl _ h
  · exact lt_irrefl _ h

theorem earlier_asymm (h : earlier a b) : ¬earlier b a := by
  unfold earlier at *
  omega

/-- No month lies between a month and the one before. -/
theorem earlier_iff_of_previous (hMonth : 1 ≤ b.2 ∧ b.2 ≤ 12) (ha : 1 ≤ a.2 ∧ a.2 ≤ 12)
    (hYear : 1 ≤ a.1) : earlier a b ↔ a = previousMonth b ∨ earlier a (previousMonth b) := by
  unfold earlier previousMonth
  rw [Prod.ext_iff]
  split
  · dsimp only
    omega
  · dsimp only
    omega

def sortedMonths (ledger : PurchaseLedger) (organisationId : ℕ) : List ((ℕ × ℕ) × ℚ) :=
  ((monthRows ledger organisationId).foldl addTotal []).insertionSort fun a b =>
    a.1.1 < b.1.1 ∨ a.1.1 = b.1.1 ∧ a.1.2 ≤ b.1.2

theorem getMonthOverMonthTrend_eq : getMonthOverMonthTrend ledger organisationId =
    monthPoints none (sortedMonths ledger organisationId) := by
  rw [getMonthOverMonthTrend, calculateMonthOverMonthTrend, addMonth_eq, sortedMonths, monthRows,
    readRows, List.map_append, List.map_map, List.map_map]
  rfl

theorem groups_sortedMonths : Groups (sortedMonths ledger organisationId)
    (monthRows ledger organisationId) :=
  (Groups.of_foldl (monthRows ledger organisationId)).perm (List.perm_insertionSort _ _).symm
    (List.Perm.refl _)

theorem pairwise_sortedMonths : (sortedMonths ledger organisationId).Pairwise fun a b =>
    earlier a.1 b.1 := by
  let inOrder := fun a b : (ℕ × ℕ) × ℚ => a.1.1 < b.1.1 ∨ a.1.1 = b.1.1 ∧ a.1.2 ≤ b.1.2
  have hTotal : Std.Total inOrder := ⟨fun a b => by
    change (_ ∨ _) ∨ _ ∨ _
    omega⟩
  have hTrans : IsTrans _ inOrder := ⟨fun a b c hab hbc => by
    change _ ∨ _
    change _ ∨ _ at hab hbc
    omega⟩
  have hSorted : (sortedMonths ledger organisationId).Pairwise inOrder :=
    List.pairwise_insertionSort inOrder _
  have hNodup := List.pairwise_map.mp (@groups_sortedMonths ledger organisationId).keys
  refine (hSorted.and hNodup).imp fun h => ?_
  obtain ⟨hLess | ⟨hYear, hMonth⟩, hNe⟩ := h
  · exact .inl hLess
  · exact .inr ⟨hYear, lt_of_le_of_ne hMonth fun hSame => hNe (Prod.ext hYear hSame)⟩

theorem valid_monthsWithPurchases (h : month ∈ monthsWithPurchases ledger organisationId) :
    1 ≤ month.1 ∧ 1 ≤ month.2 ∧ month.2 ≤ 12 := by
  obtain ⟨entry, hEntry, rfl⟩ := List.mem_map.mp h
  obtain ⟨contribution, -, rfl⟩ := List.mem_map.mp hEntry
  obtain ⟨⟨hYear, -⟩, ⟨hLow, hHigh⟩, -⟩ := contribution.date.valid
  exact ⟨hYear, hLow, hHigh⟩

theorem bought_of_split (h : sortedMonths ledger organisationId = before ++ total :: after) :
    total.1 ∈ monthsWithPurchases ledger organisationId ∧
      total.2 = monthTotal ledger organisationId total.1 := by
  have hMem : total ∈ sortedMonths ledger organisationId := by
    rw [h]
    exact List.mem_append_right before List.mem_cons_self
  exact ⟨(groups_sortedMonths.covers total.1).mp (List.mem_map_of_mem hMem),
    groups_sortedMonths.amounts total hMem⟩

/-- What comes before in the series are the earlier months with purchases. -/
theorem mem_before_iff (h : sortedMonths ledger organisationId = before ++ total :: after) :
    month ∈ before.map Prod.fst ↔ month ∈ monthsWithPurchases ledger organisationId ∧
      earlier month total.1 := by
  have hOrder := @pairwise_sortedMonths ledger organisationId
  have hCovers := (@groups_sortedMonths ledger organisationId).covers month
  rw [h] at hOrder hCovers
  obtain ⟨-, hAfter, hBefore⟩ := List.pairwise_append.mp hOrder
  rw [monthsWithPurchases, ← hCovers, List.map_append, List.map_cons, List.mem_append,
    List.mem_cons]
  constructor
  · intro hMem
    refine ⟨.inl hMem, ?_⟩
    obtain ⟨other, hOther, rfl⟩ := List.mem_map.mp hMem
    exact hBefore other hOther total List.mem_cons_self
  · rintro ⟨hMem | rfl | hMem, hEarlier⟩
    · exact hMem
    · exact absurd hEarlier (earlier_irrefl total.1)
    · obtain ⟨other, hOther, rfl⟩ := List.mem_map.mp hMem
      exact absurd hEarlier (earlier_asymm ((List.pairwise_cons.mp hAfter).1 other hOther))

theorem monthTotal_of_notMem (h : month ∉ monthsWithPurchases ledger organisationId) :
    monthTotal ledger organisationId month = 0 := Groups.keySum_of_notMem h

theorem Neighbours.unique {other : ℕ × ℕ} (h : Neighbours ledger organisationId prior month)
    (hOther : Neighbours ledger organisationId other month) : other = prior := by
  obtain hSame | hEarlier := h.between other hOther.priorBought hOther.order
  · exact hSame
  · obtain hSame | hLater := hOther.between prior h.priorBought h.order
    · exact hSame.symm
    · exact absurd hLater (earlier_asymm hEarlier)

/-- The month before the point is the latest earlier one with purchases. -/
theorem neighbours_of_split (h : sortedMonths ledger organisationId = before ++ total :: after)
    {last : (ℕ × ℕ) × ℚ} (hLast : before.getLast? = some last) :
    Neighbours ledger organisationId last.1 total.1 ∧
      last.2 = monthTotal ledger organisationId last.1 := by
  obtain ⟨start, rfl⟩ := List.getLast?_eq_some_iff.mp hLast
  have hMem : last ∈ sortedMonths ledger organisationId := by
    rw [h]
    exact List.mem_append_left _ (List.mem_append_right start List.mem_cons_self)
  obtain ⟨hBought, hEarlier⟩ := (@mem_before_iff _ _ last.1 _ _ _ h).mp
    (List.mem_map_of_mem (List.mem_append_right start List.mem_cons_self))
  refine ⟨⟨hBought, (bought_of_split h).1, hEarlier, ?_⟩, groups_sortedMonths.amounts last hMem⟩
  intro other hOther hBefore
  have hOrder := (List.pairwise_append.mp (h ▸ pairwise_sortedMonths)).1
  have hPlace := (mem_before_iff h).mpr ⟨hOther, hBefore⟩
  rw [List.map_append, List.mem_append] at hPlace
  obtain hStart | hEnd := hPlace
  · obtain ⟨entry, hEntry, rfl⟩ := List.mem_map.mp hStart
    exact .inr ((List.pairwise_append.mp hOrder).2.2 entry hEntry last List.mem_cons_self)
  · obtain ⟨entry, hEntry, rfl⟩ := List.mem_map.mp hEnd
    exact .inl (congrArg Prod.fst (List.mem_singleton.mp hEntry))

theorem Neighbours.exists_split (h : Neighbours ledger organisationId prior month) :
    ∃ before total after last,
    sortedMonths ledger organisationId = before ++ total :: after ∧ total.1 = month ∧
      before.getLast? = some last ∧ last.1 = prior := by
  obtain ⟨total, hTotal, rfl⟩ := List.mem_map.mp ((groups_sortedMonths.covers month).mpr h.bought)
  obtain ⟨before, after, hSplit⟩ := List.append_of_mem hTotal
  have hPrior := (mem_before_iff hSplit).mpr ⟨h.priorBought, h.order⟩
  cases hLast : before.getLast? with
  | none =>
    rw [List.getLast?_eq_none_iff.mp hLast] at hPrior
    exact absurd hPrior List.not_mem_nil
  | some last =>
    exact ⟨before, total, after, last, hSplit, rfl, hLast,
      h.unique (neighbours_of_split hSplit hLast).1⟩

theorem previous_not_bought (h : Neighbours ledger organisationId prior month)
    (hGap : prior ≠ previousMonth month) :
    previousMonth month ∉ monthsWithPurchases ledger organisationId := by
  intro hBought
  obtain ⟨-, hMonth⟩ := valid_monthsWithPurchases h.bought
  have hPrevious := valid_monthsWithPurchases hBought
  have hPrior := valid_monthsWithPurchases h.priorBought
  have hEarlier := (earlier_iff_of_previous hMonth hPrevious.2 hPrevious.1).mpr (.inl rfl)
  have hBefore := ((earlier_iff_of_previous hMonth hPrior.2 hPrior.1).mp h.order).resolve_left hGap
  obtain hSame | hLater := h.between _ hBought hEarlier
  · exact hGap hSame.symm
  · exact earlier_asymm hBefore hLater

theorem previous_not_bought_of_first (hMonth : month ∈ monthsWithPurchases ledger organisationId)
    (hFirst : ∀ other ∈ monthsWithPurchases ledger organisationId, ¬earlier other month) :
    previousMonth month ∉ monthsWithPurchases ledger organisationId := by
  intro hBought
  have hPrevious := valid_monthsWithPurchases hBought
  exact hFirst _ hBought
    ((earlier_iff_of_previous (valid_monthsWithPurchases hMonth).2 hPrevious.2 hPrevious.1).mpr
    (.inl rfl))

theorem changeSince_eq_none_iff {prior amount : ℚ} : changeSince prior amount = none ↔
    prior = 0 := by
  unfold changeSince
  split
  · rename_i hZero
    exact iff_of_true rfl hZero
  · rename_i hNonzero
    refine iff_of_false (fun h => ?_) hNonzero
    cases h

/-- The trend compares with the month before exactly where a month whose predecessor has no
purchases follows one in which nothing was spent in total, or is the first. -/
theorem comparesWithPreviousMonth_iff (ledger : PurchaseLedger) (organisationId : ℕ) :
    ComparesWithPreviousMonth ledger organisationId ↔
      ∀ prior month, Neighbours ledger organisationId prior month →
      prior = previousMonth month ∨ monthTotal ledger organisationId prior = 0 := by
  constructor
  · intro hCompares prior month hNeighbours
    by_cases hGap : prior = previousMonth month
    · exact .inl hGap
    · obtain ⟨before, total, after, last, hSplit, rfl, hLast, rfl⟩ := hNeighbours.exists_split
      have hPoint : monthPoint (some last.2) total.1 total.2 ∈
          getMonthOverMonthTrend ledger organisationId := by
        rw [getMonthOverMonthTrend_eq, mem_monthPoints_iff]
        exact ⟨before, total, after, hSplit, by rw [hLast]; rfl⟩
      have hChange := hCompares.change _ hPoint
      rw [changePct_monthPoint_some] at hChange
      change _ = changeSince (monthTotal ledger organisationId (previousMonth total.1)) _ at hChange
      rw [monthTotal_of_notMem (previous_not_bought hNeighbours hGap),
        changeSince_eq_none_iff.mpr rfl, changeSince_eq_none_iff] at hChange
      exact .inr ((neighbours_of_split hSplit hLast).2.symm.trans hChange)
  · intro hCondition
    constructor
    · intro point hPoint
      rw [getMonthOverMonthTrend_eq, mem_monthPoints_iff] at hPoint
      obtain ⟨before, total, after, hSplit, rfl⟩ := hPoint
      obtain ⟨hBought, hAmount⟩ := bought_of_split hSplit
      cases hLast : before.getLast? with
      | none =>
        obtain rfl := List.getLast?_eq_none_iff.mp hLast
        have hNone := previous_not_bought_of_first hBought fun other hOther hEarlier =>
          absurd ((mem_before_iff hSplit).mpr ⟨hOther, hEarlier⟩) List.not_mem_nil
        change none = changeSince (monthTotal ledger organisationId (previousMonth total.1)) _
        rw [monthTotal_of_notMem hNone, changeSince_eq_none_iff.mpr rfl]
      | some last =>
        obtain ⟨hNeighbours, hLastAmount⟩ := neighbours_of_split hSplit hLast
        change (monthPoint (some last.2) total.1 total.2).changePct =
          changeSince (monthTotal ledger organisationId (previousMonth total.1))
            (monthTotal ledger organisationId total.1)
        rw [changePct_monthPoint_some, hLastAmount, hAmount]
        by_cases hGap : last.1 = previousMonth total.1
        · rw [hGap]
        · have hZero := (hCondition _ _ hNeighbours).resolve_left hGap
          rw [hZero, monthTotal_of_notMem (previous_not_bought hNeighbours hGap),
            changeSince_eq_none_iff.mpr rfl]
    · intro point hPoint hFirst
      rw [getMonthOverMonthTrend_eq, mem_monthPoints_iff] at hPoint
      obtain ⟨before, total, after, hSplit, rfl⟩ := hPoint
      cases hLast : before.getLast? with
      | none => rfl
      | some last =>
        obtain ⟨hNeighbours, -⟩ := neighbours_of_split hSplit hLast
        exact absurd hNeighbours.order (hFirst _ hNeighbours.priorBought)

end Months

/-- Spend in January and March, none in February. -/
def quietFebruary : PurchaseLedger where
  suppliers := [⟨1, "Foods"⟩]
  purchaseInvoices := []
  purchaseInvoiceLines := []
  purchaseTransactions :=
    [⟨1, 1, 1, none, none, ⟨2026, 1, 7, by decide⟩, ⟨1000000⟩, none, none, none⟩,
      ⟨2, 1, 1, none, none, ⟨2026, 3, 17, by decide⟩, ⟨1500000⟩, none, none, none⟩]

/-- March is compared with January, although nothing was spent in February. -/
theorem not_forall_trends_compare : ¬ComparesWithPreviousMonth quietFebruary 1 ∧
    (getMonthOverMonthTrend quietFebruary 1).map MonthOverMonthPoint.changePct =
      [none, some (1 / 2)] := by
  have hChanges : (getMonthOverMonthTrend quietFebruary 1).map MonthOverMonthPoint.changePct =
      [none, some (1 / 2)] := by decide +kernel
  refine ⟨fun hCompares => ?_, hChanges⟩
  have hMarch : ∃ point ∈ getMonthOverMonthTrend quietFebruary 1,
      point.changePct = some (1 / 2) := by
    have hMem : some (1 / 2) ∈ (getMonthOverMonthTrend quietFebruary 1).map
        MonthOverMonthPoint.changePct := by
      rw [hChanges]
      exact List.mem_cons_of_mem none List.mem_cons_self
    obtain ⟨point, hPoint, hChange⟩ := List.mem_map.mp hMem
    exact ⟨point, hPoint, hChange⟩
  have hAll : ∀ point ∈ getMonthOverMonthTrend quietFebruary 1,
      changeSince (monthTotal quietFebruary 1 (previousMonth point.month))
        (monthTotal quietFebruary 1 point.month) = none := by decide +kernel
  obtain ⟨point, hPoint, hChange⟩ := hMarch
  rw [hCompares.change point hPoint, hAll point hPoint] at hChange
  cases hChange

end ProcureFoundation.Ledger
