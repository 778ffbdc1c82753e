import ProcureFoundation.Foundation.MarginalSums
import ProcureFoundation.Foundation.Outcomes
import ProcureFoundation.Rebate.Calculations
import ProcureFoundation.Rebate.RoundedDifferences

/-!
# Tier lookup

Two functions read the bands of an agreement: one looks up the highest band reached, the other the
lowest beyond the spend. The lookup keeps the first of several bands with one threshold, and the
other one does not tell them apart.
-/

namespace ProcureFoundation.Rebate

open Outcome MarginalSums

def calculateProgressToNextTier (actualSpend : ℚ) (bands : List RebateBand) :
    Except String (Option ℚ × Option (Numeric 4)) :=
  match bands with
  | [] => .error "bands must not be empty"
  | _ =>
    match ascending RebateBand.thresholdSpend (bands.filter fun b => actualSpend < b.thresholdSpend) with
    | [] => .ok (none, none)
    | nextBand :: _ => do
      let remaining ← roundedDifference nextBand.thresholdSpend actualSpend
      return (some nextBand.thresholdSpend, some remaining)

variable {spend threshold : ℚ} {bands other : List RebateBand} {best a b : RebateBand}
  {rebateType : RebateType} {flatRatePct fixedAmount : Option ℚ}

section Lookup

def RebateType.banded (rebateType : RebateType) : Prop :=
  rebateType = .tiered ∨ rebateType = .retrospective

def bestBand (actualSpend : ℚ) (bands : List RebateBand) : Option RebateBand :=
  (bands.filter fun b => b.thresholdSpend ≤ actualSpend).argmax RebateBand.thresholdSpend

def amountAt (actualSpend : ℚ) (band : RebateBand) : Except String Money :=
  quantizeCurrency (contextRound (actualSpend * band.ratePct))

theorem calculateExpectedRebate_banded (hType : rebateType.banded) (hNonempty : bands ≠ []) :
    calculateExpectedRebate spend rebateType flatRatePct (some bands) fixedAmount =
      ((bestBand spend bands).map (amountAt spend)).getD (.ok 0) := by
  cases bands with
  | nil => exact absurd rfl hNonempty
  | cons band rest =>
    obtain rfl | rfl := hType
    all_goals
      unfold calculateExpectedRebate
      dsimp only
      cases hBest : bestBand spend (band :: rest) with
      | none =>
        rw [bestBand] at hBest
        rw [hBest]
        rfl
      | some best =>
        rw [bestBand] at hBest
        rw [hBest]
        rfl

/-- The band is reached and no band reached begins later. -/
structure IsTopBand (spend : ℚ) (bands : List RebateBand) (band : RebateBand) : Prop where
  mem : band ∈ bands
  reached : band.thresholdSpend ≤ spend
  highest : ∀ other ∈ bands, other.thresholdSpend ≤ spend →
    other.thresholdSpend ≤ band.thresholdSpend

theorem isTopBand_of_bestBand (h : bestBand spend bands = some best) :
    IsTopBand spend bands best where
  mem := (List.mem_filter.mp (List.argmax_mem h)).1
  reached := of_decide_eq_true (List.mem_filter.mp (List.argmax_mem h)).2
  highest _ hMem hReached :=
    List.le_of_mem_argmax (List.mem_filter.mpr ⟨hMem, decide_eq_true hReached⟩) h

theorem bestBand_eq_none (h : bestBand spend bands = none) :
    ∀ band ∈ bands, ¬band.thresholdSpend ≤ spend := by
  intro band hMem hReached
  rw [bestBand, List.argmax_eq_none, List.filter_eq_nil_iff] at h
  exact h band hMem (decide_eq_true hReached)

theorem IsTopBand.thresholdSpend_eq (ha : IsTopBand spend bands a) (hb : IsTopBand spend bands b) :
    a.thresholdSpend = b.thresholdSpend :=
  le_antisymm (hb.highest a ha.mem ha.reached) (ha.highest b hb.mem hb.reached)

theorem IsTopBand.exists_bestBand (h : IsTopBand spend bands a) :
    ∃ best, bestBand spend bands = some best := by
  cases hBest : bestBand spend bands with
  | none => exact absurd h.reached (bestBand_eq_none hBest a h.mem)
  | some best => exact ⟨best, rfl⟩

theorem IsTopBand.perm (h : IsTopBand spend bands a) (hPerm : other.Perm bands) :
    IsTopBand spend other a where
  mem := hPerm.mem_iff.mpr h.mem
  reached := h.reached
  highest band hMem := h.highest band (hPerm.mem_iff.mp hMem)

theorem IsTopBand.mem_filter (h : IsTopBand spend bands a) :
    a ∈ bands.filter fun b => decide (b.thresholdSpend ≤ spend) :=
  List.mem_filter.mpr ⟨h.mem, decide_eq_true h.reached⟩

/-- A reached band that begins no earlier than the top one is a top one too. -/
theorem IsTopBand.of_le (h : IsTopBand spend bands a)
    (hb : b ∈ bands.filter fun b => decide (b.thresholdSpend ≤ spend))
    (hLe : a.thresholdSpend ≤ b.thresholdSpend) : IsTopBand spend bands b where
  mem := (List.mem_filter.mp hb).1
  reached := of_decide_eq_true (List.mem_filter.mp hb).2
  highest other hMem hReached := (h.highest other hMem hReached).trans hLe

/-- The band is a top one, and no band listed before it is. -/
structure IsFirstTopBand (spend : ℚ) (bands : List RebateBand) (band : RebateBand) : Prop extends
    IsTopBand spend bands band where
  first : ∃ before after, bands = before ++ band :: after ∧ ∀ other ∈ before,
    ¬IsTopBand spend bands other

/-- Of the bands with the highest threshold the lookup takes the one listed first. -/
theorem IsFirstTopBand.bestBand_eq (h : IsFirstTopBand spend bands a) :
    bestBand spend bands = some a := by
  obtain ⟨before, after, hBands, hBefore⟩ := h.first
  have hFilter : (bands.filter fun b => decide (b.thresholdSpend ≤ spend)) =
      (before.filter fun b => decide (b.thresholdSpend ≤ spend)) ++
        a :: after.filter fun b => decide (b.thresholdSpend ≤ spend) := by
    have hCons : (a :: after).filter (fun b => decide (b.thresholdSpend ≤ spend)) =
        a :: after.filter fun b => decide (b.thresholdSpend ≤ spend) :=
      List.filter_cons_of_pos (decide_eq_true h.reached)
    rw [hBands, List.filter_append, hCons]
  have hNotBefore : ∀ b, IsTopBand spend bands b → b ∉ before.filter fun b =>
      decide (b.thresholdSpend ≤ spend) :=
    fun b hTop hMem => hBefore b (List.mem_filter.mp hMem).1 hTop
  refine List.argmax_eq_some_iff.mpr ⟨h.mem_filter, ?_, ?_⟩
  · intro b hMem
    exact h.highest b (List.mem_filter.mp hMem).1 (of_decide_eq_true (List.mem_filter.mp hMem).2)
  · intro b hMem hLe
    have hTop := h.of_le hMem hLe
    rw [hFilter, List.idxOf_append_of_notMem (hNotBefore a h.toIsTopBand),
      List.idxOf_append_of_notMem (hNotBefore b hTop), List.idxOf_cons_self]
    exact Nat.add_le_add_left (Nat.zero_le _) _

end Lookup

section Progress

structure IsNextThreshold (spend : ℚ) (bands : List RebateBand) (threshold : ℚ) : Prop where
  attained : ∃ band ∈ bands, band.thresholdSpend = threshold
  beyond : spend < threshold
  least : ∀ band ∈ bands, spend < band.thresholdSpend → threshold ≤ band.thresholdSpend

theorem IsNextThreshold.unique {next : ℚ} (h : IsNextThreshold spend bands threshold)
    (hNext : IsNextThreshold spend bands next) : threshold = next := by
  obtain ⟨a, ha, rfl⟩ := h.attained
  obtain ⟨b, hb, rfl⟩ := hNext.attained
  exact le_antisymm (h.least b hb hNext.beyond) (hNext.least a ha h.beyond)

theorem IsNextThreshold.perm (h : IsNextThreshold spend bands threshold)
    (hPerm : other.Perm bands) : IsNextThreshold spend other threshold where
  attained := by
    obtain ⟨band, hMem, hThreshold⟩ := h.attained
    exact ⟨band, hPerm.mem_iff.mpr hMem, hThreshold⟩
  beyond := h.beyond
  least band hMem := h.least band (hPerm.mem_iff.mp hMem)

theorem calculateProgressToNextTier_of_reached (hNonempty : bands ≠ [])
    (h : ∀ band ∈ bands, band.thresholdSpend ≤ spend) :
    calculateProgressToNextTier spend bands = .ok (none, none) := by
  have hNone : bands.filter (fun b => decide (spend < b.thresholdSpend)) = [] := by
    refine List.filter_eq_nil_iff.mpr ?_
    intro band hMem
    rw [decide_eq_true_iff]
    exact (h band hMem).not_gt
  cases bands with
  | nil => exact absurd rfl hNonempty
  | cons band rest =>
    unfold calculateProgressToNextTier
    rw [hNone, ascending, List.mergeSort_nil]

theorem calculateProgressToNextTier_of_next (h : IsNextThreshold spend bands threshold) :
    calculateProgressToNextTier spend bands =
      (roundedDifference threshold spend).map fun remaining =>
        (some threshold, some remaining) := by
  have hHigher : ∀ band, band ∈ ascending RebateBand.thresholdSpend
      (bands.filter fun b => spend < b.thresholdSpend) ↔
        band ∈ bands ∧ spend < band.thresholdSpend := by
    intro band
    rw [(perm_ascending _).mem_iff, List.mem_filter, decide_eq_true_iff]
  have hSorted :
    (ascending RebateBand.thresholdSpend (bands.filter fun b => spend < b.thresholdSpend)).Pairwise
      fun a b => a.thresholdSpend ≤ b.thresholdSpend := pairwise_ascending _
  obtain ⟨band, hMem, hThreshold⟩ := h.attained
  cases bands with
  | nil => exact absurd hMem List.not_mem_nil
  | cons first rest =>
    unfold calculateProgressToNextTier
    dsimp only
    cases hList : ascending RebateBand.thresholdSpend
        ((first :: rest).filter fun b => spend < b.thresholdSpend) with
    | nil =>
      have hBand := (hHigher band).mpr ⟨hMem, hThreshold ▸ h.beyond⟩
      rw [hList] at hBand
      exact absurd hBand List.not_mem_nil
    | cons nextBand higher =>
      rw [hList] at hSorted
      have hNext := (hHigher nextBand).mp (hList ▸ List.mem_cons_self)
      have hLeast : IsNextThreshold spend (first :: rest) nextBand.thresholdSpend := by
        refine ⟨⟨nextBand, hNext.1, rfl⟩, hNext.2, ?_⟩
        intro other hOther hBeyond
        have hIn := (hHigher other).mpr ⟨hOther, hBeyond⟩
        rw [hList] at hIn
        obtain rfl | hTail := List.mem_cons.mp hIn
        · exact le_rfl
        · exact (List.pairwise_cons.mp hSorted).1 other hTail
      rw [h.unique hLeast]
      dsimp only
      cases roundedDifference nextBand.thresholdSpend spend with
      | error message => rfl
      | ok remaining => rfl

theorem exists_nextThreshold (h : ∃ band ∈ bands, spend < band.thresholdSpend) :
    ∃ threshold, IsNextThreshold spend bands threshold := by
  obtain ⟨band, hMem, hBeyond⟩ := h
  have hIn : band ∈ bands.filter fun b => spend < b.thresholdSpend :=
    List.mem_filter.mpr ⟨hMem, decide_eq_true hBeyond⟩
  cases hLeast : (bands.filter fun b => decide (spend < b.thresholdSpend)).argmin
    RebateBand.thresholdSpend with
  | none =>
    rw [List.argmin_eq_none.mp hLeast] at hIn
    exact absurd hIn List.not_mem_nil
  | some least =>
    have hMemLeast := List.mem_filter.mp (List.argmin_mem hLeast)
    refine ⟨least.thresholdSpend, ⟨least, hMemLeast.1, rfl⟩, of_decide_eq_true hMemLeast.2, ?_⟩
    intro other hOther hOtherBeyond
    exact List.le_of_mem_argmin (List.mem_filter.mpr ⟨hOther, decide_eq_true hOtherBeyond⟩) hLeast

theorem calculateProgressToNextTier_perm (hPerm : other.Perm bands) :
    calculateProgressToNextTier spend other = calculateProgressToNextTier spend bands := by
  by_cases hNext : ∃ band ∈ bands, spend < band.thresholdSpend
  · obtain ⟨threshold, hThreshold⟩ := exists_nextThreshold hNext
    rw [calculateProgressToNextTier_of_next hThreshold,
      calculateProgressToNextTier_of_next (hThreshold.perm hPerm)]
  · have hReached : ∀ band ∈ bands, band.thresholdSpend ≤ spend := by
      intro band hMem
      exact not_lt.mp fun hBeyond => hNext ⟨band, hMem, hBeyond⟩
    by_cases hEmpty : bands = []
    · subst hEmpty
      rw [List.perm_nil.mp hPerm]
    · rw [calculateProgressToNextTier_of_reached hEmpty hReached,
        calculateProgressToNextTier_of_reached
        (fun hNil => hEmpty (List.nil_perm.mp (hNil ▸ hPerm))) fun band hMem =>
          hReached band (hPerm.mem_iff.mp hMem)]

end Progress

section Order

/-- Bands reached with one threshold give one amount. -/
def TopBandsAgree (spend : ℚ) (bands : List RebateBand) : Prop :=
  ∀ a b, IsTopBand spend bands a → IsTopBand spend bands b → amountAt spend a = amountAt spend b

theorem TopBandsAgree.amount_eq (h : TopBandsAgree spend bands) (hPerm : other.Perm bands) :
    ((bestBand spend other).map (amountAt spend)).getD (.ok 0) =
      ((bestBand spend bands).map (amountAt spend)).getD (.ok 0) := by
  cases hBest : bestBand spend bands with
  | none =>
    cases hOther : bestBand spend other with
    | none => rfl
    | some chosen =>
      have hTop := (isTopBand_of_bestBand hOther).perm hPerm.symm
      exact absurd hTop.reached (bestBand_eq_none hBest chosen hTop.mem)
  | some best =>
    have hTop := isTopBand_of_bestBand hBest
    obtain ⟨chosen, hChosen⟩ := (hTop.perm hPerm).exists_bestBand
    rw [hChosen]
    exact h chosen best ((isTopBand_of_bestBand hChosen).perm hPerm.symm) hTop

theorem amount_first (h : IsTopBand spend bands a) :
    ∃ other, other.Perm bands ∧ bestBand spend other = some a := by
  have hPerm : (a :: bands.erase a).Perm bands := (List.perm_cons_erase h.mem).symm
  exact ⟨_, hPerm,
    IsFirstTopBand.bestBand_eq ⟨h.perm hPerm, [], _, rfl, fun _ hNone => nomatch hNone⟩⟩

/-- Progress never depends on the order of the bands, and the amount does not exactly when the bands
that share the highest threshold reached give the same. Else the one of them that is listed first
decides. -/
theorem order_of_bands (spend : ℚ) (bands : List RebateBand) (flatRatePct fixedAmount : Option ℚ) :
    (∀ other : List RebateBand, other.Perm bands →
      calculateProgressToNextTier spend other = calculateProgressToNextTier spend bands) ∧
    ((∀ other : List RebateBand, other.Perm bands → ∀ rebateType : RebateType, rebateType.banded →
        calculateExpectedRebate spend rebateType flatRatePct (some other) fixedAmount =
          calculateExpectedRebate spend rebateType flatRatePct (some bands) fixedAmount) ↔
      TopBandsAgree spend bands) ∧
    ∀ first : RebateBand, IsFirstTopBand spend bands first → ∀ rebateType : RebateType,
      rebateType.banded →
      calculateExpectedRebate spend rebateType flatRatePct (some bands) fixedAmount = amountAt spend first := by
  refine ⟨fun other => calculateProgressToNextTier_perm, ⟨?_, ?_⟩, ?_⟩
  · intro hSame a b ha hb
    have hNonempty : ∀ {other : List RebateBand}, other.Perm bands → other ≠ [] := by
      intro other hPerm hNil
      exact absurd (hPerm.mem_iff.mpr ha.mem) (hNil ▸ List.not_mem_nil)
    have hAmount : ∀ band, IsTopBand spend bands band →
        amountAt spend band = ((bestBand spend bands).map (amountAt spend)).getD (.ok 0) := by
      intro band hBand
      obtain ⟨other, hPerm, hFirst⟩ := amount_first hBand
      have hEqual := hSame other hPerm .tiered (.inl rfl)
      rw [calculateExpectedRebate_banded (.inl rfl) (hNonempty hPerm),
        calculateExpectedRebate_banded (.inl rfl) (hNonempty (.refl _)), hFirst] at hEqual
      exact hEqual
    rw [hAmount a ha, hAmount b hb]
  · intro hAgree other hPerm rebateType hType
    by_cases hEmpty : bands = []
    · subst hEmpty
      rw [List.perm_nil.mp hPerm]
    · rw [calculateExpectedRebate_banded hType hEmpty,
        calculateExpectedRebate_banded hType fun hNil => hEmpty (List.nil_perm.mp (hNil ▸ hPerm)),
        hAgree.amount_eq hPerm]
  · intro first hFirst rebateType hType
    rw [calculateExpectedRebate_banded hType (List.ne_nil_of_mem hFirst.mem), hFirst.bestBand_eq]
    rfl

/-- One threshold with two rates. -/
theorem order_decides_amount : ¬∀ (spend : ℚ) (bands other : List RebateBand), other.Perm bands →
    (∀ band ∈ bands, 0 ≤ band.ratePct ∧ band.ratePct ≤ 1) →
    calculateExpectedRebate spend .tiered none (some other) none =
      calculateExpectedRebate spend .tiered none (some bands) none := by
  intro hSame
  have hEqual := hSame 100 [⟨0, 1 / 100⟩, ⟨0, 2 / 100⟩] [⟨0, 2 / 100⟩, ⟨0, 1 / 100⟩]
    (List.Perm.swap _ _ _) (by decide +kernel)
  revert hEqual
  decide +kernel

end Order

end ProcureFoundation.Rebate
