import ProcureFoundation.PriceReview.LineRuns
import ProcureFoundation.PriceReview.Summary

/-!
# The summary of live matches

The summary reads the stored figures of every line, whatever its status. It speaks of live
matches only, as long as no line that still carries figures is resolved as new,
discontinued or ignored.
-/

namespace ProcureFoundation.PriceReview

open Matching Outcome

structure LiveFigures where
  annualCostImpact : ℚ
  increasingSkus : ℕ
  decreasingSkus : ℕ
  unchangedSkus : ℕ
  matchedSkus : ℕ
  weightedAveragePriceIncreasePct : Option Percentage
deriving DecidableEq

def SupplierSummary.liveFigures (summary : SupplierSummary) : LiveFigures where
  annualCostImpact := summary.annualCostImpact
  increasingSkus := summary.increasingSkus
  decreasingSkus := summary.decreasingSkus
  unchangedSkus := summary.unchangedSkus
  matchedSkus := summary.matchedSkus
  weightedAveragePriceIncreasePct := summary.weightedAveragePriceIncreasePct

/-- The figures of the summary are those of the live lines alone. -/
def LiveOnly (rows : List LineRow) : Prop :=
  (getSummary rows).liveFigures = (getSummary (rows.filter (·.matchStatus.isLive))).liveFigures

instance (rows : List LineRow) : Decidable (LiveOnly rows) := inferInstanceAs (Decidable (_ = _))

structure Silent (row : LineRow) : Prop where
  impact : (row.figures.annualImpact.map FixedPoint.value).getD 0 = 0
  movement : (row.figures.movementType.getD .reviewRequired).isMatched = false

instance (row : LineRow) : Decidable (Silent row) :=
  decidable_of_iff (_ ∧ _) ⟨fun h => ⟨h.1, h.2⟩, fun h => ⟨h.impact, h.movement⟩⟩

/-- What is asked of the line that an operation is about to take out of the live matches. -/
def KeepsSilent (_ : List LineRow) (row : LineRow) : LineOperation → Prop
  | .resolveMatch _ decision =>
    match decision.action with
    | .confirm | .chooseDifferent => True
    | .markNew | .markDiscontinued => (row.figures.annualImpact.map FixedPoint.value).getD 0 = 0
    | .ignore => Silent row
  | .setManualQuantity _ | .setNegotiationTarget _ | .recordNegotiationOutcome _ => True

def LiveOrSilent (row : LineRow) : Prop := row.matchStatus.isLive = true ∨ Silent row

variable {rows before rest : List LineRow} {row changed : LineRow} {operation : LineOperation}

theorem annualCostImpact_append (first second : List SummaryLine) :
    annualCostImpact (first ++ second) = annualCostImpact first + annualCostImpact second := by
  rw [annualCostImpact, List.map_append, List.sum_append]
  rfl

theorem annualCostImpact_cons (row : LineRow) (lines : List SummaryLine) :
    annualCostImpact (summaryLine row :: lines) =
      (row.figures.annualImpact.map FixedPoint.value).getD 0 + annualCostImpact lines := by
  rw [annualCostImpact, List.map_cons, List.sum_cons]
  rfl

theorem annualCostImpact_live (h : ∀ row ∈ rows, LiveOrSilent row) :
    annualCostImpact (rows.map summaryLine) =
      annualCostImpact ((rows.filter (·.matchStatus.isLive)).map summaryLine) := by
  induction rows with
  | nil => rfl
  | cons row rows ih =>
    obtain ⟨hRow, hRows⟩ := List.forall_mem_cons.mp h
    rw [List.map_cons, annualCostImpact_cons, ih hRows, List.filter_cons]
    split
    · rw [List.map_cons, annualCostImpact_cons]
    · rename_i hDead
      rw [(hRow.resolve_left hDead).impact, zero_add]

theorem countP_live (h : ∀ row ∈ rows, LiveOrSilent row) {p : SummaryLine → Bool}
    (hp : ∀ line, p line = true → line.movementType.isMatched = true) :
    (rows.map summaryLine).countP p =
      ((rows.filter (·.matchStatus.isLive)).map summaryLine).countP p := by
  rw [List.countP_map, List.countP_map, List.countP_filter]
  refine List.countP_congr fun row hRow => ?_
  constructor
  · intro hPass
    obtain hLive | hSilent := h row hRow
    · rw [hPass, hLive]
      rfl
    · have hMatched := hp _ hPass
      rw [show (summaryLine row).movementType.isMatched = false from hSilent.movement] at hMatched
      exact nomatch hMatched
  · intro hPass
    exact (Bool.and_eq_true_iff.mp hPass).1

theorem weights_live (h : ∀ row ∈ rows, LiveOrSilent row) :
    (rows.map summaryLine).filterMap weightOf =
    ((rows.filter (·.matchStatus.isLive)).map summaryLine).filterMap weightOf := by
  rw [List.filterMap_map, List.filterMap_map, List.filterMap_filter]
  refine List.filterMap_congr fun row hRow => ?_
  obtain hLive | hSilent := h row hRow
  · rw [if_pos hLive]
  · have hNone : weightOf (summaryLine row) = none := by
      unfold weightOf
      rw [show (summaryLine row).movementType.isMatched = false from hSilent.movement]
      split
      · rfl
      · rfl
    split
    · rfl
    · exact hNone

theorem isMatched_of_beq {movementType : MovementType} (h : movementType.isMatched = true)
    (line : SummaryLine) (hLine : (line.movementType == movementType) = true) :
    line.movementType.isMatched = true := by
  rw [beq_iff_eq.mp hLine, h]

theorem liveOnly_of_silent (h : ∀ row ∈ rows, LiveOrSilent row) : LiveOnly rows := by
  rw [LiveOnly, SupplierSummary.liveFigures, SupplierSummary.liveFigures, LiveFigures.mk.injEq]
  refine ⟨annualCostImpact_live h, countP_live h (isMatched_of_beq rfl),
    countP_live h (isMatched_of_beq rfl),
    countP_live h (isMatched_of_beq rfl), countP_live h fun _ hMatched => hMatched, ?_⟩
  change weightedAverageIncrease _ = weightedAverageIncrease _
  rw [weightedAverageIncrease, weights_live h]
  rfl

theorem silent_of_liveOnly (hBefore : ∀ row ∈ before, LiveOrSilent row)
    (hRest : ∀ row ∈ rest, LiveOrSilent row) (h : LiveOnly (before ++ row :: rest)) :
    LiveOrSilent row := by
  cases hLive : row.matchStatus.isLive with
  | true => exact .inl hLive
  | false =>
    rw [LiveOnly, SupplierSummary.liveFigures, SupplierSummary.liveFigures,
      LiveFigures.mk.injEq] at h
    obtain ⟨hImpact, -, -, -, hMatched, -⟩ := h
    have hFilter : (before ++ row :: rest).filter (·.matchStatus.isLive) =
        before.filter (·.matchStatus.isLive) ++ rest.filter (·.matchStatus.isLive) := by
      rw [List.filter_append, List.filter_cons, hLive]
      rfl
    refine .inr ⟨?_, ?_⟩
    · change annualCostImpact (List.map _ _) = annualCostImpact (List.map _ _) at hImpact
      rw [hFilter, List.map_append, List.map_append, List.map_cons, annualCostImpact_append,
        annualCostImpact_append,
        annualCostImpact_live hBefore, add_right_inj, annualCostImpact_cons,
        annualCostImpact_live hRest] at hImpact
      exact add_eq_right.mp hImpact
    · change List.countP _ (List.map _ _) = List.countP _ (List.map _ _) at hMatched
      rw [hFilter, List.map_append, List.map_append, List.map_cons, List.countP_append,
        List.countP_append,
        countP_live hBefore fun _ hPass => hPass, List.countP_cons, countP_live hRest fun _ hPass =>
          hPass] at hMatched
      have hZero := Nat.add_eq_left.mp (Nat.add_left_cancel hMatched)
      split at hZero
      · exact nomatch hZero
      · rename_i hNot
        exact Bool.eq_false_iff.mpr hNot

theorem silent_iff_of_figures (hFigures : changed.figures = row.figures) : Silent changed ↔
    Silent row := by
  constructor
  · rintro ⟨hImpact, hMovement⟩
    exact ⟨hFigures ▸ hImpact, hFigures ▸ hMovement⟩
  · rintro ⟨hImpact, hMovement⟩
    exact ⟨hFigures ▸ hImpact, hFigures ▸ hMovement⟩

theorem resolveMatch_ok {userId : ℕ} {action : MatchAction} {candidate : Option LineRow}
    (h : resolveMatch userId row action candidate = .ok changed) :
    match action with
    | .confirm | .chooseDifferent => changed.matchStatus = .matched
    | .markNew => changed.matchStatus = .newProduct ∧
        changed.figures = { row.figures with movementType := some .newProduct }
    | .markDiscontinued => changed.matchStatus = .discontinued ∧
        changed.figures = { row.figures with movementType := some .discontinued }
    | .ignore => changed.matchStatus = .ignored ∧ changed.figures = row.figures := by
  obtain ⟨decided, hDecided, h⟩ := exists_of_bind_eq_ok h
  obtain ⟨calculated, hCalculated, h⟩ := exists_of_bind_eq_ok h
  obtain rfl := PriceReviewLine.eq_of_save h
  cases action with
  | confirm =>
    obtain rfl := Except.ok.inj hDecided
    obtain ⟨figures, rfl⟩ := exists_figures_of_calculate hCalculated
    rfl
  | chooseDifferent =>
    cases candidate with
    | none => exact nomatch hDecided
    | some candidate =>
      obtain rfl := Except.ok.inj hDecided
      obtain ⟨figures, rfl⟩ := exists_figures_of_calculate hCalculated
      rfl
  | markNew | markDiscontinued | ignore =>
    obtain rfl := Except.ok.inj hDecided
    rw [calculateLineMovement_of_not_live rfl] at hCalculated
    obtain rfl := Except.ok.inj hCalculated
    exact ⟨rfl, rfl⟩

theorem silent_of_unresolved (hRow : LiveOrSilent row)
    (hStatus : changed.matchStatus = row.matchStatus)
    (hFigures : row.matchStatus.isLive = false →
      changed.figures.annualImpact = row.figures.annualImpact ∧
      changed.figures.movementType = row.figures.movementType) : LiveOrSilent changed := by
  unfold LiveOrSilent
  rw [hStatus]
  obtain hLive | hSilent := hRow
  · exact .inl hLive
  · cases hLive : row.matchStatus.isLive with
    | true => exact .inl rfl
    | false =>
      obtain ⟨hImpact, hMovement⟩ := hFigures hLive
      exact .inr ⟨hImpact ▸ hSilent.impact, hMovement ▸ hSilent.movement⟩

theorem setManualQuantity_silent {payload : ManualQuantityUpdate} (hRow : LiveOrSilent row)
    (h : setManualQuantity row payload = .ok changed) : LiveOrSilent changed := by
  obtain ⟨calculated, hCalculated, h⟩ := exists_of_bind_eq_ok h
  obtain rfl := PriceReviewLine.eq_of_save h
  obtain ⟨figures, hEq⟩ := exists_figures_of_calculate hCalculated
  refine silent_of_unresolved hRow ?_ fun hDead => ?_
  · rw [hEq]
    rfl
  · rw [calculateLineMovement_of_not_live hDead] at hCalculated
    obtain rfl := Except.ok.inj hCalculated
    exact ⟨rfl, rfl⟩

/-- After one operation every line is live or silent exactly when the operation was allowed. -/
theorem operate_silent_iff (hRow : LiveOrSilent row)
    (h : operate rows row operation = .ok changed) :
    LiveOrSilent changed ↔ KeepsSilent rows row operation := by
  cases operation with
  | resolveMatch userId decision =>
    obtain ⟨action, chosen⟩ := decision
    obtain ⟨candidate, -, h⟩ := exists_of_bind_eq_ok h
    have hResolved := resolveMatch_ok h
    cases action with
    | confirm | chooseDifferent =>
      have hLive : changed.matchStatus.isLive = true := by
        rw [show changed.matchStatus = .matched from hResolved]
        rfl
      exact ⟨fun _ => trivial, fun _ => .inl hLive⟩
    | markNew | markDiscontinued =>
      obtain ⟨hStatus, hFigures⟩ := hResolved
      unfold LiveOrSilent
      rw [hStatus]
      constructor
      · intro hSilent
        have hImpact := (hSilent.resolve_left Bool.false_ne_true).impact
        rw [hFigures] at hImpact
        exact hImpact
      · intro hImpact
        exact .inr ⟨by rw [hFigures]; exact hImpact, by rw [hFigures]; rfl⟩
    | ignore =>
      obtain ⟨hStatus, hFigures⟩ := hResolved
      unfold LiveOrSilent
      rw [hStatus, silent_iff_of_figures hFigures]
      exact or_iff_right Bool.false_ne_true
  | setManualQuantity payload => exact iff_of_true (setManualQuantity_silent hRow h) trivial
  | setNegotiationTarget targetPrice =>
    obtain rfl := PriceReviewLine.eq_of_save h
    exact iff_of_true (silent_of_unresolved hRow rfl fun _ => ⟨rfl, rfl⟩) trivial
  | recordNegotiationOutcome finalNegotiatedPrice =>
    obtain rfl := PriceReviewLine.eq_of_save h
    exact iff_of_true (silent_of_unresolved hRow rfl fun _ => ⟨rfl, rfl⟩) trivial

theorem AsMatched.liveOrSilent (h : AsMatched row) : LiveOrSilent row := by
  unfold LiveOrSilent
  cases hStatus : row.matchStatus with
  | matched | reviewRequired => exact .inl rfl
  | newProduct | discontinued | ignored =>
    refine .inr ⟨?_, ?_⟩
    · rw [h.figures]
      rfl
    · rw [h.figures, hStatus]
      rfl

theorem Run.liveOrSilent {tools : TextTools} {history : List (ℕ × LineOperation)}
    (hRun : Run tools KeepsSilent history rows) : ∀ row ∈ rows, LiveOrSilent row :=
  hRun.forall_rows (fun _ => AsMatched.liveOrSilent) fun _ _ _ _ _ hRow hAllowed hStep =>
    (operate_silent_iff hRow hStep).mpr hAllowed

/-- While only silent lines are taken out of the live matches the summary speaks of live matches
alone, and the first operation that takes out another line makes it speak of that line too. -/
theorem summary_counts_live_matches (tools : TextTools) {history : List (ℕ × LineOperation)}
    (hRun : Run tools KeepsSilent history rows) :
    LiveOnly rows ∧ ∀ line row operation after, rows[line]? = some row →
      applyOperation rows line operation = .ok after →
        (LiveOnly after ↔ KeepsSilent rows row operation) := by
  have hRows := hRun.liveOrSilent
  refine ⟨liveOnly_of_silent hRows, fun line row operation after hRow hStep => ?_⟩
  obtain ⟨changed, hChanged, rfl⟩ := applyOperation_ok hRow hStep
  have hRowSilent := hRows row (List.mem_of_getElem? hRow)
  rw [← operate_silent_iff hRowSilent hChanged]
  have hLine : line < rows.length := (List.getElem?_eq_some_iff.mp hRow).1
  rw [List.set_eq_take_append_cons_drop, if_pos hLine]
  have hBefore : ∀ row ∈ rows.take line, LiveOrSilent row :=
    fun row hMem => hRows row (List.mem_of_mem_take hMem)
  have hRest : ∀ row ∈ rows.drop (line + 1), LiveOrSilent row :=
    fun row hMem => hRows row (List.mem_of_mem_drop hMem)
  constructor
  · exact silent_of_liveOnly hBefore hRest
  · intro hSilent
    apply liveOnly_of_silent
    rw [List.forall_mem_append, List.forall_mem_cons]
    exact ⟨hBefore, hSilent, hRest⟩

theorem unpriced_match_ignored : ∃ after,
    applyOperation (flourRows "130") 0 (.resolveMatch 1 ⟨.ignore, none⟩) = .ok after ∧
      LiveOnly after := by
  have hRun : Run asciiTools KeepsSilent [] (flourRows "130") :=
    run_flour (by decide +kernel) (by decide +kernel)
  have hFirst : ((flourRows "130")[0]?.any fun row => decide (Silent row)) = true := by
    decide +kernel
  obtain ⟨row, hRow, hSilent⟩ := (Option.any_eq_true _ _).mp hFirst
  have hStep : ((applyOperation (flourRows "130") 0 (.resolveMatch 1 ⟨.ignore, none⟩)).toOption.any
      fun _ => true) = true := by
    decide +kernel
  obtain ⟨after, hAfter, -⟩ := exists_of_any hStep
  exact ⟨after, hAfter,
    ((summary_counts_live_matches asciiTools hRun).2 0 row _ after hRow hAfter).mpr
    (show Silent row from of_decide_eq_true hSilent)⟩

theorem ignored_impact_counts :
    ¬ ∀ (tools : TextTools) (history : List (ℕ × LineOperation)) (rows : List LineRow),
    Run tools (fun _ _ _ => True) history rows → LiveOnly rows := by
  intro h
  have hRun : Run asciiTools (fun _ _ _ => True) [] (flourRows "130") :=
    run_flour (by decide +kernel) (by decide +kernel)
  have hStep : ((operateAll (flourRows "130") [(0, .setManualQuantity (tenAYear none)),
      (0, .resolveMatch 1 ⟨.ignore, none⟩)]).toOption.any fun rows =>
        !decide (LiveOnly rows)) = true := by
    decide +kernel
  obtain ⟨after, hAfter, hNot⟩ := exists_of_any hStep
  rw [decide_eq_true (h asciiTools _ after (hRun.operateAll hAfter))] at hNot
  exact nomatch hNot

end ProcureFoundation.PriceReview
