import ProcureFoundation.Opportunities.WaterfallRuns

/-!
# The order of stages over whole runs

The stages that one opportunity passes through are recorded as its rows are committed. As
long as a rejected or expired opportunity is asked for nothing but the status it has, the
record is a beginning of the waterfall, followed by repetitions of one terminal stage.
-/

namespace ProcureFoundation.Opportunities

open Evidence KeyedRows

def IsTerminal (stage : WaterfallStage) : Prop := stage = .rejected ∨ stage = .expired

instance (stage : WaterfallStage) : Decidable (IsTerminal stage) :=
  inferInstanceAs (Decidable (_ ∨ _))

/-- No stage is skipped, none comes again, and a terminal stage stays. -/
structure FollowsWaterfall (history : List WaterfallStage) : Prop where
  ordered : history.filter (· ∈ waterfallOrder) <+: waterfallOrder
  terminal : history.Pairwise fun before after => IsTerminal before → after = before

/-- A terminal opportunity is asked for the status that it has. -/
def OpportunityOperation.KeepsTerminal : OpportunityOperation → Prop
  | .advanceWaterfallStage opportunity targetStatus =>
    IsTerminal opportunity.status → targetStatus = opportunity.status.text
  | .createOpportunity _ | .createOpportunityFromLine _ | .recordRealisedSavings _ _ _ => True

/-- The stages that an opportunity has gone through since it was identified. -/
inductive StageRun (allowed : OpportunityOperation → Prop) (start : Db) (id : ℕ) :
    List WaterfallStage → Db → Prop
  | start {row : Opportunity} (hRow : row ∈ start.opportunities) (hId : row.id = id)
      (hStatus : row.status = .identified) : StageRun allowed start id [.identified] start
  | other {history db db' operation} {row : Opportunity} (hRun : StageRun allowed start id history db)
      (hCommits : OpportunityOperation.Commits operation db db' row) (hId : row.id ≠ id) :
      StageRun allowed start id history db'
  | changed {history db db' operation} {row : Opportunity} (hRun : StageRun allowed start id history db)
      (hCommits : OpportunityOperation.Commits operation db db' row) (hId : row.id = id)
      (hAllowed : allowed operation) : StageRun allowed start id (history ++ [row.status]) db'

/-- A beginning of the order, and repetitions of a terminal stage. -/
inductive Phase : List WaterfallStage → WaterfallStage → Prop
  | ordered (stage : WaterfallStage) (hOrdered : stage ∈ waterfallOrder) :
      Phase (waterfallOrder.take (waterfallOrder.idxOf stage + 1)) stage
  | ended (reached repeated : ℕ) (stage : WaterfallStage) (hTerminal : IsTerminal stage) :
      Phase (waterfallOrder.take reached ++ List.replicate (repeated + 1) stage) stage

section Phases

variable {history : List WaterfallStage} {stage next : WaterfallStage}

theorem not_mem_order_of_isTerminal (h : IsTerminal stage) : stage ∉ waterfallOrder := by
  obtain rfl | rfl := h <;> decide

theorem isTerminal_or_mem_order (stage : WaterfallStage) :
    IsTerminal stage ∨ stage ∈ waterfallOrder := by
  cases stage with
  | rejected => exact .inl (.inl rfl)
  | expired => exact .inl (.inr rfl)
  | identified | validated | approved | implementation | realised => exact .inr (by decide)

theorem Phase.followsWaterfall (h : Phase history stage) : FollowsWaterfall history := by
  have hPrefix : ∀ n, (waterfallOrder.take n).filter (· ∈ waterfallOrder) =
      waterfallOrder.take n := by
    intro n
    rw [List.filter_eq_self]
    intro stage hStage
    exact decide_eq_true (List.mem_of_mem_take hStage)
  have hOrdered : ∀ n, (waterfallOrder.take n).Pairwise fun before after => IsTerminal before →
      after = before := by
    intro n
    refine List.pairwise_of_forall_mem_list ?_
    intro before hBefore _ _ hTerminal
    exact absurd (List.mem_of_mem_take hBefore) (not_mem_order_of_isTerminal hTerminal)
  cases h with
  | ordered stage hMem =>
    constructor
    · rw [hPrefix]
      exact List.take_prefix _ _
    · exact hOrdered _
  | ended reached repeated stage hTerminal =>
    have hNone : (List.replicate (repeated + 1) stage).filter (· ∈ waterfallOrder) = [] := by
      rw [List.filter_eq_nil_iff]
      intro other hOther
      rw [List.eq_of_mem_replicate hOther]
      simpa using not_mem_order_of_isTerminal hTerminal
    constructor
    · rw [List.filter_append, hPrefix, hNone, List.append_nil]
      exact List.take_prefix _ _
    · refine List.pairwise_append.mpr ⟨hOrdered _, ?_, ?_⟩
      · exact List.pairwise_replicate.mpr (.inr fun _ => rfl)
      · intro before hBefore _ _ hIs
        exact absurd (List.mem_of_mem_take hBefore) (not_mem_order_of_isTerminal hIs)

theorem Phase.advance (h : Phase history stage) (hOrdered : stage ∈ waterfallOrder)
    (hNext : next ∈ waterfallOrder) (hIndex : waterfallIndex next = waterfallIndex stage + 1) :
    Phase (history ++ [next]) next := by
  cases h with
  | ordered stage hMem =>
    convert Phase.ordered next hNext using 1
    revert hMem hNext hIndex
    cases stage <;> cases next <;> decide
  | ended reached repeated stage hTerminal =>
    exact absurd hOrdered (not_mem_order_of_isTerminal hTerminal)

theorem Phase.terminate (h : Phase history stage) (hNext : IsTerminal next)
    (hSame : IsTerminal stage → next = stage) : Phase (history ++ [next]) next := by
  cases h with
  | ordered stage hMem => exact .ended _ 0 next hNext
  | ended reached repeated stage hTerminal =>
    obtain rfl := hSame hTerminal
    rw [List.append_assoc, ← List.replicate_succ']
    exact .ended reached (repeated + 1) next hNext

end Phases

section Runs

variable {allowed : OpportunityOperation → Prop} {start db db' : Db} {id : ℕ}
  {history : List WaterfallStage} {row row' : Opportunity} {operation : OpportunityOperation}

theorem Phase.moves (h : Phase history row.status) (hRow : row ∈ db.opportunities)
    (hKeys : (db.opportunities.map Opportunity.id).Nodup) (hId : row'.id = row.id)
    (hMoves : operation.Moves db row') (hAllowed : operation.KeepsTerminal) :
    Phase (history ++ [row'.status]) row'.status := by
  cases operation with
  | createOpportunity payload => exact absurd hId.symm (hMoves.2.2 row hRow)
  | createOpportunityFromLine line => exact hMoves.elim
  | advanceWaterfallStage opportunity targetStatus =>
    obtain ⟨hOpportunity, userId, now, hAdvanced⟩ := hMoves
    obtain ⟨⟨approvedByUserId, approvedAt, hSame⟩, hText, hStage⟩ := advancedRow_of_ok hAdvanced
    have hSameId : opportunity.id = row.id := by rw [← hId, hSame]
    obtain rfl := eq_of_key_eq hKeys hOpportunity hRow hSameId
    have hKept : IsTerminal opportunity.status → row'.status = opportunity.status :=
      fun hTerminal => text_injective (hText.trans (hAllowed hTerminal))
    obtain hTerminal | hOrdered := isTerminal_or_mem_order row'.status
    · exact h.terminate hTerminal hKept
    · obtain hRejected | hExpired | ⟨-, hIndex⟩ := hStage
      · exact absurd hOrdered (not_mem_order_of_isTerminal (.inl hRejected))
      · exact absurd hOrdered (not_mem_order_of_isTerminal (.inr hExpired))
      · obtain hWas | hWas := isTerminal_or_mem_order opportunity.status
        · exact absurd (hKept hWas ▸ hOrdered) (not_mem_order_of_isTerminal hWas)
        · exact h.advance hWas hOrdered hIndex
  | recordRealisedSavings opportunity payload changeReference =>
    obtain ⟨hOpportunity, hStatus, hSameId, hRealised, -⟩ := hMoves
    obtain rfl := eq_of_key_eq hKeys hOpportunity hRow (hSameId.symm.trans hId)
    rw [hStatus] at h
    rw [hRealised]
    exact h.advance (by decide) (by decide) (by decide)

/-- Along a run the record is always in a phase, and its last stage is the committed one. -/
theorem StageRun.phase (hStart : start.Valid)
    (hRun : StageRun OpportunityOperation.KeepsTerminal start id history db) :
    db.Valid ∧ ∃ row ∈ db.opportunities, row.id = id ∧ Phase history row.status := by
  induction hRun with
  | start hRow hId hStatus =>
    refine ⟨hStart, _, hRow, hId, ?_⟩
    rw [hStatus]
    exact .ordered .identified (by decide)
  | other _ hCommits hId ih =>
    obtain ⟨hDb, row, hRow, hRowId, hPhase⟩ := ih
    obtain ⟨hReplaced, -⟩ := hCommits.spec hDb
    refine ⟨hReplaced.valid, row, (hReplaced.others row ?_).mpr hRow, hRowId, hPhase⟩
    exact fun hEq => hId (hEq.symm.trans hRowId)
  | changed _ hCommits hId hAllowed ih =>
    obtain ⟨hDb, row, hRow, hRowId, hPhase⟩ := ih
    obtain ⟨hReplaced, hMoves⟩ := hCommits.spec hDb
    exact ⟨hReplaced.valid, _, hReplaced.stored, hId,
      hPhase.moves hRow hDb.opportunities.keys (hId.trans hRowId.symm) hMoves hAllowed⟩

/-- In every run that meets the condition the stages follow the waterfall. -/
theorem stages_follow_waterfall (hStart : start.Valid)
    (hRun : StageRun OpportunityOperation.KeepsTerminal start id history db) :
    FollowsWaterfall history := by
  obtain ⟨-, row, -, -, hPhase⟩ := hRun.phase hStart
  exact hPhase.followsWaterfall

end Runs

section Examples

theorem rejected_identified_again : ¬∀ start id history db, start.Valid →
    StageRun (fun _ => True) start id history db → FollowsWaterfall history := by
  intro hAll
  obtain ⟨db₁, row₁, -, hReplaced₁, hStatus₁, -⟩ := exists_create Db.empty_valid
  obtain ⟨db₂, row₂, hReject, hReplaced₂, hId₂, hStatus₂, -⟩ :=
    @exists_advance db₁ row₁ hReplaced₁.valid
      hReplaced₁.stored .rejected (.inl rfl)
  obtain ⟨db₃, row₃, hIdentify, -, hId₃, hStatus₃, -⟩ := @exists_advance db₂ row₂ hReplaced₂.valid
    hReplaced₂.stored .identified (hStatus₂ ▸ .inr (.inr ⟨.identified, by decide, rfl, by decide⟩))
  have hRun : StageRun (fun _ => True) db₁ row₁.id
      ([.identified] ++ [row₂.status] ++ [row₃.status]) db₃ :=
    ((StageRun.start hReplaced₁.stored rfl hStatus₁).changed hReject hId₂ trivial).changed hIdentify
      (hId₃.trans hId₂) trivial
  rw [hStatus₂, hStatus₃] at hRun
  exact absurd (hAll _ _ _ _ hReplaced₁.valid hRun).ordered (by decide)

theorem validated_and_rejected_follows :
    ∃ history, FollowsWaterfall history ∧ history = [.identified, .validated, .rejected] := by
  obtain ⟨db₁, row₁, -, hReplaced₁, hStatus₁, -⟩ := exists_create Db.empty_valid
  obtain ⟨db₂, row₂, hValidate, hReplaced₂, hId₂, hStatus₂, -⟩ :=
    @exists_advance db₁ row₁ hReplaced₁.valid
      hReplaced₁.stored .validated (hStatus₁ ▸ .inr (.inr ⟨.validated, by decide, rfl, by decide⟩))
  obtain ⟨db₃, row₃, hReject, -, hId₃, hStatus₃, -⟩ := @exists_advance db₂ row₂ hReplaced₂.valid
    hReplaced₂.stored .rejected (.inl rfl)
  have hRun : StageRun OpportunityOperation.KeepsTerminal db₁ row₁.id
      ([.identified] ++ [row₂.status] ++ [row₃.status]) db₃ := by
    refine ((StageRun.start hReplaced₁.stored rfl hStatus₁).changed hValidate hId₂ ?_).changed hReject
      (hId₃.trans hId₂) ?_
    · intro hTerminal
      exact absurd (hStatus₁ ▸ hTerminal) (by decide)
    · intro hTerminal
      exact absurd (hStatus₂ ▸ hTerminal) (by decide)
  exact ⟨_, stages_follow_waterfall hReplaced₁.valid hRun, by rw [hStatus₂, hStatus₃]; rfl⟩

end Examples

end ProcureFoundation.Opportunities
