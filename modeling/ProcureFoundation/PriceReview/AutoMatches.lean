import ProcureFoundation.Matching.ExactMatches
import ProcureFoundation.PriceReview.RowCoverage

/-!
# Automatic matches of unrelated rows

The similarity of descriptions alone never pairs two rows that share nothing. When such rows
are paired, an exact method has compared texts of which nothing remains.
-/

namespace ProcureFoundation.PriceReview

open Ingestion Matching

variable {tools : TextTools} {oldRow newRow : PriceListRow} {oldRows newRows : List PriceListRow}

theorem requiresHumanReview_classifyStatus (confidence : ℚ) :
    requiresHumanReview (classifyStatus confidence) = false ↔
      classifyStatus confidence = .autoMatched := by
  have hCandidate := classifyStatus_ne_noCandidate confidence
  cases hStatus : classifyStatus confidence with
  | autoMatched => decide
  | reviewRecommended => decide
  | manualReviewRequired => decide
  | noCandidate => exact absurd hStatus hCandidate

/-- A row that has been taken is on a line whose status is that of the pair. -/
theorem matched_oldLine_iff (hNew : Staged newRows)
    (h : takenRow tools newRows oldRow = some newRow) :
    (oldLine tools newRows oldRow).matchStatus = .matched ↔
      classifyStatus (scorePair tools (candidateItem oldRow) (candidateItem newRow)).1 =
        .autoMatched := by
  obtain ⟨-, hTakes⟩ := (takenRow_eq_some hNew).mp h
  obtain ⟨hNone, -⟩ | ⟨item, hClaims, -, hStatus⟩ :=
    findBestMatch_cases tools (candidateItem oldRow) (newRows.map candidateItem)
  · exact absurd hTakes (hNone _)
  · rw [hClaims.unique hTakes] at hStatus
    rw [← requiresHumanReview_classifyStatus, ← hStatus, oldLine, h]
    dsimp only [matchedLine, newLine]
    split
    · rename_i hReview
      rw [hReview]
      exact iff_of_false (fun hEq => nomatch hEq) Bool.noConfusion
    · rename_i hAuto
      exact iff_of_true rfl (Bool.eq_false_of_not_eq_true hAuto)

theorem takenRow_of_new_eq (hNew : Staged newRows) (hMem : newRow ∈ newRows)
    (h : (oldLine tools newRows oldRow).new = .ofRow newRow) :
    takenRow tools newRows oldRow = some newRow := by
  rw [oldLine_new] at h
  cases hTaken : takenRow tools newRows oldRow with
  | none =>
    have hSome := isSome_ofRow (hNew.accepted newRow hMem)
    rw [← h, hTaken] at hSome
    exact absurd hSome Bool.false_ne_true
  | some row =>
    rw [hTaken, Option.map_some, Option.getD_some] at h
    have hRow := ((takenRow_eq_some hNew).mp hTaken).1
    have hSku : row.supplierSku = newRow.supplierSku := congrArg ListSide.supplierSku h
    rw [List.inj_on_of_nodup_map hNew.nodup_skus hRow hMem hSku]

theorem mem_zip_map {α β : Type} {f : α → β} {rest : List β} {xs : List α} {x : α} {y : β}
    (h : (x, y) ∈ xs.zip (xs.map f ++ rest)) : x ∈ xs ∧ y = f x := by
  induction xs with
  | nil => exact absurd h List.not_mem_nil
  | cons head xs ih =>
    rw [List.map_cons, List.cons_append, List.zip_cons_cons, List.mem_cons, Prod.mk.injEq] at h
    obtain ⟨rfl, rfl⟩ | h := h
    · exact ⟨List.mem_cons_self, rfl⟩
    · obtain ⟨hMem, hEq⟩ := ih h
      exact ⟨List.mem_cons_of_mem _ hMem, hEq⟩

/-- Exact methods need a real identity, and unrelated rows are not matched automatically, exactly
when no identifier and no description has been erased in both. -/
theorem auto_match_iff_erased (hTools : tools.Lawful) :
    (∀ oldItem newItem : CandidateItem,
      ((scorePair tools oldItem newItem).2.isExact = true → RealIdentity tools oldItem newItem) ↔
        RealIdentity tools oldItem newItem ∨ ¬ ErasedIdentity tools oldItem newItem) ∧
    ∀ mappedNew oldRows newRows lines rows, stagedRows mappedNew = .ok newRows →
      runMatching tools oldRows newRows = .ok (lines, rows) →
        ∀ oldRow line, (oldRow, line) ∈ oldRows.zip lines → ∀ newRow ∈ newRows,
          line.new = .ofRow newRow → Unrelated tools (candidateItem oldRow) (candidateItem newRow) →
            (line.matchStatus ≠ .matched ↔
              ¬ ErasedIdentity tools (candidateItem oldRow) (candidateItem newRow)) := by
  constructor
  · intro oldItem newItem
    rw [isExact_iff hTools]
    by_cases hReal : RealIdentity tools oldItem newItem
    · exact iff_of_true (fun _ => hReal) (.inl hReal)
    · rw [or_iff_right hReal, or_iff_right hReal]
      exact ⟨fun hOnly hErased => hReal (hOnly hErased), fun hNone hErased => (hNone hErased).elim⟩
  · intro mappedNew oldRows newRows lines rows hNew hRun oldRow line hPair newRow hMem hLine hUnrelated
    have hStaged := staged_of_stagedRows hNew
    obtain ⟨-, hResult⟩ := (runMatching_eq_ok hStaged).mp hRun
    rw [Prod.mk.injEq] at hResult
    rw [hResult.1] at hPair
    obtain ⟨-, rfl⟩ := mem_zip_map hPair
    rw [ne_eq, not_iff_not, matched_oldLine_iff hStaged (takenRow_of_new_eq hStaged hMem hLine)]
    exact hUnrelated.autoMatched_iff hTools

def markedRow (sku description : String) : PriceListRow :=
  ⟨some sku, some description, none, some "10.00", none⟩

theorem staged_dot : stagedRows [markedRow "B2" "."] = .ok [markedRow "B2" "."] := by
  decide

theorem unrelated_dash_dot : Unrelated (ratioTools (1 / 2)) (candidateItem (markedRow "A1" "-"))
    (candidateItem (markedRow "B2" ".")) where
  sku h := absurd h.same (by decide)
  barcode h := absurd h.notBlank (by decide)
  noSharedWord := by decide

theorem erased_dash_dot : ErasedIdentity (ratioTools (1 / 2)) (candidateItem (markedRow "A1" "-"))
    (candidateItem (markedRow "B2" ".")) := by
  unfold ErasedIdentity ErasedBy
  decide

theorem run_dash_dot : runMatching (ratioTools (1 / 2)) [markedRow "A1" "-"] [markedRow "B2" "."] =
    .ok (pairLines (ratioTools (1 / 2)) [markedRow "A1" "-"] [markedRow "B2" "."],
      (pairLines (ratioTools (1 / 2)) [markedRow "A1" "-"] [markedRow "B2" "."]).map
        PriceReviewLine.inserted) :=
  (runMatching_eq_ok (staged_of_stagedRows staged_dot)).mpr ⟨by decide +kernel, rfl⟩

theorem new_dash_dot :
    (oldLine (ratioTools (1 / 2)) [markedRow "B2" "."] (markedRow "A1" "-")).new =
      .ofRow (markedRow "B2" ".") := by
  decide +kernel

theorem dash_dot_auto_matched :
    (oldLine (ratioTools (1 / 2)) [markedRow "B2" "."] (markedRow "A1" "-")).matchStatus =
      .matched := by
  have hIff :=
    (auto_match_iff_erased (ratioTools_lawful (by norm_num : (1 / 2 : ℚ) ≤ 1))).2 _ _ _ _ _
      staged_dot run_dash_dot (markedRow "A1" "-") _ List.mem_cons_self _ List.mem_cons_self new_dash_dot
      unrelated_dash_dot
  by_contra hFree
  exact hIff.mp hFree erased_dash_dot

theorem dash_dot_not_identical : ¬ ∀ tools : TextTools, tools.Lawful →
    (∀ oldItem newItem : CandidateItem,
      (scorePair tools oldItem newItem).2.isExact = true → RealIdentity tools oldItem newItem) ∧
    ∀ mappedNew oldRows newRows lines rows, stagedRows mappedNew = .ok newRows →
      runMatching tools oldRows newRows = .ok (lines, rows) →
        ∀ oldRow line, (oldRow, line) ∈ oldRows.zip lines → ∀ newRow ∈ newRows,
          line.new = .ofRow newRow →
          Unrelated tools (candidateItem oldRow) (candidateItem newRow) →
            line.matchStatus ≠ .matched := by
  intro h
  refine (h (ratioTools (1 / 2)) (ratioTools_lawful (by norm_num))).2 _ _ _ _ _ staged_dot run_dash_dot
    (markedRow "A1" "-") _ List.mem_cons_self _ List.mem_cons_self new_dash_dot unrelated_dash_dot ?_
  rw [matched_oldLine_iff (staged_of_stagedRows staged_dot)
    (takenRow_of_new_eq (staged_of_stagedRows staged_dot) List.mem_cons_self new_dash_dot),
    unrelated_dash_dot.autoMatched_iff (ratioTools_lawful (by norm_num))]
  exact erased_dash_dot

end ProcureFoundation.PriceReview
