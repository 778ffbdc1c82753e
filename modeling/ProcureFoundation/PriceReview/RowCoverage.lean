import ProcureFoundation.PriceReview.RunMatching

/-!
# Every row on one line

Matching two staged lists gives each old row one line. Each new row gets one line as
well, exactly when every row can be read and inserted and no two old rows take the same
new row.
-/

namespace ProcureFoundation.PriceReview

open Ingestion Matching Outcome

variable {α : Type}

def carriedOld (lines : List (PriceReviewLine α)) : List (ListSide α) :=
  (lines.map PriceReviewLine.old).filter (·.supplierSku.isSome)

def carriedNew (lines : List (PriceReviewLine α)) : List (ListSide α) :=
  (lines.map PriceReviewLine.new).filter (·.supplierSku.isSome)

/-- The lines mention each row of both lists once and no other row. -/
structure CoversRows (oldRows newRows : List PriceListRow)
    (lines : List (PriceReviewLine Decimal)) : Prop where
  old : (carriedOld lines).Perm (oldRows.map ListSide.ofRow)
  new : (carriedNew lines).Perm (newRows.map ListSide.ofRow)

/-- No new row is the best plausible match of two old rows. -/
def NoSharedRow (tools : TextTools) (oldRows newRows : List PriceListRow) : Prop :=
  oldRows.Pairwise fun first second =>
    ∀ row ∈ newRows, ¬ (Takes tools newRows first row ∧ Takes tools newRows second row)

variable {tools : TextTools} {oldRows newRows : List PriceListRow}

theorem isSome_ofRow {row : PriceListRow} (h : Accepted row) :
    (ListSide.ofRow row).supplierSku.isSome = true := by
  obtain ⟨sku, hSku⟩ := h.exists_sku
  exact congrArg Option.isSome hSku

theorem filter_ofRow (hRows : ∀ row ∈ newRows, Accepted row) :
    (newRows.map ListSide.ofRow).filter (·.supplierSku.isSome) = newRows.map ListSide.ofRow := by
  rw [List.filter_eq_self, List.forall_mem_map]
  exact fun row hRow => isSome_ofRow (hRows row hRow)

theorem filter_empty (rows : List PriceListRow) :
    (rows.map fun _ => (ListSide.empty : ListSide Decimal)).filter (·.supplierSku.isSome) = [] := by
  rw [List.filter_eq_nil_iff, List.forall_mem_map]
  exact fun row _ => Bool.false_ne_true

theorem carriedOld_pairLines (hOld : Staged oldRows) :
    carriedOld (pairLines tools oldRows newRows) = oldRows.map ListSide.ofRow := by
  have hLines : (pairLines tools oldRows newRows).map PriceReviewLine.old =
      oldRows.map ListSide.ofRow ++ (untakenRows tools oldRows newRows).map fun _ =>
        ListSide.empty := by
    rw [pairLines, List.map_append, List.map_map, List.map_map]
    congr 1
    exact List.map_congr_left fun row _ => oldLine_old
  rw [carriedOld, hLines, List.filter_append, filter_ofRow hOld.accepted, filter_empty,
    List.append_nil]

def takenRows (tools : TextTools) (oldRows newRows : List PriceListRow) : List PriceListRow :=
  oldRows.filterMap (takenRow tools newRows)

theorem mem_takenRows (hNew : Staged newRows) {row : PriceListRow}
    (h : row ∈ takenRows tools oldRows newRows) : row ∈ newRows := by
  obtain ⟨oldRow, -, hTaken⟩ := List.mem_filterMap.mp h
  exact ((takenRow_eq_some hNew).mp hTaken).1

theorem filter_takenSides (hNew : Staged newRows) (oldRows : List PriceListRow) :
    (oldRows.map fun row => ((takenRow tools newRows row).map ListSide.ofRow).getD .empty).filter
      (·.supplierSku.isSome) =
      (takenRows tools oldRows newRows).map ListSide.ofRow := by
  induction oldRows with
  | nil => rfl
  | cons oldRow oldRows ih =>
    rw [takenRows, List.map_cons, List.filterMap_cons]
    cases hTaken : takenRow tools newRows oldRow with
    | none =>
      rw [List.filter_cons_of_neg Bool.false_ne_true]
      exact ih
    | some row =>
      have hSome := isSome_ofRow (hNew.accepted row ((takenRow_eq_some hNew).mp hTaken).1)
      rw [Option.map_some, Option.getD_some, List.filter_cons, if_pos hSome, ih]
      rfl

theorem carriedNew_pairLines (hNew : Staged newRows) :
    carriedNew (pairLines tools oldRows newRows) =
      (takenRows tools oldRows newRows ++ untakenRows tools oldRows newRows).map ListSide.ofRow := by
  have hLines : (pairLines tools oldRows newRows).map PriceReviewLine.new =
      (oldRows.map fun row => ((takenRow tools newRows row).map ListSide.ofRow).getD .empty) ++
        (untakenRows tools oldRows newRows).map ListSide.ofRow := by
    rw [pairLines, List.map_append, List.map_map, List.map_map]
    congr 1
    exact List.map_congr_left fun row _ => oldLine_new
  have hRest : ∀ row ∈ untakenRows tools oldRows newRows, Accepted row := fun row hRow =>
    hNew.accepted row (List.mem_filter.mp hRow).1
  rw [carriedNew, hLines, List.filter_append, filter_takenSides hNew, filter_ofRow hRest,
    List.map_append]

theorem nodup_takenRows_iff (hNew : Staged newRows) :
    (takenRows tools oldRows newRows).Nodup ↔ NoSharedRow tools oldRows newRows := by
  unfold takenRows NoSharedRow List.Nodup
  rw [List.pairwise_filterMap]
  constructor
  · intro h
    refine h.imp fun {first second} hApart row hRow hBoth => ?_
    exact hApart row ((takenRow_eq_some hNew).mpr ⟨hRow, hBoth.1⟩) row
      ((takenRow_eq_some hNew).mpr ⟨hRow, hBoth.2⟩) rfl
  · intro h
    refine h.imp fun {first second} hApart row hFirst other hSecond hEq => ?_
    obtain ⟨hRow, hTakes⟩ := (takenRow_eq_some hNew).mp hFirst
    exact hApart row hRow ⟨hTakes, ((takenRow_eq_some hNew).mp (hEq ▸ hSecond)).2⟩

theorem length_carriedNew (hNew : Staged newRows) :
    (carriedNew (pairLines tools oldRows newRows)).length = newRows.length ↔
      NoSharedRow tools oldRows newRows := by
  rw [carriedNew_pairLines hNew, List.length_map, ← nodup_takenRows_iff hNew]
  constructor
  · exact nodup_of_length_eq hNew.nodup fun row => mem_takenRows hNew
  · intro hOnce
    exact (chosen_append_perm hNew.nodup (fun row => mem_takenRows hNew) hOnce).length_eq

theorem length_le_carriedNew (hNew : Staged newRows) :
    newRows.length ≤ (carriedNew (pairLines tools oldRows newRows)).length := by
  rw [carriedNew_pairLines hNew, List.length_map]
  exact length_le_chosen_append hNew.nodup fun row => mem_takenRows hNew

theorem coversRows_iff (hOld : Staged oldRows) (hNew : Staged newRows) :
    CoversRows oldRows newRows (pairLines tools oldRows newRows) ↔
      NoSharedRow tools oldRows newRows := by
  constructor
  · intro h
    rw [← length_carriedNew hNew, h.new.length_eq, List.length_map]
  · intro h
    constructor
    · rw [carriedOld_pairLines hOld]
    · rw [carriedNew_pairLines hNew]
      exact (chosen_append_perm hNew.nodup (fun row => mem_takenRows hNew)
        ((nodup_takenRows_iff hNew).mpr h)).map _

/-- Matching staged lists puts each row on one line exactly when every row can be read
and inserted and no new row is the best match of two old rows. -/
theorem matching_covers_rows (tools : TextTools)
    {mappedOld mappedNew oldRows newRows : List PriceListRow}
    (hOld : stagedRows mappedOld = .ok oldRows) (hNew : stagedRows mappedNew = .ok newRows) :
    (∃ lines rows, runMatching tools oldRows newRows = .ok (lines, rows) ∧
      CoversRows oldRows newRows lines) ↔
      (∀ row ∈ oldRows ++ newRows, Insertable row) ∧ NoSharedRow tools oldRows newRows := by
  have hOldStaged := staged_of_stagedRows hOld
  have hNewStaged := staged_of_stagedRows hNew
  rw [← coversRows_iff hOldStaged hNewStaged]
  constructor
  · rintro ⟨lines, rows, hRun, hCovers⟩
    obtain ⟨hInsertable, hResult⟩ := (runMatching_eq_ok hNewStaged).mp hRun
    rw [Prod.mk.injEq] at hResult
    exact ⟨hInsertable, hResult.1 ▸ hCovers⟩
  · rintro ⟨hInsertable, hCovers⟩
    exact ⟨_, _, (runMatching_eq_ok hNewStaged).mpr ⟨hInsertable, rfl⟩, hCovers⟩

theorem matching_covers_flour :
    ∃ lines rows, runMatching asciiTools [plainRow "FL-10" "120.50"]
    [plainRow "FL-10" "120.50"] = .ok (lines, rows) ∧
      CoversRows [plainRow "FL-10" "120.50"] [plainRow "FL-10" "120.50"] lines :=
  (matching_covers_rows asciiTools staged_flour staged_flour).mpr
    ⟨by decide +kernel, List.pairwise_singleton _ _⟩

theorem staged_both : stagedRows [plainRow "FL-10" "120.50", plainRow "fl-10" "118"] =
    .ok [plainRow "FL-10" "120.50", plainRow "fl-10" "118"] := by
  decide +kernel

/-- Identifiers that differ only in case are distinct to validation and equal to the search. -/
theorem takes_flour (sku price : String)
    (h : (scorePair asciiTools (candidateItem (plainRow sku price))
      (candidateItem (plainRow "FL-10" "120.50"))).1 = 1) :
    Takes asciiTools [plainRow "FL-10" "120.50"] (plainRow sku price)
    (plainRow "FL-10" "120.50") := by
  refine ⟨?_, [], [], rfl, fun _ hItem => (nomatch hItem), fun _ hItem => (nomatch hItem)⟩
  rw [h]
  norm_num [noPlausibleMatchFloor]

theorem flour_taken_twice :
    ¬ ∀ (tools : TextTools) (mappedOld mappedNew oldRows newRows : List PriceListRow),
    stagedRows mappedOld = .ok oldRows → stagedRows mappedNew = .ok newRows →
      ∃ lines rows, runMatching tools oldRows newRows = .ok (lines, rows) ∧
        CoversRows oldRows newRows lines := by
  intro h
  obtain ⟨lines, rows, hRun, hCovers⟩ := h asciiTools _ _ _ _ staged_both staged_flour
  obtain ⟨-, hResult⟩ := (runMatching_eq_ok (staged_of_stagedRows staged_flour)).mp hRun
  rw [(Prod.mk.inj hResult).1, coversRows_iff (staged_of_stagedRows staged_both)
    (staged_of_stagedRows staged_flour)] at hCovers
  exact (List.pairwise_cons.mp hCovers).1 (plainRow "fl-10" "118") List.mem_cons_self
    (plainRow "FL-10" "120.50")
    List.mem_cons_self ⟨takes_flour _ _ (by decide +kernel), takes_flour _ _ (by decide +kernel)⟩

end ProcureFoundation.PriceReview
