import Mathlib.Data.List.Basic

/-!
# Visible rows

A query that selects only visible rows finds the same among all rows and among the visible ones, and
so does a join that finds no partner for a row that is not visible.
-/

namespace ProcureFoundation

variable {α β : Type*} {visible selects : α → Bool} {rows : List α}

theorem filter_visible (h : ∀ row ∈ rows, selects row = true → visible row = true) :
    (rows.filter visible).filter selects = rows.filter selects := by
  rw [List.filter_filter]
  refine List.filter_congr fun row hRow => ?_
  cases hSelects : selects row with
  | false => rfl
  | true => exact h row hRow hSelects

theorem flatMap_visible {join : α → List β} (h : ∀ row ∈ rows, join row ≠ [] → visible row = true) :
    (rows.filter visible).flatMap join = rows.flatMap join := by
  induction rows with
  | nil => rfl
  | cons row rows ih =>
    have hRest := ih fun other hOther => h other (List.mem_cons_of_mem _ hOther)
    rw [List.filter_cons, List.flatMap_cons, ← hRest]
    split
    · rw [List.flatMap_cons]
    · rename_i hHidden
      have hNone : join row = [] := by
        by_contra hJoin
        exact hHidden (h row List.mem_cons_self hJoin)
      rw [hNone, List.nil_append]

theorem join_visible {γ : Type*} {others : List γ} {visibleOther : γ → Bool} {joins : α → γ → Bool}
    {picks : α × γ → Bool}
    (h : ∀ row ∈ rows, ∀ other ∈ others, joins row other = true → picks (row, other) = true →
      visible row = true ∧ visibleOther other = true) :
    ((rows.filter visible).flatMap fun row =>
      ((others.filter visibleOther).filter (joins row)).map (Prod.mk row)).filter
        picks = (rows.flatMap fun row => (others.filter (joins row)).map (Prod.mk row)).filter picks := by
  have hPicked : ∀ row, ∀ found : List γ,
    ((found.filter (joins row)).map (Prod.mk row)).filter picks =
      (found.filter fun other => joins row other && picks (row, other)).map (Prod.mk row) := by
    intro row found
    rw [List.filter_map, List.filter_filter]
    exact congrArg _ (List.filter_congr fun other _ => Bool.and_comm _ _)
  rw [List.filter_flatMap, List.filter_flatMap]
  simp only [hPicked]
  have hJoin :
    rows.flatMap (fun row => (others.filter fun other => joins row other && picks (row, other)).map
      (Prod.mk row)) = (rows.filter visible).flatMap fun row =>
        (others.filter fun other => joins row other && picks (row, other)).map (Prod.mk row) := by
    refine (flatMap_visible fun row hRow hSome => ?_).symm
    obtain ⟨pair, hPair⟩ := List.exists_mem_of_ne_nil _ hSome
    obtain ⟨other, hOther, rfl⟩ := List.mem_map.mp hPair
    obtain ⟨hMem, hBoth⟩ := List.mem_filter.mp hOther
    obtain ⟨hJoins, hPicks⟩ := (Bool.and_eq_true_iff ..).mp hBoth
    exact (h row hRow other hMem hJoins hPicks).1
  rw [hJoin]
  refine List.flatMap_congr fun row hRow => congrArg _ (filter_visible fun other hOther hBoth => ?_)
  obtain ⟨hJoins, hPicks⟩ := (Bool.and_eq_true_iff ..).mp hBoth
  exact (h row (List.mem_filter.mp hRow).1 other hOther hJoins hPicks).2

end ProcureFoundation
