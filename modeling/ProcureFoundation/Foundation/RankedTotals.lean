import Mathlib.Algebra.BigOperators.Group.Finset.Basic
import Mathlib.Algebra.Order.BigOperators.Group.List
import Mathlib.Order.Bounds.Basic

/-!
# Totals of ranked values

Of values that stand in falling order the first ones have the largest sum among all choices of so
many, so that the first few that reach a goal are the fewest that do.
-/

namespace ProcureFoundation

variable {M : Type} [AddCommMonoid M] [PartialOrder M] [IsOrderedAddMonoid M] {xs sub : List M}
  {goal : M} {n m : ℕ}

theorem sum_le_sum_take (hRanked : xs.Pairwise (· ≥ ·)) (h : sub.Sublist xs) :
    sub.sum ≤ (xs.take sub.length).sum := by
  induction xs generalizing sub with
  | nil =>
    rw [List.sublist_nil.mp h]
    exact le_rfl
  | cons x xs ih =>
    obtain ⟨hFirst, hRest⟩ := List.pairwise_cons.mp hRanked
    cases sub with
    | nil => exact le_rfl
    | cons y sub =>
      have hy : y ≤ x := by
        obtain rfl | hMem := List.mem_cons.mp (h.subset List.mem_cons_self)
        · exact le_rfl
        · exact hFirst y hMem
      have hSub : sub.Sublist xs := h.tail
      rw [List.length_cons, List.take_succ_cons, List.sum_cons, List.sum_cons]
      exact add_le_add hy (ih hRest hSub)

theorem sum_take_le_sum_take (hNonneg : ∀ x ∈ xs, 0 ≤ x) (h : n ≤ m) :
    (xs.take n).sum ≤ (xs.take m).sum :=
  (List.take_prefix_take_left h).sublist.sum_le_sum fun x hx => hNonneg x (List.mem_of_mem_take hx)

section Choices

variable {α : Type} [DecidableEq α] {items : List α} {amount : α → M}

/-- The sizes of the choices that reach a goal. -/
def Reaching (items : List α) (amount : α → M) (goal : M) : Set ℕ :=
  { size | ∃ chosen ⊆ items.toFinset, chosen.card = size ∧ goal ≤ ∑ item ∈ chosen, amount item }

theorem sum_chosen_le (hNodup : items.Nodup) (hRanked : (items.map amount).Pairwise (· ≥ ·))
    {chosen : Finset α} (hChosen : chosen ⊆ items.toFinset) :
    ∑ item ∈ chosen, amount item ≤ ((items.map amount).take chosen.card).sum := by
  have hKept : (items.filter (· ∈ chosen)).toFinset = chosen := by
    ext item
    rw [List.mem_toFinset, List.mem_filter, decide_eq_true_eq, and_iff_right_of_imp]
    exact fun hItem => List.mem_toFinset.mp (hChosen hItem)
  have hSum : ∑ item ∈ chosen, amount item = ((items.filter (· ∈ chosen)).map amount).sum := by
    rw [← List.sum_toFinset amount (hNodup.filter _), hKept]
  have hCard : chosen.card = ((items.filter (· ∈ chosen)).map amount).length := by
    rw [List.length_map, ← List.toFinset_card_of_nodup (hNodup.filter _), hKept]
  rw [hSum, hCard]
  exact sum_le_sum_take hRanked (List.filter_sublist.map amount)

/-- The shortest beginning that reaches the goal is a smallest choice that does. -/
theorem isLeast_reaching (hNodup : items.Nodup) (hRanked : (items.map amount).Pairwise (· ≥ ·))
    (hLength : n ≤ items.length) (hReached : goal ≤ ((items.map amount).take n).sum)
    (hBefore : ∀ m < n, ¬goal ≤ ((items.map amount).take m).sum) :
    IsLeast (Reaching items amount goal) n := by
  constructor
  · have hTaken : (items.take n).Nodup := hNodup.sublist (List.take_sublist n items)
    refine ⟨(items.take n).toFinset, ?_, ?_, ?_⟩
    · intro item hItem
      exact List.mem_toFinset.mpr (List.mem_of_mem_take (List.mem_toFinset.mp hItem))
    · rw [List.toFinset_card_of_nodup hTaken, List.length_take_of_le hLength]
    · rwa [List.sum_toFinset amount hTaken, List.map_take]
  · rintro size ⟨chosen, hChosen, rfl, hGoal⟩
    by_contra hFewer
    exact hBefore chosen.card (not_le.mp hFewer) (hGoal.trans (sum_chosen_le hNodup hRanked hChosen))

end Choices

end ProcureFoundation
