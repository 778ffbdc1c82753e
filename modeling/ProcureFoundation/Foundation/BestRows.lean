import Mathlib.Data.List.Dedup
import Mathlib.Data.List.Induction
import Mathlib.Order.Lattice
import Mathlib.Tactic.Common

/-!
# Choosing rows by score

The first of the highest-scoring elements above a floor, and when the elements that
several searches have chosen, together with those that none has, make up the list again.
-/

namespace ProcureFoundation

section FirstBest

variable {α β : Type*} [LinearOrder β]

def firstBest (score : α → β) (floor : β) (xs : List α) : Option α :=
  (xs.foldl (fun best x => if best.1 < score x then (score x, some x) else best) (floor, none)).2

/-- Everything before it scores less, nothing after it scores more. -/
def IsFirstBest (score : α → β) (floor : β) (xs : List α) (x : α) : Prop :=
  ∃ before after, xs = before ++ x :: after ∧ floor < score x ∧
    (∀ y ∈ before, score y < score x) ∧ ∀ y ∈ after, score y ≤ score x

variable {score : α → β} {floor : β} {xs : List α} {x y : α}

theorem IsFirstBest.mem (h : IsFirstBest score floor xs x) : x ∈ xs := by
  obtain ⟨before, after, rfl, -⟩ := h
  exact List.mem_append_right _ List.mem_cons_self

theorem IsFirstBest.le (h : IsFirstBest score floor xs x) (hy : y ∈ xs) : score y ≤ score x := by
  obtain ⟨before, after, rfl, -, hBefore, hAfter⟩ := h
  obtain hy | hy := List.mem_append.mp hy
  · exact (hBefore y hy).le
  · obtain rfl | hy := List.mem_cons.mp hy
    · exact le_rfl
    · exact hAfter y hy

theorem IsFirstBest.append_of_le (h : IsFirstBest score floor xs x) (hy : score y ≤ score x) :
    IsFirstBest score floor (xs ++ [y]) x := by
  obtain ⟨before, after, rfl, hFloor, hBefore, hAfter⟩ := h
  refine ⟨before, after ++ [y], by simp, hFloor, hBefore, fun z hz => ?_⟩
  obtain hz | hz := List.mem_append.mp hz
  · exact hAfter z hz
  · exact List.mem_singleton.mp hz ▸ hy

theorem firstBest_fold (score : α → β) (floor : β) (xs : List α) :
    let best := xs.foldl (fun best x => if best.1 < score x then (score x, some x) else best) (floor, none)
    (best = (floor, none) ∧ ∀ y ∈ xs, score y ≤ floor) ∨
      ∃ x, best = (score x, some x) ∧ IsFirstBest score floor xs x := by
  induction xs using List.reverseRecOn with
  | nil => exact .inl ⟨rfl, fun _ h => nomatch h⟩
  | append_singleton xs y ih =>
    simp only [List.foldl_append, List.foldl_cons, List.foldl_nil] at ih ⊢
    obtain ⟨hFold, hBelow⟩ | ⟨x, hFold, hBest⟩ := ih
    · rw [hFold]
      split
      · rename_i hFloor
        exact .inr ⟨y, rfl, xs, [], rfl, hFloor, fun z hz => (hBelow z hz).trans_lt hFloor,
          fun _ h => nomatch h⟩
      · rename_i hFloor
        refine .inl ⟨rfl, fun z hz => ?_⟩
        obtain hz | hz := List.mem_append.mp hz
        · exact hBelow z hz
        · exact List.mem_singleton.mp hz ▸ not_lt.mp hFloor
    · rw [hFold]
      split
      · rename_i hBetter
        have hFloor : floor < score x := by
          obtain ⟨_, _, -, hFloor, -⟩ := hBest
          exact hFloor
        exact .inr ⟨y, rfl, xs, [], rfl, hFloor.trans hBetter, fun z hz =>
          (hBest.le hz).trans_lt hBetter, fun _ h => nomatch h⟩
      · rename_i hBetter
        exact .inr ⟨x, rfl, hBest.append_of_le (not_lt.mp hBetter)⟩

theorem isFirstBest_of_firstBest (h : firstBest score floor xs = some x) :
    IsFirstBest score floor xs x := by
  obtain ⟨hFold, -⟩ | ⟨y, hFold, hBest⟩ := firstBest_fold score floor xs
  · rw [firstBest, hFold] at h
    exact nomatch h
  · rw [firstBest, hFold, Option.some.injEq] at h
    exact h ▸ hBest

theorem eq_of_append_eq {before after before' after' : List α}
    (h : before ++ x :: after = before' ++ y :: after') (hx : x ∉ before') (hy : y ∉ before) :
    x = y := by
  obtain ⟨middle, rfl, hMiddle⟩ | ⟨middle, rfl, hMiddle⟩ := List.append_eq_append_iff.mp h
  · cases middle with
    | nil => exact (List.cons.inj hMiddle).1
    | cons z middle =>
      rw [(List.cons.inj hMiddle).1] at hx
      exact absurd (List.mem_append_right _ List.mem_cons_self) hx
  · cases middle with
    | nil => exact (List.cons.inj hMiddle).1.symm
    | cons z middle =>
      rw [(List.cons.inj hMiddle).1] at hy
      exact absurd (List.mem_append_right _ List.mem_cons_self) hy

theorem IsFirstBest.unique (hx : IsFirstBest score floor xs x) (hy : IsFirstBest score floor xs y) :
    x = y := by
  have hyx := hx.le hy.mem
  have hxy := hy.le hx.mem
  obtain ⟨before, after, hEq, -, hBefore, -⟩ := hx
  obtain ⟨before', after', hEq', -, hBefore', -⟩ := hy
  exact eq_of_append_eq (hEq.symm.trans hEq') (fun h => not_lt.mpr hyx (hBefore' x h))
    fun h => not_lt.mpr hxy (hBefore y h)

theorem firstBest_eq_some : firstBest score floor xs = some x ↔ IsFirstBest score floor xs x := by
  constructor
  · exact isFirstBest_of_firstBest
  · intro h
    obtain ⟨-, hBelow⟩ | ⟨y, hFold, hBest⟩ := firstBest_fold score floor xs
    · have hMem := h.mem
      obtain ⟨_, _, -, hFloor, -⟩ := h
      exact absurd (hBelow x hMem) (not_le.mpr hFloor)
    · rw [firstBest, hFold, h.unique hBest]

end FirstBest

section Coverage

variable {ρ : Type*} [DecidableEq ρ] {rows chosen : List ρ}

theorem chosen_perm_filter (hRows : rows.Nodup) (hChosen : ∀ row ∈ chosen, row ∈ rows) :
    chosen.dedup.Perm (rows.filter fun row => decide (row ∈ chosen)) := by
  refine (List.perm_ext_iff_of_nodup (List.nodup_dedup _) (hRows.filter _)).mpr fun row => ?_
  rw [List.mem_dedup, List.mem_filter, decide_eq_true_iff]
  exact ⟨fun h => ⟨hChosen row h, h⟩, fun h => h.2⟩

/-- The chosen rows without repetition and the rows nobody chose are all the rows. -/
theorem dedup_append_perm (hRows : rows.Nodup) (hChosen : ∀ row ∈ chosen, row ∈ rows) :
    (chosen.dedup ++ rows.filter fun row => !decide (row ∈ chosen)).Perm rows :=
  ((chosen_perm_filter hRows hChosen).append_right _).trans (List.filter_append_perm _ rows)

theorem chosen_append_perm (hRows : rows.Nodup) (hChosen : ∀ row ∈ chosen, row ∈ rows)
    (hOnce : chosen.Nodup) :
    (chosen ++ rows.filter fun row => !decide (row ∈ chosen)).Perm rows := by
  have hPerm := dedup_append_perm hRows hChosen
  rwa [hOnce.dedup] at hPerm

theorem nodup_of_length_eq (hRows : rows.Nodup) (hChosen : ∀ row ∈ chosen, row ∈ rows)
    (hLength : (chosen ++ rows.filter fun row => !decide (row ∈ chosen)).length = rows.length) :
    chosen.Nodup := by
  have hPerm := (dedup_append_perm hRows hChosen).length_eq
  rw [← hLength, List.length_append, List.length_append, Nat.add_right_cancel_iff] at hPerm
  rw [← (List.dedup_sublist chosen).eq_of_length hPerm]
  exact List.nodup_dedup chosen

theorem length_le_chosen_append (hRows : rows.Nodup) (hChosen : ∀ row ∈ chosen, row ∈ rows) :
    rows.length ≤ (chosen ++ rows.filter fun row => !decide (row ∈ chosen)).length := by
  rw [← (dedup_append_perm hRows hChosen).length_eq, List.length_append, List.length_append]
  exact Nat.add_le_add_right (List.dedup_sublist chosen).length_le _

end Coverage

end ProcureFoundation
