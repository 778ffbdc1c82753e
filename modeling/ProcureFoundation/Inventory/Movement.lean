import Mathlib.Order.Bounds.Basic
import ProcureFoundation.Foundation.DayArithmetic

/-!
# The last movement of a stock item

From its last snapshot back, the first quantity that is below the one before tells when an item last
moved. It is the last fall of the whole history, so later snapshots change it only when they fall
themselves.
-/

namespace ProcureFoundation.Inventory

/-- The backward scan, from the snapshot with the given index. -/
def lastFall (snapshots : List (Date × ℚ)) : ℕ → Option Date
  | 0 => none
  | i + 1 =>
    match snapshots[i + 1]?, snapshots[i]? with
    | some current, some prior => if current.2 < prior.2 then some current.1
        else lastFall snapshots i
    | _, _ => lastFall snapshots i

def calculateDaysSinceLastMovement (orderedSnapshots : List (Date × ℚ)) (asOf : Date) : Option ℤ :=
  if orderedSnapshots.length < 2 then none
  else
    match lastFall orderedSnapshots (orderedSnapshots.length - 1) with
    | some currentDate => some (currentDate.daysUntil asOf)
    | none => orderedSnapshots.head?.map fun earliest => earliest.1.daysUntil asOf

/-- The quantity of the snapshot after this one is lower. -/
def FallsAfter (snapshots : List (Date × ℚ)) (i : ℕ) : Prop :=
  ∃ prior current, snapshots[i]? = some prior ∧ snapshots[i + 1]? = some current ∧
    current.2 < prior.2

/-- The date of the last snapshot below its predecessor, or of the first one where there is none. -/
def LastMovement (snapshots : List (Date × ℚ)) (date : Date) : Prop :=
  (∃ i, IsGreatest { i | FallsAfter snapshots i } i ∧ (snapshots[i + 1]?).map Prod.fst =
    some date) ∨ (∀ i, ¬FallsAfter snapshots i) ∧ snapshots.head?.map Prod.fst = some date

section Scan

variable {snapshots more : List (Date × ℚ)} {last lower : Date × ℚ} {asOf date : Date} {i n : ℕ}

theorem lastFall_succ (n : ℕ) :
    (FallsAfter snapshots n ∧ ∃ current, snapshots[n + 1]? = some current ∧
      lastFall snapshots (n + 1) = some current.1) ∨
    ¬FallsAfter snapshots n ∧ lastFall snapshots (n + 1) = lastFall snapshots n := by
  rw [lastFall]
  split
  · rename_i current prior hCurrent hPrior
    split
    · rename_i hLess
      exact .inl ⟨⟨prior, current, hPrior, hCurrent, hLess⟩, current, hCurrent, rfl⟩
    · rename_i hNot
      refine .inr ⟨?_, rfl⟩
      rintro ⟨prior', current', hPrior', hCurrent', hLess⟩
      obtain rfl := Option.some.inj (hPrior.symm.trans hPrior')
      obtain rfl := Option.some.inj (hCurrent.symm.trans hCurrent')
      exact hNot hLess
  · rename_i hNone
    refine .inr ⟨?_, rfl⟩
    rintro ⟨prior, current, hPrior, hCurrent, -⟩
    exact hNone current prior hCurrent hPrior

/-- The scan finds the last fall that it comes by. -/
theorem lastFall_spec (n : ℕ) : (lastFall snapshots n = none ∧ ∀ i < n, ¬FallsAfter snapshots i) ∨
    ∃ i < n, FallsAfter snapshots i ∧ (∀ j < n, i < j → ¬FallsAfter snapshots j) ∧
      (snapshots[i + 1]?).map Prod.fst = lastFall snapshots n ∧ (lastFall snapshots n).isSome := by
  induction n with
  | zero => exact .inl ⟨rfl, fun i hi => absurd hi (Nat.not_lt_zero i)⟩
  | succ n ih =>
    obtain ⟨hFalls, current, hCurrent, hFound⟩ | ⟨hNot, hSame⟩ := @lastFall_succ snapshots n
    · refine .inr ⟨n, n.lt_succ_self, hFalls, fun j hj hLater =>
        absurd hj (Nat.not_lt.mpr hLater), ?_, ?_⟩
      · rw [hCurrent, hFound]
        rfl
      · rw [hFound]
        rfl
    · rw [hSame]
      obtain ⟨hNone, hBelow⟩ | ⟨i, hi, hFalls, hLast, hDate⟩ := ih
      · refine .inl ⟨hNone, fun i hi => ?_⟩
        obtain hLess | rfl := (Nat.le_of_lt_succ hi).lt_or_eq
        · exact hBelow i hLess
        · exact hNot
      · refine .inr ⟨i, hi.trans n.lt_succ_self, hFalls, fun j hj hLater => ?_, hDate⟩
        obtain hLess | rfl := (Nat.le_of_lt_succ hj).lt_or_eq
        · exact hLast j hLess hLater
        · exact hNot

theorem FallsAfter.lt_length (h : FallsAfter snapshots i) : i < snapshots.length - 1 := by
  obtain ⟨prior, current, -, hCurrent, -⟩ := h
  have hBound := (List.getElem?_eq_some_iff.mp hCurrent).1
  omega

theorem LastMovement.unique {other : Date} (h : LastMovement snapshots date)
    (hOther : LastMovement snapshots other) : date = other := by
  obtain ⟨i, hGreatest, hDate⟩ | ⟨hNone, hDate⟩ := h
  · obtain ⟨j, hOtherGreatest, hOtherDate⟩ | ⟨hNone, -⟩ := hOther
    · obtain rfl := hGreatest.unique hOtherGreatest
      exact Option.some.inj (hDate.symm.trans hOtherDate)
    · exact absurd hGreatest.1 (hNone i)
  · obtain ⟨j, hGreatest, -⟩ | ⟨-, hOtherDate⟩ := hOther
    · exact absurd hGreatest.1 (hNone j)
    · exact Option.some.inj (hDate.symm.trans hOtherDate)

/-- What is calculated are the days since the last movement. -/
theorem exists_lastMovement (hLength : 2 ≤ snapshots.length) (asOf : Date) :
    ∃ date, LastMovement snapshots date ∧
    calculateDaysSinceLastMovement snapshots asOf = some (date.daysUntil asOf) := by
  rw [calculateDaysSinceLastMovement, if_neg (Nat.not_lt.mpr hLength)]
  obtain ⟨hFound, hBelow⟩ | ⟨i, -, hFalls, hLast, hDate, hSome⟩ :=
    @lastFall_spec snapshots (snapshots.length - 1)
  · have hNone : ∀ i, ¬FallsAfter snapshots i := fun i hFalls => hBelow i hFalls.lt_length hFalls
    cases snapshots with
    | nil => exact absurd hLength (by decide)
    | cons first rest =>
      rw [hFound]
      exact ⟨first.1, .inr ⟨hNone, rfl⟩, rfl⟩
  · obtain ⟨date, hFound⟩ := Option.isSome_iff_exists.mp hSome
    rw [hFound] at hDate ⊢
    refine ⟨date, .inl ⟨i, ⟨hFalls, fun j hj => ?_⟩, hDate⟩, rfl⟩
    by_contra hLater
    exact hLast j hj.lt_length (not_le.mp hLater) hj

theorem calculate_of_lastMovement (hLength : 2 ≤ snapshots.length)
    (h : LastMovement snapshots date) :
    calculateDaysSinceLastMovement snapshots asOf = some (date.daysUntil asOf) := by
  obtain ⟨other, hOther, hCalculated⟩ := exists_lastMovement hLength asOf
  rw [hCalculated, h.unique hOther]

/-- Behind a snapshot from which the quantities do not fall, there is no further fall. -/
theorem fallsAfter_append_iff (hRise : List.IsChain (fun a b : Date × ℚ => a.2 ≤ b.2) (last :: more)) :
    FallsAfter (snapshots ++ last :: more) i ↔ FallsAfter (snapshots ++ [last]) i := by
  have hSplit : snapshots ++ last :: more = (snapshots ++ [last]) ++ more := by
    rw [List.append_assoc, List.singleton_append]
  constructor
  · rintro ⟨prior, current, hPrior, hCurrent, hLess⟩
    obtain hWithin | hBeyond := lt_or_ge i snapshots.length
    · rw [hSplit, List.getElem?_append_left
        (by rw [List.length_append, List.length_singleton]; omega)] at hPrior hCurrent
      exact ⟨prior, current, hPrior, hCurrent, hLess⟩
    · rw [List.getElem?_append_right hBeyond] at hPrior
      rw [List.getElem?_append_right (hBeyond.trans (Nat.le_add_right i 1)),
        Nat.sub_add_comm hBeyond] at hCurrent
      obtain ⟨hBound, hPrior⟩ := List.getElem?_eq_some_iff.mp hPrior
      obtain ⟨hBoundNext, hCurrent⟩ := List.getElem?_eq_some_iff.mp hCurrent
      have hStep := List.isChain_iff_getElem.mp hRise (i - snapshots.length) hBoundNext
      rw [hPrior, hCurrent] at hStep
      exact absurd hLess hStep.not_gt
  · rintro ⟨prior, current, hPrior, hCurrent, hLess⟩
    rw [hSplit]
    obtain ⟨hBound, -⟩ := List.getElem?_eq_some_iff.mp hCurrent
    refine ⟨prior, current, ?_, ?_, hLess⟩
    · rwa [List.getElem?_append_left (by omega)]
    · rwa [List.getElem?_append_left hBound]

theorem LastMovement.append (hRise : List.IsChain (fun a b : Date × ℚ => a.2 ≤ b.2) (last :: more))
    (h : LastMovement (snapshots ++ [last]) date) :
    LastMovement (snapshots ++ last :: more) date := by
  obtain ⟨i, hGreatest, hDate⟩ | ⟨hNone, hDate⟩ := h
  · refine .inl ⟨i, ⟨(fallsAfter_append_iff hRise).mpr hGreatest.1, fun j hj => ?_⟩, ?_⟩
    · exact hGreatest.2 ((fallsAfter_append_iff hRise).mp hj)
    · have hBound := hGreatest.1.lt_length
      rw [List.append_cons, List.getElem?_append_left (by omega)]
      exact hDate
  · refine .inr ⟨fun i hFalls => hNone i ((fallsAfter_append_iff hRise).mp hFalls), ?_⟩
    cases snapshots with
    | nil => exact hDate
    | cons first rest => exact hDate

/-- A snapshot below the last one is the last movement. -/
theorem lastMovement_lower (hLess : lower.2 < last.2) :
    LastMovement (snapshots ++ [last, lower]) lower.1 := by
  have hLast : (snapshots ++ [last, lower])[snapshots.length]? = some last := by
    rw [List.getElem?_append_right le_rfl, Nat.sub_self]
    rfl
  have hLower : (snapshots ++ [last, lower])[snapshots.length + 1]? = some lower := by
    rw [List.getElem?_append_right (Nat.le_add_right _ 1), Nat.add_sub_cancel_left]
    rfl
  refine .inl ⟨snapshots.length, ⟨⟨last, lower, hLast, hLower, hLess⟩, fun j hj => ?_⟩, ?_⟩
  · have hBound := FallsAfter.lt_length hj
    rw [List.length_append] at hBound
    change _ < _ + 2 - 1 at hBound
    omega
  · rw [hLower]
    rfl

end Scan

end ProcureFoundation.Inventory
