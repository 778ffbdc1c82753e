import Mathlib.Algebra.Order.Field.Basic
import Mathlib.Tactic.LinearCombination
import Mathlib.Tactic.Ring
import Mathlib.Tactic.Common

/-!
# Marginal sums

An amount is charged in tiers: each tier has the point at which it begins and a rate for the part of
the amount that lies in it. By summation by parts the charge is the amount at the rate of the last
tier reached, less a step for each tier entered.
-/

namespace ProcureFoundation.MarginalSums

section Order

variable {α : Type*} {K : Type*} [LinearOrder K] {low : α → K} {tiers : List α} {last : α}

/-- The tiers in the order of their beginnings. -/
def ascending (low : α → K) (tiers : List α) : List α :=
  tiers.mergeSort fun a b => decide (low a ≤ low b)

theorem pairwise_ascending (tiers : List α) : (ascending low tiers).Pairwise fun a b =>
    low a ≤ low b := by
  have hSorted := @List.pairwise_mergeSort _ (fun a b => decide (low a ≤ low b))
    (fun a b c hab hbc => decide_eq_true ((of_decide_eq_true hab).trans (of_decide_eq_true hbc)))
    (fun a b => by
      rw [Bool.or_eq_true, decide_eq_true_iff, decide_eq_true_iff]
      exact le_total _ _) tiers
  exact hSorted.imp of_decide_eq_true

theorem perm_ascending (tiers : List α) : (ascending low tiers).Perm tiers :=
  List.mergeSort_perm _ _

/-- In ascending order the last tier begins after all others. -/
theorem low_le_getLast (h : tiers.Pairwise fun a b => low a ≤ low b)
    (hLast : tiers.getLast? = some last) : ∀ tier ∈ tiers, low tier ≤ low last := by
  obtain ⟨front, rfl⟩ := List.getLast?_eq_some_iff.mp hLast
  intro tier hTier
  obtain hFront | hEnd := List.mem_append.mp hTier
  · exact (List.pairwise_append.mp h).2.2 tier hFront last List.mem_cons_self
  · rw [List.mem_singleton.mp hEnd]

end Order

section Sums

variable {α : Type*} {K : Type*} [Field K] [LinearOrder K] [IsStrictOrderedRing K]
  (low rate : α → K)

/-- The last tier has no end. -/
def marginalSum (amount : K) : List α → K
  | [] => 0
  | [tier] => rate tier * max 0 (amount - low tier)
  | tier :: next :: rest =>
    rate tier * max 0 (min amount (low next) - low tier) + marginalSum amount (next :: rest)

def reached (amount : K) (tiers : List α) : List α := tiers.filter fun tier => low tier ≤ amount

def lastRate (previous : K) : List α → K
  | [] => previous
  | tier :: rest => lastRate (rate tier) rest

/-- Each tier weighted with the change of the rate at its beginning. -/
def stepSum (previous : K) : List α → K
  | [] => 0
  | tier :: rest => low tier * (rate tier - previous) + stepSum (rate tier) rest

variable {low rate} {amount previous : K} {tier : α} {tiers : List α}

/-- The part of the amount beyond the beginning of the first tier. -/
def headExcess (low : α → K) (amount : K) : List α → K
  | [] => 0
  | tier :: _ => max 0 (amount - low tier)

theorem part_eq_excess_sub {start stop : K} (h : start ≤ stop) :
    max 0 (min amount stop - start) = max 0 (amount - start) - max 0 (amount - stop) := by
  obtain hBelow | hAbove := le_total amount stop
  · rw [min_eq_left hBelow, max_eq_left (sub_nonpos.mpr hBelow), sub_zero]
  · rw [min_eq_right hAbove, max_eq_right (sub_nonneg.mpr h),
      max_eq_right (sub_nonneg.mpr (h.trans hAbove)), max_eq_right (sub_nonneg.mpr hAbove)]
    ring

theorem marginalSum_cons (h : ∀ next ∈ tiers, low tier ≤ low next) :
    marginalSum low rate amount (tier :: tiers) =
    rate tier * (max 0 (amount - low tier) - headExcess low amount tiers) +
      marginalSum low rate amount tiers := by
  cases tiers with
  | nil =>
    rw [marginalSum, marginalSum, headExcess, sub_zero, add_zero]
  | cons next rest =>
    rw [marginalSum, part_eq_excess_sub (h next List.mem_cons_self)]
    rfl

theorem headExcess_eq_zero (h : ∀ tier ∈ tiers, amount < low tier) :
    headExcess low amount tiers = 0 := by
  cases tiers with
  | nil => rfl
  | cons tier rest => exact max_eq_left (sub_nonpos.mpr (h tier List.mem_cons_self).le)

/-- Summation by parts, with the rate that holds before the first tier. -/
theorem marginalSum_add (h : tiers.Pairwise fun a b => low a ≤ low b) (previous : K) :
    previous * (amount - headExcess low amount tiers) + marginalSum low rate amount tiers =
      amount * lastRate rate previous (reached low amount tiers) - stepSum low rate previous
        (reached low amount tiers) := by
  induction tiers generalizing previous with
  | nil =>
    rw [headExcess, marginalSum, reached, List.filter_nil, lastRate, stepSum]
    ring
  | cons tier rest ih =>
    obtain ⟨hFirst, hRest⟩ := List.pairwise_cons.mp h
    rw [marginalSum_cons hFirst, headExcess]
    obtain hReached | hBeyond := le_or_gt (low tier) amount
    · have hCons : reached low amount (tier :: rest) = tier :: reached low amount rest :=
        List.filter_cons_of_pos (decide_eq_true hReached)
      have hTail := ih hRest (rate tier)
      rw [hCons, lastRate, stepSum, max_eq_right (sub_nonneg.mpr hReached)]
      linear_combination hTail
    · have hNone : ∀ next ∈ rest, amount < low next :=
        fun next hNext => hBeyond.trans_le (hFirst next hNext)
      have hCons : reached low amount (tier :: rest) = reached low amount rest :=
        List.filter_cons_of_neg (by rw [decide_eq_true_iff]; exact hBeyond.not_ge)
      have hTail := ih hRest previous
      rw [headExcess_eq_zero hNone] at hTail ⊢
      rw [hCons, max_eq_left (sub_nonpos.mpr hBeyond.le)]
      linear_combination hTail

theorem marginalSum_eq (h : tiers.Pairwise fun a b => low a ≤ low b) :
    marginalSum low rate amount tiers =
    amount * lastRate rate 0 (reached low amount tiers) - stepSum low rate 0
      (reached low amount tiers) := by
  have hParts : 0 * (amount - headExcess low amount tiers) + marginalSum low rate amount tiers =
      amount * lastRate rate 0 (reached low amount tiers) - stepSum low rate 0
        (reached low amount tiers) :=
    marginalSum_add h 0
  linear_combination hParts

omit [LinearOrder K] [IsStrictOrderedRing K] in
theorem stepSum_eq_zero (h : ∀ tier ∈ tiers, low tier = 0) :
    stepSum low rate previous tiers = 0 := by
  induction tiers generalizing previous with
  | nil => rfl
  | cons tier rest ih =>
    obtain ⟨hFirst, hRest⟩ := List.forall_mem_cons.mp h
    rw [stepSum, hFirst, zero_mul, zero_add, ih hRest]

omit [Field K] [LinearOrder K] [IsStrictOrderedRing K] in
theorem lastRate_eq_getLast? (previous : K) (tiers : List α) :
    lastRate rate previous tiers = (tiers.getLast?.map rate).getD previous := by
  induction tiers generalizing previous with
  | nil => rfl
  | cons tier rest ih =>
    rw [lastRate, ih, List.getLast?_cons]
    cases rest.getLast? with
    | none => rfl
    | some last => rfl

end Sums

end ProcureFoundation.MarginalSums
