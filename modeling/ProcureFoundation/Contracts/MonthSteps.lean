import ProcureFoundation.Contracts.Calculations

/-!
# Steps of months

Some months after a date is the month that many places further on, on the same day of it or on its
last one if it is shorter. The order of the months decides the order of the dates, so cutting the
day off does not disturb it.
-/

namespace ProcureFoundation.Contracts

open Outcome

def monthIndex (date : Date) : ℕ := 12 * date.year + date.month

variable {base date earlier later : Date} {months fewer : ℕ} {autoRenew : Bool}
  {renewalTermMonths : Option ℤ}

theorem lt_of_monthIndex_lt (h : monthIndex earlier < monthIndex later) : earlier < later := by
  obtain ⟨-, ⟨-, hMonth⟩, -, hDay⟩ := earlier.valid
  obtain ⟨-, ⟨hLaterMonth, hLaterEnd⟩, hLaterDay, -⟩ := later.valid
  have hDays := hDay.trans (daysInMonth_le earlier.year earlier.month)
  unfold monthIndex at h
  change earlier.year * 10000 + earlier.month * 100 + earlier.day <
    later.year * 10000 + later.month * 100 + later.day
  omega

/-- The month that many places further on, on the same day or on its last one. -/
structure MonthsAfter (base : Date) (months : ℕ) (date : Date) : Prop where
  index : monthIndex date = monthIndex base + months
  day : date.day = min base.day (ProcureFoundation.daysInMonth date.year date.month)

theorem MonthsAfter.lt (hPositive : 0 < months) (h : MonthsAfter base months date) :
    base < date := by
  refine lt_of_monthIndex_lt ?_
  rw [h.index]
  exact Nat.lt_add_of_pos_right hPositive

theorem MonthsAfter.strictMono (hFewer : fewer < months) (hEarlier : MonthsAfter base fewer earlier)
    (hLater : MonthsAfter base months later) : earlier < later := by
  refine lt_of_monthIndex_lt ?_
  rw [hEarlier.index, hLater.index]
  exact Nat.add_lt_add_left hFewer _

theorem addMonths_of_before (h : monthIndex base + months < 12 * 9999 + 12) :
    ∃ date, addMonths base months = .ok date ∧ MonthsAfter base months date := by
  have hYear := base.valid.1.1
  have hMonth := base.valid.2.1.1
  have hDay := base.valid.2.2.1
  have hIndex := Nat.div_add_mod (base.month - 1 + months) 12
  have hBound := Nat.mod_lt (base.month - 1 + months) (by norm_num : 0 < 12)
  rw [monthIndex] at h
  have hDays := @daysInMonth_of_before (base.year + (base.month - 1 + months) / 12)
    ((base.month - 1 + months) % 12 + 1) (by omega) ⟨by omega, by omega⟩ (by omega)
  unfold addMonths
  dsimp only
  rw [bind_of_eq_ok hDays]
  refine ⟨_, dateOf_of_valid
    ⟨⟨by omega, by omega⟩, ⟨by omega, by omega⟩, le_min hDay (one_le_daysInMonth _ _),
    min_le_right _ _⟩, ?_, rfl⟩
  change 12 * (base.year + (base.month - 1 + months) / 12) + ((base.month - 1 + months) % 12 + 1) =
    12 * base.year + base.month + months
  omega

theorem monthsAfter_of_addMonths (h : addMonths base months = .ok date) :
    MonthsAfter base months date := by
  have hBefore := addMonths_returns.mp ⟨date, h⟩
  obtain ⟨found, hFound, hAfter⟩ := @addMonths_of_before base months hBefore
  obtain rfl := Except.ok.inj (hFound.symm.trans h)
  exact hAfter

theorem calculateNextRenewalDate_of_not_autoRenew (base : Date) (renewalTermMonths : Option ℤ) :
    calculateNextRenewalDate base false renewalTermMonths = .ok none := rfl

theorem calculateNextRenewalDate_of_positive (hPositive : 0 < months) :
    calculateNextRenewalDate base true (some (months : ℤ)) = (addMonths base months).map some := by
  rw [calculateNextRenewalDate, if_neg (by decide), Option.getD_some, if_neg (by omega),
    Int.toNat_natCast]

theorem calculateNextRenewalDate_of_no_term
    (hTerm : ∀ months : ℕ, 0 < months → renewalTermMonths ≠ some (months : ℤ)) :
    calculateNextRenewalDate base true renewalTermMonths =
      .error "auto_renew=True requires a positive renewal_term_months" := by
  have hNone : renewalTermMonths.getD 0 ≤ 0 := by
    cases renewalTermMonths with
    | none => exact le_rfl
    | some term =>
      rw [Option.getD_some]
      by_contra hPositive
      exact hTerm term.toNat (by omega) (congrArg some (by omega))
  rw [calculateNextRenewalDate, if_neg (by decide), if_pos hNone]

theorem calculateNextRenewalDate_eq_some :
    calculateNextRenewalDate base autoRenew renewalTermMonths = .ok (some date) ↔
    autoRenew = true ∧ ∃ months : ℕ, 0 < months ∧ renewalTermMonths = some (months : ℤ) ∧
      addMonths base months = .ok date := by
  constructor
  · intro h
    cases autoRenew with
    | false =>
      rw [calculateNextRenewalDate_of_not_autoRenew] at h
      cases h
    | true =>
      refine ⟨rfl, ?_⟩
      by_cases hTerm : ∀ months : ℕ, 0 < months → renewalTermMonths ≠ some (months : ℤ)
      · rw [calculateNextRenewalDate_of_no_term hTerm] at h
        cases h
      · push Not at hTerm
        obtain ⟨months, hPositive, rfl⟩ := hTerm
        rw [calculateNextRenewalDate_of_positive hPositive] at h
        refine ⟨months, hPositive, rfl, ?_⟩
        cases hDate : addMonths base months with
        | error message =>
          rw [hDate] at h
          cases h
        | ok found =>
          rw [hDate] at h
          cases h
          rfl
  · rintro ⟨rfl, months, hPositive, rfl, hDate⟩
    rw [calculateNextRenewalDate_of_positive hPositive, hDate]
    rfl

/-- Months are added exactly and in order, and the next renewal of a contract is that many months
after its expiry. -/
theorem month_arithmetic_exact (base : Date) (months : ℕ) (hPositive : 0 < months)
    (hBefore : monthIndex base + months < 12 * 9999 + 12) :
    ∃ date, addMonths base months = .ok date ∧ monthIndex date = monthIndex base + months ∧
      date.day = min base.day (ProcureFoundation.daysInMonth date.year date.month) ∧ base < date ∧
      (∀ fewer, 0 < fewer → fewer < months → ∃ earlier, addMonths base fewer = .ok earlier ∧
        earlier < date) ∧
      ∀ autoRenew renewalTermMonths, calculateNextRenewalDate base autoRenew renewalTermMonths =
        .ok (some date) ↔ autoRenew = true ∧ renewalTermMonths = some (months : ℤ) := by
  obtain ⟨date, hDate, hAfter⟩ := addMonths_of_before hBefore
  refine ⟨date, hDate, hAfter.index, hAfter.day, hAfter.lt hPositive, ?_, ?_⟩
  · intro fewer _ hFewer
    obtain ⟨earlier, hEarlier, hBetween⟩ := @addMonths_of_before base fewer (by omega)
    exact ⟨earlier, hEarlier, hBetween.strictMono hFewer hAfter⟩
  · intro autoRenew renewalTermMonths
    rw [calculateNextRenewalDate_eq_some]
    refine and_congr_right fun _ => ⟨?_, ?_⟩
    · rintro ⟨others, -, rfl, hOthers⟩
      have hIndex := (monthsAfter_of_addMonths hOthers).index
      rw [hAfter.index] at hIndex
      rw [Nat.add_left_cancel hIndex]
    · rintro rfl
      exact ⟨months, hPositive, rfl, hDate⟩

/-- Four months after the last day of October lies the end of a February with a leap day. -/
theorem month_arithmetic_exact_of_october :
    ∃ date, addMonths ⟨2023, 10, 31, by decide⟩ 4 = .ok date ∧
    monthIndex date = 12 * 2024 + 2 ∧
      date.day = min 31 (ProcureFoundation.daysInMonth date.year date.month) := by
  obtain ⟨date, hDate, hIndex, hDay, -⟩ :=
    month_arithmetic_exact ⟨2023, 10, 31, by decide⟩ 4 (by decide) (by decide)
  exact ⟨date, hDate, hIndex, hDay⟩

end ProcureFoundation.Contracts
