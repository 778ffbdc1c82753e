import Mathlib.Order.Monotone.Basic
import ProcureFoundation.Foundation.DayArithmetic

/-!
# Order of days

The numbers of the days are in the order of the dates.
-/

namespace ProcureFoundation.Date

variable {year other month later : ℕ} {a b : Date}

theorem daysBeforeMonth_mono (hMonth : 1 ≤ month) (h : month ≤ later) :
    daysBeforeMonth year month ≤ daysBeforeMonth year later := by
  induction later, h using Nat.le_induction with
  | base => exact le_rfl
  | succ later h ih =>
    rw [daysBeforeMonth_succ (hMonth.trans h)]
    exact ih.trans (Nat.le_add_right _ _)

theorem daysBeforeYear_mono (hYear : 1 ≤ year) (h : year ≤ other) :
    daysBeforeYear year ≤ daysBeforeYear other := by
  induction other, h using Nat.le_induction with
  | base => exact le_rfl
  | succ other h ih =>
    rw [daysBeforeYear_succ (hYear.trans h)]
    exact ih.trans ((Nat.le_add_right _ _).trans (Nat.le_add_right _ _))

/-- A day lies between the beginning of its month and that of the next. -/
theorem dayOfYear_le (date : Date) :
    daysBeforeMonth date.year date.month + date.day ≤
      daysBeforeMonth date.year (date.month + 1) := by
  rw [daysBeforeMonth_succ date.valid.2.1.1]
  exact Nat.add_le_add_left date.valid.2.2.2 _

theorem toOrdinal_lt (h : a < b) : a.toOrdinal < b.toOrdinal := by
  have hKey : a.year * 10000 + a.month * 100 + a.day < b.year * 10000 + b.month * 100 + b.day := h
  obtain ⟨⟨hYear, -⟩, ⟨hMonth, hMonthEnd⟩, -, hDayEnd⟩ := a.valid
  obtain ⟨-, ⟨hOtherMonth, hOtherMonthEnd⟩, hOtherDay, hOtherDayEnd⟩ := b.valid
  have hDays := hDayEnd.trans (daysInMonth_le a.year a.month)
  have hOtherDays := hOtherDayEnd.trans (daysInMonth_le b.year b.month)
  have hWithin := a.dayOfYear_le
  unfold toOrdinal ymdToOrd
  obtain hLess | hSame | hGreater := lt_trichotomy a.year b.year
  · have hEnd : daysBeforeMonth a.year (a.month + 1) ≤ daysBeforeMonth a.year 13 :=
      daysBeforeMonth_mono (Nat.le_add_left 1 a.month) (Nat.succ_le_succ hMonthEnd)
    have hLast := daysBeforeMonth_yearEnd a.year
    have hYears := daysBeforeYear_mono (Nat.le_add_left 1 a.year) hLess
    rw [daysBeforeYear_succ hYear] at hYears
    omega
  · rw [hSame] at hWithin ⊢
    obtain hLess | hSameMonth | hGreater := lt_trichotomy a.month b.month
    · have hNext : daysBeforeMonth b.year (a.month + 1) ≤ daysBeforeMonth b.year b.month :=
        daysBeforeMonth_mono (Nat.le_add_left 1 a.month) hLess
      omega
    · rw [hSameMonth]
      omega
    · omega
  · omega

theorem toOrdinal_le (h : a ≤ b) : a.toOrdinal ≤ b.toOrdinal := by
  obtain rfl | hLess := h.eq_or_lt
  · exact le_rfl
  · exact (toOrdinal_lt hLess).le

theorem toOrdinal_lt_iff : a.toOrdinal < b.toOrdinal ↔ a < b := by
  refine ⟨fun h => ?_, toOrdinal_lt⟩
  by_contra hNot
  exact (toOrdinal_le (not_lt.mp hNot)).not_gt h

/-- The last day of the calendar. -/
def max : Date := ⟨9999, 12, 31, by decide⟩

theorem le_max (date : Date) : date ≤ max := by
  change date.year * 10000 + date.month * 100 + date.day ≤ 9999 * 10000 + 12 * 100 + 31
  obtain ⟨⟨-, hYear⟩, ⟨-, hMonth⟩, -, hDay⟩ := date.valid
  have hDays := hDay.trans (daysInMonth_le date.year date.month)
  omega

theorem toOrdinal_le_maxOrdinal (date : Date) : (date.toOrdinal : ℤ) ≤ maxOrdinal := by
  have hMax : (max.toOrdinal : ℤ) = maxOrdinal := by decide
  rw [← hMax]
  exact Int.ofNat_le.mpr (toOrdinal_le date.le_max)

end ProcureFoundation.Date
