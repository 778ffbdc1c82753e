import Mathlib.Algebra.Group.Basic
import Mathlib.Tactic.IntervalCases
import ProcureFoundation.Foundation.IsoDate

/-!
# Counting days

The days are numbered from the first one of year 1 to the last one of year 9999. Each number is
that of one date, so dates are moved by days through their numbers, and fail to move beyond
the first or the last day.
-/

namespace ProcureFoundation.Date

def maxOrdinal : ℤ := 3652059

def toOrdinal (date : Date) : ℕ := ymdToOrd date.year date.month date.day

def ofOrdinal (ordinal : ℤ) : Option Date :=
  if 1 ≤ ordinal ∧ ordinal ≤ maxOrdinal then
    let ymd := ordToYmd ordinal.toNat
    make ymd.1 ymd.2.1 ymd.2.2
  else none

/-- The date so many days earlier. -/
def subDays (date : Date) (days : ℤ) : Option Date := ofOrdinal (date.toOrdinal - days)

/-- How many days the second date is after the first. -/
def daysUntil (date other : Date) : ℤ := other.toOrdinal - date.toOrdinal

variable {year month n fuel : ℕ}

theorem daysBeforeMonth_succ (hMonth : 1 ≤ month) :
    daysBeforeMonth year (month + 1) = daysBeforeMonth year month + daysInMonth year month := by
  obtain ⟨before, rfl⟩ := Nat.exists_eq_add_of_le' hMonth
  rw [daysBeforeMonth, daysBeforeMonth, Nat.add_sub_cancel, Nat.add_sub_cancel, List.range_succ,
    List.map_append, List.sum_append, List.map_singleton, List.sum_singleton]

theorem daysBeforeMonth_december (year : ℕ) :
    daysBeforeMonth year 12 = 334 + if isLeap year = true then 1 else 0 := by
  cases hLeap : isLeap year <;> simp [daysBeforeMonth, daysInMonth, hLeap, List.range_succ]

theorem daysBeforeMonth_yearEnd (year : ℕ) :
    daysBeforeMonth year 13 = 365 + if isLeap year = true then 1 else 0 := by
  rw [daysBeforeMonth_succ (by norm_num), daysBeforeMonth_december]
  simp [daysInMonth]
  omega

/-- The search for a month ends at the day of it that the number stands for. -/
theorem monthDay_spec (hMonth : 1 ≤ month)
    (h : daysBeforeMonth year month + n < daysBeforeMonth year (month + fuel)) :
    (1 ≤ (monthDay year fuel month n).1 ∧ (monthDay year fuel month n).1 < month + fuel) ∧
      (1 ≤ (monthDay year fuel month n).2 ∧
        (monthDay year fuel month n).2 ≤ daysInMonth year (monthDay year fuel month n).1) ∧
        daysBeforeMonth year (monthDay year fuel month n).1 + (monthDay year fuel month n).2 =
          daysBeforeMonth year month + n + 1 := by
  induction fuel generalizing month n with
  | zero =>
    rw [Nat.add_zero] at h
    omega
  | succ fuel ih =>
    rw [monthDay]
    split
    · rename_i hDay
      exact ⟨⟨hMonth, by omega⟩, ⟨by omega, hDay⟩, rfl⟩
    · rename_i hLater
      have hNext := @daysBeforeMonth_succ year month hMonth
      have hStep := @ih (month + 1) (n - daysInMonth year month) (by omega) (by
        rw [Nat.add_right_comm, Nat.add_assoc month fuel 1]
        omega)
      obtain ⟨⟨hLow, hHigh⟩, hValid, hSum⟩ := hStep
      exact ⟨⟨hLow, by omega⟩, hValid, by omega⟩

theorem isLeap_iff : isLeap year = true ↔ year % 4 = 0 ∧ (year % 100 ≠ 0 ∨ year % 400 = 0) := by
  simp [isLeap]

/-- The parts of a number in 400 years, 100 years, four years, years and days. -/
structure Cycles (before a b c d r : ℕ) : Prop where
  parts : before / 146097 = a ∧ before % 146097 / 36524 = b ∧ before % 146097 % 36524 / 1461 = c ∧
    before % 146097 % 36524 % 1461 / 365 = d ∧ before % 146097 % 36524 % 1461 % 365 = r
  sum : before = 146097 * a + 36524 * b + 1461 * c + 365 * d + r
  days : r < 365
  cases : (b ≤ 3 ∧ c ≤ 24 ∧ d ≤ 3) ∨ (b ≤ 3 ∧ c ≤ 23 ∧ d = 4 ∧ r = 0) ∨
    (b = 4 ∧ c = 0 ∧ d = 0 ∧ r = 0)

theorem exists_cycles (before : ℕ) : ∃ a b c d r, Cycles before a b c d r := by
  refine ⟨_, _, _, _, _, ⟨rfl, rfl, rfl, rfl, rfl⟩, ?_, ?_, ?_⟩ <;> omega

theorem Cycles.years_le {before a b c d r : ℕ} (h : Cycles before a b c d r)
    (hBound : before ≤ 3652058) : 400 * a + 100 * b + 4 * c + d ≤ 9998 := by
  have hSum := h.sum
  have hA : a ≤ 24 := by omega
  obtain ⟨hB, hC, hD⟩ | ⟨hB, hC, rfl, -⟩ | ⟨rfl, rfl, rfl, -⟩ := h.cases
  · by_cases hLastCycle : a = 24 ∧ b = 3 ∧ c = 24
    · obtain ⟨rfl, rfl, rfl⟩ := hLastCycle
      omega
    · omega
  · omega
  · omega

theorem ordToYmd_of_cycles {ordinal a b c d r : ℕ} (h : Cycles (ordinal - 1) a b c d r) :
    ordToYmd ordinal = if d = 4 ∨ b = 4 then (400 * a + 100 * b + 4 * c + d, 12, 31)
    else (400 * a + 100 * b + 4 * c + d + 1,
      monthDay (400 * a + 100 * b + 4 * c + d + 1) 12 1 r) := by
  obtain ⟨hA, hB, hC, hD, hR⟩ := h.parts
  have hYear : a * 400 + 1 + b * 100 + c * 4 + d = 400 * a + 100 * b + 4 * c + d + 1 := by omega
  rw [ordToYmd, hA, hB, hC, hD, hR, hYear, Nat.add_sub_cancel]

theorem daysBeforeYear_of_cycles {a b c d : ℕ} (hB : b ≤ 3) (hC : c ≤ 24) (hD : d ≤ 3) :
    daysBeforeYear (400 * a + 100 * b + 4 * c + d + 1) = 146097 * a + 36524 * b + 1461 * c +
      365 * d := by
  have hFour : (400 * a + 100 * b + 4 * c + d) / 4 = 100 * a + 25 * b + c := by omega
  have hHundred : (400 * a + 100 * b + 4 * c + d) / 100 = 4 * a + b := by omega
  have hFourHundred : (400 * a + 100 * b + 4 * c + d) / 400 = a := by omega
  rw [daysBeforeYear, Nat.add_sub_cancel, hFour, hHundred, hFourHundred]
  omega

/-- The date of a number is valid and has that number. -/
theorem ordToYmd_spec {ordinal : ℕ} (hLow : 1 ≤ ordinal) (hHigh : ordinal ≤ 3652059) :
    ((1 ≤ (ordToYmd ordinal).1 ∧ (ordToYmd ordinal).1 ≤ 9999) ∧
      (1 ≤ (ordToYmd ordinal).2.1 ∧ (ordToYmd ordinal).2.1 ≤ 12) ∧ 1 ≤ (ordToYmd ordinal).2.2 ∧
        (ordToYmd ordinal).2.2 ≤ daysInMonth (ordToYmd ordinal).1 (ordToYmd ordinal).2.1) ∧
      ymdToOrd (ordToYmd ordinal).1 (ordToYmd ordinal).2.1 (ordToYmd ordinal).2.2 = ordinal := by
  obtain ⟨a, b, c, d, r, hCycles⟩ := exists_cycles (ordinal - 1)
  have hYears := hCycles.years_le (by omega)
  have hSum := hCycles.sum
  have hDays := hCycles.days
  rw [ordToYmd_of_cycles hCycles]
  split
  · -- the last day of a leap year
    rename_i hLast
    dsimp only
    obtain ⟨hB, hC, hD⟩ | ⟨hB, hC, rfl, rfl⟩ | ⟨rfl, rfl, rfl, rfl⟩ := hCycles.cases
    · omega
    · have hCentury : (400 * a + 100 * b + 4 * c + 4) % 100 = 4 * c + 4 := by omega
      have hLeap : isLeap (400 * a + 100 * b + 4 * c + 4) = true :=
        isLeap_iff.mpr ⟨by omega, .inl (by omega)⟩
      have hBefore := @daysBeforeYear_of_cycles a b c 3 hB (by omega) le_rfl
      refine ⟨⟨by omega, by norm_num, by norm_num, by simp [daysInMonth]⟩, ?_⟩
      rw [ymdToOrd, daysBeforeMonth_december, hLeap, if_pos rfl, hBefore]
      omega
    · have hLeap : isLeap (400 * a + 100 * 4 + 4 * 0 + 0) = true :=
        isLeap_iff.mpr ⟨by omega, .inr (by omega)⟩
      have hBefore := @daysBeforeYear_of_cycles a 3 24 3 le_rfl le_rfl le_rfl
      refine ⟨⟨by omega, by norm_num, by norm_num, by simp [daysInMonth]⟩, ?_⟩
      rw [ymdToOrd, daysBeforeMonth_december, hLeap, if_pos rfl,
        show 400 * a + 100 * 4 + 4 * 0 + 0 = 400 * a + 100 * 3 + 4 * 24 + 3 + 1 by omega, hBefore]
      omega
  · rename_i hNotLast
    dsimp only
    have hStart : daysBeforeMonth (400 * a + 100 * b + 4 * c + d + 1) 1 = 0 := rfl
    obtain ⟨hMonth, hDay, hMonthSum⟩ :=
      @monthDay_spec (400 * a + 100 * b + 4 * c + d + 1) 1 r 12 le_rfl (by
        rw [hStart, daysBeforeMonth_yearEnd]
        omega)
    refine ⟨⟨by omega, by omega, hDay⟩, ?_⟩
    obtain ⟨hB, hC, hD⟩ | hLast | hLast := hCycles.cases
    · rw [ymdToOrd, daysBeforeYear_of_cycles hB hC hD, Nat.add_assoc, hMonthSum, hStart]
      omega
    · omega
    · omega

theorem daysBeforeYear_succ (hYear : 1 ≤ year) :
    daysBeforeYear (year + 1) = daysBeforeYear year + 365 + if isLeap year = true then 1
      else 0 := by
  obtain ⟨before, rfl⟩ := Nat.exists_eq_add_of_le' hYear
  have hFour : (before + 1) / 4 = before / 4 + if 4 ∣ before + 1 then 1 else 0 := Nat.succ_div ..
  have hHundred : (before + 1) / 100 = before / 100 + if 100 ∣ before + 1 then 1 else 0 :=
    Nat.succ_div ..
  have hFourHundred : (before + 1) / 400 = before / 400 + if 400 ∣ before + 1 then 1 else 0 :=
    Nat.succ_div ..
  have hCentury : 100 * (before / 100) ≤ before := Nat.mul_div_le ..
  rw [daysBeforeYear, daysBeforeYear, Nat.add_sub_cancel, Nat.add_sub_cancel, hFour, hHundred,
    hFourHundred]
  by_cases h4 : 4 ∣ before + 1
  · by_cases h100 : 100 ∣ before + 1
    · by_cases h400 : 400 ∣ before + 1
      · rw [if_pos h4, if_pos h100, if_pos h400,
          if_pos (isLeap_iff.mpr ⟨Nat.mod_eq_zero_of_dvd h4, .inr (Nat.mod_eq_zero_of_dvd h400)⟩)]
        omega
      · have hNotLeap : ¬ isLeap (before + 1) = true := fun hLeap => (isLeap_iff.mp hLeap).2.elim
          (fun h => h (Nat.mod_eq_zero_of_dvd h100)) fun h => h400 (Nat.dvd_of_mod_eq_zero h)
        rw [if_pos h4, if_pos h100, if_neg h400, if_neg hNotLeap]
        omega
    · have h400 : ¬ 400 ∣ before + 1 := fun h => h100 (dvd_trans (by norm_num) h)
      rw [if_pos h4, if_neg h100, if_neg h400, if_pos (isLeap_iff.mpr ⟨Nat.mod_eq_zero_of_dvd h4,
        .inl fun h => h100 (Nat.dvd_of_mod_eq_zero h)⟩)]
      omega
  · have h100 : ¬ 100 ∣ before + 1 := fun h => h4 (dvd_trans (by norm_num) h)
    have h400 : ¬ 400 ∣ before + 1 := fun h => h4 (dvd_trans (by norm_num) h)
    have hNotLeap : ¬ isLeap (before + 1) = true :=
      fun hLeap => h4 (Nat.dvd_of_mod_eq_zero (isLeap_iff.mp hLeap).1)
    rw [if_neg h4, if_neg h100, if_neg h400, if_neg hNotLeap]
    omega

theorem ymdToOrd_nextMonth (hMonth : 1 ≤ month) :
    ymdToOrd year (month + 1) 1 = ymdToOrd year month 1 + daysInMonth year month := by
  have hStep := @daysBeforeMonth_succ year month hMonth
  rw [ymdToOrd, ymdToOrd]
  omega

theorem ymdToOrd_nextYear (hYear : 1 ≤ year) :
    ymdToOrd (year + 1) 1 1 = ymdToOrd year 12 1 + daysInMonth year 12 := by
  have hEnd := daysBeforeYear_succ hYear
  have hLastMonth := daysBeforeMonth_december year
  have hFirstMonth : daysBeforeMonth (year + 1) 1 = 0 := rfl
  have hDays : daysInMonth year 12 = 31 := rfl
  rw [ymdToOrd, ymdToOrd, hDays]
  omega

theorem exists_ofOrdinal {ordinal : ℤ} (hLow : 1 ≤ ordinal) (hHigh : ordinal ≤ maxOrdinal) :
    ∃ date, ofOrdinal ordinal = some date ∧ (date.toOrdinal : ℤ) = ordinal := by
  obtain ⟨number, rfl⟩ := Int.eq_ofNat_of_zero_le (by omega : 0 ≤ ordinal)
  rw [maxOrdinal] at hHigh
  obtain ⟨hValid, hNumber⟩ := @ordToYmd_spec number (by omega) (by omega)
  refine ⟨⟨_, _, _, hValid⟩, ?_, congrArg Nat.cast hNumber⟩
  rw [ofOrdinal, if_pos ⟨hLow, hHigh⟩, Int.toNat_natCast]
  exact dif_pos hValid

theorem of_ofOrdinal {ordinal : ℤ} {date : Date} (h : ofOrdinal ordinal = some date) :
    (1 ≤ ordinal ∧ ordinal ≤ maxOrdinal) ∧ (date.toOrdinal : ℤ) = ordinal := by
  have hRange : 1 ≤ ordinal ∧ ordinal ≤ maxOrdinal := by
    unfold ofOrdinal at h
    split at h
    · rename_i hRange
      exact hRange
    · exact nomatch h
  obtain ⟨other, hOther, hNumber⟩ := exists_ofOrdinal hRange.1 hRange.2
  obtain rfl := Option.some.inj (h.symm.trans hOther)
  exact ⟨hRange, hNumber⟩

end ProcureFoundation.Date
