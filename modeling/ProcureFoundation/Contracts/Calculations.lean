import ProcureFoundation.Foundation.DayOrder
import ProcureFoundation.Foundation.FixedPoint
import ProcureFoundation.Foundation.Outcomes

/-!
# Contract calculations

The deadline for giving notice, the next renewal, the status of a contract and the alerts that
are due on a day. Moving a date beyond the calendar raises.
-/

namespace ProcureFoundation.Contracts

open Outcome

inductive ContractStatus where
  | active
  | noticePeriodOpen
  | expiringSoon
  | expired
  | autoRenewing
deriving DecidableEq

/-- What an alert is about: a number of days before the expiry, or the day the notice window closes.
-/
inductive AlertType where
  | expiry (threshold : ℕ)
  | noticeDeadline
deriving DecidableEq

def defaultAlertThresholdsDays : List ℕ := [180, 90, 60, 30]

def calculateNoticeDeadline (expiryDate : Date) (noticePeriodDays : ℤ) : Except String Date :=
  if noticePeriodDays < 0 then .error "notice_period_days cannot be negative"
  else
    match expiryDate.subDays noticePeriodDays with
    | some deadline => .ok deadline
    | none => .error "date value out of range"

def dateOf (year month day : ℕ) : Except String Date :=
  match Date.make year month day with
  | some date => .ok date
  | none => .error "date is out of range"

/-- The days of a month, counted up to the first day of the next one. -/
def daysInMonth (year month : ℕ) : Except String ℕ := do
  let next ← if month = 12 then dateOf (year + 1) 1 1 else dateOf year (month + 1) 1
  let first ← dateOf year month 1
  return next.toOrdinal - first.toOrdinal

def addMonths (base : Date) (months : ℕ) : Except String Date := do
  let monthIndex := base.month - 1 + months
  let year := base.year + monthIndex / 12
  let month := monthIndex % 12 + 1
  let days ← daysInMonth year month
  dateOf year month (min base.day days)

def calculateNextRenewalDate (expiryDate : Date) (autoRenew : Bool) (renewalTermMonths : Option ℤ) :
    Except String (Option Date) :=
  if !autoRenew then .ok none
  else if renewalTermMonths.getD 0 ≤ 0 then
    .error "auto_renew=True requires a positive renewal_term_months"
  else (addMonths expiryDate (renewalTermMonths.getD 0).toNat).map some

def classifyContractStatus (today expiryDate noticeDeadline : Date) (autoRenew : Bool)
    (expiringSoonThresholdDays : ℤ := 90) : ContractStatus :=
  if expiryDate < today then .expired
  else if noticeDeadline < today then (if autoRenew then .autoRenewing else .noticePeriodOpen)
  else if today.daysUntil expiryDate ≤ expiringSoonThresholdDays then .expiringSoon
  else .active

def determineDueAlerts (today expiryDate noticeDeadline : Date) (alreadyFired : List AlertType)
    (thresholdsDays : List ℕ) : List AlertType :=
  let daysToExpiry := today.daysUntil expiryDate
  let crossed := (thresholdsDays.mergeSort fun a b => decide (b ≤ a)).filter fun threshold : ℕ =>
    decide (daysToExpiry ≤ (threshold : ℤ)) && decide (.expiry threshold ∉ alreadyFired)
  crossed.map .expiry ++
    if today = noticeDeadline ∧ .noticeDeadline ∉ alreadyFired then [.noticeDeadline] else []

variable {expiryDate deadline base : Date} {noticePeriodDays : ℤ} {year month months : ℕ}

theorem calculateNoticeDeadline_eq_ok :
    calculateNoticeDeadline expiryDate noticePeriodDays = .ok deadline ↔
    0 ≤ noticePeriodDays ∧ expiryDate.subDays noticePeriodDays = some deadline := by
  unfold calculateNoticeDeadline
  split
  · rename_i hNegative
    exact iff_of_false (fun h => nomatch h) fun h => not_lt.mpr h.1 hNegative
  · rename_i hNonneg
    split
    · rename_i found hFound
      rw [hFound, Except.ok.injEq, Option.some.injEq, and_iff_right (not_lt.mp hNonneg)]
    · rename_i hNone
      rw [hNone]
      exact iff_of_false (fun h => nomatch h) fun h => nomatch h.2

/-- The deadline is the notice period before the expiry. -/
theorem toOrdinal_noticeDeadline
    (h : calculateNoticeDeadline expiryDate noticePeriodDays = .ok deadline) :
    (deadline.toOrdinal : ℤ) = expiryDate.toOrdinal - noticePeriodDays :=
  (Date.of_ofOrdinal (calculateNoticeDeadline_eq_ok.mp h).2).2

/-- There is a deadline unless the notice period is negative or begins before the calendar. -/
theorem exists_noticeDeadline_iff :
    (∃ deadline, calculateNoticeDeadline expiryDate noticePeriodDays = .ok deadline) ↔
    0 ≤ noticePeriodDays ∧ noticePeriodDays < expiryDate.toOrdinal := by
  constructor
  · rintro ⟨deadline, h⟩
    obtain ⟨hNonneg, hDeadline⟩ := calculateNoticeDeadline_eq_ok.mp h
    have hFirst := (Date.of_ofOrdinal hDeadline).1.1
    exact ⟨hNonneg, by omega⟩
  · rintro ⟨hNonneg, hBefore⟩
    have hLast := expiryDate.toOrdinal_le_maxOrdinal
    obtain ⟨deadline, hDeadline, -⟩ :=
      @Date.exists_ofOrdinal (expiryDate.toOrdinal - noticePeriodDays)
        (by omega) (by omega)
    exact ⟨deadline, calculateNoticeDeadline_eq_ok.mpr ⟨hNonneg, hDeadline⟩⟩

theorem dateOf_of_valid {year month day : ℕ}
    (h : (1 ≤ year ∧ year ≤ 9999) ∧ (1 ≤ month ∧ month ≤ 12) ∧ 1 ≤ day ∧
    day ≤ ProcureFoundation.daysInMonth year month) : dateOf year month day = .ok ⟨year, month, day,
    h⟩ := by
  rw [dateOf, Date.make, dif_pos h]

theorem dateOf_of_lastYear {year month day : ℕ} (h : 9999 < year) :
    dateOf year month day = .error "date is out of range" := by
  rw [dateOf, Date.make, dif_neg fun hValid => not_le.mpr h hValid.1.2]

theorem one_le_daysInMonth (year month : ℕ) : 1 ≤ ProcureFoundation.daysInMonth year month := by
  unfold ProcureFoundation.daysInMonth
  split_ifs <;> omega

theorem daysInMonth_of_before (hYear : 1 ≤ year) (hMonth : 1 ≤ month ∧ month ≤ 12)
    (h : 12 * year + month < 12 * 9999 + 12) :
    daysInMonth year month = .ok (ProcureFoundation.daysInMonth year month) := by
  have hFirst :=
    @dateOf_of_valid year month 1 ⟨⟨hYear, by omega⟩, hMonth, le_rfl, one_le_daysInMonth year month⟩
  by_cases hDecember : month = 12
  · subst hDecember
    have hNext := @dateOf_of_valid (year + 1) 1 1
      ⟨⟨by omega, by omega⟩, ⟨le_rfl, by norm_num⟩, le_rfl, one_le_daysInMonth (year + 1) 1⟩
    rw [daysInMonth, if_pos rfl, bind_of_eq_ok hNext]
    dsimp only
    rw [bind_of_eq_ok hFirst]
    refine congrArg Except.ok ?_
    exact Nat.sub_eq_of_eq_add' (Date.ymdToOrd_nextYear hYear)
  · have hNext := @dateOf_of_valid year (month + 1) 1
      ⟨⟨hYear, by omega⟩, ⟨by omega, by omega⟩, le_rfl, one_le_daysInMonth year (month + 1)⟩
    rw [daysInMonth, if_neg hDecember, bind_of_eq_ok hNext]
    dsimp only
    rw [bind_of_eq_ok hFirst]
    refine congrArg Except.ok ?_
    exact Nat.sub_eq_of_eq_add' (Date.ymdToOrd_nextMonth hMonth.1)

theorem daysInMonth_of_beyond (hMonth : month ≤ 12) (h : 12 * 9999 + 12 ≤ 12 * year + month) :
    daysInMonth year month = .error "date is out of range" := by
  by_cases hDecember : month = 12
  · rw [daysInMonth, if_pos hDecember, dateOf_of_lastYear (by omega)]
    rfl
  · rw [daysInMonth, if_neg hDecember, dateOf_of_lastYear (by omega)]
    rfl

/-- Months can be added up to November of the year 9999. -/
theorem addMonths_returns : (∃ date, addMonths base months = .ok date) ↔
    12 * base.year + base.month + months < 12 * 9999 + 12 := by
  have hYear := base.valid.1.1
  have hMonth := base.valid.2.1.1
  have hIndex := Nat.div_add_mod (base.month - 1 + months) 12
  have hBound := Nat.mod_lt (base.month - 1 + months) (by norm_num : 0 < 12)
  unfold addMonths
  dsimp only
  by_cases hBefore : 12 * base.year + base.month + months < 12 * 9999 + 12
  · rw [bind_of_eq_ok (daysInMonth_of_before (by omega) ⟨by omega, by omega⟩ (by omega))]
    have hDay := base.valid.2.2.1
    exact iff_of_true ⟨_, dateOf_of_valid ⟨⟨by omega, by omega⟩, ⟨by omega, by omega⟩,
      le_min hDay (one_le_daysInMonth _ _), min_le_right _ _⟩⟩ hBefore
  · rw [daysInMonth_of_beyond (by omega) (by omega)]
    exact iff_of_false (fun ⟨_, h⟩ => nomatch h) hBefore

end ProcureFoundation.Contracts
