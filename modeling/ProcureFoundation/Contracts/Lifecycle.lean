import ProcureFoundation.Contracts.Contract

/-!
# The lifecycle of a contract

As the days go by a contract is active, expires soon, is past its deadline for notice, and has
expired, in this order, whatever the terms; stages can be left out. Past the deadline it is renewed
or open, by one term for all days.
-/

namespace ProcureFoundation.Contracts

open Outcome

def isNoticeWindowOpen (today noticeDeadline expiryDate : Date) : Bool :=
  decide (today ≤ noticeDeadline) && decide (today ≤ expiryDate)

structure ContractTerms where
  expiryDate : Date
  noticePeriodDays : ℤ
  autoRenew : Bool
  expiringSoonThresholdDays : ℤ

def ContractTerms.statusOn (terms : ContractTerms) (today : Date) :
    Except String ContractStatus := do
  let deadline ← calculateNoticeDeadline terms.expiryDate terms.noticePeriodDays
  return classifyContractStatus today terms.expiryDate deadline terms.autoRenew
    terms.expiringSoonThresholdDays

def ContractStatus.stage : ContractStatus → ℕ
  | .active => 0
  | .expiringSoon => 1
  | .noticePeriodOpen => 2
  | .autoRenewing => 2
  | .expired => 3

section Stages

variable {expiryDate deadline today later : Date} {autoRenew : Bool} {threshold : ℤ}

theorem daysUntil_anti (h : today ≤ later) :
    later.daysUntil expiryDate ≤ today.daysUntil expiryDate := by
  have hDays : (today.toOrdinal : ℤ) ≤ later.toOrdinal := Int.ofNat_le.mpr (Date.toOrdinal_le h)
  unfold Date.daysUntil
  omega

theorem stage_mono (h : today ≤ later) :
    (classifyContractStatus today expiryDate deadline autoRenew threshold).stage ≤
    (classifyContractStatus later expiryDate deadline autoRenew threshold).stage := by
  have hLate : ∀ renew : Bool,
      (if renew then ContractStatus.autoRenewing else .noticePeriodOpen).stage = 2 := by
    intro renew
    cases renew with
    | true => rfl
    | false => rfl
  unfold classifyContractStatus
  by_cases hExpired : expiryDate < later
  · rw [if_pos hExpired]
    split
    · exact le_rfl
    · split
      · rw [hLate]
        exact Nat.le_succ 2
      · split
        · exact Nat.le_add_left 1 2
        · exact Nat.zero_le 3
  · rw [if_neg hExpired, if_neg fun hEarlier => hExpired (hEarlier.trans_le h)]
    by_cases hPast : deadline < later
    · rw [if_pos hPast, hLate]
      split
      · rw [hLate]
      · split
        · exact Nat.le_succ 1
        · exact Nat.zero_le 2
    · rw [if_neg hPast, if_neg fun hEarlier => hPast (hEarlier.trans_le h)]
      by_cases hSoon : today.daysUntil expiryDate ≤ threshold
      · rw [if_pos hSoon, if_pos ((daysUntil_anti h).trans hSoon)]
      · rw [if_neg hSoon]
        exact Nat.zero_le _

theorem classify_eq_expired_iff :
    classifyContractStatus today expiryDate deadline autoRenew threshold = .expired ↔
      expiryDate < today := by
  unfold classifyContractStatus
  split
  · rename_i hExpired
    exact iff_of_true rfl hExpired
  · rename_i hNot
    refine iff_of_false (fun h => ?_) hNot
    split at h
    · cases autoRenew <;> cases h
    · split at h <;> cases h

theorem classify_open_iff : classifyContractStatus today expiryDate deadline autoRenew threshold =
    .active ∨ classifyContractStatus today expiryDate deadline autoRenew threshold = .expiringSoon ↔
      isNoticeWindowOpen today deadline expiryDate = true := by
  unfold classifyContractStatus isNoticeWindowOpen
  rw [Bool.and_eq_true, decide_eq_true_eq, decide_eq_true_eq]
  split
  · rename_i hExpired
    refine iff_of_false ?_ fun hOpen => hExpired.not_ge hOpen.2
    rintro (h | h) <;> cases h
  · rename_i hNotExpired
    split
    · rename_i hPast
      refine iff_of_false ?_ fun hOpen => hPast.not_ge hOpen.1
      cases autoRenew <;> rintro (h | h) <;> cases h
    · rename_i hNotPast
      refine iff_of_true ?_ ⟨not_lt.mp hNotPast, not_lt.mp hNotExpired⟩
      split
      · exact .inr rfl
      · exact .inl rfl

theorem classify_ne_of_autoRenew :
    (autoRenew = false → classifyContractStatus today expiryDate deadline autoRenew threshold ≠
      .autoRenewing) ∧
    (autoRenew = true → classifyContractStatus today expiryDate deadline autoRenew threshold ≠
      .noticePeriodOpen) := by
  unfold classifyContractStatus
  constructor
  · rintro rfl h
    split at h
    · cases h
    · split at h
      · cases h
      · split at h <;> cases h
  · rintro rfl h
    split at h
    · cases h
    · split at h
      · cases h
      · split at h <;> cases h

end Stages

/-- The stages of a contract over its days. -/
structure Lifecycle (terms : ContractTerms) (deadline : Date) (status : Date → ContractStatus) :
    Prop where
  deadlineDays : (deadline.toOrdinal : ℤ) = terms.expiryDate.toOrdinal - terms.noticePeriodDays
  forward : ∀ today later, today ≤ later → (status today).stage ≤ (status later).stage
  expired : ∀ today, status today = .expired ↔ terms.expiryDate < today
  window : ∀ today, status today = .active ∨ status today = .expiringSoon ↔
    isNoticeWindowOpen today deadline terms.expiryDate = true
  oneEnd : ¬((∃ today, status today = .autoRenewing) ∧ ∃ today, status today = .noticePeriodOpen)

/-- A contract has a status on every day or, for want of a deadline, on none, and with a status it
only moves forward. -/
theorem lifecycle_moves_forward (terms : ContractTerms) :
    (∃ deadline status, calculateNoticeDeadline terms.expiryDate terms.noticePeriodDays =
      .ok deadline ∧
      (∀ today, terms.statusOn today = .ok (status today)) ∧ Lifecycle terms deadline status) ∨
    (∃ message, calculateNoticeDeadline terms.expiryDate terms.noticePeriodDays = .error message ∧
      ∀ today, terms.statusOn today = .error message) ∧
      (terms.noticePeriodDays < 0 ∨ (terms.expiryDate.toOrdinal : ℤ) ≤ terms.noticePeriodDays) := by
  cases hDeadline : calculateNoticeDeadline terms.expiryDate terms.noticePeriodDays with
  | error message =>
    refine .inr ⟨⟨message, rfl, fun today => ?_⟩, ?_⟩
    · rw [ContractTerms.statusOn, hDeadline]
      rfl
    · by_contra hNeither
      obtain ⟨hNonneg, hBefore⟩ := not_or.mp hNeither
      obtain ⟨deadline, hOk⟩ := exists_noticeDeadline_iff.mpr ⟨not_lt.mp hNonneg, not_le.mp hBefore⟩
      rw [hDeadline] at hOk
      cases hOk
  | ok deadline =>
    refine .inl ⟨deadline, fun today =>
      classifyContractStatus today terms.expiryDate deadline terms.autoRenew
      terms.expiringSoonThresholdDays, rfl, fun today => ?_, ?_⟩
    · rw [ContractTerms.statusOn, hDeadline]
      rfl
    · refine ⟨toOrdinal_noticeDeadline hDeadline, fun today later h => stage_mono h, fun today =>
        classify_eq_expired_iff, fun today => classify_open_iff, ?_⟩
      rintro ⟨⟨today, hRenewing⟩, ⟨other, hOpen⟩⟩
      cases hRenew : terms.autoRenew with
      | false => exact classify_ne_of_autoRenew.1 hRenew hRenewing
      | true => exact classify_ne_of_autoRenew.2 hRenew hOpen

end ProcureFoundation.Contracts
