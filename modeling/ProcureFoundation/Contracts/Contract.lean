import ProcureFoundation.Contracts.Calculations
import ProcureFoundation.Foundation.DecimalArithmetic

/-!
# Contracts

A stored contract expires after its start and has a renewal term when it renews itself, as the
checks of its table demand. In a session texts may have been set over its fields before the row is
written again.
-/

namespace ProcureFoundation.Contracts

open Outcome

/-- The organisation, the supplier, the currency, the source file and the author are left out. -/
structure ContractColumns where
  id : ℕ
  publicId : ℕ
  title : String
  contractNumber : Option String
  startDate : Date
  expiryDate : Date
  noticePeriodDays : ℤ
  autoRenew : Bool
  renewalTermMonths : Option ℤ
  paymentTermsDays : Option ℤ
  escalationType : String
  escalationRatePct : Option (Numeric 6)
  rebateTermsSummary : Option String
  slaTermsSummary : Option String
  minimumSpendCommitment : Option (Numeric 4)
  status : ContractStatus

structure ContractColumns.Checks (columns : ContractColumns) : Prop where
  expiryAfterStart : columns.startDate < columns.expiryDate
  autoRenewRequiresTerm : columns.autoRenew = true → columns.renewalTermMonths.isSome = true

instance (columns : ContractColumns) : Decidable columns.Checks :=
  decidable_of_iff (columns.startDate < columns.expiryDate ∧
    (columns.autoRenew = true → columns.renewalTermMonths.isSome = true)) ⟨fun h => ⟨h.1, h.2⟩,
    fun h => ⟨h.1, h.2⟩⟩

structure Contract extends ContractColumns where
  checks : toContractColumns.Checks

inductive PromotionField where
  | title
  | contractNumber
  | startDate
  | expiryDate
  | noticePeriodDays
  | autoRenew
  | renewalTermMonths
  | paymentTermsDays
  | escalationType
  | escalationRatePct
  | rebateTermsSummary
  | slaTermsSummary
  | minimumSpendCommitment
deriving DecidableEq

def PromotionField.name : PromotionField → String
  | .title => "title"
  | .contractNumber => "contract_number"
  | .startDate => "start_date"
  | .expiryDate => "expiry_date"
  | .noticePeriodDays => "notice_period_days"
  | .autoRenew => "auto_renew"
  | .renewalTermMonths => "renewal_term_months"
  | .paymentTermsDays => "payment_terms_days"
  | .escalationType => "escalation_type"
  | .escalationRatePct => "escalation_rate_pct"
  | .rebateTermsSummary => "rebate_terms_summary"
  | .slaTermsSummary => "sla_terms_summary"
  | .minimumSpendCommitment => "minimum_spend_commitment"

def allowedPromotionFields : List PromotionField :=
  [.title, .contractNumber, .startDate, .expiryDate, .noticePeriodDays, .autoRenew,
    .renewalTermMonths,
    .paymentTermsDays, .escalationType, .escalationRatePct, .rebateTermsSummary, .slaTermsSummary,
    .minimumSpendCommitment]

/-- A contract in a session: what was loaded of it, and the texts that have been set over its
fields. -/
structure SessionContract where
  columns : ContractColumns
  assigned : PromotionField → Option String

def ContractColumns.loaded (columns : ContractColumns) : SessionContract := ⟨columns, fun _ => none⟩

namespace SessionContract

def expiryDate (contract : SessionContract) : Except String Date :=
  if (contract.assigned .expiryDate).isSome then
    .error "unsupported operand type(s) for -: 'str' and 'datetime.timedelta'"
  else .ok contract.columns.expiryDate

def noticePeriodDays (contract : SessionContract) : Except String ℤ :=
  if (contract.assigned .noticePeriodDays).isSome then
    .error "'<' not supported between instances of 'str' and 'int'"
  else .ok contract.columns.noticePeriodDays

/-- The truth of the field; a text is true unless it is empty. -/
def autoRenew (contract : SessionContract) : Bool :=
  match contract.assigned .autoRenew with
  | some text => text != ""
  | none => contract.columns.autoRenew

end SessionContract

def refreshStatus (contract : SessionContract) (asOfDate : Date) :
    Except String SessionContract := do
  let noticePeriodDays ← contract.noticePeriodDays
  let expiryDate ← contract.expiryDate
  let deadline ← calculateNoticeDeadline expiryDate noticePeriodDays
  let status := classifyContractStatus asOfDate expiryDate deadline contract.autoRenew
  return { contract with columns := { contract.columns with status := status } }

theorem SessionContract.expiryDate_eq_ok {contract : SessionContract} {date : Date} :
    contract.expiryDate = .ok date ↔ contract.assigned .expiryDate = none ∧
      contract.columns.expiryDate = date := by
  cases hText : contract.assigned .expiryDate <;> simp [expiryDate, hText]

theorem SessionContract.noticePeriodDays_eq_ok {contract : SessionContract} {days : ℤ} :
    contract.noticePeriodDays = .ok days ↔
      contract.assigned .noticePeriodDays = none ∧ contract.columns.noticePeriodDays = days := by
  cases hText : contract.assigned .noticePeriodDays <;> simp [noticePeriodDays, hText]

/-- The status is refreshed when the expiry and the notice period are no texts and lead to a
deadline. -/
theorem refreshStatus_eq_ok {contract refreshed : SessionContract} {asOfDate : Date} :
    refreshStatus contract asOfDate = .ok refreshed ↔
      (contract.assigned .expiryDate = none ∧ contract.assigned .noticePeriodDays = none) ∧
        ∃ deadline, calculateNoticeDeadline contract.columns.expiryDate
          contract.columns.noticePeriodDays = .ok deadline ∧
          refreshed = { contract with columns := { contract.columns with
            status := classifyContractStatus asOfDate contract.columns.expiryDate deadline
              contract.autoRenew } } := by
  constructor
  · intro h
    obtain ⟨noticePeriodDays, hNotice, hAfterNotice⟩ := exists_of_bind_eq_ok h
    obtain ⟨expiryDate, hExpiry, hAfterExpiry⟩ := exists_of_bind_eq_ok hAfterNotice
    obtain ⟨deadline, hDeadline, hRefreshed⟩ := exists_of_bind_eq_ok hAfterExpiry
    obtain ⟨hNoticeText, rfl⟩ := SessionContract.noticePeriodDays_eq_ok.mp hNotice
    obtain ⟨hExpiryText, rfl⟩ := SessionContract.expiryDate_eq_ok.mp hExpiry
    exact ⟨⟨hExpiryText, hNoticeText⟩, deadline, hDeadline, (Except.ok.inj hRefreshed).symm⟩
  · rintro ⟨⟨hExpiryText, hNoticeText⟩, deadline, hDeadline, rfl⟩
    rw [refreshStatus,
      bind_of_eq_ok (SessionContract.noticePeriodDays_eq_ok.mpr ⟨hNoticeText, rfl⟩),
      bind_of_eq_ok (SessionContract.expiryDate_eq_ok.mpr ⟨hExpiryText, rfl⟩),
      bind_of_eq_ok hDeadline]
    rfl

structure DerivedFields where
  noticeDeadline : Date
  nextRenewalDate : Option Date
deriving DecidableEq

def getDerivedFields (contract : ContractColumns) : Except String DerivedFields := do
  let deadline ← calculateNoticeDeadline contract.expiryDate contract.noticePeriodDays
  let nextRenewal ← calculateNextRenewalDate contract.expiryDate contract.autoRenew
    contract.renewalTermMonths
  return { noticeDeadline := deadline, nextRenewalDate := nextRenewal }

end ProcureFoundation.Contracts
