import ProcureFoundation.Contracts.Promotion
import ProcureFoundation.Foundation.EveryStep

/-!
# Validity of contracts under promotion

The rules for new contracts relate several fields, a promotion sets some of them. No text reaches
the dates, the notice period, the renewal or the payment terms. The rules can break where the
escalation becomes one of a fixed percentage without a rate, and the fields derived from a contract
fail when its renewal is beyond the calendar.
-/

namespace ProcureFoundation.Contracts

open Outcome

structure ContractColumns.Valid (contract : ContractColumns) : Prop where
  expiryAfterStart : contract.startDate < contract.expiryDate
  noticePeriod : 0 ≤ contract.noticePeriodDays
  renewalTerm : contract.autoRenew = true → ∃ months, contract.renewalTermMonths = some months ∧
    0 < months
  rate : contract.escalationType = "fixed_percentage" → contract.escalationRatePct.isSome = true

/-- A valid contract on which nothing that is calculated from it raises. -/
structure Sound (contract : ContractColumns) : Prop where
  valid : contract.Valid
  refreshes : ∀ asOfDate, ∃ refreshed, refreshStatus contract.loaded asOfDate = .ok refreshed
  derives : ∃ fields, getDerivedFields contract = .ok fields
  checksAlerts : ∀ alerts asOfDate, ∃ result, runAlertCheck alerts contract asOfDate = .ok result

structure PromotionCall where
  userId : ℕ
  extraction : ContractExtraction
  fieldNames : List String
  asOfDate : Date

def PromotionCall.texts (call : PromotionCall) : PromotionField → Option String :=
  promotable call.extraction.extractedFields call.fieldNames

def PromotionCall.run (driver : Driver) (contract : Contract) (call : PromotionCall) :
    Except String (Contract × ContractExtraction) :=
  promoteExtractionFields driver call.userId call.extraction contract call.fieldNames call.asOfDate

/-- A call that raises is rolled back. -/
def PromotionCall.after (driver : Driver) (contract : Contract) (call : PromotionCall) : Contract :=
  match call.run driver contract with
  | .ok result => result.1
  | .error _ => contract

/-- The contract that the call commits, if it commits one, is sound. -/
def StaysSound (driver : Driver) (contract : Contract) (call : PromotionCall) : Prop :=
  ∀ result, call.run driver contract = .ok result → Sound result.1.toContractColumns

/-- The columns to which a text can be written, and the texts that they take. -/
def Driver.Accepts (driver : Driver) : PromotionField → String → Prop
  | .title, text => textFits 255 (some text) = true
  | .contractNumber, text => textFits 64 (some text) = true
  | .escalationType, text => textFits 32 (some text) = true
  | .rebateTermsSummary, text | .slaTermsSummary, text => textFits 2048 (some text) = true
  | .escalationRatePct, text => ∃ rate, driver.rate text = .ok rate
  | .minimumSpendCommitment, text => ∃ amount, driver.amount text = .ok amount
  | .startDate, _ | .expiryDate, _ | .noticePeriodDays, _ | .autoRenew, _ | .renewalTermMonths, _
  | .paymentTermsDays, _ => False

structure GoesThrough (driver : Driver) (contract : ContractColumns) (call : PromotionCall) :
    Prop where
  verified : call.extraction.verificationStatus = "human_verified"
  selectable : Selectable call.extraction.extractedFields call.fieldNames
  accepted : ∀ field text, call.texts field = some text → driver.Accepts field text
  deadline : ∃ deadline, calculateNoticeDeadline contract.expiryDate contract.noticePeriodDays =
    .ok deadline

/-- The months up to the renewal and those of the term stay within the calendar. -/
def RenewalInCalendar (contract : ContractColumns) : Prop :=
  contract.autoRenew = true →
    12 * contract.expiryDate.year + contract.expiryDate.month +
      (contract.renewalTermMonths.getD 0).toNat < 12 * 9999 + 12

/-- A call that goes through leaves a rate where it leaves an escalation of a fixed percentage, on a
contract whose renewal is a date. -/
def KeepsTerms (driver : Driver) (contract : Contract) (call : PromotionCall) : Prop :=
  GoesThrough driver contract.toContractColumns call →
    ((call.texts .escalationType).getD contract.escalationType = "fixed_percentage" →
      contract.escalationRatePct.isSome = true ∨ (call.texts .escalationRatePct).isSome = true) ∧
        RenewalInCalendar contract.toContractColumns

section Columns

variable {α : Type} {write : String → Except String α} {current value : α} {text : Option String}
  {length : ℕ}

theorem nullable_eq_ok {text : String} {stored : Option α} : nullable write text = .ok stored ↔
    ∃ written, write text = .ok written ∧ stored = some written := by
  unfold nullable
  cases hWrite : write text with
  | error message => exact iff_of_false (fun h => nomatch h) fun ⟨_, h, _⟩ => nomatch h
  | ok written =>
    constructor
    · intro h
      exact ⟨written, rfl, (Except.ok.inj h).symm⟩
    · rintro ⟨_, hWritten, rfl⟩
      rw [← Except.ok.inj hWritten]
      rfl

theorem nullable_refuses (h : ∀ text, ∃ message, write text = .error message) :
    ∀ text, ∃ message, nullable write text = .error message := by
  intro text
  obtain ⟨message, hMessage⟩ := h text
  refine ⟨message, ?_⟩
  rw [nullable, hMessage]
  rfl

/-- A column that refuses texts is written only when none has been set over its field. -/
theorem writeColumn_refused (h : ∀ text, ∃ message, write text = .error message) :
    writeColumn write current text = .ok value ↔ text = none ∧ value = current := by
  cases text with
  | none =>
    rw [writeColumn, Except.ok.injEq, eq_comm]
    exact (and_iff_right rfl).symm
  | some text =>
    obtain ⟨message, hMessage⟩ := h text
    rw [writeColumn, hMessage]
    exact iff_of_false (fun h => nomatch h) fun h => nomatch h.1

theorem exists_writeColumn (h : ∀ given, text = some given → ∃ written, write given = .ok written) :
    ∃ written, writeColumn write current text = .ok written := by
  cases text with
  | none => exact ⟨current, rfl⟩
  | some given => exact h given rfl

theorem exists_writeColumn_varchar {current : String}
    (h : ∀ given, text = some given → textFits length (some given) = true) :
    ∃ written, writeColumn (writeVarchar length) current text = .ok written :=
  exists_writeColumn fun given hGiven => ⟨_, writeVarchar_eq_ok.mpr ⟨h given hGiven, rfl⟩⟩

theorem exists_writeColumn_nullable {current : Option α}
    (h : ∀ given, text = some given → ∃ written, write given = .ok written) :
    ∃ written, writeColumn (nullable write) current text = .ok written := by
  refine exists_writeColumn fun given hGiven => ?_
  obtain ⟨written, hWritten⟩ := h given hGiven
  exact ⟨some written, nullable_eq_ok.mpr ⟨written, hWritten, rfl⟩⟩

theorem fits_of_writeColumn {current value given : String}
    (h : writeColumn (writeVarchar length) current (some given) = .ok value) :
    textFits length (some given) = true := (writeVarchar_eq_ok.mp h).1

theorem converts_of_writeColumn {current value : Option α} {given : String}
    (h : writeColumn (nullable write) current (some given) = .ok value) :
    ∃ written, write given = .ok written := by
  obtain ⟨written, hWritten, -⟩ := nullable_eq_ok.mp h
  exact ⟨written, hWritten⟩

theorem fits_of_writeColumn_nullable {current value : Option String} {given : String}
    (h : writeColumn (nullable (writeVarchar length)) current (some given) = .ok value) :
    textFits length (some given) = true := by
  obtain ⟨written, hWritten⟩ := converts_of_writeColumn h
  exact (writeVarchar_eq_ok.mp hWritten).1

theorem isSome_of_writeColumn {current value : Option α}
    (h : writeColumn (nullable write) current text = .ok value) :
    value.isSome = true ↔ current.isSome = true ∨ text.isSome = true := by
  cases text with
  | none =>
    rw [← Except.ok.inj h]
    simp
  | some given =>
    obtain ⟨written, -, rfl⟩ := nullable_eq_ok.mp h
    simp

end Columns

section Promotions

variable {driver : Driver} {contract : SessionContract} {written : ContractColumns}

/-- What the rules and the derived fields read of a contract after texts have been written to it. -/
structure Promoted (contract : ContractColumns) (texts : PromotionField → Option String)
    (after : ContractColumns) : Prop where
  startDate : after.startDate = contract.startDate
  expiryDate : after.expiryDate = contract.expiryDate
  noticePeriodDays : after.noticePeriodDays = contract.noticePeriodDays
  autoRenew : after.autoRenew = contract.autoRenew
  renewalTermMonths : after.renewalTermMonths = contract.renewalTermMonths
  escalationType : after.escalationType = "fixed_percentage" ↔
    (texts .escalationType).getD contract.escalationType = "fixed_percentage"
  rate : after.escalationRatePct.isSome = true ↔
    contract.escalationRatePct.isSome = true ∨ (texts .escalationRatePct).isSome = true

theorem Written.promoted (hDriver : driver.Strict) (h : Written driver contract written) :
    Promoted contract.columns contract.assigned written where
  startDate := ((writeColumn_refused hDriver.date).mp h.startDate).2
  expiryDate := ((writeColumn_refused hDriver.date).mp h.expiryDate).2
  noticePeriodDays := ((writeColumn_refused hDriver.integer).mp h.noticePeriodDays).2
  autoRenew := ((writeColumn_refused hDriver.boolean).mp h.autoRenew).2
  renewalTermMonths :=
    ((writeColumn_refused (nullable_refuses hDriver.integer)).mp h.renewalTermMonths).2
  escalationType := by
    have hWritten := h.escalationType
    cases hText : contract.assigned .escalationType with
    | none =>
      rw [hText] at hWritten
      rw [← Except.ok.inj hWritten]
      rfl
    | some text =>
      rw [hText] at hWritten
      rw [(writeVarchar_eq_ok.mp hWritten).2, cutVarchar_eq (by decide)]
      rfl
  rate := isSome_of_writeColumn h.escalationRatePct

theorem Written.accepts (hDriver : driver.Strict) (h : Written driver contract written)
    {field : PromotionField} {text : String} (hText : contract.assigned field = some text) :
    driver.Accepts field text := by
  cases field with
  | title => exact fits_of_writeColumn (hText ▸ h.title)
  | contractNumber => exact fits_of_writeColumn_nullable (hText ▸ h.contractNumber)
  | startDate =>
    exact nomatch hText.symm.trans ((writeColumn_refused hDriver.date).mp h.startDate).1
  | expiryDate =>
    exact nomatch hText.symm.trans ((writeColumn_refused hDriver.date).mp h.expiryDate).1
  | noticePeriodDays =>
    exact nomatch hText.symm.trans ((writeColumn_refused hDriver.integer).mp h.noticePeriodDays).1
  | autoRenew =>
    exact nomatch hText.symm.trans ((writeColumn_refused hDriver.boolean).mp h.autoRenew).1
  | renewalTermMonths =>
    exact nomatch hText.symm.trans
      ((writeColumn_refused (nullable_refuses hDriver.integer)).mp h.renewalTermMonths).1
  | paymentTermsDays =>
    exact nomatch hText.symm.trans
      ((writeColumn_refused (nullable_refuses hDriver.integer)).mp h.paymentTermsDays).1
  | escalationType => exact fits_of_writeColumn (hText ▸ h.escalationType)
  | escalationRatePct => exact converts_of_writeColumn (hText ▸ h.escalationRatePct)
  | rebateTermsSummary => exact fits_of_writeColumn_nullable (hText ▸ h.rebateTermsSummary)
  | slaTermsSummary => exact fits_of_writeColumn_nullable (hText ▸ h.slaTermsSummary)
  | minimumSpendCommitment => exact converts_of_writeColumn (hText ▸ h.minimumSpendCommitment)

theorem exists_written (h : ∀ field text, contract.assigned field = some text →
    driver.Accepts field text) : ∃ written, Written driver contract written := by
  have hColumns : ∃ written, writeColumns driver contract = .ok written := by
    refine exists_bind (exists_writeColumn_varchar fun text hText => h .title text hText) fun title => ?_
    refine exists_bind (exists_writeColumn_nullable fun text hText =>
      ⟨_, writeVarchar_eq_ok.mpr ⟨h .contractNumber text hText, rfl⟩⟩) fun contractNumber => ?_
    refine exists_bind (exists_writeColumn fun text hText => (h .startDate text hText).elim)
      fun startDate => ?_
    refine exists_bind (exists_writeColumn fun text hText => (h .expiryDate text hText).elim)
      fun expiryDate => ?_
    refine exists_bind (exists_writeColumn fun text hText => (h .noticePeriodDays text hText).elim)
      fun notice => ?_
    refine exists_bind (exists_writeColumn fun text hText => (h .autoRenew text hText).elim)
      fun autoRenew => ?_
    refine exists_bind (exists_writeColumn fun text hText => (h .renewalTermMonths text hText).elim)
      fun renewal => ?_
    refine exists_bind (exists_writeColumn fun text hText => (h .paymentTermsDays text hText).elim)
      fun payment => ?_
    refine exists_bind (exists_writeColumn_varchar fun text hText => h .escalationType text hText)
      fun escalation => ?_
    refine exists_bind
      (exists_writeColumn_nullable fun text hText => h .escalationRatePct text hText) fun rate => ?_
    refine exists_bind (exists_writeColumn_nullable fun text hText =>
      ⟨_, writeVarchar_eq_ok.mpr ⟨h .rebateTermsSummary text hText, rfl⟩⟩) fun rebate => ?_
    refine exists_bind (exists_writeColumn_nullable fun text hText =>
      ⟨_, writeVarchar_eq_ok.mpr ⟨h .slaTermsSummary text hText, rfl⟩⟩) fun sla => ?_
    refine exists_bind
      (exists_writeColumn_nullable fun text hText => h .minimumSpendCommitment text hText)
      fun commitment => ?_
    exact ⟨_, rfl⟩
  obtain ⟨written, hWritten⟩ := hColumns
  exact ⟨written, writeColumns_eq_ok.mp hWritten⟩

end Promotions

section Validity

variable {driver : Driver} {contract : Contract} {columns after : ContractColumns}
  {call : PromotionCall} {texts : PromotionField → Option String}
  {result : Contract × ContractExtraction}

theorem calculateNextRenewalDate_returns (h : columns.Valid) :
    (∃ date, calculateNextRenewalDate columns.expiryDate columns.autoRenew
      columns.renewalTermMonths = .ok date) ↔ RenewalInCalendar columns := by
  unfold calculateNextRenewalDate RenewalInCalendar
  cases hRenew : columns.autoRenew with
  | false => exact iff_of_true ⟨none, rfl⟩ fun h => nomatch h
  | true =>
    obtain ⟨months, hMonths, hPositive⟩ := h.renewalTerm hRenew
    have hTerm : ¬ columns.renewalTermMonths.getD 0 ≤ 0 := by
      rw [hMonths]
      exact not_le.mpr hPositive
    rw [if_neg (by decide), if_neg hTerm]
    refine Iff.trans ?_ (forall_prop_of_true rfl).symm
    rw [← addMonths_returns]
    constructor
    · rintro ⟨renewal, hDate⟩
      cases hMonth : addMonths columns.expiryDate (columns.renewalTermMonths.getD 0).toNat with
      | error message => exact nomatch hMonth ▸ hDate
      | ok date => exact ⟨date, rfl⟩
    · rintro ⟨date, hDate⟩
      rw [hDate]
      exact ⟨some date, rfl⟩

theorem sound_iff : Sound columns ↔ columns.Valid ∧
    (∃ deadline, calculateNoticeDeadline columns.expiryDate columns.noticePeriodDays =
      .ok deadline) ∧ RenewalInCalendar columns := by
  constructor
  · intro h
    obtain ⟨fields, hFields⟩ := h.derives
    obtain ⟨deadline, hDeadline, hRest⟩ := exists_of_bind_eq_ok hFields
    obtain ⟨renewal, hRenewal, -⟩ := exists_of_bind_eq_ok hRest
    exact ⟨h.valid, ⟨deadline, hDeadline⟩,
      (calculateNextRenewalDate_returns h.valid).mp ⟨renewal, hRenewal⟩⟩
  · rintro ⟨hValid, ⟨deadline, hDeadline⟩, hRenewal⟩
    refine ⟨hValid, fun asOfDate => ?_, ?_, fun alerts asOfDate => ?_⟩
    · exact ⟨_, refreshStatus_eq_ok.mpr ⟨⟨rfl, rfl⟩, deadline, hDeadline, rfl⟩⟩
    · obtain ⟨renewal, hDate⟩ := (calculateNextRenewalDate_returns hValid).mpr hRenewal
      rw [getDerivedFields, bind_of_eq_ok hDeadline, bind_of_eq_ok hDate]
      exact ⟨_, rfl⟩
    · obtain ⟨next, newAlerts, hNext, -⟩ :=
        @runAlertCheck_adds columns alerts deadline asOfDate hDeadline
      exact ⟨_, hNext⟩

theorem Promoted.checks (h : Promoted columns texts after) (hChecks : columns.Checks) :
    after.Checks := by
  refine ⟨?_, ?_⟩
  · rw [h.startDate, h.expiryDate]
    exact hChecks.expiryAfterStart
  · rw [h.autoRenew, h.renewalTermMonths]
    exact hChecks.autoRenewRequiresTerm

theorem Promoted.valid_iff (h : Promoted columns texts after) (hValid : columns.Valid) :
    after.Valid ↔ ((texts .escalationType).getD columns.escalationType = "fixed_percentage" →
      columns.escalationRatePct.isSome = true ∨ (texts .escalationRatePct).isSome = true) := by
  constructor
  · intro hAfter hFixed
    exact h.rate.mp (hAfter.rate (h.escalationType.mpr hFixed))
  · intro hRate
    refine ⟨?_, ?_, ?_, fun hFixed => h.rate.mpr (hRate (h.escalationType.mp hFixed))⟩
    · rw [h.startDate, h.expiryDate]
      exact hValid.expiryAfterStart
    · rw [h.noticePeriodDays]
      exact hValid.noticePeriod
    · rw [h.autoRenew, h.renewalTermMonths]
      exact hValid.renewalTerm

theorem Promoted.sound_iff (h : Promoted columns texts after) (hValid : columns.Valid)
    (hDeadline : ∃ deadline, calculateNoticeDeadline columns.expiryDate columns.noticePeriodDays =
      .ok deadline) :
    Sound after ↔ ((texts .escalationType).getD columns.escalationType = "fixed_percentage" →
      columns.escalationRatePct.isSome = true ∨ (texts .escalationRatePct).isSome = true) ∧
        RenewalInCalendar columns := by
  have hRenewal : RenewalInCalendar after ↔ RenewalInCalendar columns := by
    rw [RenewalInCalendar, RenewalInCalendar, h.autoRenew, h.expiryDate, h.renewalTermMonths]
  rw [Contracts.sound_iff, h.valid_iff hValid, hRenewal, h.expiryDate, h.noticePeriodDays,
    and_iff_right hDeadline]

theorem promoted_of_run (hDriver : driver.Strict) (h : call.run driver contract = .ok result) :
    Promoted contract.toContractColumns call.texts result.1.toContractColumns := by
  obtain ⟨-, ⟨refreshed, hRefreshed, hWritten⟩, -⟩ := promoteExtractionFields_eq_ok.mp h
  obtain ⟨-, deadline, -, rfl⟩ := refreshStatus_eq_ok.mp hRefreshed
  obtain ⟨hStart, hExpiry, hNotice, hRenew, hTerm, hEscalation, hRate⟩ := hWritten.promoted hDriver
  exact ⟨hStart, hExpiry, hNotice, hRenew, hTerm, hEscalation, hRate⟩

/-- With a driver that takes no text for a date, an integer or a truth value, a call commits exactly
when it goes through. -/
theorem run_returns_iff (hDriver : driver.Strict) :
    (∃ result, call.run driver contract = .ok result) ↔
    GoesThrough driver contract.toContractColumns call := by
  constructor
  · rintro ⟨result, hRun⟩
    obtain ⟨⟨hVerified, hSelectable⟩, ⟨refreshed, hRefreshed, hWritten⟩, -⟩ :=
      promoteExtractionFields_eq_ok.mp hRun
    obtain ⟨-, deadline, hDeadline, rfl⟩ := refreshStatus_eq_ok.mp hRefreshed
    exact ⟨hVerified, hSelectable, fun field text hText => hWritten.accepts hDriver hText, deadline,
      hDeadline⟩
  · intro h
    obtain ⟨deadline, hDeadline⟩ := h.deadline
    have hExpiry : call.texts .expiryDate = none :=
      Option.eq_none_iff_forall_not_mem.mpr fun text hText => h.accepted .expiryDate text hText
    have hNotice : call.texts .noticePeriodDays = none :=
      Option.eq_none_iff_forall_not_mem.mpr fun text hText =>
        h.accepted .noticePeriodDays text hText
    obtain ⟨refreshed, hRefreshed, hTexts, hChecks⟩ : ∃ refreshed,
        refreshStatus ⟨contract.toContractColumns, call.texts⟩ call.asOfDate = .ok refreshed ∧
          refreshed.assigned = call.texts ∧ refreshed.columns.Checks :=
      ⟨_, refreshStatus_eq_ok.mpr ⟨⟨hExpiry, hNotice⟩, deadline, hDeadline, rfl⟩, rfl,
        contract.checks.expiryAfterStart, contract.checks.autoRenewRequiresTerm⟩
    obtain ⟨written, hWritten⟩ :=
      exists_written fun field text hText => h.accepted field text (hTexts ▸ hText)
    exact ⟨(⟨written, (hWritten.promoted hDriver).checks hChecks⟩, _),
      promoteExtractionFields_eq_ok.mpr
      ⟨⟨h.verified, h.selectable⟩, ⟨refreshed, hRefreshed, hWritten⟩, rfl⟩⟩

theorem staysSound_iff (hDriver : driver.Strict) (hValid : contract.Valid) :
    StaysSound driver contract call ↔ KeepsTerms driver contract call := by
  constructor
  · intro hSound hThrough
    obtain ⟨result, hRun⟩ := (run_returns_iff hDriver).mpr hThrough
    exact ((promoted_of_run hDriver hRun).sound_iff hValid hThrough.deadline).mp (hSound result hRun)
  · intro hKeeps result hRun
    have hThrough := (run_returns_iff hDriver).mp ⟨result, hRun⟩
    exact ((promoted_of_run hDriver hRun).sound_iff hValid hThrough.deadline).mpr (hKeeps hThrough)

theorem valid_after (hValid : contract.Valid) (h : StaysSound driver contract call) :
    (call.after driver contract).Valid := by
  unfold PromotionCall.after
  cases hRun : call.run driver contract with
  | error message => exact hValid
  | ok result => exact (h result hRun).valid

/-- In every run of promotions from a valid contract, the commits leave sound contracts exactly when
the calls keep the terms together. -/
theorem promotions_sound_iff (hDriver : driver.Strict) (hValid : contract.Valid)
    (calls : List PromotionCall) :
    EveryStep (fun contract call => call.after driver contract) (StaysSound driver) contract calls ↔
      EveryStep (fun contract call => call.after driver contract)
      (KeepsTerms driver) contract calls :=
  @EveryStep.congr_of_inv _ _ _ _ _ (fun contract => contract.Valid) _ _
    (fun _ _ hValid => staysSound_iff hDriver hValid)
      (fun _ _ hValid hSound => valid_after hValid hSound) hValid

end Validity

/-- The number that a text stands for, in a numeric column. -/
def writeNumeric (precision scale : ℕ) (text : String) : Except String (Numeric scale) :=
  match Decimal.ofString text with
  | none => .error "invalid input for query argument"
  | some number => Numeric.assign precision scale number

def typedDriver : Driver where
  date _ := .error "invalid input for query argument"
  integer _ := .error "invalid input for query argument"
  boolean _ := .error "Not a boolean value"
  rate := writeNumeric 9 6
  amount := writeNumeric 18 4

theorem typedDriver_strict : typedDriver.Strict :=
  ⟨fun _ => ⟨_, rfl⟩, fun _ => ⟨_, rfl⟩, fun _ => ⟨_, rfl⟩⟩

def cocoaContract : Contract := ⟨cocoaColumns, by decide⟩

theorem cocoaContract_valid : cocoaContract.Valid :=
  ⟨by decide, by decide, (fun h => nomatch h), fun h => absurd h (by decide)⟩

/-- A verified extraction of the document of contract 1, where the type of the escalation was read
and its rate was not. -/
def escalationExtraction : ContractExtraction where
  id := 1
  contractId := some 1
  extractedFields name := if name = "escalation_type" then some ⟨some "fixed_percentage"⟩ else none
  verificationStatus := "human_verified"
  verifiedByUserId := some 1

def escalationCall : PromotionCall :=
  ⟨1, escalationExtraction, ["escalation_type"], dayAfterDeadline⟩

theorem cocoa_promotions_sound_iff :
    EveryStep (fun contract call => call.after typedDriver contract)
    (StaysSound typedDriver) cocoaContract
        [escalationCall] ↔
      EveryStep (fun contract call => call.after typedDriver contract)
      (KeepsTerms typedDriver) cocoaContract
        [escalationCall] :=
  promotions_sound_iff typedDriver_strict cocoaContract_valid [escalationCall]

theorem rateless_escalation_promoted : ∃ result, escalationCall.run typedDriver cocoaContract =
    .ok result ∧ ¬ result.1.Valid := by
  obtain ⟨result, hRun, hTerms⟩ := exists_of_any (by decide :
    (escalationCall.run typedDriver cocoaContract).toOption.any (fun result =>
      result.1.escalationType == "fixed_percentage" && result.1.escalationRatePct.isNone) = true)
  rw [Bool.and_eq_true, beq_iff_eq, Option.isNone_iff_eq_none] at hTerms
  refine ⟨result, hRun, fun hValid => ?_⟩
  have hRate := hValid.rate hTerms.1
  rw [hTerms.2] at hRate
  exact nomatch hRate

end ProcureFoundation.Contracts
