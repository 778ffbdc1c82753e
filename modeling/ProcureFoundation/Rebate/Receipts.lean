import ProcureFoundation.Rebate.RoundedDifferences
import ProcureFoundation.Rebate.Service

/-!
# Receipts

A receipt changes the loaded period before anything else can raise, so a call is described by the
period it leaves in the session together with what it returns or raises. The evidence statuses
without an amount are listed in the CHECK of the migration, in the status refresh and in the leakage
result.
-/

namespace ProcureFoundation.Rebate

open Evidence ThreeValued Outcome

structure LeakageResult where
  leakage : Option Money
  status : String
  reasonCode : Option String
deriving DecidableEq

structure ReceiptCall where
  periodActual : RebatePeriodActual
  outcome : Except ServiceError LeakageResult

def rebateLeakage (expectedAmount receivedAmount : ℚ) : Except ServiceError Money :=
  match roundedDifference expectedAmount receivedAmount with
  | .ok (.number leakage) => .ok leakage
  | .ok .nan | .error _ => .error .invalidOperation

/-- The status refresh where an amount has been received. -/
def refreshStatusOnReceipt (periodActual : RebatePeriodActual) (receivedAmount : ℚ)
    (now : Timestamp) : Except ServiceError RebatePeriodActual :=
  if periodActual.expectedAmountStatus ∈ ["unknown", "legacy_unverified"] then
    .ok { periodActual with statusCalculatedAt := some now }
  else
    match periodActual.expectedAmount with
    | none => .error .invalidOperation
    | some expectedAmount => do
      let leakage ← rebateLeakage expectedAmount.value receivedAmount
      return { periodActual with
        status := if leakage.value ≤ 1 / 10000 then .reconciled else .leakageDetected
        statusCalculatedAt := some now }

def leakageResult (periodActual : RebatePeriodActual) (receivedAmount : ℚ) :
    Except ServiceError LeakageResult :=
  if periodActual.expectedAmountStatus ∈ ["unknown", "legacy_unverified"] then
    .ok ⟨none, "diagnostic", some "expected_amount_status_insufficient"⟩
  else
    match periodActual.expectedAmount with
    | none => .error .invalidOperation
    | some expectedAmount => do
      let leakage ← rebateLeakage expectedAmount.value receivedAmount
      return ⟨some leakage, "ok", none⟩

/-- The columns take 18 digits and no NUL. -/
def RebateReceiptRecord.storable (payload : RebateReceiptRecord) : Prop :=
  |(FixedPoint.assign 4 payload.receivedAmount).units| < 10 ^ 18 ∧
    Char.ofNat 0 ∉ payload.receivedReference.toList

instance (payload : RebateReceiptRecord) : Decidable payload.storable :=
  inferInstanceAs (Decidable (_ ∧ _))

def withReceipt (periodActual : RebatePeriodActual) (payload : RebateReceiptRecord) :
    RebatePeriodActual :=
  { periodActual with
    receivedAmount := some (FixedPoint.assign 4 payload.receivedAmount)
    receivedReference := some payload.receivedReference }

def recordReceiptCall (periodActual : RebatePeriodActual) (payload : RebateReceiptRecord)
    (now : Timestamp) : ReceiptCall :=
  match refreshStatusOnReceipt (withReceipt periodActual payload) payload.receivedAmount now with
  | .error e => ⟨withReceipt periodActual payload, .error e⟩
  | .ok refreshed =>
    match leakageResult refreshed payload.receivedAmount with
    | .error e => ⟨refreshed, .error e⟩
    | .ok result => ⟨refreshed, if payload.storable then .ok result else .error .database⟩

structure RebateReceiptRecord.Valid (payload : RebateReceiptRecord) : Prop where
  nonneg : 0 ≤ payload.receivedAmount
  minLength : 1 ≤ payload.receivedReference.length
  maxLength : payload.receivedReference.length ≤ 128

def usableEvidence : List String := ["estimated", "calculated", "confirmed"]

/-- The result compares with an expected amount that has evidence, and with none there is no figure.
-/
def LeakageResult.Expected (periodActual : RebatePeriodActual) (receivedAmount : ℚ)
    (result : LeakageResult) : Prop :=
  (∃ expectedAmount, periodActual.expectedAmount = some expectedAmount ∧
    periodActual.expectedAmountStatus ∈ usableEvidence ∧ result.status = "ok" ∧
    result.leakage = some (roundCurrency (contextRound (expectedAmount.value - receivedAmount)))) ∨
  ¬(periodActual.expectedAmount.isSome ∧ periodActual.expectedAmountStatus ∈ usableEvidence) ∧
    result.status = "diagnostic" ∧ result.leakage = none

structure ReceiptStored (periodActual : RebatePeriodActual) (payload : RebateReceiptRecord)
    (call : ReceiptCall) : Prop where
  receivedAmount : call.periodActual.receivedAmount =
    some (FixedPoint.assign 4 payload.receivedAmount)
  receivedReference : call.periodActual.receivedReference = some payload.receivedReference
  returned : ∃ result, call.outcome = .ok result ∧
    result.Expected periodActual payload.receivedAmount

variable {periodActual : RebatePeriodActual} {payload : RebateReceiptRecord} {now : Timestamp}

section Leakage

theorem rebateLeakage_eq_ok {expectedAmount receivedAmount : ℚ} {leakage : Money}
    (h : rebateLeakage expectedAmount receivedAmount = .ok leakage) :
    leakage = roundCurrency (contextRound (expectedAmount - receivedAmount)) := by
  unfold rebateLeakage at h
  split at h
  · rename_i amount hDifference
    obtain ⟨_, hAmount, rfl, -⟩ := roundedDifference_eq_ok hDifference
    cases hAmount
    exact (Except.ok.inj h).symm
  · cases h
  · cases h

/-- Amounts that fit their columns are far below the digits of the context. -/
theorem exists_rebateLeakage {expectedAmount : Money} {receivedAmount : ℚ}
    (hExpected : |expectedAmount.units| < 10 ^ 18)
    (hReceived : |(FixedPoint.assign 4 receivedAmount).units| < 10 ^ 18) :
    ∃ leakage, rebateLeakage expectedAmount.value receivedAmount = .ok leakage := by
  have hLeft : |expectedAmount.value| ≤ 10 ^ 14 := by
    have hUnits : (|expectedAmount.units| : ℚ) < 10 ^ 18 := by exact_mod_cast hExpected
    rw [FixedPoint.value, abs_div, abs_of_pos (by positivity : (0 : ℚ) < 10 ^ 4),
      div_le_iff₀ (by positivity)]
    linarith
  have hRight : |receivedAmount| ≤ 10 ^ 14 := by
    have hScaled := abs_roundHalfAway_lt_iff.mp hReceived
    rw [abs_mul, abs_of_pos (by positivity : (0 : ℚ) < 10 ^ 4)] at hScaled
    push_cast at hScaled
    linarith
  have hSmall : |expectedAmount.value - receivedAmount| ≤ (10 : ℚ) ^ (15 : ℤ) := by
    have hSum := abs_sub expectedAmount.value receivedAmount
    have hPower : (10 : ℚ) ^ 14 + 10 ^ 14 ≤ 10 ^ (15 : ℤ) := by norm_num
    exact hSum.trans ((add_le_add hLeft hRight).trans hPower)
  unfold rebateLeakage
  rw [roundedDifference_of_small hSmall]
  exact ⟨_, rfl⟩

end Leakage

/-- The CHECKs admit an amount exactly with four of the statuses. -/
theorem amount_cases (hRow : periodActual.rowAccepted) :
    periodActual.expectedAmountStatus ∈ ["unknown", "not_applicable"] ∧
      periodActual.expectedAmount = none ∨
    periodActual.expectedAmountStatus ∈ "legacy_unverified" :: usableEvidence ∧
      ∃ amount, periodActual.expectedAmount = some amount := by
  simp only [RebatePeriodActual.rowAccepted, Bool.and_eq_true] at hRow
  obtain ⟨⟨⟨-, hState⟩, -⟩, -⟩ := hRow
  simp only [ckRpaExpectedAmountStateCombination, passes_anyOf, List.any_cons, List.any_nil,
    passes_allOf, List.all_cons,
    passes_isNull, passes_isNotNull, isIn_some, equals_some, passes_some, Bool.or_eq_true,
    Bool.and_eq_true,
    decide_eq_true_iff, Option.isSome_iff_exists, Option.isNone_iff_eq_none] at hState
  obtain ⟨hStatus, hNone, -⟩ | ⟨hStatus, hSome, -⟩ | ⟨hStatus, hSome, -⟩ | ⟨hStatus, hSome,
    -⟩ | ⟨hStatus, hSome, -⟩ |
    hFalse := hState
  · exact .inl ⟨hStatus, hNone⟩
  · exact .inr ⟨by rw [hStatus]; decide, hSome⟩
  · exact .inr ⟨by rw [hStatus]; decide, hSome⟩
  · exact .inr ⟨by rw [hStatus]; decide, hSome⟩
  · exact .inr ⟨by rw [hStatus]; decide, hSome⟩
  · cases hFalse

theorem expectedAmount_fits (hRow : periodActual.rowAccepted) {amount : Money}
    (hAmount : periodActual.expectedAmount = some amount) : |amount.units| < 10 ^ 18 := by
  simp only [RebatePeriodActual.rowAccepted, Bool.and_eq_true] at hRow
  have hFits := hRow.1.2
  rw [hAmount, fitsNumeric, Option.all_some, decide_eq_true_iff] at hFits
  exact hFits

section Calls

/-- A call that returns has stored the receipt and refreshed the status. -/
theorem recordReceiptCall_returns {result : LeakageResult}
    (h : (recordReceiptCall periodActual payload now).outcome = .ok result) : payload.storable ∧
      ∃ refreshed, refreshStatusOnReceipt (withReceipt periodActual payload) payload.receivedAmount
        now = .ok refreshed := by
  unfold recordReceiptCall at h
  cases hRefresh : refreshStatusOnReceipt (withReceipt periodActual payload) payload.receivedAmount
    now with
  | error e =>
    rw [hRefresh] at h
    cases h
  | ok refreshed =>
    rw [hRefresh] at h
    refine ⟨?_, refreshed, rfl⟩
    by_contra hNot
    dsimp only at h
    cases hResult : leakageResult refreshed payload.receivedAmount with
    | error e =>
      rw [hResult] at h
      cases h
    | ok result =>
      rw [hResult] at h
      dsimp only at h
      rw [if_neg hNot] at h
      cases h

theorem recordReceiptCall_eq {refreshed : RebatePeriodActual} {result : LeakageResult}
    (hRefresh : refreshStatusOnReceipt (withReceipt periodActual payload) payload.receivedAmount
      now = .ok refreshed)
    (hResult : leakageResult refreshed payload.receivedAmount = .ok result)
    (hStorable : payload.storable) :
    recordReceiptCall periodActual payload now = ⟨refreshed, .ok result⟩ := by
  unfold recordReceiptCall
  rw [hRefresh]
  dsimp only
  rw [hResult]
  dsimp only
  rw [if_pos hStorable]

theorem not_usable_of_insufficient {status : String}
    (h : status ∈ ["unknown", "legacy_unverified"]) : status ∉ usableEvidence := by
  obtain rfl | rfl := List.mem_pair.mp h
  · decide
  · decide

theorem receiptStored_of_insufficient
    (hStatus : periodActual.expectedAmountStatus ∈ ["unknown", "legacy_unverified"])
    (hStorable : payload.storable) :
    ReceiptStored periodActual payload (recordReceiptCall periodActual payload now) := by
  have hRefresh : refreshStatusOnReceipt (withReceipt periodActual payload) payload.receivedAmount now =
      .ok { withReceipt periodActual payload with statusCalculatedAt := some now } := if_pos hStatus
  have hResult :
    leakageResult { withReceipt periodActual payload with statusCalculatedAt := some now }
      payload.receivedAmount =
        .ok ⟨none, "diagnostic", some "expected_amount_status_insufficient"⟩ := if_pos hStatus
  rw [recordReceiptCall_eq hRefresh hResult hStorable]
  exact ⟨rfl, rfl, _, rfl,
    .inr ⟨fun hUsable => not_usable_of_insufficient hStatus hUsable.2, rfl, rfl⟩⟩

theorem receiptStored_of_usable {expectedAmount : Money}
    (hStatus : periodActual.expectedAmountStatus ∈ usableEvidence)
    (hAmount : periodActual.expectedAmount = some expectedAmount)
    (hFits : |expectedAmount.units| < 10 ^ 18) (hStorable : payload.storable) :
    ReceiptStored periodActual payload (recordReceiptCall periodActual payload now) := by
  have hSufficient : periodActual.expectedAmountStatus ∉ ["unknown", "legacy_unverified"] :=
    fun hInsufficient => not_usable_of_insufficient hInsufficient hStatus
  obtain ⟨leakage, hLeakage⟩ := exists_rebateLeakage hFits hStorable.1
  have hRefresh : refreshStatusOnReceipt (withReceipt periodActual payload) payload.receivedAmount now =
      .ok { withReceipt periodActual payload with
        status := if leakage.value ≤ 1 / 10000 then .reconciled else .leakageDetected
        statusCalculatedAt := some now } := by
    refine (if_neg hSufficient).trans ?_
    change (match periodActual.expectedAmount with | none => _ | some _ => _) = _
    rw [hAmount]
    exact bind_of_eq_ok hLeakage _
  have hResult : leakageResult { withReceipt periodActual payload with
        status := if leakage.value ≤ 1 / 10000 then .reconciled else .leakageDetected
        statusCalculatedAt := some now } payload.receivedAmount = .ok ⟨some leakage, "ok",
        none⟩ := by
    refine (if_neg hSufficient).trans ?_
    change (match periodActual.expectedAmount with | none => _ | some _ => _) = _
    rw [hAmount]
    exact bind_of_eq_ok hLeakage _
  rw [recordReceiptCall_eq hRefresh hResult hStorable]
  exact ⟨rfl, rfl, _, rfl,
    .inl ⟨expectedAmount, hAmount, hStatus, rfl, congrArg some (rebateLeakage_eq_ok hLeakage)⟩⟩

end Calls

/-- A receipt is stored with its result exactly when the period may have an expected amount and the
columns take the receipt. -/
theorem receipt_stored_iff (hRow : periodActual.rowAccepted) (payload : RebateReceiptRecord)
    (now : Timestamp) :
    ReceiptStored periodActual payload (recordReceiptCall periodActual payload now) ↔
      periodActual.expectedAmountStatus ≠ "not_applicable" ∧ payload.storable := by
  constructor
  · rintro ⟨-, -, result, hReturned, -⟩
    obtain ⟨hStorable, refreshed, hRefresh⟩ := recordReceiptCall_returns hReturned
    refine ⟨?_, hStorable⟩
    intro hStatus
    obtain ⟨-, hNone⟩ | ⟨hOther, -⟩ := amount_cases hRow
    · have hSufficient : periodActual.expectedAmountStatus ∉ ["unknown", "legacy_unverified"] := by
        rw [hStatus]
        decide
      have hRaises : refreshStatusOnReceipt (withReceipt periodActual payload)
        payload.receivedAmount now =
          .error .invalidOperation := by
        refine (if_neg hSufficient).trans ?_
        change (match periodActual.expectedAmount with | none => _ | some _ => _) = _
        rw [hNone]
      rw [hRaises] at hRefresh
      cases hRefresh
    · rw [hStatus] at hOther
      exact absurd hOther (by decide)
  · rintro ⟨hStatus, hStorable⟩
    obtain ⟨hNone, -⟩ | ⟨hSome, amount, hAmount⟩ := amount_cases hRow
    · obtain hUnknown | hNot := List.mem_pair.mp hNone
      · exact receiptStored_of_insufficient (by rw [hUnknown]; decide) hStorable
      · exact absurd hNot hStatus
    · have hColumn := expectedAmount_fits hRow hAmount
      obtain hLegacy | hUsable := List.mem_cons.mp hSome
      · exact receiptStored_of_insufficient (by rw [hLegacy]; decide) hStorable
      · exact receiptStored_of_usable hUsable hAmount hColumn hStorable

section Samples

/-- A third quarter whose expected amount has the given evidence. -/
def thirdQuarter (status : String) (amount : Option Money) (basis : Option String) :
    RebatePeriodActual where
  id := 1
  organisationId := 1
  rebateAgreementId := 1
  periodStart := ⟨2026, 7, 1, by decide⟩
  periodEnd := ⟨2026, 9, 30, by decide⟩
  actualSpend := none
  actualVolume := none
  entrySource := .manual
  expectedAmount := amount
  expectedAmountStatus := status
  expectedAmountSourceBasis := basis
  expectedAmountCalculatedAt := none
  expectedAmountApprovedAt := none
  expectedAmountApprovedByUserId := none
  expectedAmountCurrentEventId := none
  earnedAmount := none
  earnedAt := none
  receivedAmount := none
  receivedReference := none
  status := .onTrack
  statusCalculatedAt := none

def creditNote : RebateReceiptRecord := ⟨750, "CN-2026-17"⟩

theorem estimate_receipt_stored :
    ReceiptStored (thirdQuarter "estimated" (some ⟨8000000⟩) (some "manual_estimate"))
    creditNote (recordReceiptCall
      (thirdQuarter "estimated" (some ⟨8000000⟩) (some "manual_estimate")) creditNote 0) := by
  exact (receipt_stored_iff (by decide) creditNote 0).mpr ⟨by decide, by decide +kernel⟩

/-- The call raises with the payment already in the loaded period. -/
theorem notApplicable_receipt_raises :
    (thirdQuarter "not_applicable" none none).rowAccepted ∧ creditNote.Valid ∧ creditNote.storable ∧
    (recordReceiptCall (thirdQuarter "not_applicable" none none) creditNote 0).outcome =
      .error .invalidOperation ∧
    (recordReceiptCall (thirdQuarter "not_applicable" none none) creditNote
      0).periodActual.receivedAmount = some ⟨7500000⟩ ∧
    ¬ReceiptStored (thirdQuarter "not_applicable" none none) creditNote
      (recordReceiptCall (thirdQuarter "not_applicable" none none) creditNote 0) := by
  have hRaises :
    (recordReceiptCall (thirdQuarter "not_applicable" none none) creditNote 0).outcome =
      .error .invalidOperation := by decide +kernel
  refine ⟨by decide, ⟨by decide +kernel, by decide, by decide⟩, by decide +kernel, hRaises, by decide +kernel, ?_⟩
  rintro ⟨-, -, result, hReturned, -⟩
  rw [hRaises] at hReturned
  cases hReturned

end Samples

end ProcureFoundation.Rebate
