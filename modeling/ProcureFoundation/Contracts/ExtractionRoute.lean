import ProcureFoundation.Contracts.ContractValidity
import ProcureFoundation.Foundation.KeyedRows

/-!
# Verification of extractions

The route looks the contract and the extraction up independently of each other. What it promotes
comes from the contract's own document exactly when its callers name an extraction of that contract,
or one that belongs to none.
-/

namespace ProcureFoundation.Contracts

open Outcome KeyedRows

/-- The contracts and extractions that an organisation sees. -/
structure ContractStore where
  contracts : List Contract
  extractions : List ContractExtraction
  contractIds : (contracts.map fun contract => contract.id).Nodup
  publicIds : (contracts.map fun contract => contract.publicId).Nodup
  extractionIds : (extractions.map ContractExtraction.id).Nodup

def ContractStore.update (store : ContractStore) (contract : Contract)
    (extraction : ContractExtraction) : Except String ContractStore :=
  if h : ((replace (fun contract => contract.id) contract store.contracts).map fun contract =>
    contract.publicId).Nodup then
    .ok {
      contracts := replace (fun contract => contract.id) contract store.contracts
      extractions := replace ContractExtraction.id extraction store.extractions
      contractIds := by
        rw [map_key_replace]
        exact store.contractIds
      publicIds := h
      extractionIds := by
        rw [map_key_replace]
        exact store.extractionIds }
  else .error "duplicate key value violates unique constraint"

def getContract (store : ContractStore) (publicId : ℕ) : Except String Contract :=
  match lookup (fun contract : Contract => contract.publicId) store.contracts publicId with
  | some contract => .ok contract
  | none => .error "Contract not found"

def getExtraction (store : ContractStore) (extractionId : ℕ) : Except String ContractExtraction :=
  match lookup ContractExtraction.id store.extractions extractionId with
  | some extraction => .ok extraction
  | none => .error "Extraction not found"

structure VerifyCall where
  contractPublicId : ℕ
  extractionId : ℕ
  userId : ℕ
  fieldNamesToPromote : List String
  asOfDate : Date

def VerifyCall.promotion (call : VerifyCall) (extraction : ContractExtraction) : PromotionCall :=
  ⟨call.userId, extraction, call.fieldNamesToPromote, call.asOfDate⟩

/-- The store as it is committed and the fields derived for the response, which may still raise. -/
def verifyContractExtraction (driver : Driver) (store : ContractStore) (call : VerifyCall) :
    Except String (ContractStore × Except String DerivedFields) := do
  if call.fieldNamesToPromote = [] then
    throw "List should have at least 1 item after validation, not 0"
  let contract ← getContract store call.contractPublicId
  let extraction ← getExtraction store call.extractionId
  let updated ← promoteExtractionFields driver call.userId extraction contract
    call.fieldNamesToPromote call.asOfDate
  let committed ← store.update updated.1 updated.2
  return (committed, getDerivedFields updated.1.toContractColumns)

/-- A call that raises before the commit is rolled back. -/
def VerifyCall.after (driver : Driver) (store : ContractStore) (call : VerifyCall) :
    ContractStore :=
  match verifyContractExtraction driver store call with
  | .ok result => result.1
  | .error _ => store

/-- A value of a column that can be promoted. -/
inductive FieldValue where
  | text (value : Option String)
  | date (value : Date)
  | integer (value : Option ℤ)
  | boolean (value : Bool)
  | rate (value : Option (Numeric 6))
  | amount (value : Option (Numeric 4))
deriving DecidableEq

def ContractColumns.get (columns : ContractColumns) : PromotionField → FieldValue
  | .title => .text (some columns.title)
  | .contractNumber => .text columns.contractNumber
  | .startDate => .date columns.startDate
  | .expiryDate => .date columns.expiryDate
  | .noticePeriodDays => .integer (some columns.noticePeriodDays)
  | .autoRenew => .boolean columns.autoRenew
  | .renewalTermMonths => .integer columns.renewalTermMonths
  | .paymentTermsDays => .integer columns.paymentTermsDays
  | .escalationType => .text (some columns.escalationType)
  | .escalationRatePct => .rate columns.escalationRatePct
  | .rebateTermsSummary => .text columns.rebateTermsSummary
  | .slaTermsSummary => .text columns.slaTermsSummary
  | .minimumSpendCommitment => .amount columns.minimumSpendCommitment

/-- The value that a text stands for in the column of a field. -/
def Driver.value (driver : Driver) : PromotionField → String → Except String FieldValue
  | .title, text => (writeVarchar 255 text).map fun value => .text (some value)
  | .contractNumber, text => (writeVarchar 64 text).map fun value => .text (some value)
  | .startDate, text | .expiryDate, text => (driver.date text).map .date
  | .noticePeriodDays, text | .renewalTermMonths, text | .paymentTermsDays, text =>
    (driver.integer text).map fun value => .integer (some value)
  | .autoRenew, text => (driver.boolean text).map .boolean
  | .escalationType, text => (writeVarchar 32 text).map fun value => .text (some value)
  | .escalationRatePct, text => (driver.rate text).map fun value => .rate (some value)
  | .rebateTermsSummary, text | .slaTermsSummary, text => (writeVarchar 2048 text).map fun value =>
    .text (some value)
  | .minimumSpendCommitment, text => (driver.amount text).map fun value => .amount (some value)

/-- The fields with a text hold its value, the other fields what they held before. -/
structure SetsFields (driver : Driver) (texts : PromotionField → Option String)
    (before after : ContractColumns) : Prop where
  promoted : ∀ field text, texts field = some text → driver.value field text = .ok (after.get field)
  kept : ∀ field, texts field = none → after.get field = before.get field

/-- Where a call changes a field of a contract, it was called on this contract and on an extraction
that a person had verified and that belongs to no other contract, and it sets the requested fields
that the extraction contains and no others; no other contract changes. -/
structure FromOwnDocument (driver : Driver) (store : ContractStore) (call : VerifyCall)
    (before after : Contract) : Prop where
  contract : before.publicId = call.contractPublicId
  extraction : ∃ extraction ∈ store.extractions, extraction.id = call.extractionId ∧
    extraction.verificationStatus = "human_verified" ∧
      (extraction.contractId = none ∨ extraction.contractId = some before.id) ∧
        SetsFields driver (call.promotion extraction).texts before.toContractColumns
          after.toContractColumns
  others : ∀ other ∈ store.contracts, other ≠ before → other ∈ (call.after driver store).contracts

def ChangesFromOwnDocument (driver : Driver) (store : ContractStore) (call : VerifyCall) : Prop :=
  ∀ before ∈ store.contracts, ∀ after ∈ (call.after driver store).contracts, after.id = before.id →
    (∃ field, after.get field ≠ before.get field) → FromOwnDocument driver store call before after

/-- A call that goes through with a text for another value than the contract holds names an
extraction of that contract or of none. -/
def NamesOwnExtraction (driver : Driver) (store : ContractStore) (call : VerifyCall) : Prop :=
  call.fieldNamesToPromote ≠ [] →
    ∀ contract ∈ store.contracts, contract.publicId = call.contractPublicId →
      ∀ extraction ∈ store.extractions, extraction.id = call.extractionId →
        GoesThrough driver contract.toContractColumns (call.promotion extraction) →
          (∃ field text, (call.promotion extraction).texts field = some text ∧
            driver.value field text ≠ .ok (contract.get field)) →
            extraction.contractId = none ∨ extraction.contractId = some contract.id

section Fields

variable {α : Type} {driver : Driver} {contract : SessionContract} {written : ContractColumns}
  {write : String → Except String α} {text : Option String}

theorem writeColumn_sets (wrap : α → FieldValue) {current value : α}
    (h : writeColumn write current text = .ok value) :
    (∀ given, text = some given → (write given).map wrap = .ok (wrap value)) ∧
      (text = none → wrap value = wrap current) := by
  constructor
  · rintro given rfl
    rw [show write given = .ok value from h]
    rfl
  · rintro rfl
    rw [Except.ok.inj h]

theorem writeColumn_nullable_sets (wrap : Option α → FieldValue) {current value : Option α}
    (h : writeColumn (nullable write) current text = .ok value) :
    (∀ given, text = some given → (write given).map (fun written => wrap (some written)) =
      .ok (wrap value)) ∧ (text = none → wrap value = wrap current) := by
  refine ⟨?_, (writeColumn_sets wrap h).2⟩
  rintro given rfl
  obtain ⟨stored, hStored, rfl⟩ := nullable_eq_ok.mp h
  rw [hStored]
  rfl

theorem Written.setsField (h : Written driver contract written) (field : PromotionField) :
    (∀ text, contract.assigned field = some text →
      driver.value field text = .ok (written.get field)) ∧
      (contract.assigned field = none → written.get field = contract.columns.get field) := by
  cases field with
  | title => exact writeColumn_sets (fun value => .text (some value)) h.title
  | contractNumber => exact writeColumn_nullable_sets .text h.contractNumber
  | startDate => exact writeColumn_sets .date h.startDate
  | expiryDate => exact writeColumn_sets .date h.expiryDate
  | noticePeriodDays =>
    exact writeColumn_sets (fun value => .integer (some value)) h.noticePeriodDays
  | autoRenew => exact writeColumn_sets .boolean h.autoRenew
  | renewalTermMonths => exact writeColumn_nullable_sets .integer h.renewalTermMonths
  | paymentTermsDays => exact writeColumn_nullable_sets .integer h.paymentTermsDays
  | escalationType => exact writeColumn_sets (fun value => .text (some value)) h.escalationType
  | escalationRatePct => exact writeColumn_nullable_sets .rate h.escalationRatePct
  | rebateTermsSummary => exact writeColumn_nullable_sets .text h.rebateTermsSummary
  | slaTermsSummary => exact writeColumn_nullable_sets .text h.slaTermsSummary
  | minimumSpendCommitment => exact writeColumn_nullable_sets .amount h.minimumSpendCommitment

end Fields

section Steps

variable {driver : Driver} {store committed : ContractStore} {call : VerifyCall}
  {contract stored : Contract} {extraction verified : ContractExtraction}
  {response : Except String DerivedFields}

theorem getContract_eq_ok : getContract store call.contractPublicId = .ok contract ↔
    contract ∈ store.contracts ∧ contract.publicId = call.contractPublicId := by
  rw [← lookup_eq_some store.publicIds, getContract]
  split
  · rename_i found hFound
    rw [hFound, Except.ok.injEq, Option.some.injEq]
  · rename_i hNone
    rw [hNone]
    exact iff_of_false (fun h => nomatch h) fun h => nomatch h

theorem getExtraction_eq_ok : getExtraction store call.extractionId = .ok extraction ↔
    extraction ∈ store.extractions ∧ extraction.id = call.extractionId := by
  rw [← lookup_eq_some store.extractionIds, getExtraction]
  split
  · rename_i found hFound
    rw [hFound, Except.ok.injEq, Option.some.injEq]
  · rename_i hNone
    rw [hNone]
    exact iff_of_false (fun h => nomatch h) fun h => nomatch h

/-- A promotion keeps the identifiers of the contract and sets the fields that are asked for. -/
theorem setsFields_of_run {call : PromotionCall} {result : Contract × ContractExtraction}
    (h : call.run driver contract = .ok result) :
    (result.1.id = contract.id ∧ result.1.publicId = contract.publicId) ∧
      SetsFields driver call.texts contract.toContractColumns result.1.toContractColumns := by
  obtain ⟨-, ⟨refreshed, hRefreshed, hWritten⟩, -⟩ := promoteExtractionFields_eq_ok.mp h
  obtain ⟨-, deadline, -, rfl⟩ := refreshStatus_eq_ok.mp hRefreshed
  refine ⟨⟨hWritten.others.1, hWritten.others.2.1⟩, fun field => (hWritten.setsField field).1,
    fun field hText => ?_⟩
  rw [(hWritten.setsField field).2 hText]
  cases field <;> rfl

theorem update_eq_ok (hContract : contract ∈ store.contracts) (hId : stored.id = contract.id)
    (hPublicId : stored.publicId = contract.publicId) :
    ∃ committed, store.update stored verified = .ok committed ∧
      committed.contracts = replace (fun contract => contract.id) stored store.contracts := by
  have hPublicIds : ((replace (fun contract => contract.id) stored store.contracts).map
      fun contract => contract.publicId).Nodup := by
    rw [map_replace fun old hOld hKey => ?_]
    · exact store.publicIds
    · rw [eq_of_key_eq store.contractIds hOld hContract (hKey.trans hId), hPublicId]
  exact ⟨_, dif_pos hPublicIds, rfl⟩

/-- What a call commits: it names a contract and an extraction, and the promotion goes through. -/
theorem verify_eq_ok (h : verifyContractExtraction driver store call = .ok (committed, response)) :
    call.fieldNamesToPromote ≠ [] ∧ ∃ contract ∈ store.contracts,
      contract.publicId = call.contractPublicId ∧
      ∃ extraction ∈ store.extractions, extraction.id = call.extractionId ∧
        ∃ result, (call.promotion extraction).run driver contract = .ok result ∧
          committed.contracts = replace (fun contract => contract.id) result.1 store.contracts := by
  unfold verifyContractExtraction at h
  split at h
  · exact nomatch h
  · rename_i hNames
    obtain ⟨contract, hContract, hAfterContract⟩ := exists_of_bind_eq_ok h
    obtain ⟨extraction, hExtraction, hAfterExtraction⟩ := exists_of_bind_eq_ok hAfterContract
    obtain ⟨result, hRun, hAfterRun⟩ := exists_of_bind_eq_ok hAfterExtraction
    obtain ⟨updated, hUpdated, hCommitted⟩ := exists_of_bind_eq_ok hAfterRun
    obtain ⟨hMem, hPublicId⟩ := getContract_eq_ok.mp hContract
    obtain ⟨hMemExtraction, hId⟩ := getExtraction_eq_ok.mp hExtraction
    refine ⟨hNames, contract, hMem, hPublicId, extraction, hMemExtraction, hId, result, hRun, ?_⟩
    obtain ⟨⟨hKeepsId, hKeepsPublicId⟩, -⟩ :=
      @setsFields_of_run _ _ (call.promotion extraction) _ hRun
    obtain ⟨other, hOther, hContracts⟩ := @update_eq_ok _ _ _ result.2 hMem hKeepsId hKeepsPublicId
    obtain rfl := Except.ok.inj (hOther.symm.trans hUpdated)
    obtain ⟨rfl, -⟩ := Prod.mk.inj (Except.ok.inj hCommitted)
    exact hContracts

theorem contracts_after (hNames : call.fieldNamesToPromote ≠ [])
    (hContract : contract ∈ store.contracts) (hPublicId : contract.publicId = call.contractPublicId)
    (hExtraction : extraction ∈ store.extractions) (hId : extraction.id = call.extractionId)
    {result : Contract × ContractExtraction}
    (hRun : (call.promotion extraction).run driver contract = .ok result) :
    (call.after driver store).contracts =
      replace (fun contract => contract.id) result.1 store.contracts := by
  obtain ⟨⟨hKeepsId, hKeepsPublicId⟩, -⟩ := setsFields_of_run hRun
  obtain ⟨updated, hUpdated, hContracts⟩ :=
    @update_eq_ok _ _ _ result.2 hContract hKeepsId hKeepsPublicId
  have hVerify : verifyContractExtraction driver store call =
      .ok (updated, getDerivedFields result.1.toContractColumns) := by
    have hPromote : promoteExtractionFields driver call.userId extraction contract
      call.fieldNamesToPromote
        call.asOfDate = .ok result := hRun
    rw [verifyContractExtraction, if_neg hNames]
    exact (bind_of_eq_ok (getContract_eq_ok.mpr ⟨hContract, hPublicId⟩) _).trans
      ((bind_of_eq_ok (getExtraction_eq_ok.mpr ⟨hExtraction, hId⟩) _).trans
        ((bind_of_eq_ok hPromote _).trans (bind_of_eq_ok hUpdated _)))
  rw [VerifyCall.after, hVerify]
  exact hContracts

theorem namesOwn_of_changes (hDriver : driver.Strict)
    (h : ChangesFromOwnDocument driver store call) : NamesOwnExtraction driver store call := by
  intro hNames contract hContract hPublicId extraction hExtraction hId hThrough hDiffers
  obtain ⟨result, hRun⟩ := (run_returns_iff hDriver).mpr hThrough
  obtain ⟨⟨hKeepsId, hKeepsPublicId⟩, hSets⟩ := setsFields_of_run hRun
  have hAfter := contracts_after hNames hContract hPublicId hExtraction hId hRun
  have hMem : result.1 ∈ (call.after driver store).contracts := by
    rw [hAfter]
    exact mem_replace_self hContract hKeepsId.symm
  obtain ⟨field, text, hText, hValue⟩ := hDiffers
  have hChanged : result.1.get field ≠ contract.get field := by
    intro hSame
    rw [hSets.promoted field text hText, hSame] at hValue
    exact hValue rfl
  obtain ⟨-, ⟨used, hUsed, hUsedId, -, hOwn, -⟩, -⟩ :=
    h contract hContract result.1 hMem hKeepsId ⟨field, hChanged⟩
  rwa [eq_of_key_eq store.extractionIds hUsed hExtraction (hUsedId.trans hId.symm)] at hOwn

theorem changes_of_namesOwn (hDriver : driver.Strict) (h : NamesOwnExtraction driver store call) :
    ChangesFromOwnDocument driver store call := by
  intro before hBefore after hAfterMem hSameId hChanged
  obtain ⟨field, hField⟩ := hChanged
  cases hVerify : verifyContractExtraction driver store call with
  | error message =>
    have hStore : call.after driver store = store := by rw [VerifyCall.after, hVerify]
    rw [hStore] at hAfterMem
    exact absurd (congrArg (fun contract : Contract => contract.get field)
      (eq_of_key_eq store.contractIds hAfterMem hBefore hSameId)) hField
  | ok outcome =>
    obtain ⟨committed, response⟩ := outcome
    obtain ⟨hNames, contract, hContract, hPublicId, extraction, hExtraction, hId, result, hRun,
        hContracts⟩ :=
      verify_eq_ok hVerify
    have hThrough := (run_returns_iff hDriver).mp ⟨result, hRun⟩
    obtain ⟨⟨hKeepsId, -⟩, hSets⟩ := setsFields_of_run hRun
    have hStore : (call.after driver store).contracts =
        replace (fun contract => contract.id) result.1 store.contracts := by
          rw [VerifyCall.after, hVerify, ← hContracts]
    rw [hStore] at hAfterMem
    obtain ⟨rfl, -⟩ | ⟨hOld, -⟩ := mem_replace hAfterMem
    · obtain rfl := eq_of_key_eq store.contractIds hContract hBefore (hKeepsId.symm.trans hSameId)
      have hDiffers : ∃ field text, (call.promotion extraction).texts field = some text ∧
          driver.value field text ≠ .ok (contract.get field) := by
        cases hText : (call.promotion extraction).texts field with
        | none => exact absurd (hSets.kept field hText) hField
        | some text =>
          refine ⟨field, text, hText, fun hValue => hField ?_⟩
          rw [hSets.promoted field text hText] at hValue
          exact Except.ok.inj hValue
      refine ⟨hPublicId, ⟨extraction, hExtraction, hId, hThrough.verified, ?_, hSets⟩,
        fun other hOther hNe => ?_⟩
      · exact h hNames contract hContract hPublicId extraction hExtraction hId hThrough hDiffers
      · rw [hStore]
        refine mem_replace_of_ne hOther fun hKey => hNe ?_
        exact eq_of_key_eq store.contractIds hOther hContract (hKey.trans hKeepsId)
    · exact absurd (congrArg (fun contract : Contract => contract.get field)
        (eq_of_key_eq store.contractIds hOld hBefore hSameId)) hField

/-- In every run of verifications, changes come from the contract's own document exactly when the
calls name an extraction of the contract or of none. -/
theorem extraction_links_iff (hDriver : driver.Strict) (store : ContractStore)
    (calls : List VerifyCall) :
    EveryStep (fun store call => call.after driver store)
    (ChangesFromOwnDocument driver) store calls ↔
      EveryStep (fun store call => call.after driver store)
      (NamesOwnExtraction driver) store calls :=
  EveryStep.congr fun _ _ => ⟨namesOwn_of_changes hDriver, changes_of_namesOwn hDriver⟩

end Steps

def sugarContract : Contract :=
  ⟨{ cocoaColumns with id := 2, publicId := 2, title := "Sugar supply" }, by decide⟩

/-- A verified extraction of the document of contract 2. -/
def sugarExtraction : ContractExtraction where
  id := 7
  contractId := some 2
  extractedFields name := if name = "title" then some ⟨some "Sugar supply"⟩ else none
  verificationStatus := "human_verified"
  verifiedByUserId := some 1

def twoContracts : ContractStore where
  contracts := [cocoaContract, sugarContract]
  extractions := [sugarExtraction]
  contractIds := by decide
  publicIds := by decide
  extractionIds := List.nodup_singleton _

/-- The extraction of contract 2 on contract 1. -/
def crossedCall : VerifyCall := ⟨1, 7, 1, ["title"], dayAfterDeadline⟩

theorem crossed_links_iff :
    EveryStep (fun store call => call.after typedDriver store)
    (ChangesFromOwnDocument typedDriver) twoContracts
        [crossedCall] ↔
      EveryStep (fun store call => call.after typedDriver store)
      (NamesOwnExtraction typedDriver) twoContracts
        [crossedCall] :=
  extraction_links_iff typedDriver_strict twoContracts [crossedCall]

theorem foreign_title_promoted : ¬ ChangesFromOwnDocument typedDriver twoContracts crossedCall := by
  intro h
  obtain ⟨result, hRun, -⟩ := exists_of_any (by decide :
    ((crossedCall.promotion sugarExtraction).run typedDriver cocoaContract).toOption.any
      (fun _ => true) = true)
  have hThrough := (run_returns_iff typedDriver_strict).mp ⟨result, hRun⟩
  have hDiffers : typedDriver.value .title "Sugar supply" ≠ .ok (cocoaContract.get .title) := by
    intro hSame
    exact absurd (congrArg Except.toOption hSame) (by decide)
  have hOwn := namesOwn_of_changes typedDriver_strict h (List.cons_ne_nil _ _) cocoaContract
    List.mem_cons_self rfl
    sugarExtraction List.mem_cons_self rfl hThrough ⟨.title, "Sugar supply", rfl, hDiffers⟩
  exact absurd hOwn (by decide)

end ProcureFoundation.Contracts
