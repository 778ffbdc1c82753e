import ProcureFoundation.Contracts.Alerts
import ProcureFoundation.Foundation.StoredColumns

/-!
# Promotion of extracted fields

Texts staged from a document are set over the fields of a contract once a person has verified them.
The driver writes them to the columns, and refuses a text for a date, a number of days or months, or
a truth value. Messages quote names without the escapes that a name with quotes in it would need.
-/

namespace ProcureFoundation.Contracts

open Outcome

/-- What is staged of a field; the key of the text may be missing. -/
structure ExtractedField where
  value : Option String

/-- The organisation, the source file and the names of model and prompt are left out. -/
structure ContractExtraction where
  id : ℕ
  contractId : Option ℕ
  extractedFields : String → Option ExtractedField
  verificationStatus : String
  verifiedByUserId : Option ℕ

def PromotionField.ofName (name : String) : Option PromotionField :=
  allowedPromotionFields.find? fun field => field.name == name

def ensureVerified (verificationStatus : String) : Except String Unit :=
  if verificationStatus ≠ "human_verified" then
    .error ("Cannot promote fields from an extraction with verification_status='" ++
      verificationStatus ++
      "' - only 'human_verified' extractions may feed the calculation engine (ADR-004)")
  else .ok ()

def selectField (extractedFields : String → Option ExtractedField)
    (selected : PromotionField → Option String) (field : PromotionField) :
    Except String (PromotionField → Option String) :=
  match extractedFields field.name with
  | none => .ok selected
  | some entry =>
    match entry.value with
    | none => .error "'value'"
    | some text => .ok (Function.update selected field (some text))

def selectPromotableFields (extractedFields : String → Option ExtractedField)
    (fieldNames : List String) : Except String (PromotionField → Option String) :=
  let unknown := fieldNames.dedup.filter fun name => (PromotionField.ofName name).isNone
  if unknown ≠ [] then
    .error ("Cannot promote unrecognised fields: ['" ++
      "', '".intercalate (unknown.mergeSort fun a b => decide (a ≤ b)) ++ "']")
  else (fieldNames.filterMap PromotionField.ofName).foldlM (selectField extractedFields) fun _ =>
    none

def promoteFieldsFromExtraction (extractedFields : String → Option ExtractedField)
    (verificationStatus : String) (fieldNames : List String) :
    Except String (PromotionField → Option String) := do
  ensureVerified verificationStatus
  selectPromotableFields extractedFields fieldNames

/-- How the database driver writes a text to a column of another type. -/
structure Driver where
  date : String → Except String Date
  integer : String → Except String ℤ
  boolean : String → Except String Bool
  rate : String → Except String (Numeric 6)
  amount : String → Except String (Numeric 4)

/-- A text is no date, integer or truth value to the driver. -/
structure Driver.Strict (driver : Driver) : Prop where
  date : ∀ text, ∃ message, driver.date text = .error message
  integer : ∀ text, ∃ message, driver.integer text = .error message
  boolean : ∀ text, ∃ message, driver.boolean text = .error message

/-- A column is written when a text has been set over its field. -/
def writeColumn {α : Type} (write : String → Except String α) (current : α) : Option String →
    Except String α
  | some text => write text
  | none => .ok current

def nullable {α : Type} (write : String → Except String α) (text : String) :
    Except String (Option α) :=
  (write text).map some

def writeColumns (driver : Driver) (contract : SessionContract) :
    Except String ContractColumns := do
  let columns := contract.columns
  let assigned := contract.assigned
  let title ← writeColumn (writeVarchar 255) columns.title (assigned .title)
  let contractNumber ← writeColumn (nullable (writeVarchar 64)) columns.contractNumber
    (assigned .contractNumber)
  let startDate ← writeColumn driver.date columns.startDate (assigned .startDate)
  let expiryDate ← writeColumn driver.date columns.expiryDate (assigned .expiryDate)
  let noticePeriodDays ← writeColumn driver.integer columns.noticePeriodDays (assigned .noticePeriodDays)
  let autoRenew ← writeColumn driver.boolean columns.autoRenew (assigned .autoRenew)
  let renewalTermMonths ← writeColumn (nullable driver.integer) columns.renewalTermMonths
    (assigned .renewalTermMonths)
  let paymentTermsDays ← writeColumn (nullable driver.integer) columns.paymentTermsDays
    (assigned .paymentTermsDays)
  let escalationType ← writeColumn (writeVarchar 32) columns.escalationType (assigned .escalationType)
  let escalationRatePct ← writeColumn (nullable driver.rate) columns.escalationRatePct
    (assigned .escalationRatePct)
  let rebateTermsSummary ←
    writeColumn (nullable (writeVarchar 2048)) columns.rebateTermsSummary (assigned .rebateTermsSummary)
  let slaTermsSummary ← writeColumn (nullable (writeVarchar 2048)) columns.slaTermsSummary
    (assigned .slaTermsSummary)
  let minimumSpendCommitment ←
    writeColumn (nullable driver.amount) columns.minimumSpendCommitment (assigned .minimumSpendCommitment)
  return { columns with
    title, contractNumber, startDate, expiryDate, noticePeriodDays, autoRenew, renewalTermMonths,
    paymentTermsDays,
    escalationType, escalationRatePct, rebateTermsSummary, slaTermsSummary, minimumSpendCommitment }

def flush (driver : Driver) (contract : SessionContract) : Except String Contract := do
  let columns ← writeColumns driver contract
  if h : columns.Checks then .ok ⟨columns, h⟩ else .error "new row violates check constraint"

/-- The contract and the extraction as they are committed. -/
def promoteExtractionFields (driver : Driver) (userId : ℕ) (extraction : ContractExtraction)
    (contract : Contract) (fieldNames : List String) (asOfDate : Date) :
    Except String (Contract × ContractExtraction) :=
  do
  let promotable ← promoteFieldsFromExtraction extraction.extractedFields
    extraction.verificationStatus fieldNames
  let refreshed ← refreshStatus ⟨contract.toContractColumns, promotable⟩ asOfDate
  let stored ← flush driver refreshed
  return (stored,
    { extraction with verificationStatus := "human_verified", verifiedByUserId := some userId })

/-- The texts that are promoted when these names are asked for. -/
def promotable (extractedFields : String → Option ExtractedField) (fieldNames : List String)
    (field : PromotionField) : Option String :=
  if field.name ∈ fieldNames then (extractedFields field.name).bind ExtractedField.value else none

/-- Every name asked for is a field, and what is staged of it has a text. -/
structure Selectable (extractedFields : String → Option ExtractedField) (fieldNames : List String) :
    Prop where
  recognised : ∀ name ∈ fieldNames, ∃ field : PromotionField, field.name = name
  staged : ∀ field : PromotionField, field.name ∈ fieldNames →
    ∀ entry, extractedFields field.name = some entry → entry.value.isSome = true

/-- The columns hold what has been set over the fields, and elsewhere what they held. -/
structure Written (driver : Driver) (contract : SessionContract) (written : ContractColumns) :
    Prop where
  title : writeColumn (writeVarchar 255) contract.columns.title (contract.assigned .title) =
    .ok written.title
  contractNumber : writeColumn (nullable (writeVarchar 64)) contract.columns.contractNumber
    (contract.assigned .contractNumber) = .ok written.contractNumber
  startDate : writeColumn driver.date contract.columns.startDate (contract.assigned .startDate) =
    .ok written.startDate
  expiryDate : writeColumn driver.date contract.columns.expiryDate (contract.assigned .expiryDate) =
    .ok written.expiryDate
  noticePeriodDays : writeColumn driver.integer contract.columns.noticePeriodDays
    (contract.assigned .noticePeriodDays) = .ok written.noticePeriodDays
  autoRenew : writeColumn driver.boolean contract.columns.autoRenew (contract.assigned .autoRenew) =
    .ok written.autoRenew
  renewalTermMonths : writeColumn (nullable driver.integer) contract.columns.renewalTermMonths
    (contract.assigned .renewalTermMonths) = .ok written.renewalTermMonths
  paymentTermsDays : writeColumn (nullable driver.integer) contract.columns.paymentTermsDays
    (contract.assigned .paymentTermsDays) = .ok written.paymentTermsDays
  escalationType : writeColumn (writeVarchar 32) contract.columns.escalationType
    (contract.assigned .escalationType) = .ok written.escalationType
  escalationRatePct : writeColumn (nullable driver.rate) contract.columns.escalationRatePct
    (contract.assigned .escalationRatePct) = .ok written.escalationRatePct
  rebateTermsSummary :
    writeColumn (nullable (writeVarchar 2048)) contract.columns.rebateTermsSummary
    (contract.assigned .rebateTermsSummary) = .ok written.rebateTermsSummary
  slaTermsSummary : writeColumn (nullable (writeVarchar 2048)) contract.columns.slaTermsSummary
    (contract.assigned .slaTermsSummary) = .ok written.slaTermsSummary
  minimumSpendCommitment :
    writeColumn (nullable driver.amount) contract.columns.minimumSpendCommitment
    (contract.assigned .minimumSpendCommitment) = .ok written.minimumSpendCommitment
  others : written.id = contract.columns.id ∧ written.publicId = contract.columns.publicId ∧
    written.status = contract.columns.status

section Selection

variable {extractedFields : String → Option ExtractedField} {fieldNames : List String}
  {verificationStatus : String} {fields : List PromotionField} {field : PromotionField}
  {selected result : PromotionField → Option String}

theorem ofName_name (field : PromotionField) : PromotionField.ofName field.name = some field := by
  cases field <;> rfl

theorem name_of_ofName {name : String} (h : PromotionField.ofName name = some field) :
    field.name = name := by
  have hFound := List.find?_some h
  exact beq_iff_eq.mp hFound

theorem mem_filterMap_ofName : field ∈ fieldNames.filterMap PromotionField.ofName ↔
    field.name ∈ fieldNames := by
  rw [List.mem_filterMap]
  constructor
  · rintro ⟨name, hName, hField⟩
    rwa [name_of_ofName hField]
  · intro hName
    exact ⟨field.name, hName, ofName_name field⟩

theorem selectField_eq_ok : selectField extractedFields selected field = .ok result ↔
    (∀ entry, extractedFields field.name = some entry → entry.value.isSome = true) ∧
      result = Function.update selected field
        (((extractedFields field.name).bind ExtractedField.value).or (selected field)) := by
  unfold selectField
  cases hEntry : extractedFields field.name with
  | none =>
    have hSame : Function.update selected field ((none : Option String).or (selected field)) =
        selected :=
      Function.update_eq_self field selected
    rw [Option.bind_none, hSame, Except.ok.injEq, eq_comm]
    exact (and_iff_right fun entry h => nomatch h).symm
  | some entry =>
    rw [Option.bind_some]
    cases hText : entry.value with
    | none =>
      simp only [hText]
      refine iff_of_false (fun h => nomatch h) fun h => ?_
      have hSome := h.1 entry rfl
      rw [hText] at hSome
      exact nomatch hSome
    | some text =>
      simp only [hText]
      rw [Option.some_or, Except.ok.injEq, eq_comm]
      refine (and_iff_right fun other hOther => ?_).symm
      obtain rfl := Option.some.inj hOther
      rw [hText]
      rfl

theorem foldlM_selectField : fields.foldlM (selectField extractedFields) selected = .ok result ↔
    (∀ field ∈ fields, ∀ entry, extractedFields field.name = some entry →
      entry.value.isSome = true) ∧ result = fun field => if field ∈ fields then
        ((extractedFields field.name).bind ExtractedField.value).or (selected field)
          else selected field := by
  induction fields generalizing selected with
  | nil =>
    rw [List.foldlM_nil]
    constructor
    · intro h
      obtain rfl := Except.ok.inj h
      exact ⟨fun field hField => (List.not_mem_nil hField).elim, funext fun field =>
        (if_neg List.not_mem_nil).symm⟩
    · rintro ⟨-, rfl⟩
      exact congrArg Except.ok (funext fun field => (if_neg List.not_mem_nil).symm)
  | cons next fields ih =>
    have hAfter :
      (fun field => if field ∈ fields then
        ((extractedFields field.name).bind ExtractedField.value).or
        (Function.update selected next
          (((extractedFields next.name).bind ExtractedField.value).or (selected next)) field)
          else Function.update selected next
            (((extractedFields next.name).bind ExtractedField.value).or (selected next)) field) =
        fun field => if field ∈ next :: fields then
          ((extractedFields field.name).bind ExtractedField.value).or (selected field)
            else selected field := by
      funext field
      by_cases hNext : field = next
      · subst hNext
        rw [Function.update_self, if_pos List.mem_cons_self, ← Option.or_assoc, Option.or_self,
          ite_self]
      · simp only [Function.update_of_ne hNext, List.mem_cons, hNext, false_or]
    rw [List.foldlM_cons, List.forall_mem_cons, ← hAfter]
    constructor
    · intro h
      obtain ⟨updated, hUpdated, hRest⟩ := exists_of_bind_eq_ok h
      obtain ⟨hStaged, rfl⟩ := selectField_eq_ok.mp hUpdated
      obtain ⟨hAll, hResult⟩ := ih.mp hRest
      exact ⟨⟨hStaged, hAll⟩, hResult⟩
    · rintro ⟨⟨hStaged, hAll⟩, hResult⟩
      rw [bind_of_eq_ok (selectField_eq_ok.mpr ⟨hStaged, rfl⟩)]
      exact ih.mpr ⟨hAll, hResult⟩

theorem unknown_eq_nil :
    (fieldNames.dedup.filter fun name => (PromotionField.ofName name).isNone) = [] ↔
    ∀ name ∈ fieldNames, ∃ field : PromotionField, field.name = name := by
  rw [List.filter_eq_nil_iff]
  refine forall_congr' fun name => ?_
  rw [List.mem_dedup]
  refine imp_congr_right fun _ => ?_
  constructor
  · intro h
    obtain ⟨field, hField⟩ := Option.ne_none_iff_exists'.mp fun hNone =>
      h (Option.isNone_iff_eq_none.mpr hNone)
    exact ⟨field, name_of_ofName hField⟩
  · rintro ⟨field, rfl⟩
    rw [ofName_name]
    exact Bool.false_ne_true

theorem selectPromotableFields_eq_ok :
    selectPromotableFields extractedFields fieldNames = .ok result ↔
    Selectable extractedFields fieldNames ∧ result = promotable extractedFields fieldNames := by
  have hPromotable : (fun field => if field ∈ fieldNames.filterMap PromotionField.ofName then
      ((extractedFields field.name).bind ExtractedField.value).or none else none) =
        promotable extractedFields fieldNames := by
    funext field
    simp only [mem_filterMap_ofName, Option.or_none, promotable]
  unfold selectPromotableFields
  dsimp only
  split
  · rename_i hUnknown
    exact iff_of_false (fun h => nomatch h) fun h => hUnknown (unknown_eq_nil.mpr h.1.recognised)
  · rename_i hKnown
    rw [foldlM_selectField, hPromotable]
    refine and_congr_left fun _ =>
      ⟨fun h => ⟨unknown_eq_nil.mp (not_not.mp hKnown), fun field hField =>
        h field (mem_filterMap_ofName.mpr hField)⟩, fun h field hField =>
          h.staged field (mem_filterMap_ofName.mp hField)⟩

theorem promoteFields_eq_ok :
    promoteFieldsFromExtraction extractedFields verificationStatus fieldNames = .ok result ↔
      verificationStatus = "human_verified" ∧ Selectable extractedFields fieldNames ∧
        result = promotable extractedFields fieldNames := by
  rw [← selectPromotableFields_eq_ok]
  unfold promoteFieldsFromExtraction ensureVerified
  split
  · rename_i hStatus
    exact iff_of_false (fun h => nomatch h) fun h => hStatus h.1
  · rename_i hStatus
    rw [and_iff_right (not_not.mp hStatus)]
    rfl

end Selection

section Writing

variable {driver : Driver} {contract : SessionContract} {written : ContractColumns}
  {stored : Contract}

theorem writeColumns_eq_ok : writeColumns driver contract = .ok written ↔
    Written driver contract written := by
  constructor
  · intro h
    obtain ⟨title, hTitle, h⟩ := exists_of_bind_eq_ok h
    obtain ⟨contractNumber, hContractNumber, h⟩ := exists_of_bind_eq_ok h
    obtain ⟨startDate, hStartDate, h⟩ := exists_of_bind_eq_ok h
    obtain ⟨expiryDate, hExpiryDate, h⟩ := exists_of_bind_eq_ok h
    obtain ⟨noticePeriodDays, hNoticePeriodDays, h⟩ := exists_of_bind_eq_ok h
    obtain ⟨autoRenew, hAutoRenew, h⟩ := exists_of_bind_eq_ok h
    obtain ⟨renewalTermMonths, hRenewalTermMonths, h⟩ := exists_of_bind_eq_ok h
    obtain ⟨paymentTermsDays, hPaymentTermsDays, h⟩ := exists_of_bind_eq_ok h
    obtain ⟨escalationType, hEscalationType, h⟩ := exists_of_bind_eq_ok h
    obtain ⟨escalationRatePct, hEscalationRatePct, h⟩ := exists_of_bind_eq_ok h
    obtain ⟨rebateTermsSummary, hRebateTermsSummary, h⟩ := exists_of_bind_eq_ok h
    obtain ⟨slaTermsSummary, hSlaTermsSummary, h⟩ := exists_of_bind_eq_ok h
    obtain ⟨minimumSpendCommitment, hMinimumSpendCommitment, h⟩ := exists_of_bind_eq_ok h
    obtain rfl := Except.ok.inj h
    exact ⟨hTitle, hContractNumber, hStartDate, hExpiryDate, hNoticePeriodDays, hAutoRenew,
      hRenewalTermMonths,
      hPaymentTermsDays, hEscalationType, hEscalationRatePct, hRebateTermsSummary, hSlaTermsSummary,
      hMinimumSpendCommitment, rfl, rfl, rfl⟩
  · intro h
    obtain ⟨hId, hPublicId, hStatus⟩ := h.others
    unfold writeColumns
    dsimp only
    rw [bind_of_eq_ok h.title, bind_of_eq_ok h.contractNumber, bind_of_eq_ok h.startDate,
      bind_of_eq_ok h.expiryDate,
      bind_of_eq_ok h.noticePeriodDays, bind_of_eq_ok h.autoRenew,
      bind_of_eq_ok h.renewalTermMonths,
      bind_of_eq_ok h.paymentTermsDays, bind_of_eq_ok h.escalationType,
      bind_of_eq_ok h.escalationRatePct,
      bind_of_eq_ok h.rebateTermsSummary, bind_of_eq_ok h.slaTermsSummary,
      bind_of_eq_ok h.minimumSpendCommitment, ← hId, ← hPublicId, ← hStatus]
    rfl

theorem flush_eq_ok : flush driver contract = .ok stored ↔
    Written driver contract stored.toContractColumns := by
  rw [← writeColumns_eq_ok]
  constructor
  · intro h
    obtain ⟨columns, hColumns, h⟩ := exists_of_bind_eq_ok h
    split at h
    · obtain rfl := Except.ok.inj h
      exact hColumns
    · exact nomatch h
  · intro h
    rw [flush, bind_of_eq_ok h]
    exact dif_pos stored.checks

end Writing

section Promotion

variable {driver : Driver} {userId : ℕ} {extraction : ContractExtraction} {contract : Contract}
  {fieldNames : List String} {asOfDate : Date} {result : Contract × ContractExtraction}

/-- A promotion commits when it is allowed and every text can be written to its column. -/
theorem promoteExtractionFields_eq_ok :
    promoteExtractionFields driver userId extraction contract fieldNames asOfDate = .ok result ↔
      (extraction.verificationStatus = "human_verified" ∧
        Selectable extraction.extractedFields fieldNames) ∧
        (∃ refreshed, refreshStatus
          ⟨contract.toContractColumns, promotable extraction.extractedFields fieldNames⟩
            asOfDate = .ok refreshed ∧ Written driver refreshed result.1.toContractColumns) ∧
          result.2 = { extraction with verificationStatus := "human_verified", verifiedByUserId := some userId } := by
  constructor
  · intro h
    obtain ⟨texts, hTexts, h⟩ := exists_of_bind_eq_ok h
    obtain ⟨hVerified, hSelectable, rfl⟩ := promoteFields_eq_ok.mp hTexts
    obtain ⟨refreshed, hRefreshed, hAfter⟩ := exists_of_bind_eq_ok h
    obtain ⟨stored, hStored, hResult⟩ := exists_of_bind_eq_ok hAfter
    obtain rfl := Except.ok.inj hResult
    exact ⟨⟨hVerified, hSelectable⟩, ⟨refreshed, hRefreshed, flush_eq_ok.mp hStored⟩, rfl⟩
  · rintro ⟨⟨hVerified, hSelectable⟩, ⟨refreshed, hRefreshed, hWritten⟩, hExtraction⟩
    rw [promoteExtractionFields,
      bind_of_eq_ok (promoteFields_eq_ok.mpr ⟨hVerified, hSelectable, rfl⟩),
      bind_of_eq_ok hRefreshed, bind_of_eq_ok (flush_eq_ok.mpr hWritten), ← hExtraction]
    rfl

end Promotion

end ProcureFoundation.Contracts
