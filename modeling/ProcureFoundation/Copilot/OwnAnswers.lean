import ProcureFoundation.Copilot.Handlers
import ProcureFoundation.Foundation.Outcomes
import ProcureFoundation.Foundation.VisibleRows

/-!
# What the copilot answers

Whatever the language model returns, a handler runs only for an intent that the role may ask, and
its answer, like every text that is given to the model, depends on the rows of the organisation
alone. Only the keys of the tables are relied on for that, not the policies of the database.
-/

namespace ProcureFoundation.Copilot

open Evidence Ledger Outcome Rebate Users

/-- The rows of one organisation. -/
def CopilotTables.own (tables : CopilotTables) (organisationId : ℕ) : CopilotTables where
  suppliers := tables.suppliers.filter fun row => row.organisationId == organisationId
  purchaseInvoices := tables.purchaseInvoices.filter fun row => row.organisationId == organisationId
  purchaseInvoiceLines := tables.purchaseInvoiceLines.filter fun row =>
    row.organisationId == organisationId
  purchaseTransactions := tables.purchaseTransactions.filter fun row =>
    row.organisationId == organisationId
  rebateAgreements := tables.rebateAgreements.filter fun row => row.organisationId == organisationId
  rebatePeriodActuals := tables.rebatePeriodActuals.filter fun row =>
    row.organisationId == organisationId
  contracts := tables.contracts.filter fun row => row.organisationId == organisationId

/-- What a row refers to is of the organisation of the row. -/
structure CopilotTables.TenantKeys (tables : CopilotTables) : Prop where
  invoiceSuppliers : ∀ invoice ∈ tables.purchaseInvoices, ∀ row ∈ tables.suppliers,
    row.supplier.id = invoice.supplierId → row.organisationId = invoice.organisationId
  transactionSuppliers : ∀ transaction ∈ tables.purchaseTransactions, ∀ row ∈ tables.suppliers,
    row.supplier.id = transaction.supplierId → row.organisationId = transaction.organisationId
  lineInvoices : ∀ line ∈ tables.purchaseInvoiceLines, ∀ invoice ∈ tables.purchaseInvoices,
    invoice.id = line.purchaseInvoiceId → line.organisationId = invoice.organisationId
  agreementSuppliers : ∀ agreement ∈ tables.rebateAgreements, ∀ row ∈ tables.suppliers,
    agreement.supplierId = some row.supplier.id → agreement.organisationId = row.organisationId
  periodAgreements : ∀ period ∈ tables.rebatePeriodActuals, ∀ agreement ∈ tables.rebateAgreements,
    agreement.id = period.rebateAgreementId → period.organisationId = agreement.organisationId
  contractSuppliers : ∀ contract ∈ tables.contracts, ∀ row ∈ tables.suppliers,
    row.supplier.id = contract.supplierId → row.organisationId = contract.organisationId

/-- The handler that runs for what the language model has returned. -/
structure Runs (texts : CopilotTexts) (role : String) (classification : IntentClassificationOutput)
    (entry : IntentHandlerEntry Handler) : Prop where
  registered : entry ∈ (copilotRouter texts).registry
  named : classification.intent = entry.intent.value
  permitted : entry.requiredPermission ∈ heldPermissions role

structure AnswersSafely (texts : CopilotTexts) (tables : CopilotTables) (provider : LLMProvider)
    (organisationId : ℕ) (role question : String) : Prop where
  confined : ∀ others : CopilotTables, others.TenantKeys →
    others.own organisationId = tables.own organisationId →
    answerQuery texts others provider organisationId role question =
      answerQuery texts tables provider organisationId role question
  permitted : ∀ answer, answerQuery texts tables provider organisationId role question =
    .ok answer → ∃ classification entry,
      provider.completeStructured ⟨(copilotRouter texts).availableIntentsForPrompt, question⟩ =
        .ok classification ∧ Runs texts role classification entry ∧
          entry.handler tables organisationId classification.entities = .ok answer.structuredResult
  refused : (∀ classification,
      provider.completeStructured ⟨(copilotRouter texts).availableIntentsForPrompt, question⟩ =
        .ok classification → ∀ entry, ¬Runs texts role classification entry) →
    ∃ error, ∀ others, answerQuery texts others provider organisationId role question = .error error

section OwnRows

variable {texts : CopilotTexts} {tables : CopilotTables} {organisationId supplierId : ℕ}

theorem filter_pricedLines_own (hKeys : tables.TenantKeys)
    {picks : PricedLine × PurchaseInvoice → Bool}
    (hPicks : ∀ pair, picks pair = true → pair.2.organisationId = organisationId) :
    (tables.own organisationId).pricedLines.filter picks = tables.pricedLines.filter picks := by
  refine join_visible fun line hLine invoice hInvoice hJoins hPicked => ?_
  have hOrganisation := hPicks (line, invoice) hPicked
  have hSame := hKeys.lineInvoices line hLine invoice hInvoice (beq_iff_eq.mp hJoins)
  exact ⟨beq_iff_eq.mpr (hSame.trans hOrganisation), beq_iff_eq.mpr hOrganisation⟩

theorem invoiceLines_eq_pricedLines (tables : CopilotTables) : tables.ledger.invoiceLines =
    tables.pricedLines.map fun pair => (pair.1.toPurchaseInvoiceLine, pair.2) := by
  rw [PurchaseLedger.invoiceLines, CopilotTables.pricedLines, CopilotTables.ledger,
    List.flatMap_map, List.map_flatMap]
  refine List.flatMap_congr fun line _ => ?_
  rw [List.map_map]
  rfl

theorem filter_invoiceLines_own (hKeys : tables.TenantKeys)
    {picks : PurchaseInvoiceLine × PurchaseInvoice → Bool}
    (hPicks : ∀ pair, picks pair = true → pair.2.organisationId = organisationId) :
    (tables.own organisationId).ledger.invoiceLines.filter picks =
      tables.ledger.invoiceLines.filter picks := by
  have hPriced := @filter_pricedLines_own tables organisationId hKeys
    (picks ∘ fun pair => (pair.1.toPurchaseInvoiceLine, pair.2)) fun pair hPair => hPicks _ hPair
  rw [invoiceLines_eq_pricedLines, invoiceLines_eq_pricedLines, List.filter_map, List.filter_map,
    hPriced]

theorem suppliersWithInvoiceData_own (tables : CopilotTables) (organisationId : ℕ) :
    suppliersWithInvoiceData (tables.own organisationId).ledger organisationId =
      suppliersWithInvoiceData tables.ledger organisationId := by
  refine congrArg _ (congrArg _ (filter_visible fun invoice _ hInvoice => ?_))
  exact ((Bool.and_eq_true_iff ..).mp hInvoice).1

theorem filter_transactions_own {picks : PurchaseTransaction → Bool}
    (hPicks : ∀ transaction, picks transaction = true →
      transaction.organisationId = organisationId) :
    (tables.own organisationId).ledger.purchaseTransactions.filter picks =
      tables.ledger.purchaseTransactions.filter picks :=
  filter_visible fun transaction _ hTransaction => beq_iff_eq.mpr (hPicks transaction hTransaction)

theorem withSupplier_own (hOwn : ∀ row ∈ tables.suppliers, row.supplier.id = supplierId →
    row.organisationId = organisationId) :
    (tables.own organisationId).ledger.withSupplier supplierId =
      tables.ledger.withSupplier supplierId := by
  rw [PurchaseLedger.withSupplier, PurchaseLedger.withSupplier, CopilotTables.ledger,
    CopilotTables.ledger, List.filter_map, List.filter_map]
  refine congrArg _ (filter_visible fun row hRow hId => beq_iff_eq.mpr ?_)
  exact hOwn row hRow (beq_iff_eq.mp hId)

theorem organisation_of_active {active : Bool} {rowOrganisation : ℕ}
    (h : (rowOrganisation == organisationId && active) = true) : rowOrganisation = organisationId :=
  beq_iff_eq.mp ((Bool.and_eq_true_iff ..).mp h).1

theorem mem_of_invoiceLines {pair : PurchaseInvoiceLine × PurchaseInvoice}
    (h : pair ∈ tables.ledger.invoiceLines) : pair.2 ∈ tables.purchaseInvoices := by
  obtain ⟨line, -, hPair⟩ := List.mem_flatMap.mp h
  obtain ⟨invoice, hInvoice, rfl⟩ := List.mem_map.mp hPair
  exact (List.mem_filter.mp hInvoice).1

theorem getSpendBySupplier_own (hKeys : tables.TenantKeys) :
    getSpendBySupplier (tables.own organisationId).ledger
    organisationId = getSpendBySupplier tables.ledger organisationId := by
  unfold getSpendBySupplier
  dsimp only
  rw [suppliersWithInvoiceData_own, filter_invoiceLines_own hKeys fun pair hPair =>
    organisation_of_active hPair,
    filter_transactions_own fun transaction h => organisation_of_active h]
  refine congrArg aggregateSpend (congrArg₂ _ ?_ ?_)
  · refine List.flatMap_congr fun pair hPair => ?_
    obtain ⟨hLine, hPicked⟩ := List.mem_filter.mp hPair
    rw [withSupplier_own fun row hRow hId => ?_]
    rw [hKeys.invoiceSuppliers pair.2 (mem_of_invoiceLines hLine) row hRow hId]
    exact organisation_of_active hPicked
  · refine List.flatMap_congr fun transaction hTransaction => ?_
    obtain ⟨hMem, hPicked⟩ := List.mem_filter.mp hTransaction
    rw [withSupplier_own fun row hRow hId => ?_]
    rw [hKeys.transactionSuppliers transaction hMem row hRow hId]
    exact organisation_of_active hPicked

theorem getSpendBySku_own (hKeys : tables.TenantKeys) (supplierId : Option ℕ) :
    getSpendBySku (tables.own organisationId).ledger organisationId supplierId =
      getSpendBySku tables.ledger organisationId supplierId := by
  unfold getSpendBySku
  dsimp only
  rw [suppliersWithInvoiceData_own, filter_invoiceLines_own hKeys fun pair hPair => ?_,
    filter_transactions_own fun transaction h => ?_]
  · exact organisation_of_active ((Bool.and_eq_true_iff ..).mp ((Bool.and_eq_true_iff ..).mp h).1).1
  · exact organisation_of_active ((Bool.and_eq_true_iff ..).mp hPair).1

theorem resolveSupplierId_own (name : String) :
    resolveSupplierId texts (tables.own organisationId) organisationId name =
    resolveSupplierId texts tables organisationId name := by
  rw [resolveSupplierId, resolveSupplierId, CopilotTables.own, filter_visible fun _ _ h => h]

theorem exists_of_resolveSupplierId {name : String}
    (h : resolveSupplierId texts tables organisationId name = .ok (some supplierId)) :
    ∃ row ∈ tables.suppliers, row.organisationId = organisationId ∧
      row.supplier.id = supplierId := by
  unfold resolveSupplierId at h
  split at h
  on_goal 2 => exact nomatch h
  obtain ⟨row, hRow, rfl⟩ := Option.map_eq_some_iff.mp (Except.ok.inj h)
  obtain ⟨hMem, hOwn⟩ := List.mem_filter.mp (List.mem_of_find?_eq_some hRow)
  exact ⟨row, hMem, beq_iff_eq.mp hOwn, rfl⟩

theorem checkPriceConsistency_own (hKeys : tables.TenantKeys) (skuOrDescription : String) :
    checkPriceConsistency texts.quoted (tables.own organisationId) organisationId supplierId
      skuOrDescription =
      checkPriceConsistency texts.quoted tables organisationId supplierId skuOrDescription := by
  unfold checkPriceConsistency priceObservations
  rw [filter_pricedLines_own hKeys fun pair hPair => ?_]
  exact organisation_of_active ((Bool.and_eq_true_iff ..).mp hPair).1

/-- The agreements of a supplier that was found are of its organisation. -/
theorem openPeriods_own (hKeys : tables.TenantKeys) {row : OwnedSupplier}
    (hRow : row ∈ tables.suppliers) (hOwn : row.organisationId = organisationId) :
    openPeriods (tables.own organisationId) row.supplier.id =
      openPeriods tables row.supplier.id := by
  have hAgreement : ∀ period : RebatePeriodActual, ∀ agreement ∈ tables.rebateAgreements,
      (agreement.id == period.rebateAgreementId && agreement.supplierId == some row.supplier.id) =
        true → agreement.organisationId = organisationId := by
    intro period agreement hMem hPicked
    rw [← hOwn]
    exact hKeys.agreementSuppliers agreement hMem row hRow
      (beq_iff_eq.mp ((Bool.and_eq_true_iff ..).mp hPicked).2)
  have hJoin : ∀ period : RebatePeriodActual,
    ((tables.own organisationId).rebateAgreements.filter fun agreement =>
      agreement.id == period.rebateAgreementId && agreement.supplierId == some row.supplier.id) =
        tables.rebateAgreements.filter fun agreement =>
          agreement.id == period.rebateAgreementId && agreement.supplierId ==
            some row.supplier.id :=
    fun period => filter_visible fun agreement hMem hPicked =>
      beq_iff_eq.mpr (hAgreement period agreement hMem hPicked)
  unfold openPeriods
  simp only [hJoin]
  refine flatMap_visible fun period hPeriod hSome => beq_iff_eq.mpr ?_
  obtain ⟨pair, hPair⟩ := List.exists_mem_of_ne_nil _ hSome
  obtain ⟨agreement, hOpen, rfl⟩ := List.mem_map.mp hPair
  obtain ⟨hMem, hPicked⟩ := List.mem_filter.mp (List.mem_filter.mp hOpen).1
  rw [hKeys.periodAgreements period hPeriod agreement hMem
    (beq_iff_eq.mp ((Bool.and_eq_true_iff ..).mp hPicked).1)]
  exact hAgreement period agreement hMem hPicked

theorem expiringContracts_own (hKeys : tables.TenantKeys) :
    expiringContracts (tables.own organisationId) organisationId =
      expiringContracts tables organisationId := by
  have hContracts : (tables.own organisationId).contracts.filter (fun contract =>
      contract.organisationId == organisationId &&
        decide (contract.status ∈ [.expiringSoon, .noticePeriodOpen])) =
          tables.contracts.filter fun contract => contract.organisationId == organisationId &&
            decide (contract.status ∈ [.expiringSoon, .noticePeriodOpen]) :=
    filter_visible fun contract _ hContract => ((Bool.and_eq_true_iff ..).mp hContract).1
  unfold expiringContracts
  rw [hContracts]
  refine List.flatMap_congr fun contract hContract =>
    congrArg _ (filter_visible fun row hRow hId => beq_iff_eq.mpr ?_)
  obtain ⟨hMem, hPicked⟩ := List.mem_filter.mp hContract
  rw [hKeys.contractSuppliers contract hMem row hRow (beq_iff_eq.mp hId)]
  exact organisation_of_active hPicked

/-- Every handler answers from the rows of the organisation. -/
theorem handler_own (hKeys : tables.TenantKeys) {entry : IntentHandlerEntry Handler}
    (h : entry ∈ (copilotRouter texts).registry) (entities : Entities) :
    entry.handler (tables.own organisationId) organisationId entities =
      entry.handler tables organisationId entities := by
  obtain rfl | rfl | rfl | rfl | rfl | rfl | rfl : entry = _ ∨ entry = _ ∨ entry = _ ∨ entry = _ ∨
    entry = _ ∨
      entry = _ ∨ entry = _ := by simpa [copilotRouter] using h
  · dsimp only [handleSpendBySupplier]
    rw [getSpendBySupplier_own hKeys]
  · dsimp only [handleSpendBySku]
    simp only [getSpendBySku_own hKeys, resolveSupplierId_own]
  · dsimp only [handleAbcClassification]
    rw [getAbcClassification, getSpendBySupplier_own hKeys, ← getAbcClassification]
  · dsimp only [handleParetoContributors]
    rw [getParetoContributors, getSpendBySupplier_own hKeys, ← getParetoContributors]
  · dsimp only [handlePriceVarianceCheck]
    simp only [resolveSupplierId_own, checkPriceConsistency_own hKeys]
  · dsimp only [handleRebateStatus]
    split
    · rfl
    · rename_i name hName
      rw [resolveSupplierId_own]
      cases hSupplier : resolveSupplierId texts tables organisationId name with
      | error error => rfl
      | ok found =>
        cases found with
        | none => rfl
        | some supplierId =>
          obtain ⟨row, hRow, hOwn, rfl⟩ := exists_of_resolveSupplierId hSupplier
          dsimp only [bind, Except.bind]
          rw [openPeriods_own hKeys hRow hOwn]
  · dsimp only [handleContractExpiryCheck]
    rw [expiringContracts_own hKeys]

end OwnRows

section Pipeline

variable {texts : CopilotTexts} {tables : CopilotTables} {provider : LLMProvider}
  {organisationId : ℕ} {role question : String} {classification : IntentClassificationOutput}
  {entry : IntentHandlerEntry Handler} {answer : CopilotAnswer}

theorem find_of_mem (h : entry ∈ (copilotRouter texts).registry) :
    (copilotRouter texts).find entry.intent = some entry := by
  obtain rfl | rfl | rfl | rfl | rfl | rfl | rfl : entry = _ ∨ entry = _ ∨ entry = _ ∨ entry = _ ∨
    entry = _ ∨
      entry = _ ∨ entry = _ := by simpa [copilotRouter] using h
  all_goals rfl

/-- What the copilot does once it knows which handler runs. -/
def answerWith (tables : CopilotTables) (provider : LLMProvider) (organisationId : ℕ)
    (question : String) (classification : IntentClassificationOutput)
    (entry : IntentHandlerEntry Handler) :
    Except CopilotError CopilotAnswer := do
  let structuredResult ← entry.handler tables organisationId classification.entities
  let summary ← provider.complete ⟨question, structuredResult⟩
  return ⟨entry.intent.value, structuredResult, summary⟩

theorem answerQuery_of_runs
    (hClassified :
    provider.completeStructured ⟨(copilotRouter texts).availableIntentsForPrompt, question⟩ =
      .ok classification) (hRuns : Runs texts role classification entry) :
    answerQuery texts tables provider organisationId role question =
      answerWith tables provider organisationId question classification entry := by
  have hFound := find_of_mem hRuns.registered
  have hIntent : (copilotRouter texts).resolveClassification texts.quoted classification.intent =
      .ok entry.intent :=
    IntentRouter.resolveClassification_eq_ok.mpr ⟨hRuns.named, Option.isSome_of_eq_some hFound⟩
  rw [answerQuery, hClassified]
  dsimp only [bind, Except.bind]
  rw [hIntent]
  dsimp only
  rw [IntentRouter.getEntry_eq_ok.mpr hFound]
  dsimp only
  rw [checkPermission_eq_ok.mpr hRuns.permitted]
  rfl

theorem answerQuery_refused (h : ∀ classification,
    provider.completeStructured ⟨(copilotRouter texts).availableIntentsForPrompt, question⟩ =
      .ok classification → ∀ entry, ¬Runs texts role classification entry) :
    ∃ error, ∀ tables, answerQuery texts tables provider organisationId role question =
      .error error := by
  unfold answerQuery
  cases hClassified :
    provider.completeStructured ⟨(copilotRouter texts).availableIntentsForPrompt, question⟩ with
  | error error => exact ⟨error, fun tables => rfl⟩
  | ok classification =>
    dsimp only [bind, Except.bind]
    cases hIntent : (copilotRouter texts).resolveClassification texts.quoted classification.intent with
    | error error => exact ⟨error, fun tables => rfl⟩
    | ok intent =>
      dsimp only
      cases hEntry : (copilotRouter texts).getEntry texts.quoted intent with
      | error error => exact ⟨error, fun tables => rfl⟩
      | ok entry =>
        dsimp only
        cases hPermission : checkPermission texts.quoted role entry.requiredPermission with
        | error error => exact ⟨error, fun tables => rfl⟩
        | ok checked =>
          obtain ⟨hMem, rfl⟩ := IntentRouter.find_eq_some (IntentRouter.getEntry_eq_ok.mp hEntry)
          have hNamed := (IntentRouter.resolveClassification_eq_ok.mp hIntent).1
          exact absurd ⟨hMem, hNamed, checkPermission_eq_ok.mp hPermission⟩
            (h classification hClassified entry)

theorem answerWith_own (hKeys : tables.TenantKeys) (hMem : entry ∈ (copilotRouter texts).registry) :
    answerWith (tables.own organisationId) provider organisationId question classification entry =
      answerWith tables provider organisationId question classification entry := by
  rw [answerWith, handler_own hKeys hMem, ← answerWith]

theorem structuredResult_of_answerWith
    (h : answerWith tables provider organisationId question classification entry = .ok answer) :
    entry.handler tables organisationId classification.entities = .ok answer.structuredResult := by
  obtain ⟨structuredResult, hResult, h⟩ := exists_of_bind_eq_ok h
  obtain ⟨summary, -, h⟩ := exists_of_bind_eq_ok h
  obtain rfl := Except.ok.inj h
  exact hResult

/-- Whatever the language model returns, the copilot runs a registered handler that the role may
ask, on the rows of the organisation, or it refuses without reading any. -/
theorem answers_safely (texts : CopilotTexts) (hKeys : tables.TenantKeys) (provider : LLMProvider)
    (organisationId : ℕ) (role question : String) :
    AnswersSafely texts tables provider organisationId role question := by
  by_cases hRefused : ∀ classification,
      provider.completeStructured ⟨(copilotRouter texts).availableIntentsForPrompt, question⟩ =
        .ok classification → ∀ entry, ¬Runs texts role classification entry
  · obtain ⟨error, hError⟩ :=
      @answerQuery_refused texts provider organisationId role question hRefused
    refine ⟨fun others _ _ => by
      rw [hError, hError], fun answer hAnswer => ?_, fun _ => ⟨error, hError⟩⟩
    rw [hError] at hAnswer
    exact nomatch hAnswer
  · simp only [not_forall, not_not] at hRefused
    obtain ⟨classification, hClassified, entry, hRuns⟩ := hRefused
    refine ⟨fun others hOthers hSame => ?_, fun answer hAnswer => ?_, fun hNone => ?_⟩
    · rw [answerQuery_of_runs hClassified hRuns, answerQuery_of_runs hClassified hRuns,
        ← answerWith_own hOthers hRuns.registered, hSame, answerWith_own hKeys hRuns.registered]
    · rw [answerQuery_of_runs hClassified hRuns] at hAnswer
      exact ⟨classification, entry, hClassified, hRuns, structuredResult_of_answerWith hAnswer⟩
    · exact absurd hRuns (hNone classification hClassified entry)

end Pipeline

def asciiTexts : CopilotTexts := ⟨Char.toLower, fun text => "'" ++ text ++ "'"⟩

def volumeAgreement (id : ℕ) (title : String) : TitledAgreement where
  id
  organisationId := id
  supplierId := some id
  rebateType := .volume
  flatRatePct := none
  bands := none
  fixedAmount := none
  title

def openPeriod (id : ℕ) (expectedAmount : Money) : RebatePeriodActual where
  id
  organisationId := id
  rebateAgreementId := id
  periodStart := ⟨2023, 5, 1, by decide⟩
  periodEnd := ⟨2023, 7, 31, by decide⟩
  actualSpend := none
  actualVolume := none
  entrySource := .manual
  expectedAmount := some expectedAmount
  expectedAmountStatus := "estimated"
  expectedAmountSourceBasis := none
  expectedAmountCalculatedAt := none
  expectedAmountApprovedAt := none
  expectedAmountApprovedByUserId := none
  expectedAmountCurrentEventId := none
  earnedAmount := none
  earnedAt := none
  receivedAmount := none
  receivedReference := none
  status := .onTrack
  statusCalculatedAt := none

/-- Two organisations that have a supplier of the same name, each with an agreement and an open
period. -/
def twoMillers : CopilotTables where
  suppliers := [⟨1, ⟨1, "Millers"⟩⟩, ⟨2, ⟨2, "Millers"⟩⟩]
  purchaseInvoices := []
  purchaseInvoiceLines := []
  purchaseTransactions := []
  rebateAgreements := [volumeAgreement 1 "Flour volume", volumeAgreement 2 "Bran volume"]
  rebatePeriodActuals := [openPeriod 1 ⟨5000000⟩, openPeriod 2 ⟨7000000⟩]
  contracts := []

theorem twoMillers_tenantKeys : twoMillers.TenantKeys where
  invoiceSuppliers := by decide
  transactionSuppliers := by decide
  lineInvoices := by decide
  agreementSuppliers := by decide
  periodAgreements := by decide
  contractSuppliers := by decide

/-- A model that asks for the rebates of whatever supplier there is. -/
def anySupplier : LLMProvider where
  completeStructured :=
    fun _ => .ok ⟨"rebate_status", fun field => if field = "supplier" then some "%" else none⟩
  complete := fun _ => .ok "One period is open."

theorem twoMillers_answers_safely :
    AnswersSafely asciiTexts twoMillers anySupplier 1 "buyer" "Which rebates are open?" ∧
    (openPeriods twoMillers 1).map Prod.snd = ["Flour volume"] :=
  ⟨answers_safely asciiTexts twoMillers_tenantKeys anySupplier 1 "buyer"
    "Which rebates are open?", by decide⟩

end ProcureFoundation.Copilot
