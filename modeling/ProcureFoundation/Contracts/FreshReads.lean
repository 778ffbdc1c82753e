import ProcureFoundation.Contracts.Lifecycle
import ProcureFoundation.Contracts.ProcurementLens

/-!
# Fresh reads of the contract status

A listing and the procurement lens select contracts by the status that was stored with the last
write. They agree with the status on the day of the read exactly when no contract has passed from
one status to another in between.
-/

namespace ProcureFoundation.Contracts

open Canvas Outcome KeyedRows

/-- The status is derived with the days that count as soon by default. -/
def ContractColumns.terms (contract : ContractColumns) : ContractTerms where
  expiryDate := contract.expiryDate
  noticePeriodDays := contract.noticePeriodDays
  autoRenew := contract.autoRenew
  expiringSoonThresholdDays := 90

/-- The status of a contract on a day. -/
def ContractColumns.statusOn (contract : ContractColumns) (today : Date) : Option ContractStatus :=
  (contract.terms.statusOn today).toOption

def ContractRow.statusOn (row : ContractRow) (today : Date) : Option ContractStatus :=
  row.contract.statusOn today

def aboutToRenew (status : ContractStatus) : Bool :=
  [ContractStatus.expiringSoon, .noticePeriodOpen].contains status

/-- The node of a contract that has the given status. -/
def nodeOf (row : ContractRow) (status : ContractStatus) : CanvasNode :=
  renewalNode { renewalInput row with status := status.value }

/-- The listing of every status shows the contracts that have it on the day, and the lens, if it is
returned, those that are about to be renewed. -/
structure ReadFresh (tables : ContractTables) (spendBySupplierId : ℕ → Money)
    (aggregateLeakage : Money) (today : Date) : Prop where
  listing : ∀ status : ContractStatus, ∃ reads, listContracts tables (some status.value) today =
    .ok reads ∧ reads.map ContractRead.publicId =
      (tables.contracts.filter fun row => row.statusOn today = some status).map
        (fun row => row.contract.publicId) ∧
    ∀ read ∈ reads, read.status = status.value
  lens : ∀ graph, buildProcurementLens tables spendBySupplierId aggregateLeakage = .ok graph →
    graph.ofType "contract_renewal" = tables.contracts.flatMap fun row =>
      if row.supplierId ∈ tables.listedSuppliers.map Supplier.id then
        ((row.statusOn today).filter aboutToRenew).toList.map (nodeOf row)
      else []

/-- No contract has changed its status since its last write, and the fields that a listing derives
exist. -/
def Unmoved (tables : ContractTables) (today : Date) : Prop :=
  ∀ row ∈ tables.contracts, row.statusOn today = row.statusOn row.refreshedOn ∧
    ∃ fields, getDerivedFields row.contract.toContractColumns = .ok fields

section Writes

variable {driver : Driver} {ledger committed : ContractLedger} {tables : ContractTables}
  {row : ContractRow}

/-- The stored status is that of the day of the last write. -/
def StatusesDerived (tables : ContractTables) : Prop :=
  ∀ row ∈ tables.contracts, row.statusOn row.refreshedOn = some row.contract.status

theorem commit_eq_ok (h : tables.commit = .ok committed) : committed.toContractTables = tables := by
  unfold ContractTables.commit at h
  split at h
  · rw [← Except.ok.inj h]
  · exact nomatch h

theorem statusOn_of_deadline {contract : ContractColumns} {deadline : Date}
    (h : calculateNoticeDeadline contract.expiryDate contract.noticePeriodDays = .ok deadline)
    (today : Date) : contract.statusOn today =
      some (classifyContractStatus today contract.expiryDate deadline contract.autoRenew) :=
  congrArg Except.toOption (bind_of_eq_ok h _)

theorem statusOn_of_refresh {draft : ContractColumns} {refreshed : SessionContract}
    {asOfDate : Date} (h : refreshStatus draft.loaded asOfDate = .ok refreshed) :
    refreshed.columns.statusOn asOfDate = some refreshed.columns.status := by
  obtain ⟨-, deadline, hDeadline, rfl⟩ := refreshStatus_eq_ok.mp h
  exact statusOn_of_deadline hDeadline asOfDate

theorem statusOn_of_promotion (hDriver : driver.Strict) {contract : Contract} {call : PromotionCall}
    {result : Contract × ContractExtraction} (h : call.run driver contract = .ok result) :
    result.1.statusOn call.asOfDate = some result.1.status := by
  obtain ⟨-, ⟨refreshed, hRefreshed, hWritten⟩, -⟩ := promoteExtractionFields_eq_ok.mp h
  obtain ⟨-, deadline, hDeadline, rfl⟩ := refreshStatus_eq_ok.mp hRefreshed
  have hPromoted := promoted_of_run hDriver h
  have hStored : calculateNoticeDeadline result.1.expiryDate result.1.noticePeriodDays =
      .ok deadline := by
    rw [hPromoted.expiryDate, hPromoted.noticePeriodDays]
    exact hDeadline
  have hText : call.texts .autoRenew = none :=
    ((writeColumn_refused hDriver.boolean).mp hWritten.autoRenew).1
  have hRenew : SessionContract.autoRenew ⟨contract.toContractColumns, call.texts⟩ =
      contract.autoRenew := by
    simp only [SessionContract.autoRenew, hText]
  have hStatus : result.1.status = classifyContractStatus call.asOfDate contract.expiryDate deadline
      (SessionContract.autoRenew ⟨contract.toContractColumns, call.texts⟩) := hWritten.others.2.2
  rw [statusOn_of_deadline hStored, hPromoted.expiryDate, hPromoted.autoRenew, hStatus, hRenew]

theorem StatusesDerived.append (h : StatusesDerived tables)
    (hRow : row.statusOn row.refreshedOn = some row.contract.status) :
    StatusesDerived { tables with contracts := tables.contracts ++ [row] } := by
  intro other hOther
  obtain hOld | hNew := List.mem_append.mp hOther
  · exact h other hOld
  · rw [List.mem_singleton.mp hNew]
    exact hRow

theorem StatusesDerived.replace (h : StatusesDerived tables)
    (hRow : row.statusOn row.refreshedOn = some row.contract.status) :
    StatusesDerived
      { tables with contracts := replace (fun row => row.contract.id) row tables.contracts } := by
  intro other hOther
  obtain ⟨rfl, -⟩ | ⟨hOld, -⟩ := mem_replace hOther
  · exact hRow
  · exact h other hOld

theorem StatusesDerived.run (hDriver : driver.Strict) (h : StatusesDerived ledger.toContractTables)
    {write : ContractWrite} (hRun : write.run driver ledger = .ok committed) :
    StatusesDerived committed.toContractTables := by
  cases write with
  | create supplierPublicId draft asOfDate =>
    change createContract ledger supplierPublicId draft asOfDate = .ok committed at hRun
    unfold createContract at hRun
    split at hRun
    · cases hRun
    · obtain ⟨refreshed, hRefreshed, hCommit⟩ := exists_of_bind_eq_ok hRun
      split at hCommit
      · rw [commit_eq_ok hCommit]
        exact h.append (statusOn_of_refresh hRefreshed)
      · cases hCommit
  | promote contractPublicId call =>
    change promoteContract driver ledger contractPublicId call = .ok committed at hRun
    unfold promoteContract at hRun
    split at hRun
    · cases hRun
    · obtain ⟨updated, hUpdated, hCommit⟩ := exists_of_bind_eq_ok hRun
      rw [commit_eq_ok hCommit]
      exact h.replace (statusOn_of_promotion hDriver hUpdated)
  | changeSuppliers suppliers =>
    rw [commit_eq_ok hRun]
    exact h

theorem StatusesDerived.after (hDriver : driver.Strict)
    (h : StatusesDerived ledger.toContractTables) (write : ContractWrite) :
    StatusesDerived (write.after driver ledger).toContractTables := by
  unfold ContractWrite.after
  split
  · rename_i committed hRun
    exact h.run hDriver hRun
  · exact h

theorem StatusesDerived.foldl (hDriver : driver.Strict)
    (h : StatusesDerived ledger.toContractTables) (writes : List ContractWrite) :
    StatusesDerived (writes.foldl (ContractWrite.after driver) ledger).toContractTables := by
  induction writes generalizing ledger with
  | nil => exact h
  | cons write writes ih => exact ih (h.after hDriver write)

end Writes

section Listing

variable {tables : ContractTables} {row : ContractRow} {pair : ContractRow × Supplier}
  {status : ContractStatus} {today : Date} {read : ContractRead} {reads : List ContractRead}

theorem value_injective {status other : ContractStatus} (h : status.value = other.value) :
    status = other := by
  cases status <;> cases other <;> first | rfl | exact absurd h (by decide)

def readOf (today : Date) (pair : ContractRow × Supplier) : Except String ContractRead := do
  let refreshed ← refreshStatus pair.1.contract.loaded today
  toReadModel refreshed.columns pair.2.publicId

theorem readOf_eq_ok (h : readOf today pair = .ok read) :
    (∃ fields, getDerivedFields pair.1.contract.toContractColumns = .ok fields) ∧
      read.publicId = pair.1.contract.publicId := by
  obtain ⟨refreshed, hRefreshed, hRead⟩ := exists_of_bind_eq_ok h
  obtain ⟨-, deadline, -, rfl⟩ := refreshStatus_eq_ok.mp hRefreshed
  obtain ⟨fields, hFields, hResult⟩ := exists_of_bind_eq_ok hRead
  rw [← Except.ok.inj hResult]
  exact ⟨⟨fields, hFields⟩, rfl⟩

theorem exists_readOf (hStatus : pair.1.statusOn today = some status)
    (hFields : ∃ fields, getDerivedFields pair.1.contract.toContractColumns = .ok fields) :
    ∃ read, readOf today pair = .ok read ∧ read.publicId = pair.1.contract.publicId ∧
      read.status = status.value := by
  obtain ⟨fields, hDerived⟩ := hFields
  obtain ⟨deadline, hDeadline, -⟩ := exists_of_bind_eq_ok hDerived
  rw [ContractRow.statusOn, statusOn_of_deadline hDeadline] at hStatus
  have hRefreshed :=
    (@refreshStatus_eq_ok pair.1.contract.loaded _ today).mpr ⟨⟨rfl, rfl⟩, deadline, hDeadline, rfl⟩
  refine ⟨_, (bind_of_eq_ok hRefreshed _).trans (bind_of_eq_ok hDerived _), rfl, ?_⟩
  rw [← Option.some.inj hStatus]
  rfl

/-- Every contract is joined with its supplier. -/
theorem withSuppliers_map_fst (h : tables.Constraints) :
    tables.withSuppliers.map Prod.fst = tables.contracts := by
  rw [ContractTables.withSuppliers, List.map_flatMap]
  refine (List.flatMap_congr fun row hRow => ?_).trans (List.flatMap_singleton' _)
  obtain ⟨supplier, hSupplier⟩ :=
    Option.isSome_iff_exists.mp (lookup_isSome.mpr (h.supplierOf row hRow))
  rw [filter_key h.supplierIds, hSupplier]
  rfl

theorem listContracts_value : listContracts tables (some status.value) today =
    (tables.withSuppliers.filter fun pair => decide (pair.1.contract.status = status)).mapM
      (readOf today) := by
  have hGiven : (some status.value).filter (fun status => status != "") = some status.value := by
    cases status <;> rfl
  rw [listContracts, hGiven]
  refine congrArg₂ _ rfl (List.filter_congr fun pair _ => ?_)
  refine (beq_eq_decide ..).trans (decide_eq_decide.mpr ⟨value_injective, congrArg _⟩)

/-- The contracts with a stored status, as the listing joins and selects them. -/
theorem map_filter_withSuppliers (h : tables.Constraints) (p : ContractRow → Bool) :
    (tables.withSuppliers.filter fun pair => p pair.1).map Prod.fst =
      tables.contracts.filter p := by
  rw [← withSuppliers_map_fst h, List.filter_map]
  rfl

theorem mem_withSuppliers (h : tables.Constraints) (hRow : row ∈ tables.contracts) :
    ∃ supplier, (row, supplier) ∈ tables.withSuppliers := by
  rw [← withSuppliers_map_fst h] at hRow
  obtain ⟨⟨row, supplier⟩, hPair, rfl⟩ := List.mem_map.mp hRow
  exact ⟨supplier, hPair⟩

/-- The reads of a listing are those of the contracts with the stored status. -/
theorem publicIds_of_listing (h : tables.Constraints)
    (hReads : listContracts tables (some status.value) today = .ok reads) :
    reads.map ContractRead.publicId =
      (tables.contracts.filter fun row => decide (row.contract.status = status)).map
      fun row => row.contract.publicId := by
  rw [listContracts_value] at hReads
  rw [← map_filter_withSuppliers h fun row => decide (row.contract.status = status), List.map_map]
  exact map_eq_of_mapM hReads fun pair read hRead => (readOf_eq_ok hRead).2

theorem exists_fields_of_listing (h : tables.Constraints)
    (hReads : listContracts tables (some status.value) today = .ok reads)
    (hRow : row ∈ tables.contracts) (hStatus : row.contract.status = status) :
    ∃ fields, getDerivedFields row.contract.toContractColumns = .ok fields := by
  rw [listContracts_value] at hReads
  obtain ⟨supplier, hPair⟩ := mem_withSuppliers h hRow
  obtain ⟨read, hRead⟩ :=
    exists_of_mem_mapM hReads (List.mem_filter.mpr ⟨hPair, decide_eq_true hStatus⟩)
  exact (readOf_eq_ok hRead).1

/-- Where the stored status is that of the day, the listing shows it. -/
theorem exists_listing (h : tables.Constraints)
    (hFresh : ∀ row ∈ tables.contracts, row.statusOn today = some row.contract.status ∧
      ∃ fields, getDerivedFields row.contract.toContractColumns = .ok fields) :
    ∃ reads, listContracts tables (some status.value) today = .ok reads ∧ ∀ read ∈ reads,
      read.status = status.value := by
  have hMem : ∀ {pair : ContractRow × Supplier}, pair ∈ tables.withSuppliers →
      pair.1 ∈ tables.contracts := by
    intro pair hPair
    rw [← withSuppliers_map_fst h]
    exact List.mem_map_of_mem hPair
  have hRead : ∀ pair ∈ tables.withSuppliers.filter fun pair =>
    decide (pair.1.contract.status = status),
      ∃ read, readOf today pair = .ok read ∧ read.publicId = pair.1.contract.publicId ∧
        read.status = status.value := by
    intro pair hPair
    obtain ⟨hJoined, hStatus⟩ := List.mem_filter.mp hPair
    obtain ⟨hOnDay, hFields⟩ := hFresh pair.1 (hMem hJoined)
    rw [of_decide_eq_true hStatus] at hOnDay
    exact exists_readOf hOnDay hFields
  obtain ⟨reads, hReads⟩ := exists_mapM fun pair hPair => (hRead pair hPair).imp fun _ hOk => hOk.1
  refine ⟨reads, listContracts_value.trans hReads, fun read hMember => ?_⟩
  obtain ⟨pair, hPair, hSource⟩ := exists_source_of_mem hReads hMember
  obtain ⟨other, hOther, -, hValue⟩ := hRead pair hPair
  rwa [← Except.ok.inj (hSource.symm.trans hOther)] at hValue

end Listing

section Lens

variable {tables : ContractTables} {today : Date} {aggregateLeakage : Money}
  {spendBySupplierId : ℕ → Money} {graph : CanvasGraph}

theorem lookup_supplierInput (suppliers : List Supplier) (id : ℕ) :
    ((suppliersById (suppliers.map (supplierInput spendBySupplierId))).lookup id).isSome ↔
      id ∈ suppliers.map Supplier.id := by
  rw [suppliersById, lookup_dictOf_isSome, List.map_map, List.map_map]
  rfl

/-- Where the stored status is that of the day, so is the status in the lens. -/
theorem renewalNodes_eq (hFresh : ∀ row ∈ tables.contracts, row.statusOn today = some row.contract.status)
    (hGraph : buildProcurementLens tables spendBySupplierId aggregateLeakage = .ok graph) :
    graph.ofType "contract_renewal" = tables.contracts.flatMap fun row =>
      if row.supplierId ∈ tables.listedSuppliers.map Supplier.id then
        ((row.statusOn today).filter aboutToRenew).toList.map (nodeOf row)
      else [] := by
  unfold buildProcurementLens at hGraph
  split at hGraph
  · rename_i hNone
    rw [← Except.ok.inj hGraph, hNone]
    exact (List.flatMap_eq_nil_iff.mpr fun row _ => if_neg List.not_mem_nil).symm
  · rename_i hSome
    dsimp only at hGraph
    rw [buildProcurementLensGraph_eq fun hNil => hSome (List.map_eq_nil_iff.mp hNil)] at hGraph
    obtain ⟨categoryTotals, -, hTotals⟩ := exists_of_bind_eq_ok hGraph
    obtain ⟨critical, -, rfl⟩ := bind_pure_eq_ok.mp hTotals
    rw [ofType_renewal, knownRenewals, List.filterMap_map, List.filterMap_filter,
      List.map_filterMap, List.filterMap_eq_flatMap_toList]
    refine List.flatMap_congr fun row hRow => ?_
    have hListed := @lookup_supplierInput spendBySupplierId tables.listedSuppliers row.supplierId
    have hRenew : ["expiring_soon", "notice_period_open"].contains row.contract.status.value =
        aboutToRenew row.contract.status := by
      cases row.contract.status <;> rfl
    have hId : (renewalInput row).supplierId = row.supplierId := rfl
    rw [hFresh row hRow, hRenew, Function.comp_apply, hId]
    cases hSupplier :
      (suppliersById (tables.listedSuppliers.map (supplierInput spendBySupplierId))).lookup
        row.supplierId with
    | none =>
      rw [hSupplier] at hListed
      rw [if_neg fun hMem => absurd (hListed.mpr hMem) Bool.false_ne_true]
      cases aboutToRenew row.contract.status <;> rfl
    | some supplier =>
      rw [if_pos (hListed.mp (hSupplier ▸ rfl))]
      cases hStatus : aboutToRenew row.contract.status with
      | true =>
        rw [Option.filter_some_pos hStatus]
        rfl
      | false =>
        rw [Option.filter_some_neg hStatus]
        rfl

end Lens

/-- The contract is stored on the day it starts. -/
def cocoaWrites : List ContractWrite :=
  [.changeSuppliers [⟨1, 7, "Cocoa growers", none, false⟩],
    .create 7 cocoaColumns cocoaColumns.startDate]

def cocoaLedger : ContractLedger :=
  cocoaWrites.foldl (ContractWrite.after typedDriver) ContractLedger.empty

end ProcureFoundation.Contracts
