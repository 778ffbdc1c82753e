import ProcureFoundation.Contracts.ContractValidity
import ProcureFoundation.Foundation.KeyedRows

/-!
# Listing contracts

The status of a contract is derived from its dates whenever its row is written, and stored with the
other columns. A listing selects rows by the stored status and shows the one that is derived on the
day of the request. Reading writes nothing, as its session is closed without a commit.
-/

namespace ProcureFoundation.Contracts

open Outcome KeyedRows

def ContractStatus.value : ContractStatus → String
  | .active => "active"
  | .noticePeriodOpen => "notice_period_open"
  | .expiringSoon => "expiring_soon"
  | .expired => "expired"
  | .autoRenewing => "auto_renewing"

structure Supplier where
  id : ℕ
  publicId : ℕ
  legalName : String
  category : Option String
  deleted : Bool
deriving DecidableEq

/-- The business date on which the status was derived has no column. -/
structure ContractRow where
  supplierId : ℕ
  contract : Contract
  refreshedOn : Date

structure ContractTables where
  suppliers : List Supplier
  contracts : List ContractRow

structure ContractTables.Constraints (tables : ContractTables) : Prop where
  supplierIds : (tables.suppliers.map Supplier.id).Nodup
  contractIds : (tables.contracts.map fun row => row.contract.id).Nodup
  publicIds : (tables.contracts.map fun row => row.contract.publicId).Nodup
  supplierOf : ∀ row ∈ tables.contracts, row.supplierId ∈ tables.suppliers.map Supplier.id

instance (tables : ContractTables) : Decidable tables.Constraints :=
  decidable_of_iff ((tables.suppliers.map Supplier.id).Nodup ∧
    (tables.contracts.map fun row => row.contract.id).Nodup ∧
      (tables.contracts.map fun row => row.contract.publicId).Nodup ∧
        ∀ row ∈ tables.contracts, row.supplierId ∈ tables.suppliers.map Supplier.id)
    ⟨fun h => ⟨h.1, h.2.1, h.2.2.1, h.2.2.2⟩, fun h => ⟨h.1, h.2, h.3, h.4⟩⟩

/-- The suppliers and contracts that an organisation sees. -/
structure ContractLedger extends ContractTables where
  constraints : toContractTables.Constraints

def ContractLedger.empty : ContractLedger := ⟨⟨[], []⟩, by decide⟩

def ContractTables.commit (tables : ContractTables) : Except String ContractLedger :=
  if h : tables.Constraints then .ok ⟨tables, h⟩ else .error "the tables violate a constraint"

/-- The draft is the payload with the identifiers that the database gives to its row. -/
def createContract (ledger : ContractLedger) (supplierPublicId : ℕ) (draft : ContractColumns)
    (asOfDate : Date) : Except String ContractLedger :=
  match lookup Supplier.publicId ledger.suppliers supplierPublicId with
  | none => .error "Supplier not found"
  | some supplier => do
    let refreshed ← refreshStatus draft.loaded asOfDate
    if h : refreshed.columns.Checks then
      ContractTables.commit { ledger.toContractTables with
        contracts := ledger.contracts ++ [⟨supplier.id, ⟨refreshed.columns, h⟩, asOfDate⟩] }
    else .error "new row violates check constraint"

def promoteContract (driver : Driver) (ledger : ContractLedger) (contractPublicId : ℕ)
    (call : PromotionCall) : Except String ContractLedger :=
  match lookup (fun row : ContractRow => row.contract.publicId) ledger.contracts contractPublicId with
  | none => .error "Contract not found"
  | some row => do
    let updated ← call.run driver row.contract
    ContractTables.commit { ledger.toContractTables with
      contracts := replace (fun row => row.contract.id) ⟨row.supplierId, updated.1, call.asOfDate⟩
        ledger.contracts }

inductive ContractWrite where
  | create (supplierPublicId : ℕ) (draft : ContractColumns) (asOfDate : Date)
  | promote (contractPublicId : ℕ) (call : PromotionCall)
  | changeSuppliers (suppliers : List Supplier)

def ContractWrite.run (driver : Driver) (ledger : ContractLedger) : ContractWrite →
    Except String ContractLedger
  | create supplierPublicId draft asOfDate => createContract ledger supplierPublicId draft asOfDate
  | promote contractPublicId call => promoteContract driver ledger contractPublicId call
  | changeSuppliers suppliers => ContractTables.commit { ledger.toContractTables with suppliers }

/-- A write that raises is rolled back. -/
def ContractWrite.after (driver : Driver) (ledger : ContractLedger) (write : ContractWrite) :
    ContractLedger :=
  match write.run driver ledger with
  | .ok committed => committed
  | .error _ => ledger

structure ContractRead where
  publicId : ℕ
  supplierPublicId : ℕ
  title : String
  contractNumber : Option String
  startDate : Date
  expiryDate : Date
  noticePeriodDays : ℤ
  noticeDeadline : Date
  autoRenew : Bool
  renewalTermMonths : Option ℤ
  nextRenewalDate : Option Date
  escalationType : String
  escalationRatePct : Option (Numeric 6)
  status : String

def toReadModel (contract : ContractColumns) (supplierPublicId : ℕ) :
    Except String ContractRead := do
  let derived ← getDerivedFields contract
  return {
    publicId := contract.publicId
    supplierPublicId := supplierPublicId
    title := contract.title
    contractNumber := contract.contractNumber
    startDate := contract.startDate
    expiryDate := contract.expiryDate
    noticePeriodDays := contract.noticePeriodDays
    noticeDeadline := derived.noticeDeadline
    autoRenew := contract.autoRenew
    renewalTermMonths := contract.renewalTermMonths
    nextRenewalDate := derived.nextRenewalDate
    escalationType := contract.escalationType
    escalationRatePct := contract.escalationRatePct
    status := contract.status.value }

def ContractTables.withSuppliers (tables : ContractTables) : List (ContractRow × Supplier) :=
  tables.contracts.flatMap fun row =>
    (tables.suppliers.filter fun supplier => supplier.id == row.supplierId).map fun supplier =>
      (row, supplier)

/-- A status that is missing or empty selects every contract. -/
def listContracts (tables : ContractTables) (status : Option String) (asOfDate : Date) :
    Except String (List ContractRead) :=
  (tables.withSuppliers.filter fun (row, _) =>
    (status.filter fun status => status != "").all (row.contract.status.value == ·)).mapM
      fun (row, supplier) => do
        let refreshed ← refreshStatus row.contract.loaded asOfDate
        toReadModel refreshed.columns supplier.publicId

end ProcureFoundation.Contracts
