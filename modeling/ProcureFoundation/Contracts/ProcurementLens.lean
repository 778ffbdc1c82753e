import ProcureFoundation.Canvas.LensGraph
import ProcureFoundation.Contracts.Listing

/-!
# The procurement lens

The graph shows the suppliers that are not deleted, and of the contracts those whose stored status
says that they are about to be renewed. The spend of a supplier and the leakage come from other
services.
-/

namespace ProcureFoundation.Contracts

open Canvas

def supplierInput (spendBySupplierId : ℕ → Money) (supplier : Supplier) : SupplierSpendInput where
  id := supplier.id
  publicId := toString supplier.publicId
  name := supplier.legalName
  category := supplier.category
  totalSpend := (spendBySupplierId supplier.id).number

def renewalInput (row : ContractRow) : ContractRenewalInput where
  contractPublicId := toString row.contract.publicId
  supplierId := row.supplierId
  title := row.contract.title
  expiryDate := row.contract.expiryDate
  status := row.contract.status.value

def ContractTables.listedSuppliers (tables : ContractTables) : List Supplier :=
  tables.suppliers.filter fun supplier => !supplier.deleted

/-- The date of the request does not enter the lens. -/
def buildProcurementLens (tables : ContractTables) (spendBySupplierId : ℕ → Money)
    (aggregateLeakage : Money) : Except String CanvasGraph :=
  if tables.listedSuppliers = [] then .ok ⟨[], []⟩
  else
    let supplierInputs := tables.listedSuppliers.map (supplierInput spendBySupplierId)
    let contractRenewals := (tables.contracts.filter fun row =>
      ["expiring_soon", "notice_period_open"].contains row.contract.status.value).map renewalInput
    buildProcurementLensGraph supplierInputs aggregateLeakage.number contractRenewals

end ProcureFoundation.Contracts
