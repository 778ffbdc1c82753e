import ProcureFoundation.Foundation.CalendarDate
import ProcureFoundation.Foundation.KeyedTotals

/-!
# The graph of the procurement lens

One pass over the suppliers draws their nodes and edges while it adds up the categories and keeps
the suppliers by identifier; the categories, the leakage and the renewals of known suppliers follow.
Amounts are any numbers, so the totals are those of the arithmetic context and comparing a NaN
raises.
-/

namespace ProcureFoundation.Canvas

open Outcome

inductive NodeStatus where
  | positive
  | warning
  | critical
deriving DecidableEq

structure CanvasNode where
  id : String
  nodeType : String
  label : String
  metricValue : Number
  status : NodeStatus
  trend : Option String
  details : List (String × String)
deriving DecidableEq

structure CanvasEdge where
  id : String
  sourceId : String
  targetId : String
  status : NodeStatus
deriving DecidableEq

structure CanvasGraph where
  nodes : List CanvasNode
  edges : List CanvasEdge
deriving DecidableEq

structure SupplierSpendInput where
  id : ℕ
  publicId : String
  name : String
  category : Option String
  totalSpend : Number
deriving DecidableEq

structure ContractRenewalInput where
  contractPublicId : String
  supplierId : ℕ
  title : String
  expiryDate : Date
  status : String

def CanvasGraph.ofType (graph : CanvasGraph) (nodeType : String) : List CanvasNode :=
  graph.nodes.filter fun node => node.nodeType == nodeType

/-- No category and an empty one are the same. -/
def SupplierSpendInput.categoryKey (supplier : SupplierSpendInput) : String :=
  (supplier.category.filter fun category => category != "").getD "Uncategorised"

def supplierNode (supplier : SupplierSpendInput) : CanvasNode where
  id := supplier.publicId
  nodeType := "supplier"
  label := supplier.name
  metricValue := supplier.totalSpend
  status := .positive
  trend := none
  details := [("category", supplier.categoryKey)]

def supplierEdge (supplier : SupplierSpendInput) : CanvasEdge where
  id := supplier.publicId ++ "->category:" ++ supplier.categoryKey
  sourceId := supplier.publicId
  targetId := "category:" ++ supplier.categoryKey
  status := .positive

def categoryNode (category : String × Number) : CanvasNode where
  id := "category:" ++ category.1
  nodeType := "category"
  label := category.1
  metricValue := category.2
  status := .positive
  trend := none
  details := []

def categoryEdge (category : String × Number) : CanvasEdge where
  id := "category:" ++ category.1 ++ "->rebate_leakage"
  sourceId := "category:" ++ category.1
  targetId := "rebate_leakage"
  status := .positive

/-- Whether a number is above zero; a NaN has no place in the order. -/
def isPositive : Number → Except String Bool
  | .finite x => .ok (decide (0 < x))
  | .infinity negative => .ok !negative
  | .nan => .error "InvalidOperation"

def leakageNode (aggregateLeakage : Number) (critical : Bool) : CanvasNode where
  id := "rebate_leakage"
  nodeType := "rebate_leakage"
  label := "Rebate Leakage"
  metricValue := aggregateLeakage
  status := if critical then .critical else .positive
  trend := none
  details := []

def renewalNode (renewal : ContractRenewalInput) : CanvasNode where
  id := "contract:" ++ renewal.contractPublicId
  nodeType := "contract_renewal"
  label := renewal.title
  metricValue := .finite 0
  status := if renewal.status = "notice_period_open" then .critical else .warning
  trend := none
  details := [("expiry_date", renewal.expiryDate.isoFormat), ("status", renewal.status)]

def renewalEdge (supplier : SupplierSpendInput) (renewal : ContractRenewalInput) : CanvasEdge where
  id := supplier.publicId ++ "->" ++ ("contract:" ++ renewal.contractPublicId)
  sourceId := supplier.publicId
  targetId := "contract:" ++ renewal.contractPublicId
  status := .warning

/-- What is kept while the suppliers are gone through. -/
structure LensState where
  nodes : List CanvasNode
  edges : List CanvasEdge
  categoryTotals : List (String × Number)
  supplierById : List (ℕ × SupplierSpendInput)

def addSupplier (state : LensState) (supplier : SupplierSpendInput) : Except String LensState := do
  let categoryTotals ← addByKey state.categoryTotals (supplier.categoryKey, supplier.totalSpend)
  return {
    nodes := state.nodes ++ [supplierNode supplier]
    edges := state.edges ++ [supplierEdge supplier]
    categoryTotals := categoryTotals
    supplierById := assign state.supplierById supplier.id supplier }

def addCategory (graph : CanvasGraph) (category : String × Number) : CanvasGraph :=
  ⟨graph.nodes ++ [categoryNode category], graph.edges ++ [categoryEdge category]⟩

/-- A renewal of a supplier that is not in the snapshot is left out. -/
def addRenewal (supplierById : List (ℕ × SupplierSpendInput)) (graph : CanvasGraph)
    (renewal : ContractRenewalInput) : CanvasGraph :=
  match supplierById.lookup renewal.supplierId with
  | none => graph
  | some supplier =>
    ⟨graph.nodes ++ [renewalNode renewal], graph.edges ++ [renewalEdge supplier renewal]⟩

def buildProcurementLensGraph (suppliers : List SupplierSpendInput) (aggregateLeakage : Number)
    (contractRenewals : List ContractRenewalInput) : Except String CanvasGraph := do
  if suppliers = [] then
    return ⟨[], []⟩
  let state ← suppliers.foldlM addSupplier ⟨[], [], [], []⟩
  let graph := state.categoryTotals.foldl addCategory ⟨state.nodes, state.edges⟩
  let critical ← isPositive aggregateLeakage
  let graph : CanvasGraph := ⟨graph.nodes ++ [leakageNode aggregateLeakage critical], graph.edges⟩
  return contractRenewals.foldl (addRenewal state.supplierById) graph

def spendRow (supplier : SupplierSpendInput) : String × Number :=
  (supplier.categoryKey, supplier.totalSpend)

def suppliersById (suppliers : List SupplierSpendInput) : List (ℕ × SupplierSpendInput) :=
  dictOf (suppliers.map fun supplier => (supplier.id, supplier))

/-- The renewals whose supplier is known, with that supplier. -/
def knownRenewals (supplierById : List (ℕ × SupplierSpendInput))
    (contractRenewals : List ContractRenewalInput) :
    List (SupplierSpendInput × ContractRenewalInput) :=
  contractRenewals.filterMap fun renewal =>
    (supplierById.lookup renewal.supplierId).map fun supplier => (supplier, renewal)

/-- The graph of the suppliers, the totals of their categories, the leakage and the renewals of
known suppliers. -/
def lensGraph (suppliers : List SupplierSpendInput) (categoryTotals : List (String × Number))
    (aggregateLeakage : Number) (critical : Bool)
    (renewals : List (SupplierSpendInput × ContractRenewalInput)) :
    CanvasGraph where
  nodes := suppliers.map supplierNode ++ categoryTotals.map categoryNode ++
    [leakageNode aggregateLeakage critical] ++ renewals.map fun renewal => renewalNode renewal.2
  edges := suppliers.map supplierEdge ++ categoryTotals.map categoryEdge ++
    renewals.map fun renewal => renewalEdge renewal.1 renewal.2

section Passes

variable {suppliers : List SupplierSpendInput} {state result : LensState} {graph : CanvasGraph}
  {categoryTotals : List (String × Number)} {supplierById : List (ℕ × SupplierSpendInput)}
  {contractRenewals : List ContractRenewalInput} {aggregateLeakage : Number} {critical : Bool}

theorem foldlM_addSupplier : suppliers.foldlM addSupplier state = (do
    let categoryTotals ← (suppliers.map spendRow).foldlM addByKey state.categoryTotals
    return {
      nodes := state.nodes ++ suppliers.map supplierNode
      edges := state.edges ++ suppliers.map supplierEdge
      categoryTotals := categoryTotals
      supplierById := (suppliers.map fun supplier => (supplier.id, supplier)).foldl
        (fun entries row => assign entries row.1 row.2) state.supplierById }) := by
  induction suppliers generalizing state with
  | nil =>
    simp only [List.map_nil, List.append_nil]
    rfl
  | cons supplier suppliers ih =>
    rw [List.foldlM_cons, List.map_cons, List.foldlM_cons]
    cases hTotals : addByKey state.categoryTotals (spendRow supplier) with
    | error message =>
      have hStep : addSupplier state supplier = .error message := bind_of_eq_error hTotals _
      rw [hStep]
      rfl
    | ok next =>
      have hStep : addSupplier state supplier = .ok ⟨state.nodes ++ [supplierNode supplier],
          state.edges ++ [supplierEdge supplier], next,
          assign state.supplierById supplier.id supplier⟩ :=
        bind_of_eq_ok hTotals _
      rw [bind_of_eq_ok hStep, ih]
      simp only [List.append_assoc, List.singleton_append, List.map_cons, List.foldl_cons]
      rfl

theorem foldl_addCategory : categoryTotals.foldl addCategory graph =
    ⟨graph.nodes ++ categoryTotals.map categoryNode,
      graph.edges ++ categoryTotals.map categoryEdge⟩ := by
  induction categoryTotals generalizing graph with
  | nil =>
    rw [List.map_nil, List.map_nil, List.append_nil, List.append_nil]
    rfl
  | cons category categoryTotals ih =>
    rw [List.foldl_cons, ih, addCategory]
    simp only [List.append_assoc, List.singleton_append, List.map_cons]

theorem foldl_addRenewal : contractRenewals.foldl (addRenewal supplierById) graph =
    ⟨graph.nodes ++ (knownRenewals supplierById contractRenewals).map
      (fun renewal => renewalNode renewal.2),
      graph.edges ++ (knownRenewals supplierById contractRenewals).map fun renewal =>
        renewalEdge renewal.1 renewal.2⟩ := by
  induction contractRenewals generalizing graph with
  | nil =>
    rw [knownRenewals, List.filterMap_nil, List.map_nil, List.map_nil, List.append_nil,
      List.append_nil]
    rfl
  | cons renewal contractRenewals ih =>
    rw [List.foldl_cons, ih, addRenewal, knownRenewals, knownRenewals]
    cases hFound : supplierById.lookup renewal.supplierId with
    | none =>
      rw [List.filterMap_cons_none (by rw [hFound]; rfl)]
    | some supplier =>
      rw [List.filterMap_cons_some (b := (supplier, renewal)) (by rw [hFound]; rfl)]
      simp only [List.append_assoc, List.singleton_append, List.map_cons]

/-- The passes over suppliers, categories and renewals one after the other. -/
theorem buildProcurementLensGraph_eq (hSome : suppliers ≠ []) :
    buildProcurementLensGraph suppliers aggregateLeakage contractRenewals = (do
      let categoryTotals ← (suppliers.map spendRow).foldlM addByKey []
      let critical ← isPositive aggregateLeakage
      return lensGraph suppliers categoryTotals aggregateLeakage critical
        (knownRenewals (suppliersById suppliers) contractRenewals)) := by
  unfold buildProcurementLensGraph
  rw [if_neg hSome]
  rw [foldlM_addSupplier]
  cases hTotals : (suppliers.map spendRow).foldlM addByKey [] with
  | error message => rfl
  | ok categoryTotals =>
    rw [bind_of_eq_ok rfl]
    cases hCritical : isPositive aggregateLeakage with
    | error message => rfl
    | ok critical =>
      refine congrArg Except.ok ?_
      rw [foldl_addCategory, foldl_addRenewal]
      rfl

theorem ofType_category (renewals : List (SupplierSpendInput × ContractRenewalInput)) :
    (lensGraph suppliers categoryTotals aggregateLeakage critical renewals).ofType "category" =
      categoryTotals.map categoryNode := by
  simp [CanvasGraph.ofType, lensGraph, List.filter_map, Function.comp_def, supplierNode,
    categoryNode, leakageNode, renewalNode]

theorem ofType_renewal (renewals : List (SupplierSpendInput × ContractRenewalInput)) :
    (lensGraph suppliers categoryTotals aggregateLeakage critical renewals).ofType "contract_renewal" =
      renewals.map fun renewal => renewalNode renewal.2 := by
  simp [CanvasGraph.ofType, lensGraph, List.filter_map, Function.comp_def, supplierNode,
    categoryNode, leakageNode, renewalNode]

end Passes

end ProcureFoundation.Canvas
