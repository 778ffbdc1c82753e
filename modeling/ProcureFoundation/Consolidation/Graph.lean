import ProcureFoundation.Consolidation.ScanRuns
import ProcureFoundation.Foundation.Outcomes

/-!
# The consolidation graph

Each flag becomes an edge between the nodes of its two suppliers. The suppliers are read without
those that have been deleted and the flags with all of theirs, so the graph of an organisation
is served only while no supplier of a flag has been deleted.
-/

namespace ProcureFoundation.Consolidation

open Matching Outcome

structure SupplierInput where
  id : ℕ
  publicId : ℕ
  name : String
deriving DecidableEq

structure GraphNode where
  id : ℕ
  label : String
  nodeType : String
  source : String
deriving DecidableEq

structure GraphEdge where
  sourceId : ℕ
  targetId : ℕ
  weight : FixedPoint 4
  similarityScore : FixedPoint 4
  combinedSpend : Option (FixedPoint 4)
  matchMethod : FlagMatchMethod
  status : FlagStatus
  source : String
deriving DecidableEq

/-- The graph so far; the nodes are kept with the identifiers of their suppliers. -/
structure DomainGraph where
  nodes : List GraphNode
  seenSupplierIds : List ℕ
  edges : List GraphEdge
deriving DecidableEq

structure PayloadEdge where
  edge : GraphEdge
  descriptionA : String
  descriptionB : String
  flagPublicId : ℕ
deriving DecidableEq

structure GraphPayload where
  nodes : List GraphNode
  edges : List PayloadEdge
deriving DecidableEq

inductive GraphError where
  | unknownSupplier (message : String)
  | indexError
deriving DecidableEq

/-- A dictionary of the suppliers holds the last one of each identifier. -/
def supplierById (suppliers : List SupplierInput) (supplierId : ℕ) :
    Except GraphError SupplierInput :=
  match (suppliers.filter (·.id == supplierId)).getLast? with
  | some supplier => .ok supplier
  | none =>
    .error (.unknownSupplier (s!"Consolidation flag references supplier_id={supplierId}, " ++
      "which was not in the supplied supplier list"))

def DomainGraph.visit (graph : DomainGraph) (supplier : SupplierInput) : DomainGraph :=
  if supplier.id ∈ graph.seenSupplierIds then graph
  else
    { graph with
      nodes := graph.nodes ++ [⟨supplier.publicId, supplier.name, "supplier", "suppliers"⟩]
      seenSupplierIds := graph.seenSupplierIds ++ [supplier.id] }

def edgeOf (supplierA supplierB : SupplierInput) (flag : ConsolidationFlagInput) : GraphEdge where
  sourceId := supplierA.publicId
  targetId := supplierB.publicId
  weight := flag.combinedSpend.getD flag.similarityScore
  similarityScore := flag.similarityScore
  combinedSpend := flag.combinedSpend
  matchMethod := flag.matchMethod
  status := flag.status
  source := "supplier_consolidation_flags"

def DomainGraph.draw (graph : DomainGraph) (supplierA supplierB : SupplierInput)
    (flag : ConsolidationFlagInput) : DomainGraph :=
  let visited := (graph.visit supplierA).visit supplierB
  { visited with edges := visited.edges ++ [edgeOf supplierA supplierB flag] }

def addFlag (suppliers : List SupplierInput) (graph : DomainGraph) (flag : ConsolidationFlagInput) :
    Except GraphError DomainGraph := do
  let supplierA ← supplierById suppliers flag.supplierAId
  let supplierB ← supplierById suppliers flag.supplierBId
  return graph.draw supplierA supplierB flag

def buildSupplierConsolidationGraph (suppliers : List SupplierInput)
    (flags : List ConsolidationFlagInput) : Except GraphError DomainGraph :=
  flags.foldlM (addFlag suppliers) ⟨[], [], []⟩

def liveSuppliers (store : Store) (organisationId : ℕ) : List Supplier :=
  (store.suppliers.filter (·.organisationId == organisationId)).filter (·.deletedAt.isNone)

def supplierInput (supplier : Supplier) : SupplierInput :=
  ⟨supplier.id, supplier.publicId, supplier.legalName⟩

def flagsOf (store : Store) (organisationId : ℕ) : List SupplierConsolidationFlag :=
  store.flags.filter (·.organisationId == organisationId)

def payloadEdge (flags : List SupplierConsolidationFlag) (edge : GraphEdge × ℕ) :
    Except GraphError PayloadEdge :=
  match flags[edge.2]? with
  | some flag => .ok ⟨edge.1, flag.input.descriptionA, flag.input.descriptionB, flag.publicId⟩
  | none => .error .indexError

def buildConsolidationGraphPayload (store : Store) (organisationId : ℕ) :
    Except GraphError GraphPayload := do
  let flags := flagsOf store organisationId
  let graph ← buildSupplierConsolidationGraph ((liveSuppliers store organisationId).map supplierInput)
    (flags.map SupplierConsolidationFlag.input)
  let edges ← graph.edges.zipIdx.mapM (payloadEdge flags)
  return ⟨graph.nodes, edges⟩

/-- The foreign keys of the flags. -/
def ForeignKeys (store : Store) : Prop :=
  ∀ flag ∈ store.flags, flag.input.supplierAId ∈ store.suppliers.map Supplier.id ∧
    flag.input.supplierBId ∈ store.suppliers.map Supplier.id

/-- The edge is that of the flag, drawn between its two suppliers. -/
structure EdgeServes (store : Store) (flag : SupplierConsolidationFlag) (edge : PayloadEdge) :
    Prop where
  flagPublicId : edge.flagPublicId = flag.publicId
  descriptionA : edge.descriptionA = flag.input.descriptionA
  descriptionB : edge.descriptionB = flag.input.descriptionB
  source : ∃ supplier ∈ store.suppliers, supplier.id = flag.input.supplierAId ∧
    supplier.publicId = edge.edge.sourceId
  target : ∃ supplier ∈ store.suppliers, supplier.id = flag.input.supplierBId ∧
    supplier.publicId = edge.edge.targetId

def GraphServed (store : Store) (organisationId : ℕ) : Prop :=
  ∃ payload, buildConsolidationGraphPayload store organisationId = .ok payload ∧
    List.Forall₂ (EdgeServes store) (flagsOf store organisationId) payload.edges

def IsLive (store : Store) (organisationId supplierId : ℕ) : Prop :=
  ∃ supplier ∈ store.suppliers, supplier.id = supplierId ∧
    supplier.organisationId = organisationId ∧ supplier.deletedAt = none

instance (store : Store) : Decidable (ForeignKeys store) :=
  inferInstanceAs (Decidable (∀ flag ∈ store.flags, _))

instance (store : Store) (organisationId supplierId : ℕ) :
    Decidable (IsLive store organisationId supplierId) :=
  inferInstanceAs (Decidable (∃ supplier ∈ store.suppliers, _))

variable {suppliers : List SupplierInput} {flag : ConsolidationFlagInput}
  {flags : List ConsolidationFlagInput} {graph : DomainGraph} {supplierId : ℕ} {store : Store}
  {organisationId : ℕ}

/-- Both suppliers of the flag are in the list. -/
def Known (suppliers : List SupplierInput) (flag : ConsolidationFlagInput) : Prop :=
  flag.supplierAId ∈ suppliers.map SupplierInput.id ∧
    flag.supplierBId ∈ suppliers.map SupplierInput.id

def Draws (suppliers : List SupplierInput) (flag : ConsolidationFlagInput) (edge : GraphEdge) :
    Prop :=
  ∃ supplierA ∈ suppliers, ∃ supplierB ∈ suppliers, supplierA.id = flag.supplierAId ∧
    supplierB.id = flag.supplierBId ∧ edge = edgeOf supplierA supplierB flag

theorem of_supplierById {supplier : SupplierInput}
    (h : supplierById suppliers supplierId = .ok supplier) :
    supplier ∈ suppliers ∧ supplier.id = supplierId := by
  unfold supplierById at h
  split at h
  · rename_i found hLast
    obtain rfl := Except.ok.inj h
    obtain ⟨hMem, hId⟩ := List.mem_filter.mp (List.mem_of_getLast? hLast)
    exact ⟨hMem, beq_iff_eq.mp hId⟩
  · exact nomatch h

theorem exists_supplierById (h : supplierId ∈ suppliers.map SupplierInput.id) :
    ∃ supplier, supplierById suppliers supplierId = .ok supplier := by
  obtain ⟨supplier, hMem, rfl⟩ := List.mem_map.mp h
  have hFound : supplier ∈ suppliers.filter (·.id == supplier.id) :=
    List.mem_filter.mpr ⟨hMem, beq_self_eq_true _⟩
  obtain ⟨last, hLast⟩ := Option.isSome_iff_exists.mp
    (List.getLast?_isSome.mpr (List.ne_nil_of_mem hFound))
  exact ⟨last, by rw [supplierById, hLast]⟩

@[simp] theorem edges_visit (graph : DomainGraph) (supplier : SupplierInput) :
    (graph.visit supplier).edges = graph.edges := by
  unfold DomainGraph.visit
  split
  · rfl
  · rfl

theorem edges_draw (graph : DomainGraph) (supplierA supplierB : SupplierInput)
    (flag : ConsolidationFlagInput) :
    (graph.draw supplierA supplierB flag).edges = graph.edges ++
      [edgeOf supplierA supplierB flag] := by
  rw [DomainGraph.draw, edges_visit, edges_visit]

theorem of_addFlag {next : DomainGraph} (h : addFlag suppliers graph flag = .ok next) :
    Known suppliers flag := by
  obtain ⟨supplierA, hA, h⟩ := exists_of_bind_eq_ok h
  obtain ⟨supplierB, hB, -⟩ := exists_of_bind_eq_ok h
  obtain ⟨hMemA, hIdA⟩ := of_supplierById hA
  obtain ⟨hMemB, hIdB⟩ := of_supplierById hB
  exact ⟨hIdA ▸ List.mem_map_of_mem hMemA, hIdB ▸ List.mem_map_of_mem hMemB⟩

theorem exists_addFlag (graph : DomainGraph) (h : Known suppliers flag) :
    ∃ next edge, addFlag suppliers graph flag = .ok next ∧ next.edges = graph.edges ++ [edge] ∧
      Draws suppliers flag edge := by
  obtain ⟨supplierA, hA⟩ := exists_supplierById h.1
  obtain ⟨supplierB, hB⟩ := exists_supplierById h.2
  obtain ⟨hMemA, hIdA⟩ := of_supplierById hA
  obtain ⟨hMemB, hIdB⟩ := of_supplierById hB
  refine ⟨graph.draw supplierA supplierB flag, edgeOf supplierA supplierB flag, ?_,
    edges_draw _ _ _ _, supplierA, hMemA, supplierB, hMemB, hIdA, hIdB, rfl⟩
  rw [addFlag, bind_of_eq_ok hA, bind_of_eq_ok hB]
  rfl

theorem known_of_foldlM {result : DomainGraph}
    (h : flags.foldlM (addFlag suppliers) graph = .ok result) :
    ∀ flag ∈ flags, Known suppliers flag := by
  induction flags generalizing graph with
  | nil => exact fun flag hFlag => absurd hFlag List.not_mem_nil
  | cons flag flags ih =>
    rw [List.foldlM_cons] at h
    obtain ⟨next, hNext, hRest⟩ := exists_of_bind_eq_ok h
    exact List.forall_mem_cons.mpr ⟨of_addFlag hNext, ih hRest⟩

theorem exists_foldlM (graph : DomainGraph) (h : ∀ flag ∈ flags, Known suppliers flag) :
    ∃ result edges, flags.foldlM (addFlag suppliers) graph = .ok result ∧
      result.edges = graph.edges ++ edges ∧ List.Forall₂ (Draws suppliers) flags edges := by
  induction flags generalizing graph with
  | nil => exact ⟨graph, [], rfl, (List.append_nil _).symm, .nil⟩
  | cons flag flags ih =>
    obtain ⟨hFlag, hRest⟩ := List.forall_mem_cons.mp h
    obtain ⟨next, edge, hNext, hEdge, hDraws⟩ := exists_addFlag graph hFlag
    obtain ⟨result, edges, hResult, hEdges, hAll⟩ := ih next hRest
    refine ⟨result, edge :: edges, ?_, ?_, .cons hDraws hAll⟩
    · rw [List.foldlM_cons, bind_of_eq_ok hNext, hResult]
    · rw [hEdges, hEdge, List.append_assoc, List.singleton_append]

def pairEdge (row : SupplierConsolidationFlag) (edge : GraphEdge) : PayloadEdge :=
  ⟨edge, row.input.descriptionA, row.input.descriptionB, row.publicId⟩

/-- The edges that are drawn for the flags are paired with the flags at their places. -/
theorem mapM_payloadEdge {rows : List SupplierConsolidationFlag} {edges : List GraphEdge}
    (before : List SupplierConsolidationFlag)
    (h : List.Forall₂ (Draws suppliers) (rows.map SupplierConsolidationFlag.input) edges) :
    (edges.zipIdx before.length).mapM (payloadEdge (before ++ rows)) =
      .ok (rows.zipWith pairEdge edges) := by
  induction rows generalizing before edges with
  | nil =>
    obtain rfl := List.forall₂_nil_left_iff.mp h
    rfl
  | cons row rows ih =>
    obtain ⟨edge, rest, -, hRest, rfl⟩ := List.forall₂_cons_left_iff.mp h
    have hFound : payloadEdge (before ++ row :: rows) (edge, before.length) =
        .ok (pairEdge row edge) := by
      rw [payloadEdge, List.getElem?_append_right le_rfl, Nat.sub_self]
      rfl
    have hStep := ih (before ++ [row]) hRest
    rw [List.length_append, List.length_singleton, List.append_assoc, List.singleton_append]
      at hStep
    rw [List.zipIdx_cons, List.mapM_cons, bind_of_eq_ok hFound, bind_of_eq_ok hStep]
    rfl

theorem mem_liveSuppliers :
    supplierId ∈ ((liveSuppliers store organisationId).map supplierInput).map SupplierInput.id ↔
    IsLive store organisationId supplierId := by
  simp only [liveSuppliers, IsLive, List.mem_map, List.mem_filter, supplierInput, beq_iff_eq,
    Option.isNone_iff_eq_none]
  constructor
  · rintro ⟨-, ⟨supplier, ⟨⟨hMem, hOwn⟩, hLive⟩, rfl⟩, rfl⟩
    exact ⟨supplier, hMem, rfl, hOwn, hLive⟩
  · rintro ⟨supplier, hMem, rfl, hOwn, hLive⟩
    exact ⟨_, ⟨supplier, ⟨⟨hMem, hOwn⟩, hLive⟩, rfl⟩, rfl⟩

theorem edgeServes_of_draws {row : SupplierConsolidationFlag} {edge : GraphEdge}
    (h : Draws ((liveSuppliers store organisationId).map supplierInput) row.input edge) :
    EdgeServes store row (pairEdge row edge) := by
  have hStored : ∀ input ∈ (liveSuppliers store organisationId).map supplierInput,
      ∃ supplier ∈ store.suppliers, supplier.id = input.id ∧
        supplier.publicId = input.publicId := by
    intro input hInput
    obtain ⟨supplier, hSupplier, rfl⟩ := List.mem_map.mp hInput
    exact ⟨supplier, (List.mem_filter.mp (List.mem_filter.mp hSupplier).1).1, rfl, rfl⟩
  obtain ⟨supplierA, hA, supplierB, hB, hIdA, hIdB, rfl⟩ := h
  obtain ⟨storedA, hStoredA, hKeyA, hPublicA⟩ := hStored supplierA hA
  obtain ⟨storedB, hStoredB, hKeyB, hPublicB⟩ := hStored supplierB hB
  exact ⟨rfl, rfl, rfl, ⟨storedA, hStoredA, hKeyA.trans hIdA, hPublicA⟩, storedB, hStoredB,
    hKeyB.trans hIdB, hPublicB⟩

theorem forall₂_edgeServes {rows : List SupplierConsolidationFlag} {edges : List GraphEdge}
    (h : List.Forall₂ (Draws ((liveSuppliers store organisationId).map supplierInput))
      (rows.map SupplierConsolidationFlag.input) edges) :
    List.Forall₂ (EdgeServes store) rows (rows.zipWith pairEdge edges) := by
  induction rows generalizing edges with
  | nil => exact .nil
  | cons row rows ih =>
    obtain ⟨edge, rest, hDraws, hRest, rfl⟩ := List.forall₂_cons_left_iff.mp h
    exact .cons (edgeServes_of_draws hDraws) (ih hRest)

theorem isLive_of_served (h : GraphServed store organisationId) :
    ∀ flag ∈ flagsOf store organisationId,
    IsLive store organisationId flag.input.supplierAId ∧
      IsLive store organisationId flag.input.supplierBId := by
  obtain ⟨payload, hPayload, -⟩ := h
  obtain ⟨graph, hGraph, -⟩ := exists_of_bind_eq_ok hPayload
  intro flag hFlag
  have hKnown := known_of_foldlM hGraph flag.input (List.mem_map_of_mem hFlag)
  rwa [Known, mem_liveSuppliers, mem_liveSuppliers] at hKnown

/-- The graph of an organisation is served, with an edge for each flag, exactly when both
suppliers of each of its flags are suppliers of the organisation that have not been deleted. -/
theorem graph_served_iff (store : Store) (organisationId : ℕ) : GraphServed store organisationId ↔
    ∀ flag ∈ flagsOf store organisationId,
      IsLive store organisationId flag.input.supplierAId ∧
        IsLive store organisationId flag.input.supplierBId := by
  constructor
  · exact isLive_of_served
  · intro h
    have hKnown : ∀ input ∈ (flagsOf store organisationId).map SupplierConsolidationFlag.input,
        Known ((liveSuppliers store organisationId).map supplierInput) input := by
      intro input hInput
      obtain ⟨flag, hFlag, rfl⟩ := List.mem_map.mp hInput
      rw [Known, mem_liveSuppliers, mem_liveSuppliers]
      exact h flag hFlag
    obtain ⟨graph, edges, hGraph, hEdges, hDraws⟩ := exists_foldlM ⟨[], [], []⟩ hKnown
    rw [List.nil_append] at hEdges
    subst hEdges
    refine ⟨⟨graph.nodes, _⟩, ?_, forall₂_edgeServes hDraws⟩
    have hPairs := mapM_payloadEdge [] hDraws
    rw [List.nil_append, List.length_nil] at hPairs
    rw [buildConsolidationGraphPayload, buildSupplierConsolidationGraph, bind_of_eq_ok hGraph,
      bind_of_eq_ok hPairs]
    rfl

/-- Two suppliers of the same flour are scanned, and one of them has been deleted. -/
def deletedSupplierEvents : List Event :=
  [.addSupplier (flourSupplier 1), .addSupplier { flourSupplier 2 with deletedAt := some 20260801 },
    .addInvoiceLine (flourLine 1), .addInvoiceLine (flourLine 2), .scan 1 [1, 2]]

theorem deleted_supplier_not_served : ¬ ∀ (store : Store) (organisationId : ℕ), ForeignKeys store →
    GraphServed store organisationId := by
  intro h
  have hLive :=
    isLive_of_served (h (deletedSupplierEvents.foldl (Store.apply (ratioTools 1) id) emptyStore) 1
      (by decide +kernel))
  revert hLive
  decide +kernel

end ProcureFoundation.Consolidation
