import ProcureFoundation.Consolidation.Graph
import ProcureFoundation.Foundation.FirstTouches

/-!
# Nodes and edges of the consolidation graph

The nodes are the suppliers that the flags touch, in the order of the first touch, and each edge
joins the nodes of the two suppliers of its flag. The graph is built unless a flag names a supplier
that is not in the list.
-/

namespace ProcureFoundation.Consolidation

open Matching Outcome

def touchedBy (flag : ConsolidationFlagInput) : List ℕ := [flag.supplierAId, flag.supplierBId]

def supplierNode (supplier : SupplierInput) : GraphNode :=
  ⟨supplier.publicId, supplier.name, "supplier", "suppliers"⟩

/-- The node is that of the supplier with the identifier. -/
def IsNodeOf (suppliers : List SupplierInput) (supplierId : ℕ) (node : GraphNode) : Prop :=
  ∃ supplier ∈ suppliers, supplier.id = supplierId ∧ node = supplierNode supplier

/-- The nodes after some suppliers have been touched. -/
structure HoldsTouched (suppliers : List SupplierInput) (touched : List ℕ) (graph : DomainGraph) :
    Prop where
  touches : FirstTouches graph.seenSupplierIds touched
  nodes : List.Forall₂ (IsNodeOf suppliers) graph.seenSupplierIds graph.nodes

/-- A node for each supplier that is touched and an edge for each flag, between nodes. -/
structure JoinsTouched (suppliers : List SupplierInput) (flags : List ConsolidationFlagInput)
    (graph : DomainGraph) : Prop where
  nodes : ∃ ids, FirstTouches ids (flags.flatMap touchedBy) ∧
    List.Forall₂ (IsNodeOf suppliers) ids graph.nodes
  distinct : (graph.nodes.map GraphNode.id).Nodup
  edges : List.Forall₂ (Draws suppliers) flags graph.edges
  closed : ∀ edge ∈ graph.edges, edge.sourceId ∈ graph.nodes.map GraphNode.id ∧
    edge.targetId ∈ graph.nodes.map GraphNode.id

section Pairs

variable {α β : Type*} {R : α → β → Prop} {xs : List α} {ys : List β} {x : α} {y : β}

theorem exists_right_of_mem (h : List.Forall₂ R xs ys) (hx : x ∈ xs) : ∃ y ∈ ys, R x y := by
  induction h with
  | nil => cases hx
  | cons hHead hRest ih =>
    obtain rfl | hLater := List.mem_cons.mp hx
    · exact ⟨_, List.mem_cons_self, hHead⟩
    · obtain ⟨y, hy, hRelated⟩ := ih hLater
      exact ⟨y, List.mem_cons_of_mem _ hy, hRelated⟩

theorem exists_left_of_mem (h : List.Forall₂ R xs ys) (hy : y ∈ ys) : ∃ x ∈ xs, R x y :=
  exists_right_of_mem (List.Forall₂.flip (R := flip R) h) hy

end Pairs

section Nodes

variable {suppliers : List SupplierInput} {touched ids : List ℕ} {graph result : DomainGraph}
  {supplier : SupplierInput} {flag : ConsolidationFlagInput} {flags : List ConsolidationFlagInput}
  {nodes : List GraphNode} {error : GraphError}

theorem seenSupplierIds_visit (graph : DomainGraph) (supplier : SupplierInput) :
    (graph.visit supplier).seenSupplierIds = touch graph.seenSupplierIds supplier.id := by
  unfold DomainGraph.visit touch
  split
  · rfl
  · rfl

theorem HoldsTouched.visit (hSupplier : supplier ∈ suppliers)
    (h : HoldsTouched suppliers touched graph) :
    HoldsTouched suppliers (touched ++ [supplier.id]) (graph.visit supplier) := by
  constructor
  · rw [seenSupplierIds_visit]
    exact h.touches.touch supplier.id
  · unfold DomainGraph.visit
    split
    · exact h.nodes
    · exact List.rel_append h.nodes (.cons ⟨supplier, hSupplier, rfl, rfl⟩ .nil)

theorem HoldsTouched.addFlag (h : HoldsTouched suppliers touched graph)
    (hFlag : addFlag suppliers graph flag = .ok result) :
    HoldsTouched suppliers (touched ++ touchedBy flag) result := by
  obtain ⟨supplierA, hA, hFlag⟩ := exists_of_bind_eq_ok hFlag
  obtain ⟨supplierB, hB, hFlag⟩ := exists_of_bind_eq_ok hFlag
  obtain ⟨hMemA, hIdA⟩ := of_supplierById hA
  obtain ⟨hMemB, hIdB⟩ := of_supplierById hB
  obtain rfl := Except.ok.inj hFlag
  have hVisited := (h.visit hMemA).visit hMemB
  rw [hIdA, hIdB, List.append_assoc] at hVisited
  exact ⟨hVisited.touches, hVisited.nodes⟩

theorem HoldsTouched.foldlM (h : HoldsTouched suppliers touched graph)
    (hFlags : flags.foldlM (Consolidation.addFlag suppliers) graph = .ok result) :
    HoldsTouched suppliers (touched ++ flags.flatMap touchedBy) result := by
  induction flags generalizing touched graph with
  | nil =>
    obtain rfl := Except.ok.inj hFlags
    rw [List.flatMap_nil, List.append_nil]
    exact h
  | cons flag flags ih =>
    rw [List.foldlM_cons] at hFlags
    obtain ⟨next, hNext, hRest⟩ := exists_of_bind_eq_ok hFlags
    rw [List.flatMap_cons, ← List.append_assoc]
    exact ih (h.addFlag hNext) hRest

theorem holdsTouched_build (h : buildSupplierConsolidationGraph suppliers flags = .ok graph) :
    HoldsTouched suppliers (flags.flatMap touchedBy) graph := by
  have hStart : HoldsTouched suppliers [] ⟨[], [], []⟩ := ⟨.nil, .nil⟩
  exact hStart.foldlM h

theorem unknownSupplier_of_foldlM
    (h : flags.foldlM (Consolidation.addFlag suppliers) graph = .error error) :
    ∃ message, error = .unknownSupplier message := by
  have hLookup : ∀ supplierId, supplierById suppliers supplierId = .error error →
      ∃ message, error = .unknownSupplier message := by
    intro supplierId hSupplier
    unfold supplierById at hSupplier
    split at hSupplier
    · cases hSupplier
    · exact ⟨_, (Except.error.inj hSupplier).symm⟩
  induction flags generalizing graph with
  | nil => cases h
  | cons flag flags ih =>
    rw [List.foldlM_cons] at h
    cases hFlag : Consolidation.addFlag suppliers graph flag with
    | ok next =>
      rw [bind_of_eq_ok hFlag] at h
      exact ih h
    | error other =>
      rw [hFlag] at h
      obtain rfl := Except.error.inj h
      unfold Consolidation.addFlag at hFlag
      cases hA : supplierById suppliers flag.supplierAId with
      | error first =>
        rw [hA] at hFlag
        obtain rfl := Except.error.inj hFlag
        exact hLookup _ hA
      | ok supplierA =>
        rw [bind_of_eq_ok hA] at hFlag
        exact hLookup _ (bind_pure_eq_error.mp hFlag)

/-- The graph is built unless a flag names a supplier that is not in the list. -/
theorem build_raises_iff :
    (∃ message, buildSupplierConsolidationGraph suppliers flags =
      .error (.unknownSupplier message)) ↔
    ∃ flag ∈ flags, ¬Known suppliers flag := by
  constructor
  · rintro ⟨message, hError⟩
    by_contra hAll
    push Not at hAll
    obtain ⟨result, edges, hResult, -, -⟩ := exists_foldlM ⟨[], [], []⟩ hAll
    rw [buildSupplierConsolidationGraph, hResult] at hError
    cases hError
  · rintro ⟨flag, hFlag, hUnknown⟩
    cases hBuild : buildSupplierConsolidationGraph suppliers flags with
    | ok graph => exact absurd (known_of_foldlM hBuild flag hFlag) hUnknown
    | error error =>
      obtain ⟨message, rfl⟩ := unknownSupplier_of_foldlM hBuild
      exact ⟨message, rfl⟩

theorem nodup_nodes (hPublic : (suppliers.map SupplierInput.publicId).Nodup) (hIds : ids.Nodup)
    (h : List.Forall₂ (IsNodeOf suppliers) ids nodes) : (nodes.map GraphNode.id).Nodup := by
  induction h with
  | nil => exact List.nodup_nil
  | @cons supplierId node ids nodes hHead hRest ih =>
    obtain ⟨hFresh, hOthers⟩ := List.nodup_cons.mp hIds
    rw [List.map_cons, List.nodup_cons]
    refine ⟨fun hTwice => ?_, ih hOthers⟩
    obtain ⟨other, hOther, hSame⟩ := List.mem_map.mp hTwice
    obtain ⟨otherId, hOtherId, twin, hTwin, rfl, rfl⟩ := exists_left_of_mem hRest hOther
    obtain ⟨supplier, hSupplier, rfl, rfl⟩ := hHead
    have hEqual : twin = supplier := List.inj_on_of_nodup_map hPublic hTwin hSupplier hSame
    exact hFresh (hEqual ▸ hOtherId)

/-- The two suppliers of an edge have nodes. -/
theorem publicId_mem_nodes (hIds : (suppliers.map SupplierInput.id).Nodup)
    (h : List.Forall₂ (IsNodeOf suppliers) ids nodes) (hSupplier : supplier ∈ suppliers)
    (hTouched : supplier.id ∈ ids) : supplier.publicId ∈ nodes.map GraphNode.id := by
  obtain ⟨node, hNode, twin, hTwin, hSame, rfl⟩ := exists_right_of_mem h hTouched
  obtain rfl : twin = supplier := List.inj_on_of_nodup_map hIds hTwin hSupplier hSame
  exact List.mem_map_of_mem hNode

theorem joinsTouched_build (hIds : (suppliers.map SupplierInput.id).Nodup)
    (hPublic : (suppliers.map SupplierInput.publicId).Nodup)
    (h : buildSupplierConsolidationGraph suppliers flags = .ok graph) :
    JoinsTouched suppliers flags graph := by
  have hHolds := holdsTouched_build h
  obtain ⟨result, edges, hResult, hEdges, hDraws⟩ := exists_foldlM ⟨[], [], []⟩ (known_of_foldlM h)
  obtain rfl := Except.ok.inj (hResult.symm.trans h)
  rw [List.nil_append] at hEdges
  subst hEdges
  refine ⟨⟨_, hHolds.touches, hHolds.nodes⟩, nodup_nodes hPublic hHolds.touches.nodup hHolds.nodes,
    hDraws, ?_⟩
  intro edge hEdge
  obtain ⟨flag, hFlag, supplierA, hA, supplierB, hB, hIdA, hIdB, rfl⟩ :=
    exists_left_of_mem hDraws hEdge
  have hTouched : ∀ supplierId ∈ touchedBy flag, supplierId ∈ result.seenSupplierIds := by
    intro supplierId hId
    exact (hHolds.touches.mem_iff supplierId).mpr (List.mem_flatMap.mpr ⟨flag, hFlag, hId⟩)
  constructor
  · refine publicId_mem_nodes hIds hHolds.nodes hA (hTouched _ ?_)
    rw [hIdA]
    exact List.mem_cons_self
  · refine publicId_mem_nodes hIds hHolds.nodes hB (hTouched _ ?_)
    rw [hIdB]
    exact List.mem_cons_of_mem _ List.mem_cons_self

end Nodes

end ProcureFoundation.Consolidation
