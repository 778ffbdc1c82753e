import ProcureFoundation.Canvas.LensGraph

/-!
# Well-formed lens graphs

The identifier of a node tells its kind, and that of an edge is its two ends with an arrow between
them. As the public identifiers of the suppliers are UUIDs, which have neither colons nor arrows, no
two nodes and no two edges are alike.
-/

namespace ProcureFoundation.Canvas

/-- The characters of a UUID. -/
def IsUuidText (text : String) : Prop :=
  ∀ c ∈ text.toList, c.isDigit ∨ c ∈ ['a', 'b', 'c', 'd', 'e', 'f', '-']

/-- Suppliers are told apart by their identifiers and by their public ones. -/
structure SuppliersApart (suppliers : List SupplierSpendInput) : Prop where
  ids : (suppliers.map SupplierSpendInput.id).Nodup
  publicIds : (suppliers.map SupplierSpendInput.publicId).Nodup
  uuids : ∀ supplier ∈ suppliers, IsUuidText supplier.publicId

/-- No two nodes and no two edges are alike, and edges end at nodes. -/
structure WellFormed (graph : CanvasGraph) : Prop where
  nodes : (graph.nodes.map CanvasNode.id).Nodup
  edges : (graph.edges.map CanvasEdge.id).Nodup
  closed : ∀ edge ∈ graph.edges, edge.sourceId ∈ graph.nodes.map CanvasNode.id ∧
    edge.targetId ∈ graph.nodes.map CanvasNode.id

/-- An edge from the supplier to a category. -/
def IsCategoryEdge (graph : CanvasGraph) (supplier : SupplierSpendInput) (edge : CanvasEdge) :
    Prop :=
  edge ∈ graph.edges ∧ edge.sourceId = supplier.publicId ∧
    edge.targetId ∈ (graph.ofType "category").map CanvasNode.id

section Texts

variable {a b a' b' text key target : String} {c : Char}

theorem IsUuidText.notMem (h : IsUuidText text) (hc : c ∈ [':', '_', '>']) : c ∉ text.toList := by
  intro hMem
  have hUuid := h c hMem
  revert hUuid
  simp only [List.mem_cons, List.not_mem_nil, or_false] at hc
  obtain rfl | rfl | rfl := hc
  · decide
  · decide
  · decide

theorem toList_arrow (a b : String) :
    (a ++ "->" ++ b).toList = a.toList ++ '-' :: '>' :: b.toList := by
  rw [String.toList_append, String.toList_append, List.append_assoc]
  rfl

theorem takeWhile_arrow (h : '>' ∉ a.toList) (b : String) :
    (a ++ "->" ++ b).toList.takeWhile (fun c => c != '>') = a.toList ++ ['-'] := by
  rw [toList_arrow, List.takeWhile_append_of_pos]
  · rfl
  · intro c hc
    rw [bne_iff_ne]
    rintro rfl
    exact h hc

/-- The arrow is found again where there is none in front of it. -/
theorem arrow_injective (h : '>' ∉ a.toList) (h' : '>' ∉ a'.toList)
    (hSame : a ++ "->" ++ b = a' ++ "->" ++ b') : a = a' ∧ b = b' := by
  have hFront := takeWhile_arrow h b
  rw [hSame, takeWhile_arrow h' b'] at hFront
  have hSource : a = a' := String.toList_inj.mp (List.append_cancel_right hFront).symm
  subst hSource
  have hRest := congrArg String.toList hSame
  rw [toList_arrow, toList_arrow] at hRest
  have hTarget := List.append_cancel_left hRest
  exact ⟨rfl, String.toList_inj.mp (List.cons.inj (List.cons.inj hTarget).2).2⟩

theorem arrow_ne_category (h : '>' ∉ a.toList) (hColon : ':' ∉ a.toList) (b key target : String) :
    a ++ "->" ++ b ≠ "category:" ++ key ++ "->" ++ target := by
  intro hSame
  have hFront := takeWhile_arrow h b
  rw [hSame, String.append_assoc, String.append_assoc, String.toList_append,
    List.takeWhile_append_of_pos (by simp)]
    at hFront
  have hMem : ':' ∈ a.toList ++ ['-'] := by
    rw [← hFront]
    exact List.mem_append_left _ (by decide)
  obtain hMem | hMem := List.mem_append.mp hMem
  · exact hColon hMem
  · revert hMem
    decide

theorem category_injective : "category:" ++ a = "category:" ++ b ↔ a = b := by
  rw [← String.toList_inj, String.toList_append, String.toList_append, List.append_cancel_left_eq,
    String.toList_inj]

theorem contract_injective : "contract:" ++ a = "contract:" ++ b ↔ a = b := by
  rw [← String.toList_inj, String.toList_append, String.toList_append, List.append_cancel_left_eq,
    String.toList_inj]

theorem category_ne_contract (a b : String) : "category:" ++ a ≠ "contract:" ++ b := by
  intro h
  have hSecond := congrArg (fun text => text.toList[1]?) h
  simp at hSecond

theorem category_ne_leakage (a : String) : "category:" ++ a ≠ "rebate_leakage" := by
  intro h
  have hFirst := congrArg (fun text => text.toList[0]?) h
  simp at hFirst

theorem contract_ne_leakage (a : String) : "contract:" ++ a ≠ "rebate_leakage" := by
  intro h
  have hFirst := congrArg (fun text => text.toList[0]?) h
  simp at hFirst

theorem IsUuidText.ne_of_mem (h : IsUuidText a) (hc : c ∈ [':', '_', '>']) (hb : c ∈ b.toList) :
    a ≠ b := by
  rintro rfl
  exact h.notMem hc hb

theorem colon_mem_category (a : String) : ':' ∈ ("category:" ++ a).toList := by
  rw [String.toList_append]
  exact List.mem_append_left _ (by decide)

theorem colon_mem_contract (a : String) : ':' ∈ ("contract:" ++ a).toList := by
  rw [String.toList_append]
  exact List.mem_append_left _ (by decide)

end Texts

section Graph

variable {suppliers : List SupplierSpendInput} {supplier : SupplierSpendInput}
  {categoryTotals : List (String × Number)} {contractRenewals : List ContractRenewalInput}
  {renewal : ContractRenewalInput} {aggregateLeakage : Number} {critical : Bool} {edge : CanvasEdge}
  {node : CanvasNode} {supplierId : ℕ}

theorem lookup_suppliersById (h : SuppliersApart suppliers) :
    (suppliersById suppliers).lookup supplierId = some supplier ↔
      supplier ∈ suppliers ∧ supplier.id = supplierId := by
  have hKeys : ((suppliers.map fun supplier => (supplier.id, supplier)).map Prod.fst).Nodup := by
    rw [List.map_map]
    exact h.ids
  rw [suppliersById, dictOf_of_nodup hKeys, lookup_eq_some_iff_mem hKeys, List.mem_map]
  constructor
  · rintro ⟨other, hOther, hSame⟩
    obtain ⟨rfl, rfl⟩ := Prod.mk.inj hSame
    exact ⟨hOther, rfl⟩
  · rintro ⟨hMem, rfl⟩
    exact ⟨supplier, hMem, rfl⟩

theorem mem_knownRenewals (h : SuppliersApart suppliers) :
    (supplier, renewal) ∈ knownRenewals (suppliersById suppliers) contractRenewals ↔
      renewal ∈ contractRenewals ∧ supplier ∈ suppliers ∧ supplier.id = renewal.supplierId := by
  rw [knownRenewals, List.mem_filterMap]
  constructor
  · rintro ⟨other, hOther, hSame⟩
    obtain ⟨found, hFound, hPair⟩ := Option.map_eq_some_iff.mp hSame
    obtain ⟨rfl, rfl⟩ := Prod.mk.inj hPair
    exact ⟨hOther, (lookup_suppliersById h).mp hFound⟩
  · rintro ⟨hRenewal, hSupplier⟩
    refine ⟨renewal, hRenewal, ?_⟩
    rw [(lookup_suppliersById h).mpr hSupplier]
    rfl

theorem knownRenewals_sublist (supplierById : List (ℕ × SupplierSpendInput))
    (contractRenewals : List ContractRenewalInput) :
    ((knownRenewals supplierById contractRenewals).map Prod.snd).Sublist contractRenewals := by
  induction contractRenewals with
  | nil => exact List.Sublist.slnil
  | cons renewal contractRenewals ih =>
    rw [knownRenewals]
    cases hFound : supplierById.lookup renewal.supplierId with
    | none =>
      rw [List.filterMap_cons_none (by rw [hFound]; rfl)]
      exact ih.cons renewal
    | some supplier =>
      rw [List.filterMap_cons_some (b := (supplier, renewal)) (by rw [hFound]; rfl)]
      exact ih.cons_cons renewal

theorem nodup_knownRenewals (supplierById : List (ℕ × SupplierSpendInput))
    (hRenewals : (contractRenewals.map ContractRenewalInput.contractPublicId).Nodup) :
    ((knownRenewals supplierById contractRenewals).map fun renewal =>
      renewal.2.contractPublicId).Nodup := by
  have hSublist :=
    (knownRenewals_sublist supplierById contractRenewals).map ContractRenewalInput.contractPublicId
  rw [List.map_map] at hSublist
  exact hRenewals.sublist hSublist

theorem map_id_nodes (renewals : List (SupplierSpendInput × ContractRenewalInput)) :
    (lensGraph suppliers categoryTotals aggregateLeakage critical renewals).nodes.map CanvasNode.id =
      suppliers.map SupplierSpendInput.publicId ++
        categoryTotals.map (fun category => "category:" ++ category.1) ++
        ["rebate_leakage"] ++ renewals.map fun renewal =>
          "contract:" ++ renewal.2.contractPublicId := by
  simp only [lensGraph, List.map_append, List.map_map, List.map_cons, List.map_nil]
  rfl

/-- The source and the target of an edge with an arrow between them. -/
theorem id_supplierEdge (supplier : SupplierSpendInput) :
    (supplierEdge supplier).id = supplier.publicId ++ "->" ++
      ("category:" ++ supplier.categoryKey) := by
  rw [← String.toList_inj]
  simp [supplierEdge, String.toList_append]

theorem id_categoryEdge (category : String × Number) :
    (categoryEdge category).id = "category:" ++ category.1 ++ "->" ++ "rebate_leakage" := by
  rw [← String.toList_inj]
  simp [categoryEdge, String.toList_append]

theorem nodup_nodes (h : SuppliersApart suppliers)
    (hCategories : (categoryTotals.map Prod.fst).Nodup)
    (hRenewals : (contractRenewals.map ContractRenewalInput.contractPublicId).Nodup) :
    ((lensGraph suppliers categoryTotals aggregateLeakage critical
      (knownRenewals (suppliersById suppliers) contractRenewals)).nodes.map CanvasNode.id).Nodup := by
  have hKeys : (categoryTotals.map fun category => "category:" ++ category.1).Nodup := by
    refine List.Nodup.map_on (fun left hLeft right hRight hSame => ?_) (List.Nodup.of_map _ hCategories)
    exact List.inj_on_of_nodup_map hCategories hLeft hRight (category_injective.mp hSame)
  have hContracts := nodup_knownRenewals (suppliersById suppliers) hRenewals
  have hContractIds : ((knownRenewals (suppliersById suppliers) contractRenewals).map
      fun renewal => "contract:" ++ renewal.2.contractPublicId).Nodup := by
    refine List.Nodup.map_on (fun left hLeft right hRight hSame => ?_) (List.Nodup.of_map _ hContracts)
    exact List.inj_on_of_nodup_map hContracts hLeft hRight (contract_injective.mp hSame)
  rw [map_id_nodes, List.nodup_append, List.nodup_append, List.nodup_append]
  refine ⟨⟨⟨h.publicIds, hKeys, ?_⟩, List.nodup_singleton _, ?_⟩, hContractIds, ?_⟩
  · intro left hLeft right hRight
    obtain ⟨supplier, hSupplier, rfl⟩ := List.mem_map.mp hLeft
    obtain ⟨category, -, rfl⟩ := List.mem_map.mp hRight
    exact (h.uuids supplier hSupplier).ne_of_mem (by decide) (colon_mem_category category.1)
  · intro left hLeft right hRight
    obtain rfl := List.mem_singleton.mp hRight
    obtain hLeft | hLeft := List.mem_append.mp hLeft
    · obtain ⟨supplier, hSupplier, rfl⟩ := List.mem_map.mp hLeft
      exact @IsUuidText.ne_of_mem _ _ '_' (h.uuids supplier hSupplier) (by decide) (by decide)
    · obtain ⟨category, -, rfl⟩ := List.mem_map.mp hLeft
      exact category_ne_leakage category.1
  · intro left hLeft right hRight
    obtain ⟨renewal, -, rfl⟩ := List.mem_map.mp hRight
    obtain hLeft | hLeft := List.mem_append.mp hLeft
    · obtain hLeft | hLeft := List.mem_append.mp hLeft
      · obtain ⟨supplier, hSupplier, rfl⟩ := List.mem_map.mp hLeft
        exact (h.uuids supplier hSupplier).ne_of_mem (by decide)
          (colon_mem_contract renewal.2.contractPublicId)
      · obtain ⟨category, -, rfl⟩ := List.mem_map.mp hLeft
        exact category_ne_contract category.1 renewal.2.contractPublicId
    · obtain rfl := List.mem_singleton.mp hLeft
      exact (contract_ne_leakage renewal.2.contractPublicId).symm

theorem map_id_edges (renewals : List (SupplierSpendInput × ContractRenewalInput)) :
    (lensGraph suppliers categoryTotals aggregateLeakage critical renewals).edges.map CanvasEdge.id =
      suppliers.map (fun supplier => (supplierEdge supplier).id) ++
        categoryTotals.map (fun category => (categoryEdge category).id) ++
          renewals.map fun renewal => (renewalEdge renewal.1 renewal.2).id := by
  simp only [lensGraph, List.map_append, List.map_map]
  rfl

theorem nodup_edges (h : SuppliersApart suppliers)
    (hCategories : (categoryTotals.map Prod.fst).Nodup)
    (hRenewals : (contractRenewals.map ContractRenewalInput.contractPublicId).Nodup) :
    ((lensGraph suppliers categoryTotals aggregateLeakage critical
      (knownRenewals (suppliersById suppliers) contractRenewals)).edges.map CanvasEdge.id).Nodup := by
  have hArrow : ∀ supplier ∈ suppliers, '>' ∉ supplier.publicId.toList ∧
      ':' ∉ supplier.publicId.toList :=
    fun supplier hSupplier =>
      ⟨(h.uuids supplier hSupplier).notMem (by decide),
        (h.uuids supplier hSupplier).notMem (by decide)⟩
  have hKnown : ∀ renewal ∈ knownRenewals (suppliersById suppliers) contractRenewals,
      renewal.1 ∈ suppliers :=
    fun renewal hRenewal => ((mem_knownRenewals h).mp hRenewal).2.1
  have hContracts := nodup_knownRenewals (suppliersById suppliers) hRenewals
  rw [map_id_edges, List.nodup_append, List.nodup_append]
  refine ⟨⟨?_, ?_, ?_⟩, ?_, ?_⟩
  · refine List.Nodup.map_on (fun left hLeft right hRight hSame => ?_) (List.Nodup.of_map _ h.ids)
    rw [id_supplierEdge, id_supplierEdge] at hSame
    exact List.inj_on_of_nodup_map h.publicIds hLeft hRight
      (arrow_injective (hArrow left hLeft).1 (hArrow right hRight).1 hSame).1
  · refine List.Nodup.map_on (fun left hLeft right hRight hSame => ?_) (List.Nodup.of_map _ hCategories)
    rw [id_categoryEdge, id_categoryEdge, String.append_assoc, String.append_assoc,
      String.append_assoc, String.append_assoc] at hSame
    have hLists := congrArg String.toList hSame
    simp only [String.toList_append, List.append_cancel_left_eq, List.append_cancel_right_eq,
      String.toList_inj] at hLists
    exact List.inj_on_of_nodup_map hCategories hLeft hRight hLists
  · intro left hLeft right hRight
    obtain ⟨supplier, hSupplier, rfl⟩ := List.mem_map.mp hLeft
    obtain ⟨category, -, rfl⟩ := List.mem_map.mp hRight
    rw [id_supplierEdge, id_categoryEdge]
    exact arrow_ne_category (hArrow supplier hSupplier).1 (hArrow supplier hSupplier).2 _ _ _
  · refine List.Nodup.map_on (fun left hLeft right hRight hSame => ?_) (List.Nodup.of_map _ hContracts)
    have hTargets :=
      (arrow_injective (hArrow _ (hKnown left hLeft)).1 (hArrow _ (hKnown right hRight)).1 hSame).2
    exact List.inj_on_of_nodup_map hContracts hLeft hRight (contract_injective.mp hTargets)
  · intro left hLeft right hRight
    obtain ⟨renewal, hRenewal, rfl⟩ := List.mem_map.mp hRight
    obtain ⟨hArrowFree, hColonFree⟩ := hArrow _ (hKnown renewal hRenewal)
    obtain hLeft | hLeft := List.mem_append.mp hLeft
    · obtain ⟨supplier, hSupplier, rfl⟩ := List.mem_map.mp hLeft
      rw [id_supplierEdge]
      intro hSame
      exact category_ne_contract _ _ (arrow_injective (hArrow supplier hSupplier).1 hArrowFree hSame).2
    · obtain ⟨category, -, rfl⟩ := List.mem_map.mp hLeft
      rw [id_categoryEdge]
      exact (arrow_ne_category hArrowFree hColonFree _ _ _).symm

theorem closed_edges (h : SuppliersApart suppliers)
    (hCategories : ∀ key, key ∈ categoryTotals.map Prod.fst ↔
      key ∈ suppliers.map SupplierSpendInput.categoryKey)
    (hEdge : edge ∈ (lensGraph suppliers categoryTotals aggregateLeakage critical
      (knownRenewals (suppliersById suppliers) contractRenewals)).edges) :
    edge.sourceId ∈ (lensGraph suppliers categoryTotals aggregateLeakage critical
      (knownRenewals (suppliersById suppliers) contractRenewals)).nodes.map CanvasNode.id ∧
    edge.targetId ∈ (lensGraph suppliers categoryTotals aggregateLeakage critical
      (knownRenewals (suppliersById suppliers) contractRenewals)).nodes.map CanvasNode.id := by
  rw [map_id_nodes]
  simp only [List.mem_append]
  obtain hEdge | hEdge := List.mem_append.mp hEdge
  · obtain hEdge | hEdge := List.mem_append.mp hEdge
    · obtain ⟨supplier, hSupplier, rfl⟩ := List.mem_map.mp hEdge
      obtain ⟨category, hCategory, hKey⟩ :=
        List.mem_map.mp ((hCategories _).mpr (List.mem_map_of_mem hSupplier))
      refine ⟨.inl (.inl (.inl (List.mem_map_of_mem hSupplier))),
        .inl (.inl (.inr (List.mem_map.mpr ⟨category, hCategory, ?_⟩)))⟩
      exact category_injective.mpr hKey
    · obtain ⟨category, hCategory, rfl⟩ := List.mem_map.mp hEdge
      exact ⟨.inl (.inl (.inr (List.mem_map.mpr ⟨category, hCategory, rfl⟩))),
        .inl (.inr List.mem_cons_self)⟩
  · obtain ⟨renewal, hRenewal, rfl⟩ := List.mem_map.mp hEdge
    have hSupplier := ((mem_knownRenewals h).mp hRenewal).2.1
    exact ⟨.inl (.inl (.inl (List.mem_map_of_mem hSupplier))),
      .inr (List.mem_map.mpr ⟨renewal, hRenewal, rfl⟩)⟩

theorem existsUnique_categoryEdge (h : SuppliersApart suppliers)
    (hCategories : ∀ key, key ∈ categoryTotals.map Prod.fst ↔
      key ∈ suppliers.map SupplierSpendInput.categoryKey)
    (hSupplier : supplier ∈ suppliers) :
    ∃! edge, IsCategoryEdge (lensGraph suppliers categoryTotals aggregateLeakage critical
      (knownRenewals (suppliersById suppliers) contractRenewals)) supplier edge := by
  refine ⟨supplierEdge supplier, ⟨?_, rfl, ?_⟩, ?_⟩
  · exact List.mem_append_left _ (List.mem_append_left _ (List.mem_map_of_mem hSupplier))
  · obtain ⟨category, hCategory, hKey⟩ :=
      List.mem_map.mp ((hCategories _).mpr (List.mem_map_of_mem hSupplier))
    rw [ofType_category, List.map_map]
    exact List.mem_map.mpr ⟨category, hCategory, category_injective.mpr hKey⟩
  · rintro edge ⟨hEdge, hSource, hTarget⟩
    rw [ofType_category, List.map_map] at hTarget
    obtain ⟨category, -, hCategory⟩ := List.mem_map.mp hTarget
    obtain hEdge | hEdge := List.mem_append.mp hEdge
    · obtain hEdge | hEdge := List.mem_append.mp hEdge
      · obtain ⟨other, hOther, rfl⟩ := List.mem_map.mp hEdge
        exact congrArg supplierEdge (List.inj_on_of_nodup_map h.publicIds hOther hSupplier hSource)
      · obtain ⟨other, -, rfl⟩ := List.mem_map.mp hEdge
        exact absurd hSource.symm
          ((h.uuids supplier hSupplier).ne_of_mem (by decide) (colon_mem_category other.1))
    · obtain ⟨renewal, -, rfl⟩ := List.mem_map.mp hEdge
      exact absurd hCategory (category_ne_contract _ _)

theorem renewal_appears_iff (h : SuppliersApart suppliers)
    (hRenewals : (contractRenewals.map ContractRenewalInput.contractPublicId).Nodup)
    (hRenewal : renewal ∈ contractRenewals) :
    (∃ node ∈ (lensGraph suppliers categoryTotals aggregateLeakage critical
      (knownRenewals (suppliersById suppliers) contractRenewals)).ofType "contract_renewal",
        node.id = "contract:" ++ renewal.contractPublicId) ↔
      renewal.supplierId ∈ suppliers.map SupplierSpendInput.id := by
  rw [ofType_renewal]
  constructor
  · rintro ⟨node, hNode, hId⟩
    obtain ⟨⟨supplier, other⟩, hKnown, rfl⟩ := List.mem_map.mp hNode
    obtain ⟨hOther, hSupplier, hSame⟩ := (mem_knownRenewals h).mp hKnown
    obtain rfl : other = renewal :=
      List.inj_on_of_nodup_map hRenewals hOther hRenewal (contract_injective.mp hId)
    exact List.mem_map.mpr ⟨supplier, hSupplier, hSame⟩
  · intro hKnown
    obtain ⟨supplier, hSupplier, hSame⟩ := List.mem_map.mp hKnown
    have hMem := (mem_knownRenewals h).mpr ⟨hRenewal, hSupplier, hSame⟩
    exact ⟨renewalNode renewal, List.mem_map.mpr ⟨_, hMem, rfl⟩, rfl⟩

end Graph

/-- The graph is well formed and shows each supplier's category and the renewals of the suppliers in
it. -/
structure LensOf (suppliers : List SupplierSpendInput)
    (contractRenewals : List ContractRenewalInput) (graph : CanvasGraph) : Prop where
  wellFormed : WellFormed graph
  categoryEdges : ∀ supplier ∈ suppliers, ∃! edge, IsCategoryEdge graph supplier edge
  renewals : ∀ renewal ∈ contractRenewals, (∃ node ∈ graph.ofType "contract_renewal",
    node.id = "contract:" ++ renewal.contractPublicId) ↔
      renewal.supplierId ∈ suppliers.map SupplierSpendInput.id

/-- The category nodes show totals that add up to the spends. -/
def Conserves (rows : List (String × ℚ)) (graph : CanvasGraph) : Prop :=
  ∃ totals : List ℚ, (graph.ofType "category").map CanvasNode.metricValue =
    totals.map Number.finite ∧ totals.sum = (rows.map Prod.snd).sum

section Build

variable {suppliers : List SupplierSpendInput} {rows : List (String × ℚ)}
  {contractRenewals : List ContractRenewalInput} {aggregateLeakage : Number} {graph : CanvasGraph}

theorem lensOf_build (h : SuppliersApart suppliers)
    (hRenewals : (contractRenewals.map ContractRenewalInput.contractPublicId).Nodup)
    (hBuild : buildProcurementLensGraph suppliers aggregateLeakage contractRenewals = .ok graph) :
    LensOf suppliers contractRenewals graph := by
  by_cases hNone : suppliers = []
  · subst hNone
    obtain rfl : (⟨[], []⟩ : CanvasGraph) = graph := Except.ok.inj hBuild
    refine ⟨⟨List.nodup_nil, List.nodup_nil, fun edge hEdge => absurd hEdge List.not_mem_nil⟩,
      fun supplier hSupplier => absurd hSupplier List.not_mem_nil, fun renewal _ =>
        iff_of_false ?_ List.not_mem_nil⟩
    rintro ⟨node, hNode, -⟩
    exact List.not_mem_nil hNode
  · rw [buildProcurementLensGraph_eq hNone] at hBuild
    obtain ⟨categoryTotals, hTotals, hBuild⟩ := Outcome.exists_of_bind_eq_ok hBuild
    obtain ⟨critical, -, rfl⟩ := Outcome.bind_pure_eq_ok.mp hBuild
    have hTouches := @firstTouches_foldlM String _ [] _ _ [] FirstTouches.nil hTotals
    have hCategories : ∀ key, key ∈ categoryTotals.map Prod.fst ↔
        key ∈ suppliers.map SupplierSpendInput.categoryKey := by
      intro key
      rw [hTouches.mem_iff, List.nil_append, List.map_map]
      rfl
    exact ⟨⟨nodup_nodes h hTouches.nodup hRenewals, nodup_edges h hTouches.nodup hRenewals,
        fun edge hEdge => closed_edges h hCategories hEdge⟩,
      fun supplier hSupplier => existsUnique_categoryEdge h hCategories hSupplier,
      fun renewal hRenewal => renewal_appears_iff h hRenewals hRenewal⟩

theorem isPositive_returns (h : aggregateLeakage ≠ .nan) :
    ∃ critical, isPositive aggregateLeakage = .ok critical := by
  cases aggregateLeakage with
  | finite x => exact ⟨_, rfl⟩
  | infinity negative => exact ⟨_, rfl⟩
  | nan => exact absurd rfl h

theorem build_conserves (hRows : suppliers.map spendRow = rows.map finiteEntry)
    (hExact : ∀ key, EveryTotal Number.Representable 0 (rowsOf rows key))
    (hLeakage : aggregateLeakage ≠ .nan) :
    ∃ graph, buildProcurementLensGraph suppliers aggregateLeakage contractRenewals = .ok graph ∧
      Conserves rows graph := by
  by_cases hNone : suppliers = []
  · subst hNone
    obtain rfl := List.map_eq_nil_iff.mp hRows.symm
    exact ⟨_, rfl, [], rfl, rfl⟩
  · obtain ⟨critical, hCritical⟩ := isPositive_returns hLeakage
    have hTotals := @foldlM_addByKey_of_exact String _ [] [] rows Groups.nil hExact
    rw [List.map_nil, ← hRows] at hTotals
    refine ⟨lensGraph suppliers ((rows.foldl addTotal []).map finiteEntry) aggregateLeakage critical
      (knownRenewals (suppliersById suppliers) contractRenewals), ?_,
      (rows.foldl addTotal []).map Prod.snd, ?_, (Groups.of_foldl rows).sum_eq⟩
    · rw [buildProcurementLensGraph_eq hNone, Outcome.bind_of_eq_ok hTotals,
        Outcome.bind_of_eq_ok hCritical]
      rfl
    · rw [ofType_category, List.map_map, List.map_map, List.map_map]
      rfl

end Build

end ProcureFoundation.Canvas
