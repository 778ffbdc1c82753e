import ProcureFoundation.Canvas.LensGraph
import ProcureFoundation.Foundation.KeyedFolds
import ProcureFoundation.Inventory.Movement

/-!
# The inventory lens

The snapshots of an organisation are collected by item, each history is put in the order of its
dates, and every location shows how many of its items have expired, expire soon or have not moved
for long. In which order the rows were written makes no difference where an item has one snapshot a
day.
-/

namespace ProcureFoundation.Inventory

open Canvas (NodeStatus CanvasEdge)

structure Location where
  id : ℕ
  organisationId : ℕ
  publicId : String
  name : String
deriving DecidableEq

structure InventorySnapshot where
  organisationId : ℕ
  locationId : ℕ
  description : String
  supplierSku : Option String
  snapshotDate : Date
  quantityOnHand : Money
  expiryDate : Option Date
  correctsId : Option ℕ
deriving DecidableEq

structure InventoryStore where
  locations : List Location
  snapshots : List InventorySnapshot

inductive ExpiryRisk where
  | noExpiryTracked
  | expired
  | expiringSoon
  | healthy
deriving DecidableEq

def classifyExpiryRisk (expiryDate : Option Date) (asOf : Date) (warningWindowDays : ℤ) :
    ExpiryRisk :=
  match expiryDate with
  | none => .noExpiryTracked
  | some expiryDate =>
    if expiryDate < asOf then .expired
    else if asOf.daysUntil expiryDate ≤ warningWindowDays then .expiringSoon
    else .healthy

structure InventorySummaryInput where
  locationId : ℕ
  description : String
  expiryStatus : ExpiryRisk
  lastMovementDays : Option ℤ
deriving DecidableEq

structure InventoryNode where
  id : String
  nodeType : String
  label : String
  metricValue : ℕ
  status : NodeStatus
  details : List (String × ℕ)
deriving DecidableEq

structure InventoryGraph where
  nodes : List InventoryNode
  edges : List CanvasEdge
deriving DecidableEq

/-- What a location's summaries add up to. -/
structure AgingCounts where
  expired : ℕ
  expiringSoon : ℕ
  stale : ℕ

def agingCounts (rows : List InventorySummaryInput) (staleThresholdDays : ℤ) : AgingCounts where
  expired := rows.countP fun row => row.expiryStatus == .expired
  expiringSoon := rows.countP fun row => row.expiryStatus == .expiringSoon
  stale := rows.countP fun row => row.lastMovementDays.any fun days =>
    decide (staleThresholdDays < days)

def AgingCounts.status (counts : AgingCounts) : NodeStatus :=
  if 0 < counts.expired then .critical
  else if 0 < counts.expiringSoon ∨ 0 < counts.stale then .warning
  else .positive

def locationNode (location : Location) (rowCount : ℕ) : InventoryNode :=
  ⟨location.publicId, "location", location.name, rowCount, .positive, []⟩

def agingNode (location : Location) (counts : AgingCounts) : InventoryNode where
  id := "aging:" ++ location.publicId
  nodeType := "inventory_aging"
  label := location.name ++ " - Aging"
  metricValue := counts.expired + counts.expiringSoon + counts.stale
  status := counts.status
  details := [("expired", counts.expired), ("expiring_soon", counts.expiringSoon),
    ("stale", counts.stale)]

def agingEdge (location : Location) (counts : AgingCounts) : CanvasEdge where
  id := location.publicId ++ "->aging:" ++ location.publicId
  sourceId := location.publicId
  targetId := "aging:" ++ location.publicId
  status := counts.status

/-- A location without rows gets its own node only. -/
def buildInventoryLensGraph (locations : List Location) (summaries : List InventorySummaryInput)
    (staleThresholdDays : ℤ) : InventoryGraph :=
  let rowsAt := fun location : Location => summaries.filter fun row => row.locationId == location.id
  { nodes := locations.flatMap fun location =>
      locationNode location (rowsAt location).length ::
        if (rowsAt location).length = 0 then []
          else [agingNode location (agingCounts (rowsAt location) staleThresholdDays)]
    edges := locations.flatMap fun location =>
      if (rowsAt location).length = 0 then []
        else [agingEdge location (agingCounts (rowsAt location) staleThresholdDays)] }

abbrev ItemKey := ℕ × String × Option String

/-- The date of a snapshot, the quantity, and the expiry date. -/
abbrev HistoryEntry := Date × ℚ × Option Date

def snapshotRows (store : InventoryStore) (organisationId : ℕ) : List (ItemKey × HistoryEntry) :=
  (store.snapshots.filter fun snapshot => snapshot.organisationId == organisationId &&
    snapshot.correctsId.isNone).map
    fun snapshot => ((snapshot.locationId, snapshot.description, snapshot.supplierSku),
      (snapshot.snapshotDate, snapshot.quantityOnHand.value, snapshot.expiryDate))

def groupedHistories (rows : List (ItemKey × HistoryEntry)) : List (ItemKey × List HistoryEntry) :=
  rows.foldl (upsert (fun history entry => history ++ [entry]) []) []

def sortHistory (history : List HistoryEntry) : List HistoryEntry :=
  history.mergeSort fun a b => decide (a.1 ≤ b.1)

def quantities (history : List HistoryEntry) : List (Date × ℚ) :=
  history.map fun entry => (entry.1, entry.2.1)

def summaryOf (asOf : Date) (key : ItemKey) (history : List HistoryEntry) : InventorySummaryInput :=
  let history := sortHistory history
  { locationId := key.1
    description := key.2.1
    expiryStatus := classifyExpiryRisk (history.getLast?.bind fun entry => entry.2.2) asOf 30
    lastMovementDays := calculateDaysSinceLastMovement (quantities history) asOf }

def itemSummaries (store : InventoryStore) (organisationId : ℕ) (asOf : Date) :
    List (ItemKey × InventorySummaryInput) :=
  (groupedHistories (snapshotRows store organisationId)).map fun group =>
    (group.1, summaryOf asOf group.1 group.2)

def buildInventoryLens (store : InventoryStore) (organisationId : ℕ) (asOfDate : Date)
    (staleThresholdDays : ℤ) : InventoryGraph :=
  let locations := store.locations.filter fun location => location.organisationId == organisationId
  if locations = [] then ⟨[], []⟩
  else buildInventoryLensGraph locations
    ((itemSummaries store organisationId asOfDate).map Prod.snd) staleThresholdDays

section Orders

variable {store other : InventoryStore} {organisationId : ℕ} {asOf : Date} {key : ItemKey}
  {history ordered : List HistoryEntry} {summary : InventorySummaryInput}

/-- The snapshots of an item in the order in which they were written. -/
def itemHistory (store : InventoryStore) (organisationId : ℕ) (key : ItemKey) : List HistoryEntry :=
  rowsOf (snapshotRows store organisationId) key

/-- One snapshot of an item a day. -/
def DistinctDates (store : InventoryStore) (organisationId : ℕ) : Prop :=
  ∀ key, ((itemHistory store organisationId key).map Prod.fst).Nodup

theorem mem_itemSummaries_iff : (key, summary) ∈ itemSummaries store organisationId asOf ↔
    key ∈ (snapshotRows store organisationId).map Prod.fst ∧
      summary = summaryOf asOf key (itemHistory store organisationId key) := by
  have hGroups :=
    FoldsByKey.of_foldl (fun (history : List HistoryEntry) entry => history ++ [entry]) []
      (snapshotRows store organisationId)
  have hHistory : ∀ group ∈ groupedHistories (snapshotRows store organisationId),
      group.2 = itemHistory store organisationId group.1 := by
    intro group hGroup
    rw [hGroups.values group hGroup, foldl_append_singleton]
    rfl
  rw [itemSummaries, List.mem_map, ← hGroups.covers, List.mem_map]
  constructor
  · rintro ⟨group, hGroup, hEq⟩
    obtain ⟨rfl, rfl⟩ := Prod.mk.inj hEq
    exact ⟨⟨group, hGroup, rfl⟩, by rw [hHistory group hGroup]⟩
  · rintro ⟨⟨group, hGroup, rfl⟩, rfl⟩
    exact ⟨group, hGroup, by rw [hHistory group hGroup]⟩

theorem keys_itemSummaries : ((itemSummaries store organisationId asOf).map Prod.fst).Nodup := by
  rw [itemSummaries, List.map_map]
  exact (FoldsByKey.of_foldl _ _ _).keys

/-- Dates that are all different can be put in rising order. -/
theorem pairwise_sortHistory (h : (history.map Prod.fst).Nodup) :
    (sortHistory history).Pairwise fun a b => a.1 < b.1 := by
  have hSorted : (sortHistory history).Pairwise fun a b => decide (a.1 ≤ b.1) = true := by
    refine List.pairwise_mergeSort ?_ ?_ history
    · intro a b c hab hbc
      exact decide_eq_true ((of_decide_eq_true hab).trans (of_decide_eq_true hbc))
    · intro a b
      rw [Bool.or_eq_true, decide_eq_true_eq, decide_eq_true_eq]
      exact le_total a.1 b.1
  have hDates : ((sortHistory history).map Prod.fst).Nodup :=
    ((List.mergeSort_perm history _).map Prod.fst).nodup_iff.mpr h
  exact (hSorted.and (List.pairwise_map.mp hDates)).imp fun h =>
    lt_of_le_of_ne (of_decide_eq_true h.1) h.2

theorem sortHistory_eq (hOrdered : ordered.Pairwise fun a b => a.1 < b.1)
    (hPerm : history.Perm ordered) : sortHistory history = ordered := by
  have hDates : (history.map Prod.fst).Nodup :=
    (hPerm.map Prod.fst).nodup_iff.mpr (List.pairwise_map.mpr (hOrdered.imp fun hLess => hLess.ne))
  exact ((List.mergeSort_perm history _).trans hPerm).eq_of_pairwise
    (fun a b _ _ hab hba => absurd hab hba.asymm)
    (pairwise_sortHistory hDates) hOrdered

theorem sortHistory_perm (h : (history.map Prod.fst).Nodup) (hPerm : ordered.Perm history) :
    sortHistory ordered = sortHistory history :=
  sortHistory_eq (pairwise_sortHistory h) (hPerm.trans (List.mergeSort_perm history _).symm)

theorem snapshotRows_perm (h : other.snapshots.Perm store.snapshots) :
    (snapshotRows other organisationId).Perm (snapshotRows store organisationId) :=
  (h.filter _).map _

/-- The summaries of the items do not depend on the order of the rows. -/
theorem itemSummaries_perm (h : other.snapshots.Perm store.snapshots)
    (hDates : DistinctDates store organisationId) :
    (itemSummaries other organisationId asOf).Perm (itemSummaries store organisationId asOf) := by
  rw [List.perm_ext_iff_of_nodup (keys_itemSummaries.of_map _) (keys_itemSummaries.of_map _)]
  rintro ⟨key, summary⟩
  have hRows := @snapshotRows_perm _ _ organisationId h
  have hHistory := sortHistory_perm (hDates key) (@rowsOf_perm _ _ _ _ key _ hRows)
  have hSummary : summaryOf asOf key (itemHistory other organisationId key) =
      summaryOf asOf key (itemHistory store organisationId key) := by
    rw [summaryOf, summaryOf, itemHistory, hHistory]
  rw [mem_itemSummaries_iff, mem_itemSummaries_iff, hSummary, (hRows.map Prod.fst).mem_iff]

theorem buildInventoryLensGraph_perm {locations : List Location}
    {rows others : List InventorySummaryInput} {threshold : ℤ} (h : others.Perm rows) :
    buildInventoryLensGraph locations others threshold =
      buildInventoryLensGraph locations rows threshold := by
  have hLength : ∀ location : Location,
    (others.filter fun row => row.locationId == location.id).length =
      (rows.filter fun row => row.locationId == location.id).length :=
        fun location => (h.filter _).length_eq
  have hCounts : ∀ location : Location,
    agingCounts (others.filter fun row => row.locationId == location.id) threshold =
      agingCounts (rows.filter fun row => row.locationId == location.id) threshold := by
    intro location
    have hRows := h.filter fun row => row.locationId == location.id
    rw [agingCounts, agingCounts, hRows.countP_eq, hRows.countP_eq, hRows.countP_eq]
  unfold buildInventoryLensGraph
  simp only [hLength, hCounts]

theorem buildInventoryLens_perm {threshold : ℤ} (hLocations : other.locations = store.locations)
    (h : other.snapshots.Perm store.snapshots) (hDates : DistinctDates store organisationId) :
    buildInventoryLens other organisationId asOf threshold =
      buildInventoryLens store organisationId asOf threshold := by
  have hGraph := fun locations => @buildInventoryLensGraph_perm locations _ _ threshold
    ((@itemSummaries_perm _ _ _ asOf h hDates).map Prod.snd)
  rw [buildInventoryLens, buildInventoryLens, hLocations]
  simp only [hGraph]

/-- An item's days since the last movement are those of its snapshots in the order of their dates.
-/
theorem lastMovementDays_of_ordered (hOrdered : ordered.Pairwise fun a b => a.1 < b.1)
    (hPerm : (itemHistory store organisationId key).Perm ordered)
    (h : (key, summary) ∈ itemSummaries store organisationId asOf) :
    summary.lastMovementDays = calculateDaysSinceLastMovement (quantities ordered) asOf := by
  obtain ⟨-, rfl⟩ := mem_itemSummaries_iff.mp h
  rw [summaryOf]
  dsimp only
  rw [sortHistory_eq hOrdered hPerm]

theorem exists_summary (hPerm : (itemHistory store organisationId key).Perm ordered)
    (hSome : ordered ≠ []) :
    ∃ summary, (key, summary) ∈ itemSummaries store organisationId asOf := by
  refine ⟨_, mem_itemSummaries_iff.mpr ⟨?_, rfl⟩⟩
  by_contra hNone
  rw [itemHistory, rowsOf_of_notMem hNone] at hPerm
  exact hSome hPerm.nil_eq.symm

end Orders

/-- The last movement is that of the last fall: what does not fall leaves it as it is, in whatever
order the rows of the history were written. -/
theorem restocks_never_reset_movement :
    (∀ snapshots asOf, 2 ≤ snapshots.length → ∃ date, LastMovement snapshots date ∧
      calculateDaysSinceLastMovement snapshots asOf = some (date.daysUntil asOf)) ∧
    (∀ snapshots last more asOf, snapshots ≠ [] →
      List.IsChain (fun a b : Date × ℚ => a.2 ≤ b.2) (last :: more) →
        calculateDaysSinceLastMovement (snapshots ++ last :: more) asOf =
          calculateDaysSinceLastMovement (snapshots ++ [last]) asOf) ∧
    (∀ (snapshots : List (Date × ℚ)) last lower asOf, lower.2 < last.2 →
      calculateDaysSinceLastMovement (snapshots ++ [last, lower]) asOf = some (lower.1.daysUntil asOf)) ∧
    (∀ store organisationId asOf key ordered, (itemHistory store organisationId key).Perm ordered →
      (ordered.Pairwise fun a b => a.1 < b.1) → ordered ≠ [] →
        ∃ summary, (key, summary) ∈ itemSummaries store organisationId asOf ∧
          summary.lastMovementDays = calculateDaysSinceLastMovement (quantities ordered) asOf) ∧
    ∀ store other organisationId asOf threshold, other.locations = store.locations →
      other.snapshots.Perm store.snapshots → DistinctDates store organisationId →
        buildInventoryLens other organisationId asOf threshold =
          buildInventoryLens store organisationId asOf threshold := by
  refine ⟨fun snapshots asOf hLength => exists_lastMovement hLength asOf, ?_, ?_, ?_, ?_⟩
  · intro snapshots last more asOf hSome hRise
    have hLength : 0 < snapshots.length := List.length_pos_iff.mpr hSome
    obtain ⟨date, hLast, hCalculated⟩ := @exists_lastMovement (snapshots ++ [last])
      (by rw [List.length_append, List.length_singleton]; omega) asOf
    rw [hCalculated]
    refine calculate_of_lastMovement ?_ (hLast.append hRise)
    rw [List.length_append, List.length_cons]
    omega
  · intro snapshots last lower asOf hLess
    refine calculate_of_lastMovement ?_ (lastMovement_lower hLess)
    rw [List.length_append]
    exact Nat.le_add_left 2 _
  · intro store organisationId asOf key ordered hPerm hOrdered hSome
    obtain ⟨summary, hSummary⟩ := @exists_summary _ _ asOf _ _ hPerm hSome
    exact ⟨summary, hSummary, lastMovementDays_of_ordered hOrdered hPerm hSummary⟩
  · intro store other organisationId asOf threshold hLocations hPerm hDates
    exact buildInventoryLens_perm hLocations hPerm hDates

/-- The flour falls in February and is restocked in March. -/
def flourDays : List (Date × Money) :=
  [(⟨2025, 1, 31, by decide⟩, ⟨100000⟩), (⟨2025, 2, 28, by decide⟩, ⟨80000⟩),
    (⟨2025, 3, 31, by decide⟩, ⟨120000⟩)]

def flourSnapshot (day : Date × Money) : InventorySnapshot :=
  ⟨1, 1, "Flour", none, day.1, day.2, none, none⟩

def flourStore (days : List (Date × Money)) : InventoryStore :=
  ⟨[⟨1, 1, "a", "Mill"⟩], days.map flourSnapshot⟩

def flourHistory : List HistoryEntry := flourDays.map fun day => (day.1, day.2.value, none)

theorem flourStore_distinctDates : DistinctDates (flourStore flourDays) 1 := by
  intro key
  have hAll : ((snapshotRows (flourStore flourDays) 1).map fun row => row.2.1).Nodup := by decide
  rw [itemHistory, rowsOf, List.map_map]
  exact hAll.sublist (List.filter_sublist.map _)

/-- The flour last moved in February, also where the row of March was written first. -/
theorem flour_restocked :
    (∀ asOf, ∃ summary,
      ((1, "Flour", none), summary) ∈ itemSummaries (flourStore flourDays.reverse) 1 asOf ∧
      summary.lastMovementDays = some (Date.daysUntil ⟨2025, 2, 28, by decide⟩ asOf)) ∧
    ∀ asOf, buildInventoryLens (flourStore flourDays.reverse) 1 asOf 60 =
      buildInventoryLens (flourStore flourDays) 1 asOf 60 := by
  obtain ⟨-, hRestock, hFall, hSummaries, hOrders⟩ := restocks_never_reset_movement
  constructor
  · intro asOf
    have hHistory : itemHistory (flourStore flourDays.reverse) 1 (1, "Flour", none) =
      flourHistory.reverse := rfl
    obtain ⟨summary, hSummary, hDays⟩ :=
      hSummaries (flourStore flourDays.reverse) 1 asOf (1, "Flour", none) flourHistory
        (hHistory ▸ List.reverse_perm flourHistory) (by decide) (List.cons_ne_nil _ _)
    refine ⟨summary, hSummary, hDays.trans ?_⟩
    have hMarch := hRestock ((quantities flourHistory).take 1) ((quantities flourHistory)[1])
      ((quantities flourHistory).drop 2)
      asOf (List.cons_ne_nil _ _) (by decide +kernel)
    exact hMarch.trans (hFall [] _ _ asOf (by decide +kernel))
  · intro asOf
    exact hOrders _ _ 1 asOf 60 rfl ((List.reverse_perm flourDays).map flourSnapshot)
      flourStore_distinctDates

end ProcureFoundation.Inventory
