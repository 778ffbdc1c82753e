import ProcureFoundation.Consolidation.Scan
import ProcureFoundation.Matching.VariantConflicts

/-!
# Runs of consolidation scans

What a scan flags it never flags again. It flags every pair of similar items exactly when none of
their descriptions has been flagged for other suppliers before and the order in which the scan
compares two suppliers does not lower the score.
-/

namespace ProcureFoundation.Consolidation

open Matching

variable (tools : TextTools) (uuid : ℕ → ℕ)

/-- Similar items of two suppliers of the organisation are flagged. -/
def Complete (store : Store) (organisationId : ℕ) : Prop :=
  ∀ a ∈ supplierIds store organisationId, ∀ b ∈ supplierIds store organisationId, a ≠ b →
    ∀ itemA ∈ distinctSkuDescriptions store organisationId a,
      ∀ itemB ∈ distinctSkuDescriptions store organisationId b,
      Reaches tools itemA itemB →
        s((a, itemA.2), (b, itemB.2)) ∈ flaggedQuadruples store organisationId

structure ScanCorrect (store : Store) (organisationId : ℕ) (listing : List ℕ) : Prop where
  complete : Complete tools (scanForSupplierConsolidation tools uuid store organisationId listing)
    organisationId
  once : ∀ flag ∈ newFlags tools store organisationId listing,
    flag.quadruple ∉ flaggedQuadruples store organisationId
  idle : ∀ later, later.Perm (supplierIds store organisationId) →
    newFlags tools (scanForSupplierConsolidation tools uuid store organisationId listing)
      organisationId later = []

/-- Two suppliers of the listing have items with the given descriptions that are similar in the
order given there. -/
def Compared (store : Store) (organisationId : ℕ) (listing : List ℕ)
    (quadruple : Sym2 (ℕ × String)) : Prop :=
  ∃ pair ∈ pairsOf listing, ∃ itemA ∈ distinctSkuDescriptions store organisationId pair.1,
    ∃ itemB ∈ distinctSkuDescriptions store organisationId pair.2,
      Reaches tools itemA itemB ∧ s((pair.1, itemA.2), (pair.2, itemB.2)) = quadruple

/-- Similar items have been flagged, or neither their descriptions have been nor does their order
matter. -/
def Reportable (store : Store) (organisationId : ℕ) (listing : List ℕ) : Prop :=
  ∀ a ∈ supplierIds store organisationId, ∀ b ∈ supplierIds store organisationId, a ≠ b →
    ∀ itemA ∈ distinctSkuDescriptions store organisationId a,
      ∀ itemB ∈ distinctSkuDescriptions store organisationId b,
      Reaches tools itemA itemB →
        s((a, itemA.2), (b, itemB.2)) ∈ flaggedQuadruples store organisationId ∨
        (s(itemA.2, itemB.2) ∉ flaggedDescriptions store organisationId ∧
          Compared tools store organisationId listing s((a, itemA.2), (b, itemB.2)))

instance (store : Store) (organisationId : ℕ) (listing : List ℕ) (quadruple : Sym2 (ℕ × String)) :
    Decidable (Compared tools store organisationId listing quadruple) :=
  inferInstanceAs (Decidable (∃ pair ∈ pairsOf listing, _))

instance (store : Store) (organisationId : ℕ) (listing : List ℕ) :
    Decidable (Reportable tools store organisationId listing) :=
  inferInstanceAs (Decidable (∀ a ∈ supplierIds store organisationId, _))

variable {tools uuid} {store : Store} {organisationId : ℕ} {listing : List ℕ}

theorem mem_flaggedDescriptions {quadruple : Sym2 (ℕ × String)}
    (h : quadruple ∈ flaggedQuadruples store organisationId) :
    quadruple.map Prod.snd ∈ flaggedDescriptions store organisationId := by
  obtain ⟨flag, hFlag, rfl⟩ := List.mem_map.mp h
  exact List.mem_map_of_mem hFlag

theorem mem_quadruples_newFlags {quadruple : Sym2 (ℕ × String)} :
    quadruple ∈ (newFlags tools store organisationId listing).map ConsolidationFlagInput.quadruple ↔
      quadruple.map Prod.snd ∉ flaggedDescriptions store organisationId ∧
        Compared tools store organisationId listing quadruple := by
  constructor
  · intro h
    obtain ⟨flag, hFlag, rfl⟩ := List.mem_map.mp h
    obtain ⟨a, b, hPair, itemA, hA, itemB, hB, hReaches, hNew, rfl⟩ := mem_newFlags.mp hFlag
    exact ⟨hNew, (a, b), hPair, itemA, hA, itemB, hB, hReaches, rfl⟩
  · rintro ⟨hNew, pair, hPair, itemA, hA, itemB, hB, hReaches, rfl⟩
    exact List.mem_map_of_mem
      (mem_newFlags.mpr ⟨pair.1, pair.2, hPair, itemA, hA, itemB, hB, hReaches, hNew, rfl⟩)

theorem newFlags_once {flag : ConsolidationFlagInput}
    (h : flag ∈ newFlags tools store organisationId listing) :
    flag.quadruple ∉ flaggedQuadruples store organisationId := by
  intro hFlagged
  exact (mem_quadruples_newFlags.mp (List.mem_map_of_mem h)).1 (mem_flaggedDescriptions hFlagged)

theorem Complete.newFlags_eq_nil (h : Complete tools store organisationId)
    (hListing : listing.Perm (supplierIds store organisationId)) :
    newFlags tools store organisationId listing = [] := by
  refine List.eq_nil_iff_forall_not_mem.mpr fun flag hFlag => newFlags_once hFlag ?_
  obtain ⟨a, b, hPair, itemA, hA, itemB, hB, hReaches, -, rfl⟩ := mem_newFlags.mp hFlag
  have hNe := ne_of_mem_pairsOf (hListing.nodup_iff.mpr (nodup_supplierIds store organisationId)) hPair
  obtain ⟨hMemA, hMemB⟩ := mem_of_mem_pairsOf hPair
  exact h a (hListing.subset hMemA) b (hListing.subset hMemB) hNe itemA hA itemB hB hReaches

theorem complete_scan_iff :
    Complete tools (scanForSupplierConsolidation tools uuid store organisationId listing)
    organisationId ↔ Reportable tools store organisationId listing := by
  simp only [Complete, Reportable, supplierIds_scan, distinctSkuDescriptions_scan,
    flaggedQuadruples_scan, List.mem_append, mem_quadruples_newFlags, Sym2.map_mk]

/-- What is asked of a scan holds exactly when the similar items can be reported. -/
theorem scanCorrect_iff : ScanCorrect tools uuid store organisationId listing ↔
    Reportable tools store organisationId listing := by
  rw [← complete_scan_iff]
  constructor
  · exact fun h => h.complete
  · intro h
    exact ⟨h, fun flag hFlag => newFlags_once hFlag, fun later hLater => h.newFlags_eq_nil hLater⟩

inductive Event where
  | addSupplier (supplier : Supplier)
  | addInvoiceLine (line : LedgerLine)
  | addTransaction (line : LedgerLine)
  | scan (organisationId : ℕ) (listing : List ℕ)

def Store.apply (tools : TextTools) (uuid : ℕ → ℕ) (store : Store) : Event → Store
  | .addSupplier supplier => store.addSupplier supplier
  | .addInvoiceLine line => store.addInvoiceLine line
  | .addTransaction line => store.addTransaction line
  | .scan organisationId listing =>
    scanForSupplierConsolidation tools uuid store organisationId listing

/-- The property holds of each scan of the events and the store it is called on. -/
def EveryScan (tools : TextTools) (uuid : ℕ → ℕ) (P : Store → ℕ → List ℕ → Prop) :
    Store → List Event → Prop
  | _, [] => True
  | store, event :: events =>
    (∀ organisationId listing, event = .scan organisationId listing →
      P store organisationId listing) ∧ EveryScan tools uuid P (store.apply tools uuid event) events

theorem EveryScan.congr {P Q : Store → ℕ → List ℕ → Prop} (h : ∀ store organisationId listing,
    P store organisationId listing ↔ Q store organisationId listing) (store : Store) (events :
    List Event) : EveryScan tools uuid P store events ↔ EveryScan tools uuid Q store events := by
  induction events generalizing store with
  | nil => exact Iff.rfl
  | cons event events ih =>
    rw [EveryScan, EveryScan, ih]
    simp only [h]

/-- Every scan of a run is complete, repeats no earlier flag and leaves nothing to a further
scan exactly when before each scan the similar items can be reported. -/
theorem consolidation_scans_correct_iff (tools : TextTools) (uuid : ℕ → ℕ) (store : Store)
    (events : List Event) : EveryScan tools uuid (ScanCorrect tools uuid) store events ↔
      EveryScan tools uuid (Reportable tools) store events :=
  EveryScan.congr (fun _ _ _ => scanCorrect_iff) store events

def emptyStore : Store := ⟨[], [], [], [], List.nodup_nil⟩

def flourSupplier (id : ℕ) : Supplier := ⟨id, id, 1, "Millers", none⟩

def flourLine (supplierId : ℕ) : LedgerLine := ⟨1, supplierId, none, some "Cake flour 10kg"⟩

/-- Two suppliers of the same flour are scanned, then a third one is added. -/
def flourEvents : List Event :=
  [.addSupplier (flourSupplier 1), .addSupplier (flourSupplier 2), .addInvoiceLine (flourLine 1),
    .addInvoiceLine (flourLine 2), .scan 1 [1, 2], .addSupplier (flourSupplier 3),
    .addInvoiceLine (flourLine 3), .scan 1 [1, 2, 3]]

theorem third_supplier_not_flagged :
    ¬ ∀ (tools : TextTools) (uuid : ℕ → ℕ) (store : Store) (events : List Event),
    EveryScan tools uuid (ScanCorrect tools uuid) store events := by
  intro h
  have hScan := (h (ratioTools 1) id emptyStore flourEvents).2.2.2.2.2.2.2.1 _ _ rfl
  rw [scanCorrect_iff] at hScan
  revert hScan
  decide +kernel

end ProcureFoundation.Consolidation
