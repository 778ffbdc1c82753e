import Mathlib.Data.Sym.Sym2
import ProcureFoundation.Foundation.FixedPoint
import ProcureFoundation.Foundation.OrderedPairs
import ProcureFoundation.Matching.Scorer

/-!
# Scanning for supplier consolidation

A scan compares what any two suppliers of an organisation have delivered and flags the items
that are alike. Descriptions that an earlier scan has flagged are left out, whichever
suppliers they were flagged for. The order in which the table lists the suppliers is left open.
-/

namespace ProcureFoundation.Consolidation

open Matching

structure Supplier where
  id : ℕ
  publicId : ℕ
  organisationId : ℕ
  legalName : String
  deletedAt : Option ℕ
deriving DecidableEq

/-- A line of an invoice or a transaction. -/
structure LedgerLine where
  organisationId : ℕ
  supplierId : ℕ
  supplierSku : Option String
  description : Option String
deriving DecidableEq

inductive FlagStatus where
  | flagged
  | underReview
  | consolidationRecommended
  | rejected
deriving DecidableEq

inductive FlagMatchMethod where
  | scored (method : MatchMethod)
  | unknown
deriving DecidableEq

structure ConsolidationFlagInput where
  supplierAId : ℕ
  supplierBId : ℕ
  descriptionA : String
  descriptionB : String
  similarityScore : FixedPoint 4
  combinedSpend : Option (FixedPoint 4)
  status : FlagStatus
  matchMethod : FlagMatchMethod
deriving DecidableEq

structure SupplierConsolidationFlag where
  publicId : ℕ
  organisationId : ℕ
  input : ConsolidationFlagInput
deriving DecidableEq

structure Store where
  suppliers : List Supplier
  invoiceLines : List LedgerLine
  transactions : List LedgerLine
  flags : List SupplierConsolidationFlag
  nodup_ids : (suppliers.map Supplier.id).Nodup

abbrev Item := Option String × String

def ConsolidationFlagInput.descriptions (flag : ConsolidationFlagInput) : Sym2 String :=
  s(flag.descriptionA, flag.descriptionB)

/-- Which description of which supplier the flag compares with which. -/
def ConsolidationFlagInput.quadruple (flag : ConsolidationFlagInput) : Sym2 (ℕ × String) :=
  s((flag.supplierAId, flag.descriptionA), (flag.supplierBId, flag.descriptionB))

def distinctDescribed (lines : List LedgerLine) (organisationId supplierId : ℕ) : List Item :=
  let own := lines.filter fun line => line.organisationId == organisationId && line.supplierId ==
    supplierId
  ((own.filterMap fun line => line.description.map (Prod.mk line.supplierSku)).dedup).filter (·.2 != "")

def distinctSkuDescriptions (store : Store) (organisationId supplierId : ℕ) : List Item :=
  let rows := distinctDescribed store.invoiceLines organisationId supplierId
  if rows ≠ [] then rows else distinctDescribed store.transactions organisationId supplierId

def supplierIds (store : Store) (organisationId : ℕ) : List ℕ :=
  (store.suppliers.filter (·.organisationId == organisationId)).map Supplier.id

def flagInputs (flags : List SupplierConsolidationFlag) (organisationId : ℕ) :
    List ConsolidationFlagInput :=
  (flags.filter (·.organisationId == organisationId)).map SupplierConsolidationFlag.input

def flaggedDescriptions (store : Store) (organisationId : ℕ) : List (Sym2 String) :=
  (flagInputs store.flags organisationId).map ConsolidationFlagInput.descriptions

def flaggedQuadruples (store : Store) (organisationId : ℕ) : List (Sym2 (ℕ × String)) :=
  (flagInputs store.flags organisationId).map ConsolidationFlagInput.quadruple

variable (tools : TextTools)

def scoreItems (itemA itemB : Item) : ℚ × MatchMethod :=
  scorePair tools ⟨"a", itemA.1, none, itemA.2⟩ ⟨"b", itemB.1, none, itemB.2⟩

def newFlag (supplierAId supplierBId : ℕ) (itemA itemB : Item) : ConsolidationFlagInput where
  supplierAId := supplierAId
  supplierBId := supplierBId
  descriptionA := itemA.2
  descriptionB := itemB.2
  similarityScore := .quantize 4 (scoreItems tools itemA itemB).1
  combinedSpend := none
  status := .flagged
  matchMethod := .scored (scoreItems tools itemA itemB).2

def flagItems (alreadyFlagged : List (Sym2 String)) (supplierAId supplierBId : ℕ)
    (itemA itemB : Item) : Option ConsolidationFlagInput :=
  if (scoreItems tools itemA itemB).1 < reviewRecommendedThreshold then none
  else if s(itemA.2, itemB.2) ∈ alreadyFlagged then none
  else some (newFlag tools supplierAId supplierBId itemA itemB)

/-- What a scan adds when the table lists the suppliers of the organisation as given. -/
def newFlags (store : Store) (organisationId : ℕ) (listing : List ℕ) :
    List ConsolidationFlagInput :=
  if listing.length < 2 then []
  else
    let alreadyFlagged := flaggedDescriptions store organisationId
    (pairsOf listing).flatMap fun pair =>
      (distinctSkuDescriptions store organisationId pair.1).flatMap fun itemA =>
        (distinctSkuDescriptions store organisationId pair.2).filterMap fun itemB =>
          flagItems tools alreadyFlagged pair.1 pair.2 itemA itemB

/-- A supplier with an identifier of the table violates its primary key. -/
def Store.addSupplier (store : Store) (supplier : Supplier) : Store :=
  if h : supplier.id ∈ store.suppliers.map Supplier.id then store
  else
    { store with
      suppliers := store.suppliers ++ [supplier]
      nodup_ids := by
        rw [List.map_append, List.map_singleton, List.nodup_append]
        refine ⟨store.nodup_ids, List.nodup_singleton _, fun a hA b hB => ?_⟩
        rw [List.mem_singleton] at hB
        exact fun hEq => h (hB ▸ hEq ▸ hA) }

def Store.addInvoiceLine (store : Store) (line : LedgerLine) : Store :=
  { store with invoiceLines := store.invoiceLines ++ [line] }

def Store.addTransaction (store : Store) (line : LedgerLine) : Store :=
  { store with transactions := store.transactions ++ [line] }

def insertFlags (uuid : ℕ → ℕ) (organisationId : ℕ) :
    List SupplierConsolidationFlag → List ConsolidationFlagInput → List SupplierConsolidationFlag
  | flags, [] => flags
  | flags, input :: inputs =>
    insertFlags uuid organisationId (flags ++ [⟨uuid flags.length, organisationId, input⟩]) inputs

def scanForSupplierConsolidation (uuid : ℕ → ℕ) (store : Store) (organisationId : ℕ)
    (listing : List ℕ) : Store :=
  { store with flags := insertFlags uuid organisationId store.flags (newFlags tools store organisationId listing) }

/-- The items are alike enough to be reviewed. -/
def Reaches (itemA itemB : Item) : Prop :=
  reviewRecommendedThreshold ≤ (scoreItems tools itemA itemB).1

instance (itemA itemB : Item) : Decidable (Reaches tools itemA itemB) :=
  inferInstanceAs (Decidable (_ ≤ _))

variable {tools} {uuid : ℕ → ℕ} {store : Store} {organisationId : ℕ} {listing : List ℕ}
  {flag : ConsolidationFlagInput}

theorem flagItems_eq_some {alreadyFlagged : List (Sym2 String)} {supplierAId supplierBId : ℕ}
    {itemA itemB : Item} :
    flagItems tools alreadyFlagged supplierAId supplierBId itemA itemB = some flag ↔
      Reaches tools itemA itemB ∧ s(itemA.2, itemB.2) ∉ alreadyFlagged ∧
        flag = newFlag tools supplierAId supplierBId itemA itemB := by
  unfold flagItems Reaches
  split
  · rename_i hLow
    exact iff_of_false (fun h => nomatch h) fun h => not_le.mpr hLow h.1
  · rename_i hReaches
    split
    · rename_i hFlagged
      exact iff_of_false (fun h => nomatch h) fun h => h.2.1 hFlagged
    · rename_i hNew
      rw [Option.some.injEq]
      exact ⟨fun h => ⟨not_lt.mp hReaches, hNew, h.symm⟩, fun h => h.2.2.symm⟩

theorem mem_newFlags : flag ∈ newFlags tools store organisationId listing ↔
    ∃ a b, (a, b) ∈ pairsOf listing ∧ ∃ itemA ∈ distinctSkuDescriptions store organisationId a,
      ∃ itemB ∈ distinctSkuDescriptions store organisationId b, Reaches tools itemA itemB ∧
        s(itemA.2, itemB.2) ∉ flaggedDescriptions store organisationId ∧
          flag = newFlag tools a b itemA itemB := by
  unfold newFlags
  split
  · rename_i hShort
    have hPairs : pairsOf listing = [] := by
      match listing, hShort with
      | [], _ => rfl
      | [_], _ => rfl
    rw [hPairs]
    refine iff_of_false List.not_mem_nil ?_
    rintro ⟨a, b, hPair, -⟩
    exact List.not_mem_nil hPair
  · simp only [List.mem_flatMap, List.mem_filterMap, flagItems_eq_some, Prod.exists]

theorem flagInputs_append (flags others : List SupplierConsolidationFlag) :
    flagInputs (flags ++ others) organisationId = flagInputs flags organisationId ++
      flagInputs others organisationId := by
  rw [flagInputs, List.filter_append, List.map_append]
  rfl

theorem flagInputs_insertFlags (flags : List SupplierConsolidationFlag)
    (inputs : List ConsolidationFlagInput) :
    flagInputs (insertFlags uuid organisationId flags inputs) organisationId =
      flagInputs flags organisationId ++ inputs := by
  induction inputs generalizing flags with
  | nil => exact (List.append_nil _).symm
  | cons input inputs ih =>
    have hOwn : flagInputs [⟨uuid flags.length, organisationId, input⟩] organisationId =
        [input] := by
      simp [flagInputs]
    rw [insertFlags, ih, flagInputs_append, hOwn, List.append_assoc, List.singleton_append]

theorem nodup_supplierIds (store : Store) (organisationId : ℕ) :
    (supplierIds store organisationId).Nodup :=
  store.nodup_ids.sublist (List.filter_sublist.map _)

@[simp] theorem flaggedQuadruples_scan :
    flaggedQuadruples (scanForSupplierConsolidation tools uuid store organisationId listing)
      organisationId = flaggedQuadruples store organisationId ++
        (newFlags tools store organisationId listing).map ConsolidationFlagInput.quadruple := by
  rw [flaggedQuadruples, scanForSupplierConsolidation, flagInputs_insertFlags, List.map_append]
  rfl

@[simp] theorem supplierIds_scan (otherId : ℕ) :
    supplierIds (scanForSupplierConsolidation tools uuid store organisationId listing) otherId =
      supplierIds store otherId := rfl

@[simp] theorem distinctSkuDescriptions_scan (otherId supplierId : ℕ) :
    distinctSkuDescriptions (scanForSupplierConsolidation tools uuid store organisationId listing)
      otherId supplierId = distinctSkuDescriptions store otherId supplierId := rfl

end ProcureFoundation.Consolidation
