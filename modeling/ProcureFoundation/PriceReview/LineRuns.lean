import ProcureFoundation.PriceReview.RunMatching
import ProcureFoundation.PriceReview.Service

/-!
# Runs of a review

A review grows by matching staged lists, as often as that happens, and its lines change by
operations in any order. What matching inserts has no figure but those of its status.
-/

namespace ProcureFoundation.PriceReview

open Ingestion Matching Outcome

/-- The rows a review can reach when each operation is allowed in the state it meets, with
the operations that have led there. -/
inductive Run (tools : TextTools) (allowed : List LineRow → LineRow → LineOperation → Prop) :
    List (ℕ × LineOperation) → List LineRow → Prop where
  | start : Run tools allowed [] []
  | matched {history : List (ℕ × LineOperation)} {rows added : List LineRow}
      {mappedOld mappedNew oldRows newRows : List PriceListRow}
      {lines : List (PriceReviewLine Decimal)} (hRun : Run tools allowed history rows)
      (hOld : stagedRows mappedOld = .ok oldRows) (hNew : stagedRows mappedNew = .ok newRows)
      (hMatch : runMatching tools oldRows newRows = .ok (lines, added)) :
        Run tools allowed history (rows ++ added)
  | operated {history : List (ℕ × LineOperation)} {rows after : List LineRow} {line : ℕ} {row : LineRow}
      {operation : LineOperation} (hRun : Run tools allowed history rows) (hRow : rows[line]? = some row)
      (hAllowed : allowed rows row operation) (hStep : applyOperation rows line operation = .ok after) :
      Run tools allowed (history ++ [(line, operation)]) after

/-- The movement that a status stands for by itself. -/
def MatchStatus.movement : MatchStatus → Option MovementType
  | .newProduct => some .newProduct
  | .discontinued => some .discontinued
  | .matched | .reviewRequired | .ignored => none

def ListSide.packUnit {α : Type} (side : ListSide α) : Option BaseUnit :=
  (packOf side.packRaw).map ParsedPack.baseUnit

/-- Only prices normalized to one unit are compared as normalized prices. -/
def UnitsAgree {α : Type} (line : PriceReviewLine α) : Prop :=
  line.comparisonBasis = .normalized → line.old.packUnit = line.new.packUnit

structure AsMatched (row : LineRow) : Prop where
  figures : row.figures = { Figures.none with
    packChanged := row.matchStatus.isLive && row.packsDiffer
    movementType := row.matchStatus.movement }
  annualQuantity : row.annualQuantity = none
  sellingPrice : row.sellingPrice = none
  targetPrice : row.targetPrice = none
  finalNegotiatedPrice : row.finalNegotiatedPrice = none
  units : UnitsAgree row

theorem packUnit_of_normalize {packRaw : Option String} {price : Option Decimal}
    {normalized : Decimal} {unit : BaseUnit}
    (h : normalize packRaw price = some (normalized, unit)) :
    (packOf packRaw).map ParsedPack.baseUnit = some unit := by
  obtain ⟨amount, -, h⟩ := Option.bind_eq_some_iff.mp h
  obtain ⟨pack, hPack, h⟩ := Option.bind_eq_some_iff.mp h
  rw [Option.ite_none_left_eq_some, Option.some.injEq, Prod.mk.injEq] at h
  rw [hPack, ← h.2.2]
  rfl

theorem unit_of_stored {row : PriceListRow}
    (h : (ListSide.ofRow row).stored.normalizedPrice.isSome) :
    (ListSide.ofRow row).stored.normalizedBaseUnit = (ListSide.ofRow row).stored.packUnit := by
  change ((ListSide.ofRow row).normalizedPrice.bind moneyColumn).isSome at h
  obtain ⟨stored, hStored⟩ := Option.isSome_iff_exists.mp h
  obtain ⟨amount, hAmount, -⟩ := Option.bind_eq_some_iff.mp hStored
  obtain ⟨⟨normalized, unit⟩, hNormalize, -⟩ := Option.map_eq_some_iff.mp hAmount
  change Option.map Prod.snd _ = (packOf row.packSize).map ParsedPack.baseUnit
  rw [packUnit_of_normalize hNormalize, hNormalize]
  rfl

theorem unitsAgree_of_stored {row : LineRow} {oldRow newRow : PriceListRow}
    (hOld : row.old = (ListSide.ofRow oldRow).stored)
    (hNew : row.new = (ListSide.ofRow newRow).stored) : UnitsAgree row := by
  intro hBasis
  obtain ⟨hOldPrice, hNewPrice, hUnit⟩ := determineComparisonBasis_eq_normalized hBasis
  rw [hOld] at hOldPrice hUnit ⊢
  rw [hNew] at hNewPrice hUnit ⊢
  rw [← unit_of_stored hOldPrice, ← unit_of_stored hNewPrice, hUnit]

theorem asMatched_discontinued (oldRow : PriceListRow) :
    AsMatched (discontinuedLine (.ofRow oldRow)).inserted where
  figures := rfl
  annualQuantity := rfl
  sellingPrice := rfl
  targetPrice := rfl
  finalNegotiatedPrice := rfl
  units hBasis := by
    have hNone := (determineComparisonBasis_eq_normalized hBasis).2.1
    exact nomatch hNone

theorem asMatched_newProduct (newRow : PriceListRow) :
    AsMatched (newProductLine (.ofRow newRow)).inserted where
  figures := rfl
  annualQuantity := rfl
  sellingPrice := rfl
  targetPrice := rfl
  finalNegotiatedPrice := rfl
  units hBasis := by
    have hNone := (determineComparisonBasis_eq_normalized hBasis).1
    exact nomatch hNone

theorem asMatched_matched (oldRow newRow : PriceListRow) (result : MatchResult) :
    AsMatched (matchedLine (.ofRow oldRow) (.ofRow newRow) result).inserted where
  figures := by
    cases hStatus : requiresHumanReview result.status with
    | false =>
      rw [matchedLine, hStatus]
      rfl
    | true =>
      rw [matchedLine, hStatus]
      rfl
  annualQuantity := rfl
  sellingPrice := rfl
  targetPrice := rfl
  finalNegotiatedPrice := rfl
  units := unitsAgree_of_stored rfl rfl

theorem asMatched_of_runMatching {tools : TextTools} {oldRows newRows : List PriceListRow}
    (hNew : Staged newRows) {lines : List (PriceReviewLine Decimal)} {added : List LineRow}
    (h : runMatching tools oldRows newRows = .ok (lines, added)) :
    ∀ row ∈ added, AsMatched row := by
  obtain ⟨-, hResult⟩ := (runMatching_eq_ok hNew).mp h
  rw [(Prod.mk.inj hResult).2, pairLines, List.map_append, List.forall_mem_append,
    List.forall_mem_map, List.forall_mem_map, List.forall_mem_map, List.forall_mem_map]
  constructor
  · intro oldRow _
    unfold oldLine
    split
    · exact asMatched_discontinued oldRow
    · exact asMatched_matched oldRow _ _
  · intro newRow _
    exact asMatched_newProduct newRow

theorem applyOperation_ok {rows after : List LineRow} {line : ℕ} {row : LineRow}
    {operation : LineOperation} (hRow : rows[line]? = some row)
    (h : applyOperation rows line operation = .ok after) :
    ∃ changed, operate rows row operation = .ok changed ∧ after = rows.set line changed := by
  obtain ⟨found, hFound, h⟩ := exists_of_bind_eq_ok h
  rw [findLine, hRow] at hFound
  obtain rfl := Except.ok.inj hFound
  obtain ⟨changed, hChanged, h⟩ := exists_of_bind_eq_ok h
  exact ⟨changed, hChanged, (Except.ok.inj h).symm⟩

/-- A property of every row that holds of what matching inserts and that every allowed operation
keeps. -/
theorem Run.forall_rows_of_inserted {tools : TextTools}
    {allowed : List LineRow → LineRow → LineOperation → Prop} {P : LineRow → Prop}
    (hInserted : ∀ oldRows newRows lines added, Staged oldRows → Staged newRows →
      runMatching tools oldRows newRows = .ok (lines, added) → ∀ row ∈ added, P row)
    (hStep : ∀ rows row operation changed, (∀ other ∈ rows, P other) → P row →
      allowed rows row operation → operate rows row operation = .ok changed → P changed)
    {history : List (ℕ × LineOperation)} {rows : List LineRow}
    (hRun : Run tools allowed history rows) : ∀ row ∈ rows, P row := by
  induction hRun with
  | start => exact fun row hRow => nomatch hRow
  | matched hRun hOld hNew hMatch ih =>
    rw [List.forall_mem_append]
    exact ⟨ih, hInserted _ _ _ _ (staged_of_stagedRows hOld) (staged_of_stagedRows hNew) hMatch⟩
  | operated hRun hRow hAllowed hApply ih =>
    obtain ⟨changed, hChanged, rfl⟩ := applyOperation_ok hRow hApply
    intro other hOther
    obtain hOther | rfl := List.mem_or_eq_of_mem_set hOther
    · exact ih other hOther
    · exact hStep _ _ _ _ ih (ih _ (List.mem_of_getElem? hRow)) hAllowed hChanged

theorem Run.forall_rows {tools : TextTools}
    {allowed : List LineRow → LineRow → LineOperation → Prop} {P : LineRow → Prop}
    (hMatched : ∀ row, AsMatched row → P row)
    (hStep : ∀ rows row operation changed, (∀ other ∈ rows, P other) → P row →
      allowed rows row operation → operate rows row operation = .ok changed → P changed)
    {history : List (ℕ × LineOperation)} {rows : List LineRow}
    (hRun : Run tools allowed history rows) : ∀ row ∈ rows, P row :=
  hRun.forall_rows_of_inserted
    (fun _ _ _ _ _ hNew hMatch row hRow =>
      hMatched row (asMatched_of_runMatching hNew hMatch row hRow)) hStep

def operateAll (rows : List LineRow) : List (ℕ × LineOperation) → Except String (List LineRow)
  | [] => .ok rows
  | (line, operation) :: rest => do
    let rows ← applyOperation rows line operation
    operateAll rows rest

theorem Run.operateAll {tools : TextTools} {history operations : List (ℕ × LineOperation)}
    {rows after : List LineRow} (hRun : Run tools (fun _ _ _ => True) history rows)
    (h : operateAll rows operations = .ok after) :
    Run tools (fun _ _ _ => True) (history ++ operations) after := by
  induction operations generalizing history rows with
  | nil =>
    obtain rfl := Except.ok.inj h
    rwa [List.append_nil]
  | cons entry operations ih =>
    obtain ⟨next, hNext, h⟩ := exists_of_bind_eq_ok h
    obtain ⟨row, hFound, -⟩ := exists_of_bind_eq_ok hNext
    have hRow : rows[entry.1]? = some row := by
      unfold findLine at hFound
      split at hFound
      · rename_i hRow
        exact hRow.trans (congrArg some (Except.ok.inj hFound))
      · exact nomatch hFound
    have hStep := ih (Run.operated hRun hRow trivial hNext) h
    rwa [List.append_assoc] at hStep

def flourRows (newPrice : String) : List LineRow :=
  (pairLines asciiTools [plainRow "FL-10" "120.50"] [plainRow "FL-10" newPrice]).map
    PriceReviewLine.inserted

/-- Ten cases a year. -/
def tenAYear (sellingPrice : Option ℚ) : ManualQuantityUpdate := ⟨10, sellingPrice, by norm_num⟩

theorem run_flour {allowed : List LineRow → LineRow → LineOperation → Prop} {newPrice : String}
    (hStaged : stagedRows [plainRow "FL-10" newPrice] = .ok [plainRow "FL-10" newPrice])
    (hInsertable : Insertable (plainRow "FL-10" newPrice)) : Run asciiTools allowed []
    (flourRows newPrice) := by
  refine Run.matched .start staged_flour hStaged
    ((runMatching_eq_ok (staged_of_stagedRows hStaged)).mpr ⟨?_, rfl⟩)
  rw [List.forall_mem_append, List.forall_mem_singleton, List.forall_mem_singleton]
  exact ⟨by decide +kernel, hInsertable⟩

end ProcureFoundation.PriceReview
