import ProcureFoundation.Foundation.Outcomes
import ProcureFoundation.Ingestion.Validation
import ProcureFoundation.PriceReview.Lines

/-!
# Matching two staged price lists

Every old row becomes a line, paired with its best new row or discontinued, and every new
row that no old row has taken becomes a line of its own. The lines are then inserted,
which fails when a column cannot hold a value.
-/

namespace ProcureFoundation.PriceReview

open Ingestion Matching Outcome

/-- The quotient as a decimal; trailing zeros of its coefficient are not modelled. -/
def decimalOfContext (q : ℚ) : Decimal :=
  let exponent := Int.log 10 |q| - 27
  .finite (decide (q < 0)) (roundHalfEven (|q| / 10 ^ exponent)).natAbs exponent

def pricePerBaseUnit (totalPrice : Decimal) (baseQuantity : ℚ) : Decimal :=
  match totalPrice.toRat with
  | some price => decimalOfContext (price / baseQuantity)
  | none => totalPrice

def packOf (packRaw : Option String) : Option ParsedPack :=
  if packRaw.getD "" = "" then none else parsePackString (packRaw.getD "")

def normalize (packRaw : Option String) (price : Option Decimal) : Option (Decimal × BaseUnit) :=
  price.bind fun price => (packOf packRaw).bind fun pack =>
    if pack.baseQuantity = 0 then none
      else some (pricePerBaseUnit price pack.baseQuantity, pack.baseUnit)

def readPrice (text : Option String) : Except String (Option Decimal) :=
  if text.getD "" = "" then .ok none
  else
    match Decimal.ofString (text.getD "") with
    | some price => .ok (some price)
    | none => .error "InvalidOperation"

def sideWithPrice (row : PriceListRow) (price : Option Decimal) : ListSide Decimal where
  supplierSku := row.supplierSku
  description := row.description
  packRaw := row.packSize
  price := price
  normalizedPrice := (normalize row.packSize price).map Prod.fst
  normalizedBaseUnit := (normalize row.packSize price).map Prod.snd

def readSide (row : PriceListRow) : Except String (ListSide Decimal) := do
  let price ← readPrice row.price
  return sideWithPrice row price

def candidateItem (row : PriceListRow) : CandidateItem where
  key := row.supplierSku.getD "None"
  supplierSku := row.supplierSku
  barcode := row.barcode
  description := row.description.getD ""

/-- The rows by identifier: a later row takes the place of an earlier one. -/
def rowsBySku (rows : List PriceListRow) : List PriceListRow :=
  rows.foldl (fun kept row =>
    if kept.any (·.supplierSku == row.supplierSku) then
      kept.map fun other => if other.supplierSku = row.supplierSku then row else other
    else kept ++ [row]) []

def newLine (old new : ListSide Decimal) (matchStatus : MatchStatus) (method : MatchMethod)
    (confidence : Option ℚ) (packChanged : Bool) (movementType : Option MovementType) :
    PriceReviewLine Decimal where
  old := old
  new := new
  matchStatus := matchStatus
  matchMethod := .scored method
  matchConfidence := confidence.map (FixedPoint.quantize 4)
  matchConfirmedByUserId := none
  annualQuantity := none
  quantitySource := none
  quantityConfidence := none
  sellingPrice := none
  targetPrice := none
  finalNegotiatedPrice := none
  figures := { Figures.none with packChanged, movementType }

def discontinuedLine (old : ListSide Decimal) : PriceReviewLine Decimal :=
  newLine old .empty .discontinued .unmatched none false (some .discontinued)

def newProductLine (new : ListSide Decimal) : PriceReviewLine Decimal :=
  newLine .empty new .newProduct .unmatched none false (some .newProduct)

def matchedLine (old new : ListSide Decimal) (result : MatchResult) : PriceReviewLine Decimal :=
  newLine old new (if requiresHumanReview result.status then .reviewRequired else .matched) result.method
    (some result.confidence) (old.packRaw.getD "" != new.packRaw.getD "") none

variable (tools : TextTools)

def matchOldRow (newItems : List CandidateItem) (newBySku : List PriceListRow)
    (row : PriceListRow) : Except String (PriceReviewLine Decimal) := do
  let result := findBestMatch tools (candidateItem row) newItems
  let old ← readSide row
  if result.status = .noCandidate then return discontinuedLine old
  else
    match result.newKey with
    | none => return discontinuedLine old
    | some newKey =>
      match newBySku.find? (·.supplierSku == some newKey) with
      | none => throw "KeyError"
      | some newRow => do
        let new ← readSide newRow
        return matchedLine old new result

def matchedNewSkus (oldRows newRows : List PriceListRow) : List String :=
  oldRows.filterMap fun row =>
    (findBestMatch tools (candidateItem row) (newRows.map candidateItem)).newKey

def buildLines (oldRows newRows : List PriceListRow) :
    Except String (List (PriceReviewLine Decimal)) := do
  let newBySku := rowsBySku newRows
  let taken := matchedNewSkus tools oldRows newRows
  let oldLines ← oldRows.mapM (matchOldRow tools (newRows.map candidateItem) newBySku)
  let newLines ← (newBySku.filter fun row => !decide (row.supplierSku ∈ taken.map some)).mapM
    fun row => do
    let new ← readSide row
    return newProductLine new
  return oldLines ++ newLines

/-- A decimal in a money column, which holds neither an infinity nor, of the prices that are staged,
a NaN. -/
def moneyColumn (amount : Decimal) : Option Money := amount.toRat.map (FixedPoint.assign 4)

def storable (amount : Option Decimal) : Bool := amount.all fun x => x.toRat.isSome

def ListSide.stored (side : ListSide Decimal) : ListSide Money :=
  { side with
    price := side.price.bind moneyColumn
    normalizedPrice := side.normalizedPrice.bind moneyColumn }

def ListSide.storable (side : ListSide Decimal) : Bool :=
  PriceReview.storable side.price && PriceReview.storable side.normalizedPrice && side.stored.fits

def PriceReviewLine.inserted (line : PriceReviewLine Decimal) : LineRow :=
  { line with
    old := line.old.stored
    new := line.new.stored
    annualQuantity := line.annualQuantity.bind moneyColumn
    sellingPrice := line.sellingPrice.bind moneyColumn
    targetPrice := line.targetPrice.bind moneyColumn
    finalNegotiatedPrice := line.finalNegotiatedPrice.bind moneyColumn }

def flush (lines : List (PriceReviewLine Decimal)) : Except String (List LineRow) :=
  if lines.all fun line => line.old.storable && line.new.storable then
    .ok (lines.map PriceReviewLine.inserted)
  else .error "numeric field overflow"

/-- The lines as they are returned and the rows that have been inserted. -/
def runMatching (oldRows newRows : List PriceListRow) :
    Except String (List (PriceReviewLine Decimal) × List LineRow) := do
  let lines ← buildLines tools oldRows newRows
  let rows ← flush lines
  return (lines, rows)

def Readable (row : PriceListRow) : Prop :=
  row.price.getD "" = "" ∨ (Decimal.ofString (row.price.getD "")).isSome

def ListSide.ofRow (row : PriceListRow) : ListSide Decimal :=
  sideWithPrice row (if row.price.getD "" = "" then none else Decimal.ofString (row.price.getD ""))

/-- Whether a line of the row can be built and inserted. -/
def Insertable (row : PriceListRow) : Prop := Readable row ∧ (ListSide.ofRow row).storable

instance (row : PriceListRow) : Decidable (Insertable row) :=
  inferInstanceAs (Decidable ((_ ∨ _) ∧ _))

variable {tools} {row oldRow newRow : PriceListRow} {oldRows newRows : List PriceListRow}

theorem readSide_eq_ok {side : ListSide Decimal} :
    readSide row = .ok side ↔ Readable row ∧ side = ListSide.ofRow row := by
  unfold readSide readPrice Readable ListSide.ofRow
  by_cases hBlank : row.price.getD "" = ""
  · rw [if_pos hBlank, if_pos hBlank]
    constructor
    · intro h
      exact ⟨.inl hBlank, (Except.ok.inj h).symm⟩
    · rintro ⟨-, rfl⟩
      rfl
  · rw [if_neg hBlank, if_neg hBlank]
    cases hPrice : Decimal.ofString (row.price.getD "") with
    | none =>
      constructor
      · intro h
        exact nomatch h
      · rintro ⟨hReadable, -⟩
        exact absurd (hReadable.resolve_left hBlank) Bool.false_ne_true
    | some price =>
      constructor
      · intro h
        exact ⟨.inr rfl, (Except.ok.inj h).symm⟩
      · rintro ⟨-, rfl⟩
        rfl

def Takes (tools : TextTools) (newRows : List PriceListRow) (oldRow newRow : PriceListRow) : Prop :=
  Claims tools (candidateItem oldRow) (newRows.map candidateItem) (candidateItem newRow)

def takenRow (tools : TextTools) (newRows : List PriceListRow) (oldRow : PriceListRow) :
    Option PriceListRow :=
  (findBestMatch tools (candidateItem oldRow) (newRows.map candidateItem)).newKey.bind fun key =>
    newRows.find? (·.supplierSku == some key)

theorem rowsBySku_append (hSkus : ((oldRows ++ newRows).map PriceListRow.supplierSku).Nodup) :
    newRows.foldl (fun kept row =>
      if kept.any (·.supplierSku == row.supplierSku) then
        kept.map fun other => if other.supplierSku = row.supplierSku then row else other
      else kept ++ [row]) oldRows = oldRows ++ newRows := by
  induction newRows generalizing oldRows with
  | nil => exact (List.append_nil oldRows).symm
  | cons row rows ih =>
    have hFresh : oldRows.any (·.supplierSku == row.supplierSku) = false := by
      rw [List.any_eq_false]
      intro other hOther hEq
      rw [List.map_append, List.nodup_append] at hSkus
      exact hSkus.2.2 _ (List.mem_map_of_mem hOther) _ (List.mem_map_of_mem List.mem_cons_self)
        (beq_iff_eq.mp hEq)
    rw [List.foldl_cons, hFresh]
    have hStep := @ih (oldRows ++ [row]) (by rwa [List.append_assoc])
    rw [List.append_assoc] at hStep
    exact hStep

theorem rowsBySku_eq (hNew : Staged newRows) : rowsBySku newRows = newRows :=
  @rowsBySku_append [] newRows hNew.nodup_skus

theorem find_sku (hNew : Staged newRows) (hMem : newRow ∈ newRows) :
    newRows.find? (·.supplierSku == newRow.supplierSku) = some newRow := by
  obtain ⟨found, hFound⟩ : ∃ found, newRows.find? (·.supplierSku == newRow.supplierSku) =
      some found :=
    Option.isSome_iff_exists.mp (List.find?_isSome.mpr ⟨newRow, hMem, beq_self_eq_true _⟩)
  have hEq := List.find?_some hFound
  have hSku := beq_iff_eq.mp hEq
  rw [hFound, List.inj_on_of_nodup_map hNew.nodup_skus (List.mem_of_find?_eq_some hFound) hMem hSku]

theorem some_key (h : Accepted row) : some (candidateItem row).key = row.supplierSku := by
  obtain ⟨sku, hSku⟩ := h.exists_sku
  rw [candidateItem, hSku]
  rfl

theorem takenRow_cases (tools : TextTools) (hNew : Staged newRows) (oldRow : PriceListRow) :
    ((∀ row ∈ newRows, ¬ Takes tools newRows oldRow row) ∧ takenRow tools newRows oldRow = none ∧
      (findBestMatch tools (candidateItem oldRow) (newRows.map candidateItem)).newKey = none ∧
      (findBestMatch tools (candidateItem oldRow) (newRows.map candidateItem)).status =
        .noCandidate) ∨
    ∃ row ∈ newRows, Takes tools newRows oldRow row ∧ takenRow tools newRows oldRow = some row ∧
      (findBestMatch tools (candidateItem oldRow) (newRows.map candidateItem)).newKey =
        some (candidateItem row).key ∧
      (findBestMatch tools (candidateItem oldRow) (newRows.map candidateItem)).status ≠
        .noCandidate := by
  obtain ⟨hNone, hKey, hStatus⟩ | ⟨item, hClaims, hKey, hStatus⟩ :=
    findBestMatch_cases tools (candidateItem oldRow) (newRows.map candidateItem)
  · exact .inl ⟨fun row _ => hNone _, by rw [takenRow, hKey, Option.bind_none], hKey, hStatus⟩
  · obtain ⟨row, hRow, rfl⟩ := List.mem_map.mp hClaims.mem
    refine .inr ⟨row, hRow, hClaims, ?_, hKey, ?_⟩
    · rw [takenRow, hKey, Option.bind_some, some_key (hNew.accepted row hRow)]
      exact find_sku hNew hRow
    · rw [hStatus]
      exact classifyStatus_ne_noCandidate _

theorem takenRow_eq_some (hNew : Staged newRows) :
    takenRow tools newRows oldRow = some newRow ↔
      newRow ∈ newRows ∧ Takes tools newRows oldRow newRow := by
  obtain ⟨hNone, hTaken, -⟩ | ⟨row, hRow, hTakes, hTaken, -⟩ := takenRow_cases tools hNew oldRow
  · rw [hTaken]
    constructor
    · intro h
      exact nomatch h
    · rintro ⟨hMem, hTakes⟩
      exact absurd hTakes (hNone newRow hMem)
  · rw [hTaken, Option.some.injEq]
    constructor
    · rintro rfl
      exact ⟨hRow, hTakes⟩
    · rintro ⟨hMem, hOther⟩
      have hItem := hTakes.unique hOther
      have hSku := some_key (hNew.accepted row hRow)
      rw [hItem, some_key (hNew.accepted newRow hMem)] at hSku
      exact List.inj_on_of_nodup_map hNew.nodup_skus hRow hMem hSku.symm

def oldLine (tools : TextTools) (newRows : List PriceListRow) (oldRow : PriceListRow) :
    PriceReviewLine Decimal :=
  match takenRow tools newRows oldRow with
  | none => discontinuedLine (.ofRow oldRow)
  | some newRow =>
    matchedLine (.ofRow oldRow) (.ofRow newRow)
      (findBestMatch tools (candidateItem oldRow) (newRows.map candidateItem))

def untakenRows (tools : TextTools) (oldRows newRows : List PriceListRow) : List PriceListRow :=
  newRows.filter fun row => !decide (row ∈ oldRows.filterMap (takenRow tools newRows))

def pairLines (tools : TextTools) (oldRows newRows : List PriceListRow) :
    List (PriceReviewLine Decimal) :=
  oldRows.map (oldLine tools newRows) ++ (untakenRows tools oldRows newRows).map fun row =>
    newProductLine (.ofRow row)

theorem matchOldRow_eq_ok (hNew : Staged newRows) {line : PriceReviewLine Decimal} :
    matchOldRow tools (newRows.map candidateItem) newRows oldRow = .ok line ↔
      Readable oldRow ∧ (∀ row, takenRow tools newRows oldRow = some row → Readable row) ∧
        line = oldLine tools newRows oldRow := by
  unfold matchOldRow oldLine
  obtain ⟨-, hTaken, hKey, hStatus⟩ | ⟨newRow, hMem, -, hTaken, hKey, hStatus⟩ :=
    takenRow_cases tools hNew oldRow
  · simp only [hTaken, hStatus, if_true]
    constructor
    · intro h
      obtain ⟨old, hOld, h⟩ := exists_of_bind_eq_ok h
      obtain ⟨hReadable, rfl⟩ := readSide_eq_ok.mp hOld
      exact ⟨hReadable, fun _ hRow => (nomatch hRow), (Except.ok.inj h).symm⟩
    · rintro ⟨hReadable, -, rfl⟩
      rw [bind_of_eq_ok (readSide_eq_ok.mpr ⟨hReadable, rfl⟩)]
      rfl
  · have hFind := find_sku hNew hMem
    rw [← some_key (hNew.accepted newRow hMem)] at hFind
    simp only [hTaken, if_neg hStatus, hKey, hFind, Option.some.injEq, forall_eq']
    constructor
    · intro h
      obtain ⟨old, hOld, h⟩ := exists_of_bind_eq_ok h
      obtain ⟨new, hNewSide, h⟩ := exists_of_bind_eq_ok h
      obtain ⟨hReadable, rfl⟩ := readSide_eq_ok.mp hOld
      obtain ⟨hNewReadable, rfl⟩ := readSide_eq_ok.mp hNewSide
      exact ⟨hReadable, hNewReadable, (Except.ok.inj h).symm⟩
    · rintro ⟨hReadable, hNewReadable, rfl⟩
      rw [bind_of_eq_ok (readSide_eq_ok.mpr ⟨hReadable, rfl⟩),
        bind_of_eq_ok (readSide_eq_ok.mpr ⟨hNewReadable, rfl⟩)]
      rfl

theorem mem_matchedNewSkus (hNew : Staged newRows) (hRow : row ∈ newRows) :
    row.supplierSku ∈ (matchedNewSkus tools oldRows newRows).map some ↔
      row ∈ oldRows.filterMap (takenRow tools newRows) := by
  simp only [matchedNewSkus, List.mem_map, List.mem_filterMap]
  constructor
  · rintro ⟨key, ⟨oldRow, hOld, hKey⟩, hSku⟩
    refine ⟨oldRow, hOld, ?_⟩
    rw [takenRow, hKey, Option.bind_some, hSku]
    exact find_sku hNew hRow
  · rintro ⟨oldRow, hOld, hTaken⟩
    obtain ⟨-, hNone, -⟩ | ⟨found, -, -, hFound, hKey, -⟩ := takenRow_cases tools hNew oldRow
    · rw [hNone] at hTaken
      exact nomatch hTaken
    · rw [hFound, Option.some.injEq] at hTaken
      subst hTaken
      exact ⟨_, ⟨oldRow, hOld, hKey⟩, some_key (hNew.accepted found hRow)⟩

theorem untakenRows_eq (hNew : Staged newRows) :
    newRows.filter
      (fun row => !decide (row.supplierSku ∈ (matchedNewSkus tools oldRows newRows).map some)) =
      untakenRows tools oldRows newRows := by
  refine List.filter_congr fun row hRow => ?_
  rw [decide_eq_decide.mpr (mem_matchedNewSkus hNew hRow)]

/-- The old rows, the rows they take and the rows that are left are all the rows. -/
theorem forall_reached (tools : TextTools) (hNew : Staged newRows) (P : PriceListRow → Prop) :
    ((∀ row ∈ oldRows, P row ∧ ∀ new, takenRow tools newRows row = some new → P new) ∧
      ∀ row ∈ untakenRows tools oldRows newRows, P row) ↔ ∀ row ∈ oldRows ++ newRows, P row := by
  rw [List.forall_mem_append]
  constructor
  · rintro ⟨hOld, hRest⟩
    refine ⟨fun row hRow => (hOld row hRow).1, fun row hRow => ?_⟩
    by_cases hTaken : row ∈ oldRows.filterMap (takenRow tools newRows)
    · obtain ⟨oldRow, hOldRow, hEq⟩ := List.mem_filterMap.mp hTaken
      exact (hOld oldRow hOldRow).2 row hEq
    · exact hRest row (List.mem_filter.mpr ⟨hRow, by rw [decide_eq_false hTaken]; rfl⟩)
  · rintro ⟨hOld, hAll⟩
    refine ⟨fun row hRow => ⟨hOld row hRow, fun new hTaken => ?_⟩, fun row hRow => ?_⟩
    · exact hAll new ((takenRow_eq_some hNew).mp hTaken).1
    · exact hAll row (List.mem_filter.mp hRow).1

@[simp] theorem oldLine_old : (oldLine tools newRows oldRow).old = .ofRow oldRow := by
  unfold oldLine
  split
  · rfl
  · rfl

@[simp] theorem oldLine_new :
    (oldLine tools newRows oldRow).new = ((takenRow tools newRows oldRow).map ListSide.ofRow).getD
      .empty := by
  unfold oldLine
  split
  · rename_i hTaken
    rw [hTaken]
    rfl
  · rename_i newRow hTaken
    rw [hTaken]
    rfl

theorem buildLines_eq_ok (hNew : Staged newRows) {lines : List (PriceReviewLine Decimal)} :
    buildLines tools oldRows newRows = .ok lines ↔
      (∀ row ∈ oldRows ++ newRows, Readable row) ∧ lines = pairLines tools oldRows newRows := by
  have hOldLines : ∀ row line, matchOldRow tools (newRows.map candidateItem) newRows row =
    .ok line ↔
      (Readable row ∧ ∀ new, takenRow tools newRows row = some new → Readable new) ∧
        line = oldLine tools newRows row := by
    intro row line
    rw [matchOldRow_eq_ok hNew, and_assoc]
  have hNewLines : ∀ row line, (do let new ← readSide row; return newProductLine new) =
    Except.ok line ↔
      Readable row ∧ line = newProductLine (.ofRow row) := by
    intro row line
    constructor
    · intro h
      obtain ⟨new, hSide, h⟩ := exists_of_bind_eq_ok h
      obtain ⟨hReadable, rfl⟩ := readSide_eq_ok.mp hSide
      exact ⟨hReadable, (Except.ok.inj h).symm⟩
    · rintro ⟨hReadable, rfl⟩
      rw [bind_of_eq_ok (readSide_eq_ok.mpr ⟨hReadable, rfl⟩)]
      rfl
  unfold buildLines
  simp only [rowsBySku_eq hNew, untakenRows_eq hNew, ← forall_reached tools hNew]
  constructor
  · intro h
    obtain ⟨oldLines, hOld, h⟩ := exists_of_bind_eq_ok h
    obtain ⟨newLines, hRest, h⟩ := exists_of_bind_eq_ok h
    obtain ⟨hOldReadable, rfl⟩ := (mapM_eq_ok_iff hOldLines).mp hOld
    obtain ⟨hRestReadable, rfl⟩ := (mapM_eq_ok_iff hNewLines).mp hRest
    exact ⟨⟨hOldReadable, hRestReadable⟩, (Except.ok.inj h).symm⟩
  · rintro ⟨⟨hOldReadable, hRestReadable⟩, rfl⟩
    rw [bind_of_eq_ok ((mapM_eq_ok_iff hOldLines).mpr ⟨hOldReadable, rfl⟩),
      bind_of_eq_ok ((mapM_eq_ok_iff hNewLines).mpr ⟨hRestReadable, rfl⟩)]
    rfl

theorem storable_empty : (ListSide.empty : ListSide Decimal).storable = true := rfl

theorem storable_oldLine :
    ((oldLine tools newRows oldRow).old.storable && (oldLine tools newRows oldRow).new.storable) =
      true ↔ (ListSide.ofRow oldRow).storable = true ∧
        ∀ new, takenRow tools newRows oldRow = some new → (ListSide.ofRow new).storable = true := by
  rw [Bool.and_eq_true, oldLine_old, oldLine_new]
  cases takenRow tools newRows oldRow with
  | none => simp [storable_empty]
  | some new => simp

theorem storable_lines (hNew : Staged newRows) :
    ((pairLines tools oldRows newRows).all fun line => line.old.storable && line.new.storable) =
      true ↔ ∀ row ∈ oldRows ++ newRows, (ListSide.ofRow row).storable = true := by
  rw [← forall_reached tools hNew, List.all_eq_true, pairLines, List.forall_mem_append,
    List.forall_mem_map, List.forall_mem_map]
  simp only [storable_oldLine, newProductLine, newLine, storable_empty, Bool.true_and]

/-- Two staged lists are matched when each of their rows can be read and inserted. -/
theorem runMatching_eq_ok (hNew : Staged newRows)
    {result : List (PriceReviewLine Decimal) × List LineRow} :
    runMatching tools oldRows newRows = .ok result ↔ (∀ row ∈ oldRows ++ newRows, Insertable row) ∧
      result = (pairLines tools oldRows newRows,
        (pairLines tools oldRows newRows).map PriceReviewLine.inserted) := by
  have hInsertable : (∀ row ∈ oldRows ++ newRows, Insertable row) ↔
      (∀ row ∈ oldRows ++ newRows, Readable row) ∧
        ((pairLines tools oldRows newRows).all fun line => line.old.storable && line.new.storable) =
          true := by
    rw [storable_lines hNew, ← forall₂_and]
    rfl
  unfold runMatching flush
  rw [hInsertable]
  constructor
  · intro h
    obtain ⟨lines, hLines, h⟩ := exists_of_bind_eq_ok h
    obtain ⟨hReadable, rfl⟩ := (buildLines_eq_ok hNew).mp hLines
    obtain ⟨rows, hRows, h⟩ := exists_of_bind_eq_ok h
    split at hRows
    · rename_i hStorable
      obtain rfl := Except.ok.inj hRows
      exact ⟨⟨hReadable, hStorable⟩, (Except.ok.inj h).symm⟩
    · exact nomatch hRows
  · rintro ⟨⟨hReadable, hStorable⟩, rfl⟩
    rw [bind_of_eq_ok ((buildLines_eq_ok hNew).mpr ⟨hReadable, rfl⟩), if_pos hStorable]
    rfl

/-- A sequence matcher that tells equal texts from others. -/
def asciiTools : TextTools :=
  { ratioTools 1 with sequenceRatio := fun textA textB => if textA = textB then 1 else 0 }

def plainRow (sku price : String) : PriceListRow :=
  ⟨some sku, some "Cake flour", some "10kg", some price, none⟩

theorem staged_flour :
    stagedRows [plainRow "FL-10" "120.50"] = .ok [plainRow "FL-10" "120.50"] := by
  decide +kernel

end ProcureFoundation.PriceReview
