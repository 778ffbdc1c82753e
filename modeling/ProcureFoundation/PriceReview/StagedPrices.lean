import ProcureFoundation.PriceReview.RunMatching

/-!
# Staged prices

Validation reads cleaned texts and stages the texts as they were read, and matching reads
these once more without cleaning them. The two readings agree on the rows whose texts are
already clean.
-/

namespace ProcureFoundation.PriceReview

open Ingestion Matching Outcome Text

/-- The side of a line carries what validation has made of its row; an empty pack text is none. -/
structure CarriesValidated (side : ListSide Decimal) (validated : ValidatedRow) : Prop where
  supplierSku : side.supplierSku = validated.supplierSku
  packRaw : side.packRaw.getD "" = validated.packSize.getD ""
  price : side.price = validated.price

/-- A side is empty or belongs to a staged row and carries what validation has made of that row. -/
def SideAgrees (pairs : List (PriceListRow × ValidatedRow)) (side : ListSide Decimal) : Prop :=
  side = .empty ∨ ∃ pair ∈ pairs, side.supplierSku = pair.1.supplierSku ∧
    CarriesValidated side pair.2

structure LinesAgree (oldPairs newPairs : List (PriceListRow × ValidatedRow))
    (lines : List (PriceReviewLine Decimal)) : Prop where
  old : ∀ line ∈ lines, SideAgrees oldPairs line.old
  new : ∀ line ∈ lines, SideAgrees newPairs line.new

structure AsCleaned (row : PriceListRow) : Prop where
  supplierSku : strip (row.supplierSku.getD "") = row.supplierSku.getD ""
  packSize : strip (row.packSize.getD "") = row.packSize.getD ""
  price : ',' ∉ (row.price.getD "").toList ∧ 'R' ∉ (row.price.getD "").toList

instance (row : PriceListRow) : Decidable (AsCleaned row) :=
  decidable_of_iff (_ ∧ _ ∧ _)
    ⟨fun h => ⟨h.1, h.2.1, h.2.2⟩, fun h => ⟨h.supplierSku, h.packSize, h.price⟩⟩

variable {tools : TextTools} {row : PriceListRow} {validated : ValidatedRow}
  {oldRows newRows : List PriceListRow}

theorem getD_cleanText (raw : Option String) : (cleanText raw).getD "" = strip (raw.getD "") := by
  unfold cleanText
  split
  · rename_i hBlank
    exact (beq_iff_eq.mp hBlank).symm
  · rfl

theorem eq_cleanText_iff {raw : Option String} (h : (cleanText raw).isSome) (hRaw : raw.isSome) :
    raw = cleanText raw ↔ strip (raw.getD "") = raw.getD "" := by
  obtain ⟨text, rfl⟩ := Option.isSome_iff_exists.mp hRaw
  obtain ⟨clean, hClean⟩ := Option.isSome_iff_exists.mp h
  have hStrip := getD_cleanText (some text)
  rw [hClean] at hStrip
  rw [hClean, ← hStrip, Option.some.injEq]
  exact eq_comm

theorem exists_price (h : Accepted row) : ∃ price, parsePrice row.price = some price ∧
    Decimal.ofString (cleanPrice (row.price.getD "")) = some price ∧ row.price.getD "" ≠ "" := by
  obtain ⟨price, hPrice, -⟩ := h.price
  refine ⟨price, hPrice, ?_, ?_⟩
  · unfold parsePrice at hPrice
    split at hPrice
    · exact nomatch hPrice
    · exact hPrice
  · intro hEmpty
    unfold parsePrice isBlank at hPrice
    rw [hEmpty] at hPrice
    exact nomatch hPrice

/-- The line of an accepted row carries what validation has made of the row when the texts are
clean. -/
theorem carriesValidated_iff (hRow : Accepted row) (hDescribes : Describes validated row) :
    CarriesValidated (.ofRow row) validated ↔ AsCleaned row := by
  obtain ⟨sku, hSku⟩ := hRow.exists_sku
  obtain ⟨price, hParsed, hCleaned, hNotEmpty⟩ := exists_price hRow
  have hSkuIff := eq_cleanText_iff hRow.supplierSku (Option.isSome_iff_exists.mpr ⟨sku, hSku⟩)
  have hPriceIff := ofString_eq_cleaned_iff hCleaned
  have hPrice : (ListSide.ofRow row).price = Decimal.ofString (row.price.getD "") :=
    if_neg hNotEmpty
  constructor
  · rintro ⟨hSide, hPack, hSidePrice⟩
    rw [hDescribes.supplierSku] at hSide
    rw [hDescribes.packSize, getD_cleanText] at hPack
    rw [hDescribes.price, hParsed, hPrice] at hSidePrice
    exact ⟨hSkuIff.mp hSide, hPack.symm, hPriceIff.mp hSidePrice⟩
  · rintro ⟨hSide, hPack, hClean⟩
    refine ⟨?_, ?_, ?_⟩
    · rw [hDescribes.supplierSku]
      exact hSkuIff.mpr hSide
    · rw [hDescribes.packSize, getD_cleanText]
      exact hPack.symm
    · rw [hDescribes.price, hParsed, hPrice]
      exact hPriceIff.mpr hClean

variable {mapped mappedOld mappedNew : List PriceListRow}
  {validatedRows validatedOld validatedNew : List ValidatedRow}

def acceptedRows (rows : List PriceListRow) (validatedRows : List ValidatedRow) :
    List PriceListRow :=
  (validPairs rows validatedRows).map Prod.fst

theorem staged_acceptedRows (h : validateRows mapped = .ok validatedRows) :
    Staged (acceptedRows mapped validatedRows) :=
  staged_of_stagedRows (bind_of_eq_ok h _)

theorem sideAgrees_ofRow_iff (h : validateRows mapped = .ok validatedRows)
    (hMem : row ∈ acceptedRows mapped validatedRows) :
    SideAgrees (validPairs mapped validatedRows) (.ofRow row) ↔ AsCleaned row := by
  have hStaged := staged_acceptedRows h
  obtain ⟨hPairs, -⟩ := validPairs_spec h
  constructor
  · rintro (hEmpty | ⟨pair, hPair, hSku, hCarries⟩)
    · obtain ⟨sku, hSome⟩ := (hStaged.accepted row hMem).exists_sku
      have hNone : row.supplierSku = none := congrArg ListSide.supplierSku hEmpty
      rw [hSome] at hNone
      exact nomatch hNone
    · obtain ⟨hAccepted, hDescribes, -⟩ := hPairs pair hPair
      -- staged rows have distinct identifiers, so the pair is that of the row
      have hRow : row = pair.1 :=
        List.inj_on_of_nodup_map hStaged.nodup_skus hMem (List.mem_map_of_mem hPair) hSku
      rw [hRow] at hCarries ⊢
      exact (carriesValidated_iff hAccepted hDescribes).mp hCarries
  · intro hClean
    obtain ⟨pair, hPair, rfl⟩ := List.mem_map.mp hMem
    obtain ⟨hAccepted, hDescribes, -⟩ := hPairs pair hPair
    exact .inr ⟨pair, hPair, rfl, (carriesValidated_iff hAccepted hDescribes).mpr hClean⟩

theorem linesAgree_iff (hOld : validateRows mappedOld = .ok validatedOld)
    (hNew : validateRows mappedNew = .ok validatedNew) :
    LinesAgree (validPairs mappedOld validatedOld) (validPairs mappedNew validatedNew)
      (pairLines tools (acceptedRows mappedOld validatedOld) (acceptedRows mappedNew validatedNew)) ↔
    ∀ row ∈ acceptedRows mappedOld validatedOld ++ acceptedRows mappedNew validatedNew, AsCleaned row := by
  have hNewStaged := staged_acceptedRows hNew
  have hOldIff := fun row => @sideAgrees_ofRow_iff row _ _ hOld
  have hNewIff := fun row => @sideAgrees_ofRow_iff row _ _ hNew
  have hTaken : ∀ {oldRow row}, takenRow tools (acceptedRows mappedNew validatedNew) oldRow =
    some row →
      row ∈ acceptedRows mappedNew validatedNew := fun h => ((takenRow_eq_some hNewStaged).mp h).1
  rw [← forall_reached tools hNewStaged]
  constructor
  · rintro ⟨hOldSides, hNewSides⟩
    rw [pairLines, List.forall_mem_append, List.forall_mem_map, List.forall_mem_map] at hOldSides hNewSides
    refine ⟨fun row hRow => ⟨?_, fun new hEq => ?_⟩, fun row hRow => ?_⟩
    · have hSide := hOldSides.1 row hRow
      rw [oldLine_old] at hSide
      exact (hOldIff row hRow).mp hSide
    · have hSide := hNewSides.1 row hRow
      rw [oldLine_new, hEq, Option.map_some, Option.getD_some] at hSide
      exact (hNewIff new (hTaken hEq)).mp hSide
    · exact (hNewIff row (List.mem_filter.mp hRow).1).mp (hNewSides.2 row hRow)
  · rintro ⟨hOldClean, hRestClean⟩
    constructor
    · rw [pairLines, List.forall_mem_append, List.forall_mem_map, List.forall_mem_map]
      refine ⟨fun row hRow => ?_, fun row _ => .inl rfl⟩
      rw [oldLine_old]
      exact (hOldIff row hRow).mpr (hOldClean row hRow).1
    · rw [pairLines, List.forall_mem_append, List.forall_mem_map, List.forall_mem_map]
      refine ⟨fun row hRow => ?_, fun row hRow => ?_⟩
      · rw [oldLine_new]
        cases hEq : takenRow tools (acceptedRows mappedNew validatedNew) row with
        | none => exact .inl rfl
        | some newRow => exact (hNewIff newRow (hTaken hEq)).mpr ((hOldClean row hRow).2 newRow hEq)
      · exact (hNewIff row (List.mem_filter.mp hRow).1).mpr (hRestClean row hRow)

theorem readable_of_asCleaned (hRow : Accepted row) (hClean : AsCleaned row) : Readable row := by
  obtain ⟨price, -, hCleaned, -⟩ := exists_price hRow
  refine .inr ?_
  rw [(ofString_eq_cleaned_iff hCleaned).mpr hClean.price]
  rfl

/-- Matching reads what validation has read exactly when every staged row has clean texts and
fits its columns. -/
theorem matching_agrees_with_validation (tools : TextTools)
    (hOld : validateRows mappedOld = .ok validatedOld)
    (hNew : validateRows mappedNew = .ok validatedNew) :
    (∃ lines rows, runMatching tools (acceptedRows mappedOld validatedOld)
      (acceptedRows mappedNew validatedNew) =
        .ok (lines, rows) ∧
      LinesAgree (validPairs mappedOld validatedOld) (validPairs mappedNew validatedNew) lines) ↔
    ∀ row ∈ acceptedRows mappedOld validatedOld ++ acceptedRows mappedNew validatedNew,
      AsCleaned row ∧ (ListSide.ofRow row).storable = true := by
  have hNewStaged := staged_acceptedRows hNew
  have hIff := @linesAgree_iff tools _ _ _ _ hOld hNew
  constructor
  · rintro ⟨lines, rows, hRun, hAgree⟩
    obtain ⟨hInsertable, hResult⟩ := (runMatching_eq_ok hNewStaged).mp hRun
    rw [(Prod.mk.inj hResult).1] at hAgree
    intro row hRow
    exact ⟨hIff.mp hAgree row hRow, (hInsertable row hRow).2⟩
  · intro h
    have hAccepted : ∀ row ∈ acceptedRows mappedOld validatedOld ++ acceptedRows mappedNew validatedNew, Accepted row :=
      List.forall_mem_append.mpr ⟨(staged_acceptedRows hOld).accepted, hNewStaged.accepted⟩
    refine ⟨_, _, (runMatching_eq_ok hNewStaged).mpr ⟨fun row hRow => ?_, rfl⟩,
      hIff.mpr fun row hRow => (h row hRow).1⟩
    exact ⟨readable_of_asCleaned (hAccepted row hRow) (h row hRow).1, (h row hRow).2⟩

def plainValidated (sku price : String) : ValidatedRow where
  rowNumber := 1
  supplierSku := some sku
  description := some "Cake flour"
  price := Decimal.ofString price
  packSize := some "10kg"
  issues := []

theorem validated_flour :
    validateRows [plainRow "FL-10" "120.50"] = .ok [plainValidated "FL-10" "120.50"] := by
  decide +kernel

theorem flour_agrees : ∃ lines rows,
    runMatching asciiTools (acceptedRows [plainRow "FL-10" "120.50"] [plainValidated "FL-10" "120.50"])
      (acceptedRows [plainRow "FL-10" "120.50"] [plainValidated "FL-10" "120.50"]) =
        .ok (lines, rows) ∧
    LinesAgree (validPairs [plainRow "FL-10" "120.50"] [plainValidated "FL-10" "120.50"])
      (validPairs [plainRow "FL-10" "120.50"] [plainValidated "FL-10" "120.50"]) lines :=
  (matching_agrees_with_validation asciiTools validated_flour validated_flour).mpr (by decide +kernel)

theorem prefixed_price_not_read : ¬ ∀ (tools : TextTools) (mappedOld mappedNew : List PriceListRow)
    (validatedOld validatedNew : List ValidatedRow), validateRows mappedOld = .ok validatedOld →
      validateRows mappedNew = .ok validatedNew → ∃ lines rows,
        runMatching tools (acceptedRows mappedOld validatedOld)
        (acceptedRows mappedNew validatedNew) = .ok (lines, rows) ∧
          LinesAgree (validPairs mappedOld validatedOld) (validPairs mappedNew validatedNew) lines := by
  intro h
  have hPrefixed : validateRows [plainRow "FL-10" "R 1,250.00"] =
      .ok [plainValidated "FL-10" "1250.00"] := by
    decide +kernel
  obtain ⟨lines, rows, hRun, -⟩ := h asciiTools _ _ _ _ hPrefixed validated_flour
  have hReadable := ((runMatching_eq_ok (staged_acceptedRows validated_flour)).mp hRun).1
    (plainRow "FL-10" "R 1,250.00")
    (by decide +kernel)
  exact absurd hReadable (by decide +kernel)

end ProcureFoundation.PriceReview
