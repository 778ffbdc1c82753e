import ProcureFoundation.PriceReview.LineRuns
import ProcureFoundation.PriceReview.StagedPrices

/-!
# What the rows of a review hold

The amounts of every row fit their columns, and its prices are not negative: validation lets no
negative price pass and a pack never makes one of a price.
-/

namespace ProcureFoundation.PriceReview

open Ingestion Matching Outcome

structure NonnegPrices (side : ListSide Money) : Prop where
  price : ∀ amount, side.price = some amount → 0 ≤ amount.units
  normalizedPrice : ∀ amount, side.normalizedPrice = some amount → 0 ≤ amount.units

structure Stored (row : LineRow) : Prop where
  fits : row.fits = true
  old : NonnegPrices row.old
  new : NonnegPrices row.new

def NonnegAmount (amount : Decimal) : Prop := ∀ q, amount.toRat = some q → 0 ≤ q

variable {row : PriceListRow} {amount : Decimal} {q : ℚ}

theorem nonneg_of_not_negative (h : amount.isNegative = .ok false) : NonnegAmount amount := by
  intro q hValue
  cases amount with
  | finite negative coefficient exponent =>
    rw [Decimal.toRat, Option.some.injEq] at hValue
    subst hValue
    have hSign := Except.ok.inj h
    cases negative with
    | false =>
      rw [if_neg Bool.false_ne_true, one_mul]
      positivity
    | true =>
      rw [Bool.true_and, bne_eq_false_iff_eq] at hSign
      rw [hSign, Nat.cast_zero, mul_zero, zero_mul]
  | infinity negative => exact nomatch hValue
  | nan signaling negative payload => exact nomatch hValue

theorem nonneg_decimalOfContext (h : 0 ≤ q) : NonnegAmount (decimalOfContext q) := by
  intro value hValue
  rw [decimalOfContext, Decimal.toRat, decide_eq_false (not_lt.mpr h), if_neg Bool.false_ne_true,
    one_mul, Option.some.injEq] at hValue
  subst hValue
  positivity

theorem nonneg_pricePerBaseUnit {baseQuantity : ℚ} (hAmount : NonnegAmount amount)
    (hBase : 0 ≤ baseQuantity) : NonnegAmount (pricePerBaseUnit amount baseQuantity) := by
  unfold pricePerBaseUnit
  split
  · rename_i price hPrice
    exact nonneg_decimalOfContext (div_nonneg (hAmount price hPrice) hBase)
  · exact hAmount

theorem units_assign_nonneg {s : ℕ} (h : 0 ≤ q) : 0 ≤ (FixedPoint.assign s q).units := by
  have hScaled : 0 ≤ q * 10 ^ s := mul_nonneg h (by positivity)
  change 0 ≤ roundHalfAway (q * 10 ^ s)
  rw [roundHalfAway, if_pos hScaled]
  exact Int.floor_nonneg.mpr (by linarith)

theorem units_moneyColumn_nonneg {money : Money} (hAmount : NonnegAmount amount)
    (h : moneyColumn amount = some money) : 0 ≤ money.units := by
  obtain ⟨value, hValue, rfl⟩ := Option.map_eq_some_iff.mp h
  exact units_assign_nonneg (hAmount value hValue)

theorem nonneg_price_ofRow (hRow : Accepted row) (h : (ListSide.ofRow row).price = some amount) :
    NonnegAmount amount := by
  obtain ⟨price, hParsed, hCleaned, hNotEmpty⟩ := exists_price hRow
  have hRead : Decimal.ofString (row.price.getD "") = some amount := (if_neg hNotEmpty).symm.trans h
  have hSame := (ofString_eq_cleaned_iff hCleaned).mpr (clean_of_ofString hRead)
  obtain ⟨checked, hChecked, hSign⟩ := hRow.price
  rw [hRead, Option.some.injEq] at hSame
  rw [hParsed, Option.some.injEq] at hChecked
  rw [hSame, hChecked]
  exact nonneg_of_not_negative hSign

theorem nonneg_normalizedPrice_ofRow (hRow : Accepted row)
    (h : (ListSide.ofRow row).normalizedPrice = some amount) : NonnegAmount amount := by
  obtain ⟨⟨normalized, unit⟩, hNormalize, rfl⟩ := Option.map_eq_some_iff.mp h
  obtain ⟨price, hPrice, hNormalize⟩ := Option.bind_eq_some_iff.mp hNormalize
  obtain ⟨pack, hPack, hNormalize⟩ := Option.bind_eq_some_iff.mp hNormalize
  rw [Option.ite_none_left_eq_some, Option.some.injEq, Prod.mk.injEq] at hNormalize
  rw [← hNormalize.2.1]
  refine nonneg_pricePerBaseUnit (nonneg_price_ofRow hRow hPrice) ?_
  unfold packOf at hPack
  split at hPack
  · exact nomatch hPack
  · exact baseQuantity_nonneg hPack

theorem nonnegPrices_stored (hRow : Accepted row) : NonnegPrices (ListSide.ofRow row).stored where
  price money h := by
    obtain ⟨amount, hAmount, hMoney⟩ := Option.bind_eq_some_iff.mp h
    exact units_moneyColumn_nonneg (nonneg_price_ofRow hRow hAmount) hMoney
  normalizedPrice money h := by
    obtain ⟨amount, hAmount, hMoney⟩ := Option.bind_eq_some_iff.mp h
    exact units_moneyColumn_nonneg (nonneg_normalizedPrice_ofRow hRow hAmount) hMoney

theorem nonnegPrices_empty : NonnegPrices (ListSide.empty : ListSide Decimal).stored :=
  ⟨fun _ h => (nomatch h), fun _ h => (nomatch h)⟩

theorem fits_newLine (old new : ListSide Decimal) (matchStatus : MatchStatus) (method : MatchMethod)
    (confidence : Option ℚ) (packChanged : Bool) (movementType : Option MovementType) :
    (newLine old new matchStatus method confidence packChanged movementType).inserted.fits =
      (old.stored.fits && new.stored.fits) := by
  change (old.stored.fits && new.stored.fits && true && true && true && true && true) = _
  simp only [Bool.and_true]

theorem stored_of_runMatching {tools : TextTools} {oldRows newRows : List PriceListRow}
    (hOld : Staged oldRows) (hNew : Staged newRows) {lines : List (PriceReviewLine Decimal)}
    {added : List LineRow} (h : runMatching tools oldRows newRows = .ok (lines, added)) :
    ∀ row ∈ added, Stored row := by
  obtain ⟨hInsertable, hResult⟩ := (runMatching_eq_ok hNew).mp h
  have hFits : ∀ row ∈ oldRows ++ newRows, (ListSide.ofRow row).stored.fits = true := by
    intro row hRow
    have hStorable := (hInsertable row hRow).2
    unfold ListSide.storable at hStorable
    exact (Bool.and_eq_true_iff.mp hStorable).2
  have hEmpty : (ListSide.empty : ListSide Decimal).stored.fits = true := rfl
  rw [(Prod.mk.inj hResult).2, pairLines, List.map_append, List.forall_mem_append,
    List.forall_mem_map, List.forall_mem_map, List.forall_mem_map, List.forall_mem_map]
  constructor
  · intro oldRow hOldRow
    have hOldFits := hFits oldRow (List.mem_append_left _ hOldRow)
    have hOldPrices := nonnegPrices_stored (hOld.accepted oldRow hOldRow)
    unfold oldLine
    split
    · refine ⟨?_, hOldPrices, nonnegPrices_empty⟩
      rw [discontinuedLine, fits_newLine, hOldFits, hEmpty]
      rfl
    · rename_i newRow hTaken
      obtain ⟨hNewRow, -⟩ := (takenRow_eq_some hNew).mp hTaken
      refine ⟨?_, hOldPrices, nonnegPrices_stored (hNew.accepted newRow hNewRow)⟩
      rw [matchedLine, fits_newLine, hOldFits, hFits newRow (List.mem_append_right _ hNewRow)]
      rfl
  · intro newRow hRest
    have hNewRow := (List.mem_filter.mp hRest).1
    refine ⟨?_, nonnegPrices_empty, nonnegPrices_stored (hNew.accepted newRow hNewRow)⟩
    rw [newProductLine, fits_newLine, hFits newRow (List.mem_append_right _ hNewRow), hEmpty]
    rfl

theorem stored_of_save {line : PriceReviewLine ℚ} {after : LineRow} (h : line.save = .ok after)
    (hOld : NonnegPrices (line.old.map (FixedPoint.assign 4)))
    (hNew : NonnegPrices (line.new.map (FixedPoint.assign 4))) : Stored after := by
  obtain rfl := PriceReviewLine.eq_of_save h
  dsimp only [PriceReviewLine.save] at h
  split at h
  · rename_i hFits
    exact ⟨hFits, hOld, hNew⟩
  · exact nomatch h

variable {rows : List LineRow} {line changed : LineRow}

theorem Stored.old_load (h : Stored line) :
    NonnegPrices (line.load.old.map (FixedPoint.assign 4)) := by
  change NonnegPrices ((line.old.map FixedPoint.value).map (FixedPoint.assign 4))
  rw [ListSide.map_assign_load]
  exact h.old

theorem Stored.new_load (h : Stored line) :
    NonnegPrices (line.load.new.map (FixedPoint.assign 4)) := by
  change NonnegPrices ((line.new.map FixedPoint.value).map (FixedPoint.assign 4))
  rw [ListSide.map_assign_load]
  exact h.new

/-- A decision keeps the old side of a line and takes a new side, if any, from the candidate. -/
theorem decideMatch_sides {action : MatchAction} {candidate : Option (PriceReviewLine ℚ)}
    {before decided : PriceReviewLine ℚ} (h : decideMatch before action candidate = .ok decided) :
    decided.old = before.old ∧
      (decided.new = before.new ∨ ∃ other, candidate = some other ∧
        decided.new = { other.new with normalizedBaseUnit := before.new.normalizedBaseUnit }) := by
  cases action with
  | confirm | markNew | markDiscontinued | ignore =>
    obtain rfl := Except.ok.inj h
    exact ⟨rfl, .inl rfl⟩
  | chooseDifferent =>
    cases candidate with
    | none => exact nomatch h
    | some other =>
      obtain rfl := Except.ok.inj h
      exact ⟨rfl, .inr ⟨other, rfl, rfl⟩⟩

theorem stored_resolveMatch {userId : ℕ} {action : MatchAction} {candidate : Option LineRow}
    (hLine : Stored line) (hCandidate : ∀ other, candidate = some other → Stored other)
    (h : resolveMatch userId line action candidate = .ok changed) : Stored changed := by
  obtain ⟨decided, hDecided, h⟩ := exists_of_bind_eq_ok h
  obtain ⟨calculated, hCalculated, h⟩ := exists_of_bind_eq_ok h
  obtain ⟨figures, rfl⟩ := exists_figures_of_calculate hCalculated
  obtain ⟨hOld, hNew⟩ := decideMatch_sides hDecided
  refine stored_of_save h ?_ ?_
  · change NonnegPrices (decided.old.map _)
    rw [hOld]
    exact hLine.old_load
  · change NonnegPrices (decided.new.map _)
    obtain hNew | ⟨other, hOther, hNew⟩ := hNew
    · rw [hNew]
      exact hLine.new_load
    · obtain ⟨stored, hStored, rfl⟩ := Option.map_eq_some_iff.mp hOther
      rw [hNew]
      exact ⟨(hCandidate stored hStored).new_load.price,
        (hCandidate stored hStored).new_load.normalizedPrice⟩

theorem mem_of_chosenCandidate {decision : MatchDecision} {candidate : Option LineRow}
    (h : chosenCandidate rows decision = .ok candidate) : ∀ other, candidate = some other →
      other ∈ rows := by
  unfold chosenCandidate at h
  split at h
  · rename_i chosen _ _
    unfold findLine at h
    split at h
    · rename_i found hFound
      rintro other rfl
      obtain rfl := Option.some.inj (Except.ok.inj h)
      exact List.mem_of_getElem? hFound
    · exact nomatch h
  · obtain rfl := Except.ok.inj h
    exact fun other hOther => nomatch hOther

theorem stored_operate {operation : LineOperation} (hRows : ∀ other ∈ rows, Stored other)
    (hLine : Stored line) (h : operate rows line operation = .ok changed) : Stored changed := by
  cases operation with
  | resolveMatch userId decision =>
    obtain ⟨candidate, hCandidate, h⟩ := exists_of_bind_eq_ok h
    exact stored_resolveMatch hLine
      (fun other hOther => hRows other (mem_of_chosenCandidate hCandidate other hOther)) h
  | setManualQuantity payload =>
    obtain ⟨calculated, hCalculated, h⟩ := exists_of_bind_eq_ok h
    obtain ⟨figures, rfl⟩ := exists_figures_of_calculate hCalculated
    exact stored_of_save h hLine.old_load hLine.new_load
  | setNegotiationTarget targetPrice => exact stored_of_save h hLine.old_load hLine.new_load
  | recordNegotiationOutcome finalNegotiatedPrice =>
    exact stored_of_save h hLine.old_load hLine.new_load

/-- Every row that a review can reach fits its columns and has no negative price. -/
theorem Run.stored {tools : TextTools} {allowed : List LineRow → LineRow → LineOperation → Prop}
    {history : List (ℕ × LineOperation)} (hRun : Run tools allowed history rows) :
    ∀ row ∈ rows, Stored row :=
  hRun.forall_rows_of_inserted (fun _ _ _ _ hOld hNew hMatch => stored_of_runMatching hOld hNew hMatch)
    fun _ _ _ _ hRows hRow _ hStep => stored_operate hRows hRow hStep

end ProcureFoundation.PriceReview
