import ProcureFoundation.Ingestion.RowIssues

/-!
# Inventory-valuation validation

A row of a valuation report has an item, a quantity and a unit cost. A written total is checked
against their product; a disagreement beyond the tolerance is a warning, and so is a total that is
no number.
-/

namespace ProcureFoundation.Ingestion

open Outcome RowBatches Text

structure InventoryValuationRow where
  supplierSku : Option String
  description : Option String
  quantityOnHand : Option String
  unitCost : Option String
  totalValuation : Option String
deriving DecidableEq

inductive ValuationField where
  | supplierSku
  | quantityOnHand
  | unitCost
  | totalValuation
deriving DecidableEq

inductive ValuationMessage where
  | missing (label : String)
  | malformed (label raw : String)
  | negativeQuantity (quantity : Decimal)
  | mismatch (totalValuation : Decimal) (expected : Number)
  | malformedTotal (raw : String)
deriving DecidableEq

structure ParsedValuation where
  supplierSku : Option String
  description : Option String
  quantityOnHand : Option Decimal
  unitCost : Option Decimal
  totalValuation : Option Decimal
deriving DecidableEq

abbrev ValuationIssue := RowIssue ValuationField ValuationMessage

abbrev ValidatedValuation := CheckedRow ValuationField ValuationMessage ParsedValuation

def valuationTolerance : ℚ := 1 / 100

def stripCurrency (raw : String) : String := strip (remove ',' (remove '$' (remove 'R' raw)))

def valuationQuantity (row : InventoryValuationRow) : Option Decimal :=
  parseNumber stripCurrency row.quantityOnHand

def valuationUnitCost (row : InventoryValuationRow) : Option Decimal :=
  parseNumber stripCurrency row.unitCost

def valuationTotal (row : InventoryValuationRow) : Option Decimal :=
  parseNumber stripCurrency row.totalValuation

def parsedValuation (row : InventoryValuationRow) : ParsedValuation where
  supplierSku := cleanText row.supplierSku
  description := cleanText row.description
  quantityOnHand := valuationQuantity row
  unitCost := valuationUnitCost row
  totalValuation := valuationTotal row

/-- Whether an absolute value is beyond a bound; comparing a NaN raises. -/
def absExceeds (bound : ℚ) : Number → Except String Bool
  | .finite x => .ok (decide (bound < |x|))
  | .infinity _ => .ok true
  | .nan => .error "InvalidOperation"

def skuIssues (rowNumber : ℕ) (raw : Option String) : List ValuationIssue :=
  if isBlank raw then [⟨rowNumber, .supplierSku, .error, .missing "supplier_sku"⟩] else []

def compareTotal (rowNumber : ℕ) (totalValuation quantity unitCost : Decimal) :
    Except String (List ValuationIssue) := do
  let left ← quantity.operand
  let right ← unitCost.operand
  let expected ← left.mul right
  let total ← totalValuation.operand
  let difference ← total.sub expected
  if ← absExceeds valuationTolerance difference then
    return [⟨rowNumber, .totalValuation, .warning, .mismatch totalValuation expected⟩]
  else return []

def totalIssues (rowNumber : ℕ) (row : InventoryValuationRow) :
    Except String (List ValuationIssue) :=
  if isBlank row.totalValuation then .ok []
  else answering [⟨rowNumber, .totalValuation, .warning, .malformedTotal (row.totalValuation.getD "")⟩] do
    let totalValuation ← readDecimal (stripCurrency (row.totalValuation.getD ""))
    match valuationQuantity row, valuationUnitCost row with
    | some quantity, some unitCost => compareTotal rowNumber totalValuation quantity unitCost
    | _, _ => return []

def valuationChecks (rowNumber : ℕ) (row : InventoryValuationRow) :
    List (Check ValuationField ValuationMessage) :=
  [.ok (skuIssues rowNumber row.supplierSku),
    .ok (requiredNumberIssues stripCurrency rowNumber .quantityOnHand (.missing "quantity on hand")
      (.malformed "quantity on hand") row.quantityOnHand),
    signIssues rowNumber .quantityOnHand .warning .negativeQuantity (valuationQuantity row),
    .ok (requiredNumberIssues stripCurrency rowNumber .unitCost (.missing "unit cost")
      (.malformed "unit cost")
      row.unitCost),
    totalIssues rowNumber row]

def validateInventoryValuationRows (rows : List InventoryValuationRow) :
    Except String (List ValidatedValuation) :=
  (rows.zipIdx 1).mapM fun pair => checkRow valuationChecks parsedValuation pair.2 pair.1

def valuationReading : Reading InventoryValuationRow ValidatedValuation Empty :=
  rowReading fun row => [valuationQuantity row, valuationUnitCost row]

/-- A result beyond the largest exponent. -/
def Overflows (q : ℚ) : Prop := 10 ^ (1000000 : ℤ) ≤ |contextRound q|

/-- The product, or its difference from a finite total, is too large. -/
def TotalOverflows (totalValuation quantity unitCost : Decimal) : Prop :=
  ∃ left right, quantity.toRat = some left ∧ unitCost.toRat = some right ∧
    (Overflows (left * right) ∨
    ∃ total, totalValuation.toRat = some total ∧ Overflows (total - contextRound (left * right)))

structure ValuationSettled (row : InventoryValuationRow) : Prop where
  comparable : ∀ quantity, valuationQuantity row = some quantity → quantity.isNan = false
  inRange : ∀ totalValuation quantity unitCost, valuationTotal row = some totalValuation →
    valuationQuantity row = some quantity → valuationUnitCost row = some unitCost →
      ¬TotalOverflows totalValuation quantity unitCost
  finite : (IsFinite (valuationQuantity row) ∧ IsFinite (valuationUnitCost row)) ∨
    isBlank row.supplierSku = true ∨ valuationQuantity row = none ∨ valuationUnitCost row = none

section Escapes

variable {α β : Type} {x : Except String α} {f : α → Except String β} {answer : α}

/-- A block whose error its answer to invalid operations does not cover. -/
def Escapes (x : Except String α) : Prop := ∃ e, x = .error e ∧ e ≠ "InvalidOperation"

theorem escapes_error_iff {e : String} : Escapes (.error e : Except String α) ↔
    e ≠ "InvalidOperation" := by
  constructor
  · rintro ⟨_, h, hOther⟩
    rwa [Except.error.inj h]
  · intro h
    exact ⟨e, rfl, h⟩

theorem not_escapes_ok (value : α) : ¬Escapes (.ok value : Except String α) := by
  rintro ⟨e, h, -⟩
  exact nomatch h

theorem not_escapes_invalid : ¬Escapes (.error "InvalidOperation" : Except String α) := by
  rw [escapes_error_iff]
  exact not_not_intro rfl

theorem escapes_bind_iff : Escapes (x >>= f) ↔ Escapes x ∨ ∃ value, x = .ok value ∧
    Escapes (f value) := by
  cases x with
  | error e =>
    refine Iff.trans (b := Escapes (.error e : Except String α)) ?_ ?_
    · exact escapes_error_iff.trans escapes_error_iff.symm
    · exact (or_iff_left fun ⟨value, h, _⟩ => nomatch h).symm
  | ok value =>
    constructor
    · intro h
      exact .inr ⟨value, rfl, h⟩
    · rintro (h | ⟨_, h, hEscapes⟩)
      · exact absurd h (not_escapes_ok value)
      · obtain rfl := Except.ok.inj h
        exact hEscapes

theorem exists_answering_iff : (∃ value, answering answer x = .ok value) ↔ ¬Escapes x := by
  cases x with
  | ok value => exact iff_of_true ⟨value, rfl⟩ (not_escapes_ok value)
  | error e =>
    rw [escapes_error_iff, not_not]
    constructor
    · rintro ⟨value, h⟩
      by_contra hOther
      rw [answering, if_neg hOther] at h
      exact nomatch h
    · rintro rfl
      exact ⟨answer, rfl⟩

theorem log_le_iff {q : ℚ} : Int.log 10 |contextRound q| ≤ 999999 ↔ ¬Overflows q := by
  rw [Overflows]
  obtain hZero | hPos := (abs_nonneg (contextRound q)).eq_or_lt
  · rw [← hZero, Int.log_of_right_le_zero 10 le_rfl]
    exact iff_of_true (by norm_num) (not_le.mpr (zpow_pos (by norm_num) _))
  · have hLog := Int.zpow_le_iff_le_log (b := 10) (by norm_num) (x := 1000000) hPos
    rw [Nat.cast_ofNat] at hLog
    rw [hLog]
    omega

theorem escapes_ofContext_iff {q : ℚ} : Escapes (Number.ofContext q) ↔ Overflows q := by
  unfold Number.ofContext
  split
  · rename_i hInRange
    exact iff_of_false (not_escapes_ok _) (log_le_iff.mp hInRange)
  · rename_i hOut
    rw [escapes_error_iff]
    exact iff_of_true (by decide) (not_not.mp (mt log_le_iff.mpr hOut))

theorem not_escapes_scaled (q : ℚ) (product : Number) :
    ¬Escapes (if q = 0 then .error "InvalidOperation" else .ok product : Except String Number) := by
  split
  · exact not_escapes_invalid
  · exact not_escapes_ok _

theorem escapes_mul_iff {x y : Number} :
    Escapes (x.mul y) ↔ ∃ p q, x = .finite p ∧ y = .finite q ∧ Overflows (p * q) := by
  cases x with
  | nan => exact iff_of_false (not_escapes_ok _) fun ⟨p, q, h, _⟩ => nomatch h
  | finite p =>
    cases y with
    | nan => exact iff_of_false (not_escapes_ok _) fun ⟨p, q, _, h, _⟩ => nomatch h
    | finite q =>
      constructor
      · intro h
        exact ⟨p, q, rfl, rfl, escapes_ofContext_iff.mp h⟩
      · rintro ⟨_, _, ⟨⟩, ⟨⟩, h⟩
        exact escapes_ofContext_iff.mpr h
    | infinity negative =>
      exact iff_of_false (not_escapes_scaled p _) fun ⟨p, q, _, h, _⟩ => nomatch h
  | infinity negative =>
    refine iff_of_false ?_ fun ⟨p, q, h, _⟩ => nomatch h
    cases y with
    | nan => exact not_escapes_ok _
    | infinity other => exact not_escapes_ok _
    | finite q => exact not_escapes_scaled q _

theorem mul_eq_finite_iff {x y : Number} {r : ℚ} : x.mul y = .ok (.finite r) ↔
    ∃ p q, x = .finite p ∧ y = .finite q ∧ ¬Overflows (p * q) ∧ r = contextRound (p * q) := by
  constructor
  · intro h
    cases x with
    | nan => exact nomatch Except.ok.inj h
    | infinity negative =>
      cases y with
      | nan => exact nomatch Except.ok.inj h
      | infinity other => exact nomatch Except.ok.inj h
      | finite q =>
        have hScaled : (if q = 0 then .error "InvalidOperation"
          else .ok (.infinity (negative != decide (q < 0))) : Except String Number) =
            .ok (.finite r) := h
        split at hScaled
        · exact nomatch hScaled
        · exact nomatch Except.ok.inj hScaled
    | finite p =>
      cases y with
      | nan => exact nomatch Except.ok.inj h
      | infinity negative =>
        have hScaled : (if p = 0 then .error "InvalidOperation"
          else .ok (.infinity (negative != decide (p < 0))) : Except String Number) =
            .ok (.finite r) := h
        split at hScaled
        · exact nomatch hScaled
        · exact nomatch Except.ok.inj hScaled
      | finite q =>
        have hProduct : Number.ofContext (p * q) = .ok (.finite r) := h
        unfold Number.ofContext at hProduct
        split at hProduct
        · rename_i hInRange
          exact ⟨p, q, rfl, rfl, log_le_iff.mp hInRange,
            (Number.finite.inj (Except.ok.inj hProduct)).symm⟩
        · exact nomatch hProduct
  · rintro ⟨p, q, rfl, rfl, hInRange, rfl⟩
    exact if_pos (log_le_iff.mpr hInRange)

theorem escapes_sub_iff {x y : Number} :
    Escapes (x.sub y) ↔ ∃ p q, x = .finite p ∧ y = .finite q ∧ Overflows (p - q) := by
  cases x with
  | nan => exact iff_of_false (not_escapes_ok _) fun ⟨p, q, h, _⟩ => nomatch h
  | finite p =>
    cases y with
    | nan => exact iff_of_false (not_escapes_ok _) fun ⟨p, q, _, h, _⟩ => nomatch h
    | infinity negative => exact iff_of_false (not_escapes_ok _) fun ⟨p, q, _, h, _⟩ => nomatch h
    | finite q =>
      have hSum : (Number.finite p).sub (.finite q) = Number.ofContext (p - q) := by
        rw [sub_eq_add_neg]
        rfl
      rw [hSum, escapes_ofContext_iff]
      constructor
      · intro h
        exact ⟨p, q, rfl, rfl, h⟩
      · rintro ⟨_, _, ⟨⟩, ⟨⟩, h⟩
        exact h
  | infinity negative =>
    refine iff_of_false ?_ fun ⟨p, q, h, _⟩ => nomatch h
    cases y with
    | nan => exact not_escapes_ok _
    | finite q => exact not_escapes_ok _
    | infinity other =>
      have hSum : (Number.infinity negative).sub (.infinity other) =
          if negative = !other then .ok (.infinity negative) else .error "InvalidOperation" := rfl
      rw [hSum]
      split
      · exact not_escapes_ok _
      · exact not_escapes_invalid

theorem not_escapes_operand (number : Decimal) : ¬Escapes number.operand := by
  cases number with
  | finite negative coefficient exponent => exact not_escapes_ok _
  | infinity negative => exact not_escapes_ok _
  | nan signaling negative payload =>
    cases signaling with
    | true => exact not_escapes_invalid
    | false => exact not_escapes_ok _

theorem operand_eq_finite_iff {number : Decimal} {q : ℚ} :
    number.operand = .ok (.finite q) ↔ number.toRat = some q := by
  cases number with
  | finite negative coefficient exponent =>
    rw [Decimal.operand, Decimal.toRat, Except.ok.injEq, Number.finite.injEq, Option.some.injEq]
  | infinity negative => exact iff_of_false (fun h => nomatch Except.ok.inj h) fun h => nomatch h
  | nan signaling negative payload =>
    refine iff_of_false ?_ fun h => nomatch h
    cases signaling with
    | true => exact fun h => nomatch h
    | false => exact fun h => nomatch Except.ok.inj h

theorem not_escapes_readDecimal (text : String) : ¬Escapes (readDecimal text) := by
  unfold readDecimal
  split
  · exact not_escapes_ok _
  · exact not_escapes_invalid

theorem not_escapes_absExceeds (bound : ℚ) (number : Number) :
    ¬Escapes (absExceeds bound number) := by
  cases number with
  | finite x => exact not_escapes_ok _
  | infinity negative => exact not_escapes_ok _
  | nan => exact not_escapes_invalid

theorem escapes_compareTotal_iff {number : ℕ} {totalValuation quantity unitCost : Decimal} :
    Escapes (compareTotal number totalValuation quantity unitCost) ↔
      TotalOverflows totalValuation quantity unitCost := by
  have hCompared : ∀ expected difference, ¬Escapes (do
      if ← absExceeds valuationTolerance difference then
        return [⟨number, .totalValuation, .warning, .mismatch totalValuation expected⟩]
      else return [] : Except String (List ValuationIssue)) := by
    intro expected difference
    rw [escapes_bind_iff, not_or]
    refine ⟨not_escapes_absExceeds _ _, ?_⟩
    rintro ⟨exceeds, -, hEscapes⟩
    cases exceeds with
    | true => exact not_escapes_ok _ hEscapes
    | false => exact not_escapes_ok _ hEscapes
  rw [compareTotal]
  simp only [escapes_bind_iff, not_escapes_operand, false_or, hCompared, and_false, exists_false,
    or_false, escapes_mul_iff, escapes_sub_iff]
  constructor
  · rintro ⟨_, hLeft, _, hRight, ⟨left, right, rfl, rfl, hOverflows⟩ |
      ⟨_, hExpected, _, hTotal, total, expected, rfl, rfl, hOverflows⟩⟩
    · exact ⟨left, right, operand_eq_finite_iff.mp hLeft, operand_eq_finite_iff.mp hRight,
        .inl hOverflows⟩
    · obtain ⟨left, right, rfl, rfl, -, rfl⟩ := mul_eq_finite_iff.mp hExpected
      exact ⟨left, right, operand_eq_finite_iff.mp hLeft, operand_eq_finite_iff.mp hRight,
        .inr ⟨total, operand_eq_finite_iff.mp hTotal, hOverflows⟩⟩
  · rintro ⟨left, right, hLeft, hRight, hOverflows⟩
    refine ⟨_, operand_eq_finite_iff.mpr hLeft, _, operand_eq_finite_iff.mpr hRight, ?_⟩
    by_cases hProduct : Overflows (left * right)
    · exact .inl ⟨left, right, rfl, rfl, hProduct⟩
    · obtain ⟨total, hTotal, hOverflows⟩ := hOverflows.resolve_left hProduct
      exact .inr ⟨_, mul_eq_finite_iff.mpr ⟨left, right, rfl, rfl, hProduct, rfl⟩, _,
        operand_eq_finite_iff.mpr hTotal, total, _, rfl, rfl, hOverflows⟩

end Escapes

variable {number other : ℕ} {row : InventoryValuationRow} {rows : List InventoryValuationRow}

theorem exists_totalIssues_iff : (∃ issues, totalIssues number row = .ok issues) ↔
    ∀ totalValuation quantity unitCost, valuationTotal row = some totalValuation →
      valuationQuantity row = some quantity → valuationUnitCost row = some unitCost →
        ¬TotalOverflows totalValuation quantity unitCost := by
  unfold totalIssues
  split
  · rename_i hBlank
    refine iff_of_true ⟨[], rfl⟩ fun _ _ _ hTotal => ?_
    rw [valuationTotal, parseNumber, if_pos hBlank] at hTotal
    cases hTotal
  · rename_i hBlank
    rw [exists_answering_iff, escapes_bind_iff, or_iff_right (not_escapes_readDecimal _),
      valuationTotal, parseNumber, if_neg hBlank, readDecimal]
    cases hTotal : Decimal.ofString (stripCurrency (row.totalValuation.getD "")) with
    | none =>
      refine iff_of_true ?_ fun _ _ _ hTotal => absurd hTotal.symm (Option.some_ne_none _)
      rintro ⟨_, ⟨⟩, _⟩
    | some total =>
      cases hQuantity : valuationQuantity row with
      | none =>
        refine iff_of_true ?_ fun _ _ _ _ hQuantity => absurd hQuantity.symm (Option.some_ne_none _)
        rintro ⟨_, _, hEscapes⟩
        exact not_escapes_ok _ hEscapes
      | some quantity =>
        cases hUnitCost : valuationUnitCost row with
        | none =>
          refine iff_of_true ?_ fun _ _ _ _ _ hUnitCost =>
            absurd hUnitCost.symm (Option.some_ne_none _)
          rintro ⟨_, _, hEscapes⟩
          exact not_escapes_ok _ hEscapes
        | some unitCost =>
          constructor
          · rintro h _ _ _ ⟨⟩ ⟨⟩ ⟨⟩ hOverflows
            exact h ⟨total, rfl, escapes_compareTotal_iff.mpr hOverflows⟩
          · rintro h ⟨_, ⟨⟩, hEscapes⟩
            exact h total quantity unitCost rfl rfl rfl (escapes_compareTotal_iff.mp hEscapes)

theorem onlyWarns_totalIssues : OnlyWarns (totalIssues number row) := by
  have hCompared : ∀ total quantity unitCost,
      OnlyWarns (compareTotal number total quantity unitCost) := by
    intro total quantity unitCost
    refine .bind fun left => .bind fun right => .bind fun expected => .bind fun total =>
      .bind fun difference => .bind fun exceeds => ?_
    cases exceeds with
    | true => exact onlyWarns_ok rfl
    | false => exact onlyWarns_ok rfl
  unfold totalIssues
  split
  · exact onlyWarns_ok rfl
  · refine .answering rfl (.bind fun total => ?_)
    split
    · exact hCompared _ _ _
    · exact onlyWarns_ok rfl

theorem sameApart_totalIssues : SameApart (totalIssues number row) (totalIssues other row) := by
  have hCompared : ∀ total quantity unitCost,
    SameApart (compareTotal number total quantity unitCost)
      (compareTotal other total quantity unitCost) := by
    intro total quantity unitCost
    refine .bind fun left => .bind fun right => .bind fun expected => .bind fun total =>
      .bind fun difference => .bind fun exceeds => ?_
    cases exceeds with
    | true => rfl
    | false => rfl
  unfold totalIssues
  split
  · rfl
  · refine .answering rfl (.bind fun total => ?_)
    split
    · exact hCompared _ _ _
    · rfl

theorem sameApart_valuationChecks (number other : ℕ) (row : InventoryValuationRow) :
    List.Forall₂ SameApart (valuationChecks number row) (valuationChecks other row) := by
  have hSku : SameApart (.ok (skuIssues number row.supplierSku))
      (.ok (skuIssues other row.supplierSku)) := by
    unfold skuIssues
    split
    · rfl
    · rfl
  exact .cons hSku (.cons sameApart_requiredNumberIssues (.cons sameApart_signIssues
    (.cons sameApart_requiredNumberIssues (.cons sameApart_totalIssues .nil))))

theorem exists_valuationChecks_iff :
    (∀ check ∈ valuationChecks number row, ∃ issues, check = .ok issues) ↔
    (∀ quantity, valuationQuantity row = some quantity → quantity.isNan = false) ∧
      ∀ totalValuation quantity unitCost, valuationTotal row = some totalValuation →
        valuationQuantity row = some quantity → valuationUnitCost row = some unitCost →
          ¬TotalOverflows totalValuation quantity unitCost := by
  have hOk : ∀ issues : List ValuationIssue, ∃ found,
      (.ok issues : Check ValuationField ValuationMessage) = .ok found :=
    fun issues => ⟨issues, rfl⟩
  simp only [valuationChecks, List.forall_mem_cons, hOk, exists_signIssues_iff,
    exists_totalIssues_iff, true_and]
  exact and_congr_right fun _ => and_iff_left fun check h => (List.not_mem_nil h).elim

theorem passes_valuationChecks_iff
    (hReturns : ∀ check ∈ valuationChecks number row, ∃ issues, check = .ok issues) :
    (valuationChecks number row).all passes = true ↔ ¬isBlank row.supplierSku = true ∧
      (valuationQuantity row).isSome ∧ (valuationUnitCost row).isSome := by
  have hSku : errorFree (skuIssues number row.supplierSku) = true ↔
      ¬isBlank row.supplierSku = true := by
    unfold skuIssues
    split
    · rename_i hBlank
      exact iff_of_false (fun h => nomatch h) (not_not_intro hBlank)
    · rename_i hWritten
      exact iff_of_true rfl hWritten
  simp only [valuationChecks, List.forall_mem_cons] at hReturns
  obtain ⟨-, -, hSign, -, hTotal, -⟩ := hReturns
  simp only [valuationChecks, List.all_cons, List.all_nil, Bool.and_eq_true, Bool.and_true,
    passes_ok, hSku,
    errorFree_requiredNumberIssues, onlyWarns_signIssues.passes_iff,
    onlyWarns_totalIssues.passes_iff, hSign, hTotal, true_and, and_true]
  rfl

theorem settles_valuation_iff :
    Settles valuationReading row (checkRow valuationChecks parsedValuation number row) ↔
    ValuationSettled row := by
  rw [valuationReading, settles_checkRow_iff]
  constructor
  · rintro ⟨hReturns, hInvalid⟩
    obtain ⟨hComparable, hInRange⟩ := exists_valuationChecks_iff.mp hReturns
    refine ⟨hComparable, hInRange, ?_⟩
    by_contra hNone
    rw [not_or, not_or, not_or] at hNone
    obtain ⟨hNotFinite, hSku, hQuantity, hUnitCost⟩ := hNone
    have hPasses := (passes_valuationChecks_iff hReturns).mpr
      ⟨hSku, Option.isSome_iff_ne_none.mpr hQuantity, Option.isSome_iff_ne_none.mpr hUnitCost⟩
    refine Bool.false_ne_true ((hInvalid ?_).symm.trans hPasses)
    by_contra hFinite
    push Not at hFinite
    exact hNotFinite ⟨hFinite _ List.mem_cons_self, hFinite _ (List.mem_cons_of_mem _ List.mem_cons_self)⟩
  · intro hSettled
    have hReturns :=
      (@exists_valuationChecks_iff number row).mpr ⟨hSettled.comparable, hSettled.inRange⟩
    refine ⟨hReturns, ?_⟩
    rintro ⟨value, hMem, hNotFinite⟩
    rw [Bool.eq_false_iff]
    intro hPasses
    obtain ⟨hSku, hQuantity, hUnitCost⟩ := (passes_valuationChecks_iff hReturns).mp hPasses
    rw [Option.isSome_iff_ne_none] at hQuantity hUnitCost
    obtain ⟨hFiniteQuantity, hFiniteCost⟩ | hBlank | hNone | hNone := hSettled.finite
    · obtain rfl | hLast := List.mem_cons.mp hMem
      · exact hNotFinite hFiniteQuantity
      · obtain rfl := List.mem_singleton.mp hLast
        exact hNotFinite hFiniteCost
    · exact hSku hBlank
    · exact hQuantity hNone
    · exact hUnitCost hNone

theorem validateInventoryValuationRows_iff :
    TotalAndLocal valuationReading validateInventoryValuationRows rows ↔
    ∀ row ∈ rows, ValuationSettled row :=
  totalAndLocal_rows_iff sameApart_valuationChecks fun _ _ => settles_valuation_iff

end ProcureFoundation.Ingestion
