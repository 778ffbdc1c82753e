import ProcureFoundation.Ingestion.RowIssues

/-!
# Inventory-snapshot validation

A stocktake row names an item, a date, a quantity and a location. Its quantity is compared with zero
where it is read, so that a NaN is reported as malformed.
-/

namespace ProcureFoundation.Ingestion

open Outcome RowBatches Text

structure InventorySnapshotRow where
  supplierSku : Option String
  description : Option String
  snapshotDate : Option String
  quantityOnHand : Option String
  unitCost : Option String
  reorderLevel : Option String
  expiryDate : Option String
  location : Option String
deriving DecidableEq

inductive SnapshotField where
  | description
  | snapshotDate
  | quantityOnHand
  | unitCost
  | reorderLevel
  | expiryDate
  | location
deriving DecidableEq

inductive SnapshotMessage where
  | missingIdentifier
  | missingDate
  | malformedDate (raw : String)
  | missingQuantity
  | malformedQuantity (raw : String)
  | negativeQuantity (raw : String)
  | malformedValue (label raw : String)
  | negativeValue (label raw : String)
  | malformedExpiry (raw : String)
  | missingLocation
deriving DecidableEq

abbrev SnapshotIssue := RowIssue SnapshotField SnapshotMessage

abbrev ValidatedSnapshot := CheckedRow SnapshotField SnapshotMessage Unit

/-- The text a quantity is read from; a currency prefix is left in it. -/
def cleanQuantity (raw : String) : String := strip (remove ',' raw)

def snapshotIdentifierIssues (rowNumber : ℕ) (row : InventorySnapshotRow) : List SnapshotIssue :=
  if row.supplierSku.getD "" = "" ∧ row.description.getD "" = "" then
    [⟨rowNumber, .description, .error, .missingIdentifier⟩]
  else []

/-- A number that is malformed, not comparable with zero or negative is reported. -/
def writtenNumberIssues (rowNumber : ℕ) (field : SnapshotField) (severity : IssueSeverity)
    (malformed negative : SnapshotMessage) (text : String) : Except String (List SnapshotIssue) :=
  answering [⟨rowNumber, field, severity, malformed⟩] do
    let value ← readDecimal text
    if ← value.isNegative then return [⟨rowNumber, field, severity, negative⟩] else return []

def quantityIssues (rowNumber : ℕ) (raw : Option String) : Except String (List SnapshotIssue) :=
  if isBlank raw then .ok [⟨rowNumber, .quantityOnHand, .error, .missingQuantity⟩]
  else writtenNumberIssues rowNumber .quantityOnHand .error (.malformedQuantity (raw.getD ""))
    (.negativeQuantity (raw.getD "")) (cleanQuantity (raw.getD ""))

def optionalValueIssues (rowNumber : ℕ) (field : SnapshotField) (label : String)
    (raw : Option String) : Except String (List SnapshotIssue) :=
  if isBlank raw then .ok []
  else writtenNumberIssues rowNumber field .warning (.malformedValue label (raw.getD ""))
    (.negativeValue label (raw.getD "")) (cleanPrice (raw.getD ""))

def expiryIssues (rowNumber : ℕ) (raw : Option String) : List SnapshotIssue :=
  if isBlank raw then []
  else if (parseDate raw).isNone then
    [⟨rowNumber, .expiryDate, .warning, .malformedExpiry (raw.getD "")⟩]
  else []

def locationIssues (rowNumber : ℕ) (location : Option String) : List SnapshotIssue :=
  if location.getD "" = "" then [⟨rowNumber, .location, .error, .missingLocation⟩] else []

def snapshotChecks (rowNumber : ℕ) (row : InventorySnapshotRow) :
    List (Check SnapshotField SnapshotMessage) :=
  [.ok (snapshotIdentifierIssues rowNumber row),
    .ok (requiredDateIssues rowNumber .snapshotDate .missingDate .malformedDate row.snapshotDate),
    quantityIssues rowNumber row.quantityOnHand,
    optionalValueIssues rowNumber .unitCost "unit cost" row.unitCost,
    optionalValueIssues rowNumber .reorderLevel "reorder level" row.reorderLevel,
    .ok (expiryIssues rowNumber row.expiryDate),
    .ok (locationIssues rowNumber row.location)]

def validateInventorySnapshotRows (rows : List InventorySnapshotRow) :
    Except String (List ValidatedSnapshot) :=
  (rows.zipIdx 1).mapM fun pair => checkRow snapshotChecks (fun _ => ()) pair.2 pair.1

/-- The quantity that is read from a row. -/
def snapshotQuantity (row : InventorySnapshotRow) : Option Decimal :=
  parseNumber cleanQuantity row.quantityOnHand

def snapshotReading : Reading InventorySnapshotRow ValidatedSnapshot Empty :=
  rowReading fun row => [snapshotQuantity row]

/-- An infinite quantity stands only in a row that is turned away for its item, date or location. -/
def SnapshotSettled (row : InventorySnapshotRow) : Prop :=
  snapshotQuantity row = some (.infinity false) →
    (row.supplierSku.getD "" = "" ∧ row.description.getD "" = "") ∨
      parseDate row.snapshotDate = none ∨ row.location.getD "" = ""

variable {number other : ℕ} {row : InventorySnapshotRow} {rows : List InventorySnapshotRow}
  {raw : Option String} {field : SnapshotField} {label : String}

section Written

variable {severity : IssueSeverity} {malformed negative : SnapshotMessage} {text : String}

theorem writtenNumberIssues_cases (field : SnapshotField) (severity : IssueSeverity)
    (malformed negative : SnapshotMessage) (text : String) :
    (∃ value, Decimal.ofString text = some value ∧ value.isNegative = .ok false ∧
      ∀ number, writtenNumberIssues number field severity malformed negative text = .ok []) ∨
    ((∀ value, Decimal.ofString text = some value → value.isNegative ≠ .ok false) ∧ ∃ message,
      ∀ number,
      writtenNumberIssues number field severity malformed negative text =
        .ok [⟨number, field, severity, message⟩]) := by
  cases hText : Decimal.ofString text with
  | none =>
    refine .inr ⟨fun value h => absurd h (Option.some_ne_none value).symm, malformed,
      fun number => ?_⟩
    rw [writtenNumberIssues, readDecimal, hText]
    rfl
  | some value =>
    have hRead := readDecimal_of_eq hText
    cases hNegative : value.isNegative with
    | error e =>
      obtain rfl := isNegative_eq_error hNegative
      refine .inr ⟨?_, malformed, fun number => ?_⟩
      · rintro _ ⟨⟩
        rw [hNegative]
        intro h
        cases h
      · rw [writtenNumberIssues, bind_of_eq_ok hRead, hNegative]
        rfl
    | ok isNegative =>
      cases isNegative with
      | false =>
        refine .inl ⟨value, rfl, hNegative, fun number => ?_⟩
        rw [writtenNumberIssues, bind_of_eq_ok hRead, bind_of_eq_ok hNegative]
        rfl
      | true =>
        refine .inr ⟨?_, negative, fun number => ?_⟩
        · rintro _ ⟨⟩
          rw [hNegative]
          intro h
          cases h
        · rw [writtenNumberIssues, bind_of_eq_ok hRead, bind_of_eq_ok hNegative]
          rfl

theorem exists_writtenNumberIssues :
    ∃ issues, writtenNumberIssues number field severity malformed negative text = .ok issues := by
  obtain ⟨_, _, _, hOk⟩ | ⟨_, _, hOk⟩ :=
    writtenNumberIssues_cases field severity malformed negative text
  · exact ⟨_, hOk number⟩
  · exact ⟨_, hOk number⟩

theorem sameApart_writtenNumberIssues :
    SameApart (writtenNumberIssues number field severity malformed negative text)
    (writtenNumberIssues other field severity malformed negative text) := by
  obtain ⟨_, _, _, hOk⟩ | ⟨_, _, hOk⟩ :=
    writtenNumberIssues_cases field severity malformed negative text
  · rw [hOk, hOk]
    rfl
  · rw [hOk, hOk]
    rfl

theorem passes_error_iff :
    passes (writtenNumberIssues number field .error malformed negative text) = true ↔
    ∃ value, Decimal.ofString text = some value ∧ value.isNegative = .ok false := by
  obtain ⟨value, hValue, hSign, hOk⟩ | ⟨hNone, message, hOk⟩ :=
    writtenNumberIssues_cases field .error malformed negative text
  · rw [hOk]
    exact iff_of_true rfl ⟨value, hValue, hSign⟩
  · rw [hOk]
    refine iff_of_false (fun h => nomatch h) ?_
    rintro ⟨value, hValue, hSign⟩
    exact hNone value hValue hSign

theorem passes_warning :
    passes (writtenNumberIssues number field .warning malformed negative text) = true := by
  obtain ⟨_, _, _, hOk⟩ | ⟨_, _, hOk⟩ :=
    writtenNumberIssues_cases field .warning malformed negative text
  · rw [hOk]
    rfl
  · rw [hOk]
    rfl

end Written

theorem passes_quantityIssues_iff : passes (quantityIssues number raw) = true ↔
    ∃ quantity, parseNumber cleanQuantity raw = some quantity ∧
      quantity.isNegative = .ok false := by
  unfold quantityIssues parseNumber
  split
  · refine iff_of_false (fun h => nomatch h) ?_
    rintro ⟨quantity, hNone, -⟩
    exact nomatch hNone
  · exact passes_error_iff

theorem passes_optionalValueIssues :
    passes (optionalValueIssues number field label raw) = true := by
  unfold optionalValueIssues
  split
  · rfl
  · exact passes_warning

theorem exists_quantityIssues : ∃ issues, quantityIssues number raw = .ok issues := by
  unfold quantityIssues
  split
  · exact ⟨_, rfl⟩
  · exact exists_writtenNumberIssues

theorem sameApart_snapshotChecks (number other : ℕ) (row : InventorySnapshotRow) :
    List.Forall₂ SameApart (snapshotChecks number row) (snapshotChecks other row) := by
  have hIdentifier : SameApart (.ok (snapshotIdentifierIssues number row))
      (.ok (snapshotIdentifierIssues other row)) := by
    unfold snapshotIdentifierIssues
    split
    · rfl
    · rfl
  have hQuantity : SameApart (quantityIssues number row.quantityOnHand)
      (quantityIssues other row.quantityOnHand) := by
    unfold quantityIssues
    split
    · rfl
    · exact sameApart_writtenNumberIssues
  have hOptional : ∀ field label raw, SameApart (optionalValueIssues number field label raw)
      (optionalValueIssues other field label raw) := by
    intro field label raw
    unfold optionalValueIssues
    split
    · rfl
    · exact sameApart_writtenNumberIssues
  have hExpiry : SameApart (.ok (expiryIssues number row.expiryDate))
      (.ok (expiryIssues other row.expiryDate)) := by
    unfold expiryIssues
    split
    · rfl
    · split
      · rfl
      · rfl
  have hLocation : SameApart (.ok (locationIssues number row.location))
      (.ok (locationIssues other row.location)) := by
    unfold locationIssues
    split
    · rfl
    · rfl
  exact .cons hIdentifier (.cons sameApart_requiredDateIssues (.cons hQuantity (.cons (hOptional _ _ _)
    (.cons (hOptional _ _ _) (.cons hExpiry (.cons hLocation .nil))))))

theorem passes_snapshotChecks_iff : (snapshotChecks number row).all passes = true ↔
    ¬(row.supplierSku.getD "" = "" ∧ row.description.getD "" = "") ∧
      parseDate row.snapshotDate ≠ none ∧
      (∃ quantity, snapshotQuantity row = some quantity ∧ quantity.isNegative = .ok false) ∧
        row.location.getD "" ≠ "" := by
  have hIdentifier : passes (.ok (snapshotIdentifierIssues number row)) = true ↔
      ¬(row.supplierSku.getD "" = "" ∧ row.description.getD "" = "") := by
    unfold snapshotIdentifierIssues
    split
    · rename_i hNone
      exact iff_of_false (fun h => nomatch h) (not_not_intro hNone)
    · rename_i hSome
      exact iff_of_true rfl hSome
  have hDate :
    passes (.ok (requiredDateIssues number SnapshotField.snapshotDate SnapshotMessage.missingDate
      SnapshotMessage.malformedDate row.snapshotDate)) = true ↔
        parseDate row.snapshotDate ≠ none := by
    rw [← Option.isSome_iff_ne_none, ← @errorFree_requiredDateIssues _ _ number SnapshotField.snapshotDate
      SnapshotMessage.missingDate SnapshotMessage.malformedDate]
    rfl
  have hExpiry : passes (.ok (expiryIssues number row.expiryDate)) = true := by
    unfold expiryIssues
    split
    · rfl
    · split
      · rfl
      · rfl
  have hLocation : passes (.ok (locationIssues number row.location)) = true ↔
      row.location.getD "" ≠ "" := by
    unfold locationIssues
    split
    · rename_i hNone
      exact iff_of_false (fun h => nomatch h) (not_not_intro hNone)
    · rename_i hSome
      exact iff_of_true rfl hSome
  simp only [snapshotChecks, List.all_cons, List.all_nil, Bool.and_eq_true, Bool.and_true,
    hIdentifier, hDate,
    passes_quantityIssues_iff, passes_optionalValueIssues, hExpiry, hLocation, true_and]
  rfl

theorem exists_snapshotChecks {check : Check SnapshotField SnapshotMessage}
    (h : check ∈ snapshotChecks number row) : ∃ issues, check = .ok issues := by
  simp only [snapshotChecks, List.mem_cons, List.not_mem_nil, or_false] at h
  obtain rfl | rfl | rfl | rfl | rfl | rfl | rfl := h
  · exact ⟨_, rfl⟩
  · exact ⟨_, rfl⟩
  · exact exists_quantityIssues
  · exact exists_of_passes passes_optionalValueIssues
  · exact exists_of_passes passes_optionalValueIssues
  · exact ⟨_, rfl⟩
  · exact ⟨_, rfl⟩

theorem settles_snapshot_iff :
    Settles snapshotReading row (checkRow snapshotChecks (fun _ => ()) number row) ↔
      SnapshotSettled row := by
  rw [snapshotReading, settles_checkRow_iff]
  constructor
  · rintro ⟨-, hInvalid⟩ hInfinite
    have hFails := hInvalid ⟨snapshotQuantity row, List.mem_singleton_self _, by
      rw [hInfinite]
      exact not_isFinite_infinity false⟩
    by_contra hNone
    rw [not_or, not_or] at hNone
    refine Bool.false_ne_true (hFails.symm.trans (passes_snapshotChecks_iff.mpr ?_))
    exact ⟨hNone.1, hNone.2.1, ⟨_, hInfinite, rfl⟩, hNone.2.2⟩
  · intro hSettled
    refine ⟨fun check hCheck => exists_snapshotChecks hCheck, ?_⟩
    rintro ⟨quantity, hMem, hNotFinite⟩
    obtain rfl := List.mem_singleton.mp hMem
    rw [Bool.eq_false_iff]
    intro hPasses
    obtain ⟨hIdentifier, hDate, ⟨quantity, hQuantity, hSign⟩, hLocation⟩ :=
      passes_snapshotChecks_iff.mp hPasses
    rw [hQuantity] at hNotFinite
    obtain hFinite | rfl := finite_or_infinity hSign
    · exact hNotFinite hFinite
    · obtain hNone | hNone | hNone := hSettled hQuantity
      · exact hIdentifier hNone
      · exact hDate hNone
      · exact hLocation hNone

theorem validateInventorySnapshotRows_iff :
    TotalAndLocal snapshotReading validateInventorySnapshotRows rows ↔
    ∀ row ∈ rows, SnapshotSettled row :=
  totalAndLocal_rows_iff sameApart_snapshotChecks fun _ _ => settles_snapshot_iff

end ProcureFoundation.Ingestion
