import ProcureFoundation.Foundation.DecimalText
import ProcureFoundation.Foundation.Outcomes

/-!
# Price-list validation

Every row is checked for its identifier, its description, its price and its pack size.
Errors block a row and warnings do not; only the rows without errors are staged.
-/

namespace ProcureFoundation.Ingestion

open Outcome Text

structure PriceListRow where
  supplierSku : Option String
  description : Option String
  packSize : Option String
  price : Option String
  barcode : Option String
deriving DecidableEq

inductive IssueSeverity where
  | error
  | warning
deriving DecidableEq

inductive IssueField where
  | supplierSku
  | description
  | price
  | packSize
deriving DecidableEq

inductive IssueMessage where
  | missingIdentifier
  | missingDescription
  | missingPrice
  | malformedPrice (raw : String)
  | negativePrice (price : Decimal)
  | zeroPrice
  | duplicateSku (firstSeen : ℕ)
  | missingPackSize
deriving DecidableEq

structure ValidationIssue where
  rowNumber : ℕ
  field : IssueField
  severity : IssueSeverity
  message : IssueMessage
deriving DecidableEq

structure ValidatedRow where
  rowNumber : ℕ
  supplierSku : Option String
  description : Option String
  price : Option Decimal
  packSize : Option String
  issues : List ValidationIssue
deriving DecidableEq

def ValidatedRow.isValid (row : ValidatedRow) : Bool :=
  row.issues.all fun issue => issue.severity != .error

def isBlank (raw : Option String) : Bool := strip (raw.getD "") == ""

def cleanText (raw : Option String) : Option String :=
  if isBlank raw then none else some (strip (raw.getD ""))

/-- The text a price is read from: without thousands separators, currency prefix and surrounding
spaces. -/
def cleanPrice (raw : String) : String := strip (remove 'R' (remove ',' raw))

def parsePrice (raw : Option String) : Option Decimal :=
  if isBlank raw then none else Decimal.ofString (cleanPrice (raw.getD ""))

def priceIssues (rowNumber : ℕ) (raw : Option String) : Except String (List ValidationIssue) :=
  if isBlank raw then .ok [⟨rowNumber, .price, .error, .missingPrice⟩]
  else
    match parsePrice raw with
    | none => .ok [⟨rowNumber, .price, .error, .malformedPrice (raw.getD "")⟩]
    | some price => do
      if ← price.isNegative then return [⟨rowNumber, .price, .error, .negativePrice price⟩]
      else if price.isZero then return [⟨rowNumber, .price, .warning, .zeroPrice⟩]
      else return []

def missingIssue (rowNumber : ℕ) (field : IssueField) (severity : IssueSeverity)
    (message : IssueMessage) (text : Option String) : List ValidationIssue :=
  if text.isNone then [⟨rowNumber, field, severity, message⟩] else []

def firstSeen (seen : List (String × ℕ)) (sku : String) : Option ℕ := seen.lookup sku

def duplicateIssues (rowNumber : ℕ) (seen : List (String × ℕ)) (sku : Option String) :
    List ValidationIssue :=
  match sku.bind (firstSeen seen) with
  | some row => [⟨rowNumber, .supplierSku, .error, .duplicateSku row⟩]
  | none => []

def remember (seen : List (String × ℕ)) (rowNumber : ℕ) (sku : Option String) : List (String × ℕ) :=
  match sku with
  | some sku => if (firstSeen seen sku).isSome then seen else (sku, rowNumber) :: seen
  | none => seen

def validateRow (rowNumber : ℕ) (seen : List (String × ℕ)) (row : PriceListRow) :
    Except String ValidatedRow := do
  let sku := cleanText row.supplierSku
  let description := cleanText row.description
  let packSize := cleanText row.packSize
  let priceIssues ← priceIssues rowNumber row.price
  return {
    rowNumber, supplierSku := sku, description, price := parsePrice row.price, packSize
    issues := missingIssue rowNumber .supplierSku .error .missingIdentifier sku ++
      missingIssue rowNumber .description .error .missingDescription description ++ priceIssues ++
      duplicateIssues rowNumber seen sku ++
        missingIssue rowNumber .packSize .warning .missingPackSize packSize }

def validateFrom (rowNumber : ℕ) (seen : List (String × ℕ)) : List PriceListRow →
    Except String (List ValidatedRow)
  | [] => .ok []
  | row :: rows => do
    let validated ← validateRow rowNumber seen row
    let rest ← validateFrom (rowNumber + 1) (remember seen rowNumber (cleanText row.supplierSku)) rows
    return validated :: rest

/-- Raises when a price is not comparable with zero. -/
def validateRows (rows : List PriceListRow) : Except String (List ValidatedRow) :=
  validateFrom 1 [] rows

/-- The mapped rows that are staged, each with what validation made of it. -/
def validPairs (rows : List PriceListRow) (validated : List ValidatedRow) :
    List (PriceListRow × ValidatedRow) :=
  (rows.zip validated).filter fun pair => pair.2.isValid

/-- What confirming a column mapping stages: the mapped rows without errors, as they were read. -/
def stagedRows (rows : List PriceListRow) : Except String (List PriceListRow) := do
  let validated ← validateRows rows
  return (validPairs rows validated).map Prod.fst

variable {rowNumber : ℕ} {seen : List (String × ℕ)} {row : PriceListRow} {rows : List PriceListRow}
  {validated : ValidatedRow} {validatedRows : List ValidatedRow}

theorem cleanPrice_eq_strip {raw : String} (h : ',' ∉ raw.toList ∧ 'R' ∉ raw.toList) :
    cleanPrice raw = strip raw := by
  rw [cleanPrice, remove_eq_self h.1, remove_eq_self h.2]

theorem ofString_eq_none_of_comma {raw : String} (h : ',' ∈ raw.toList) :
    Decimal.ofString raw = none :=
  Decimal.ofString_eq_none h (by decide) (by decide) (by unfold Decimal.InGrammar; decide)

theorem ofString_eq_none_of_currency {raw : String} (h : 'R' ∈ raw.toList) :
    Decimal.ofString raw = none :=
  Decimal.ofString_eq_none h (by decide) (by decide) (by unfold Decimal.InGrammar; decide)

theorem clean_of_ofString {raw : String} {price : Decimal} (h : Decimal.ofString raw = some price) :
    ',' ∉ raw.toList ∧ 'R' ∉ raw.toList := by
  constructor
  · intro hComma
    rw [ofString_eq_none_of_comma hComma] at h
    exact nomatch h
  · intro hPrefix
    rw [ofString_eq_none_of_currency hPrefix] at h
    exact nomatch h

/-- Where cleaning a text makes it a number, the text itself is that number when there was nothing
to clean, and no number otherwise. -/
theorem ofString_eq_cleaned_iff {raw : String} {price : Decimal}
    (h : Decimal.ofString (cleanPrice raw) = some price) :
    Decimal.ofString raw = some price ↔ ',' ∉ raw.toList ∧ 'R' ∉ raw.toList := by
  constructor
  · exact clean_of_ofString
  · intro hClean
    rwa [cleanPrice_eq_strip hClean, Decimal.ofString_strip] at h

structure Accepted (row : PriceListRow) : Prop where
  supplierSku : (cleanText row.supplierSku).isSome
  description : (cleanText row.description).isSome
  price : ∃ price, parsePrice row.price = some price ∧ price.isNegative = .ok false

structure Describes (validated : ValidatedRow) (row : PriceListRow) : Prop where
  supplierSku : validated.supplierSku = cleanText row.supplierSku
  price : validated.price = parsePrice row.price
  packSize : validated.packSize = cleanText row.packSize

theorem validateRow_ok (h : validateRow rowNumber seen row = .ok validated) :
    Describes validated row ∧ ∃ issues, priceIssues rowNumber row.price = .ok issues ∧
      validated.issues =
        missingIssue rowNumber .supplierSku .error .missingIdentifier (cleanText row.supplierSku) ++
        missingIssue rowNumber .description .error .missingDescription
          (cleanText row.description) ++ issues ++
        duplicateIssues rowNumber seen (cleanText row.supplierSku) ++
        missingIssue rowNumber .packSize .warning .missingPackSize (cleanText row.packSize) := by
  unfold validateRow at h
  obtain ⟨issues, hIssues, h⟩ := exists_of_bind_eq_ok h
  have hValidated := Except.ok.inj h
  have hDescribes : Describes validated row :=
    ⟨by rw [← hValidated], by rw [← hValidated], by rw [← hValidated]⟩
  exact ⟨hDescribes, issues, hIssues, by rw [← hValidated]⟩

theorem isSome_of_missingIssue {field : IssueField} {message : IssueMessage} {text : Option String}
    (h : ∀ issue ∈ missingIssue rowNumber field .error message text, issue.severity ≠ .error) :
    text.isSome := by
  cases text with
  | none => exact absurd rfl (h _ List.mem_cons_self)
  | some text => rfl

theorem price_of_priceIssues {raw : Option String} {issues : List ValidationIssue}
    (h : priceIssues rowNumber raw = .ok issues)
    (hErrors : ∀ issue ∈ issues, issue.severity ≠ .error) :
    ∃ price, parsePrice raw = some price ∧ price.isNegative = .ok false := by
  unfold priceIssues at h
  split at h
  · obtain rfl := Except.ok.inj h
    exact absurd rfl (hErrors _ List.mem_cons_self)
  · split at h
    · obtain rfl := Except.ok.inj h
      exact absurd rfl (hErrors _ List.mem_cons_self)
    · rename_i price hPrice
      refine ⟨price, hPrice, ?_⟩
      cases hNegative : price.isNegative with
      | error e =>
        rw [hNegative] at h
        exact nomatch h
      | ok negative =>
        cases negative with
        | false => rfl
        | true =>
          rw [hNegative] at h
          obtain rfl := Except.ok.inj h
          exact absurd rfl (hErrors _ List.mem_cons_self)

theorem firstSeen_of_duplicateIssues {sku : String}
    (h : ∀ issue ∈ duplicateIssues rowNumber seen (some sku), issue.severity ≠ .error) :
    firstSeen seen sku = none := by
  unfold duplicateIssues at h
  rw [Option.bind_some] at h
  cases hSeen : firstSeen seen sku with
  | none => rfl
  | some row =>
    rw [hSeen] at h
    exact absurd rfl (h _ List.mem_cons_self)

theorem accepted_of_isValid (h : validateRow rowNumber seen row = .ok validated)
    (hValid : validated.isValid) :
    Accepted row ∧ ∀ sku, cleanText row.supplierSku = some sku → firstSeen seen sku = none := by
  obtain ⟨-, issues, hPrice, hIssues⟩ := validateRow_ok h
  have hErrors : ∀ issue ∈ validated.issues, issue.severity ≠ .error := fun issue hIssue =>
    bne_iff_ne.mp (List.all_eq_true.mp hValid issue hIssue)
  simp only [hIssues, List.forall_mem_append] at hErrors
  obtain ⟨⟨⟨⟨hSku, hDescription⟩, hPriceErrors⟩, hDuplicate⟩, -⟩ := hErrors
  refine ⟨⟨isSome_of_missingIssue hSku, isSome_of_missingIssue hDescription,
    price_of_priceIssues hPrice hPriceErrors⟩, fun sku hClean => ?_⟩
  rw [hClean] at hDuplicate
  exact firstSeen_of_duplicateIssues hDuplicate

theorem validateFrom_cons (h : validateFrom rowNumber seen (row :: rows) = .ok validatedRows) :
    ∃ validated rest, validateRow rowNumber seen row = .ok validated ∧
      validateFrom (rowNumber + 1) (remember seen rowNumber (cleanText row.supplierSku)) rows =
        .ok rest ∧
      validatedRows = validated :: rest := by
  obtain ⟨validated, hRow, h⟩ := exists_of_bind_eq_ok h
  obtain ⟨rest, hRest, h⟩ := exists_of_bind_eq_ok h
  exact ⟨validated, rest, hRow, hRest, (Except.ok.inj h).symm⟩

theorem firstSeen_of_remember {sku : String} {remembered : Option String}
    (h : firstSeen (remember seen rowNumber remembered) sku = none) :
    firstSeen seen sku = none ∧ remembered ≠ some sku := by
  cases remembered with
  | none => exact ⟨h, fun hEq => nomatch hEq⟩
  | some other =>
    rw [remember] at h
    split at h
    · rename_i hSeen
      refine ⟨h, ?_⟩
      rintro ⟨⟩
      rw [h] at hSeen
      exact nomatch hSeen
    · rw [firstSeen, List.lookup_cons] at h
      split at h
      · exact nomatch h
      · rename_i hNe
        refine ⟨h, ?_⟩
        rintro ⟨⟩
        simp at hNe

theorem validPairs_cons (row : PriceListRow) (rows : List PriceListRow) (validated : ValidatedRow)
    (rest : List ValidatedRow) : validPairs (row :: rows) (validated :: rest) =
      if validated.isValid then (row, validated) :: validPairs rows rest
        else validPairs rows rest := by
  rw [validPairs, List.zip_cons_cons, List.filter_cons]
  rfl

/-- Staged rows are accepted, and no two of them share an identifier, nor one of them with an
earlier row. -/
theorem validPairs_spec (h : validateFrom rowNumber seen rows = .ok validatedRows) :
    (∀ pair ∈ validPairs rows validatedRows, Accepted pair.1 ∧ Describes pair.2 pair.1 ∧
      ∀ sku, cleanText pair.1.supplierSku = some sku → firstSeen seen sku = none) ∧
    ((validPairs rows validatedRows).map fun pair => cleanText pair.1.supplierSku).Nodup := by
  induction rows generalizing rowNumber seen validatedRows with
  | nil => exact ⟨fun _ hPair => (List.not_mem_nil hPair).elim, List.nodup_nil⟩
  | cons row rows ih =>
    obtain ⟨validated, rest, hRow, hRest, rfl⟩ := validateFrom_cons h
    obtain ⟨ihPairs, ihNodup⟩ := ih hRest
    have hLater : ∀ pair ∈ validPairs rows rest, Accepted pair.1 ∧ Describes pair.2 pair.1 ∧
        ∀ sku, cleanText pair.1.supplierSku = some sku → firstSeen seen sku = none := by
      intro pair hPair
      obtain ⟨hAccepted, hDescribes, hUnseen⟩ := ihPairs pair hPair
      exact ⟨hAccepted, hDescribes, fun sku hSku => (firstSeen_of_remember (hUnseen sku hSku)).1⟩
    rw [validPairs_cons]
    split
    · rename_i hValid
      obtain ⟨hAccepted, hUnseen⟩ := accepted_of_isValid hRow hValid
      refine ⟨List.forall_mem_cons.mpr ⟨⟨hAccepted, (validateRow_ok hRow).1, hUnseen⟩, hLater⟩, ?_⟩
      rw [List.map_cons, List.nodup_cons]
      refine ⟨fun hMem => ?_, ihNodup⟩
      obtain ⟨pair, hPair, hSame⟩ := List.mem_map.mp hMem
      obtain ⟨sku, hSku⟩ := Option.isSome_iff_exists.mp hAccepted.supplierSku
      obtain ⟨-, -, hUnseen⟩ := ihPairs pair hPair
      exact (firstSeen_of_remember (hUnseen sku (hSame.trans hSku))).2 hSku
    · exact ⟨hLater, ihNodup⟩

/-- A list that confirming a mapping can have staged. -/
structure Staged (rows : List PriceListRow) : Prop where
  accepted : ∀ row ∈ rows, Accepted row
  skus : (rows.map fun row => cleanText row.supplierSku).Nodup

theorem staged_of_stagedRows {mapped : List PriceListRow} (h : stagedRows mapped = .ok rows) :
    Staged rows := by
  obtain ⟨validatedRows, hValidated, h⟩ := exists_of_bind_eq_ok h
  obtain ⟨hPairs, hNodup⟩ := validPairs_spec hValidated
  rw [← Except.ok.inj h]
  constructor
  · intro row hRow
    obtain ⟨pair, hPair, rfl⟩ := List.mem_map.mp hRow
    exact (hPairs pair hPair).1
  · rw [List.map_map]
    exact hNodup

theorem cleanText_none : cleanText none = none := by decide

theorem Accepted.exists_sku (h : Accepted row) : ∃ sku, row.supplierSku = some sku := by
  cases hSku : row.supplierSku with
  | none =>
    have hClean := h.supplierSku
    rw [hSku, cleanText_none] at hClean
    exact nomatch hClean
  | some sku => exact ⟨sku, rfl⟩

theorem Staged.nodup_skus (h : Staged rows) : (rows.map PriceListRow.supplierSku).Nodup := by
  have hNodup := h.skus
  rw [← Function.comp_def cleanText PriceListRow.supplierSku, ← List.map_map] at hNodup
  exact hNodup.of_map _

theorem Staged.nodup (h : Staged rows) : rows.Nodup := h.nodup_skus.of_map _

end ProcureFoundation.Ingestion
