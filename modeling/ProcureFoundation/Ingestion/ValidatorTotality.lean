import ProcureFoundation.Ingestion.InventorySnapshotValidation
import ProcureFoundation.Ingestion.InventoryValuationValidation
import ProcureFoundation.Ingestion.WorkingCapitalValidation

/-!
# Validators of uploaded rows

Price lists and purchase transactions are also looked through for repetitions: of an identifier, and
of a reference with its amount and date. Of the five validators only that of stocktakes answers a
NaN it compares, and each of them takes an infinity for a number.
-/

namespace ProcureFoundation.Ingestion

open Outcome RowBatches Text

section PriceLists

def ValidationIssue.isDuplicate (issue : ValidationIssue) : Bool :=
  match issue.message with
  | .duplicateSku _ => true
  | _ => false

def ValidationIssue.apart (issue : ValidationIssue) : ValidationIssue :=
  { issue with rowNumber := 0 }

def issuesApart (issues : List ValidationIssue) : List ValidationIssue :=
  (issues.filter fun issue => !issue.isDuplicate).map ValidationIssue.apart

def ValidatedRow.apart (row : ValidatedRow) : ValidatedRow :=
  { row with rowNumber := 0, issues := issuesApart row.issues }

def priceReading : Reading PriceListRow ValidatedRow String where
  required row := [parsePrice row.price]
  key row := cleanText row.supplierSku
  rowNumber := ValidatedRow.rowNumber
  isValid := ValidatedRow.isValid
  apart := ValidatedRow.apart

/-- A price is no NaN, and an infinite one stands only in a row that is turned away for its
identifier or description. -/
structure PriceSettled (earlier : List PriceListRow) (row : PriceListRow) : Prop where
  comparable : ∀ price, parsePrice row.price = some price → price.isNan = false
  finite : parsePrice row.price = some (.infinity false) → cleanText row.supplierSku = none ∨
    cleanText row.description = none ∨ ∃ other ∈ earlier, cleanText other.supplierSku =
      cleanText row.supplierSku

variable {number other : ℕ} {seen otherSeen : List (String × ℕ)} {row : PriceListRow}
  {rows : List PriceListRow} {result : ValidatedRow}

theorem issuesApart_append (issues others : List ValidationIssue) :
    issuesApart (issues ++ others) = issuesApart issues ++ issuesApart others := by
  rw [issuesApart, List.filter_append, List.map_append]
  rfl

theorem issuesApart_missingIssue {field : IssueField} {severity : IssueSeverity}
    {message : IssueMessage} {text : Option String} :
    issuesApart (missingIssue number field severity message text) =
      issuesApart (missingIssue other field severity message text) := by
  unfold missingIssue
  split
  · cases message with
    | duplicateSku firstSeen => rfl
    | missingIdentifier | missingDescription | missingPrice | malformedPrice | negativePrice | zeroPrice
      | missingPackSize => rfl
  · rfl

theorem issuesApart_duplicateIssues {sku : Option String} :
    issuesApart (duplicateIssues number seen sku) = [] := by
  unfold duplicateIssues
  split
  · rfl
  · rfl

theorem issuesApart_priceIssues {raw : Option String} :
    (priceIssues number raw).map issuesApart = (priceIssues other raw).map issuesApart := by
  unfold priceIssues
  split
  · rfl
  · cases parsePrice raw with
    | none => rfl
    | some price =>
      dsimp only
      cases price.isNegative with
      | error e => rfl
      | ok negative =>
        cases negative with
        | true => rfl
        | false => cases price.isZero <;> rfl

theorem remember_eq_note (number : ℕ) (seen : List (String × ℕ)) (row : PriceListRow) :
    remember seen number (cleanText row.supplierSku) = note priceReading.key number seen row := by
  unfold remember note priceReading firstSeen
  dsimp only
  cases cleanText row.supplierSku with
  | none => rfl
  | some sku => rfl

theorem validateFrom_eq_checkFrom : validateFrom number seen rows =
    checkFrom validateRow (note priceReading.key) number seen rows := by
  induction rows generalizing number seen with
  | nil => rfl
  | cons row rows ih =>
    rw [validateFrom, remember_eq_note]
    simp only [ih]
    rfl

theorem checksRow_validateRow : ChecksRow priceReading validateRow := by
  constructor
  · intro number seen row result h
    obtain ⟨issues, -, rfl⟩ := bind_pure_eq_ok.mp h
    rfl
  · intro number otherNumber seen otherSeen row result other h hOther
    obtain ⟨issues, hIssues, rfl⟩ := bind_pure_eq_ok.mp h
    obtain ⟨otherIssues, hOtherIssues, rfl⟩ := bind_pure_eq_ok.mp hOther
    have hApart := @issuesApart_priceIssues number otherNumber row.price
    rw [hIssues, hOtherIssues] at hApart
    have hPrice : issuesApart issues = issuesApart otherIssues := Except.ok.inj hApart
    simp only [priceReading, ValidatedRow.apart, issuesApart_append,
      issuesApart_duplicateIssues, hPrice, @issuesApart_missingIssue number otherNumber]
  · intro number seen otherSeen row h
    have hFirst : (cleanText row.supplierSku).bind (firstSeen seen) =
        (cleanText row.supplierSku).bind (firstSeen otherSeen) := h
    have hSeen : duplicateIssues number seen (cleanText row.supplierSku) =
        duplicateIssues number otherSeen (cleanText row.supplierSku) := by
      rw [duplicateIssues, duplicateIssues, hFirst]
    unfold validateRow
    simp only [hSeen]

theorem exists_priceIssues_iff {raw : Option String} :
    (∃ issues, priceIssues number raw = .ok issues) ↔
    ∀ price, parsePrice raw = some price → price.isNan = false := by
  unfold priceIssues
  split
  · rename_i hBlank
    rw [parsePrice, if_pos hBlank]
    exact iff_of_true ⟨_, rfl⟩ fun price h => nomatch h
  · cases parsePrice raw with
    | none => exact iff_of_true ⟨_, rfl⟩ fun price h => nomatch h
    | some price =>
      dsimp only
      constructor
      · rintro ⟨issues, h⟩ _ ⟨⟩
        obtain ⟨negative, hSign, -⟩ := exists_of_bind_eq_ok h
        cases price with
        | finite sign coefficient exponent => rfl
        | infinity sign => rfl
        | nan signaling sign payload => exact nomatch hSign
      · intro h
        obtain ⟨negative, hSign⟩ := exists_isNegative (h price rfl)
        rw [bind_of_eq_ok hSign]
        cases negative with
        | true => exact ⟨_, rfl⟩
        | false => cases price.isZero <;> exact ⟨_, rfl⟩

theorem noErrors_priceIssues {raw : Option String} {price : Decimal} {issues : List ValidationIssue}
    (h : priceIssues number raw = .ok issues) (hPrice : parsePrice raw = some price)
    (hSign : price.isNegative = .ok false) : ∀ issue ∈ issues, issue.severity ≠ .error := by
  unfold priceIssues at h
  split at h
  · rename_i hBlank
    rw [parsePrice, if_pos hBlank] at hPrice
    exact nomatch hPrice
  · rw [hPrice] at h
    dsimp only at h
    rw [bind_of_eq_ok hSign] at h
    cases hZero : price.isZero with
    | true =>
      rw [hZero] at h
      obtain rfl := Except.ok.inj h
      intro issue hIssue
      rw [List.mem_singleton.mp hIssue]
      exact fun hError => nomatch hError
    | false =>
      rw [hZero] at h
      obtain rfl := Except.ok.inj h
      exact fun issue hIssue => (List.not_mem_nil hIssue).elim

theorem isValid_of_accepted (h : validateRow number seen row = .ok result)
    (hAccepted : Accepted row)
    (hUnseen : (cleanText row.supplierSku).bind (firstSeen seen) = none) :
    result.isValid = true := by
  obtain ⟨-, issues, hPrice, hIssues⟩ := validateRow_ok h
  obtain ⟨price, hParsed, hSign⟩ := hAccepted.price
  have hMissing : ∀ {field severity message} {text : Option String}, text.isSome →
      missingIssue number field severity message text = [] := by
    intro field severity message text hText
    refine if_neg ?_
    rw [Option.isNone_iff_eq_none]
    rintro rfl
    exact nomatch hText
  have hPack :
    ∀ issue ∈ missingIssue number .packSize .warning .missingPackSize (cleanText row.packSize),
      issue.severity ≠ .error := by
    intro issue hIssue
    unfold missingIssue at hIssue
    split at hIssue
    · rw [List.mem_singleton.mp hIssue]
      exact fun hError => nomatch hError
    · exact (List.not_mem_nil hIssue).elim
  have hDuplicate : duplicateIssues number seen (cleanText row.supplierSku) = [] := by
    rw [duplicateIssues, hUnseen]
  rw [ValidatedRow.isValid, hIssues, hMissing hAccepted.supplierSku, hMissing hAccepted.description,
    hDuplicate, List.all_eq_true]
  intro issue hIssue
  simp only [List.nil_append, List.append_nil, List.mem_append] at hIssue
  rw [bne_iff_ne]
  obtain hIssue | hIssue := hIssue
  · exact noErrors_priceIssues hPrice hParsed hSign issue hIssue
  · exact hPack issue hIssue

theorem exists_validateRow_iff : (∃ result, validateRow number seen row = .ok result) ↔
    ∀ price, parsePrice row.price = some price → price.isNan = false := by
  rw [← @exists_priceIssues_iff number]
  constructor
  · rintro ⟨result, h⟩
    obtain ⟨-, issues, hIssues, -⟩ := validateRow_ok h
    exact ⟨issues, hIssues⟩
  · rintro ⟨issues, hIssues⟩
    exact ⟨_, bind_pure_eq_ok.mpr ⟨issues, hIssues, rfl⟩⟩

theorem bind_firstSeen_eq_none_iff {earlier : List PriceListRow} :
    (cleanText row.supplierSku).bind (firstSeen (stateAfter (note priceReading.key) 1 [] earlier)) =
      none ↔
      ∀ sku, cleanText row.supplierSku = some sku → ∀ other ∈ earlier, cleanText other.supplierSku ≠
        some sku := by
  rw [Option.bind_eq_none_iff]
  refine forall_congr' fun sku => imp_congr_right fun _ => ?_
  rw [firstSeen, ← Option.not_isSome_iff_eq_none, isSome_lookup_iff]
  push Not
  rfl

theorem settles_price_iff {earlier : List PriceListRow} : Settles priceReading row
    (validateRow number (stateAfter (note priceReading.key) 1 [] earlier) row) ↔
      PriceSettled earlier row := by
  constructor
  · rintro ⟨result, h, hInvalid⟩
    refine ⟨exists_validateRow_iff.mp ⟨result, h⟩, fun hInfinite => ?_⟩
    by_contra hNone
    rw [not_or, not_or, not_exists] at hNone
    obtain ⟨hSku, hDescription, hEarlier⟩ := hNone
    have hAccepted : Accepted row :=
      ⟨Option.isSome_iff_ne_none.mpr hSku, Option.isSome_iff_ne_none.mpr hDescription,
        _, hInfinite, rfl⟩
    have hUnseen :=
      (@bind_firstSeen_eq_none_iff row earlier).mpr fun sku hClean other hOther hSame =>
        hEarlier other ⟨hOther, hSame.trans hClean.symm⟩
    have hNotFinite : ∃ number ∈ [parsePrice row.price], ¬IsFinite number :=
      ⟨_, List.mem_singleton_self _, hInfinite ▸ not_isFinite_infinity false⟩
    exact Bool.false_ne_true ((hInvalid hNotFinite).symm.trans (isValid_of_accepted h hAccepted hUnseen))
  · intro hSettled
    obtain ⟨result, h⟩ :=
      (@exists_validateRow_iff number (stateAfter (note priceReading.key) 1 [] earlier) row).mpr
        hSettled.comparable
    refine ⟨result, h, ?_⟩
    rintro ⟨price, hMem, hNotFinite⟩
    obtain rfl := List.mem_singleton.mp hMem
    rw [Bool.eq_false_iff]
    intro hValid
    obtain ⟨hAccepted, hUnseen⟩ := accepted_of_isValid h hValid
    obtain ⟨price, hPrice, hSign⟩ := hAccepted.price
    rw [hPrice] at hNotFinite
    obtain hFinite | rfl := finite_or_infinity hSign
    · exact hNotFinite hFinite
    obtain ⟨sku, hSku⟩ := Option.isSome_iff_exists.mp hAccepted.supplierSku
    obtain hNone | hNone | ⟨other, hOther, hSame⟩ := hSettled.finite hPrice
    · rw [hNone] at hSku
      exact nomatch hSku
    · exact Option.isSome_iff_ne_none.mp hAccepted.description hNone
    · refine bind_firstSeen_eq_none_iff.mp ?_ sku hSku other hOther (hSame.trans hSku)
      rw [hSku]
      exact hUnseen sku hSku

theorem validateRows_iff : TotalAndLocal priceReading validateRows rows ↔
    ∀ i row, rows[i]? = some row → PriceSettled (rows.take i) row := by
  have hRuns : validateRows = checkFrom validateRow (note priceReading.key) 1 [] :=
    funext fun rows => validateFrom_eq_checkFrom
  rw [hRuns, totalAndLocal_iff checksRow_validateRow]
  exact forall_congr' fun i => forall_congr' fun row => imp_congr_right fun _ => settles_price_iff

end PriceLists

section Transactions

def TransactionIssue.isDuplicate (issue : TransactionIssue) : Bool :=
  match issue.message with
  | .possibleDuplicate _ => true
  | _ => false

def TransactionIssue.apart (issue : TransactionIssue) : TransactionIssue :=
  { issue with rowNumber := 0 }

def transactionIssuesApart (issues : List TransactionIssue) : List TransactionIssue :=
  (issues.filter fun issue => !issue.isDuplicate).map TransactionIssue.apart

def ValidatedTransaction.apart (row : ValidatedTransaction) : ValidatedTransaction :=
  { row with rowNumber := 0, issues := transactionIssuesApart row.issues }

def transactionReading :
    Reading TransactionRow ValidatedTransaction (Option String × Option String × Option String) where
  required row := [parseAmount row.amount]
  key row := if row.reference.getD "" = "" then none else some (dupeKey row)
  rowNumber := ValidatedTransaction.rowNumber
  isValid := ValidatedTransaction.isValid
  apart := ValidatedTransaction.apart

/-- An amount is no NaN, and an infinite one stands only in a row that is turned away for its date.
-/
structure TransactionSettled (row : TransactionRow) : Prop where
  comparable : Comparable row
  finite : ∀ negative, parseAmount row.amount = some (.infinity negative) →
    parseDate row.transactionDate = none

variable {number other : ℕ} {seen otherSeen : SeenDupes} {row : TransactionRow}
  {rows : List TransactionRow} {raw : Option String} {result : ValidatedTransaction}

theorem transactionIssuesApart_append (issues others : List TransactionIssue) :
    transactionIssuesApart (issues ++ others) = transactionIssuesApart issues ++
      transactionIssuesApart others := by
  rw [transactionIssuesApart, List.filter_append, List.map_append]
  rfl

theorem transactionIssuesApart_dateIssues :
    transactionIssuesApart (dateIssues number raw) =
      transactionIssuesApart (dateIssues other raw) := by
  unfold dateIssues
  split
  · rfl
  · split
    · rfl
    · rfl

theorem transactionIssuesApart_amountIssues : (amountIssues number raw).map transactionIssuesApart =
    (amountIssues other raw).map transactionIssuesApart := by
  unfold amountIssues
  split
  · rfl
  · cases parseAmount raw with
    | none => rfl
    | some amount =>
      dsimp only
      cases amount.isNegative with
      | error e => rfl
      | ok negative => cases negative <;> cases amount.isZero <;> rfl

theorem transactionIssuesApart_identifierIssues :
    transactionIssuesApart (identifierIssues number row) =
      transactionIssuesApart (identifierIssues other row) := by
  unfold identifierIssues
  split
  · rfl
  · rfl

theorem transactionIssuesApart_referenceIssues :
    transactionIssuesApart (referenceIssues number seen row) = [] := by
  unfold referenceIssues
  split
  · split
    · rfl
    · rfl
  · rfl

/-- Whichever way two keys are compared, the same one is found. -/
theorem lookup_dupeKey (key : Option String × Option String × Option String) (seen : SeenDupes) :
    seen.lookup key = @List.lookup _ _ instBEqOfDecidableEq key seen :=
  congrArg (fun comparison => @List.lookup _ _ comparison key seen) (lawful_beq_subsingleton _ _)

theorem referenceIssues_eq : referenceIssues number seen row =
    match (transactionReading.key row).bind (@List.lookup _ _ instBEqOfDecidableEq · seen) with
    | some firstSeen => [⟨number, .reference, .warning, .possibleDuplicate firstSeen⟩]
    | none => [] := by
  unfold referenceIssues transactionReading
  rw [lookup_dupeKey]
  dsimp only
  by_cases hReference : row.reference.getD "" = ""
  · rw [if_pos hReference, Option.bind_none]
    cases @List.lookup _ _ instBEqOfDecidableEq (dupeKey row) seen with
    | none => rfl
    | some firstSeen => exact if_pos hReference
  · rw [if_neg hReference, Option.bind_some]
    cases @List.lookup _ _ instBEqOfDecidableEq (dupeKey row) seen with
    | none => rfl
    | some firstSeen => exact if_neg hReference

theorem rememberDupe_eq_note (number : ℕ) (seen : SeenDupes) (row : TransactionRow) :
    rememberDupe seen number row = note transactionReading.key number seen row := by
  unfold rememberDupe note transactionReading
  rw [lookup_dupeKey]
  dsimp only
  by_cases hReference : row.reference.getD "" = ""
  · rw [if_pos (.inl hReference), if_pos hReference]
  · rw [if_neg hReference]
    dsimp only
    refine if_congr ?_ rfl rfl
    exact or_iff_right hReference

theorem validateTransactionsFrom_eq_checkFrom : validateTransactionsFrom number seen rows =
    checkFrom validateTransactionRow (note transactionReading.key) number seen rows := by
  induction rows generalizing number seen with
  | nil => rfl
  | cons row rows ih =>
    rw [validateTransactionsFrom, rememberDupe_eq_note]
    simp only [ih]
    rfl

theorem checksRow_validateTransactionRow : ChecksRow transactionReading validateTransactionRow := by
  constructor
  · intro number seen row result h
    obtain ⟨issues, -, rfl⟩ := bind_pure_eq_ok.mp h
    rfl
  · intro number otherNumber seen otherSeen row result other h hOther
    have hValid := (validateTransactionRow_ok h).trans (validateTransactionRow_ok hOther).symm
    obtain ⟨issues, hIssues, rfl⟩ := bind_pure_eq_ok.mp h
    obtain ⟨otherIssues, hOtherIssues, rfl⟩ := bind_pure_eq_ok.mp hOther
    have hApart := @transactionIssuesApart_amountIssues number otherNumber row.amount
    rw [hIssues, hOtherIssues] at hApart
    have hAmount : transactionIssuesApart issues = transactionIssuesApart otherIssues :=
      Except.ok.inj hApart
    dsimp only at hValid
    simp only [transactionReading, ValidatedTransaction.apart, transactionIssuesApart_append,
      transactionIssuesApart_referenceIssues, hAmount, hValid,
      @transactionIssuesApart_dateIssues number otherNumber,
      @transactionIssuesApart_identifierIssues number otherNumber]
  · intro number seen otherSeen row h
    have hSeen : referenceIssues number seen row = referenceIssues number otherSeen row := by
      rw [referenceIssues_eq, referenceIssues_eq, h]
    unfold validateTransactionRow
    simp only [hSeen]

theorem settles_transaction_iff :
    Settles transactionReading row (validateTransactionRow number seen row) ↔
    TransactionSettled row := by
  constructor
  · rintro ⟨result, h, hInvalid⟩
    refine ⟨validateTransactionRow_ok_iff.mp ⟨result, h⟩, fun negative hInfinite => ?_⟩
    have hNotFinite : ∃ number ∈ [parseAmount row.amount], ¬IsFinite number :=
      ⟨_, List.mem_singleton_self _, hInfinite ▸ not_isFinite_infinity negative⟩
    have hUnsound := (validateTransactionRow_ok h).symm.trans (hInvalid hNotFinite)
    rw [decide_eq_false_iff_not, Sound, not_and] at hUnsound
    rw [← Option.not_isSome_iff_eq_none]
    exact fun hDate => hUnsound hDate (hInfinite ▸ rfl)
  · intro hSettled
    obtain ⟨result, h⟩ := (@validateTransactionRow_ok_iff number seen row).mpr hSettled.comparable
    refine ⟨result, h, ?_⟩
    rintro ⟨amount, hMem, hNotFinite⟩
    obtain rfl := List.mem_singleton.mp hMem
    have hValid := validateTransactionRow_ok h
    refine hValid.trans (decide_eq_false ?_)
    rintro ⟨hDate, hAmount⟩
    obtain ⟨amount, hAmount⟩ := Option.isSome_iff_exists.mp hAmount
    have hNumber := hSettled.comparable
    rw [Comparable, hAmount] at hNumber
    rw [hAmount] at hNotFinite
    cases amount with
    | finite negative coefficient exponent =>
      exact hNotFinite ⟨negative, coefficient, exponent, rfl⟩
    | nan signaling negative payload => exact nomatch hNumber
    | infinity negative =>
      rw [hSettled.finite negative hAmount] at hDate
      exact nomatch hDate

theorem validatePurchaseTransactionRows_iff :
    TotalAndLocal transactionReading validatePurchaseTransactionRows rows ↔
      ∀ row ∈ rows, TransactionSettled row := by
  have hRuns : validatePurchaseTransactionRows = checkFrom validateTransactionRow
      (note transactionReading.key) 1 [] :=
    funext fun rows => validateTransactionsFrom_eq_checkFrom
  rw [hRuns, totalAndLocal_iff checksRow_validateTransactionRow]
  constructor
  · intro h row hRow
    obtain ⟨i, hi⟩ := List.mem_iff_getElem?.mp hRow
    exact settles_transaction_iff.mp (h i row hi)
  · intro h i row hRow
    exact settles_transaction_iff.mpr (h row (List.mem_of_getElem? hRow))

end Transactions

/-- Exactly on these rows a validator returns, turns away every number that is not finite and judges
each row by itself. -/
theorem validators_total_and_local (prices : List PriceListRow) (transactions : List TransactionRow)
    (stocktakes : List InventorySnapshotRow) (valuations : List InventoryValuationRow)
    (workingCapital : WorkingCapitalRow) : (TotalAndLocal priceReading validateRows prices ↔
      ∀ i row, prices[i]? = some row → PriceSettled (prices.take i) row) ∧
    (TotalAndLocal transactionReading validatePurchaseTransactionRows transactions ↔
      ∀ row ∈ transactions, TransactionSettled row) ∧
    (TotalAndLocal snapshotReading validateInventorySnapshotRows stocktakes ↔
      ∀ row ∈ stocktakes, SnapshotSettled row) ∧
    (TotalAndLocal valuationReading validateInventoryValuationRows valuations ↔
      ∀ row ∈ valuations, ValuationSettled row) ∧
    (Settles workingCapitalReading workingCapital (validateWorkingCapitalRow workingCapital) ↔
      WorkingCapitalSettled workingCapital) :=
  ⟨validateRows_iff, validatePurchaseTransactionRows_iff, validateInventorySnapshotRows_iff,
    validateInventoryValuationRows_iff, settles_workingCapital_iff⟩

def pricedAt (price : String) : List PriceListRow :=
  [⟨some "A1", some "Flour", some "10kg", some price, none⟩]

/-- A price of NaN raises, and an infinite price is accepted. -/
theorem not_forall_rows_total :
    validateRows (pricedAt "NaN") = .error "InvalidOperation" ∧
      (validateRows (pricedAt "Infinity")).toOption.any
        (fun results => results.all ValidatedRow.isValid) = true ∧
      ¬TotalAndLocal priceReading validateRows (pricedAt "NaN") ∧
      ¬TotalAndLocal priceReading validateRows (pricedAt "Infinity") := by
  have hRaises : validateRows (pricedAt "NaN") = .error "InvalidOperation" := by decide +kernel
  have hAccepts : (validateRows (pricedAt "Infinity")).toOption.any
      (fun results => results.all ValidatedRow.isValid) = true := by decide +kernel
  refine ⟨hRaises, hAccepts, ?_, ?_⟩
  · rintro ⟨results, hResults, -⟩
    rw [hRaises] at hResults
    exact nomatch hResults
  · rintro ⟨results, hResults, hReports, -⟩
    have hPrice : parsePrice (some "Infinity") = some (.infinity false) := by decide +kernel
    have hNotFinite : ∃ number ∈ [parsePrice (some "Infinity")], ¬IsFinite number :=
      ⟨_, List.mem_singleton_self _, hPrice ▸ not_isFinite_infinity false⟩
    rw [hResults] at hAccepts
    cases results with
    | nil => exact nomatch hReports.length
    | cons result rest =>
      have hValid := List.all_eq_true.mp hAccepts result List.mem_cons_self
      exact Bool.false_ne_true ((hReports.invalid 0 _ result rfl rfl hNotFinite).symm.trans hValid)

end ProcureFoundation.Ingestion
