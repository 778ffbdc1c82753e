import ProcureFoundation.Foundation.DecimalArithmetic
import ProcureFoundation.Ingestion.PurchaseTransactionValidation
import ProcureFoundation.PriceReview.Lines

/-!
# Ingestion of purchase transactions

Valid rows are read a second time, now without cleaning, and inserted together: one row that
cannot be read or stored fails the upload.
-/

namespace ProcureFoundation.Ingestion

open Outcome PriceReview Text

/-- The organisation, the supplier, the user and the file of an upload are left out. -/
structure PurchaseTransaction (α : Type) where
  supplierSku : Option String
  description : Option String
  transactionDate : Date
  amount : α
  quantity : Option α
  reference : Option String
deriving DecidableEq

def orRaise {α : Type} (message : String) : Option α → Except String α
  | some value => .ok value
  | none => .error message

/-- The text of an empty cell is that of the missing value. -/
def readDate (raw : Option String) : Except String Date :=
  orRaise "Could not parse transaction row" (Date.fromIsoFormat (raw.getD "None").toList)

def readAmount (raw : Option String) : Except String Decimal :=
  orRaise "Could not parse transaction row" (Decimal.ofString (raw.getD "None"))

def readQuantity (raw : Option String) : Except String (Option Decimal) :=
  if raw.getD "" = "" then .ok none
  else (orRaise "InvalidOperation" (Decimal.ofString (raw.getD ""))).map some

def readTransaction (row : TransactionRow) : Except String (PurchaseTransaction Decimal) := do
  let transactionDate ← readDate row.transactionDate
  let amount ← readAmount row.amount
  let quantity ← readQuantity row.quantity
  return {
    supplierSku := row.supplierSku
    description := row.description
    transactionDate, amount, quantity
    reference := row.reference }

/-- A numeric column holds no infinity and has fourteen digits before the point. -/
def numericFits (amount : Decimal) : Bool :=
  match amount.toRat with
  | some number => fitsNumeric 18 (some (FixedPoint.assign 4 number))
  | none => amount.isNan

def storedNumeric (amount : Decimal) : Numeric 4 :=
  match amount.toRat with
  | some number => .number (FixedPoint.assign 4 number)
  | none => .nan

def textsFit (supplierSku description reference : Option String) : Bool :=
  textFits 128 supplierSku && textFits 512 description && textFits 128 reference

def PurchaseTransaction.stored (transaction : PurchaseTransaction Decimal) :
    PurchaseTransaction (Numeric 4) :=
  { transaction with
    amount := storedNumeric transaction.amount
    quantity := transaction.quantity.map storedNumeric }

def insertTransaction (transaction : PurchaseTransaction Decimal) :
    Except String (PurchaseTransaction (Numeric 4)) :=
  if textsFit transaction.supplierSku transaction.description transaction.reference &&
      numericFits transaction.amount && transaction.quantity.all numericFits then
        .ok transaction.stored
  else .error "numeric field overflow"

/-- The rows as the first flush of an upload inserts them. -/
def insertTransactions (rows : List TransactionRow) :
    Except String (List (PurchaseTransaction (Numeric 4))) := do
  let transactions ← rows.mapM readTransaction
  transactions.mapM insertTransaction

structure StoredAsValidated (row : TransactionRow) (stored : PurchaseTransaction (Numeric 4)) :
    Prop where
  transactionDate : parseDate row.transactionDate = some stored.transactionDate
  amount : ∃ amount number, parseAmount row.amount = some amount ∧ stored.amount = .number number ∧
    amount.toRat = some number.value

/-- The text of a date as validation cuts it out, or of a date without separators before two bytes
of white space. -/
def DateAsCut (text : List Char) : Prop :=
  text = (stripChars text).take 10 ∨
    (stripChars text <+: text ∧ utf8Length (stripChars text) = 8 ∧
      Date.usesSeparator (stripChars text) = false ∧ utf8Length text = 10)

instance (text : List Char) : Decidable (DateAsCut text) :=
  inferInstanceAs (Decidable (_ ∨ _ ∧ _ ∧ _ ∧ _))

/-- A number with at most four decimals and fourteen digits before the point. -/
def Exact (amount : Decimal) : Prop :=
  ∃ number : Money, amount.toRat = some number.value ∧ fitsNumeric 18 (some number) = true

def QuantityStorable (raw : Option String) : Prop :=
  raw.getD "" = "" ∨ ((Decimal.ofString (raw.getD "")).any numericFits) = true

instance (raw : Option String) : Decidable (QuantityStorable raw) :=
  inferInstanceAs (Decidable (_ ∨ _))

structure Ingestible (row : TransactionRow) : Prop where
  transactionDate : DateAsCut (row.transactionDate.getD "").toList
  amount : ',' ∉ (row.amount.getD "").toList ∧ 'R' ∉ (row.amount.getD "").toList
  exact : ∀ amount, parseAmount row.amount = some amount → Exact amount
  quantity : QuantityStorable row.quantity
  texts : textsFit row.supplierSku row.description row.reference = true

variable {row : TransactionRow} {rows : List TransactionRow} {text : List Char} {date : Date}

theorem fromIsoFormat_of_long (h : 10 < text.length) : Date.fromIsoFormat text = none := by
  have hBytes := Date.length_le_utf8Length text
  apply if_neg
  omega

theorem fromIsoFormat_of_space {c : Char} (h : isSpace c = true) :
    Date.fromIsoFormat (c :: text) = none := by
  have hDigit : c.isDigit = false := Date.not_isDigit_of_isSpace h
  rw [Date.fromIsoFormat, Date.parseIsoFormatDate, Date.parseDigits, hDigit]
  exact ite_self none

theorem fromIsoFormat_surrounded_iff {before cut after : List Char}
    (hBefore : ∀ c ∈ before, isSpace c = true) (hAfter : ∀ c ∈ after, isSpace c = true)
    (hHead : ∀ c rest, cut = c :: rest → isSpace c = false)
    (h : Date.fromIsoFormat (cut.take 10) = some date) :
    Date.fromIsoFormat (before ++ (cut ++ after)) = some date ↔
      before ++ (cut ++ after) = cut.take 10 ∨
      (cut <+: before ++ (cut ++ after) ∧ utf8Length cut = 8 ∧ Date.usesSeparator cut = false ∧
        utf8Length (before ++ (cut ++ after)) = 10) := by
  cases before with
  | cons c before =>
    have hSpace := hBefore c List.mem_cons_self
    rw [List.cons_append, fromIsoFormat_of_space hSpace]
    refine iff_of_false (fun hNone => nomatch hNone) ?_
    -- stripping has left no white space in front
    have hStart : ∀ rest, cut ≠ c :: rest := by
      intro rest hCut
      rw [hHead c rest hCut] at hSpace
      exact nomatch hSpace
    rintro (hEq | ⟨hPrefix, hBytes, -⟩)
    · cases cut with
      | nil => exact nomatch hEq
      | cons d cut => exact hStart cut (by rw [(List.cons.inj hEq).1])
    · cases cut with
      | nil => exact nomatch hBytes
      | cons d cut =>
        obtain ⟨rest, hRest⟩ := hPrefix
        exact hStart cut (by rw [(List.cons.inj hRest).1])
  | nil =>
    rw [List.nil_append]
    have hCutBytes := Date.length_le_utf8Length cut
    by_cases hLong : 10 < cut.length
    · rw [fromIsoFormat_of_long (by rw [List.length_append]; omega)]
      refine iff_of_false (fun hNone => nomatch hNone) ?_
      rintro (hEq | ⟨-, hBytes, -⟩)
      · have hLength := congrArg List.length hEq
        rw [List.length_append, List.length_take] at hLength
        omega
      · omega
    · rw [List.take_of_length_le (by omega)] at h ⊢
      by_cases hNil : after = []
      · rw [hNil, List.append_nil]
        exact iff_of_true h (.inl rfl)
      · rw [Date.fromIsoFormat_append hAfter hNil h]
        constructor
        · intro hCompact
          exact .inr ⟨List.prefix_append cut after, hCompact⟩
        · rintro (hEq | ⟨-, hCompact⟩)
          · exact absurd (List.append_right_eq_self.mp hEq) hNil
          · exact hCompact

/-- A date is read from the uncut text exactly when the text is as it is cut, or ends in white space
that the reader does not look at. -/
theorem fromIsoFormat_eq_cut_iff (h : Date.fromIsoFormat ((stripChars text).take 10) = some date) :
    Date.fromIsoFormat text = some date ↔ DateAsCut text := by
  obtain ⟨before, after, hText, hBefore, hAfter⟩ := exists_stripChars text
  have hIff := fromIsoFormat_surrounded_iff hBefore hAfter (fun c rest => head_stripChars) h
  rwa [← hText] at hIff

theorem orRaise_eq_ok {α : Type} {message : String} {x : Option α} {value : α} :
    orRaise message x = .ok value ↔ x = some value := by
  cases x with
  | none => exact iff_of_false (fun h => nomatch h) fun h => nomatch h
  | some found =>
    constructor
    · intro h
      rw [Except.ok.inj h]
    · intro h
      rw [Option.some.inj h]
      rfl

theorem getD_of_not_blank {raw : Option String} (h : isBlank raw = false) (other : String) :
    raw.getD other = raw.getD "" := by
  cases raw with
  | none => exact absurd h (by decide)
  | some text => rfl

theorem readDate_of_sound {raw : Option String} (h : parseDate raw = some date) :
    readDate raw = .ok date ↔ DateAsCut (raw.getD "").toList := by
  unfold parseDate at h
  rw [Option.ite_none_left_eq_some, Bool.not_eq_true] at h
  rw [readDate, orRaise_eq_ok, getD_of_not_blank h.1]
  exact fromIsoFormat_eq_cut_iff h.2

theorem readAmount_of_sound {raw : Option String} {amount : Decimal}
    (h : parseAmount raw = some amount) :
    readAmount raw = .ok amount ↔ ',' ∉ (raw.getD "").toList ∧ 'R' ∉ (raw.getD "").toList := by
  unfold parseAmount at h
  rw [Option.ite_none_left_eq_some, Bool.not_eq_true] at h
  rw [readAmount, orRaise_eq_ok, getD_of_not_blank h.1]
  exact ofString_eq_cleaned_iff h.2

theorem eq_of_readAmount {raw : Option String} {amount other : Decimal}
    (h : parseAmount raw = some amount) (hRead : readAmount raw = .ok other) :
    (',' ∉ (raw.getD "").toList ∧ 'R' ∉ (raw.getD "").toList) ∧ other = amount := by
  have hNotBlank := h
  unfold parseAmount at hNotBlank
  rw [Option.ite_none_left_eq_some, Bool.not_eq_true] at hNotBlank
  have hText := hRead
  rw [readAmount, orRaise_eq_ok, getD_of_not_blank hNotBlank.1] at hText
  have hClean := clean_of_ofString hText
  exact ⟨hClean, Except.ok.inj (hRead.symm.trans ((readAmount_of_sound h).mpr hClean))⟩

theorem quantityStorable_iff {raw : Option String} :
    QuantityStorable raw ↔ ∃ quantity, readQuantity raw = .ok quantity ∧
      quantity.all numericFits = true := by
  unfold QuantityStorable readQuantity
  split
  · rename_i hEmpty
    exact iff_of_true (.inl hEmpty) ⟨none, rfl, rfl⟩
  · rename_i hText
    rw [or_iff_right hText]
    cases Decimal.ofString (raw.getD "") with
    | none =>
      refine iff_of_false Bool.false_ne_true ?_
      rintro ⟨quantity, hRead, -⟩
      exact nomatch hRead
    | some quantity =>
      constructor
      · intro hFits
        exact ⟨some quantity, rfl, hFits⟩
      · rintro ⟨other, hRead, hFits⟩
        rw [← Except.ok.inj hRead] at hFits
        exact hFits

theorem insertTransaction_eq_ok {transaction : PurchaseTransaction Decimal}
    {stored : PurchaseTransaction (Numeric 4)} : insertTransaction transaction = .ok stored ↔
      (textsFit transaction.supplierSku transaction.description transaction.reference = true ∧
        numericFits transaction.amount = true ∧ transaction.quantity.all numericFits = true) ∧
      stored = transaction.stored := by
  unfold insertTransaction
  split
  · rename_i hFits
    rw [Bool.and_eq_true, Bool.and_eq_true, and_assoc] at hFits
    constructor
    · intro h
      exact ⟨hFits, (Except.ok.inj h).symm⟩
    · rintro ⟨-, rfl⟩
      rfl
  · rename_i hFits
    rw [Bool.and_eq_true, Bool.and_eq_true, and_assoc] at hFits
    refine iff_of_false (fun h => nomatch h) fun h => hFits h.1

theorem exact_iff {amount : Decimal} : Exact amount ↔ numericFits amount = true ∧
    ∃ number, storedNumeric amount = .number number ∧ amount.toRat = some number.value := by
  unfold Exact numericFits storedNumeric
  cases hAmount : amount.toRat with
  | none =>
    constructor
    · rintro ⟨number, hNumber, -⟩
      exact nomatch hNumber
    · rintro ⟨-, number, hNumber, -⟩
      exact nomatch hNumber
  | some value =>
    constructor
    · rintro ⟨number, hNumber, hFits⟩
      obtain rfl := Option.some.inj hNumber
      dsimp only
      rw [FixedPoint.assign_value]
      exact ⟨hFits, number, rfl, rfl⟩
    · rintro ⟨hFits, number, hStored, hNumber⟩
      obtain rfl := Option.some.inj hNumber
      dsimp only at hFits
      rw [FixedPoint.assign_value] at hFits
      exact ⟨number, rfl, hFits⟩

theorem storedAsValidated_iff (hSound : Sound row) :
    (∃ stored, (∃ transaction, readTransaction row = .ok transaction ∧
      insertTransaction transaction = .ok stored) ∧
      StoredAsValidated row stored) ↔ Ingestible row := by
  obtain ⟨date, hDate⟩ := Option.isSome_iff_exists.mp hSound.1
  obtain ⟨amount, hAmount⟩ := Option.isSome_iff_exists.mp hSound.2
  constructor
  · rintro ⟨stored, ⟨transaction, hRead, hInsert⟩, hDateStored, amountValidated, number, hValidated,
      hNumber, hValue⟩
    obtain ⟨dateRead, hDateRead, hAfterDate⟩ := exists_of_bind_eq_ok hRead
    obtain ⟨amountRead, hAmountRead, hAfterAmount⟩ := exists_of_bind_eq_ok hAfterDate
    obtain ⟨quantity, hQuantity, hMade⟩ := exists_of_bind_eq_ok hAfterAmount
    obtain rfl := Except.ok.inj hMade
    obtain ⟨⟨hTexts, hFits, hQuantityFits⟩, rfl⟩ := insertTransaction_eq_ok.mp hInsert
    obtain ⟨hClean, rfl⟩ := eq_of_readAmount hAmount hAmountRead
    obtain rfl := Option.some.inj (hAmount.symm.trans hValidated)
    refine ⟨(readDate_of_sound hDateStored).mp hDateRead, hClean, fun other hOther => ?_,
      quantityStorable_iff.mpr ⟨quantity, hQuantity, hQuantityFits⟩, hTexts⟩
    obtain rfl := Option.some.inj (hAmount.symm.trans hOther)
    exact exact_iff.mpr ⟨hFits, number, hNumber, hValue⟩
  · rintro ⟨hCut, hClean, hExact, hQuantityStorable, hTexts⟩
    obtain ⟨quantity, hQuantity, hQuantityFits⟩ := quantityStorable_iff.mp hQuantityStorable
    obtain ⟨hFits, number, hNumber, hValue⟩ := exact_iff.mp (hExact amount hAmount)
    have hRead : readTransaction row =
        .ok ⟨row.supplierSku, row.description, date, amount, quantity, row.reference⟩ := by
      rw [readTransaction, bind_of_eq_ok ((readDate_of_sound hDate).mpr hCut),
        bind_of_eq_ok ((readAmount_of_sound hAmount).mpr hClean), bind_of_eq_ok hQuantity]
      rfl
    exact ⟨_, ⟨_, hRead, insertTransaction_eq_ok.mpr ⟨⟨hTexts, hFits, hQuantityFits⟩, rfl⟩⟩, hDate,
      amount, number, hAmount, hNumber, hValue⟩

theorem insertTransactions_stored_iff (hSound : ∀ row ∈ rows, Sound row) :
    (∃ stored, insertTransactions rows = .ok stored ∧ List.Forall₂ StoredAsValidated rows stored) ↔
      ∀ row ∈ rows, Ingestible row := by
  have hRows : (∀ row ∈ rows, Ingestible row) ↔ ∀ row ∈ rows, ∃ stored, (∃ transaction,
      readTransaction row = .ok transaction ∧ insertTransaction transaction = .ok stored) ∧
        StoredAsValidated row stored :=
    forall₂_congr fun row hRow => (storedAsValidated_iff (hSound row hRow)).symm
  rw [hRows, ← exists_mapM_mapM]
  constructor
  · rintro ⟨stored, hIngest, hStored⟩
    exact ⟨stored, exists_of_bind_eq_ok hIngest, hStored⟩
  · rintro ⟨stored, ⟨transactions, hRead, hInsert⟩, hStored⟩
    exact ⟨stored, (bind_of_eq_ok hRead _).trans hInsert, hStored⟩

end ProcureFoundation.Ingestion
