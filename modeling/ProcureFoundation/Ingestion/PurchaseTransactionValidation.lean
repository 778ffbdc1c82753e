import ProcureFoundation.Foundation.IsoDate
import ProcureFoundation.Ingestion.Validation

/-!
# Purchase-transaction validation

A row is valid when a date and an amount can be read from it. A zero or negative amount, a
missing identifier and a repeated reference are warnings.
-/

namespace ProcureFoundation.Ingestion

open Outcome Text

structure TransactionRow where
  supplierSku : Option String
  description : Option String
  transactionDate : Option String
  amount : Option String
  quantity : Option String
  reference : Option String
deriving DecidableEq

inductive TransactionField where
  | transactionDate
  | amount
  | supplierSku
  | reference
deriving DecidableEq

inductive TransactionMessage where
  | missingDate
  | malformedDate (raw : String)
  | missingAmount
  | malformedAmount (raw : String)
  | zeroAmount
  | negativeAmount
  | missingIdentifier
  | possibleDuplicate (firstSeen : ℕ)
deriving DecidableEq

structure TransactionIssue where
  rowNumber : ℕ
  field : TransactionField
  severity : IssueSeverity
  message : TransactionMessage
deriving DecidableEq

structure ValidatedTransaction where
  rowNumber : ℕ
  isValid : Bool
  issues : List TransactionIssue
deriving DecidableEq

def parseDate (raw : Option String) : Option Date :=
  if isBlank raw then none else Date.fromIsoFormat ((stripChars (raw.getD "").toList).take 10)

def parseAmount (raw : Option String) : Option Decimal :=
  if isBlank raw then none else Decimal.ofString (cleanPrice (raw.getD ""))

def dateIssues (rowNumber : ℕ) (raw : Option String) : List TransactionIssue :=
  if isBlank raw then [⟨rowNumber, .transactionDate, .error, .missingDate⟩]
  else if (parseDate raw).isNone then
    [⟨rowNumber, .transactionDate, .error, .malformedDate (raw.getD "")⟩]
  else []

/-- An amount that has been read is compared with zero, which raises for a NaN. -/
def amountIssues (rowNumber : ℕ) (raw : Option String) : Except String (List TransactionIssue) :=
  if isBlank raw then .ok [⟨rowNumber, .amount, .error, .missingAmount⟩]
  else
    match parseAmount raw with
    | none => .ok [⟨rowNumber, .amount, .error, .malformedAmount (raw.getD "")⟩]
    | some amount => do
      let negative ← amount.isNegative
      let zeroIssues := if amount.isZero then [⟨rowNumber, .amount, .warning, .zeroAmount⟩] else []
      let negativeIssues :=
        if negative then [⟨rowNumber, .amount, .warning, .negativeAmount⟩] else []
      return zeroIssues ++ negativeIssues

def identifierIssues (rowNumber : ℕ) (row : TransactionRow) : List TransactionIssue :=
  if row.supplierSku.getD "" = "" ∧ row.description.getD "" = "" then
    [⟨rowNumber, .supplierSku, .warning, .missingIdentifier⟩]
  else []

/-- What a repeated row is told by: its reference, amount and date as they were read. -/
def dupeKey (row : TransactionRow) : Option String × Option String × Option String :=
  (row.reference, row.amount, row.transactionDate)

abbrev SeenDupes := List ((Option String × Option String × Option String) × ℕ)

def referenceIssues (rowNumber : ℕ) (seenDupes : SeenDupes) (row : TransactionRow) :
    List TransactionIssue :=
  match seenDupes.lookup (dupeKey row) with
  | some firstSeen =>
    if row.reference.getD "" = "" then []
      else [⟨rowNumber, .reference, .warning, .possibleDuplicate firstSeen⟩]
  | none => []

def rememberDupe (seenDupes : SeenDupes) (rowNumber : ℕ) (row : TransactionRow) : SeenDupes :=
  if row.reference.getD "" = "" ∨ (seenDupes.lookup (dupeKey row)).isSome then seenDupes
  else (dupeKey row, rowNumber) :: seenDupes

def validateTransactionRow (rowNumber : ℕ) (seenDupes : SeenDupes) (row : TransactionRow) :
    Except String ValidatedTransaction := do
  let amountIssues ← amountIssues rowNumber row.amount
  let issues :=
    dateIssues rowNumber row.transactionDate ++ amountIssues ++ identifierIssues rowNumber row ++
      referenceIssues rowNumber seenDupes row
  return { rowNumber, isValid := issues.all fun issue => issue.severity != .error, issues }

def validateTransactionsFrom (rowNumber : ℕ) (seenDupes : SeenDupes) :
    List TransactionRow → Except String (List ValidatedTransaction)
  | [] => .ok []
  | row :: rows => do
    let validated ← validateTransactionRow rowNumber seenDupes row
    let rest ← validateTransactionsFrom (rowNumber + 1) (rememberDupe seenDupes rowNumber row) rows
    return validated :: rest

def validatePurchaseTransactionRows (rows : List TransactionRow) :
    Except String (List ValidatedTransaction) :=
  validateTransactionsFrom 1 [] rows

def validTransactionRows (rows : List TransactionRow) (validated : List ValidatedTransaction) :
    List TransactionRow :=
  ((rows.zip validated).filter fun pair => pair.2.isValid).map Prod.fst

def Sound (row : TransactionRow) : Prop :=
  (parseDate row.transactionDate).isSome = true ∧ (parseAmount row.amount).isSome = true

instance (row : TransactionRow) : Decidable (Sound row) := inferInstanceAs (Decidable (_ ∧ _))

/-- The amount, if one is read, is a number. -/
def Comparable (row : TransactionRow) : Prop :=
  ((parseAmount row.amount).all fun amount => !amount.isNan) = true

instance (row : TransactionRow) : Decidable (Comparable row) := inferInstanceAs (Decidable (_ = _))

variable {rowNumber : ℕ} {seenDupes : SeenDupes} {row : TransactionRow} {rows : List TransactionRow}
  {validated : ValidatedTransaction} {validatedRows : List ValidatedTransaction}

theorem noErrors_append {first second : List TransactionIssue} :
    ((first ++ second).all fun issue => issue.severity != .error) =
      ((first.all fun issue => issue.severity != .error) && second.all fun issue =>
        issue.severity != .error) :=
  List.all_append

theorem noErrors_dateIssues (raw : Option String) :
    ((dateIssues rowNumber raw).all fun issue => issue.severity != .error) =
      (parseDate raw).isSome := by
  unfold dateIssues
  split
  · rename_i hBlank
    rw [parseDate, if_pos hBlank]
    rfl
  · cases parseDate raw with
    | none => rfl
    | some date => rfl

theorem noErrors_identifierIssues :
    ((identifierIssues rowNumber row).all fun issue => issue.severity != .error) = true := by
  unfold identifierIssues
  split
  · rfl
  · rfl

theorem noErrors_referenceIssues :
    ((referenceIssues rowNumber seenDupes row).all fun issue => issue.severity != .error) =
      true := by
  unfold referenceIssues
  split
  · split
    · rfl
    · rfl
  · rfl

theorem amountIssues_ok_iff {raw : Option String} :
    (∃ issues, amountIssues rowNumber raw = .ok issues) ↔
      ((parseAmount raw).all fun amount => !amount.isNan) = true := by
  unfold amountIssues
  split
  · rename_i hBlank
    rw [parseAmount, if_pos hBlank]
    exact iff_of_true ⟨_, rfl⟩ rfl
  · cases parseAmount raw with
    | none => exact iff_of_true ⟨_, rfl⟩ rfl
    | some amount =>
      cases amount with
      | finite negative coefficient exponent => exact iff_of_true ⟨_, rfl⟩ rfl
      | infinity negative => exact iff_of_true ⟨_, rfl⟩ rfl
      | nan signaling negative payload =>
        refine iff_of_false ?_ Bool.false_ne_true
        rintro ⟨issues, h⟩
        exact nomatch h

theorem noErrors_amountIssues {raw : Option String} {issues : List TransactionIssue}
    (h : amountIssues rowNumber raw = .ok issues) :
    (issues.all fun issue => issue.severity != .error) = (parseAmount raw).isSome := by
  unfold amountIssues at h
  split at h
  · rename_i hBlank
    obtain rfl := Except.ok.inj h
    rw [parseAmount, if_pos hBlank]
    rfl
  · cases hAmount : parseAmount raw with
    | none =>
      rw [hAmount] at h
      obtain rfl := Except.ok.inj h
      rfl
    | some amount =>
      rw [hAmount] at h
      obtain ⟨negative, -, hIssues⟩ := exists_of_bind_eq_ok h
      obtain rfl := Except.ok.inj hIssues
      rw [noErrors_append]
      cases amount.isZero with
      | false => cases negative <;> rfl
      | true => cases negative <;> rfl

theorem validateTransactionRow_ok (h : validateTransactionRow rowNumber seenDupes row = .ok validated) :
    validated.isValid = decide (Sound row) := by
  obtain ⟨issues, hIssues, hValidated⟩ := exists_of_bind_eq_ok h
  obtain rfl := Except.ok.inj hValidated
  dsimp only
  rw [noErrors_append, noErrors_append, noErrors_append, noErrors_dateIssues,
    noErrors_amountIssues hIssues,
    noErrors_identifierIssues, noErrors_referenceIssues, Bool.and_true, Bool.and_true]
  rw [Bool.eq_iff_iff, Bool.and_eq_true, decide_eq_true_iff]
  rfl

theorem validateTransactionRow_ok_iff :
    (∃ validated, validateTransactionRow rowNumber seenDupes row = .ok validated) ↔
      Comparable row := by
  unfold Comparable
  rw [← @amountIssues_ok_iff rowNumber]
  constructor
  · rintro ⟨validated, h⟩
    obtain ⟨issues, hIssues, -⟩ := exists_of_bind_eq_ok h
    exact ⟨issues, hIssues⟩
  · rintro ⟨issues, hIssues⟩
    exact ⟨_, bind_of_eq_ok hIssues _⟩

theorem validateTransactionsFrom_cons :
    validateTransactionsFrom rowNumber seenDupes (row :: rows) = .ok validatedRows ↔
      ∃ validated rest, validateTransactionRow rowNumber seenDupes row = .ok validated ∧
        validateTransactionsFrom (rowNumber + 1) (rememberDupe seenDupes rowNumber row) rows =
          .ok rest ∧
        validatedRows = validated :: rest := by
  constructor
  · intro h
    obtain ⟨validated, hRow, hRows⟩ := exists_of_bind_eq_ok h
    obtain ⟨rest, hRest, hEq⟩ := exists_of_bind_eq_ok hRows
    exact ⟨validated, rest, hRow, hRest, (Except.ok.inj hEq).symm⟩
  · rintro ⟨validated, rest, hRow, hRest, rfl⟩
    rw [validateTransactionsFrom, bind_of_eq_ok hRow, bind_of_eq_ok hRest]
    rfl

theorem validateTransactionsFrom_ok_iff :
    (∃ validatedRows, validateTransactionsFrom rowNumber seenDupes rows = .ok validatedRows) ↔
      ∀ row ∈ rows, Comparable row := by
  induction rows generalizing rowNumber seenDupes with
  | nil => exact iff_of_true ⟨[], rfl⟩ fun row hRow => (List.not_mem_nil hRow).elim
  | cons row rows ih =>
    rw [List.forall_mem_cons, ← @validateTransactionRow_ok_iff rowNumber seenDupes,
      ← @ih (rowNumber + 1) (rememberDupe seenDupes rowNumber row)]
    constructor
    · rintro ⟨validatedRows, h⟩
      obtain ⟨validated, rest, hRow, hRest, -⟩ := validateTransactionsFrom_cons.mp h
      exact ⟨⟨validated, hRow⟩, rest, hRest⟩
    · rintro ⟨⟨validated, hRow⟩, rest, hRest⟩
      exact ⟨_, validateTransactionsFrom_cons.mpr ⟨validated, rest, hRow, hRest, rfl⟩⟩

/-- The rows that are passed on are those with a date and an amount. -/
theorem validTransactionRows_eq
    (h : validateTransactionsFrom rowNumber seenDupes rows = .ok validatedRows) :
    validTransactionRows rows validatedRows = rows.filter fun row => decide (Sound row) := by
  induction rows generalizing rowNumber seenDupes validatedRows with
  | nil => rfl
  | cons row rows ih =>
    obtain ⟨validated, rest, hRow, hRest, rfl⟩ := validateTransactionsFrom_cons.mp h
    rw [validTransactionRows, List.zip_cons_cons, List.filter_cons, List.filter_cons,
      validateTransactionRow_ok hRow, ← ih hRest]
    split
    · rfl
    · rfl

end ProcureFoundation.Ingestion
