import ProcureFoundation.Ingestion.RowIssues

/-!
# Working-capital validation

One row describes a period. Receivables and payables may be negative, with a warning, and cash
without one; a negative inventory is an error. Revenue and cost of goods are read and not looked at
further.
-/

namespace ProcureFoundation.Ingestion

open Outcome Text

structure WorkingCapitalRow where
  asOfDate : Option String
  accountsReceivable : Option String
  accountsPayable : Option String
  inventoryValue : Option String
  cashBalance : Option String
  annualizedRevenue : Option String
  annualizedCogs : Option String
deriving DecidableEq

inductive WorkingCapitalField where
  | asOfDate
  | accountsReceivable
  | accountsPayable
  | inventoryValue
  | cashBalance
  | annualizedRevenue
  | annualizedCogs
deriving DecidableEq

inductive WorkingCapitalMessage where
  | missingDate
  | malformedDate (raw : String)
  | missing (label : String)
  | malformed (label raw : String)
  | negative (label : String) (amount : Decimal)
  | malformedCash (raw : String)
deriving DecidableEq

abbrev WorkingCapitalIssue := RowIssue WorkingCapitalField WorkingCapitalMessage

structure WorkingCapitalResult where
  isValid : Bool
  issues : List WorkingCapitalIssue
deriving DecidableEq

def requiredAmountIssues (field : WorkingCapitalField) (label : String) (raw : Option String) :
    List WorkingCapitalIssue :=
  requiredNumberIssues cleanPrice 1 field (.missing label) (.malformed label) raw

def negativeAmountIssues (field : WorkingCapitalField) (severity : IssueSeverity) (label : String)
    (raw : Option String) : Except String (List WorkingCapitalIssue) :=
  signIssues 1 field severity (.negative label) (parseNumber cleanPrice raw)

def cashIssues (raw : Option String) : List WorkingCapitalIssue :=
  if isBlank raw then []
  else if (parseNumber cleanPrice raw).isNone then
    [⟨1, .cashBalance, .warning, .malformedCash (raw.getD "")⟩]
  else []

def workingCapitalChecks (row : WorkingCapitalRow) :
    List (Check WorkingCapitalField WorkingCapitalMessage) :=
  [.ok (requiredDateIssues 1 .asOfDate .missingDate .malformedDate row.asOfDate),
    .ok (requiredAmountIssues .accountsReceivable "accounts receivable" row.accountsReceivable),
    negativeAmountIssues .accountsReceivable .warning "accounts receivable" row.accountsReceivable,
    .ok (requiredAmountIssues .accountsPayable "accounts payable" row.accountsPayable),
    negativeAmountIssues .accountsPayable .warning "accounts payable" row.accountsPayable,
    .ok (requiredAmountIssues .inventoryValue "inventory value" row.inventoryValue),
    negativeAmountIssues .inventoryValue .error "inventory value" row.inventoryValue,
    .ok (cashIssues row.cashBalance),
    .ok (requiredAmountIssues .annualizedRevenue "annualized revenue" row.annualizedRevenue),
    .ok (requiredAmountIssues .annualizedCogs "annualized COGS" row.annualizedCogs)]

def validateWorkingCapitalRow (row : WorkingCapitalRow) : Except String WorkingCapitalResult := do
  let issues ← collect (workingCapitalChecks row)
  return { isValid := errorFree issues, issues }

def WorkingCapitalRow.required (row : WorkingCapitalRow) : List (Option Decimal) :=
  [row.accountsReceivable, row.accountsPayable, row.inventoryValue, row.annualizedRevenue,
    row.annualizedCogs].map
    (parseNumber cleanPrice)

/-- The amounts that are compared with zero. -/
def WorkingCapitalRow.compared (row : WorkingCapitalRow) : List (Option Decimal) :=
  [row.accountsReceivable, row.accountsPayable, row.inventoryValue].map (parseNumber cleanPrice)

/-- There is one row, and it stands by itself. -/
def workingCapitalReading : Reading WorkingCapitalRow WorkingCapitalResult Empty where
  required := WorkingCapitalRow.required
  key _ := none
  rowNumber _ := 1
  isValid := WorkingCapitalResult.isValid
  apart := id

structure WorkingCapitalSettled (row : WorkingCapitalRow) : Prop where
  comparable : ∀ amount, some amount ∈ row.compared → amount.isNan = false
  finite : (∀ number ∈ row.required, IsFinite number) ∨ parseDate row.asOfDate = none ∨
    none ∈ row.required ∨
    ∃ inventory, parseNumber cleanPrice row.inventoryValue = some inventory ∧
      inventory.isNegative = .ok true

variable {row : WorkingCapitalRow}

theorem exists_workingCapitalChecks_iff :
    (∀ check ∈ workingCapitalChecks row, ∃ issues, check = .ok issues) ↔
    ∀ amount, some amount ∈ row.compared → amount.isNan = false := by
  have hOk : ∀ issues : List WorkingCapitalIssue,
      ∃ found, (.ok issues : Check WorkingCapitalField WorkingCapitalMessage) = .ok found :=
    fun issues => ⟨issues, rfl⟩
  simp only [workingCapitalChecks, List.forall_mem_cons, hOk, negativeAmountIssues,
    exists_signIssues_iff, true_and]
  constructor
  · rintro ⟨hReceivable, hPayable, hInventory, -⟩ amount hMem
    simp only [WorkingCapitalRow.compared, List.map_cons, List.map_nil, List.mem_cons,
      List.not_mem_nil, or_false] at hMem
    obtain hRead | hRead | hRead := hMem
    · exact hReceivable amount hRead.symm
    · exact hPayable amount hRead.symm
    · exact hInventory amount hRead.symm
  · intro h
    refine ⟨fun amount hRead => h amount ?_, fun amount hRead => h amount ?_, fun amount hRead =>
      h amount ?_, fun check hCheck => (List.not_mem_nil hCheck).elim⟩
    · rw [← hRead]
      exact List.mem_cons_self
    · rw [← hRead]
      exact List.mem_cons_of_mem _ List.mem_cons_self
    · rw [← hRead]
      exact List.mem_cons_of_mem _ (List.mem_cons_of_mem _ List.mem_cons_self)

theorem none_notMem_iff {numbers : List (Option Decimal)} : none ∉ numbers ↔
    ∀ number ∈ numbers, number.isSome := by
  constructor
  · intro h number hNumber
    rw [Option.isSome_iff_ne_none]
    rintro rfl
    exact h hNumber
  · intro h hMem
    exact nomatch h none hMem

theorem passes_workingCapitalChecks_iff
    (hReturns : ∀ check ∈ workingCapitalChecks row, ∃ issues, check = .ok issues) :
    (workingCapitalChecks row).all passes = true ↔ parseDate row.asOfDate ≠ none ∧
      none ∉ row.required ∧
      ∀ inventory, parseNumber cleanPrice row.inventoryValue = some inventory →
        inventory.isNegative = .ok false := by
  have hCash : errorFree (cashIssues row.cashBalance) = true := by
    unfold cashIssues
    split
    · rfl
    · split
      · rfl
      · rfl
  have hRequired : none ∉ row.required ↔ (parseNumber cleanPrice row.accountsReceivable).isSome ∧
      (parseNumber cleanPrice row.accountsPayable).isSome ∧
        (parseNumber cleanPrice row.inventoryValue).isSome ∧
        (parseNumber cleanPrice row.annualizedRevenue).isSome ∧
          (parseNumber cleanPrice row.annualizedCogs).isSome := by
    rw [none_notMem_iff]
    simp only [WorkingCapitalRow.required, List.map_cons, List.map_nil, List.forall_mem_cons]
    exact and_congr_right fun _ => and_congr_right fun _ => and_congr_right fun _ =>
      and_congr_right fun _ => and_iff_left fun number h => (List.not_mem_nil h).elim
  simp only [workingCapitalChecks, List.forall_mem_cons] at hReturns
  obtain ⟨-, -, hReceivable, -, hPayable, -⟩ := hReturns
  rw [hRequired]
  simp only [workingCapitalChecks, List.all_cons, List.all_nil, Bool.and_eq_true, Bool.and_true,
    passes_ok, hCash,
    requiredAmountIssues, errorFree_requiredNumberIssues, errorFree_requiredDateIssues]
  simp only [negativeAmountIssues] at hReceivable hPayable ⊢
  simp only [onlyWarns_signIssues.passes_iff, hReceivable, hPayable, passes_signIssues_iff,
    true_and]
  rw [Option.isSome_iff_ne_none]
  constructor
  · rintro ⟨hDate, hAr, hAp, hInventory, hSign, hRevenue, hCogs⟩
    exact ⟨hDate, ⟨hAr, hAp, hInventory, hRevenue, hCogs⟩, hSign⟩
  · rintro ⟨hDate, ⟨hAr, hAp, hInventory, hRevenue, hCogs⟩, hSign⟩
    exact ⟨hDate, hAr, hAp, hInventory, hSign, hRevenue, hCogs⟩

theorem settles_workingCapital_iff :
    Settles workingCapitalReading row (validateWorkingCapitalRow row) ↔
    WorkingCapitalSettled row := by
  have hSettles : Settles workingCapitalReading row (validateWorkingCapitalRow row) ↔
      (∀ check ∈ workingCapitalChecks row, ∃ issues, check = .ok issues) ∧
        ((∃ number ∈ row.required, ¬IsFinite number) →
          (workingCapitalChecks row).all passes = false) :=
    settles_collect_iff fun _ => rfl
  rw [hSettles]
  constructor
  · rintro ⟨hReturns, hInvalid⟩
    have hComparable := exists_workingCapitalChecks_iff.mp hReturns
    refine ⟨hComparable, ?_⟩
    by_contra hNone
    rw [not_or, not_or, not_or] at hNone
    obtain ⟨hNotFinite, hDate, hRead, hNegative⟩ := hNone
    have hSign : ∀ inventory, parseNumber cleanPrice row.inventoryValue = some inventory →
        inventory.isNegative = .ok false := by
      intro inventory hInventory
      have hNumber := hComparable inventory (by
        rw [← hInventory]
        exact List.mem_cons_of_mem _ (List.mem_cons_of_mem _ List.mem_cons_self))
      obtain ⟨negative, hSign⟩ := exists_isNegative hNumber
      cases negative with
      | false => exact hSign
      | true => exact absurd ⟨inventory, hInventory, hSign⟩ hNegative
    have hPasses := (passes_workingCapitalChecks_iff hReturns).mpr ⟨hDate, hRead, hSign⟩
    push Not at hNotFinite
    exact Bool.false_ne_true ((hInvalid hNotFinite).symm.trans hPasses)
  · intro hSettled
    have hReturns := exists_workingCapitalChecks_iff.mpr hSettled.comparable
    refine ⟨hReturns, ?_⟩
    rintro ⟨number, hMem, hNotFinite⟩
    rw [Bool.eq_false_iff]
    intro hPasses
    obtain ⟨hDate, hRead, hSign⟩ := (passes_workingCapitalChecks_iff hReturns).mp hPasses
    obtain hFinite | hNone | hNone | ⟨inventory, hInventory, hNegative⟩ := hSettled.finite
    · exact hNotFinite (hFinite number hMem)
    · exact hDate hNone
    · exact hRead hNone
    · rw [hSign inventory hInventory] at hNegative
      exact nomatch Except.ok.inj hNegative

end ProcureFoundation.Ingestion
