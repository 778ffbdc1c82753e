import ProcureFoundation.Ingestion.BatchReports
import ProcureFoundation.Ingestion.PurchaseTransactionValidation

/-!
# Issues of a row

What the validators of inventory and working-capital rows share: the checks of a row are made one
after another, each raising or finding issues, and the row is valid when none of the issues is an
error.
-/

namespace ProcureFoundation.Ingestion

open Outcome RowBatches Text

structure RowIssue (Field Message : Type) where
  rowNumber : ℕ
  field : Field
  severity : IssueSeverity
  message : Message
deriving DecidableEq

/-- What a validator says of a row, with the values it hands on. -/
structure CheckedRow (Field Message Parsed : Type) where
  rowNumber : ℕ
  isValid : Bool
  issues : List (RowIssue Field Message)
  parsed : Parsed
deriving DecidableEq

variable {Field Message Parsed Row α : Type}

abbrev Check (Field Message : Type) := Except String (List (RowIssue Field Message))

def errorFree (issues : List (RowIssue Field Message)) : Bool :=
  issues.all fun issue => issue.severity != .error

def collect : List (Check Field Message) → Except String (List (RowIssue Field Message))
  | [] => .ok []
  | check :: checks => do
    let found ← check
    let rest ← collect checks
    return found ++ rest

def checkRow (checks : ℕ → Row → List (Check Field Message)) (parsed : Row → Parsed) (rowNumber : ℕ)
    (row : Row) : Except String (CheckedRow Field Message Parsed) := do
  let issues ← collect (checks rowNumber row)
  return { rowNumber, isValid := errorFree issues, issues, parsed := parsed row }

def readDecimal (text : String) : Except String Decimal :=
  match Decimal.ofString text with
  | some number => .ok number
  | none => .error "InvalidOperation"

/-- A block with an answer to invalid operations; its other errors are raised. -/
def answering (answer : α) (block : Except String α) : Except String α :=
  match block with
  | .ok value => .ok value
  | .error e => if e = "InvalidOperation" then .ok answer else .error e

/-- The number that is read from a cell, if one is written in it. -/
def parseNumber (clean : String → String) (raw : Option String) : Option Decimal :=
  if isBlank raw then none else Decimal.ofString (clean (raw.getD ""))

def requiredDateIssues (rowNumber : ℕ) (field : Field) (missing : Message)
    (malformed : String → Message) (raw : Option String) : List (RowIssue Field Message) :=
  if isBlank raw then [⟨rowNumber, field, .error, missing⟩]
  else if (parseDate raw).isNone then [⟨rowNumber, field, .error, malformed (raw.getD "")⟩]
  else []

def requiredNumberIssues (clean : String → String) (rowNumber : ℕ) (field : Field)
    (missing : Message) (malformed : String → Message) (raw : Option String) :
    List (RowIssue Field Message) :=
  if isBlank raw then [⟨rowNumber, field, .error, missing⟩]
  else if (parseNumber clean raw).isNone then [⟨rowNumber, field, .error, malformed (raw.getD "")⟩]
  else []

/-- The issue of a negative number; comparing a NaN raises. -/
def signIssues (rowNumber : ℕ) (field : Field) (severity : IssueSeverity)
    (message : Decimal → Message) (number : Option Decimal) :
    Except String (List (RowIssue Field Message)) :=
  match number with
  | none => .ok []
  | some number => do
    if ← number.isNegative then return [⟨rowNumber, field, severity, message number⟩] else return []

/-- Whether a check returns without an error. -/
def passes (check : Check Field Message) : Bool := check.toOption.any errorFree

def RowIssue.apart (issue : RowIssue Field Message) : RowIssue Field Message :=
  { issue with rowNumber := 0 }

def CheckedRow.apart (row : CheckedRow Field Message Parsed) : CheckedRow Field Message Parsed :=
  { row with rowNumber := 0, issues := row.issues.map RowIssue.apart }

/-- Checks that say the same, each at the place of its own row. -/
def SameApart (check other : Except String (List (RowIssue Field Message))) : Prop :=
  check.map (List.map RowIssue.apart) = other.map (List.map RowIssue.apart)

def rowReading (required : Row → List (Option Decimal)) :
    Reading Row (CheckedRow Field Message Parsed) Empty where
  required := required
  key _ := none
  rowNumber := CheckedRow.rowNumber
  isValid := CheckedRow.isValid
  apart := CheckedRow.apart

section Numbers

variable {text : String} {value : Decimal}

theorem readDecimal_of_eq (h : Decimal.ofString text = some value) :
    readDecimal text = .ok value := by
  rw [readDecimal, h]

theorem isNegative_eq_error {e : String} (h : value.isNegative = .error e) :
    e = "InvalidOperation" := by
  cases value with
  | finite negative coefficient exponent => exact nomatch h
  | infinity negative => exact nomatch h
  | nan signaling negative payload => exact (Except.error.inj h).symm

theorem exists_isNegative (h : value.isNan = false) :
    ∃ negative, value.isNegative = .ok negative := by
  cases value with
  | finite negative coefficient exponent => exact ⟨_, rfl⟩
  | infinity negative => exact ⟨_, rfl⟩
  | nan signaling negative payload => exact nomatch h

theorem finite_or_infinity (h : value.isNegative = .ok false) :
    IsFinite (some value) ∨ value = .infinity false := by
  cases value with
  | finite negative coefficient exponent => exact .inl ⟨negative, coefficient, exponent, rfl⟩
  | infinity negative =>
    obtain rfl := Except.ok.inj h
    exact .inr rfl
  | nan signaling negative payload => exact nomatch h

theorem not_isFinite_infinity (negative : Bool) : ¬IsFinite (some (.infinity negative)) := by
  rintro ⟨sign, coefficient, exponent, h⟩
  exact nomatch Option.some.inj h

end Numbers

section Collected

variable {check other : Check Field Message} {checks otherChecks : List (Check Field Message)}
  {issues otherIssues : List (RowIssue Field Message)}

theorem errorFree_append :
    errorFree (issues ++ otherIssues) = (errorFree issues && errorFree otherIssues) :=
  List.all_append

theorem collect_cons : collect (check :: checks) = .ok issues ↔
    ∃ found rest, check = .ok found ∧ collect checks = .ok rest ∧ issues = found ++ rest := by
  constructor
  · intro h
    obtain ⟨found, hFound, h⟩ := exists_of_bind_eq_ok h
    obtain ⟨rest, hRest, h⟩ := exists_of_bind_eq_ok h
    exact ⟨found, rest, hFound, hRest, (Except.ok.inj h).symm⟩
  · rintro ⟨found, rest, hFound, hRest, rfl⟩
    rw [collect, bind_of_eq_ok hFound, bind_of_eq_ok hRest]
    rfl

theorem exists_collect_iff : (∃ issues, collect checks = .ok issues) ↔
    ∀ check ∈ checks, ∃ issues, check = .ok issues := by
  induction checks with
  | nil => exact iff_of_true ⟨[], rfl⟩ fun check hCheck => (List.not_mem_nil hCheck).elim
  | cons check checks ih =>
    rw [List.forall_mem_cons, ← ih]
    constructor
    · rintro ⟨issues, h⟩
      obtain ⟨found, rest, hFound, hRest, -⟩ := collect_cons.mp h
      exact ⟨⟨found, hFound⟩, rest, hRest⟩
    · rintro ⟨⟨found, hFound⟩, rest, hRest⟩
      exact ⟨_, collect_cons.mpr ⟨found, rest, hFound, hRest, rfl⟩⟩

theorem errorFree_collect (h : collect checks = .ok issues) :
    errorFree issues = checks.all passes := by
  induction checks generalizing issues with
  | nil =>
    obtain rfl := Except.ok.inj h
    rfl
  | cons check checks ih =>
    obtain ⟨found, rest, rfl, hRest, rfl⟩ := collect_cons.mp h
    rw [errorFree_append, ih hRest, List.all_cons]
    rfl

/-- Checks that only warn. -/
def OnlyWarns (check : Except String (List (RowIssue Field Message))) : Prop :=
  ∀ issues, check = .ok issues → errorFree issues = true

theorem onlyWarns_ok (h : errorFree issues = true) : OnlyWarns (.ok issues) := by
  intro found hFound
  rwa [← Except.ok.inj hFound]

theorem OnlyWarns.bind {x : Except String α} {f : α → Except String (List (RowIssue Field Message))}
    (h : ∀ value, OnlyWarns (f value)) : OnlyWarns (x >>= f) := by
  intro issues hIssues
  obtain ⟨value, -, hValue⟩ := exists_of_bind_eq_ok hIssues
  exact h value issues hValue

theorem OnlyWarns.answering (hAnswer : errorFree otherIssues = true) (h : OnlyWarns check) :
    OnlyWarns (answering otherIssues check) := by
  intro issues hIssues
  cases check with
  | ok found => exact h issues hIssues
  | error e =>
    unfold Ingestion.answering at hIssues
    dsimp only at hIssues
    split at hIssues
    · rwa [← Except.ok.inj hIssues]
    · exact nomatch hIssues

theorem OnlyWarns.passes_iff (h : OnlyWarns check) : passes check = true ↔
    ∃ issues, check = .ok issues := by
  cases check with
  | error e => exact iff_of_false (fun hPasses => nomatch hPasses) fun ⟨issues, hIssues⟩ =>
    nomatch hIssues
  | ok issues => exact iff_of_true (h issues rfl) ⟨issues, rfl⟩

theorem SameApart.bind {x : Except String α}
    {f g : α → Except String (List (RowIssue Field Message))}
    (h : ∀ value, SameApart (f value) (g value)) : SameApart (x >>= f) (x >>= g) := by
  cases x with
  | error e => rfl
  | ok value => exact h value

theorem SameApart.answering (hAnswer : issues.map RowIssue.apart = otherIssues.map RowIssue.apart)
    (h : SameApart check other) : SameApart (answering issues check)
    (answering otherIssues other) := by
  cases check with
  | ok found =>
    cases other with
    | ok otherFound => exact h
    | error e => exact nomatch h
  | error e =>
    cases other with
    | ok otherFound => exact nomatch h
    | error otherError =>
      obtain rfl := Except.error.inj h
      unfold Ingestion.answering
      dsimp only
      split
      · exact congrArg Except.ok hAnswer
      · rfl

theorem passes_ok : passes (.ok issues) = errorFree issues := rfl

theorem exists_of_passes (h : passes check = true) :
    ∃ issues, check = .ok issues := by
  obtain ⟨issues, hIssues, -⟩ := exists_of_any h
  exact ⟨issues, hIssues⟩

theorem apart_collect (hSame : List.Forall₂ SameApart checks otherChecks)
    (h : collect checks = .ok issues) (hOther : collect otherChecks = .ok otherIssues) :
    issues.map RowIssue.apart = otherIssues.map RowIssue.apart := by
  induction hSame generalizing issues otherIssues with
  | nil =>
    obtain rfl := Except.ok.inj h
    obtain rfl := Except.ok.inj hOther
    rfl
  | cons hHead _ ih =>
    obtain ⟨found, rest, rfl, hRest, rfl⟩ := collect_cons.mp h
    obtain ⟨otherFound, otherRest, rfl, hOtherRest, rfl⟩ := collect_cons.mp hOther
    rw [List.map_append, List.map_append, ih hRest hOtherRest, Except.ok.inj hHead]

theorem errorFree_apart : errorFree (issues.map RowIssue.apart) = errorFree issues := List.all_map

theorem checksRow_checkRow {checks : ℕ → Row → List (Check Field Message)} {parsed : Row → Parsed}
    (required : Row → List (Option Decimal))
    (hSame : ∀ number otherNumber row,
      List.Forall₂ SameApart (checks number row) (checks otherNumber row)) :
    ChecksRow (rowReading required) fun number _ row => checkRow checks parsed number row := by
  constructor
  · intro number seen row result h
    obtain ⟨issues, -, rfl⟩ := bind_pure_eq_ok.mp h
    rfl
  · intro number otherNumber seen otherSeen row result other h hOther
    obtain ⟨issues, hIssues, rfl⟩ := bind_pure_eq_ok.mp h
    obtain ⟨otherIssues, hOtherIssues, rfl⟩ := bind_pure_eq_ok.mp hOther
    have hApart := apart_collect (hSame number otherNumber row) hIssues hOtherIssues
    have hValid : errorFree issues = errorFree otherIssues := by
      rw [← errorFree_apart, hApart, errorFree_apart]
    dsimp only [rowReading, CheckedRow.apart]
    rw [hApart, hValid]
  · intro number seen otherSeen row _
    rfl

/-- A report is settled by the checks from which it takes its validity. -/
theorem settles_collect_iff {Result κ : Type} {reading : Reading Row Result κ} {row : Row}
    {checks : List (Check Field Message)} {report : List (RowIssue Field Message) → Result}
    (hValid : ∀ issues, reading.isValid (report issues) = errorFree issues) :
    Settles reading row (collect checks >>= fun issues => pure (report issues)) ↔
      (∀ check ∈ checks, ∃ issues, check = .ok issues) ∧
        ((∃ number ∈ reading.required row, ¬IsFinite number) → checks.all passes = false) := by
  rw [← exists_collect_iff]
  constructor
  · rintro ⟨result, h, hInvalid⟩
    obtain ⟨issues, hIssues, rfl⟩ := bind_pure_eq_ok.mp h
    rw [← errorFree_collect hIssues, ← hValid]
    exact ⟨⟨issues, hIssues⟩, hInvalid⟩
  · rintro ⟨⟨issues, hIssues⟩, hInvalid⟩
    rw [← errorFree_collect hIssues, ← hValid] at hInvalid
    exact ⟨_, bind_pure_eq_ok.mpr ⟨issues, hIssues, rfl⟩, hInvalid⟩

theorem settles_checkRow_iff {checks : ℕ → Row → List (Check Field Message)} {parsed : Row → Parsed}
    {required : Row → List (Option Decimal)} {number : ℕ} {row : Row} :
    Settles (rowReading required) row (checkRow checks parsed number row) ↔
      (∀ check ∈ checks number row, ∃ issues, check = .ok issues) ∧
        ((∃ number ∈ required row, ¬IsFinite number) → (checks number row).all passes = false) :=
  settles_collect_iff fun _ => rfl

/-- A validator whose rows are checked alone is judged row by row. -/
theorem totalAndLocal_rows_iff {checks : ℕ → Row → List (Check Field Message)}
    {parsed : Row → Parsed} {required : Row → List (Option Decimal)} {settled : Row → Prop}
    {rows : List Row}
    (hSame : ∀ number otherNumber row,
      List.Forall₂ SameApart (checks number row) (checks otherNumber row))
    (hSettles : ∀ number row,
      Settles (rowReading required) row (checkRow checks parsed number row) ↔ settled row) :
    TotalAndLocal (rowReading required)
        (fun rows => (rows.zipIdx 1).mapM fun pair => checkRow checks parsed pair.2 pair.1) rows ↔
      ∀ row ∈ rows, settled row := by
  have hRuns :
    (fun rows : List Row => (rows.zipIdx 1).mapM fun pair => checkRow checks parsed pair.2 pair.1) =
      checkFrom (fun number _ row => checkRow checks parsed number row)
        (note fun _ => (none : Option Empty)) 1 [] :=
    funext fun rows => mapM_zipIdx (checkRow checks parsed)
  rw [hRuns]
  refine (totalAndLocal_iff (checksRow_checkRow required hSame)).trans ?_
  constructor
  · intro h row hRow
    obtain ⟨i, hi⟩ := List.mem_iff_getElem?.mp hRow
    exact (hSettles _ row).mp (h i row hi)
  · intro h i row hRow
    exact (hSettles _ row).mpr (h row (List.mem_of_getElem? hRow))

end Collected

section Blocks

variable {number other : ℕ} {field : Field} {missing : Message} {malformed : String → Message}
  {raw : Option String} {clean : String → String}

theorem errorFree_requiredDateIssues :
    errorFree (requiredDateIssues number field missing malformed raw) = (parseDate raw).isSome := by
  unfold requiredDateIssues
  split
  · rename_i hBlank
    rw [parseDate, if_pos hBlank]
    rfl
  · cases parseDate raw with
    | none => rfl
    | some date => rfl

theorem errorFree_requiredNumberIssues :
    errorFree (requiredNumberIssues clean number field missing malformed raw) =
      (parseNumber clean raw).isSome := by
  unfold requiredNumberIssues
  split
  · rename_i hBlank
    rw [parseNumber, if_pos hBlank]
    rfl
  · cases parseNumber clean raw with
    | none => rfl
    | some number => rfl

theorem sameApart_requiredDateIssues :
    SameApart (.ok (requiredDateIssues number field missing malformed raw))
    (.ok (requiredDateIssues other field missing malformed raw)) := by
  unfold requiredDateIssues
  split
  · rfl
  · split
    · rfl
    · rfl

theorem sameApart_requiredNumberIssues :
    SameApart (.ok (requiredNumberIssues clean number field missing malformed raw))
      (.ok (requiredNumberIssues clean other field missing malformed raw)) := by
  unfold requiredNumberIssues
  split
  · rfl
  · split
    · rfl
    · rfl

theorem exists_signIssues_iff {severity : IssueSeverity} {message : Decimal → Message}
    {value : Option Decimal} :
    (∃ issues, signIssues number field severity message value = .ok issues) ↔
      ∀ written, value = some written → written.isNan = false := by
  cases value with
  | none => exact iff_of_true ⟨[], rfl⟩ fun written h => nomatch h
  | some value =>
    have hReturns : (∃ issues, signIssues number field severity message (some value) = .ok issues) ↔
        value.isNan = false := by
      unfold signIssues
      dsimp only
      cases hNan : value.isNan with
      | true =>
        refine iff_of_false ?_ (Bool.noConfusion ·)
        cases value with
        | finite negative coefficient exponent => exact nomatch hNan
        | infinity negative => exact nomatch hNan
        | nan signaling negative payload => exact fun ⟨issues, h⟩ => nomatch h
      | false =>
        obtain ⟨negative, hSign⟩ := exists_isNegative hNan
        refine iff_of_true ?_ rfl
        rw [bind_of_eq_ok hSign]
        cases negative with
        | true => exact ⟨_, rfl⟩
        | false => exact ⟨_, rfl⟩
    rw [hReturns]
    constructor
    · rintro h _ ⟨⟩
      exact h
    · intro h
      exact h value rfl

theorem passes_signIssues_iff {message : Decimal → Message} {value : Option Decimal} :
    passes (signIssues number field .error message value) = true ↔
      ∀ written, value = some written → written.isNegative = .ok false := by
  cases value with
  | none => exact iff_of_true rfl fun written h => nomatch h
  | some value =>
    have hPasses : passes (signIssues number field .error message (some value)) = true ↔
        value.isNegative = .ok false := by
      unfold signIssues
      dsimp only
      cases value.isNegative with
      | error e => exact iff_of_false (fun h => nomatch h) fun h => nomatch h
      | ok negative =>
        cases negative with
        | true => exact iff_of_false (fun h => nomatch h) fun h => nomatch h
        | false => exact iff_of_true rfl rfl
    rw [hPasses]
    constructor
    · rintro h _ ⟨⟩
      exact h
    · intro h
      exact h value rfl

theorem onlyWarns_signIssues {message : Decimal → Message} {value : Option Decimal} :
    OnlyWarns (signIssues number field .warning message value) := by
  cases value with
  | none => exact onlyWarns_ok rfl
  | some value =>
    refine .bind fun negative => ?_
    split
    · exact onlyWarns_ok rfl
    · exact onlyWarns_ok rfl

theorem sameApart_signIssues {severity : IssueSeverity} {message : Decimal → Message}
    {value : Option Decimal} :
    SameApart (signIssues number field severity message value)
    (signIssues other field severity message value) := by
  cases value with
  | none => rfl
  | some value =>
    unfold signIssues
    dsimp only
    cases value.isNegative with
    | error e => rfl
    | ok negative =>
      cases negative with
      | false => rfl
      | true => rfl

end Blocks

end ProcureFoundation.Ingestion
