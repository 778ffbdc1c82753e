import ProcureFoundation.Foundation.DecimalArithmetic
import ProcureFoundation.Foundation.RowBatches

/-!
# Reports on batches

What an uploader relies on: a report comes back for every row, a row whose numbers are not finite is
invalid, and a row is judged by itself, but for the repetition of its key.
-/

namespace ProcureFoundation.Ingestion

open RowBatches

variable {Row Result κ : Type}

def IsFinite (number : Option Decimal) : Prop :=
  ∃ negative coefficient exponent, number = some (.finite negative coefficient exponent)

/-- How rows and results are read: the numbers a row must have, the key whose repetition is
reported, and what a result says apart from its row's number and from a repetition. -/
structure Reading (Row Result κ : Type) where
  required : Row → List (Option Decimal)
  key : Row → Option κ
  rowNumber : Result → ℕ
  isValid : Result → Bool
  apart : Result → Result

def sharesKey [DecidableEq κ] (key : Row → Option κ) (row earlier : Row) : Bool :=
  (key row).isSome && decide (key earlier = key row)

structure Reports (reading : Reading Row Result κ) (rows : List Row) (results : List Result) :
    Prop where
  length : results.length = rows.length
  order : ∀ (i : ℕ) (result : Result), results[i]? = some result → reading.rowNumber result = i + 1
  invalid : ∀ (i : ℕ) (row : Row) (result : Result), rows[i]? = some row →
    results[i]? = some result →
    (∃ number ∈ reading.required row, ¬IsFinite number) → reading.isValid result = false

/-- Two batches that share a row agree on it. -/
structure AgreesWith [DecidableEq κ] (reading : Reading Row Result κ) (rows others : List Row)
    (results otherResults : List Result) : Prop where
  apart : ∀ (i j : ℕ) (row : Row) (result other : Result), rows[i]? = some row →
    others[j]? = some row →
    results[i]? = some result → otherResults[j]? = some other →
      reading.apart result = reading.apart other
  repeated : ∀ (i : ℕ) (row : Row) (result other : Result), rows[i]? = some row →
    others[i]? = some row → results[i]? = some result → otherResults[i]? = some other →
    (rows.take i).map (sharesKey reading.key row) =
      (others.take i).map (sharesKey reading.key row) → result = other

/-- A validator returns a report on the batch, the one its rows give in any other batch that it
reports on. -/
def TotalAndLocal [DecidableEq κ] (reading : Reading Row Result κ)
    (validate : List Row → Except String (List Result)) (rows : List Row) : Prop :=
  ∃ results, validate rows = .ok results ∧ Reports reading rows results ∧
    ∀ others otherResults, validate others = .ok otherResults →
      AgreesWith reading rows others results otherResults

/-- A check of a row reads of the earlier rows only where its key was first seen. -/
structure ChecksRow [DecidableEq κ] (reading : Reading Row Result κ)
    (check : ℕ → List (κ × ℕ) → Row → Except String Result) : Prop where
  rowNumber : ∀ {number : ℕ} {seen : List (κ × ℕ)} {row : Row} {result : Result},
    check number seen row = .ok result → reading.rowNumber result = number
  apart : ∀ {number otherNumber : ℕ} {seen otherSeen : List (κ × ℕ)} {row : Row} {result other : Result},
    check number seen row = .ok result → check otherNumber otherSeen row = .ok other →
      reading.apart result = reading.apart other
  lookup : ∀ {number : ℕ} {seen otherSeen : List (κ × ℕ)} {row : Row},
    (reading.key row).bind (List.lookup · seen) = (reading.key row).bind (List.lookup · otherSeen) →
      check number seen row = check number otherSeen row

/-- Where a row is checked, its result is invalid when one of its numbers is not finite. -/
def Settles (reading : Reading Row Result κ) (row : Row) (outcome : Except String Result) : Prop :=
  ∃ result, outcome = .ok result ∧
    ((∃ number ∈ reading.required row, ¬IsFinite number) → reading.isValid result = false)

variable [DecidableEq κ] {reading : Reading Row Result κ}
  {check : ℕ → List (κ × ℕ) → Row → Except String Result} {rows others : List Row}
  {results otherResults : List Result}

theorem findIdx?_eq_of_map_eq {p : Row → Bool} {earlier others : List Row}
    (h : earlier.map p = others.map p) : earlier.findIdx? p = others.findIdx? p := by
  have hFound := congrArg (List.findIdx? id) h
  rwa [List.findIdx?_map, List.findIdx?_map] at hFound

theorem agreesWith (hCheck : ChecksRow reading check)
    (h : checkFrom check (note reading.key) 1 [] rows = .ok results)
    (hOthers : checkFrom check (note reading.key) 1 [] others = .ok otherResults) :
    AgreesWith reading rows others results otherResults := by
  constructor
  · intro i j row result other hRow hOtherRow hResult hOther
    exact hCheck.apart (check_of_checkFrom h hRow hResult) (check_of_checkFrom hOthers hOtherRow hOther)
  · intro i row result other hRow hOtherRow hResult hOther hShares
    have hSame := check_of_checkFrom h hRow hResult
    rw [hCheck.lookup, check_of_checkFrom hOthers hOtherRow hOther] at hSame
    · exact (Except.ok.inj hSame).symm
    · cases hKey : reading.key row with
      | none => rfl
      | some k =>
        have hMap : ∀ earlier, sharesKey reading.key row earlier =
            decide (reading.key earlier = some k) := by
          intro earlier
          rw [sharesKey, hKey]
          rfl
        rw [funext hMap] at hShares
        rw [Option.bind_some, Option.bind_some, lookup_stateAfter, lookup_stateAfter,
          findIdx?_eq_of_map_eq hShares]

theorem totalAndLocal_iff (hCheck : ChecksRow reading check) :
    TotalAndLocal reading (checkFrom check (note reading.key) 1 []) rows ↔
      ∀ i row, (rows[i]? : Option Row) = some row →
      Settles reading row (check (1 + i) (stateAfter (note reading.key) 1 [] (rows.take i)) row) := by
  constructor
  · rintro ⟨results, h, hReports, -⟩ i row hRow
    have hBound : i < results.length := by
      rw [hReports.length]
      exact (List.getElem?_eq_some_iff.mp hRow).1
    have hResult := List.getElem?_eq_getElem hBound
    exact ⟨results[i], check_of_checkFrom h hRow hResult, hReports.invalid i row _ hRow hResult⟩
  · intro h
    obtain ⟨results, hResults⟩ := exists_checkFrom_iff.mpr fun i row hRow =>
      let ⟨result, hResult, _⟩ := h i row hRow
      ⟨result, hResult⟩
    refine ⟨results, hResults, ⟨length_of_checkFrom hResults, ?_, ?_⟩,
      fun others otherResults hOthers => agreesWith hCheck hResults hOthers⟩
    · intro i result hResult
      have hBound : i < rows.length := by
        rw [← length_of_checkFrom hResults]
        exact (List.getElem?_eq_some_iff.mp hResult).1
      rw [Nat.add_comm]
      exact hCheck.rowNumber (check_of_checkFrom hResults (List.getElem?_eq_getElem hBound) hResult)
    · intro i row result hRow hResult hNumbers
      obtain ⟨settled, hSettled, hInvalid⟩ := h i row hRow
      rw [check_of_checkFrom hResults hRow hResult] at hSettled
      obtain rfl := Except.ok.inj hSettled
      exact hInvalid hNumbers

end ProcureFoundation.Ingestion
