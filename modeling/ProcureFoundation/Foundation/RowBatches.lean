import ProcureFoundation.Foundation.Outcomes

/-!
# Batches of rows

Rows are checked one after another, each with its number and with what the earlier rows have left
behind. What is left behind may be the number at which each key was first seen.
-/

namespace ProcureFoundation.RowBatches

open Outcome

variable {ε σ Row Result κ : Type}

def checkFrom (check : ℕ → σ → Row → Except ε Result) (remember : ℕ → σ → Row → σ) :
    ℕ → σ → List Row → Except ε (List Result)
  | _, _, [] => .ok []
  | number, state, row :: rows => do
    let result ← check number state row
    let results ← checkFrom check remember (number + 1) (remember number state row) rows
    return result :: results

def stateAfter (remember : ℕ → σ → Row → σ) : ℕ → σ → List Row → σ
  | _, state, [] => state
  | number, state, row :: rows => stateAfter remember (number + 1) (remember number state row) rows

section Runs

variable {check : ℕ → σ → Row → Except ε Result} {remember : ℕ → σ → Row → σ} {number : ℕ}
  {state : σ} {rows : List Row} {results : List Result}

theorem checkFrom_cons {row : Row} :
    checkFrom check remember number state (row :: rows) = .ok results ↔
    ∃ result rest, check number state row = .ok result ∧
      checkFrom check remember (number + 1) (remember number state row) rows = .ok rest ∧
        results = result :: rest := by
  constructor
  · intro h
    obtain ⟨result, hResult, h⟩ := exists_of_bind_eq_ok h
    obtain ⟨rest, hRest, h⟩ := exists_of_bind_eq_ok h
    exact ⟨result, rest, hResult, hRest, (Except.ok.inj h).symm⟩
  · rintro ⟨result, rest, hResult, hRest, rfl⟩
    rw [checkFrom, bind_of_eq_ok hResult, bind_of_eq_ok hRest]
    rfl

theorem length_of_checkFrom (h : checkFrom check remember number state rows = .ok results) :
    results.length = rows.length := by
  induction rows generalizing number state results with
  | nil =>
    obtain rfl := Except.ok.inj h
    rfl
  | cons row rows ih =>
    obtain ⟨result, rest, -, hRest, rfl⟩ := checkFrom_cons.mp h
    rw [List.length_cons, List.length_cons, ih hRest]

/-- A result is what its row gives in the state that the earlier rows have left. -/
theorem check_of_checkFrom (h : checkFrom check remember number state rows = .ok results) {i : ℕ}
    {row : Row} {result : Result} (hRow : rows[i]? = some row)
    (hResult : results[i]? = some result) :
    check (number + i) (stateAfter remember number state (rows.take i)) row = .ok result := by
  induction rows generalizing number state results i with
  | nil => exact nomatch hRow
  | cons first rows ih =>
    obtain ⟨firstResult, rest, hFirst, hRest, rfl⟩ := checkFrom_cons.mp h
    cases i with
    | zero =>
      obtain rfl := Option.some.inj hRow
      obtain rfl := Option.some.inj hResult
      exact hFirst
    | succ i =>
      rw [List.getElem?_cons_succ] at hRow hResult
      rw [List.take_succ_cons, stateAfter, Nat.add_comm i 1, ← Nat.add_assoc]
      exact ih hRest hRow hResult

theorem exists_checkFrom_iff :
    (∃ results, checkFrom check remember number state rows = .ok results) ↔
    ∀ i row, rows[i]? = some row →
      ∃ result, check (number + i) (stateAfter remember number state (rows.take i)) row =
        .ok result := by
  induction rows generalizing number state with
  | nil => exact iff_of_true ⟨[], rfl⟩ fun i row hRow => nomatch hRow
  | cons first rows ih =>
    constructor
    · rintro ⟨results, h⟩ i row hRow
      have hLength := length_of_checkFrom h
      have hBound : i < results.length := by
        rw [hLength]
        exact (List.getElem?_eq_some_iff.mp hRow).1
      exact ⟨results[i], check_of_checkFrom h hRow (List.getElem?_eq_getElem hBound)⟩
    · intro h
      obtain ⟨result, hResult⟩ := h 0 first rfl
      have hLater : ∀ i row, rows[i]? = some row → ∃ result, check (number + 1 + i)
          (stateAfter remember (number + 1) (remember number state first) (rows.take i)) row =
            .ok result := by
        intro i row hRow
        rw [Nat.add_assoc, Nat.add_comm 1 i]
        exact h (i + 1) row hRow
      obtain ⟨rest, hRest⟩ := ih.mpr hLater
      exact ⟨result :: rest, checkFrom_cons.mpr ⟨result, rest, hResult, hRest, rfl⟩⟩

end Runs

section Keys

variable [DecidableEq κ] {key : Row → Option κ} {k : κ} {number : ℕ} {seen : List (κ × ℕ)}
  {row : Row} {rows : List Row}

/-- Keep the number at which a key was first seen; a row without a key leaves no trace. -/
def note (key : Row → Option κ) (number : ℕ) (seen : List (κ × ℕ)) (row : Row) : List (κ × ℕ) :=
  match key row with
  | some k => if (seen.lookup k).isSome then seen else (k, number) :: seen
  | none => seen

theorem lookup_note : (note key number seen row).lookup k =
    (seen.lookup k).or (if key row = some k then some number else none) := by
  unfold note
  cases hKey : key row with
  | none => rw [if_neg (fun h => nomatch h), Option.or_none]
  | some other =>
    dsimp only
    by_cases hSame : other = k
    · subst hSame
      rw [if_pos rfl]
      cases hSeen : seen.lookup other with
      | none => simp
      | some first => simp [hSeen]
    · rw [if_neg (fun h => hSame (Option.some.inj h)), Option.or_none]
      split
      · rfl
      · rw [List.lookup_cons, beq_false_of_ne (Ne.symm hSame)]

/-- A key's number is that of the first row with it. -/
theorem lookup_stateAfter : (stateAfter (note key) number seen rows).lookup k =
    (seen.lookup k).or ((rows.findIdx? fun row => key row = some k).map (number + ·)) := by
  induction rows generalizing number seen with
  | nil =>
    rw [List.findIdx?_nil, Option.map_none, Option.or_none]
    rfl
  | cons row rows ih =>
    rw [stateAfter, ih, lookup_note, Option.or_assoc, List.findIdx?_cons]
    congr 1
    by_cases hKey : key row = some k
    · rw [if_pos hKey, if_pos (decide_eq_true hKey)]
      rfl
    · rw [if_neg hKey, if_neg (by rwa [decide_eq_true_iff]), Option.none_or, Option.map_map]
      congr 1
      funext i
      exact Nat.add_right_comm number 1 i

theorem isSome_lookup_iff : ((stateAfter (note key) number [] rows).lookup k).isSome ↔
    ∃ row ∈ rows, key row = some k := by
  rw [lookup_stateAfter, List.lookup_nil, Option.none_or, Option.isSome_map, List.findIdx?_isSome,
    List.any_eq_true]
  simp only [decide_eq_true_iff]

/-- Rows with numbers and nothing left behind. -/
theorem mapM_zipIdx (check : ℕ → Row → Except ε Result) :
    (rows.zipIdx number).mapM (fun pair => check pair.2 pair.1) =
    checkFrom (fun number _ row => check number row)
    (note fun _ => (none : Option κ)) number [] rows := by
  suffices ∀ seen, (rows.zipIdx number).mapM (fun pair => check pair.2 pair.1) =
      checkFrom (fun number _ row => check number row) (note fun _ => (none : Option κ)) number seen
        rows from this []
  intro seen
  induction rows generalizing number seen with
  | nil => rfl
  | cons row rows ih =>
    rw [List.zipIdx_cons, List.mapM_cons, @ih (number + 1) seen]
    rfl

end Keys

end ProcureFoundation.RowBatches
