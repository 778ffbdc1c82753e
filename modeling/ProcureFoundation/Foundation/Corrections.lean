import Mathlib.Data.List.Basic
import Mathlib.Tactic.Common

/-!
# Append-only rows and their corrections

A row is never changed: a correction is a later row that points back at the row it
replaces, and may itself be corrected. The rows that nothing supersedes are the live
ones. The rows that correct nothing are the originals, which are the opposite ends of
the chains; the two agree only where there are no chains.
-/

namespace ProcureFoundation.Corrections

variable {ρ : Type*} (id : ρ → ℕ) (corrects : ρ → Option ℕ)

def superseded (rows : List ρ) (row : ρ) : Bool :=
  rows.any fun other => corrects other == some (id row)

def live (rows : List ρ) : List ρ := rows.filter fun row => !superseded id corrects rows row

/-- A correction points at an earlier row, which the relation allows it to correct. -/
structure AppendOnly (allowed : ρ → ρ → Prop) (rows : List ρ) : Prop where
  ids : (rows.map id).Nodup
  earlier : ∀ row ∈ rows, ∀ target, corrects row = some target →
    ∃ old ∈ rows, id old = target ∧ id old < id row ∧ allowed old row

variable {id corrects} {rows : List ρ} {allowed : ρ → ρ → Prop}

theorem superseded_iff {row : ρ} :
    superseded id corrects rows row = true ↔ ∃ other ∈ rows, corrects other = some (id row) := by
  simp [superseded]

theorem live_eq_self (h : ∀ row ∈ rows, corrects row = none) : live id corrects rows = rows := by
  apply List.filter_eq_self.mpr
  intro row _
  rw [Bool.not_eq_true', ← Bool.not_eq_true, superseded_iff]
  rintro ⟨other, hOther, hCorrects⟩
  rw [h other hOther] at hCorrects
  cases hCorrects

/-- Were the originals the live rows, a superseded row would itself be a correction, and
its chain would lead back for ever. -/
theorem originals_are_live_iff (hRows : AppendOnly id corrects allowed rows) :
    (∀ row ∈ rows, (corrects row).isNone = !superseded id corrects rows row) ↔
      ∀ row ∈ rows, corrects row = none := by
  constructor
  · intro h
    have hNone : ∀ n, ∀ row ∈ rows, id row = n → superseded id corrects rows row = false := by
      intro n
      induction n using Nat.strongRecOn with
      | ind n ih =>
        intro row hRow hId
        cases hSuperseded : superseded id corrects rows row with
        | false => rfl
        | true =>
          have hSome := h row hRow
          rw [hSuperseded, Bool.not_true, Option.isNone_eq_false_iff] at hSome
          obtain ⟨target, hTarget⟩ := Option.isSome_iff_exists.mp hSome
          obtain ⟨old, hOld, rfl, hLt, -⟩ := hRows.earlier row hRow target hTarget
          have hNot := ih (id old) (hId ▸ hLt) old hOld rfl
          rw [superseded_iff.mpr ⟨row, hRow, hTarget⟩] at hNot
          cases hNot
    intro row hRow
    have hRoot := h row hRow
    rw [hNone (id row) row hRow rfl, Bool.not_false] at hRoot
    exact Option.isNone_iff_eq_none.mp hRoot
  · intro h row hRow
    have hLive : (!superseded id corrects rows row) = true :=
      List.filter_eq_self.mp (live_eq_self h) row hRow
    rw [h row hRow, hLive]
    rfl

end ProcureFoundation.Corrections
