import Mathlib.Data.List.Perm.Basic
import Mathlib.Tactic.Common

/-!
# Snapshots under a key

Snapshots are never changed. A batch of new ones may point back at rows that it is meant to replace,
one row each for as long as there are such rows. Read by the rows that point at none, the replaced
rows stay and the rows that replace them do not appear.
-/

namespace ProcureFoundation

structure SnapshotRow (κ ν : Type) where
  id : ℕ
  key : κ
  values : ν
  correctsId : Option ℕ
deriving DecidableEq

namespace SnapshotRow

variable {κ ν : Type} [DecidableEq κ]

def active (rows : List (SnapshotRow κ ν)) (key : κ) : List (SnapshotRow κ ν) :=
  rows.filter fun row => decide (row.key = key) && row.correctsId.isNone

/-- New rows from an identifier on; each points at the next target until none is left. -/
def chain (key : κ) : ℕ → List ℕ → List ν → List (SnapshotRow κ ν)
  | _, _, [] => []
  | id, targets, values :: rest =>
    ⟨id, key, values, targets.head?⟩ :: chain key (id + 1) targets.tail rest

/-- A batch enters the table, and points at the active rows of its key when it is to replace them.
-/
def submit (rows : List (SnapshotRow κ ν)) (key : κ) (replacing : Bool) (batch : List ν) :
    List (SnapshotRow κ ν) :=
  rows ++ chain key (rows.length + 1) (if replacing then (active rows key).map SnapshotRow.id
    else []) batch

variable {rows more : List (SnapshotRow κ ν)} {key other : κ} {batch : List ν} {id : ℕ}
  {targets : List ℕ} {replacing : Bool}

theorem active_append : active (rows ++ more) key = active rows key ++ active more key :=
  List.filter_append ..

theorem active_chain_of_ne (h : key ≠ other) : active (chain key id targets batch) other = [] := by
  induction batch generalizing id targets with
  | nil => rfl
  | cons values batch ih =>
    rw [chain, active, List.filter_cons_of_neg (by simp [h]), ← active, ih]

/-- Of a batch those rows are active for which no target was left. -/
theorem values_active_chain :
    (active (chain key id targets batch) key).map SnapshotRow.values =
      batch.drop targets.length := by
  induction batch generalizing id targets with
  | nil => exact List.drop_nil.symm
  | cons values batch ih =>
    cases targets with
    | nil =>
      rw [chain, active, List.filter_cons_of_pos (by simp), ← active, List.map_cons, ih]
      rfl
    | cons target targets =>
      rw [chain, active, List.filter_cons_of_neg (by simp), ← active, ih]
      rfl

theorem active_submit_of_ne (h : key ≠ other) :
    active (submit rows key replacing batch) other = active rows other := by
  rw [submit, active_append, active_chain_of_ne h, List.append_nil]

theorem values_active_submit :
    (active (submit rows key replacing batch) key).map SnapshotRow.values =
    (active rows key).map SnapshotRow.values ++
      batch.drop (if replacing then (active rows key).length else 0) := by
  rw [submit, active_append, List.map_append, values_active_chain]
  cases replacing with
  | false => rfl
  | true => rw [if_pos rfl, if_pos rfl, List.length_map]

theorem append_drop_perm_iff {α : Type} {old new : List α} :
    (old ++ new.drop old.length).Perm new ↔ old.Perm (new.take old.length) := by
  have hSplit := List.take_append_drop old.length new
  constructor
  · intro h
    exact (List.perm_append_right_iff (new.drop old.length)).mp (h.trans (List.Perm.of_eq hSplit.symm))
  · intro h
    have hAppend := h.append_right (new.drop old.length)
    rwa [hSplit] at hAppend

/-- A batch that replaces rows is what is active afterwards exactly when its first rows repeat those
that it is meant to replace. -/
theorem submit_takes_effect_iff (h : replacing = false → active rows key = []) :
    ((active (submit rows key replacing batch) key).map SnapshotRow.values).Perm batch ↔
      (replacing = true →
        ((active rows key).map SnapshotRow.values).Perm (batch.take (active rows key).length)) := by
  rw [values_active_submit]
  cases replacing with
  | false =>
    rw [h rfl]
    exact iff_of_true (List.Perm.refl _) fun h => nomatch h
  | true =>
    have hIff := @append_drop_perm_iff _ ((active rows key).map SnapshotRow.values) batch
    rw [List.length_map] at hIff
    rw [if_pos rfl, hIff]
    exact ⟨fun hPerm _ => hPerm, fun hPerm => hPerm rfl⟩

/-- A batch of one row leaves at most one active row where there was at most one. -/
theorem length_active_submit_le {values : ν} (h : replacing = false → active rows key = [])
    (hOne : ∀ key, (active rows key).length ≤ 1) (other : κ) :
    (active (submit rows key replacing [values]) other).length ≤ 1 := by
  by_cases hKey : key = other
  · subst hKey
    have hLength := congrArg List.length (@values_active_submit κ ν _ rows key [values] replacing)
    rw [List.length_map, List.length_append, List.length_map, List.length_drop,
      List.length_singleton] at hLength
    cases replacing with
    | false => simp only [h rfl, List.length_nil, Bool.false_eq_true, if_false] at hLength; omega
    | true => have hBefore := hOne key; simp only [if_true] at hLength; omega
  · rw [active_submit_of_ne hKey]
    exact hOne other

end SnapshotRow

end ProcureFoundation
