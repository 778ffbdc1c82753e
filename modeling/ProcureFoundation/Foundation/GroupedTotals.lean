import ProcureFoundation.Foundation.KeyedFolds
import Mathlib.Algebra.BigOperators.Group.List.Basic
import Mathlib.Data.List.Nodup
import Mathlib.Data.List.Perm.Basic
import Mathlib.Tactic.Common

/-!
# Grouped totals

Rows with a key enter a list of totals one by one: the total of the key grows, or begins. The totals
have each key of the rows once, and together they are the sum of the rows, in whatever order rows
and totals stand.
-/

namespace ProcureFoundation

variable {α ι κ M : Type*} [DecidableEq ι] [DecidableEq κ] [AddCommMonoid M]

/-- Rows are told apart by distinct identifiers that cover them. -/
theorem flatMap_filter_perm (f : α → ι) {ids : List ι} (hNodup : ids.Nodup) {xs : List α}
    (hCovers : ∀ x ∈ xs, f x ∈ ids) :
    (ids.flatMap fun i => xs.filter fun x => f x = i).Perm xs := by
  induction ids generalizing xs with
  | nil =>
    cases xs with
    | nil => exact List.Perm.refl _
    | cons x xs => exact nomatch hCovers x List.mem_cons_self
  | cons id ids ih =>
    obtain ⟨hFresh, hRest⟩ := List.nodup_cons.mp hNodup
    have hOthers := @ih hRest (xs.filter fun x => !decide (f x = id)) fun x hx => by
      obtain ⟨hMem, hNe⟩ := List.mem_filter.mp hx
      refine (List.mem_cons.mp (hCovers x hMem)).resolve_left fun hEq => ?_
      rw [decide_eq_true hEq] at hNe
      exact nomatch hNe
    have hSame :
      (ids.flatMap fun i => (xs.filter fun x => !decide (f x = id)).filter fun x => f x = i) =
        ids.flatMap fun i => xs.filter fun x => f x = i := by
      refine List.flatMap_congr fun i hi => ?_
      rw [List.filter_filter]
      refine List.filter_congr fun x _ => ?_
      by_cases hx : f x = i
      · have hNe : f x ≠ id := fun hEq => hFresh (hEq ▸ hx ▸ hi)
        simp [hx, hx ▸ hNe]
      · simp [hx]
    rw [hSame] at hOthers
    rw [List.flatMap_cons]
    exact (hOthers.append_left _).trans (List.filter_append_perm _ xs)

def addTotal (totals : List (κ × M)) (row : κ × M) : List (κ × M) :=
  if totals.any fun total => total.1 == row.1 then
    totals.map fun total => if total.1 = row.1 then (total.1, total.2 + row.2) else total
  else totals ++ [row]

def keySum (rows : List (κ × M)) (key : κ) : M :=
  ((rows.filter fun row => row.1 = key).map Prod.snd).sum

structure Groups (totals rows : List (κ × M)) : Prop where
  keys : (totals.map Prod.fst).Nodup
  covers : ∀ key, key ∈ totals.map Prod.fst ↔ key ∈ rows.map Prod.fst
  amounts : ∀ total ∈ totals, total.2 = keySum rows total.1

namespace Groups

variable {totals others rows more : List (κ × M)} {row : κ × M} {key : κ}

theorem keySum_append_self : keySum (rows ++ [row]) row.1 = keySum rows row.1 + row.2 := by
  change (rowsOf _ _).sum = (rowsOf _ _).sum + row.2
  rw [rowsOf_append_self, List.sum_append, List.sum_singleton]

theorem keySum_append_of_ne (h : row.1 ≠ key) : keySum (rows ++ [row]) key = keySum rows key :=
  congrArg List.sum (rowsOf_append_of_ne h)

theorem keySum_of_notMem (h : key ∉ rows.map Prod.fst) : keySum rows key = 0 := by
  change (rowsOf _ _).sum = 0
  rw [rowsOf_of_notMem h, List.sum_nil]

theorem nil : Groups ([] : List (κ × M)) [] where
  keys := List.nodup_nil
  covers _ := Iff.rfl
  amounts _ h := nomatch h

/-- The totals are folds by key that add to zero. -/
theorem iff_foldsByKey : Groups totals rows ↔ FoldsByKey (· + ·) 0 totals rows := by
  have hSum : ∀ key, (rowsOf rows key).foldl (· + ·) 0 = keySum rows key :=
    fun key => List.sum_eq_foldl.symm
  constructor
  · intro h
    exact ⟨h.keys, h.covers, fun total hTotal => (h.amounts total hTotal).trans (hSum total.1).symm⟩
  · intro h
    exact ⟨h.keys, h.covers, fun total hTotal => (h.values total hTotal).trans (hSum total.1)⟩

theorem addTotal_eq_upsert :
    ProcureFoundation.addTotal totals row = upsert (· + ·) 0 totals row := by
  rw [ProcureFoundation.addTotal, upsert, zero_add]

theorem addTotal (h : Groups totals rows) (row : κ × M) : Groups (addTotal totals row)
    (rows ++ [row]) := by
  rw [addTotal_eq_upsert, iff_foldsByKey]
  exact (iff_foldsByKey.mp h).upsert row

theorem foldl (h : Groups totals rows) (more : List (κ × M)) :
    Groups (more.foldl ProcureFoundation.addTotal totals) (rows ++ more) := by
  induction more generalizing totals rows with
  | nil => rwa [List.append_nil]
  | cons row more ih =>
    have hStep := ih (h.addTotal row)
    rwa [List.append_assoc, List.singleton_append] at hStep

theorem of_foldl (rows : List (κ × M)) :
    Groups (rows.foldl ProcureFoundation.addTotal []) rows := by
  have h := nil.foldl rows
  rwa [List.nil_append] at h

theorem perm (h : Groups totals rows) (hTotals : totals.Perm others) (hRows : rows.Perm more) :
    Groups others more where
  keys := (hTotals.map Prod.fst).nodup_iff.mp h.keys
  covers key := by
    rw [← (hTotals.map Prod.fst).mem_iff, h.covers, (hRows.map Prod.fst).mem_iff]
  amounts total hTotal := by
    rw [h.amounts total (hTotals.mem_iff.mpr hTotal)]
    exact ((hRows.filter _).map Prod.snd).sum_eq

theorem sum_eq (h : Groups totals rows) : (totals.map Prod.snd).sum = (rows.map Prod.snd).sum := by
  have hRows := flatMap_filter_perm Prod.fst h.keys fun row hRow =>
    (h.covers row.1).mpr (List.mem_map_of_mem hRow)
  have hAmounts : totals.map Prod.snd = (totals.map Prod.fst).map (keySum rows) := by
    rw [List.map_map]
    exact List.map_congr_left h.amounts
  rw [← (hRows.map Prod.snd).sum_eq, List.map_flatMap, List.flatMap_def, List.sum_flatten,
    List.map_map, hAmounts]
  rfl

end Groups

end ProcureFoundation
