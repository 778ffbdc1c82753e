import ProcureFoundation.Foundation.Dictionaries
import ProcureFoundation.Foundation.FirstTouches
import ProcureFoundation.Foundation.GroupedTotals
import ProcureFoundation.Foundation.RunningTotals

/-!
# Totals by key in the context

A dictionary of totals takes rows in one by one, adding to the total of the key or to zero. Its keys
stand in the order in which they first came, and where no total on the way is rounded its values are
the sums of the keys.
-/

namespace ProcureFoundation

open Outcome

variable {κ ν : Type} [DecidableEq κ]

def addByKey (totals : List (κ × Number)) (row : κ × Number) :
    Except String (List (κ × Number)) := do
  let total ← ((totals.lookup row.1).getD (.finite 0)).add row.2
  return assign totals row.1 total

def finiteEntry (row : κ × ℚ) : κ × Number := (row.1, .finite row.2)

section Keys

variable {entries : List (κ × ν)} {totals result rows : List (κ × Number)} {key : κ} {value : ν}
  {touched : List κ}

theorem map_fst_assign_eq_touch :
    (assign entries key value).map Prod.fst = touch (entries.map Prod.fst) key := by
  unfold touch
  split
  · rename_i hMem
    exact map_fst_assign hMem
  · rename_i hNew
    rw [assign_of_notMem hNew, List.map_append]
    rfl

theorem firstTouches_addByKey {row : κ × Number} (h : FirstTouches (totals.map Prod.fst) touched)
    (hRow : addByKey totals row = .ok result) : FirstTouches (result.map Prod.fst)
    (touched ++ [row.1]) := by
  obtain ⟨total, -, rfl⟩ := bind_pure_eq_ok.mp hRow
  rw [map_fst_assign_eq_touch]
  exact h.touch row.1

theorem firstTouches_foldlM (h : FirstTouches (totals.map Prod.fst) touched)
    (hRows : rows.foldlM addByKey totals = .ok result) :
    FirstTouches (result.map Prod.fst) (touched ++ rows.map Prod.fst) := by
  induction rows generalizing totals touched with
  | nil =>
    obtain rfl := Except.ok.inj hRows
    rw [List.map_nil, List.append_nil]
    exact h
  | cons row rows ih =>
    rw [List.foldlM_cons] at hRows
    obtain ⟨next, hNext, hRest⟩ := exists_of_bind_eq_ok hRows
    have hStep := ih (firstTouches_addByKey h hNext) hRest
    rwa [List.append_assoc, List.singleton_append] at hStep

end Keys

section Exact

variable {totals before rows : List (κ × ℚ)} {row : κ × ℚ}

theorem lookup_finite (hGroups : Groups totals before) (key : κ) :
    ((totals.map finiteEntry).lookup key).getD (.finite 0) = .finite (keySum before key) := by
  have hKeys : (totals.map finiteEntry).map Prod.fst = totals.map Prod.fst := by
    rw [List.map_map]
    rfl
  by_cases hMem : key ∈ totals.map Prod.fst
  · obtain ⟨total, hTotal, rfl⟩ := List.mem_map.mp hMem
    have hFound : (totals.map finiteEntry).lookup total.1 = some (.finite total.2) :=
      (lookup_eq_some_iff_mem (hKeys ▸ hGroups.keys)).mpr (List.mem_map_of_mem hTotal)
    rw [hFound, Option.getD_some, hGroups.amounts total hTotal]
  · have hNone : (totals.map finiteEntry).lookup key = none := by
      cases hFound : (totals.map finiteEntry).lookup key with
      | none => rfl
      | some value =>
        have hEntry := (lookup_eq_some_iff_mem (hKeys ▸ hGroups.keys)).mp hFound
        exact absurd (hKeys ▸ List.mem_map_of_mem hEntry) hMem
    rw [hNone, Option.getD_none, Groups.keySum_of_notMem fun hRow =>
      hMem ((hGroups.covers key).mpr hRow)]

theorem assign_finite (hGroups : Groups totals before) (row : κ × ℚ) :
    assign (totals.map finiteEntry) row.1 (.finite (keySum before row.1 + row.2)) =
      (addTotal totals row).map finiteEntry := by
  have hKeys : (totals.map finiteEntry).map Prod.fst = totals.map Prod.fst := by
    rw [List.map_map]
    rfl
  unfold addTotal
  by_cases hMem : row.1 ∈ totals.map Prod.fst
  · rw [assign_of_mem (hKeys ▸ hMem), if_pos (any_key_iff.mpr hMem), List.map_map, List.map_map]
    refine List.map_congr_left fun total hTotal => ?_
    rw [Function.comp_apply, Function.comp_apply]
    by_cases hKey : total.1 = row.1
    · rw [if_pos hKey, finiteEntry, if_pos hKey, finiteEntry, hGroups.amounts total hTotal, hKey]
    · rw [if_neg hKey, finiteEntry, if_neg hKey]
  · rw [assign_of_notMem (hKeys ▸ hMem), if_neg fun hAny => hMem (any_key_iff.mp hAny),
      List.map_append,
      Groups.keySum_of_notMem fun hRow => hMem ((hGroups.covers _).mpr hRow), zero_add]
    rfl

/-- Where no total is rounded the dictionary holds the sums of the keys. -/
theorem foldlM_addByKey_of_exact (hGroups : Groups totals before)
    (hExact : ∀ key, EveryTotal Number.Representable (keySum before key) (rowsOf rows key)) :
    (rows.map finiteEntry).foldlM addByKey (totals.map finiteEntry) =
      .ok ((rows.foldl addTotal totals).map finiteEntry) := by
  induction rows generalizing totals before with
  | nil => rfl
  | cons row rows ih =>
    have hOwn : rowsOf (row :: rows) row.1 = row.2 :: rowsOf rows row.1 := by
      simp [rowsOf]
    have hTotals := hExact row.1
    rw [hOwn] at hTotals
    have hStep : addByKey (totals.map finiteEntry) (finiteEntry row) =
        .ok ((addTotal totals row).map finiteEntry) := by
      unfold addByKey
      dsimp only [finiteEntry]
      rw [lookup_finite hGroups, bind_of_eq_ok (Number.add_of_representable hTotals.1),
        assign_finite hGroups]
      rfl
    rw [List.map_cons, List.foldlM_cons, bind_of_eq_ok hStep, List.foldl_cons]
    refine ih (hGroups.addTotal row) fun key => ?_
    by_cases hKey : row.1 = key
    · subst hKey
      rw [Groups.keySum_append_self]
      exact hTotals.2
    · have hOther : rowsOf (row :: rows) key = rowsOf rows key := by
        simp [rowsOf, hKey]
      rw [Groups.keySum_append_of_ne hKey, ← hOther]
      exact hExact key

end Exact

end ProcureFoundation
