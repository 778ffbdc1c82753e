import Mathlib.Data.List.Nodup
import Mathlib.Data.List.Perm.Basic
import Mathlib.Tactic.Common

/-!
# Folds by key

Rows with a key enter a dictionary one by one: the entry of the key, or a starting value where there
is none, takes the row in. The dictionary then has each key of the rows once, in the order in which
they first appear, with what its rows fold to in their order.
-/

namespace ProcureFoundation

variable {κ ρ M : Type*} [DecidableEq κ]

def upsert (add : M → ρ → M) (start : M) (entries : List (κ × M)) (row : κ × ρ) : List (κ × M) :=
  if entries.any fun entry => entry.1 == row.1 then
    entries.map fun entry => if entry.1 = row.1 then (entry.1, add entry.2 row.2) else entry
  else entries ++ [(row.1, add start row.2)]

def rowsOf (rows : List (κ × ρ)) (key : κ) : List ρ :=
  (rows.filter fun row => row.1 = key).map Prod.snd

/-- What a dictionary holds after some rows. -/
structure FoldsByKey (add : M → ρ → M) (start : M) (entries : List (κ × M)) (rows : List (κ × ρ)) :
    Prop where
  keys : (entries.map Prod.fst).Nodup
  covers : ∀ key, key ∈ entries.map Prod.fst ↔ key ∈ rows.map Prod.fst
  values : ∀ entry ∈ entries, entry.2 = (rowsOf rows entry.1).foldl add start

variable {add : M → ρ → M} {start : M} {entries : List (κ × M)} {rows : List (κ × ρ)} {row : κ × ρ}
  {key : κ}

theorem rowsOf_append_self : rowsOf (rows ++ [row]) row.1 = rowsOf rows row.1 ++ [row.2] := by
  rw [rowsOf, List.filter_append, List.filter_singleton, decide_eq_true rfl, List.map_append]
  rfl

theorem rowsOf_append_of_ne (h : row.1 ≠ key) : rowsOf (rows ++ [row]) key = rowsOf rows key := by
  rw [rowsOf, List.filter_append, List.filter_singleton, decide_eq_false h, List.map_append]
  exact List.append_nil _

theorem rowsOf_of_notMem (h : key ∉ rows.map Prod.fst) : rowsOf rows key = [] := by
  rw [rowsOf, List.map_eq_nil_iff, List.filter_eq_nil_iff]
  intro row hRow hKey
  exact h (of_decide_eq_true hKey ▸ List.mem_map_of_mem hRow)

theorem rowsOf_perm {others : List (κ × ρ)} (h : rows.Perm others) :
    (rowsOf rows key).Perm (rowsOf others key) :=
  (h.filter _).map Prod.snd

theorem any_key_iff : (entries.any fun entry => entry.1 == row.1) = true ↔
    row.1 ∈ entries.map Prod.fst := by
  rw [List.any_eq_true, List.mem_map]
  refine exists_congr fun entry => and_congr_right fun _ => ?_
  exact beq_iff_eq

theorem map_fst_upsert_of_mem :
    (entries.map fun entry => if entry.1 = row.1 then (entry.1, add entry.2 row.2) else entry).map
    Prod.fst = entries.map Prod.fst := by
  rw [List.map_map]
  refine List.map_congr_left fun entry _ => ?_
  rw [Function.comp_apply]
  split
  · rfl
  · rfl

namespace FoldsByKey

/-- One more row. -/
theorem upsert (h : FoldsByKey add start entries rows) (row : κ × ρ) :
    FoldsByKey add start (upsert add start entries row) (rows ++ [row]) := by
  unfold ProcureFoundation.upsert
  by_cases hMem : row.1 ∈ entries.map Prod.fst
  · rw [if_pos (any_key_iff.mpr hMem)]
    refine ⟨?_, fun key => ?_, fun entry hEntry => ?_⟩
    · rw [map_fst_upsert_of_mem]
      exact h.keys
    · rw [map_fst_upsert_of_mem, h.covers, List.map_append, List.mem_append, or_iff_left_of_imp]
      intro hKey
      rw [List.map_singleton, List.mem_singleton] at hKey
      exact hKey ▸ (h.covers row.1).mp hMem
    · obtain ⟨old, hOld, rfl⟩ := List.mem_map.mp hEntry
      by_cases hKey : old.1 = row.1
      · rw [if_pos hKey]
        dsimp only
        rw [hKey, rowsOf_append_self, List.foldl_append, h.values old hOld, hKey]
        rfl
      · rw [if_neg hKey, rowsOf_append_of_ne (Ne.symm hKey)]
        exact h.values old hOld
  · rw [if_neg fun hAny => hMem (any_key_iff.mp hAny)]
    refine ⟨?_, fun key => ?_, fun entry hEntry => ?_⟩
    · rw [List.map_append, List.map_singleton, List.nodup_append]
      refine ⟨h.keys, List.nodup_singleton _, fun old hOld new hNew hSame => ?_⟩
      exact hMem (List.mem_singleton.mp hNew ▸ hSame ▸ hOld)
    · rw [List.map_append, List.mem_append, h.covers, List.map_append, List.mem_append,
        List.map_singleton, List.map_singleton]
    · obtain hOld | hNew := List.mem_append.mp hEntry
      · rw [rowsOf_append_of_ne fun hKey => hMem (hKey ▸ List.mem_map_of_mem hOld)]
        exact h.values entry hOld
      · obtain rfl := List.mem_singleton.mp hNew
        rw [rowsOf_append_self, rowsOf_of_notMem fun hRow => hMem ((h.covers _).mpr hRow)]
        rfl

theorem foldl (h : FoldsByKey add start entries rows) (more : List (κ × ρ)) :
    FoldsByKey add start (more.foldl (ProcureFoundation.upsert add start) entries)
    (rows ++ more) := by
  induction more generalizing entries rows with
  | nil => rwa [List.append_nil]
  | cons row more ih =>
    have hStep := ih (h.upsert row)
    rwa [List.append_assoc, List.singleton_append] at hStep

theorem of_foldl (add : M → ρ → M) (start : M) (rows : List (κ × ρ)) :
    FoldsByKey add start (rows.foldl (ProcureFoundation.upsert add start) []) rows := by
  have hNone : FoldsByKey add start ([] : List (κ × M)) ([] : List (κ × ρ)) :=
    ⟨List.nodup_nil, fun _ => Iff.rfl, fun entry hEntry => absurd hEntry List.not_mem_nil⟩
  have h := hNone.foldl rows
  rwa [List.nil_append] at h

end FoldsByKey

/-- Collecting the rows of a key in their order. -/
theorem foldl_append_singleton (collected rows : List ρ) :
    rows.foldl (fun group row => group ++ [row]) collected = collected ++ rows := by
  induction rows generalizing collected with
  | nil => rw [List.foldl_nil, List.append_nil]
  | cons row rows ih => rw [List.foldl_cons, ih, List.append_assoc, List.singleton_append]

end ProcureFoundation
