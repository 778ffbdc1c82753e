import ProcureFoundation.Foundation.KeyedFolds

/-!
# Dictionaries

A dictionary keeps its keys in the order in which they were first assigned. Assigning to a key that
it has changes the value in its place, and building it from rows leaves the last value of each key.
-/

namespace ProcureFoundation

variable {κ ν : Type*} [DecidableEq κ]

def assign (entries : List (κ × ν)) (key : κ) (value : ν) : List (κ × ν) :=
  upsert (fun _ new => new) value entries (key, value)

def dictOf (rows : List (κ × ν)) : List (κ × ν) :=
  rows.foldl (fun entries row => assign entries row.1 row.2) []

variable {entries rows : List (κ × ν)} {key other : κ} {value old : ν}

theorem assign_of_mem (h : key ∈ entries.map Prod.fst) :
    assign entries key value = entries.map fun entry => if entry.1 = key then (entry.1, value)
      else entry := by
  rw [assign, upsert, if_pos (@any_key_iff _ _ _ _ entries (key, value) |>.mpr h)]

theorem map_fst_assign (h : key ∈ entries.map Prod.fst) :
    (assign entries key value).map Prod.fst = entries.map Prod.fst := by
  rw [assign_of_mem h]
  exact @map_fst_upsert_of_mem _ _ _ _ (fun _ new => new) _ (key, value)

theorem mem_assign (h : key ∈ entries.map Prod.fst) :
    (other, old) ∈ assign entries key value ↔ if other = key then old = value
      else (other, old) ∈ entries := by
  rw [assign_of_mem h, List.mem_map]
  constructor
  · rintro ⟨entry, hEntry, hSame⟩
    by_cases hKey : entry.1 = key
    · rw [if_pos hKey] at hSame
      obtain ⟨rfl, rfl⟩ := Prod.mk.inj hSame
      rw [if_pos hKey]
    · rw [if_neg hKey] at hSame
      subst hSame
      rwa [if_neg hKey]
  · intro hOther
    by_cases hKey : other = key
    · rw [if_pos hKey] at hOther
      obtain ⟨entry, hEntry, hEntryKey⟩ := List.mem_map.mp h
      refine ⟨entry, hEntry, ?_⟩
      rw [if_pos hEntryKey, hEntryKey, hKey, hOther]
    · rw [if_neg hKey] at hOther
      exact ⟨(other, old), hOther, if_neg hKey⟩

theorem assign_of_notMem (h : key ∉ entries.map Prod.fst) :
    assign entries key value = entries ++ [(key, value)] := by
  rw [assign, upsert, if_neg fun hAny => h ((@any_key_iff _ _ _ _ entries (key, value)).mp hAny)]

theorem foldl_assign_of_nodup (h : (entries ++ rows).map Prod.fst |>.Nodup) :
    rows.foldl (fun entries row => assign entries row.1 row.2) entries = entries ++ rows := by
  induction rows generalizing entries with
  | nil => rw [List.foldl_nil, List.append_nil]
  | cons row rows ih =>
    have hFresh : row.1 ∉ entries.map Prod.fst := by
      intro hMem
      rw [List.map_append, List.map_cons] at h
      exact List.disjoint_of_nodup_append h hMem List.mem_cons_self
    rw [List.foldl_cons, assign_of_notMem hFresh,
      ih (by rwa [List.append_assoc, List.singleton_append]),
      List.append_assoc, List.singleton_append]

/-- Rows with distinct keys are the dictionary. -/
theorem dictOf_of_nodup (h : (rows.map Prod.fst).Nodup) : dictOf rows = rows := by
  rw [dictOf, foldl_assign_of_nodup (by rwa [List.nil_append]), List.nil_append]

theorem lookup_eq_some_iff_mem (h : (entries.map Prod.fst).Nodup) :
    entries.lookup key = some value ↔ (key, value) ∈ entries := by
  rw [List.lookup_eq_some_iff]
  constructor
  · rintro ⟨before, after, rfl, -⟩
    exact List.mem_append_right _ List.mem_cons_self
  · intro hMem
    obtain ⟨before, after, rfl⟩ := List.append_of_mem hMem
    refine ⟨before, after, rfl, fun entry hEntry => ?_⟩
    rw [List.map_append, List.map_cons] at h
    rw [bne_iff_ne]
    rintro rfl
    exact List.disjoint_of_nodup_append h (List.mem_map_of_mem hEntry) List.mem_cons_self

theorem foldl_last_mem {start : ν} {values : List ν} (h : values ≠ []) :
    values.foldl (fun _ new => new) start ∈ values := by
  induction values generalizing start with
  | nil => exact absurd rfl h
  | cons value values ih =>
    rw [List.foldl_cons]
    cases values with
    | nil => exact List.mem_cons_self
    | cons next values => exact List.mem_cons_of_mem _ (ih (List.cons_ne_nil _ _))

theorem foldsByKey_dictOf (start : ν) (rows : List (κ × ν)) :
    FoldsByKey (fun _ new => new) start (dictOf rows) rows :=
  FoldsByKey.of_foldl (fun _ new => new) start rows

theorem lookup_dictOf_isSome : ((dictOf rows).lookup key).isSome ↔ key ∈ rows.map Prod.fst := by
  have hKeys : ((dictOf rows).lookup key).isSome ↔ key ∈ (dictOf rows).map Prod.fst := by
    rw [List.lookup_isSome_iff, List.mem_map]
    constructor
    · rintro ⟨entry, hEntry, hKey⟩
      exact ⟨entry, hEntry, (beq_iff_eq.mp hKey).symm⟩
    · rintro ⟨entry, hEntry, rfl⟩
      exact ⟨entry, hEntry, beq_self_eq_true entry.1⟩
  rw [hKeys]
  cases rows with
  | nil => exact Iff.rfl
  | cons first rest => exact (foldsByKey_dictOf first.2 (first :: rest)).covers key

/-- Where a key has one value, the dictionary of the rows has it. -/
theorem lookup_dictOf (h : ∀ a ∈ rows, ∀ b ∈ rows, a.1 = b.1 → a.2 = b.2) :
    (dictOf rows).lookup key = some value ↔ (key, value) ∈ rows := by
  cases rows with
  | nil => exact iff_of_false (fun hNone => by cases hNone) List.not_mem_nil
  | cons first rest =>
    have hFolds := foldsByKey_dictOf first.2 (first :: rest)
    have hValue : ∀ entry ∈ dictOf (first :: rest), entry ∈ first :: rest := by
      intro entry hEntry
      have hSome : rowsOf (first :: rest) entry.1 ≠ [] := by
        intro hNone
        obtain ⟨row, hRow, hKey⟩ :=
          List.mem_map.mp ((hFolds.covers entry.1).mp (List.mem_map_of_mem hEntry))
        rw [rowsOf, List.map_eq_nil_iff, List.filter_eq_nil_iff] at hNone
        exact hNone row hRow (decide_eq_true hKey)
      have hLast := @foldl_last_mem _ first.2 _ hSome
      rw [← hFolds.values entry hEntry] at hLast
      obtain ⟨row, hRow, hSame⟩ := List.mem_map.mp hLast
      obtain ⟨hMem, hKey⟩ := List.mem_filter.mp hRow
      rwa [← Prod.ext (of_decide_eq_true hKey) hSame]
    rw [lookup_eq_some_iff_mem hFolds.keys]
    refine ⟨hValue (key, value), fun hMem => ?_⟩
    obtain ⟨entry, hEntry, hKey⟩ :=
      List.mem_map.mp ((hFolds.covers key).mpr (List.mem_map_of_mem hMem))
    rwa [← Prod.ext hKey (h _ (hValue entry hEntry) _ hMem hKey)]

end ProcureFoundation
