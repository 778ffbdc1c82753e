import Mathlib.Data.List.Nodup
import Mathlib.Tactic.Common

/-!
# Rows with a key

A table is a list of rows whose keys do not repeat. Looking a key up is then the same
as membership, and replacing a row leaves every other key's row as it was.
-/

namespace ProcureFoundation.KeyedRows

variable {ρ : Type*} (key : ρ → ℕ)

def lookup (rows : List ρ) (k : ℕ) : Option ρ := rows.find? fun row => key row == k

def replace (row : ρ) (rows : List ρ) : List ρ :=
  rows.map fun old => if key old = key row then row else old

variable {key} {rows : List ρ} {row : ρ} {k : ℕ}

theorem mem_of_lookup (h : lookup key rows k = some row) : row ∈ rows :=
  List.mem_of_find?_eq_some h

theorem key_of_lookup (h : lookup key rows k = some row) : key row = k := by
  have hFound := List.find?_some h
  exact beq_iff_eq.mp hFound

/-- What is looked up among rows that were built from others was built from one of them. -/
theorem exists_of_lookup_map {γ σ : Type*} {sources : List γ} {build : γ → ρ} {f : ρ → σ}
    {value : σ} (h : (lookup key (sources.map build) k).map f = some value) :
    ∃ source ∈ sources, key (build source) = k ∧ f (build source) = value := by
  obtain ⟨found, hFound, hValue⟩ := Option.map_eq_some_iff.mp h
  obtain ⟨source, hSource, rfl⟩ := List.mem_map.mp (mem_of_lookup hFound)
  exact ⟨source, hSource, key_of_lookup hFound, hValue⟩

theorem lookup_eq_none : lookup key rows k = none ↔ ∀ row ∈ rows, key row ≠ k := by
  simp [lookup]

theorem lookup_isSome : (lookup key rows k).isSome ↔ k ∈ rows.map key := by
  simp [lookup, List.find?_isSome]

theorem eq_of_key_eq {other : ρ} (hKeys : (rows.map key).Nodup) (hRow : row ∈ rows)
    (hOther : other ∈ rows) (h : key row = key other) : row = other :=
  List.inj_on_of_nodup_map hKeys hRow hOther h

theorem lookup_of_mem (hKeys : (rows.map key).Nodup) (h : row ∈ rows) :
    lookup key rows (key row) = some row := by
  cases hFound : lookup key rows (key row) with
  | none => exact absurd rfl (lookup_eq_none.mp hFound row h)
  | some found =>
    have hKey := key_of_lookup hFound
    rw [List.inj_on_of_nodup_map hKeys (mem_of_lookup hFound) h hKey]

theorem lookup_eq_some (hKeys : (rows.map key).Nodup) :
    lookup key rows k = some row ↔ row ∈ rows ∧ key row = k := by
  constructor
  · intro h
    exact ⟨mem_of_lookup h, key_of_lookup h⟩
  · rintro ⟨hMem, rfl⟩
    exact lookup_of_mem hKeys hMem

/-- The rows of a key are the one that is looked up. -/
theorem filter_key (hKeys : (rows.map key).Nodup) :
    rows.filter (fun row => key row == k) = (lookup key rows k).toList := by
  induction rows with
  | nil => rfl
  | cons first rows ih =>
    obtain ⟨hFresh, hRest⟩ := List.nodup_cons.mp hKeys
    rw [lookup, List.find?_cons]
    cases hFirst : key first == k with
    | false => rw [List.filter_cons, hFirst, if_neg Bool.false_ne_true, ih hRest, lookup]
    | true =>
      have hNone : rows.filter (fun row => key row == k) = [] := by
        refine List.filter_eq_nil_iff.mpr fun row hRow hKey => hFresh ?_
        rw [beq_iff_eq.mp hFirst, ← beq_iff_eq.mp hKey]
        exact List.mem_map_of_mem hRow
      rw [List.filter_cons, hFirst, if_pos rfl, hNone]
      rfl

theorem lookup_filter {p : ρ → Bool} (h : lookup key rows k = some row) (hRow : p row) :
    lookup key (rows.filter p) k = some row := by
  rw [lookup, List.find?_filter]
  rw [lookup, List.find?_eq_some_iff_append] at h
  obtain ⟨hKey, before, after, rfl, hBefore⟩ := h
  refine List.find?_eq_some_iff_append.mpr ⟨?_, before, after, rfl, ?_⟩
  · rw [hRow, hKey]
    rfl
  · intro other hOther
    have hNot := hBefore other hOther
    cases hPass : p other <;> simp_all

/-- The row of a key passes a filter that lets some row of the key through. -/
theorem passes_of_lookup {p : ρ → Bool} (hKeys : (rows.map key).Nodup)
    (hPasses : ∃ row ∈ rows.filter p, key row = k) (h : lookup key rows k = some row) :
    p row = true := by
  obtain ⟨other, hOther, hKey⟩ := hPasses
  obtain ⟨hMem, hPass⟩ := List.mem_filter.mp hOther
  rw [eq_of_key_eq hKeys (mem_of_lookup h) hMem ((key_of_lookup h).trans hKey.symm)]
  exact hPass

theorem map_lookup_filter {σ : Type*} {f : ρ → σ} {p : ρ → Bool} {q : σ → Bool}
    (hKeys : (rows.map key).Nodup) (hp : ∀ row, p row = q (f row)) {y : σ} :
    (lookup key (rows.filter p) k).map f = some y ↔ (lookup key rows k).map f = some y ∧ q y := by
  simp only [Option.map_eq_some_iff]
  constructor
  · rintro ⟨row, hRow, rfl⟩
    have hMem := List.mem_filter.mp (mem_of_lookup hRow)
    exact ⟨⟨row, (lookup_eq_some hKeys).mpr ⟨hMem.1, key_of_lookup hRow⟩, rfl⟩, hp row ▸ hMem.2⟩
  · rintro ⟨⟨row, hRow, rfl⟩, hq⟩
    exact ⟨row, lookup_filter hRow (hp row ▸ hq), rfl⟩

theorem lookup_filter_ne {removed : ℕ} (h : k ≠ removed) :
    lookup key (rows.filter fun row => key row != removed) k = lookup key rows k := by
  cases hFound : lookup key rows k with
  | none =>
    rw [lookup_eq_none] at hFound ⊢
    exact fun row hRow => hFound row (List.mem_filter.mp hRow).1
  | some row =>
    apply lookup_filter hFound
    rw [key_of_lookup hFound]
    exact bne_iff_ne.mpr h

theorem lookup_filter_self : lookup key (rows.filter fun row => key row != k) k = none := by
  rw [lookup_eq_none]
  intro row hRow
  exact bne_iff_ne.mp (List.mem_filter.mp hRow).2

theorem lookup_append_of_ne (h : key row ≠ k) :
    lookup key (rows ++ [row]) k = lookup key rows k := by
  simp [lookup, List.find?_append, h]

theorem lookup_append_self (h : ∀ old ∈ rows, key old ≠ key row) :
    lookup key (rows ++ [row]) (key row) = some row := by
  rw [lookup, List.find?_append, show rows.find? _ = none from lookup_eq_none.mpr h]
  simp

/-- A replacement that a filter does not let through, of rows that it does not let through either,
is not seen. -/
theorem filter_replace {p : ρ → Bool} (hRow : p row = false)
    (hOld : ∀ old ∈ rows, key old = key row → p old = false) :
    (replace key row rows).filter p = rows.filter p := by
  induction rows with
  | nil => rfl
  | cons first rows ih =>
    obtain ⟨hFirst, hRest⟩ := List.forall_mem_cons.mp hOld
    rw [replace, List.map_cons, ← replace, List.filter_cons, List.filter_cons, ih hRest]
    by_cases hKey : key first = key row
    · rw [if_pos hKey, hRow, hFirst hKey, if_neg Bool.false_ne_true, if_neg Bool.false_ne_true]
    · rw [if_neg hKey]

@[simp] theorem map_key_replace : (replace key row rows).map key = rows.map key := by
  rw [replace, List.map_map]
  apply List.map_congr_left
  intro old _
  by_cases h : key old = key row <;> simp [h]

/-- A value that the new row shares with the row it replaces stays where it is. -/
theorem map_replace {σ : Type*} {f : ρ → σ} (h : ∀ old ∈ rows, key old = key row → f old = f row) :
    (replace key row rows).map f = rows.map f := by
  rw [replace, List.map_map]
  refine List.map_congr_left fun old hOld => ?_
  by_cases hKey : key old = key row
  · rw [Function.comp_apply, if_pos hKey, h old hOld hKey]
  · rw [Function.comp_apply, if_neg hKey]

theorem mem_replace {new : ρ} (h : new ∈ replace key row rows) :
    new = row ∧ (∃ old ∈ rows, key old = key row) ∨ new ∈ rows ∧ key new ≠ key row := by
  obtain ⟨old, hOld, rfl⟩ := List.mem_map.mp h
  by_cases hKey : key old = key row
  · rw [if_pos hKey]
    exact .inl ⟨rfl, old, hOld, hKey⟩
  · rw [if_neg hKey]
    exact .inr ⟨hOld, hKey⟩

theorem mem_replace_self {old : ρ} (h : old ∈ rows) (hKey : key old = key row) :
    row ∈ replace key row rows :=
  List.mem_map.mpr ⟨old, h, if_pos hKey⟩

theorem mem_replace_of_ne {old : ρ} (h : old ∈ rows) (hKey : key old ≠ key row) :
    old ∈ replace key row rows :=
  List.mem_map.mpr ⟨old, h, if_neg hKey⟩

theorem lookup_replace_of_ne (h : key row ≠ k) :
    lookup key (replace key row rows) k = lookup key rows k := by
  induction rows with
  | nil => rfl
  | cons old rest ih =>
    rw [replace, List.map_cons, ← replace, lookup, lookup, List.find?_cons,
      List.find?_cons, ← lookup, ← lookup, ih]
    by_cases hKey : key old = key row
    · rw [if_pos hKey, hKey, beq_eq_false_iff_ne.mpr h]
    · rw [if_neg hKey]

theorem lookup_replace_self {old : ρ} (h : lookup key rows (key row) = some old) :
    lookup key (replace key row rows) (key row) = some row := by
  induction rows with
  | nil => cases h
  | cons head rest ih =>
    rw [replace, List.map_cons, ← replace, lookup, List.find?_cons]
    by_cases hKey : key head = key row
    · simp [hKey]
    · rw [lookup, List.find?_cons] at h
      simp only [beq_eq_false_iff_ne.mpr hKey] at h
      rw [if_neg hKey, beq_eq_false_iff_ne.mpr hKey]
      exact ih h

theorem map_lookup_replace_self {σ : Type*} {f : ρ → σ} {y : σ}
    (h : (lookup key (replace key row rows) (key row)).map f = some y) : some (f row) = some y := by
  obtain ⟨found, hFound, rfl⟩ := Option.map_eq_some_iff.mp h
  obtain ⟨rfl, -⟩ | ⟨-, hNe⟩ := mem_replace (mem_of_lookup hFound)
  · rfl
  · exact absurd (key_of_lookup hFound) hNe

theorem replace_of_absent (h : ∀ old ∈ rows, key old ≠ key row) : replace key row rows = rows := by
  calc
    replace key row rows = rows.map id :=
      List.map_congr_left fun old hOld => if_neg (h old hOld)
    _ = rows := List.map_id rows

/-- A table whose rows pass a condition of their own and are compatible in pairs. -/
structure Table (key : ρ → ℕ) (accepted : ρ → Bool) (compatible : ρ → ρ → Bool) (rows : List ρ) :
    Prop where
  accepted : ∀ row ∈ rows, accepted row
  keys : (rows.map key).Nodup
  compatible : ∀ row ∈ rows, ∀ other ∈ rows, key other ≠ key row → compatible row other

namespace Table

variable {accepted : ρ → Bool} {compatible : ρ → ρ → Bool}

theorem nil : Table key accepted compatible [] where
  accepted _ h := nomatch h
  keys := List.nodup_nil
  compatible _ h := nomatch h

theorem filter (hTable : Table key accepted compatible rows) (p : ρ → Bool) :
    Table key accepted compatible (rows.filter p) where
  accepted row h := hTable.accepted row (List.mem_filter.mp h).1
  keys := hTable.keys.sublist (List.filter_sublist.map _)
  compatible row h other hOther hNe :=
    hTable.compatible row (List.mem_filter.mp h).1 other (List.mem_filter.mp hOther).1 hNe

theorem append (hTable : Table key accepted compatible rows) (hAccepted : accepted row)
    (hFresh : ∀ old ∈ rows, key old ≠ key row) (hSymm : ∀ a b, compatible a b = compatible b a)
    (hCompatible : ∀ old ∈ rows, compatible row old) :
    Table key accepted compatible (rows ++ [row]) where
  accepted new h := by
    obtain h | h := List.mem_append.mp h
    · exact hTable.accepted new h
    · exact List.mem_singleton.mp h ▸ hAccepted
  keys := by
    rw [List.map_append, List.nodup_append]
    refine ⟨hTable.keys, List.nodup_singleton _, ?_⟩
    intro i hi j hj
    obtain ⟨old, hOld, rfl⟩ := List.mem_map.mp hi
    rw [List.map_singleton, List.mem_singleton] at hj
    exact hj ▸ hFresh old hOld
  compatible a ha b hb hNe := by
    rw [List.mem_append, List.mem_singleton] at ha hb
    obtain ha | rfl := ha
    · obtain hb | rfl := hb
      · exact hTable.compatible a ha b hb hNe
      · exact (hSymm a b).trans (hCompatible a ha)
    · obtain hb | rfl := hb
      · exact hCompatible b hb
      · exact absurd rfl hNe

theorem replace (hTable : Table key accepted compatible rows) (hAccepted : accepted row)
    (hSymm : ∀ a b, compatible a b = compatible b a)
    (hCompatible : ∀ old ∈ rows, key old ≠ key row → compatible row old) :
    Table key accepted compatible (replace key row rows) where
  accepted new h := by
    obtain ⟨rfl, -⟩ | ⟨h, -⟩ := mem_replace h
    · exact hAccepted
    · exact hTable.accepted new h
  keys := by
    rw [map_key_replace]
    exact hTable.keys
  compatible a ha b hb hNe := by
    obtain ⟨rfl, -⟩ | ⟨haOld, haKey⟩ := mem_replace ha
    · obtain ⟨rfl, -⟩ | ⟨hbOld, hbKey⟩ := mem_replace hb
      · exact absurd rfl hNe
      · exact hCompatible b hbOld hbKey
    · obtain ⟨rfl, -⟩ | ⟨hbOld, -⟩ := mem_replace hb
      · exact (hSymm a b).trans (hCompatible a haOld haKey)
      · exact hTable.compatible a haOld b hbOld hNe

end Table

end ProcureFoundation.KeyedRows
