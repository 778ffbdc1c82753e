import Mathlib.Data.List.Pairwise
import ProcureFoundation.Foundation.Dictionaries
import ProcureFoundation.Foundation.PythonText

/-!
# Suggested column mappings

A column is first given to the field that has its name as an alias, then every field without a
column takes the first of the remaining columns whose name is close to one of its own. A column that
has been taken is no longer remaining, so no column is suggested for two fields.
-/

namespace ProcureFoundation.Ingestion

open Text

/-- Lowercasing, and the close matches of a word among some candidates. -/
structure MappingTools where
  lower : String → String
  getCloseMatches : String → List String → List String

abbrev Aliases := List (String × List String)

abbrev ColumnMapping := List (String × Option String)

def canonicalFields : List String :=
  ["supplier_sku", "description", "brand", "category", "uom", "pack_quantity",
    "pack_size", "weight", "weight_uom", "barcode", "price", "effective_date"]

def defaultAliases : Aliases :=
  [("supplier_sku", ["item code", "stock code", "supplier sku", "product code", "sku", "item no",
    "stock no", "code"]),
    ("description", ["description", "product description", "item description", "product name",
      "stock description"]),
    ("brand", ["brand", "brand name", "manufacturer"]),
    ("category", ["category", "product category", "department"]),
    ("uom", ["uom", "unit of measure", "unit"]),
    ("pack_quantity", ["pack qty", "pack quantity", "case qty", "units per case", "pack size qty"]),
    ("pack_size", ["pack size", "pack", "pack description", "size"]),
    ("weight", ["weight", "net weight", "mass"]),
    ("weight_uom", ["weight uom", "weight unit"]),
    ("barcode", ["barcode", "ean", "upc", "ean13", "ean code"]),
    ("price", ["price", "unit price", "cost price", "list price", "nett price", "net price"]),
    ("effective_date", ["effective date", "price date", "valid from", "date"])]

def replaceUnderscores (text : String) : String :=
  String.ofList (text.toList.map fun c => if c = '_' then ' ' else c)

namespace MappingTools

variable (tools : MappingTools)

def normalized (column : String) : String := tools.lower (strip column)

end MappingTools

def aliasLookup (aliases : Aliases) : List (String × String) :=
  dictOf (aliases.flatMap fun entry => entry.2.map fun name => (name, entry.1))

def exactStep (lookup : List (String × String)) (result : ColumnMapping)
    (column : String × String) : ColumnMapping :=
  match lookup.lookup column.2 with
  | some canonical =>
    if canonical ≠ "" ∧ (result.lookup canonical).join = none then
      assign result canonical (some column.1) else result
  | none => result

def candidates (aliases : Aliases) (canonical : String) : List String :=
  replaceUnderscores canonical :: (aliases.lookup canonical).getD []

structure MappingState where
  result : ColumnMapping
  unmappedColumns : List String

def fuzzyStep (tools : MappingTools) (aliases : Aliases) (state : MappingState)
    (canonical : String) : MappingState :=
  if (state.result.lookup canonical).join ≠ none then state
  else
    match state.unmappedColumns.find? fun column =>
        !(tools.getCloseMatches (tools.normalized column) (candidates aliases canonical)).isEmpty with
    | some column =>
      ⟨assign state.result canonical (some column), state.unmappedColumns.erase column⟩
    | none => state

def suggestMapping (tools : MappingTools) (sourceColumns : List String) (fields : List String)
    (aliases : Aliases) : ColumnMapping :=
  let normalizedColumns :=
    dictOf (sourceColumns.map fun column => (column, tools.normalized column))
  let result := dictOf (fields.map fun field => (field, none))
  let exact := normalizedColumns.foldl (exactStep (aliasLookup aliases)) result
  let unmappedColumns :=
    sourceColumns.filter fun column => !(exact.map Prod.snd).contains (some column)
  (fields.foldl (fuzzyStep tools aliases) ⟨exact, unmappedColumns⟩).result

/-- Alias lists of some of the fields that have no alias in common. -/
structure AliasesFit (fields : List String) (aliases : Aliases) : Prop where
  distinct : fields.Nodup
  keys : (aliases.map Prod.fst).Nodup
  keyed : ∀ entry ∈ aliases, entry.1 ∈ fields
  disjoint : aliases.Pairwise fun a b => ∀ name ∈ a.2, name ∉ b.2

theorem defaultAliases_fit : AliasesFit canonicalFields defaultAliases := by
  refine ⟨?_, ?_, ?_, ?_⟩ <;> decide

/-- The columns whose name is one of the aliases of the field. -/
def isExact (tools : MappingTools) (aliases : Aliases) (field column : String) : Bool :=
  ((aliases.lookup field).getD []).contains (tools.normalized column)

/-- What a mapping suggests for fields and columns. -/
structure SuggestsInjectively (tools : MappingTools) (sourceColumns fields : List String)
    (aliases : Aliases) (mapping : ColumnMapping) : Prop where
  keys : mapping.map Prod.fst = fields
  within : ∀ field column, (field, some column) ∈ mapping → column ∈ sourceColumns
  injective : ∀ field other column, (field, some column) ∈ mapping →
    (other, some column) ∈ mapping → field = other
  exact : ∀ field ∈ fields, ∀ column, sourceColumns.find? (isExact tools aliases field) =
    some column → (field, some column) ∈ mapping
  remaining : ∀ before field after, fields = before ++ field :: after → (field, none) ∈ mapping →
    ∀ column ∈ sourceColumns, (∀ other, (other, some column) ∈ mapping →
      other ∉ before ∧ sourceColumns.find? (isExact tools aliases other) = none) →
        tools.getCloseMatches (tools.normalized column) (candidates aliases field) = []

/-- Every field with the first of the columns that have its name as an alias. -/
def exactMapping (tools : MappingTools) (aliases : Aliases) (fields columns : List String) :
    ColumnMapping :=
  fields.map fun field => (field, columns.find? (isExact tools aliases field))

section Exact

variable {tools : MappingTools} {fields : List String} {aliases : Aliases}
  {field other column : String} {columns seen : List String}

theorem mem_exactMapping {value : Option String} :
    (field, value) ∈ exactMapping tools aliases fields columns ↔
    field ∈ fields ∧ value = columns.find? (isExact tools aliases field) := by
  rw [exactMapping, List.mem_map]
  constructor
  · rintro ⟨named, hNamed, hSame⟩
    obtain ⟨rfl, rfl⟩ := Prod.mk.inj hSame
    exact ⟨hNamed, rfl⟩
  · rintro ⟨hField, rfl⟩
    exact ⟨field, hField, rfl⟩

theorem map_fst_exactMapping : (exactMapping tools aliases fields columns).map Prod.fst =
    fields := by
  rw [exactMapping, List.map_map]
  exact List.map_id fields

theorem isExact_iff (hFit : AliasesFit fields aliases) :
    isExact tools aliases field column = true ↔ ∃ entry ∈ aliases, entry.1 = field ∧
      tools.normalized column ∈ entry.2 := by
  rw [isExact, List.contains_iff_mem]
  constructor
  · intro h
    cases hLookup : aliases.lookup field with
    | none =>
      rw [hLookup] at h
      exact absurd h List.not_mem_nil
    | some names =>
      rw [hLookup] at h
      exact ⟨(field, names), (lookup_eq_some_iff_mem hFit.keys).mp hLookup, rfl, h⟩
  · rintro ⟨⟨named, names⟩, hEntry, rfl, hName⟩
    rw [(lookup_eq_some_iff_mem hFit.keys).mpr hEntry]
    exact hName

theorem eq_of_mem_aliases (hFit : AliasesFit fields aliases) {a b : String × List String}
    (ha : a ∈ aliases) (hb : b ∈ aliases) {name : String} (hNameA : name ∈ a.2)
    (hNameB : name ∈ b.2) : a.1 = b.1 := by
  have : Std.Symm fun a b : String × List String => ∀ name ∈ a.2, name ∉ b.2 :=
    ⟨fun a b hApart name hB hA => hApart name hA hB⟩
  by_contra hNe
  exact hFit.disjoint.forall ha hb (fun h => hNe (congrArg Prod.fst h)) name hNameA hNameB

/-- A column that has the name of two fields is one of the same field. -/
theorem isExact_unique (hFit : AliasesFit fields aliases)
    (h : isExact tools aliases field column = true)
    (hOther : isExact tools aliases other column = true) : field = other := by
  obtain ⟨a, ha, rfl, hNameA⟩ := (isExact_iff hFit).mp h
  obtain ⟨b, hb, rfl, hNameB⟩ := (isExact_iff hFit).mp hOther
  exact eq_of_mem_aliases hFit ha hb hNameA hNameB

theorem lookup_aliasLookup (hFit : AliasesFit fields aliases) :
    (aliasLookup aliases).lookup (tools.normalized column) = some field ↔
      isExact tools aliases field column = true := by
  have hRow : ∀ row : String × String,
    row ∈ aliases.flatMap (fun entry => entry.2.map fun name => (name, entry.1)) ↔
      ∃ entry ∈ aliases, entry.1 = row.2 ∧ row.1 ∈ entry.2 := by
    intro row
    rw [List.mem_flatMap]
    refine exists_congr fun entry => and_congr_right fun _ => ?_
    rw [List.mem_map]
    constructor
    · rintro ⟨name, hName, rfl⟩
      exact ⟨rfl, hName⟩
    · rintro ⟨hField, hName⟩
      exact ⟨row.1, hName, Prod.ext rfl hField⟩
  rw [aliasLookup, lookup_dictOf, hRow, isExact_iff hFit]
  intro a ha b hb hSame
  obtain ⟨entryA, hA, hFieldA, hAliasA⟩ := (hRow a).mp ha
  obtain ⟨entryB, hB, hFieldB, hAliasB⟩ := (hRow b).mp hb
  rw [← hFieldA, ← hFieldB]
  exact eq_of_mem_aliases hFit hA hB hAliasA (hSame ▸ hAliasB)

theorem exactStep_exactMapping (hFit : AliasesFit fields aliases) (hNamed : "" ∉ fields) :
    exactStep (aliasLookup aliases) (exactMapping tools aliases fields seen)
    (column, tools.normalized column) =
      exactMapping tools aliases fields (seen ++ [column]) := by
  have hNodup : ((exactMapping tools aliases fields seen).map Prod.fst).Nodup := by
    rw [map_fst_exactMapping]
    exact hFit.distinct
  unfold exactStep
  dsimp only
  cases hLookup : (aliasLookup aliases).lookup (tools.normalized column) with
  | none =>
    refine List.map_congr_left fun field _ => ?_
    have hNot : ¬isExact tools aliases field column = true := fun hExact => by
      rw [(lookup_aliasLookup hFit).mpr hExact] at hLookup
      cases hLookup
    rw [List.find?_append, List.find?_singleton, if_neg hNot, Option.or_none]
  | some canonical =>
    have hExact := (lookup_aliasLookup hFit).mp hLookup
    obtain ⟨entry, hEntry, hKey, -⟩ := (isExact_iff hFit).mp hExact
    have hField : canonical ∈ fields := hKey ▸ hFit.keyed entry hEntry
    have hNonempty : canonical ≠ "" := fun hEmpty => hNamed (hEmpty ▸ hField)
    have hFound : (exactMapping tools aliases fields seen).lookup canonical =
        some (seen.find? (isExact tools aliases canonical)) :=
      (lookup_eq_some_iff_mem hNodup).mpr (mem_exactMapping.mpr ⟨hField, rfl⟩)
    dsimp only
    rw [hFound, Option.join_some]
    cases hSeen : seen.find? (isExact tools aliases canonical) with
    | some earlier =>
      rw [if_neg fun h => Option.some_ne_none _ h.2]
      refine List.map_congr_left fun field _ => ?_
      rw [List.find?_append, List.find?_singleton]
      by_cases hSame : field = canonical
      · rw [hSame, hSeen]
        rfl
      · rw [if_neg fun h => hSame (isExact_unique hFit h hExact), Option.or_none]
    | none =>
      rw [if_pos ⟨hNonempty, rfl⟩, assign_of_mem (by rwa [map_fst_exactMapping]), exactMapping,
        List.map_map]
      refine List.map_congr_left fun field _ => ?_
      rw [Function.comp_apply, List.find?_append, List.find?_singleton]
      dsimp only
      by_cases hSame : field = canonical
      · rw [if_pos hSame, hSame, hSeen, if_pos hExact]
        rfl
      · rw [if_neg hSame, if_neg fun h => hSame (isExact_unique hFit h hExact), Option.or_none]

theorem foldl_exactStep (hFit : AliasesFit fields aliases) (hNamed : "" ∉ fields) :
    (columns.map fun column => (column, tools.normalized column)).foldl (exactStep (aliasLookup aliases))
      (exactMapping tools aliases fields seen) = exactMapping tools aliases fields (seen ++ columns) := by
  induction columns generalizing seen with
  | nil => rw [List.append_nil, List.map_nil, List.foldl_nil]
  | cons column columns ih =>
    rw [List.map_cons, List.foldl_cons, exactStep_exactMapping hFit hNamed, ih, List.append_assoc,
      List.singleton_append]

end Exact

/-- Between the fields: the remaining columns are those that no field has been given. -/
structure MappingState.Sound (fields columns : List String) (state : MappingState) : Prop where
  keys : state.result.map Prod.fst = fields
  within : ∀ field column, (field, some column) ∈ state.result → column ∈ columns
  injective : ∀ field other column, (field, some column) ∈ state.result →
    (other, some column) ∈ state.result → field = other
  unmapped : state.unmappedColumns = columns.filter fun column =>
    !(state.result.map Prod.snd).contains (some column)

section Fuzzy

variable {tools : MappingTools} {fields : List String} {aliases : Aliases}
  {field other column : String} {columns : List String} {state : MappingState}
  {value : Option String}

theorem mem_unmapped (h : state.Sound fields columns) : column ∈ state.unmappedColumns ↔
    column ∈ columns ∧ ∀ field, (field, some column) ∉ state.result := by
  rw [h.unmapped, List.mem_filter, Bool.not_eq_true', ← Bool.not_eq_true, List.contains_iff_mem,
    List.mem_map]
  refine and_congr_right fun _ => ?_
  constructor
  · intro hNone field hField
    exact hNone ⟨(field, some column), hField, rfl⟩
  · rintro hNone ⟨⟨field, _⟩, hField, rfl⟩
    exact hNone field hField

theorem lookup_result (hFields : fields.Nodup) (h : state.Sound fields columns) :
    state.result.lookup field = some value ↔ (field, value) ∈ state.result :=
  lookup_eq_some_iff_mem (by rwa [h.keys])

theorem some_notMem (hFields : fields.Nodup) (h : state.Sound fields columns)
    (hNone : (field, none) ∈ state.result) : (field, some column) ∉ state.result := by
  intro hSome
  have hValue := (lookup_result hFields h).mpr hNone
  rw [(lookup_result hFields h).mpr hSome] at hValue
  cases hValue

theorem exists_value (h : state.Sound fields columns) (hField : field ∈ fields) :
    ∃ value, (field, value) ∈ state.result := by
  rw [← h.keys] at hField
  obtain ⟨⟨_, value⟩, hValue, rfl⟩ := List.mem_map.mp hField
  exact ⟨value, hValue⟩

/-- A step gives the field the first close column that remains, or leaves everything as it is. -/
theorem fuzzyStep_cases (hFields : fields.Nodup) (h : state.Sound fields columns)
    (hField : field ∈ fields) :
    (∃ column, (field, some column) ∈ state.result ∧ fuzzyStep tools aliases state field = state) ∨
    ((field, none) ∈ state.result ∧
      (∃ column ∈ state.unmappedColumns, fuzzyStep tools aliases state field =
      ⟨assign state.result field (some column), state.unmappedColumns.erase column⟩)) ∨
    ((field, none) ∈ state.result ∧ (∀ column ∈ state.unmappedColumns,
      tools.getCloseMatches (tools.normalized column) (candidates aliases field) = []) ∧
        fuzzyStep tools aliases state field = state) := by
  obtain ⟨value, hValue⟩ := exists_value h hField
  unfold fuzzyStep
  rw [(lookup_result hFields h).mpr hValue, Option.join_some]
  cases value with
  | some column => exact .inl ⟨column, hValue, if_pos (Option.some_ne_none column)⟩
  | none =>
    refine .inr ?_
    rw [if_neg (not_not_intro rfl)]
    cases hFind : state.unmappedColumns.find? fun column =>
        !(tools.getCloseMatches (tools.normalized column) (candidates aliases field)).isEmpty with
    | some column => exact .inl ⟨hValue, column, List.mem_of_find?_eq_some hFind, rfl⟩
    | none =>
      refine .inr ⟨hValue, fun column hColumn => ?_, rfl⟩
      have hNone := List.find?_eq_none.mp hFind column hColumn
      rwa [Bool.not_eq_true', Bool.not_eq_false, List.isEmpty_iff] at hNone

theorem sound_assign (hColumns : columns.Nodup) (h : state.Sound fields columns)
    (hField : field ∈ fields) (hColumn : column ∈ state.unmappedColumns)
    (hNone : (field, none) ∈ state.result) (hFields : fields.Nodup) :
    MappingState.Sound fields columns
      ⟨assign state.result field (some column), state.unmappedColumns.erase column⟩ := by
  obtain ⟨hMem, hFree⟩ := (mem_unmapped h).mp hColumn
  have hKey : field ∈ state.result.map Prod.fst := h.keys ▸ hField
  have hAssigned : ∀ other name, (other, some name) ∈ assign state.result field (some column) →
      other = field ∧ name = column ∨ other ≠ field ∧ (other, some name) ∈ state.result := by
    intro other name hOther
    rw [mem_assign hKey] at hOther
    split at hOther
    · exact .inl ⟨‹_›, Option.some.inj hOther⟩
    · exact .inr ⟨‹_›, hOther⟩
  refine ⟨(map_fst_assign hKey).trans h.keys, ?_, ?_, ?_⟩
  · intro other name hOther
    obtain ⟨-, rfl⟩ | ⟨-, hOld⟩ := hAssigned other name hOther
    · exact hMem
    · exact h.within other name hOld
  · intro first second name hFirst hSecond
    obtain ⟨rfl, rfl⟩ | ⟨-, hFirst⟩ := hAssigned first name hFirst
    · obtain ⟨rfl, -⟩ | ⟨-, hSecond⟩ := hAssigned second name hSecond
      · rfl
      · exact absurd hSecond (hFree second)
    · obtain ⟨rfl, rfl⟩ | ⟨-, hSecond⟩ := hAssigned second name hSecond
      · exact absurd ‹(first, some name) ∈ state.result› (hFree first)
      · exact h.injective first second name ‹(first, some name) ∈ state.result› hSecond
  · have hNodup : state.unmappedColumns.Nodup := by
      rw [h.unmapped]
      exact hColumns.filter _
    rw [hNodup.erase_eq_filter, h.unmapped, List.filter_filter]
    refine List.filter_congr fun name _ => ?_
    rw [Bool.eq_iff_iff, Bool.and_eq_true, bne_iff_ne, Bool.not_eq_true',
      Bool.not_eq_true', ← Bool.not_eq_true,
      ← Bool.not_eq_true, List.contains_iff_mem, List.contains_iff_mem, List.mem_map, List.mem_map]
    constructor
    · rintro ⟨hOther, hOld⟩ ⟨⟨other, _⟩, hEntry, rfl⟩
      obtain ⟨-, rfl⟩ | ⟨-, hEntry⟩ := hAssigned other name hEntry
      · exact hOther rfl
      · exact hOld ⟨(other, some name), hEntry, rfl⟩
    · intro hNew
      constructor
      · rintro rfl
        exact hNew ⟨(field, some name), (mem_assign hKey).mpr (by rw [if_pos rfl]), rfl⟩
      · rintro ⟨⟨other, _⟩, hEntry, rfl⟩
        refine hNew ⟨(other, some name), (mem_assign hKey).mpr ?_, rfl⟩
        split
        · exact absurd hEntry (some_notMem hFields h (‹other = field› ▸ hNone))
        · exact hEntry

theorem fuzzyStep_sound (hFields : fields.Nodup) (hColumns : columns.Nodup)
    (h : state.Sound fields columns) (hField : field ∈ fields) :
    (fuzzyStep tools aliases state field).Sound fields columns := by
  obtain ⟨_, -, hStep⟩ | ⟨hNone, column, hColumn, hStep⟩ | ⟨-, -, hStep⟩ :=
    @fuzzyStep_cases tools _ aliases _ _ _ hFields h hField
  · rwa [hStep]
  · rw [hStep]
    exact sound_assign hColumns h hField hColumn hNone hFields
  · rwa [hStep]

theorem mem_fuzzyStep_of_ne (hFields : fields.Nodup) (h : state.Sound fields columns)
    (hField : field ∈ fields) (hOther : other ≠ field) :
    (other, value) ∈ (fuzzyStep tools aliases state field).result ↔
      (other, value) ∈ state.result := by
  obtain ⟨_, -, hStep⟩ | ⟨hNone, column, hColumn, hStep⟩ | ⟨-, -, hStep⟩ :=
    @fuzzyStep_cases tools _ aliases _ _ _ hFields h hField
  · rw [hStep]
  · rw [hStep]
    exact (mem_assign (by rwa [h.keys])).trans (by rw [if_neg hOther])
  · rw [hStep]

/-- A field that has a column keeps it. -/
theorem mem_fuzzyStep (hFields : fields.Nodup) (h : state.Sound fields columns)
    (hField : field ∈ fields) (hOther : (other, some column) ∈ state.result) :
    (other, some column) ∈ (fuzzyStep tools aliases state field).result := by
  obtain ⟨_, -, hStep⟩ | ⟨hNone, taken, -, hStep⟩ | ⟨-, -, hStep⟩ :=
    @fuzzyStep_cases tools _ aliases _ _ _ hFields h hField
  · rwa [hStep]
  · have hNe : other ≠ field := by
      rintro rfl
      exact some_notMem hFields h hNone hOther
    rwa [mem_fuzzyStep_of_ne hFields h hField hNe]
  · rwa [hStep]

section Runs

variable {rest : List String}

theorem foldl_fuzzyStep_sound (hFields : fields.Nodup) (hColumns : columns.Nodup)
    (h : state.Sound fields columns) (hRest : ∀ field ∈ rest, field ∈ fields) :
    (rest.foldl (fuzzyStep tools aliases) state).Sound fields columns := by
  induction rest generalizing state with
  | nil => exact h
  | cons field rest ih =>
    obtain ⟨hField, hRest⟩ := List.forall_mem_cons.mp hRest
    exact ih (fuzzyStep_sound hFields hColumns h hField) hRest

theorem mem_foldl_fuzzyStep_of_notMem (hFields : fields.Nodup) (hColumns : columns.Nodup)
    (h : state.Sound fields columns) (hRest : ∀ field ∈ rest, field ∈ fields)
    (hOther : other ∉ rest) :
    (other, value) ∈ (rest.foldl (fuzzyStep tools aliases) state).result ↔
      (other, value) ∈ state.result := by
  induction rest generalizing state with
  | nil => exact Iff.rfl
  | cons field rest ih =>
    obtain ⟨hField, hRest⟩ := List.forall_mem_cons.mp hRest
    have hNe : other ≠ field := fun hSame => hOther (hSame ▸ List.mem_cons_self)
    have hOther : other ∉ rest := fun hMem => hOther (List.mem_cons_of_mem field hMem)
    exact (ih (fuzzyStep_sound hFields hColumns h hField) hRest hOther).trans
      (mem_fuzzyStep_of_ne hFields h hField hNe)

theorem mem_foldl_fuzzyStep (hFields : fields.Nodup) (hColumns : columns.Nodup)
    (h : state.Sound fields columns) (hRest : ∀ field ∈ rest, field ∈ fields)
    (hOther : (other, some column) ∈ state.result) :
    (other, some column) ∈ (rest.foldl (fuzzyStep tools aliases) state).result := by
  induction rest generalizing state with
  | nil => exact hOther
  | cons field rest ih =>
    obtain ⟨hField, hRest⟩ := List.forall_mem_cons.mp hRest
    exact ih (fuzzyStep_sound hFields hColumns h hField) hRest (mem_fuzzyStep hFields h hField hOther)

/-- A field that is left without a column was close to none of the columns that remained. -/
theorem not_close_of_none {before after : List String} (hFields : fields.Nodup)
    (hColumns : columns.Nodup) (h : state.Sound fields columns)
    (hSplit : fields = before ++ field :: after)
    (hNone : (field, none) ∈ (fields.foldl (fuzzyStep tools aliases) state).result)
    (hColumn : column ∈ columns)
    (hRemains : ∀ other,
      (other, some column) ∈ (fields.foldl (fuzzyStep tools aliases) state).result →
      other ∉ before ∧ (other, some column) ∉ state.result) :
    tools.getCloseMatches (tools.normalized column) (candidates aliases field) = [] := by
  have hBeforeFields : ∀ named ∈ before, named ∈ fields :=
    fun named hNamed => hSplit ▸ List.mem_append_left _ hNamed
  have hField : field ∈ fields := hSplit ▸ List.mem_append_right before List.mem_cons_self
  have hAfterFields : ∀ named ∈ after, named ∈ fields := fun named hNamed =>
    hSplit ▸ List.mem_append_right before (List.mem_cons_of_mem field hNamed)
  have hFresh : field ∉ after :=
    (List.nodup_cons.mp (List.nodup_append.mp (hSplit ▸ hFields)).2.1).1
  have hFold : fields.foldl (fuzzyStep tools aliases) state = after.foldl (fuzzyStep tools aliases)
      (fuzzyStep tools aliases (before.foldl (fuzzyStep tools aliases) state) field) := by
    rw [hSplit, List.foldl_append, List.foldl_cons]
  rw [hFold] at hNone hRemains
  have hBefore := @foldl_fuzzyStep_sound tools _ aliases _ _ _ hFields hColumns h hBeforeFields
  have hAt := @fuzzyStep_sound tools _ aliases _ _ _ hFields hColumns hBefore hField
  rw [mem_foldl_fuzzyStep_of_notMem hFields hColumns hAt hAfterFields hFresh] at hNone
  have hUnassigned : ∀ name, (field, some name) ∉
      (fuzzyStep tools aliases (before.foldl (fuzzyStep tools aliases) state) field).result :=
    fun name => some_notMem hFields hAt hNone
  obtain ⟨name, hSome, hStep⟩ | ⟨-, name, hName, hStep⟩ | ⟨-, hClose, -⟩ :=
    @fuzzyStep_cases tools _ aliases _ _ _ hFields hBefore hField
  · refine absurd ?_ (hUnassigned name)
    rw [hStep]
    exact hSome
  · refine absurd ?_ (hUnassigned name)
    rw [hStep]
    exact (mem_assign (by rwa [hBefore.keys])).mpr (by rw [if_pos rfl])
  · refine hClose column ((mem_unmapped hBefore).mpr ⟨hColumn, fun other hOther => ?_⟩)
    obtain ⟨hLater, hState⟩ := hRemains other (mem_foldl_fuzzyStep hFields hColumns hAt hAfterFields
      (mem_fuzzyStep hFields hBefore hField hOther))
    exact hState ((mem_foldl_fuzzyStep_of_notMem hFields hColumns h hBeforeFields hLater).mp hOther)

end Runs

end Fuzzy

section Suggestions

variable {tools : MappingTools} {fields sourceColumns : List String} {aliases : Aliases}

theorem sound_exactMapping (hFit : AliasesFit fields aliases) :
    MappingState.Sound fields sourceColumns
    ⟨exactMapping tools aliases fields sourceColumns, sourceColumns.filter fun column =>
      !((exactMapping tools aliases fields sourceColumns).map Prod.snd).contains (some column)⟩ := by
  refine ⟨map_fst_exactMapping, fun field column h => ?_, fun field other column h hOther =>
    ?_, rfl⟩
  · exact List.mem_of_find?_eq_some (mem_exactMapping.mp h).2.symm
  · exact isExact_unique hFit (List.find?_some (mem_exactMapping.mp h).2.symm)
      (List.find?_some (mem_exactMapping.mp hOther).2.symm)

theorem suggestMapping_eq (hColumns : sourceColumns.Nodup) (hFit : AliasesFit fields aliases)
    (hNamed : "" ∉ fields) : suggestMapping tools sourceColumns fields aliases =
      (fields.foldl (fuzzyStep tools aliases) ⟨exactMapping tools aliases fields sourceColumns,
        sourceColumns.filter fun column =>
          !((exactMapping tools aliases fields sourceColumns).map Prod.snd).contains
            (some column)⟩).result := by
  have hNormalized : dictOf (sourceColumns.map fun column => (column, tools.normalized column)) =
      sourceColumns.map fun column => (column, tools.normalized column) := by
    refine dictOf_of_nodup ?_
    rw [List.map_map]
    exact (List.map_id sourceColumns).symm ▸ hColumns
  have hResult : dictOf (fields.map fun field => (field, (none : Option String))) =
      exactMapping tools aliases fields [] := by
    refine dictOf_of_nodup ?_
    rw [List.map_map]
    exact (List.map_id fields).symm ▸ hFit.distinct
  have hExact := @foldl_exactStep tools _ _ sourceColumns [] hFit hNamed
  rw [List.nil_append] at hExact
  rw [suggestMapping, hNormalized, hResult, hExact]

end Suggestions

/-- No column is suggested for two fields: an exact name comes first, then the first close one that
remains. -/
theorem suggestMapping_injective (tools : MappingTools) (sourceColumns fields : List String)
    (aliases : Aliases) (hColumns : sourceColumns.Nodup) (hFit : AliasesFit fields aliases)
    (hNamed : "" ∉ fields) :
    SuggestsInjectively tools sourceColumns fields aliases
      (suggestMapping tools sourceColumns fields aliases) := by
  rw [suggestMapping_eq hColumns hFit hNamed]
  have hExact := @sound_exactMapping tools _ sourceColumns _ hFit
  have hSound :=
    @foldl_fuzzyStep_sound tools _ aliases _ _ fields hFit.distinct hColumns hExact fun field h => h
  refine ⟨hSound.keys, hSound.within, hSound.injective, ?_, ?_⟩
  · intro field hField column hFirst
    exact mem_foldl_fuzzyStep hFit.distinct hColumns hExact (fun named h => h)
      (mem_exactMapping.mpr ⟨hField, hFirst.symm⟩)
  · intro before field after hSplit hNone column hColumn hRemains
    refine not_close_of_none hFit.distinct hColumns hExact hSplit hNone hColumn fun other hOther =>
      ?_
    obtain ⟨hLater, hNotExact⟩ := hRemains other hOther
    refine ⟨hLater, fun hMem => ?_⟩
    rw [← (mem_exactMapping.mp hMem).2] at hNotExact
    cases hNotExact

def commonPrefix : List Char → List Char → Nat
  | a :: as, b :: bs => if a = b then commonPrefix as bs + 1 else 0
  | _, _ => 0

/-- The longest block that two texts have in common, the earliest of equally long ones, with its two
places. -/
def longestMatch (a b : List Char) : Nat × Nat × Nat :=
  ((List.range a.length).flatMap fun i => (List.range b.length).map fun j => (i, j)).foldl
    (fun best place =>
      let size := commonPrefix (a.drop place.1) (b.drop place.2)
      if best.2.2 < size then (place.1, place.2, size) else best) (0, 0, 0)

/-- The characters in the blocks that the sequence matcher finds, to the left and the right of the
longest one. -/
def matchedCharacters : Nat → List Char → List Char → Nat
  | 0, _, _ => 0
  | fuel + 1, a, b =>
    match longestMatch a b with
    | (_, _, 0) => 0
    | (i, j, size) =>
      size + matchedCharacters fuel (a.take i) (b.take j) +
        matchedCharacters fuel (a.drop (i + size)) (b.drop (j + size))

/-- The ratio of the sequence matcher is at least the cutoff of 0.75. -/
def reachesCutoff (word candidate : String) : Bool :=
  3 * (candidate.length + word.length) ≤
    8 * matchedCharacters candidate.length candidate.toList word.toList

/-- Lowercasing of unaccented letters, and the close matches of the sequence matcher. -/
def plainTools : MappingTools where
  lower text := String.ofList (text.toList.map Char.toLower)
  getCloseMatches word candidates := (candidates.filter (reachesCutoff word)).take 1

example : plainTools.getCloseMatches "skuu" ["", "sku"] = ["sku"] := by decide +kernel

/-- A field whose name is empty is passed over by the exact names, and takes a close column before.
-/
theorem not_forall_suggestions_injective :
    ¬∀ (tools : MappingTools) (sourceColumns fields : List String)
    (aliases : Aliases), sourceColumns.Nodup → AliasesFit fields aliases →
      SuggestsInjectively tools sourceColumns fields aliases
        (suggestMapping tools sourceColumns fields aliases) := by
  intro h
  have hSuggests := h plainTools ["skuu", "sku"] [""] [("", ["sku"])] (by decide)
    (by refine ⟨?_, ?_, ?_, ?_⟩ <;> decide)
  have hMapping : suggestMapping plainTools ["skuu", "sku"] [""] [("", ["sku"])] =
      [("", some "skuu")] := by
    decide +kernel
  have hMem := hSuggests.exact "" List.mem_cons_self "sku" (by decide +kernel)
  rw [hMapping] at hMem
  revert hMem
  decide

theorem suggestMapping_injective_of_priceList : SuggestsInjectively plainTools
    ["Item Code", "Description", "Nett Price", "Date"] canonicalFields defaultAliases
      (suggestMapping plainTools ["Item Code", "Description", "Nett Price", "Date"] canonicalFields
        defaultAliases) :=
  suggestMapping_injective plainTools _ _ _ (by decide) defaultAliases_fit (by decide)

end ProcureFoundation.Ingestion
