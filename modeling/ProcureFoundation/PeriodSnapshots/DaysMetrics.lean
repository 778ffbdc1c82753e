import ProcureFoundation.PeriodSnapshots.Values

/-!
# Days metrics at the storage boundary

The metrics of days in exact arithmetic, as the boundary lets them through: a component beyond its
column is left out and named in the diagnostics, the cycle is there only with all three components
and in range itself.
-/

namespace ProcureFoundation.PeriodSnapshots

structure Figures where
  ar : ℚ
  ap : ℚ
  inventory : ℚ
  annualRevenue : ℚ
  annualCogs : ℚ
  cash : Option ℚ

abbrev Days := FixedPoint 1

def roundDays (value : ℚ) : Days := FixedPoint.quantize 1 value

/-- Balance over flow in days, where the flow is not zero. -/
def exactDays (balance flow : ℚ) : Option Days :=
  if flow = 0 then none else some (roundDays (balance / flow * 365))

def Figures.dso (figures : Figures) : Option Days := exactDays figures.ar figures.annualRevenue

def Figures.dio (figures : Figures) : Option Days := exactDays figures.inventory figures.annualCogs

def Figures.dpo (figures : Figures) : Option Days := exactDays figures.ap figures.annualCogs

def exactCycle : Option Days → Option Days → Option Days → Option Days
  | some dio, some dso, some dpo => some (roundDays (dio.value + dso.value - dpo.value))
  | _, _, _ => none

def exactRatio (figures : Figures) : Option (FixedPoint 2) :=
  match figures.cash with
  | none => none
  | some cash => if figures.ap = 0 then none
    else some (FixedPoint.quantize 2 ((figures.ar + figures.inventory + cash) / figures.ap))

/-- What calculating the metrics returns when no operation rounds but the last. -/
def exactMetrics (figures : Figures) : WorkingCapitalMetrics where
  dso := figures.dso.map .number
  dio := figures.dio.map .number
  dpo := figures.dpo.map .number
  ccc := (exactCycle figures.dio figures.dso figures.dpo).map .number
  workingCapitalRatio := (exactRatio figures).map .number

def daysMetricStorageMaxAbs : ℚ := 999999999 / 10

def beyondStorage (days : Option Days) : Bool :=
  days.any fun days => decide (daysMetricStorageMaxAbs < |days.value|)

def withinStorage (days : Option Days) : Option Days :=
  days.filter fun days => !decide (daysMetricStorageMaxAbs < |days.value|)

section Boundary

variable {figures : Figures} {days dio dso dpo : Option Days}

theorem beyond_iff (x : Days) : 999999999 < |x.units| ↔ daysMetricStorageMaxAbs < |x.value| := by
  have hValue : |x.value| = ((|x.units| : ℤ) : ℚ) / 10 := by
    rw [FixedPoint.value, abs_div, pow_one, abs_of_pos (by norm_num : (0 : ℚ) < 10), Int.cast_abs]
  rw [hValue, daysMetricStorageMaxAbs, div_lt_div_iff_of_pos_right (by norm_num)]
  exact_mod_cast Iff.rfl

theorem outOfRange_number (days : Option Days) :
    outOfRange (days.map .number) = .ok (beyondStorage days) := by
  cases days with
  | none => rfl
  | some x =>
    refine congrArg Except.ok ?_
    exact decide_eq_decide.mpr (beyond_iff x)

theorem withinStorage_eq (days : Option Days) : withinStorage days = if beyondStorage days then none
    else days := by
  cases days with
  | none => rfl
  | some x =>
    unfold withinStorage beyondStorage
    rw [Option.filter_some, Option.any_some]
    cases decide (daysMetricStorageMaxAbs < |x.value|) with
    | true => rfl
    | false => rfl

/-- The column takes what is within the boundary as it is. -/
theorem column_withinStorage (days : Option Days) :
    storeOption (Numeric.column 9)
    ((withinStorage days).map .number) = .ok ((withinStorage days).map .number) := by
  cases hDays : withinStorage days with
  | none => rfl
  | some x =>
    have hNot := (Option.filter_eq_some_iff.mp hDays).2
    rw [Bool.not_eq_true', decide_eq_false_iff_not, ← beyond_iff] at hNot
    have hUnits : |x.units| < 10 ^ 9 := by omega
    rw [Option.map_some, storeOption, Numeric.column, if_pos hUnits]
    rfl

end Boundary

section Metrics

variable {figures : Figures} {balance flow : ℚ}

def Figures.cycle (figures : Figures) : Option Days :=
  exactCycle figures.dio figures.dso figures.dpo

/-- All three components are there and within the boundary. -/
def componentsStored (figures : Figures) : Bool :=
  (withinStorage figures.dso).isSome && (withinStorage figures.dio).isSome &&
    (withinStorage figures.dpo).isSome

def nameIf (condition : Bool) (name : String) : List String := if condition then [name] else []

def componentsBeyond (figures : Figures) : List String :=
  nameIf (beyondStorage figures.dso) "dso" ++ nameIf (beyondStorage figures.dio) "dio" ++
    nameIf (beyondStorage figures.dpo) "dpo"

def metricsBeyond (figures : Figures) : List String :=
  componentsBeyond figures ++ nameIf (componentsStored figures && beyondStorage figures.cycle) "ccc"

def codesOf (figures : Figures) : List String :=
  (metricsBeyond figures).map (fun name => name ++ "_out_of_range") ++
    (componentsBeyond figures).map fun name => "ccc_unavailable_" ++ name ++ "_out_of_range"

def storedMetrics (figures : Figures) : WorkingCapitalMetrics where
  dso := (withinStorage figures.dso).map .number
  dio := (withinStorage figures.dio).map .number
  dpo := (withinStorage figures.dpo).map .number
  ccc := (if componentsStored figures then withinStorage figures.cycle else none).map .number
  workingCapitalRatio := (exactRatio figures).map .number

theorem isSome_withinStorage (days : Option Days) :
    (withinStorage days).isSome = (days.isSome && !beyondStorage days) := by
  rw [withinStorage_eq]
  cases beyondStorage days with
  | true => rw [if_pos rfl, Bool.not_true, Bool.and_false, Option.isSome_none]
  | false => rw [if_neg Bool.false_ne_true, Bool.not_false, Bool.and_true]

theorem map_withinStorage (days : Option Days) : (withinStorage days).map Numeric.number =
    if beyondStorage days then none else days.map .number := by
  rw [withinStorage_eq]
  cases beyondStorage days with
  | true => rfl
  | false => rfl

/-- The boundary applied to the exact metrics. -/
theorem applyDaysMetricStorageBoundary_eq (figures : Figures) :
    applyDaysMetricStorageBoundary (exactMetrics figures) =
      .ok (storedMetrics figures, codesOf figures) := by
  have hSome : ∀ days : Option Days, ((withinStorage days).map Numeric.number).isSome =
      (withinStorage days).isSome :=
    fun days => Option.isSome_map
  have hStored : componentsStored figures = true → beyondStorage figures.dso = false ∧
      beyondStorage figures.dio = false ∧ beyondStorage figures.dpo = false := by
    intro hAll
    rw [componentsStored, isSome_withinStorage, isSome_withinStorage, isSome_withinStorage] at hAll
    simp only [Bool.and_eq_true, Bool.not_eq_true'] at hAll
    exact ⟨hAll.1.1.2, hAll.1.2.2, hAll.2.2⟩
  unfold applyDaysMetricStorageBoundary
  simp only [exactMetrics, outOfRange_number, ← map_withinStorage, hSome, bind, Except.bind, pure,
    Except.pure]
  change (if componentsStored figures then _ else _) = _
  cases hAll : componentsStored figures with
  | true =>
    obtain ⟨hDso, hDio, hDpo⟩ := hStored hAll
    rw [storedMetrics, codesOf, metricsBeyond, componentsBeyond, hAll, hDso, hDio, hDpo,
      Figures.cycle]
    cases beyondStorage (exactCycle figures.dio figures.dso figures.dpo) <;> rfl
  | false =>
    rw [storedMetrics, codesOf, metricsBeyond, componentsBeyond, hAll]
    cases beyondStorage figures.dso <;> cases beyondStorage figures.dio <;>
      cases beyondStorage figures.dpo <;> rfl

/-- A value that the column of days takes as it is. -/
structure Storable (days : Option (Numeric 1)) : Prop where
  bounded : ∀ value, days = some value → ∃ x : Days, value = .number x ∧
    |x.value| ≤ daysMetricStorageMaxAbs
  column : storeOption (Numeric.column 9) days = .ok days

/-- A component is left out exactly where there is nothing to divide by or it is out of range. -/
structure ComponentKept (balance flow : ℚ) (calculated stored : Option (Numeric 1)) : Prop where
  none_iff : stored = none ↔
    flow = 0 ∨ daysMetricStorageMaxAbs < |(roundDays (balance / flow * 365)).value|
  unchanged : ∀ days, stored = some days → calculated = some days

structure BoundaryKept (figures : Figures) (stored : WorkingCapitalMetrics)
    (diagnostics : List String) : Prop where
  dso : ComponentKept figures.ar figures.annualRevenue (exactMetrics figures).dso stored.dso
  dio : ComponentKept figures.inventory figures.annualCogs (exactMetrics figures).dio stored.dio
  dpo : ComponentKept figures.ap figures.annualCogs (exactMetrics figures).dpo stored.dpo
  storable : ∀ days ∈ [stored.dso, stored.dio, stored.dpo, stored.ccc], Storable days
  ccc : ∀ cycle, stored.ccc = some cycle ↔ ∃ dio dso dpo : Days, stored.dio = some (.number dio) ∧
    stored.dso = some (.number dso) ∧ stored.dpo = some (.number dpo) ∧
    |dio.value + dso.value - dpo.value| ≤ daysMetricStorageMaxAbs ∧
      cycle = .number (dio + dso - dpo)
  codes : diagnostics = codesOf figures
  nodup : diagnostics.Nodup
  quiet : metricsBeyond figures = [] → diagnostics = []

theorem storable_withinStorage (days : Option Days) :
    Storable ((withinStorage days).map .number) := by
  refine ⟨?_, column_withinStorage days⟩
  intro value hValue
  obtain ⟨x, hx, rfl⟩ := Option.map_eq_some_iff.mp hValue
  have hNot := (Option.filter_eq_some_iff.mp hx).2
  rw [Bool.not_eq_true', decide_eq_false_iff_not, not_lt] at hNot
  exact ⟨x, rfl, hNot⟩

theorem componentKept_exactDays (balance flow : ℚ) :
    ComponentKept balance flow ((exactDays balance flow).map .number)
      ((withinStorage (exactDays balance flow)).map .number) := by
  constructor
  · rw [Option.map_eq_none_iff, withinStorage, exactDays]
    split
    · rename_i hZero
      exact iff_of_true rfl (.inl hZero)
    · rename_i hNonzero
      rw [Option.filter_eq_none_iff, or_iff_right hNonzero]
      constructor
      · intro h
        have hBeyond := h _ rfl
        rwa [Bool.not_eq_true, Bool.not_eq_false', decide_eq_true_eq] at hBeyond
      · rintro h _ ⟨⟩
        rw [Bool.not_eq_true, Bool.not_eq_false', decide_eq_true_eq]
        exact h
  · intro days hDays
    obtain ⟨x, hx, rfl⟩ := Option.map_eq_some_iff.mp hDays
    rw [(Option.filter_eq_some_iff.mp hx).1, Option.map_some]

theorem roundDays_cycle (dio dso dpo : Days) :
    roundDays (dio.value + dso.value - dpo.value) = dio + dso - dpo := by
  rw [← FixedPoint.value_add, ← FixedPoint.value_sub]
  exact FixedPoint.quantize_value _

theorem exactCycle_eq_some_iff {dio dso dpo : Option Days} {cycle : Days} :
    exactCycle dio dso dpo = some cycle ↔
    ∃ x y z, dio = some x ∧ dso = some y ∧ dpo = some z ∧ cycle = x + y - z := by
  unfold exactCycle
  split
  · rename_i x y z
    rw [Option.some.injEq, roundDays_cycle]
    constructor
    · rintro rfl
      exact ⟨x, y, z, rfl, rfl, rfl, rfl⟩
    · rintro ⟨_, _, _, ⟨⟩, ⟨⟩, ⟨⟩, rfl⟩
      rfl
  · rename_i hNot
    refine iff_of_false (fun h => by cases h) ?_
    rintro ⟨x, y, z, rfl, rfl, rfl, -⟩
    exact hNot x y z rfl rfl rfl

theorem withinStorage_eq_some_iff {days : Option Days} {x : Days} :
    withinStorage days = some x ↔ days = some x ∧ |x.value| ≤ daysMetricStorageMaxAbs := by
  rw [withinStorage, Option.filter_eq_some_iff, Bool.not_eq_true', decide_eq_false_iff_not, not_lt]

theorem ccc_storedMetrics_iff {figures : Figures} {cycle : Numeric 1} :
    (storedMetrics figures).ccc = some cycle ↔
    ∃ dio dso dpo : Days, (storedMetrics figures).dio = some (.number dio) ∧
      (storedMetrics figures).dso = some (.number dso) ∧ (storedMetrics figures).dpo =
        some (.number dpo) ∧
      |dio.value + dso.value - dpo.value| ≤ daysMetricStorageMaxAbs ∧
        cycle = .number (dio + dso - dpo) := by
  have hStored : ∀ {days : Option Days} {x : Days}, (withinStorage days).map Numeric.number =
    some (.number x) ↔
      withinStorage days = some x := by
    intro days x
    rw [Option.map_eq_some_iff]
    constructor
    · rintro ⟨y, hy, ⟨⟩⟩
      exact hy
    · intro h
      exact ⟨x, h, rfl⟩
  simp only [storedMetrics, hStored]
  rw [Option.map_eq_some_iff]
  constructor
  · rintro ⟨x, hx, rfl⟩
    split at hx
    · rename_i hAll
      rw [componentsStored, Bool.and_eq_true, Bool.and_eq_true] at hAll
      obtain ⟨⟨hDso, hDio⟩, hDpo⟩ := hAll
      obtain ⟨dso, hDso⟩ := Option.isSome_iff_exists.mp hDso
      obtain ⟨dio, hDio⟩ := Option.isSome_iff_exists.mp hDio
      obtain ⟨dpo, hDpo⟩ := Option.isSome_iff_exists.mp hDpo
      obtain ⟨hCycle, hBound⟩ := withinStorage_eq_some_iff.mp hx
      obtain ⟨dio', dso', dpo', hDio', hDso', hDpo', rfl⟩ := exactCycle_eq_some_iff.mp hCycle
      obtain rfl := Option.some.inj (hDio'.symm.trans (withinStorage_eq_some_iff.mp hDio).1)
      obtain rfl := Option.some.inj (hDso'.symm.trans (withinStorage_eq_some_iff.mp hDso).1)
      obtain rfl := Option.some.inj (hDpo'.symm.trans (withinStorage_eq_some_iff.mp hDpo).1)
      refine ⟨dio', dso', dpo', hDio, hDso, hDpo, ?_, rfl⟩
      rwa [FixedPoint.value_sub, FixedPoint.value_add] at hBound
    · cases hx
  · rintro ⟨dio, dso, dpo, hDio, hDso, hDpo, hBound, rfl⟩
    have hAll : componentsStored figures = true := by
      rw [componentsStored, hDio, hDso, hDpo]
      rfl
    refine ⟨dio + dso - dpo, ?_, rfl⟩
    rw [if_pos hAll, withinStorage_eq_some_iff]
    refine ⟨exactCycle_eq_some_iff.mpr ⟨dio, dso, dpo, (withinStorage_eq_some_iff.mp hDio).1,
      (withinStorage_eq_some_iff.mp hDso).1, (withinStorage_eq_some_iff.mp hDpo).1, rfl⟩, ?_⟩
    rwa [FixedPoint.value_sub, FixedPoint.value_add]

theorem nodup_codesOf (figures : Figures) : (codesOf figures).Nodup := by
  rw [codesOf, metricsBeyond, componentsBeyond]
  cases beyondStorage figures.dso <;> cases beyondStorage figures.dio <;>
    cases beyondStorage figures.dpo <;>
    cases componentsStored figures && beyondStorage figures.cycle <;> decide

end Metrics

end ProcureFoundation.PeriodSnapshots
