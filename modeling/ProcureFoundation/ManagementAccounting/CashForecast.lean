import ProcureFoundation.Foundation.EveryStep
import ProcureFoundation.Foundation.ExactDecimals
import ProcureFoundation.Foundation.RoundingOrder
import ProcureFoundation.ManagementAccounting.NetMargin

/-!
# The cash forecast of thirteen weeks

A week with a figure missing locks the whole forecast. Otherwise each week starts from the cash that
the week before it ended with, and while no running total has more than the 28 digits of the
arithmetic context nothing is rounded on the way: every ending is the opening cash and the changes
so far.
-/

namespace ProcureFoundation.ManagementAccounting

open Outcome

structure WeeklyCashPosition where
  endingCash : Numeric 4
  isOverdraft : Bool
deriving DecidableEq

def calculateWeeklyCashPosition (startingCash resolvedCashReceipts forcedSupplierPayments
    gateBOperationalCostPools : Number) : Except String WeeklyCashPosition := do
  let received ← startingCash.add resolvedCashReceipts
  let paid ← received.sub forcedSupplierPayments
  let position ← paid.sub gateBOperationalCostPools
  let endingCash ← position.quantize 4
  let isOverdraft ← isNegative endingCash
  return ⟨endingCash, isOverdraft⟩

def requiredWeeklyKeys : List String :=
  ["resolved_cash_receipts", "forced_supplier_payments", "gate_b_operational_cost_pools"]

/-- A dictionary of one week; a key may be absent or stand with no value. -/
abbrev WeeklyInput := List (String × Option Number)

namespace WeeklyInput

def get (week : WeeklyInput) (key : String) : Option Number := (week.lookup key).join

def missing (week : WeeklyInput) : List String :=
  requiredWeeklyKeys.filter fun key => (week.get key).isNone

def figure (week : WeeklyInput) (key : String) : Except String Number :=
  match week.lookup key with
  | some (some value) => .ok value
  | some none => .error "unsupported operand type"
  | none => .error key

end WeeklyInput

structure ForecastWeek where
  week : ℕ
  endingCash : Numeric 4
  isOverdraft : Bool
deriving DecidableEq

/-- An incomplete forecast has no weeks, and no first week of an overdraft either. -/
structure Forecast where
  isComplete : Bool
  weeks : Option (List ForecastWeek)
  error : Option String
  firstOverdraftWeek : Option ℕ
deriving DecidableEq

structure RunningForecast where
  weeks : List ForecastWeek
  runningCash : Number
  firstOverdraftWeek : Option ℕ

def forecastWeek (state : RunningForecast) (weekNum : ℕ) (week : WeeklyInput) :
    Except String RunningForecast := do
  let receipts ← week.figure "resolved_cash_receipts"
  let payments ← week.figure "forced_supplier_payments"
  let costPools ← week.figure "gate_b_operational_cost_pools"
  let position ← calculateWeeklyCashPosition state.runningCash receipts payments costPools
  return {
    weeks := state.weeks ++ [⟨weekNum, position.endingCash, position.isOverdraft⟩]
    runningCash := position.endingCash.toNumber
    firstOverdraftWeek :=
      if position.isOverdraft ∧ state.firstOverdraftWeek = none then some weekNum
        else state.firstOverdraftWeek }

def quotedKeys (keys : List String) : String :=
  "[" ++ ", ".intercalate (keys.map fun key => "'" ++ key ++ "'") ++ "]"

def build13WeekCashForecast (openingCash : Number) (weeklyInputs : List WeeklyInput) :
    Except String Forecast := do
  if weeklyInputs.length ≠ 13 then
    return ⟨false, none,
      some ("expected exactly 13 weeks of input, got " ++ toString weeklyInputs.length), none⟩
  match (weeklyInputs.zipIdx 1).find? fun entry => !entry.1.missing.isEmpty with
  | some (week, weekNum) =>
    return ⟨false, none,
      some ("week " ++ toString weekNum ++ " missing: " ++ quotedKeys week.missing), none⟩
  | none =>
    let final ← (weeklyInputs.zipIdx 1).foldlM (fun state entry => forecastWeek state entry.2 entry.1)
      ⟨[], openingCash, none⟩
    return ⟨true, some final.weeks, none, final.firstOverdraftWeek⟩

/-- Thirteen weeks of which none lacks a figure. -/
def Resolved (weeklyInputs : List WeeklyInput) : Prop :=
  weeklyInputs.length = 13 ∧ ∀ week ∈ weeklyInputs, ∀ key ∈ requiredWeeklyKeys, week.get key ≠ none

section Completeness

variable {weeklyInputs : List WeeklyInput} {openingCash : Number} {forecast : Forecast}

theorem missing_isEmpty_iff {week : WeeklyInput} :
    week.missing.isEmpty = true ↔ ∀ key ∈ requiredWeeklyKeys, week.get key ≠ none := by
  rw [List.isEmpty_iff, WeeklyInput.missing, List.filter_eq_nil_iff]
  refine forall₂_congr fun key _ => ?_
  rw [Option.isNone_iff_eq_none]

theorem find_missing_eq_none_iff :
    ((weeklyInputs.zipIdx 1).find? fun entry => !entry.1.missing.isEmpty) = none ↔
      ∀ week ∈ weeklyInputs, ∀ key ∈ requiredWeeklyKeys, week.get key ≠ none := by
  rw [List.find?_eq_none]
  constructor
  · intro h week hWeek
    rw [← List.zipIdx_map_fst 1 weeklyInputs] at hWeek
    obtain ⟨entry, hEntry, rfl⟩ := List.mem_map.mp hWeek
    have hMissing := h entry hEntry
    rw [Bool.not_eq_true', Bool.not_eq_false] at hMissing
    exact missing_isEmpty_iff.mp hMissing
  · intro h entry hEntry
    have hWeek : entry.1 ∈ weeklyInputs := by
      rw [← List.zipIdx_map_fst 1 weeklyInputs]
      exact List.mem_map_of_mem hEntry
    rw [Bool.not_eq_true', Bool.not_eq_false]
    exact missing_isEmpty_iff.mpr (h _ hWeek)

theorem build_of_not_resolved (h : ¬Resolved weeklyInputs) :
    ∃ error, build13WeekCashForecast openingCash weeklyInputs =
      .ok ⟨false, none, some error, none⟩ := by
  unfold build13WeekCashForecast
  by_cases hLength : weeklyInputs.length = 13
  · rw [if_neg (not_not_intro hLength)]
    have hFind : ((weeklyInputs.zipIdx 1).find? fun entry => !entry.1.missing.isEmpty) ≠ none :=
      fun hNone =>
        h ⟨hLength, find_missing_eq_none_iff.mp hNone⟩
    obtain ⟨⟨week, weekNum⟩, hWeek⟩ := Option.ne_none_iff_exists'.mp hFind
    rw [hWeek]
    exact ⟨_, rfl⟩
  · rw [if_pos hLength]
    exact ⟨_, rfl⟩

theorem build_of_resolved (h : Resolved weeklyInputs) :
    build13WeekCashForecast openingCash weeklyInputs = (do
    let final ← (weeklyInputs.zipIdx 1).foldlM (fun state entry => forecastWeek state entry.2 entry.1)
      ⟨[], openingCash, none⟩
    return ⟨true, some final.weeks, none, final.firstOverdraftWeek⟩) := by
  unfold build13WeekCashForecast
  rw [if_neg (not_not_intro h.1), find_missing_eq_none_iff.mpr h.2]

theorem isComplete_iff (h : build13WeekCashForecast openingCash weeklyInputs = .ok forecast) :
    (forecast.isComplete = true ↔ Resolved weeklyInputs) ∧
      (forecast.isComplete = false → forecast.weeks = none) := by
  by_cases hResolved : Resolved weeklyInputs
  · rw [build_of_resolved hResolved] at h
    obtain ⟨final, -, rfl⟩ := bind_pure_eq_ok.mp h
    exact ⟨iff_of_true rfl hResolved, fun hFalse => absurd hFalse.symm Bool.false_ne_true⟩
  · obtain ⟨error, hForecast⟩ := @build_of_not_resolved _ openingCash hResolved
    obtain rfl := Except.ok.inj (hForecast.symm.trans h)
    exact ⟨iff_of_false Bool.false_ne_true hResolved, fun _ => rfl⟩

end Completeness

/-- At most so many times 10²². -/
def AtMost (count : ℕ) (x : ℚ) : Prop := |x| ≤ count * 10 ^ 22

section Returns

variable {count : ℕ} {x y : ℚ}

theorem AtMost.add_returns (hx : AtMost count x) (hy : AtMost 1 y) (hCount : count < 40) :
    ∃ total, (Number.finite x).add (.finite y) = .ok (.finite total) ∧
      AtMost (count + 1) total := by
  have hTotal : |x + y| ≤ ((count + 1 : ℕ) : ℤ) * (10 : ℚ) ^ (22 : ℤ) := by
    refine (abs_add_le x y).trans ((add_le_add hx hy).trans (le_of_eq ?_))
    push_cast
    ring
  have hDigits : |((count + 1 : ℕ) : ℤ)| < 10 ^ 28 := by
    rw [Nat.abs_cast]
    omega
  have hRound : AtMost (count + 1) (contextRound (x + y)) := by
    have hBound := abs_contextRound_le_of_digits hDigits hTotal
    rwa [Int.cast_natCast, zpow_ofNat] at hBound
  have hBelow : |contextRound (x + y)| < 10 ^ 28 := by
    refine LE.le.trans_lt hRound ?_
    have hCast : ((count + 1 : ℕ) : ℚ) ≤ 40 := by exact_mod_cast hCount
    linarith
  exact ⟨contextRound (x + y), Number.ofContext_of_abs_lt hBelow, hRound⟩

theorem AtMost.neg (h : AtMost count x) : AtMost count (-x) := by
  rw [AtMost, abs_neg]
  exact h

theorem AtMost.quantize_returns (h : AtMost count x) (hCount : count ≤ 40) :
    ∃ total : Money, (Number.finite x).quantize 4 = .ok (.number total) ∧
      AtMost count total.value := by
  have hScaled : |x * 10 ^ 4| ≤ ((count * 10 ^ 26 : ℤ) : ℚ) := by
    rw [abs_mul, abs_of_pos (by positivity : (0 : ℚ) < 10 ^ 4)]
    refine (mul_le_mul_of_nonneg_right h (by positivity)).trans (le_of_eq ?_)
    push_cast
    ring
  have hUnits : |(FixedPoint.quantize 4 x).units| ≤ count * 10 ^ 26 := abs_roundHalfEven_le hScaled
  have hDigits : |(FixedPoint.quantize 4 x).units| < 10 ^ 28 := by omega
  refine ⟨FixedPoint.quantize 4 x, if_pos hDigits, ?_⟩
  have hValue : |((FixedPoint.quantize 4 x).units : ℚ)| ≤ count * 10 ^ 26 := by
    exact_mod_cast hUnits
  rw [AtMost, FixedPoint.value, abs_div, abs_of_pos (by positivity : (0 : ℚ) < 10 ^ 4),
    div_le_iff₀ (by positivity)]
  linarith

theorem weeklyCashPosition_returns {receipts payments costPools : ℚ} (hCash : AtMost count x)
    (hReceipts : AtMost 1 receipts) (hPayments : AtMost 1 payments)
    (hCostPools : AtMost 1 costPools) (hCount : count + 3 ≤ 40) :
    ∃ (ending : Money) (isOverdraft : Bool), calculateWeeklyCashPosition (.finite x)
    (.finite receipts)
      (.finite payments) (.finite costPools) = .ok ⟨.number ending, isOverdraft⟩ ∧
        AtMost (count + 3) ending.value := by
  obtain ⟨received, hReceived, hBound⟩ := hCash.add_returns hReceipts (by omega)
  obtain ⟨paid, hPaid, hBound⟩ := hBound.add_returns hPayments.neg (by omega)
  obtain ⟨position, hPosition, hBound⟩ := hBound.add_returns hCostPools.neg (by omega)
  obtain ⟨ending, hEnding, hBound⟩ := hBound.quantize_returns hCount
  refine ⟨ending, decide (ending.units < 0), ?_, hBound⟩
  refine (bind_of_eq_ok hReceived _).trans ?_
  refine (bind_of_eq_ok hPaid _).trans ?_
  refine (bind_of_eq_ok hPosition _).trans ?_
  exact (bind_of_eq_ok hEnding _).trans rfl

end Returns

/-- Every figure that the forecast reads is a number of at most 10²². -/
def WeeklyInput.Small (week : WeeklyInput) : Prop :=
  ∀ key ∈ requiredWeeklyKeys, ∃ value, week.get key = some (.finite value) ∧ AtMost 1 value

theorem WeeklyInput.figure_of_get {week : WeeklyInput} {key : String} {value : Number}
    (h : week.get key = some value) : week.figure key = .ok value := by
  rw [WeeklyInput.figure, Option.join_eq_some_iff.mp h]

def RunningForecast.add (state : RunningForecast) (weekNum : ℕ) (position : WeeklyCashPosition) :
    RunningForecast where
  weeks := state.weeks ++ [⟨weekNum, position.endingCash, position.isOverdraft⟩]
  runningCash := position.endingCash.toNumber
  firstOverdraftWeek :=
    if position.isOverdraft ∧ state.firstOverdraftWeek = none then some weekNum
      else state.firstOverdraftWeek

theorem forecastWeek_eq {state : RunningForecast} {weekNum : ℕ} {week : WeeklyInput}
    {position : WeeklyCashPosition} {receipts payments costPools : Number}
    (hReceipts : week.get "resolved_cash_receipts" = some receipts)
    (hPayments : week.get "forced_supplier_payments" = some payments)
    (hCostPools : week.get "gate_b_operational_cost_pools" = some costPools)
    (hPosition : calculateWeeklyCashPosition state.runningCash receipts payments costPools =
      .ok position) :
    forecastWeek state weekNum week = .ok (state.add weekNum position) := by
  rw [forecastWeek]
  refine (bind_of_eq_ok (WeeklyInput.figure_of_get hReceipts) _).trans ?_
  refine (bind_of_eq_ok (WeeklyInput.figure_of_get hPayments) _).trans ?_
  refine (bind_of_eq_ok (WeeklyInput.figure_of_get hCostPools) _).trans ?_
  exact bind_of_eq_ok hPosition _

theorem forecastWeek_returns {state : RunningForecast} {count weekNum : ℕ} {week : WeeklyInput}
    {cash : ℚ} (hState : state.runningCash = .finite cash) (hCash : AtMost count cash)
    (hWeek : week.Small) (hCount : count + 3 ≤ 40) :
    ∃ final ending, forecastWeek state weekNum week = .ok final ∧
      final.runningCash = .finite ending ∧ AtMost (count + 3) ending := by
  obtain ⟨receipts, hReceiptsRead, hReceipts⟩ := hWeek "resolved_cash_receipts" (by decide)
  obtain ⟨payments, hPaymentsRead, hPayments⟩ := hWeek "forced_supplier_payments" (by decide)
  obtain ⟨costPools, hCostPoolsRead, hCostPools⟩ :=
    hWeek "gate_b_operational_cost_pools" (by decide)
  obtain ⟨ending, isOverdraft, hPosition, hBound⟩ :=
    weeklyCashPosition_returns hCash hReceipts hPayments hCostPools hCount
  rw [← hState] at hPosition
  exact ⟨_, ending.value, forecastWeek_eq hReceiptsRead hPaymentsRead hCostPoolsRead hPosition,
    rfl, hBound⟩

theorem forecastWeeks_return {entries : List (WeeklyInput × ℕ)} {state : RunningForecast}
    {count : ℕ} {cash : ℚ} (hState : state.runningCash = .finite cash) (hCash : AtMost count cash)
    (hWeeks : ∀ entry ∈ entries, entry.1.Small) (hCount : count + 3 * entries.length ≤ 40) :
    ∃ final, entries.foldlM (fun state entry => forecastWeek state entry.2 entry.1) state =
      .ok final := by
  induction entries generalizing state count cash with
  | nil => exact ⟨state, rfl⟩
  | cons entry entries ih =>
    rw [List.length_cons] at hCount
    rw [List.forall_mem_cons] at hWeeks
    obtain ⟨next, ending, hNext, hEnding, hBound⟩ :=
      @forecastWeek_returns _ _ entry.2 _ _ hState hCash hWeeks.1 (by omega)
    rw [List.foldlM_cons, bind_of_eq_ok hNext]
    exact ih hEnding hBound hWeeks.2 (by omega)

theorem build_returns {openingCash : ℚ} {weeklyInputs : List WeeklyInput}
    (hLength : weeklyInputs.length = 13) (hOpening : AtMost 1 openingCash)
    (hWeeks : ∀ week ∈ weeklyInputs, week.Small) :
    ∃ forecast, build13WeekCashForecast (.finite openingCash) weeklyInputs = .ok forecast ∧
      forecast.isComplete = true := by
  have hResolved : Resolved weeklyInputs := by
    refine ⟨hLength, fun week hWeek key hKey => ?_⟩
    obtain ⟨value, hValue, -⟩ := hWeeks week hWeek key hKey
    rw [hValue]
    exact Option.some_ne_none _
  have hEntries : ∀ entry ∈ weeklyInputs.zipIdx 1, entry.1.Small := by
    intro entry hEntry
    refine hWeeks _ ?_
    rw [← List.zipIdx_map_fst 1 weeklyInputs]
    exact List.mem_map_of_mem hEntry
  obtain ⟨final, hFinal⟩ :=
    @forecastWeeks_return _ ⟨[], .finite openingCash, none⟩ _ _ rfl hOpening hEntries (by
      rw [List.length_zipIdx, hLength])
  rw [build_of_resolved hResolved]
  exact ⟨_, bind_of_eq_ok hFinal _, rfl⟩

/-- The figures of a week, none with more than four decimals. -/
structure WeekFigures where
  receipts : Money
  payments : Money
  costPools : Money
deriving DecidableEq

namespace WeekFigures

variable (figures : WeekFigures)

def input : WeeklyInput :=
  [("resolved_cash_receipts", some figures.receipts.number),
    ("forced_supplier_payments", some figures.payments.number),
    ("gate_b_operational_cost_pools", some figures.costPools.number)]

/-- A dictionary from which the figures are read, whatever else stands in it. -/
structure ReadFrom (week : WeeklyInput) : Prop where
  receipts : week.get "resolved_cash_receipts" = some figures.receipts.number
  payments : week.get "forced_supplier_payments" = some figures.payments.number
  costPools : week.get "gate_b_operational_cost_pools" = some figures.costPools.number

def change : ℚ := figures.receipts.value - figures.payments.value - figures.costPools.value

def ending (cash : Money) : Money := cash + figures.receipts - figures.payments - figures.costPools

/-- No running total of the week has more than 28 digits. -/
structure FitsContext (cash : Money) : Prop where
  received : (cash + figures.receipts).Digits
  paid : (cash + figures.receipts - figures.payments).Digits
  ending : (figures.ending cash).Digits

theorem value_ending (cash : Money) :
    (figures.ending cash).value = cash.value + figures.change := by
  rw [ending, FixedPoint.value_sub, FixedPoint.value_sub, FixedPoint.value_add, change]
  ring

def position (cash : Money) : WeeklyCashPosition :=
  ⟨.number (figures.ending cash), decide ((figures.ending cash).units < 0)⟩

theorem calculateWeeklyCashPosition_number {cash : Money} (h : figures.FitsContext cash) :
    calculateWeeklyCashPosition cash.number figures.receipts.number figures.payments.number figures.costPools.number =
      .ok (figures.position cash) := by
  have hEnding : (cash + figures.receipts - figures.payments - figures.costPools).Digits := h.ending
  refine (bind_of_eq_ok (Number.add_number h.received) _).trans ?_
  refine (bind_of_eq_ok (Number.sub_number h.paid) _).trans ?_
  refine (bind_of_eq_ok (Number.sub_number hEnding) _).trans ?_
  exact (bind_of_eq_ok (Number.quantize_number hEnding) _).trans rfl

end WeekFigures

def exactWeeks : ℕ → Money → List WeekFigures → List ForecastWeek
  | _, _, [] => []
  | weekNum, cash, figures :: rest =>
    ⟨weekNum, .number (figures.ending cash), decide ((figures.ending cash).units < 0)⟩ ::
      exactWeeks (weekNum + 1) (figures.ending cash) rest

def exactFirstOverdraft : ℕ → Money → List WeekFigures → Option ℕ
  | _, _, [] => none
  | weekNum, cash, figures :: rest =>
    if (figures.ending cash).units < 0 then some weekNum
      else exactFirstOverdraft (weekNum + 1) (figures.ending cash) rest

/-- The opening cash and the changes of the first weeks. -/
def cashAfter (openingCash : Money) (figures : List WeekFigures) (weeks : ℕ) : ℚ :=
  openingCash.value + ((figures.take weeks).map WeekFigures.change).sum

def overdraftWeeks (openingCash : Money) (figures : List WeekFigures) : Set ℕ :=
  {week | 1 ≤ week ∧ week ≤ figures.length ∧ cashAfter openingCash figures week < 0}

/-- A complete forecast whose endings are sums of the opening cash and the changes so far. -/
structure ExactForecast (openingCash : Money) (figures : List WeekFigures) (forecast : Forecast) :
    Prop where
  isComplete : forecast.isComplete = true
  weeks : ∃ weeks, forecast.weeks = some weeks ∧ weeks.length = figures.length ∧
    ∀ k (h : k < weeks.length),
    weeks[k].week = k + 1 ∧
      (weeks[k].isOverdraft = true ↔ cashAfter openingCash figures (k + 1) < 0) ∧
      ∃ ending, weeks[k].endingCash = .number ending ∧
        ending.value = cashAfter openingCash figures (k + 1)
  firstOverdraft : ∀ week, forecast.firstOverdraftWeek = some week ↔
    IsLeast (overdraftWeeks openingCash figures) week
  noOverdraft : forecast.firstOverdraftWeek = none ↔ overdraftWeeks openingCash figures = ∅

/-- Every week of the second forecast ends with the constant more than the same week of the first.
-/
def ShiftedBy (constant : Money) (forecast shifted : Forecast) : Prop :=
  ∃ weeks shiftedWeeks, forecast.weeks = some weeks ∧ shifted.weeks = some shiftedWeeks ∧
    List.Forall₂ (fun week shiftedWeek => shiftedWeek.week = week.week ∧ ∃ ending,
      week.endingCash = .number ending ∧
      shiftedWeek.endingCash = .number (ending + constant)) weeks shiftedWeeks

section Exact

variable {weekNum : ℕ} {cash constant : Money} {figures : List WeekFigures}
  {weeklyInputs : List WeeklyInput}

theorem units_neg_iff {x : Money} : x.units < 0 ↔ x.value < 0 := by
  rw [FixedPoint.value, div_lt_iff₀ (by positivity), zero_mul, Int.cast_lt_zero]

theorem cashAfter_cons (week : WeekFigures) (k : ℕ) :
    cashAfter cash (week :: figures) (k + 1) = cashAfter (week.ending cash) figures k := by
  rw [cashAfter, cashAfter, List.take_succ_cons, List.map_cons, List.sum_cons, week.value_ending,
    add_assoc]

theorem cashAfter_zero : cashAfter cash figures 0 = cash.value := by
  rw [cashAfter, List.take_zero, List.map_nil, List.sum_nil, add_zero]

theorem length_exactWeeks : (exactWeeks weekNum cash figures).length = figures.length := by
  induction figures generalizing weekNum cash with
  | nil => rfl
  | cons week figures ih => rw [exactWeeks, List.length_cons, List.length_cons, ih]

theorem getElem_exactWeeks {k : ℕ} (h : k < (exactWeeks weekNum cash figures).length) :
    (exactWeeks weekNum cash figures)[k].week = weekNum + k ∧
      ((exactWeeks weekNum cash figures)[k].isOverdraft = true ↔
        cashAfter cash figures (k + 1) < 0) ∧
      ∃ ending, (exactWeeks weekNum cash figures)[k].endingCash = .number ending ∧
        ending.value = cashAfter cash figures (k + 1) := by
  induction figures generalizing weekNum cash k with
  | nil => exact absurd h (Nat.not_lt_zero k)
  | cons week figures ih =>
    rw [cashAfter_cons]
    cases k with
    | zero =>
      rw [cashAfter_zero, ← units_neg_iff]
      exact ⟨rfl, decide_eq_true_iff, _, rfl, rfl⟩
    | succ k =>
      obtain ⟨hWeek, hRest⟩ := @ih (weekNum + 1) (week.ending cash) k (Nat.lt_of_succ_lt_succ h)
      exact ⟨hWeek.trans (by omega), hRest⟩

theorem exactFirstOverdraft_eq_some {week : ℕ} :
    exactFirstOverdraft weekNum cash figures = some week ↔
    ∃ k < figures.length, week = weekNum + k ∧ cashAfter cash figures (k + 1) < 0 ∧
      ∀ j < k, 0 ≤ cashAfter cash figures (j + 1) := by
  induction figures generalizing weekNum cash with
  | nil =>
    refine iff_of_false (fun h => by cases h) ?_
    rintro ⟨k, hk, -⟩
    exact absurd hk (Nat.not_lt_zero k)
  | cons first figures ih =>
    rw [exactFirstOverdraft]
    have hFirst : (first.ending cash).units < 0 ↔
        cashAfter cash (first :: figures) (0 + 1) < 0 := by
      rw [cashAfter_cons, cashAfter_zero, units_neg_iff]
    split
    · rename_i hNegative
      constructor
      · intro h
        obtain rfl := Option.some.inj h
        exact ⟨0, Nat.succ_pos _, rfl, hFirst.mp hNegative, fun j hj =>
          absurd hj (Nat.not_lt_zero j)⟩
      · rintro ⟨k, -, rfl, -, hBefore⟩
        cases k with
        | zero => rfl
        | succ k => exact absurd (hFirst.mp hNegative) (not_lt.mpr (hBefore 0 (Nat.succ_pos k)))
    · rename_i hNotNegative
      rw [hFirst, not_lt] at hNotNegative
      rw [ih]
      constructor
      · rintro ⟨k, hk, rfl, hCash, hBefore⟩
        refine ⟨k + 1, Nat.succ_lt_succ hk, by omega, (cashAfter_cons first (k + 1)).trans_lt hCash, fun j hj => ?_⟩
        cases j with
        | zero => exact hNotNegative
        | succ j => exact (hBefore j (Nat.lt_of_succ_lt_succ hj)).trans_eq (cashAfter_cons first (j + 1)).symm
      · rintro ⟨k, hk, rfl, hCash, hBefore⟩
        cases k with
        | zero => exact absurd hCash (not_lt.mpr hNotNegative)
        | succ k =>
          refine ⟨k, Nat.lt_of_succ_lt_succ hk, by
            omega, (cashAfter_cons first (k + 1)).symm.trans_lt hCash, fun j hj => ?_⟩
          exact (hBefore (j + 1) (Nat.succ_lt_succ hj)).trans_eq (cashAfter_cons first (j + 1))

theorem isLeast_overdraftWeeks {week : ℕ} :
    exactFirstOverdraft 1 cash figures = some week ↔
      IsLeast (overdraftWeeks cash figures) week := by
  rw [exactFirstOverdraft_eq_some]
  constructor
  · rintro ⟨k, hk, rfl, hCash, hBefore⟩
    rw [Nat.add_comm]
    refine ⟨⟨Nat.succ_pos k, hk, hCash⟩, ?_⟩
    rintro other ⟨hPositive, -, hOther⟩
    obtain ⟨j, rfl⟩ := Nat.exists_eq_add_of_le' hPositive
    by_contra hLess
    exact absurd hOther (not_lt.mpr (hBefore j (by omega)))
  · rintro ⟨⟨hPositive, hLength, hCash⟩, hLeast⟩
    obtain ⟨k, rfl⟩ := Nat.exists_eq_add_of_le' hPositive
    refine ⟨k, hLength, Nat.add_comm k 1, hCash, fun j hj => ?_⟩
    by_contra hNegative
    have hLower := hLeast ⟨Nat.succ_pos j, by omega, not_le.mp hNegative⟩
    omega

theorem exactFirstOverdraft_eq_none : exactFirstOverdraft 1 cash figures = none ↔
    overdraftWeeks cash figures = ∅ := by
  rw [← Set.not_nonempty_iff_eq_empty]
  constructor
  · intro h hNonempty
    classical
    have hFirst :=
      isLeast_overdraftWeeks.mpr
        ⟨Nat.find_spec hNonempty, fun week hWeek => Nat.find_min' hNonempty hWeek⟩
    rw [h] at hFirst
    cases hFirst
  · intro h
    by_contra hSome
    obtain ⟨week, hWeek⟩ := Option.ne_none_iff_exists'.mp hSome
    exact h ⟨week, (isLeast_overdraftWeeks.mp hWeek).1⟩

theorem exactWeeks_shift :
    List.Forall₂ (fun week shiftedWeek : ForecastWeek => shiftedWeek.week = week.week ∧
    ∃ ending : Money, week.endingCash = .number ending ∧
      shiftedWeek.endingCash = .number (ending + constant))
      (exactWeeks weekNum cash figures) (exactWeeks weekNum (cash + constant) figures) := by
  induction figures generalizing weekNum cash with
  | nil => exact .nil
  | cons week figures ih =>
    have hEnding : week.ending (cash + constant) = week.ending cash + constant := by
      have hUnits : cash.units + constant.units +
        week.receipts.units - week.payments.units - week.costPools.units =
        cash.units + week.receipts.units - week.payments.units - week.costPools.units +
          constant.units := by ring
      exact congrArg FixedPoint.mk hUnits
    rw [exactWeeks, exactWeeks, hEnding]
    exact .cons ⟨rfl, week.ending cash, rfl, rfl⟩ ih

/-- No running total of the forecast has more than 28 digits. -/
def FitsContext (openingCash : Money) (figures : List WeekFigures) : Prop :=
  EveryStep (fun cash week => week.ending cash) (fun cash week => week.FitsContext cash)
    openingCash figures

theorem forecastWeek_exact {state : RunningForecast} {week : WeekFigures} {input : WeeklyInput}
    (hRead : week.ReadFrom input) (hState : state.runningCash = cash.number)
    (h : week.FitsContext cash) :
    forecastWeek state weekNum input = .ok (state.add weekNum (week.position cash)) := by
  refine forecastWeek_eq hRead.receipts hRead.payments hRead.costPools ?_
  rw [hState]
  exact week.calculateWeeklyCashPosition_number h

theorem add_firstOverdraftWeek {state : RunningForecast} {week : WeekFigures} (later : Option ℕ) :
    (state.add weekNum (week.position cash)).firstOverdraftWeek.or later =
      state.firstOverdraftWeek.or (if (week.ending cash).units < 0 then some weekNum
        else later) := by
  rw [RunningForecast.add, WeekFigures.position]
  dsimp only
  simp only [decide_eq_true_eq]
  cases state.firstOverdraftWeek with
  | some first =>
    rw [if_neg (fun h => Option.some_ne_none _ h.2)]
    rfl
  | none =>
    rw [Option.none_or]
    by_cases hNegative : (week.ending cash).units < 0
    · rw [if_pos ⟨hNegative, rfl⟩, if_pos hNegative]
      rfl
    · rw [if_neg (fun h => hNegative h.1), if_neg hNegative]
      rfl

theorem forecastWeeks_exact {state : RunningForecast}
    (hReads : List.Forall₂ WeekFigures.ReadFrom figures weeklyInputs)
    (hState : state.runningCash = cash.number) (hFits : FitsContext cash figures) :
    ∃ final, (weeklyInputs.zipIdx weekNum).foldlM
      (fun state entry => forecastWeek state entry.2 entry.1) state = .ok final ∧
      final.weeks = state.weeks ++ exactWeeks weekNum cash figures ∧
      final.firstOverdraftWeek =
        state.firstOverdraftWeek.or (exactFirstOverdraft weekNum cash figures) := by
  induction hReads generalizing state weekNum cash with
  | nil => exact ⟨state, rfl, (List.append_nil _).symm, Option.or_none.symm⟩
  | @cons week input figures weeklyInputs hRead _ ih =>
    obtain ⟨hWeek, hRest⟩ := hFits
    have hNext : (state.add weekNum (week.position cash)).runningCash = (week.ending cash).number :=
      rfl
    obtain ⟨final, hFinal, hWeeks, hFirst⟩ := @ih (weekNum + 1) _ _ hNext hRest
    rw [List.zipIdx_cons, List.foldlM_cons, bind_of_eq_ok (forecastWeek_exact hRead hState hWeek)]
    refine ⟨final, hFinal, hWeeks.trans ?_, hFirst.trans (add_firstOverdraftWeek _)⟩
    rw [exactWeeks, RunningForecast.add, List.append_assoc]
    rfl

theorem WeekFigures.ReadFrom.resolved {week : WeekFigures} {input : WeeklyInput}
    (h : week.ReadFrom input) : ∀ key ∈ requiredWeeklyKeys, input.get key ≠ none := by
  rw [requiredWeeklyKeys, List.forall_mem_cons, List.forall_mem_cons, List.forall_mem_singleton,
    h.receipts, h.payments, h.costPools]
  exact ⟨Option.some_ne_none _, Option.some_ne_none _, Option.some_ne_none _⟩

theorem resolved_of_reads (hLength : figures.length = 13)
    (hReads : List.Forall₂ WeekFigures.ReadFrom figures weeklyInputs) : Resolved weeklyInputs := by
  refine ⟨hReads.length_eq.symm.trans hLength, ?_⟩
  clear hLength
  induction hReads with
  | nil => exact fun week hWeek => (List.not_mem_nil hWeek).elim
  | cons hRead _ ih => exact List.forall_mem_cons.mpr ⟨hRead.resolved, ih⟩

theorem build_exact (hLength : figures.length = 13)
    (hReads : List.Forall₂ WeekFigures.ReadFrom figures weeklyInputs)
    (hFits : FitsContext cash figures) : build13WeekCashForecast cash.number weeklyInputs =
      .ok ⟨true, some (exactWeeks 1 cash figures), none, exactFirstOverdraft 1 cash figures⟩ := by
  obtain ⟨final, hFinal, hWeeks, hFirst⟩ :=
    @forecastWeeks_exact 1 _ _ _ ⟨[], cash.number, none⟩ hReads rfl hFits
  rw [build_of_resolved (resolved_of_reads hLength hReads), bind_of_eq_ok hFinal, hWeeks, hFirst]
  rfl

theorem exactForecast : ExactForecast cash figures
    ⟨true, some (exactWeeks 1 cash figures), none, exactFirstOverdraft 1 cash figures⟩ where
  isComplete := rfl
  weeks := by
    refine ⟨_, rfl, length_exactWeeks, fun k h => ?_⟩
    obtain ⟨hWeek, hRest⟩ := getElem_exactWeeks h
    exact ⟨hWeek.trans (Nat.add_comm 1 k), hRest⟩
  firstOverdraft _ := isLeast_overdraftWeeks
  noOverdraft := exactFirstOverdraft_eq_none

theorem reads_inputs (figures : List WeekFigures) :
    List.Forall₂ WeekFigures.ReadFrom figures (figures.map WeekFigures.input) := by
  rw [List.forall₂_map_right_iff, List.forall₂_same]
  exact fun week _ => ⟨rfl, rfl, rfl⟩

theorem fitsContext_of_small {count : ℕ} (hCash : |cash.units| ≤ count * 10 ^ 26)
    (hFigures : ∀ week ∈ figures, |week.receipts.units| ≤ 10 ^ 26 ∧
      |week.payments.units| ≤ 10 ^ 26 ∧
      |week.costPools.units| ≤ 10 ^ 26) (hCount : count + 3 * figures.length ≤ 40) :
      FitsContext cash figures := by
  induction figures generalizing count cash with
  | nil => trivial
  | cons week figures ih =>
    rw [List.length_cons] at hCount
    obtain ⟨⟨hReceipts, hPayments, hCostPools⟩, hRest⟩ := List.forall_mem_cons.mp hFigures
    have hReceived : |cash.units + week.receipts.units| ≤ (count + 1) * 10 ^ 26 :=
      (abs_add_le _ _).trans (by linarith)
    have hPaid : |cash.units + week.receipts.units - week.payments.units| ≤ (count + 2) * 10 ^ 26 :=
      (abs_sub _ _).trans (by linarith)
    have hEnding : |cash.units + week.receipts.units - week.payments.units - week.costPools.units| ≤
        ((count + 3 : ℕ) : ℤ) * 10 ^ 26 := by
      rw [Nat.cast_add]
      exact (abs_sub _ _).trans (by push_cast; linarith)
    refine ⟨⟨hReceived.trans_lt (by omega), hPaid.trans_lt (by omega), hEnding.trans_lt (by omega)⟩,
      ?_⟩
    exact ih hEnding hRest (by omega)

end Exact

/-- Thirteen weeks without a movement. -/
def idleWeeks : List WeekFigures := List.replicate 13 ⟨0, 0, 0⟩

/-- An opening cash of 10²⁵ cannot be rounded to four decimals. -/
theorem not_forall_forecasts_exact : ¬∀ openingCash figures weeklyInputs, figures.length = 13 →
    List.Forall₂ WeekFigures.ReadFrom figures weeklyInputs →
      ∃ forecast, build13WeekCashForecast (FixedPoint.number openingCash) weeklyInputs =
        .ok forecast ∧ ExactForecast openingCash figures forecast := by
  intro h
  have hRaises : (build13WeekCashForecast (FixedPoint.number (⟨10 ^ 29⟩ : Money))
      (idleWeeks.map WeekFigures.input)).toOption.isNone = true := by decide +kernel
  obtain ⟨forecast, hForecast, -⟩ := h ⟨10 ^ 29⟩ idleWeeks _ rfl (reads_inputs idleWeeks)
  rw [hForecast] at hRaises
  cases hRaises

/-- A forecast is complete or says nothing of any week, and what a complete one says is exact. -/
theorem cash_forecast_all_or_nothing_and_exact :
    (∀ openingCash weeklyInputs, ¬Resolved weeklyInputs →
      ∃ error, build13WeekCashForecast openingCash weeklyInputs =
        .ok ⟨false, none, some error, none⟩) ∧
    (∀ openingCash weeklyInputs forecast, build13WeekCashForecast openingCash weeklyInputs =
      .ok forecast →
      (forecast.isComplete = true ↔ Resolved weeklyInputs) ∧
        (forecast.isComplete = false → forecast.weeks = none)) ∧
    (∀ openingCash weeklyInputs, weeklyInputs.length = 13 → AtMost 1 openingCash →
      (∀ week ∈ weeklyInputs, WeeklyInput.Small week) →
        ∃ forecast, build13WeekCashForecast (.finite openingCash) weeklyInputs = .ok forecast ∧
          forecast.isComplete = true) ∧
    (∀ openingCash figures weeklyInputs, figures.length = 13 →
      List.Forall₂ WeekFigures.ReadFrom figures weeklyInputs → FitsContext openingCash figures →
        ∃ forecast, build13WeekCashForecast openingCash.number weeklyInputs = .ok forecast ∧
          ExactForecast openingCash figures forecast) ∧
    ∀ openingCash constant figures weeklyInputs, figures.length = 13 →
      List.Forall₂ WeekFigures.ReadFrom figures weeklyInputs → FitsContext openingCash figures →
        FitsContext (openingCash + constant) figures →
          ∃ forecast shifted, build13WeekCashForecast openingCash.number weeklyInputs =
            .ok forecast ∧
            build13WeekCashForecast (openingCash + constant).number weeklyInputs = .ok shifted ∧
            ShiftedBy constant forecast shifted := by
  refine ⟨fun openingCash weeklyInputs h => build_of_not_resolved h,
    fun openingCash weeklyInputs forecast h => isComplete_iff h,
    fun openingCash weeklyInputs hLength hOpening hWeeks =>
      build_returns hLength hOpening hWeeks, ?_, ?_⟩
  · intro openingCash figures weeklyInputs hLength hReads hFits
    exact ⟨_, build_exact hLength hReads hFits, exactForecast⟩
  · intro openingCash constant figures weeklyInputs hLength hReads hFits hShifted
    exact ⟨_, _, build_exact hLength hReads hFits, build_exact hLength hReads hShifted, _, _, rfl,
      rfl, exactWeeks_shift⟩

/-- In the third week far less is received than has to be paid. -/
def disputedWeeks : List WeekFigures :=
  List.replicate 2 ⟨⟨2000000000⟩, ⟨1500000000⟩, ⟨300000000⟩⟩ ++
    [⟨⟨200000000⟩, ⟨1500000000⟩, ⟨300000000⟩⟩] ++
    List.replicate 10 ⟨⟨2000000000⟩, ⟨1500000000⟩, ⟨300000000⟩⟩

theorem disputedWeeks_forecast :
    ∃ forecast, build13WeekCashForecast (FixedPoint.number (⟨1000000000⟩ : Money))
    (disputedWeeks.map WeekFigures.input) = .ok forecast ∧
      ExactForecast ⟨1000000000⟩ disputedWeeks forecast :=
  cash_forecast_all_or_nothing_and_exact.2.2.2.1 ⟨1000000000⟩ disputedWeeks _ rfl
    (reads_inputs disputedWeeks)
    (@fitsContext_of_small _ _ 1 (by decide) (by decide) (by decide))

end ProcureFoundation.ManagementAccounting
