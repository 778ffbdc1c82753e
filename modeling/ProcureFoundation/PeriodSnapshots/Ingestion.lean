import Mathlib.Data.List.Sort
import ProcureFoundation.Foundation.EveryStep
import ProcureFoundation.Foundation.SnapshotRows
import ProcureFoundation.PeriodSnapshots.Values

/-!
# Ingestion of period snapshots

A period is locked by an active snapshot of its key, which only a correction gets past. A correction
points back at the snapshot it is to supersede, whereas the lock and the lenses read the snapshots
that point at none: what was corrected stays active, and the correction is not read. So a run of
submissions has the effect it should have exactly when every correction repeats what it corrects.
-/

namespace ProcureFoundation.PeriodSnapshots

open SnapshotRow

inductive LedgerType where
  | debtors
  | creditors
deriving DecidableEq

def LedgerType.name : LedgerType → String
  | .debtors => "debtors"
  | .creditors => "creditors"

def LedgerType.ofName (name : String) : Option LedgerType :=
  [debtors, creditors].find? fun type => type.name == name

structure WorkingCapitalKey where
  organisationId : ℕ
  asOfDate : Date
deriving DecidableEq

structure AgingKey where
  organisationId : ℕ
  asOfDate : Date
  ledgerType : LedgerType
deriving DecidableEq

structure InventoryKey where
  organisationId : ℕ
  locationId : ℕ
  snapshotDate : Date
deriving DecidableEq

structure Tables where
  workingCapital : List (SnapshotRow WorkingCapitalKey WorkingCapitalValues)
  aging : List (SnapshotRow AgingKey (AgingBuckets (Numeric 4)))
  inventory : List (SnapshotRow InventoryKey InventoryValues)

inductive IngestError where
  | conflict (message : String)
  | validationFailed (message : String)
  | multipleResultsFound
  | failed (message : String)

section Ingest

variable {κ ν : Type} [DecidableEq κ]

/-- The period lock, and the rows of a submission that gets past it. -/
def ingest (rows : List (SnapshotRow κ ν)) (key : κ) (isCorrection : Bool) (message : String)
    (batch : Except String (List ν)) : Except IngestError (List (SnapshotRow κ ν)) :=
  if active rows key ≠ [] ∧ isCorrection = false then .error (.conflict message)
  else
    match batch with
    | .error message => .error (.failed message)
    | .ok batch => .ok (submit rows key isCorrection batch)

/-- The lock of a single snapshot also raises when it finds several. -/
def ingestOne (rows : List (SnapshotRow κ ν)) (key : κ) (isCorrection : Bool) (message : String)
    (values : Except String ν) : Except IngestError (List (SnapshotRow κ ν)) :=
  if 1 < (active rows key).length then .error .multipleResultsFound
  else ingest rows key isCorrection message (values.map fun values => [values])

end Ingest

namespace Tables

def empty : Tables := ⟨[], [], []⟩

def ingestWorkingCapitalSnapshot (tables : Tables) (key : WorkingCapitalKey)
    (payload : WorkingCapitalPayload) (isCorrection : Bool) : Except IngestError Tables := do
  let workingCapital ← ingestOne tables.workingCapital key isCorrection
    ("An active working capital snapshot already exists for " ++ key.asOfDate.isoFormat ++
      " - pass is_correction=True to supersede it, not silently duplicate or overwrite it") payload.stored
  return { tables with workingCapital }

/-- The message quotes the type without the escapes that a text with quotes would need. -/
def ingestAgingSnapshot (tables : Tables) (organisationId : ℕ) (asOfDate : Date)
    (ledgerType : String) (invoices : List AgingInvoice) (isCorrection : Bool) :
    Except IngestError Tables :=
  match LedgerType.ofName ledgerType with
  | none => .error (.validationFailed
      ("Unrecognized ledger_type: '" ++ ledgerType ++ "' - expected 'debtors' or 'creditors'"))
  | some type => do
    let aging ← ingestOne tables.aging ⟨organisationId, asOfDate, type⟩ isCorrection
      ("An active " ++ ledgerType ++ " aging snapshot already exists for " ++ asOfDate.isoFormat ++
        " - pass is_correction=True to supersede it") (storedBuckets invoices)
    return { tables with aging }

def ingestInventoryValuation (tables : Tables) (key : InventoryKey) (records : List ValuationRecord)
    (isCorrection : Bool) : Except IngestError Tables := do
  let inventory ← ingest tables.inventory key isCorrection
    ("Active inventory snapshots already exist for location " ++ toString key.locationId ++
      " on " ++
      key.snapshotDate.isoFormat ++
        " - pass is_correction=True to supersede them, not silently duplicate")
    (storedBatch records)
  return { tables with inventory }

/-- The two snapshots that the management lens reads, the latest first. -/
def managementLensSnapshots (tables : Tables) (organisationId : ℕ) :
    List (SnapshotRow WorkingCapitalKey WorkingCapitalValues) :=
  ((tables.workingCapital.filter fun row =>
    decide (row.key.organisationId = organisationId) && row.correctsId.isNone).insertionSort
      fun row other => other.key.asOfDate ≤ row.key.asOfDate).take 2

/-- The rows that the inventory lens groups by location and item. -/
def inventoryLensRows (tables : Tables) (organisationId : ℕ) :
    List (SnapshotRow InventoryKey InventoryValues) :=
  tables.inventory.filter fun row => decide (row.key.organisationId = organisationId) &&
    row.correctsId.isNone

end Tables

inductive IngestCall where
  | workingCapital (key : WorkingCapitalKey) (payload : WorkingCapitalPayload) (isCorrection : Bool)
  | aging (organisationId : ℕ) (asOfDate : Date) (ledgerType : String) (invoices : List AgingInvoice)
    (isCorrection : Bool)
  | inventory (key : InventoryKey) (records : List ValuationRecord) (isCorrection : Bool)

namespace IngestCall

def run (tables : Tables) : IngestCall → Except IngestError Tables
  | workingCapital key payload isCorrection =>
    tables.ingestWorkingCapitalSnapshot key payload isCorrection
  | aging organisationId asOfDate ledgerType invoices isCorrection =>
    tables.ingestAgingSnapshot organisationId asOfDate ledgerType invoices isCorrection
  | inventory key records isCorrection => tables.ingestInventoryValuation key records isCorrection

/-- A call that raises is rolled back. -/
def after (tables : Tables) (call : IngestCall) : Tables :=
  match call.run tables with
  | .ok next => next
  | .error _ => tables

def isCorrection : IngestCall → Bool
  | workingCapital _ _ isCorrection | aging _ _ _ _ isCorrection | inventory _ _ isCorrection =>
    isCorrection

/-- An active snapshot of the key exists; an unrecognized type of ledger has none. -/
def Locked (tables : Tables) : IngestCall → Prop
  | workingCapital key _ _ => active tables.workingCapital key ≠ []
  | aging organisationId asOfDate ledgerType _ _ =>
    ∃ type, LedgerType.ofName ledgerType = some type ∧
      active tables.aging ⟨organisationId, asOfDate, type⟩ ≠ []
  | inventory key _ _ => active tables.inventory key ≠ []

/-- The active rows of the key carry the values of the call, and so do those that a lens reads. -/
def TakesEffect (tables : Tables) : IngestCall → Prop
  | workingCapital key payload _ => ∃ values, payload.stored = .ok values ∧
      ((active tables.workingCapital key).map SnapshotRow.values).Perm [values] ∧
        ∀ row ∈ tables.managementLensSnapshots key.organisationId, row.key = key →
          row.values = values
  | aging organisationId asOfDate ledgerType invoices _ =>
    ∃ type buckets, LedgerType.ofName ledgerType = some type ∧
      storedBuckets invoices = .ok buckets ∧
      ((active tables.aging ⟨organisationId, asOfDate, type⟩).map SnapshotRow.values).Perm [buckets]
  | inventory key records _ => ∃ batch, storedBatch records = .ok batch ∧
      ((active tables.inventory key).map SnapshotRow.values).Perm batch ∧
        (((tables.inventoryLensRows key.organisationId).filter fun row => row.key = key).map
          SnapshotRow.values).Perm batch

/-- What is promised of a call. -/
structure Right (tables : Tables) (call : IngestCall) : Prop where
  takesEffect : ∀ next, call.run tables = .ok next → call.TakesEffect next
  locked : call.isCorrection = false →
    ((∃ message, call.run tables = .error (.conflict message)) ↔ call.Locked tables)
  rolledBack : ∀ error, call.run tables = .error error → call.after tables = tables

/-- A correction repeats the active values that it is meant to supersede. -/
def Repeats (tables : Tables) : IngestCall → Prop
  | workingCapital key payload isCorrection => isCorrection = true →
    ∀ values, payload.stored = .ok values →
      ∀ row ∈ active tables.workingCapital key, row.values = values
  | aging organisationId asOfDate ledgerType invoices isCorrection => isCorrection = true →
      ∀ type buckets, LedgerType.ofName ledgerType = some type →
        storedBuckets invoices = .ok buckets →
        ∀ row ∈ active tables.aging ⟨organisationId, asOfDate, type⟩, row.values = buckets
  | inventory key records isCorrection => isCorrection = true →
    ∀ batch, storedBatch records = .ok batch →
      ((active tables.inventory key).map SnapshotRow.values).Perm
        (batch.take (active tables.inventory key).length)

end IngestCall

/-- At most one snapshot of a key of working capital or of an aging ledger is active. -/
structure Tables.Single (tables : Tables) : Prop where
  workingCapital : ∀ key, (active tables.workingCapital key).length ≤ 1
  aging : ∀ key, (active tables.aging key).length ≤ 1

section Ingest

variable {κ ν : Type} [DecidableEq κ] {rows next : List (SnapshotRow κ ν)} {key : κ}
  {isCorrection : Bool} {message : String} {batch : Except String (List ν)}
  {values : Except String ν}

theorem ingest_eq_ok : ingest rows key isCorrection message batch = .ok next ↔
    (isCorrection = false → active rows key = []) ∧
      ∃ stored, batch = .ok stored ∧ next = submit rows key isCorrection stored := by
  unfold ingest
  by_cases hLock : active rows key ≠ [] ∧ isCorrection = false
  · rw [if_pos hLock]
    exact iff_of_false (fun h => nomatch h) fun h => hLock.1 (h.1 hLock.2)
  · rw [if_neg hLock, and_iff_right fun hFalse => by_contra fun hActive => hLock ⟨hActive, hFalse⟩]
    cases batch with
    | error message => exact iff_of_false (fun h => nomatch h) fun ⟨_, h, _⟩ => nomatch h
    | ok stored => simp [eq_comm]

theorem ingest_conflict (h : isCorrection = false) :
    (∃ text, ingest rows key isCorrection message batch = .error (.conflict text)) ↔
      active rows key ≠ [] := by
  unfold ingest
  by_cases hActive : active rows key ≠ []
  · rw [if_pos ⟨hActive, h⟩]
    exact iff_of_true ⟨message, rfl⟩ hActive
  · rw [if_neg fun hLock => hActive hLock.1]
    refine iff_of_false ?_ hActive
    cases batch with
    | error message => exact fun ⟨_, h⟩ => nomatch h
    | ok stored => exact fun ⟨_, h⟩ => nomatch h

theorem ingestOne_eq (h : (active rows key).length ≤ 1) :
    ingestOne rows key isCorrection message values =
    ingest rows key isCorrection message (values.map fun values => [values]) :=
  if_neg (not_lt.mpr h)

theorem ingestOne_eq_ok (h : (active rows key).length ≤ 1) :
    ingestOne rows key isCorrection message values = .ok next ↔
      (isCorrection = false → active rows key = []) ∧
      ∃ stored, values = .ok stored ∧ next = submit rows key isCorrection [stored] := by
  rw [ingestOne_eq h, ingest_eq_ok]
  refine and_congr_right fun _ => ?_
  cases values with
  | error message => exact iff_of_false (fun ⟨_, h, _⟩ => nomatch h) fun ⟨_, h, _⟩ => nomatch h
  | ok stored => simp [Except.map]

/-- A single snapshot is what is active afterwards exactly when it repeats the one it is meant to
replace. -/
theorem submit_one_takes_effect_iff {stored : ν} (h : isCorrection = false → active rows key = [])
    (hOne : (active rows key).length ≤ 1) :
    ((active (submit rows key isCorrection [stored]) key).map SnapshotRow.values).Perm [stored] ↔
      (isCorrection = true → ∀ row ∈ active rows key, row.values = stored) := by
  rw [submit_takes_effect_iff h]
  refine imp_congr_right fun _ => ?_
  match active rows key, hOne with
  | [], _ => simp
  | [row], _ => simp

end Ingest

namespace IngestCall

variable {tables next : Tables} {isCorrection : Bool} {payload : WorkingCapitalPayload}
  {invoices : List AgingInvoice} {records : List ValuationRecord} {organisationId : ℕ}
  {asOfDate : Date} {ledgerType : String}

theorem run_workingCapital_eq_ok {key : WorkingCapitalKey} (hSingle : tables.Single) :
    (workingCapital key payload isCorrection).run tables = .ok next ↔
      (isCorrection = false → active tables.workingCapital key = []) ∧ ∃ values,
        payload.stored = .ok values ∧
        next = { tables with workingCapital := submit tables.workingCapital key isCorrection [values] } := by
  refine Outcome.bind_pure_eq_ok.trans ?_
  simp only [ingestOne_eq_ok (hSingle.workingCapital key)]
  constructor
  · rintro ⟨_, ⟨hFree, values, hValues, rfl⟩, rfl⟩
    exact ⟨hFree, values, hValues, rfl⟩
  · rintro ⟨hFree, values, hValues, rfl⟩
    exact ⟨_, ⟨hFree, values, hValues, rfl⟩, rfl⟩

theorem run_aging_eq_ok (hSingle : tables.Single) :
    (aging organisationId asOfDate ledgerType invoices isCorrection).run tables = .ok next ↔
      ∃ type, LedgerType.ofName ledgerType = some type ∧
        (isCorrection = false → active tables.aging ⟨organisationId, asOfDate, type⟩ = []) ∧
          ∃ buckets, storedBuckets invoices = .ok buckets ∧ next = { tables with
            aging := submit tables.aging ⟨organisationId, asOfDate, type⟩ isCorrection [buckets] } := by
  rw [run, Tables.ingestAgingSnapshot]
  cases hType : LedgerType.ofName ledgerType with
  | none => exact iff_of_false (fun h => nomatch h) fun ⟨_, h, _⟩ => nomatch h
  | some type =>
    refine Outcome.bind_pure_eq_ok.trans ?_
    simp only [ingestOne_eq_ok (hSingle.aging _), Option.some.injEq, exists_eq_left']
    constructor
    · rintro ⟨_, ⟨hFree, buckets, hBuckets, rfl⟩, rfl⟩
      exact ⟨hFree, buckets, hBuckets, rfl⟩
    · rintro ⟨hFree, buckets, hBuckets, rfl⟩
      exact ⟨_, ⟨hFree, buckets, hBuckets, rfl⟩, rfl⟩

theorem run_inventory_eq_ok {key : InventoryKey} :
    (inventory key records isCorrection).run tables = .ok next ↔
    (isCorrection = false → active tables.inventory key = []) ∧ ∃ batch,
      storedBatch records = .ok batch ∧
      next = { tables with inventory := submit tables.inventory key isCorrection batch } := by
  refine Outcome.bind_pure_eq_ok.trans ?_
  simp only [ingest_eq_ok]
  constructor
  · rintro ⟨_, ⟨hFree, batch, hBatch, rfl⟩, rfl⟩
    exact ⟨hFree, batch, hBatch, rfl⟩
  · rintro ⟨hFree, batch, hBatch, rfl⟩
    exact ⟨_, ⟨hFree, batch, hBatch, rfl⟩, rfl⟩

/-- The lock raises a conflict exactly when a row of the key is active, whatever the values are. -/
theorem conflict_iff_locked (hSingle : tables.Single) {call : IngestCall}
    (h : call.isCorrection = false) :
    (∃ message, call.run tables = .error (.conflict message)) ↔ call.Locked tables := by
  cases call with
  | workingCapital key payload isCorrection =>
    refine (exists_congr fun _ => Outcome.bind_pure_eq_error).trans ?_
    rw [ingestOne_eq (hSingle.workingCapital key)]
    exact ingest_conflict h
  | aging organisationId asOfDate ledgerType invoices isCorrection =>
    rw [run, Tables.ingestAgingSnapshot, Locked]
    cases LedgerType.ofName ledgerType with
    | none => exact iff_of_false (fun ⟨_, h⟩ => nomatch h) fun ⟨_, h, _⟩ => nomatch h
    | some type =>
      refine (exists_congr fun _ => Outcome.bind_pure_eq_error).trans ?_
      rw [ingestOne_eq (hSingle.aging _)]
      exact (ingest_conflict h).trans (by simp)
  | inventory key records isCorrection =>
    exact (exists_congr fun _ => Outcome.bind_pure_eq_error).trans (ingest_conflict h)

theorem right_iff (hSingle : tables.Single) {call : IngestCall} :
    Right tables call ↔ ∀ next, call.run tables = .ok next → call.TakesEffect next := by
  refine ⟨Right.takesEffect, fun h => ⟨h, conflict_iff_locked hSingle, fun error hError => ?_⟩⟩
  rw [after, hError]

/-- What the management lens reads of a key is among the active rows of that key. -/
theorem mem_active_of_mem_managementLensSnapshots {key : WorkingCapitalKey}
    {row : SnapshotRow WorkingCapitalKey WorkingCapitalValues}
    (hRow : row ∈ tables.managementLensSnapshots key.organisationId) (hKey : row.key = key) :
    row ∈ active tables.workingCapital key := by
  have hRead := (List.mem_insertionSort _).mp (List.mem_of_mem_take hRow)
  obtain ⟨hMem, hActive⟩ := List.mem_filter.mp hRead
  exact List.mem_filter.mpr
    ⟨hMem, by rw [decide_eq_true hKey, Bool.true_and]; exact (Bool.and_eq_true _ _ ▸ hActive).2⟩

theorem filter_inventoryLensRows (key : InventoryKey) :
    (tables.inventoryLensRows key.organisationId).filter (fun row => row.key = key) =
      active tables.inventory key := by
  rw [Tables.inventoryLensRows, List.filter_filter, active]
  refine List.filter_congr fun row _ => ?_
  by_cases hKey : row.key = key
  · simp [hKey]
  · simp [hKey]

/-- A call that goes through has its effect exactly when it repeats what it corrects. -/
theorem takesEffect_iff_repeats (hSingle : tables.Single) {call : IngestCall}
    (hRun : call.run tables = .ok next) : call.TakesEffect next ↔ call.Repeats tables := by
  cases call with
  | workingCapital key payload isCorrection =>
    obtain ⟨hFree, values, hValues, rfl⟩ := (run_workingCapital_eq_ok hSingle).mp hRun
    have hIff := @submit_one_takes_effect_iff _ _ _ _ key isCorrection values hFree
      (hSingle.workingCapital key)
    rw [TakesEffect, Repeats]
    simp only [hValues, Except.ok.injEq, exists_eq_left', forall_eq']
    rw [← hIff]
    constructor
    · intro h
      exact h.1
    · intro h
      refine ⟨h, fun row hRow hKey => ?_⟩
      have hMem := List.mem_map_of_mem (f := SnapshotRow.values)
        (mem_active_of_mem_managementLensSnapshots hRow hKey)
      exact List.mem_singleton.mp (h.mem_iff.mp hMem)
  | aging organisationId asOfDate ledgerType invoices isCorrection =>
    obtain ⟨type, hType, hFree, buckets, hBuckets, rfl⟩ := (run_aging_eq_ok hSingle).mp hRun
    have hIff := @submit_one_takes_effect_iff _ _ _ _ ⟨organisationId, asOfDate, type⟩ isCorrection
      buckets hFree
      (hSingle.aging _)
    rw [TakesEffect, Repeats]
    simp only [hType, hBuckets, Option.some.injEq, Except.ok.injEq, exists_and_left,
      exists_eq_left']
    rw [hIff]
    constructor
    · rintro h hCorrection _ _ rfl rfl
      exact h hCorrection
    · intro h hCorrection
      exact h hCorrection type buckets rfl rfl
  | inventory key records isCorrection =>
    obtain ⟨hFree, batch, hBatch, rfl⟩ := run_inventory_eq_ok.mp hRun
    have hIff := @submit_takes_effect_iff _ _ _ tables.inventory key batch isCorrection hFree
    rw [TakesEffect, Repeats]
    simp only [hBatch, Except.ok.injEq, exists_eq_left', forall_eq', filter_inventoryLensRows,
      and_self]
    exact hIff

/-- A correction only raises when its values cannot be stored. -/
theorem repeats_of_raises (hSingle : tables.Single) {call : IngestCall}
    (hRun : ∀ next, call.run tables ≠ .ok next) : call.Repeats tables := by
  cases call with
  | workingCapital key payload isCorrection =>
    rintro rfl values hValues
    exact absurd ((run_workingCapital_eq_ok hSingle).mpr ⟨by simp, values, hValues, rfl⟩) (hRun _)
  | aging organisationId asOfDate ledgerType invoices isCorrection =>
    rintro rfl type buckets hType hBuckets
    exact absurd ((run_aging_eq_ok hSingle).mpr ⟨type, hType, by simp, buckets, hBuckets, rfl⟩) (hRun _)
  | inventory key records isCorrection =>
    rintro rfl batch hBatch
    exact absurd (run_inventory_eq_ok.mpr ⟨by simp, batch, hBatch, rfl⟩) (hRun _)

theorem right_iff_repeats (hSingle : tables.Single) (call : IngestCall) : Right tables call ↔
    call.Repeats tables := by
  rw [right_iff hSingle]
  constructor
  · intro h
    by_cases hRun : ∃ next, call.run tables = .ok next
    · obtain ⟨next, hNext⟩ := hRun
      exact (takesEffect_iff_repeats hSingle hNext).mp (h next hNext)
    · exact repeats_of_raises hSingle (not_exists.mp hRun)
  · intro h next hNext
    exact (takesEffect_iff_repeats hSingle hNext).mpr h

theorem after_single (hSingle : tables.Single) (call : IngestCall) :
    (call.after tables).Single := by
  rw [after]
  cases hRun : call.run tables with
  | error error => exact hSingle
  | ok next =>
    cases call with
    | workingCapital key payload isCorrection =>
      obtain ⟨hFree, values, -, rfl⟩ := (run_workingCapital_eq_ok hSingle).mp hRun
      exact ⟨length_active_submit_le hFree hSingle.workingCapital, hSingle.aging⟩
    | aging organisationId asOfDate ledgerType invoices isCorrection =>
      obtain ⟨type, -, hFree, buckets, -, rfl⟩ := (run_aging_eq_ok hSingle).mp hRun
      exact ⟨hSingle.workingCapital, length_active_submit_le hFree hSingle.aging⟩
    | inventory key records isCorrection =>
      obtain ⟨-, batch, -, rfl⟩ := run_inventory_eq_ok.mp hRun
      exact ⟨hSingle.workingCapital, hSingle.aging⟩

/-- Every call of a run is right exactly when every correction in it repeats what it corrects. -/
theorem run_right_iff (calls : List IngestCall) :
    EveryStep after Right Tables.empty calls ↔
      EveryStep after (fun tables call => call.Repeats tables) Tables.empty calls :=
  EveryStep.congr_of_inv (fun _ call hSingle => right_iff_repeats hSingle call)
    (fun _ call hSingle _ => after_single hSingle call) ⟨fun _ => Nat.zero_le _, fun _ => Nat.zero_le _⟩

end IngestCall

section Superseded

def augustKey : WorkingCapitalKey := ⟨1, ⟨2026, 8, 31, by decide⟩⟩

def augustPayload (receivable : ℕ) : WorkingCapitalPayload where
  accountsReceivable := .finite false receivable 0
  accountsPayable := .finite false 50000 0
  inventoryValue := .finite false 30000 0
  cashBalance := some (.finite false 10000 0)
  annualizedRevenue := .finite false 1000000 0
  annualizedCogs := .finite false 700000 0

def augustStored (receivable dso ccc ratio : ℤ) : WorkingCapitalValues where
  accountsReceivable := .number ⟨receivable * 10 ^ 4⟩
  accountsPayable := .number ⟨50000 * 10 ^ 4⟩
  inventoryValue := .number ⟨30000 * 10 ^ 4⟩
  cashBalance := some (.number ⟨10000 * 10 ^ 4⟩)
  annualizedRevenue := .number ⟨1000000 * 10 ^ 4⟩
  annualizedCogs := .number ⟨700000 * 10 ^ 4⟩
  metrics := ⟨some (.number ⟨dso⟩), some (.number ⟨156⟩), some (.number ⟨261⟩),
    some (.number ⟨ccc⟩), some (.number ⟨ratio⟩)⟩
  derivedMetricDiagnostics := []

theorem augustPayload_stored :
    (augustPayload 100000).stored = .ok (augustStored 100000 365 260 280) ∧
    (augustPayload 105000).stored = .ok (augustStored 105000 383 278 290) := by
  decide +kernel

def augustIngested : Tables :=
  { Tables.empty with workingCapital := [⟨1, augustKey, augustStored 100000 365 260 280, none⟩] }

def augustCorrected : Tables :=
  { Tables.empty with workingCapital := [⟨1, augustKey, augustStored 100000 365 260 280, none⟩,
    ⟨2, augustKey, augustStored 105000 383 278 290, some 1⟩] }

/-- Receivables of 100000 are corrected to 105000, and 100000 stays what is read. -/
theorem correction_not_read :
    (IngestCall.workingCapital augustKey (augustPayload 100000) false).run Tables.empty =
      .ok augustIngested ∧
      (IngestCall.workingCapital augustKey (augustPayload 105000) true).run augustIngested =
        .ok augustCorrected ∧
        (augustCorrected.managementLensSnapshots 1).map SnapshotRow.values =
          [augustStored 100000 365 260 280] ∧
          ¬ EveryStep IngestCall.after IngestCall.Right Tables.empty
            [.workingCapital augustKey (augustPayload 100000) false,
              .workingCapital augustKey (augustPayload 105000) true] := by
  have hEmpty : Tables.empty.Single := ⟨fun _ => Nat.zero_le _, fun _ => Nat.zero_le _⟩
  have hFirst : (IngestCall.workingCapital augustKey (augustPayload 100000) false).run Tables.empty =
      .ok augustIngested :=
    (IngestCall.run_workingCapital_eq_ok hEmpty).mpr ⟨fun _ => rfl, _, augustPayload_stored.1, rfl⟩
  have hAfter : (IngestCall.workingCapital augustKey (augustPayload 100000) false).after Tables.empty =
      augustIngested := by
    rw [IngestCall.after, hFirst]
  have hSingle : augustIngested.Single := hAfter ▸ IngestCall.after_single hEmpty _
  have hSecond : (IngestCall.workingCapital augustKey (augustPayload 105000) true).run augustIngested =
      .ok augustCorrected :=
    (IngestCall.run_workingCapital_eq_ok hSingle).mpr ⟨by simp, _, augustPayload_stored.2, rfl⟩
  refine ⟨hFirst, hSecond, by decide +kernel, fun hRun => ?_⟩
  have hRight := hRun.2.1
  rw [hAfter, IngestCall.right_iff_repeats hSingle] at hRight
  have hSame := hRight rfl _ augustPayload_stored.2 _ (List.mem_singleton_self _)
  revert hSame
  decide

end Superseded

end ProcureFoundation.PeriodSnapshots
