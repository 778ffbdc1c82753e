import ProcureFoundation.Contracts.Contract
import ProcureFoundation.Foundation.FiringLog

/-!
# Contract alerts

A check adds the alerts that are due on its day and that the table does not hold for the contract.
An alert before the expiry stays due once its threshold is reached, the alert of the notice deadline
is due on that day alone.
-/

namespace ProcureFoundation.Contracts

open Outcome

structure ContractAlert where
  contractId : ℕ
  alertType : AlertType
  triggerDate : Date
deriving DecidableEq

/-- The table holds no alert type twice for a contract. -/
structure ContractAlerts where
  rows : List ContractAlert
  unique : (rows.map fun alert => (alert.contractId, alert.alertType)).Nodup

def ContractAlerts.addAll (alerts : ContractAlerts) (newAlerts : List ContractAlert) :
    Except String ContractAlerts :=
  if h : ((alerts.rows ++ newAlerts).map fun alert =>
    (alert.contractId, alert.alertType)).Nodup then
    .ok ⟨alerts.rows ++ newAlerts, h⟩
  else .error "duplicate key value violates unique constraint \"uq_contract_alert_type\""

def ContractAlerts.alreadyFired (alerts : ContractAlerts) (contractId : ℕ) : List AlertType :=
  (alerts.rows.filter fun alert => alert.contractId = contractId).map ContractAlert.alertType

def runAlertCheck (alerts : ContractAlerts) (contract : ContractColumns) (asOfDate : Date) :
    Except String (ContractAlerts × List ContractAlert) := do
  let deadline ← calculateNoticeDeadline contract.expiryDate contract.noticePeriodDays
  let dueTypes :=
    determineDueAlerts asOfDate contract.expiryDate deadline (alerts.alreadyFired contract.id)
      defaultAlertThresholdsDays
  let newAlerts := dueTypes.map fun alertType => ⟨contract.id, alertType, asOfDate⟩
  let inserted ← alerts.addAll newAlerts
  return (inserted, newAlerts)

/-- The checks of a contract on the given days, one after the other. -/
def runAlertChecks (contract : ContractColumns) (alerts : ContractAlerts) (dates : List Date) :
    Except String ContractAlerts :=
  dates.foldlM (fun alerts asOfDate => (runAlertCheck alerts contract asOfDate).map Prod.fst) alerts

section Due

variable {today expiryDate deadline : Date} {fired : List AlertType} {thresholds : List ℕ}
  {threshold : ℕ}

theorem determineDueAlerts_eq_filter :
    determineDueAlerts today expiryDate deadline fired thresholds =
    (determineDueAlerts today expiryDate deadline [] thresholds).filter fun alertType =>
      decide (alertType ∉ fired) := by
  unfold determineDueAlerts
  dsimp only
  rw [List.filter_append, List.filter_map, List.filter_filter]
  congr 1
  · refine congrArg (List.map AlertType.expiry) (List.filter_congr fun threshold _ => ?_)
    simp [Bool.and_comm]
  · by_cases hToday : today = deadline
    · by_cases hFired : AlertType.noticeDeadline ∈ fired <;> simp [hToday, hFired]
    · simp [hToday]

theorem mem_due_expiry :
    .expiry threshold ∈ determineDueAlerts today expiryDate deadline [] thresholds ↔
    threshold ∈ thresholds ∧ today.daysUntil expiryDate ≤ threshold := by
  simp [determineDueAlerts]

theorem mem_due_noticeDeadline :
    .noticeDeadline ∈ determineDueAlerts today expiryDate deadline [] thresholds ↔
    today = deadline := by
  simp [determineDueAlerts]

theorem nodup_determineDueAlerts (h : thresholds.Nodup) :
    (determineDueAlerts today expiryDate deadline fired thresholds).Nodup := by
  have hSorted : (thresholds.mergeSort fun a b => decide (b ≤ a)).Nodup :=
    (List.mergeSort_perm _ _).nodup_iff.mpr h
  refine List.Nodup.append ((hSorted.filter _).map fun a b hEq => AlertType.expiry.inj hEq) ?_ ?_
  · split
    · exact List.nodup_singleton _
    · exact List.nodup_nil
  · intro alertType hExpiry hNotice
    obtain ⟨threshold, -, rfl⟩ := List.mem_map.mp hExpiry
    split at hNotice
    · exact nomatch List.mem_singleton.mp hNotice
    · exact List.not_mem_nil hNotice

end Due

section Runs

variable {draft : SessionContract} {contract : ContractColumns} {alerts checked : ContractAlerts}
  {deadline asOfDate : Date} {log : List (AlertType × Date)} {dates : List Date}

def dueTypes (contract : ContractColumns) (deadline asOfDate : Date) : List AlertType :=
  determineDueAlerts asOfDate contract.expiryDate deadline [] defaultAlertThresholdsDays

def alertOf (contractId : ℕ) (entry : AlertType × Date) : ContractAlert :=
  ⟨contractId, entry.1, entry.2⟩

/-- The table holds what it held before, where nothing was of the contract, and the alerts of a log.
-/
structure Holds (contractId : ℕ) (alerts : ContractAlerts) (log : List (AlertType × Date))
    (checked : ContractAlerts) : Prop where
  rows : checked.rows = alerts.rows ++ log.map (alertOf contractId)
  kinds : (log.map Prod.fst).Nodup

theorem exists_noticeDeadline (h : refreshStatus draft asOfDate = .ok contract.loaded) :
    ∃ deadline, calculateNoticeDeadline contract.expiryDate contract.noticePeriodDays =
      .ok deadline := by
  obtain ⟨-, deadline, hDeadline, hEq⟩ := refreshStatus_eq_ok.mp h
  obtain rfl := congrArg SessionContract.columns hEq
  exact ⟨deadline, hDeadline⟩

theorem not_mem_of_alreadyFired {contractId : ℕ} {alert : ContractAlert}
    (hNone : alerts.alreadyFired contractId = []) (h : alert ∈ alerts.rows) :
    alert.contractId ≠ contractId := by
  intro hId
  have hMem : alert ∈ alerts.rows.filter fun alert => alert.contractId = contractId :=
    List.mem_filter.mpr ⟨h, decide_eq_true hId⟩
  exact List.ne_nil_of_mem (List.mem_map_of_mem hMem) hNone

namespace Holds

variable {contractId : ℕ} {alertType : AlertType} {date : Date}

theorem alreadyFired (hNone : alerts.alreadyFired contractId = [])
    (h : Holds contractId alerts log checked) :
    checked.alreadyFired contractId = log.map Prod.fst := by
  have hOwn : ((log.map (alertOf contractId)).filter fun alert =>
    decide (alert.contractId = contractId)) =
      log.map (alertOf contractId) := List.filter_eq_self.mpr fun alert hAlert => by
    obtain ⟨entry, -, rfl⟩ := List.mem_map.mp hAlert
    exact decide_eq_true rfl
  rw [ContractAlerts.alreadyFired, h.rows, List.filter_append, List.map_append, hOwn, List.map_map]
  exact congrArg (· ++ _) hNone

theorem mem_rows (hNone : alerts.alreadyFired contractId = [])
    (h : Holds contractId alerts log checked) :
    ⟨contractId, alertType, date⟩ ∈ checked.rows ↔ (alertType, date) ∈ log := by
  rw [h.rows, List.mem_append, or_iff_right fun hOld => not_mem_of_alreadyFired hNone hOld rfl,
    List.mem_map]
  constructor
  · rintro ⟨entry, hEntry, hEq⟩
    obtain ⟨-, rfl, rfl⟩ := ContractAlert.mk.inj hEq
    exact hEntry
  · intro hEntry
    exact ⟨_, hEntry, rfl⟩

end Holds

theorem unique_addAll {contractId : ℕ} {kinds : List AlertType} (hKinds : kinds.Nodup)
    (hNew : ∀ kind ∈ kinds, kind ∉ alerts.alreadyFired contractId) :
    ((alerts.rows ++ kinds.map fun kind => ContractAlert.mk contractId kind asOfDate).map fun alert =>
      (alert.contractId, alert.alertType)).Nodup := by
  rw [List.map_append, List.map_map]
  refine alerts.unique.append (hKinds.map (Prod.mk_right_injective contractId)) ?_
  intro key hOld hAdded
  obtain ⟨alert, hAlert, rfl⟩ := List.mem_map.mp hOld
  obtain ⟨kind, hKind, hEq⟩ := List.mem_map.mp hAdded
  obtain ⟨hId, rfl⟩ := Prod.mk.inj hEq
  exact hNew _ hKind (List.mem_map_of_mem (List.mem_filter.mpr ⟨hAlert, decide_eq_true hId.symm⟩))

/-- A check adds what is due and has not fired; the table never refuses it. -/
theorem runAlertCheck_adds
    (hDeadline : calculateNoticeDeadline contract.expiryDate contract.noticePeriodDays =
      .ok deadline) :
    ∃ next newAlerts, runAlertCheck alerts contract asOfDate = .ok (next, newAlerts) ∧
      next.rows = alerts.rows ++ ((dueTypes contract deadline asOfDate).filter fun kind =>
        decide (kind ∉ alerts.alreadyFired contract.id)).map fun kind => ⟨contract.id, kind,
        asOfDate⟩ := by
  have hKinds : (dueTypes contract deadline asOfDate).Nodup := nodup_determineDueAlerts (by decide)
  have hUnique := @unique_addAll alerts asOfDate contract.id _
    (hKinds.filter fun kind => decide (kind ∉ alerts.alreadyFired contract.id))
    fun kind hKind => of_decide_eq_true (List.mem_filter.mp hKind).2
  have hAdded : alerts.addAll _ = .ok ⟨_, hUnique⟩ := dif_pos hUnique
  refine ⟨⟨_, hUnique⟩, ?_⟩
  rw [runAlertCheck, bind_of_eq_ok hDeadline, determineDueAlerts_eq_filter]
  exact ⟨_, bind_of_eq_ok hAdded _, rfl⟩

/-- Of a contract without alerts, a check fires what is due. -/
theorem runAlertCheck_fires (hNone : alerts.alreadyFired contract.id = [])
    (hDeadline : calculateNoticeDeadline contract.expiryDate contract.noticePeriodDays =
      .ok deadline)
    (h : Holds contract.id alerts log checked) :
    ∃ next newAlerts, runAlertCheck checked contract asOfDate = .ok (next, newAlerts) ∧
      Holds contract.id alerts (fire (dueTypes contract deadline) log asOfDate) next := by
  obtain ⟨next, newAlerts, hNext, hRows⟩ :=
    @runAlertCheck_adds contract checked deadline asOfDate hDeadline
  refine ⟨next, newAlerts, hNext, ?_, nodup_fire (nodup_determineDueAlerts (by decide)) h.kinds⟩
  rw [hRows, h.alreadyFired hNone, h.rows, fire, List.map_append, List.map_map, List.append_assoc]
  rfl

theorem runAlertChecks_fire (hNone : alerts.alreadyFired contract.id = [])
    (hDeadline : calculateNoticeDeadline contract.expiryDate contract.noticePeriodDays =
      .ok deadline)
    (h : Holds contract.id alerts log checked) :
    ∃ next, runAlertChecks contract checked dates = .ok next ∧
      Holds contract.id alerts (fireAll (dueTypes contract deadline) log dates) next := by
  induction dates generalizing log checked with
  | nil => exact ⟨checked, rfl, h⟩
  | cons asOfDate dates ih =>
    obtain ⟨next, newAlerts, hNext, hHolds⟩ :=
      @runAlertCheck_fires _ _ _ _ asOfDate _ hNone hDeadline h
    obtain ⟨last, hLast, hLastHolds⟩ := ih hHolds
    refine ⟨last, ?_, hLastHolds⟩
    rw [runAlertChecks, List.foldlM_cons, hNext]
    exact hLast

/-- What the table holds of a contract after checks on the given days. -/
structure AlertsAfter (contract : ContractColumns) (deadline : Date) (dates : List Date)
    (checked : ContractAlerts) : Prop where
  once : (checked.alreadyFired contract.id).Nodup
  expiry : ∀ (threshold : ℕ) (date : Date), ⟨contract.id, .expiry threshold, date⟩ ∈ checked.rows ↔
    threshold ∈ defaultAlertThresholdsDays ∧
      dates.find? (fun date => decide (date.daysUntil contract.expiryDate ≤ (threshold : ℤ))) =
        some date
  noticeDeadline : ∀ date, ⟨contract.id, .noticeDeadline, date⟩ ∈ checked.rows ↔
    date = deadline ∧ deadline ∈ dates

theorem Holds.alertsAfter (hNone : alerts.alreadyFired contract.id = [])
    (h : Holds contract.id alerts (fireAll (dueTypes contract deadline) [] dates) checked) :
    AlertsAfter contract deadline dates checked where
  once := by
    rw [h.alreadyFired hNone]
    exact h.kinds
  expiry threshold date := by
    rw [h.mem_rows hNone, mem_fireAll List.not_mem_nil]
    by_cases hThreshold : threshold ∈ defaultAlertThresholdsDays
    · simp only [dueTypes, mem_due_expiry, hThreshold, true_and]
    · have hNever : dates.find?
          (fun time => decide (.expiry threshold ∈ dueTypes contract deadline time)) = none :=
        List.find?_eq_none.mpr fun time _ hDue =>
          hThreshold (mem_due_expiry.mp (of_decide_eq_true hDue)).1
      rw [hNever]
      exact iff_of_false (fun h => nomatch h) fun h => hThreshold h.1
  noticeDeadline date := by
    rw [h.mem_rows hNone, mem_fireAll List.not_mem_nil]
    simp only [dueTypes, mem_due_noticeDeadline]
    exact find?_eq_time

/-- However the days of the checks follow each other, no check fails and no alert comes twice. An
alert before the expiry comes with the first check at which its threshold is reached, the alert of
the notice deadline with a check on that day. -/
theorem contract_alerts_after_checks (hWritten : refreshStatus draft asOfDate = .ok contract.loaded)
    (hNone : alerts.alreadyFired contract.id = []) :
    ∃ deadline, calculateNoticeDeadline contract.expiryDate contract.noticePeriodDays =
      .ok deadline ∧ ∀ dates, ∃ checked, runAlertChecks contract alerts dates = .ok checked ∧
        AlertsAfter contract deadline dates checked := by
  obtain ⟨deadline, hDeadline⟩ := exists_noticeDeadline hWritten
  refine ⟨deadline, hDeadline, fun dates => ?_⟩
  have hStart : Holds contract.id alerts [] alerts := ⟨(List.append_nil _).symm, List.nodup_nil⟩
  obtain ⟨checked, hChecked, hHolds⟩ := @runAlertChecks_fire _ _ _ _ _ dates hNone hDeadline hStart
  exact ⟨checked, hChecked, hHolds.alertsAfter hNone⟩

def cocoaColumns : ContractColumns where
  id := 1
  publicId := 1
  title := "Cocoa supply"
  contractNumber := none
  startDate := ⟨2026, 1, 5, by decide⟩
  expiryDate := ⟨2026, 12, 31, by decide⟩
  noticePeriodDays := 30
  autoRenew := false
  renewalTermMonths := none
  paymentTermsDays := none
  escalationType := "none"
  escalationRatePct := none
  rebateTermsSummary := none
  slaTermsSummary := none
  minimumSpendCommitment := none
  status := .active

def noAlerts : ContractAlerts := ⟨[], List.nodup_nil⟩

def deadlineDay : Date := ⟨2026, 12, 1, by decide⟩

def dayAfterDeadline : Date := ⟨2026, 12, 2, by decide⟩

theorem cocoa_noticeDeadline :
    calculateNoticeDeadline cocoaColumns.expiryDate cocoaColumns.noticePeriodDays =
    .ok deadlineDay := by decide

theorem cocoa_active :
    classifyContractStatus ⟨2026, 1, 1, by decide⟩ cocoaColumns.expiryDate deadlineDay
    cocoaColumns.autoRenew = .active := by decide

theorem cocoa_alerts_after_checks : ∃ deadline, calculateNoticeDeadline cocoaColumns.expiryDate
    cocoaColumns.noticePeriodDays = .ok deadline ∧ ∀ dates, ∃ checked,
      runAlertChecks cocoaColumns noAlerts dates = .ok checked ∧
      AlertsAfter cocoaColumns deadline dates checked :=
  @contract_alerts_after_checks cocoaColumns.loaded _ _ ⟨2026, 1, 1, by decide⟩
    (refreshStatus_eq_ok.mpr ⟨⟨rfl, rfl⟩, deadlineDay, cocoa_noticeDeadline, congrArg (fun status =>
      ({ cocoaColumns.loaded with columns := { cocoaColumns with status := status } } :
        SessionContract))
        cocoa_active.symm⟩) rfl

/-- A check on the day after the deadline alone leaves no alert of it. -/
theorem deadline_alert_missed : ∃ checked, runAlertChecks cocoaColumns noAlerts [dayAfterDeadline] =
    .ok checked ∧ (deadlineDay < dayAfterDeadline ∧ dayAfterDeadline < cocoaColumns.expiryDate) ∧
      ∀ date, ⟨cocoaColumns.id, .noticeDeadline, date⟩ ∉ checked.rows := by
  have hStart : Holds cocoaColumns.id noAlerts [] noAlerts := ⟨rfl, List.nodup_nil⟩
  obtain ⟨checked, hChecked, hHolds⟩ :=
    @runAlertChecks_fire _ _ _ _ _ [dayAfterDeadline] rfl cocoa_noticeDeadline hStart
  refine ⟨checked, hChecked, by decide, fun date hFired => ?_⟩
  obtain ⟨-, hMem⟩ := ((hHolds.alertsAfter rfl).noticeDeadline date).mp hFired
  exact absurd (List.mem_singleton.mp hMem) (by decide)

end Runs

end ProcureFoundation.Contracts
