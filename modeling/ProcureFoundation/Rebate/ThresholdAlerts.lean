import ProcureFoundation.Evidence.Rows
import ProcureFoundation.Foundation.DayArithmetic
import ProcureFoundation.Foundation.KeyedRows
import ProcureFoundation.Foundation.RunMoments
import ProcureFoundation.Rebate.NextTier

/-!
# Threshold alerts

A check loads the agreement and the period, finds out whether the next tier is close while the
period is about to end, looks for an alert of the period and adds one. Checks and all other requests
interleave, and only the unique key of the alerts keeps two checks from firing for one period.
-/

namespace ProcureFoundation.Rebate

open Evidence KeyedRows

def bufferPct : ℚ := 85 / 100

def bufferDays : ℤ := 30

def isThresholdAlertDue (actualSpend : ℚ) (bands : List RebateBand) (today periodEnd : Date) :
    Except String Bool :=
  (calculateProgressToNextTier actualSpend bands).map fun progress =>
    match progress.1 with
    | none => false
    | some nextThreshold =>
      let daysToClose := today.daysUntil periodEnd
      if daysToClose < 0 ∨ bufferDays < daysToClose then false
      else decide (contextRound (nextThreshold * bufferPct) ≤ actualSpend)

structure RebateAlert where
  rebatePeriodActualId : ℕ
  alertType : String
  triggerDate : Date
deriving DecidableEq

/-- The table holds no alert type twice for a period. -/
structure RebateAlerts where
  rows : List RebateAlert
  unique : (rows.map fun alert => (alert.rebatePeriodActualId, alert.alertType)).Nodup

def RebateAlerts.add (alerts : RebateAlerts) (alert : RebateAlert) : Except String RebateAlerts :=
  if h : ((alerts.rows ++ [alert]).map fun alert =>
    (alert.rebatePeriodActualId, alert.alertType)).Nodup then
    .ok ⟨alerts.rows ++ [alert], h⟩
  else .error "duplicate key value violates unique constraint \"uq_rebate_alert_type\""

/-- The periods as their columns hold them. -/
structure PeriodRows where
  rows : List RebatePeriodActual
  fits : ∀ row ∈ rows, ∀ spend, row.actualSpend = some spend → |spend.units| < 10 ^ 18

def thresholdApproaching : String := "threshold_approaching"

/-- What a check has loaded. -/
structure LoadedCheck where
  agreement : RebateAgreement
  periodActual : RebatePeriodActual
  asOfDate : Date

namespace LoadedCheck

def due (check : LoadedCheck) : Except String Bool :=
  match bandsFromAgreement check.agreement, check.periodActual.actualSpend with
  | some bands, some actualSpend =>
    isThresholdAlertDue actualSpend.value bands check.asOfDate check.periodActual.periodEnd
  | none, _ | some _, none => .ok false

def alert (check : LoadedCheck) : RebateAlert :=
  ⟨check.periodActual.id, thresholdApproaching, check.asOfDate⟩

end LoadedCheck

/-- Where a check under way has got to. -/
inductive AlertCheck where
  | agreementLoaded (periodActualId : ℕ) (asOfDate : Date) (agreement : RebateAgreement)
  | periodLoaded (check : LoadedCheck)
  | noneExisting (check : LoadedCheck)

/-- The answer names the alert that has been fired, if any. -/
structure AnsweredCheck where
  check : LoadedCheck
  alertFired : Except String (Option String)

/-- The audit log is that of the alerts, which names their periods. -/
structure AlertDesk where
  agreements : List RebateAgreement
  periodActuals : PeriodRows
  alerts : RebateAlerts
  auditLogs : List ℕ
  pending : ℕ → Option AlertCheck
  answered : List AnsweredCheck

inductive AlertEvent where
  | check (request agreementId periodActualId : ℕ) (asOfDate : Date)
  | advance (request : ℕ)
  | change (agreements : List RebateAgreement) (periodActuals : PeriodRows)

namespace AlertDesk

def put (desk : AlertDesk) (request : ℕ) (check : Option AlertCheck) : AlertDesk :=
  { desk with pending := Function.update desk.pending request check }

def answer (desk : AlertDesk) (request : ℕ) (check : LoadedCheck)
    (alertFired : Except String (Option String)) : AlertDesk :=
  { desk.put request none with answered := desk.answered ++ [⟨check, alertFired⟩] }

def existing (desk : AlertDesk) (periodActualId : ℕ) : Option RebateAlert :=
  desk.alerts.rows.find? fun alert =>
    decide (alert.rebatePeriodActualId = periodActualId ∧ alert.alertType = thresholdApproaching)

def loadPeriod (desk : AlertDesk) (agreement : RebateAgreement) (periodActualId : ℕ) :
    Option RebatePeriodActual :=
  desk.periodActuals.rows.find? fun row =>
    decide (row.id = periodActualId ∧ row.rebateAgreementId = agreement.id)

/-- What a check does between two of its queries. -/
def advance (desk : AlertDesk) (request : ℕ) : AlertCheck → AlertDesk
  | .agreementLoaded periodActualId asOfDate agreement =>
    desk.put request ((desk.loadPeriod agreement periodActualId).map fun periodActual =>
      .periodLoaded ⟨agreement, periodActual, asOfDate⟩)
  | .periodLoaded check =>
    match check.due with
    | .error message => desk.answer request check (.error message)
    | .ok false => desk.answer request check (.ok none)
    | .ok true =>
      if (desk.existing check.periodActual.id).isSome then desk.answer request check (.ok none)
      else desk.put request (some (.noneExisting check))
  | .noneExisting check =>
    match desk.alerts.add check.alert with
    | .error message => desk.answer request check (.error message)
    | .ok alerts =>
      { desk.answer request check (.ok (some check.alert.alertType)) with
        alerts, auditLogs := desk.auditLogs ++ [check.periodActual.id] }

def step (desk : AlertDesk) : AlertEvent → AlertDesk
  | .check request agreementId periodActualId asOfDate =>
    desk.put request ((lookup RebateAgreement.id desk.agreements agreementId).map fun agreement =>
      .agreementLoaded periodActualId asOfDate agreement)
  | .advance request =>
    match desk.pending request with
    | none => desk
    | some check => desk.advance request check
  | .change agreements periodActuals => { desk with agreements, periodActuals }

end AlertDesk

/-- The least threshold beyond the spend is near, and the period ends within the buffer. -/
structure Approaching (spend : ℚ) (bands : List RebateBand) (today periodEnd : Date)
    (threshold : ℚ) : Prop where
  next : IsNextThreshold spend bands threshold
  near : contextRound (threshold * bufferPct) ≤ spend
  opened : 0 ≤ today.daysUntil periodEnd
  closing : today.daysUntil periodEnd ≤ bufferDays

namespace LoadedCheck

def Due (check : LoadedCheck) : Prop :=
  ∃ bands spend threshold, bandsFromAgreement check.agreement = some bands ∧
    check.periodActual.actualSpend = some spend ∧
    Approaching spend.value bands check.asOfDate check.periodActual.periodEnd threshold

def Fits (check : LoadedCheck) : Prop :=
  ∀ spend, check.periodActual.actualSpend = some spend → |spend.units| < 10 ^ 18

end LoadedCheck

section Due

variable {spend : ℚ} {amount : Money} {bands : List RebateBand} {today periodEnd : Date}
  {threshold : ℚ} {check : LoadedCheck}

theorem abs_value_lt (h : |amount.units| < 10 ^ 18) : |amount.value| < 10 ^ (14 : ℤ) := by
  rw [FixedPoint.value, abs_div, abs_of_pos (by positivity : (0 : ℚ) < 10 ^ 4),
    div_lt_iff₀ (by positivity)]
  have hUnits : |(amount.units : ℚ)| < 10 ^ 18 := by exact_mod_cast h
  exact hUnits.trans_eq (by norm_num)

/-- A threshold that is near is not much more than the spend, so the difference to it has digits to
spare. -/
theorem Approaching.small (h : Approaching amount.value bands today periodEnd threshold)
    (hFits : |amount.units| < 10 ^ 18) :
    |threshold - amount.value| ≤ 10 ^ (15 : ℤ) := by
  have hSpend := abs_value_lt hFits
  have hBeyond := h.next.beyond
  rw [abs_of_pos (sub_pos.mpr hBeyond)]
  obtain ⟨hLow, hHigh⟩ := abs_lt.mp hSpend
  by_cases hPos : 0 ≤ threshold
  · have hRounded : |contextRound (threshold * bufferPct)| <
        ((10 ^ 28 : ℤ) : ℚ) * 10 ^ (-14 : ℤ) := by
      have hNonneg : 0 ≤ contextRound (threshold * bufferPct) :=
        contextRound_nonneg (mul_nonneg hPos (by norm_num [bufferPct]))
      rw [abs_of_nonneg hNonneg]
      exact (h.near.trans_lt hHigh).trans_eq (by norm_num)
    have hExact := (abs_contextRound_lt_iff (by norm_num) (by norm_num) le_rfl).mp hRounded
    rw [abs_of_nonneg (mul_nonneg hPos (by norm_num [bufferPct])), bufferPct] at hExact
    norm_num at hExact hLow ⊢
    linarith
  · norm_num at hLow hHigh ⊢
    linarith

theorem Approaching.due (h : Approaching amount.value bands today periodEnd threshold)
    (hFits : |amount.units| < 10 ^ 18) :
    isThresholdAlertDue amount.value bands today periodEnd = .ok true := by
  have hOpen : ¬(today.daysUntil periodEnd < 0 ∨ bufferDays < today.daysUntil periodEnd) := by
    rintro (hPast | hEarly)
    · exact absurd h.opened (not_le.mpr hPast)
    · exact absurd h.closing (not_le.mpr hEarly)
  rw [isThresholdAlertDue, calculateProgressToNextTier_of_next h.next,
    roundedDifference_of_small (h.small hFits)]
  dsimp only [Except.map]
  rw [if_neg hOpen, decide_eq_true h.near]

theorem approaching_of_due (hNonempty : bands ≠ [])
    (h : isThresholdAlertDue spend bands today periodEnd = .ok true) :
    ∃ threshold, Approaching spend bands today periodEnd threshold := by
  rw [isThresholdAlertDue] at h
  obtain ⟨-, hNone⟩ | ⟨threshold, hNext, hSome⟩ := calculateProgressToNextTier_cases hNonempty spend
  · rw [hNone] at h
    cases h
  · rw [hSome] at h
    cases hDifference : roundedDifference threshold spend with
    | error message =>
      rw [hDifference] at h
      cases h
    | ok remaining =>
      rw [hDifference] at h
      dsimp only [Except.map] at h
      split at h
      · cases h
      · rename_i hOpen
        obtain ⟨hOpened, hClosing⟩ := not_or.mp hOpen
        exact ⟨threshold, hNext, of_decide_eq_true (Except.ok.inj h), not_lt.mp hOpened,
          not_lt.mp hClosing⟩

theorem bandsFromAgreement_ne_nil {agreement : RebateAgreement}
    (h : bandsFromAgreement agreement = some bands) : bands ≠ [] := by
  rintro rfl
  rw [bandsFromAgreement] at h
  cases hBands : agreement.bands with
  | none =>
    rw [hBands] at h
    cases h
  | some listed =>
    rw [hBands] at h
    cases listed with
    | nil => cases h
    | cons band rest => cases h

theorem due_of_eq_ok (h : check.due = .ok true) : check.Due := by
  unfold LoadedCheck.due at h
  split at h
  · rename_i bands spend hBands hSpend
    obtain ⟨threshold, hApproaching⟩ := approaching_of_due (bandsFromAgreement_ne_nil hBands) h
    exact ⟨bands, spend, threshold, hBands, hSpend, hApproaching⟩
  · cases h
  · cases h

/-- What is due is found so, with the arithmetic of the remaining amount included. -/
theorem due_eq_ok_iff (hFits : check.Fits) : check.due = .ok true ↔ check.Due := by
  refine ⟨due_of_eq_ok, ?_⟩
  rintro ⟨bands, spend, threshold, hBands, hSpend, hApproaching⟩
  unfold LoadedCheck.due
  rw [hBands, hSpend]
  exact hApproaching.due (hFits spend hSpend)

end Due

namespace AlertDesk

def Idle (desk : AlertDesk) : Prop := (∀ request, desk.pending request = none) ∧ desk.answered = []

/-- The checks that were answered with an alert. -/
def fired (desk : AlertDesk) : List LoadedCheck :=
  desk.answered.filterMap fun answer =>
    match answer.alertFired with
    | .ok (some _) => some answer.check
    | .ok none | .error _ => none

def HasAlert (desk : AlertDesk) (periodActualId : ℕ) : Prop :=
  ∃ alert ∈ desk.alerts.rows, alert.rebatePeriodActualId = periodActualId ∧
    alert.alertType = thresholdApproaching

end AlertDesk

/-- The check was asked for, and each of its rows was in the tables at some time since the start. -/
structure WasLoaded (start : AlertDesk) (events : List AlertEvent) (check : LoadedCheck) :
    Prop where
  asked : ∃ request, .check request check.agreement.id check.periodActual.id check.asOfDate ∈ events
  agreement : Once AlertDesk.step (fun desk => check.agreement ∈ desk.agreements) start events
  periodActual : Once AlertDesk.step (fun desk => check.periodActual ∈ desk.periodActuals.rows)
    start events
  belongs : check.periodActual.rebateAgreementId = check.agreement.id

/-- The new alerts are those that the checks answered with, each of which was due, and no period has
two of them. Whatever was due when it was answered has an alert. -/
structure FiresOnce (start : AlertDesk) (events : List AlertEvent) (finish : AlertDesk) : Prop where
  alerts : finish.alerts.rows = start.alerts.rows ++ finish.fired.map LoadedCheck.alert
  auditLogs : finish.auditLogs = start.auditLogs ++ finish.fired.map fun check =>
    check.periodActual.id
  once : (finish.fired.map fun check => check.periodActual.id).Nodup
  justified : ∀ check ∈ finish.fired, check.Due ∧ WasLoaded start events check
  settled : ∀ answer ∈ finish.answered, answer.check.Due →
    finish.HasAlert answer.check.periodActual.id

section Runs

variable {start desk : AlertDesk} {events later : List AlertEvent} {check : LoadedCheck}
  {request : ℕ}

theorem WasLoaded.append (h : WasLoaded start events check) :
    WasLoaded start (events ++ later) check where
  asked := by
    obtain ⟨request, hAsked⟩ := h.asked
    exact ⟨request, List.mem_append_left later hAsked⟩
  agreement := h.agreement.append
  periodActual := h.periodActual.append
  belongs := h.belongs

theorem WasLoaded.fits (h : WasLoaded start events check) : check.Fits := by
  obtain ⟨past, -, hMem⟩ := h.periodActual
  exact (runFrom AlertDesk.step start past).periodActuals.fits check.periodActual hMem

/-- What is known of a check under way. -/
def Pending (start : AlertDesk) (events : List AlertEvent) : AlertCheck → Prop
  | .agreementLoaded periodActualId asOfDate agreement =>
    (∃ request, .check request agreement.id periodActualId asOfDate ∈ events) ∧
      Once AlertDesk.step (fun desk => agreement ∈ desk.agreements) start events
  | .periodLoaded check => WasLoaded start events check
  | .noneExisting check => check.Due ∧ WasLoaded start events check

structure Sound (start : AlertDesk) (events : List AlertEvent) (desk : AlertDesk) : Prop where
  alerts : desk.alerts.rows = start.alerts.rows ++ desk.fired.map LoadedCheck.alert
  auditLogs : desk.auditLogs = start.auditLogs ++ desk.fired.map fun check => check.periodActual.id
  justified : ∀ check ∈ desk.fired, check.Due ∧ WasLoaded start events check
  settled : ∀ answer ∈ desk.answered, answer.check.Due → desk.HasAlert answer.check.periodActual.id
  pending : ∀ request check, desk.pending request = some check → Pending start events check

theorem Pending.append {check : AlertCheck} (h : Pending start events check) :
    Pending start (events ++ later) check := by
  cases check with
  | agreementLoaded periodActualId asOfDate agreement =>
    obtain ⟨⟨request, hAsked⟩, hAgreement⟩ := h
    exact ⟨⟨request, List.mem_append_left later hAsked⟩, hAgreement.append⟩
  | periodLoaded check => exact WasLoaded.append h
  | noneExisting check => exact ⟨h.1, h.2.append⟩

theorem Sound.append (h : Sound start events desk) : Sound start (events ++ later) desk where
  alerts := h.alerts
  auditLogs := h.auditLogs
  justified check hFired := ⟨(h.justified check hFired).1, (h.justified check hFired).2.append⟩
  settled := h.settled
  pending request check hPending := (h.pending request check hPending).append

theorem pending_put {check : AlertCheck} {other : ℕ} {next : Option AlertCheck}
    (h : (desk.put request next).pending other = some check) :
    next = some check ∨ desk.pending other = some check := by
  dsimp only [AlertDesk.put] at h
  rw [Function.update_apply] at h
  split at h
  · exact .inl h
  · exact .inr h

theorem Sound.put (h : Sound start events desk) {next : Option AlertCheck}
    (hNext : ∀ check, next = some check → Pending start events check) :
    Sound start events (desk.put request next) where
  alerts := h.alerts
  auditLogs := h.auditLogs
  justified := h.justified
  settled := h.settled
  pending other check hPending := by
    obtain hNew | hOld := pending_put hPending
    · exact hNext check hNew
    · exact h.pending other check hOld

theorem fired_append (desk : AlertDesk) {answers : List AnsweredCheck} :
    ({ desk with answered := desk.answered ++ answers } : AlertDesk).fired =
    desk.fired ++ ({ desk with answered := answers } : AlertDesk).fired := List.filterMap_append

/-- An answer without an alert is given when nothing is due or there is an alert. -/
theorem Sound.answer (h : Sound start events desk) {alertFired : Except String (Option String)}
    (hQuiet : ∀ alertType, alertFired ≠ .ok (some alertType))
    (hSettled : check.Due → desk.HasAlert check.periodActual.id) :
    Sound start events (desk.answer request check alertFired) := by
  have hPut : Sound start events (desk.put request none) := h.put fun _ hNone => nomatch hNone
  have hFired : (desk.answer request check alertFired).fired = desk.fired := by
    refine (fired_append (desk.put request none)).trans ((congrArg _ ?_).trans (List.append_nil _))
    rw [AlertDesk.fired, List.filterMap_eq_nil_iff]
    intro answer hAnswer
    obtain rfl := List.mem_singleton.mp hAnswer
    dsimp only
    split
    · exact absurd rfl (hQuiet _)
    · rfl
    · rfl
  refine ⟨?_, ?_, ?_, fun answer hAnswer hDue => ?_, hPut.pending⟩
  · rw [hFired]
    exact h.alerts
  · rw [hFired]
    exact h.auditLogs
  · rw [hFired]
    exact h.justified
  · obtain hOld | hNew := List.mem_append.mp hAnswer
    · exact h.settled answer hOld hDue
    · obtain rfl := List.mem_singleton.mp hNew
      exact hSettled hDue

theorem Sound.fire (h : Sound start events desk) (hDue : check.Due)
    (hLoaded : WasLoaded start events check) {alerts : RebateAlerts}
    (hAlerts : alerts.rows = desk.alerts.rows ++ [check.alert]) :
    Sound start events { desk.answer request check (.ok (some check.alert.alertType)) with
      alerts, auditLogs := desk.auditLogs ++ [check.periodActual.id] } := by
  have hPut : Sound start events (desk.put request none) := h.put fun _ hNone => nomatch hNone
  have hFired : (desk.answer request check (.ok (some check.alert.alertType))).fired = desk.fired ++
      [check] :=
    fired_append (desk.put request none)
  have hKept : ∀ periodActualId, desk.HasAlert periodActualId → ∃ alert ∈ alerts.rows,
      alert.rebatePeriodActualId = periodActualId ∧ alert.alertType = thresholdApproaching := by
    rintro periodActualId ⟨alert, hAlert, hKey⟩
    exact ⟨alert, hAlerts ▸ List.mem_append_left _ hAlert, hKey⟩
  refine ⟨?_, ?_, ?_, fun answer hAnswer hAnswered => ?_, hPut.pending⟩
  · refine hAlerts.trans ?_
    rw [h.alerts, List.append_assoc]
    refine congrArg _ ?_
    exact ((congrArg (List.map LoadedCheck.alert) hFired).trans List.map_append).symm
  · refine (congrArg (· ++ [check.periodActual.id]) h.auditLogs).trans ?_
    rw [List.append_assoc]
    refine congrArg _ ?_
    exact ((congrArg (List.map fun check => check.periodActual.id) hFired).trans List.map_append).symm
  · intro other hOther
    obtain hOld | hNew := List.mem_append.mp ((congrArg (other ∈ ·) hFired).mp hOther)
    · exact h.justified other hOld
    · obtain rfl := List.mem_singleton.mp hNew
      exact ⟨hDue, hLoaded⟩
  · obtain hOld | hNew := List.mem_append.mp hAnswer
    · exact hKept _ (h.settled answer hOld hAnswered)
    · obtain rfl := List.mem_singleton.mp hNew
      exact ⟨check.alert, hAlerts ▸ List.mem_append_right _ List.mem_cons_self, rfl, rfl⟩

theorem rows_of_add {alerts added : RebateAlerts} {alert : RebateAlert}
    (h : alerts.add alert = .ok added) : added.rows = alerts.rows ++ [alert] := by
  rw [RebateAlerts.add] at h
  split at h
  · rw [← Except.ok.inj h]
  · cases h

theorem hasAlert_of_duplicate {message : String}
    (h : desk.alerts.add check.alert = .error message) : desk.HasAlert check.periodActual.id := by
  rw [RebateAlerts.add] at h
  split at h
  · cases h
  · rename_i hDuplicate
    rw [List.map_append, List.nodup_append] at hDuplicate
    by_contra hNone
    refine hDuplicate
      ⟨desk.alerts.unique, List.nodup_singleton _, fun key hKey other hOther hSame => hNone ?_⟩
    obtain ⟨alert, hAlert, rfl⟩ := List.mem_map.mp hKey
    obtain rfl := List.mem_singleton.mp hOther
    obtain ⟨hPeriod, hType⟩ := Prod.mk.inj hSame
    exact ⟨alert, hAlert, hPeriod, hType⟩

theorem hasAlert_of_existing {periodActualId : ℕ}
    (h : (desk.existing periodActualId).isSome = true) : desk.HasAlert periodActualId := by
  obtain ⟨alert, hAlert⟩ := Option.isSome_iff_exists.mp h
  have hKey := List.find?_some hAlert
  exact ⟨alert, List.mem_of_find?_eq_some hAlert, of_decide_eq_true hKey⟩

theorem Sound.advance (h : Sound start events desk)
    (hNow : runFrom AlertDesk.step start events = desk) {held : AlertCheck}
    (hHeld : Pending start events held) : Sound start events (desk.advance request held) := by
  cases held with
  | agreementLoaded periodActualId asOfDate agreement =>
    obtain ⟨hAsked, hAgreement⟩ := hHeld
    refine h.put fun next hNext => ?_
    obtain ⟨periodActual, hPeriod, rfl⟩ := Option.map_eq_some_iff.mp hNext
    have hKey := List.find?_some hPeriod
    obtain ⟨rfl, hBelongs⟩ := of_decide_eq_true hKey
    exact ⟨hAsked, hAgreement, .now (hNow ▸ List.mem_of_find?_eq_some hPeriod), hBelongs⟩
  | periodLoaded check =>
    have hFits := WasLoaded.fits hHeld
    unfold AlertDesk.advance
    dsimp only
    split
    · rename_i message hError
      refine h.answer (fun _ hSome => nomatch hSome) fun hDue => ?_
      rw [(due_eq_ok_iff hFits).mpr hDue] at hError
      cases hError
    · rename_i hFalse
      refine h.answer (fun _ hSome => nomatch hSome) fun hDue => ?_
      rw [(due_eq_ok_iff hFits).mpr hDue] at hFalse
      cases hFalse
    · rename_i hDue
      split
      · rename_i hExisting
        exact h.answer (fun _ hSome => nomatch hSome) fun _ => hasAlert_of_existing hExisting
      · refine h.put fun next hNext => ?_
        obtain rfl := Option.some.inj hNext
        exact ⟨due_of_eq_ok hDue, hHeld⟩
  | noneExisting check =>
    unfold AlertDesk.advance
    dsimp only
    split
    · rename_i hDuplicate
      exact h.answer (fun _ hSome => nomatch hSome) fun _ => hasAlert_of_duplicate hDuplicate
    · rename_i hAdded
      exact h.fire hHeld.1 hHeld.2 (rows_of_add hAdded)

theorem Sound.step (h : Sound start events desk) (hNow : runFrom AlertDesk.step start events = desk)
    (event : AlertEvent) : Sound start (events ++ [event]) (desk.step event) := by
  cases event with
  | check request agreementId periodActualId asOfDate =>
    refine h.append.put fun next hNext => ?_
    obtain ⟨agreement, hAgreement, rfl⟩ := Option.map_eq_some_iff.mp hNext
    refine ⟨⟨request, ?_⟩, Once.append (.now (hNow ▸ mem_of_lookup hAgreement))⟩
    rw [key_of_lookup hAgreement]
    exact List.mem_append_right events List.mem_cons_self
  | advance request =>
    unfold AlertDesk.step
    dsimp only
    split
    · exact h.append
    · rename_i held hPending
      exact (h.advance hNow (h.pending request held hPending)).append
  | change agreements periodActuals =>
    have hLater : Sound start (events ++ [.change agreements periodActuals]) desk := h.append
    exact ⟨hLater.alerts, hLater.auditLogs, hLater.justified, hLater.settled, hLater.pending⟩

theorem sound_runFrom (hIdle : start.Idle) :
    Sound start events (runFrom AlertDesk.step start events) := by
  induction events using List.reverseRecOn with
  | nil =>
    have hAnswered : start.answered = [] := hIdle.2
    have hFired : start.fired = [] := by rw [AlertDesk.fired, hAnswered, List.filterMap_nil]
    refine ⟨?_, ?_, fun check hCheck => ?_, fun answer hAnswer => ?_,
      fun request check hPending => ?_⟩
    · change start.alerts.rows = start.alerts.rows ++ start.fired.map _
      rw [hFired]
      exact (List.append_nil _).symm
    · change start.auditLogs = start.auditLogs ++ start.fired.map _
      rw [hFired]
      exact (List.append_nil _).symm
    · exact absurd (hFired ▸ hCheck) List.not_mem_nil
    · exact absurd (hAnswered ▸ hAnswer) List.not_mem_nil
    · exact nomatch (hIdle.1 request).symm.trans hPending
  | append_singleton events event ih =>
    rw [runFrom_concat]
    exact ih.step rfl event

end Runs

/-- Checks fire at most once for a period, and never miss an alert that is due when they look. -/
theorem alerts_fire_once (start : AlertDesk) (hIdle : start.Idle) (events : List AlertEvent) :
    FiresOnce start events (runFrom AlertDesk.step start events) := by
  have hSound : Sound start events (runFrom AlertDesk.step start events) := sound_runFrom hIdle
  refine ⟨hSound.alerts, hSound.auditLogs, ?_, hSound.justified, hSound.settled⟩
  have hUnique := (runFrom AlertDesk.step start events).alerts.unique
  rw [hSound.alerts, List.map_append, List.map_map] at hUnique
  have hKeys := hUnique.of_append_right
  refine List.Nodup.of_map (fun periodActualId => (periodActualId, thresholdApproaching)) ?_
  rw [List.map_map]
  exact hKeys

def retailAgreement : RebateAgreement :=
  ⟨1, 1, some 1, .tiered, none, some [⟨0, 1 / 100⟩, ⟨1000, 2 / 100⟩], none⟩

def retailPeriod : RebatePeriodActual where
  id := 1
  organisationId := 1
  rebateAgreementId := 1
  periodStart := ⟨2025, 4, 1, by decide⟩
  periodEnd := ⟨2025, 6, 30, by decide⟩
  actualSpend := some ⟨9000000⟩
  actualVolume := none
  entrySource := .manual
  expectedAmount := none
  expectedAmountStatus := "unknown"
  expectedAmountSourceBasis := none
  expectedAmountCalculatedAt := none
  expectedAmountApprovedAt := none
  expectedAmountApprovedByUserId := none
  expectedAmountCurrentEventId := none
  earnedAmount := none
  earnedAt := none
  receivedAmount := none
  receivedReference := none
  status := .onTrack
  statusCalculatedAt := none

def retailDesk : AlertDesk where
  agreements := [retailAgreement]
  periodActuals := ⟨[retailPeriod], by decide⟩
  alerts := ⟨[], List.nodup_nil⟩
  auditLogs := []
  pending _ := none
  answered := []

def midJune : Date := ⟨2025, 6, 16, by decide⟩

/-- Both checks find no alert before either adds one. -/
def racingChecks : List AlertEvent :=
  [.check 1 1 1 midJune, .check 2 1 1 midJune, .advance 1, .advance 2, .advance 1, .advance 2,
    .advance 1, .advance 2]

theorem racingChecks_fire_once :
    FiresOnce retailDesk racingChecks (runFrom AlertDesk.step retailDesk racingChecks) :=
  alerts_fire_once retailDesk ⟨fun _ => rfl, rfl⟩ racingChecks

example : (runFrom AlertDesk.step retailDesk racingChecks).answered.map AnsweredCheck.alertFired =
    [.ok (some "threshold_approaching"),
      .error "duplicate key value violates unique constraint \"uq_rebate_alert_type\""] := by
  decide +kernel

end ProcureFoundation.Rebate
