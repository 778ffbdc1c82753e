import ProcureFoundation.Evidence.SnapshotAgreement
import ProcureFoundation.Foundation.Outcomes

/-!
# Service sessions

A service function works on one session: it reads the rows as its own changes have left
them, sends row changes, and commits. The library of this file says what a writer must
get right. An event that takes the next version and continues the latest one keeps the
chain, and the parent is in order again once its columns repeat the event.
-/

namespace ProcureFoundation.Evidence

open Outcome ThreeValued KeyedRows VersionedLog

inductive ServiceError where
  | conflict (message : String)
  | notFound (message : String)
  | value (message : String)
  | invalidOperation
  | database
deriving DecidableEq

structure Session where
  db : Db
  executed : List Statement
  nextEventId : ℕ

namespace Session

def run (session : Session) (statement : Statement) : Except ServiceError Session :=
  if session.db.accepts statement then
    .ok { session with db := session.db.apply statement, executed := session.executed ++ [statement] }
  else .error .database

def insertEvent (session : Session) (event : FinancialAmountStatusEvent) :
    Except ServiceError Session := do
  let session ← session.run (.insertEvent { event with id := session.nextEventId })
  return { session with nextEventId := session.nextEventId + 1 }

def commit (session : Session) : Except ServiceError Db :=
  if session.executed.all session.db.triggersPass then .ok session.db else .error .database

end Session

def nextVersion (events : List FinancialAmountStatusEvent) (measure : Measure) (parentId : ℕ) : ℤ :=
  let currentMax := ((events.filter fun e => measure.parentOf e == some parentId &&
    e.measureCode == measure.code).map FinancialAmountStatusEvent.eventVersion).max?
  currentMax.getD 0 + 1

section NextVersion

variable {events : List FinancialAmountStatusEvent} {measure : Measure} {parentId : ℕ}

theorem nextVersion_spec (hStored : EventsStored events) (measure : Measure) (parentId : ℕ) :
    0 < nextVersion events measure parentId ∧
      (∀ f ∈ events, measure.governs parentId f →
        f.eventVersion < nextVersion events measure parentId) ∧
      (nextVersion events measure parentId = 1 ∨ ∃ latest ∈ events,
        measure.governs parentId latest ∧
        latest.eventVersion = nextVersion events measure parentId - 1) := by
  have hIn : ∀ f, f ∈ events.filter (fun e => measure.parentOf e == some parentId &&
      e.measureCode == measure.code) ↔ f ∈ events ∧ measure.governs parentId f := by
    intro f
    simp [Measure.governs]
  unfold nextVersion
  cases hMax : ((events.filter fun e => measure.parentOf e == some parentId &&
      e.measureCode == measure.code).map FinancialAmountStatusEvent.eventVersion).max? with
  | none =>
    have hNil := List.map_eq_nil_iff.mp (List.max?_eq_none_iff.mp hMax)
    refine ⟨by decide, ?_, .inl rfl⟩
    intro f hf hGoverns
    have hMem := (hIn f).mpr ⟨hf, hGoverns⟩
    rw [hNil] at hMem
    cases hMem
  | some top =>
    obtain ⟨hTop, hLe⟩ := List.max?_eq_some_iff.mp hMax
    obtain ⟨latest, hLatest, rfl⟩ := List.mem_map.mp hTop
    obtain ⟨hMem, hGoverns⟩ := (hIn latest).mp hLatest
    have hPos := FinancialAmountStatusEvent.eventVersion_pos (hStored.accepted latest hMem)
    simp only [Option.getD_some]
    refine ⟨by omega, ?_, .inr ⟨latest, hMem, hGoverns, by omega⟩⟩
    intro f hf hfGoverns
    have hfLe := hLe _ (List.mem_map_of_mem ((hIn f).mpr ⟨hf, hfGoverns⟩))
    omega

theorem nextVersion_of_current (hStored : EventsStored events) {snapshot : Snapshot}
    {latest : FinancialAmountStatusEvent}
    (hCurrent : IsCurrentEvent events measure parentId snapshot latest) :
    nextVersion events measure parentId = latest.eventVersion + 1 := by
  obtain ⟨-, hBelow, hFirst | ⟨top, hTop, hGoverns, hVersion⟩⟩ :=
    nextVersion_spec hStored measure parentId
  · have hPositive :=
      FinancialAmountStatusEvent.eventVersion_pos (hStored.accepted latest hCurrent.mem)
    have hLt := hBelow latest hCurrent.mem hCurrent.governs
    omega
  · have hLt := hBelow latest hCurrent.mem hCurrent.governs
    have hLe := hCurrent.latest top hTop hGoverns
    omega

theorem uqFamevSeq_of_governs {e f : FinancialAmountStatusEvent} (he : e.rowAccepted)
    (hGoverns : measure.governs parentId e)
    (hVersion : measure.governs parentId f → f.eventVersion ≠ e.eventVersion) : uqFamevSeq e f := by
  have hSeries := (Measure.governs_iff_series he).mp hGoverns
  have hHolds : ∀ (x : Option ℕ) (y : ℕ), holds (equals x (some y)) = true ↔ x = some y := by
    rintro (_ | x) y <;> simp [equals]
  have hNull : ∀ x : Option ℕ, holds (equals x none) = false := by
    rintro (_ | x) <;> rfl
  obtain ⟨hParent, hCode⟩ := hGoverns
  cases measure with
  | expectedAmount =>
    have hOther : e.opportunityId = none := (Prod.mk.inj (Prod.mk.inj hSeries).2).1
    simp only [uqFamevSeq, uqFamevRebateSeq, uqFamevOpportunitySeq, hOther, hNull, Bool.false_and,
      Bool.not_false, Bool.and_true, Bool.not_eq_true', Bool.and_eq_false_iff, beq_eq_false_iff_ne,
      show e.rebatePeriodActualId = some parentId from hParent, hCode]
    by_contra hConflict
    push Not at hConflict
    obtain ⟨⟨hSame, hMeasure⟩, hEq⟩ := hConflict
    exact hVersion ⟨(hHolds _ _).mp (Bool.eq_true_of_not_eq_false hSame), hMeasure⟩ hEq
  | annualFinancialImpact | realisedSavings =>
    have hOther : e.rebatePeriodActualId = none := (Prod.mk.inj hSeries).1
    simp only [uqFamevSeq, uqFamevRebateSeq, uqFamevOpportunitySeq, hOther, hNull, Bool.false_and,
      Bool.not_false, Bool.true_and, Bool.not_eq_true', Bool.and_eq_false_iff, beq_eq_false_iff_ne,
      show e.opportunityId = some parentId from hParent, hCode]
    by_contra hConflict
    push Not at hConflict
    obtain ⟨⟨hSame, hMeasure⟩, hEq⟩ := hConflict
    exact hVersion ⟨(hHolds _ _).mp (Bool.eq_true_of_not_eq_false hSame), hMeasure⟩ hEq

end NextVersion

section Chained

/-- The chain is whole and every snapshot agrees with it, except those still pending. -/
structure Db.Chained (pending : Measure → ℕ → Prop) (db : Db) : Prop extends db.Constrained where
  chain : Linked FinancialAmountStatusEvent.series FinancialAmountStatusEvent.eventVersion Continues
    {e | e ∈ db.events}
  snapshotsAgree : ∀ measure parentId snapshot, ¬pending measure parentId →
    db.snapshot measure parentId = some snapshot → snapshot.Agrees db.events measure parentId

variable {pending pending' : Measure → ℕ → Prop} {db : Db} {statement : Statement}
  {measure : Measure} {parentId : ℕ} {e : FinancialAmountStatusEvent}

theorem Db.Valid.chained (h : db.Valid) : db.Chained fun _ _ => False where
  toConstrained := h.toConstrained
  chain := h.chain
  snapshotsAgree measure parentId snapshot _ hSnapshot :=
    h.snapshotsAgree measure parentId snapshot hSnapshot

theorem Db.Chained.valid (h : db.Chained fun _ _ => False)
    (hEvidence : ∀ e ∈ db.events, checkConfirmedEventHasSufficientEvidence db.evidence e) :
    db.Valid where
  toConstrained := h.toConstrained
  chain := h.chain
  evidenceSufficient := hEvidence
  snapshotsAgree measure parentId snapshot hSnapshot :=
    h.snapshotsAgree measure parentId snapshot not_false hSnapshot

/-- A change of parent rows settles the snapshots it writes and leaves the others as they were. -/
theorem Db.Chained.apply_row (h : db.Chained pending) (hAccepted : db.accepts statement)
    (hNoEvent : statement.insertedEvents = [])
    (hWritten : ∀ measure parentId snapshot, statement.touches measure parentId →
      ¬pending' measure parentId →
      statement.written measure = some snapshot → snapshot.Agrees db.events measure parentId)
    (hRest : ∀ measure parentId, ¬pending' measure parentId → ¬statement.touches measure parentId →
      ¬pending measure parentId) : (db.apply statement).Chained pending' := by
  have hEvents : (db.apply statement).events = db.events := by
    rw [apply_events, hNoEvent, List.append_nil]
  refine { h.toConstrained.apply hAccepted with chain := hEvents ▸ h.chain, snapshotsAgree := ?_ }
  intro measure parentId snapshot hPending hSnapshot
  rw [hEvents]
  by_cases hTouches : statement.touches measure parentId
  · exact hWritten measure parentId snapshot hTouches hPending
      (apply_snapshot_written hAccepted hTouches hSnapshot)
  · exact h.snapshotsAgree measure parentId snapshot (hRest measure parentId hPending hTouches)
      (apply_snapshot hTouches ▸ hSnapshot)

/-- An event with the next version that continues the latest one leaves only its own
snapshot pending. -/
theorem Db.Chained.apply_insertEvent (h : db.Chained pending)
    (hAccepted : db.accepts (.insertEvent e)) (hGoverns : measure.governs parentId e)
    (hVersion : e.eventVersion = nextVersion db.events measure parentId)
    (hContinues : ∀ latest ∈ db.events, measure.governs parentId latest →
      latest.eventVersion = e.eventVersion - 1 → Continues latest e)
    (hPending : ∀ measure' parentId', ¬pending' measure' parentId' →
      ¬pending measure' parentId' ∧ (measure', parentId') ≠ (measure, parentId)) :
    (db.apply (.insertEvent e)).Chained pending' := by
  obtain ⟨-, -, hNext⟩ := nextVersion_spec h.events measure parentId
  have hConstrained := h.toConstrained.apply hAccepted
  have hMem : e ∈ (db.apply (.insertEvent e)).events :=
    List.mem_append_right _ (List.mem_singleton.mpr rfl)
  have hSeries := (Measure.governs_iff_series (hConstrained.events.accepted e hMem)).mp hGoverns
  refine { hConstrained with chain := ⟨?_, ?_, ?_⟩, snapshotsAgree := ?_ }
  · intro f hf
    exact FinancialAmountStatusEvent.eventVersion_pos (hConstrained.events.accepted f hf)
  · intro f hf g hg hSame hSameVersion
    exact hConstrained.events.sequence hf hg hSame hSameVersion
  · intro f hf hNotFirst
    obtain hOld | hNew := List.mem_append.mp hf
    · obtain ⟨prev, hPrev, hLinked⟩ := h.chain.predecessor f hOld hNotFirst
      exact ⟨prev, List.mem_append_left _ hPrev, hLinked⟩
    · obtain rfl := List.mem_singleton.mp hNew
      obtain hFirst | ⟨latest, hLatest, hLatestGoverns, hLatestVersion⟩ := hNext
      · exact absurd (hVersion.trans hFirst) hNotFirst
      · rw [← hVersion] at hLatestVersion
        have hLatestSeries :=
          (Measure.governs_iff_series (h.events.accepted latest hLatest)).mp hLatestGoverns
        exact ⟨latest, List.mem_append_left _ hLatest, hLatestSeries.trans hSeries.symm,
          hLatestVersion, hContinues latest hLatest hLatestGoverns hLatestVersion⟩
  · intro measure' parentId' snapshot hNotPending hSnapshot
    obtain ⟨hBefore, hOther⟩ := hPending measure' parentId' hNotPending
    apply (h.snapshotsAgree measure' parentId' snapshot hBefore hSnapshot).of_no_new_event
    intro f hf hfGoverns
    obtain rfl := List.mem_singleton.mp hf
    have hfSeries := (Measure.governs_iff_series (hConstrained.events.accepted f hMem)).mp hfGoverns
    obtain ⟨rfl, rfl⟩ := Measure.series_injective (hfSeries.symm.trans hSeries)
    exact hOther rfl

theorem Snapshot.agrees_of_inserted {events : List FinancialAmountStatusEvent} {snapshot : Snapshot}
    (hStored : EventsStored events) (hGoverns : measure.governs parentId e)
    (hVersion : e.eventVersion = nextVersion events measure parentId)
    (hPointer : snapshot.currentEventId = some e.id)
    (hOrganisation : e.organisationId = snapshot.organisationId)
    (hColumns : snapshot.columns = measure.mirrored e.new) :
    snapshot.Agrees (events ++ [e]) measure parentId := by
  refine ⟨e, List.mem_append_right _ (List.mem_singleton.mpr rfl), hGoverns, hPointer,
    hOrganisation, ?_, hColumns⟩
  intro f hf hfGoverns
  obtain hf | hf := List.mem_append.mp hf
  · exact hVersion ▸ ((nextVersion_spec hStored measure parentId).2.1 f hf hfGoverns).le
  · rw [List.mem_singleton.mp hf]

end Chained

section Sessions

/-- What a session has done so far is a run of accepted row changes. -/
structure Session.Sound (start : Db) (session : Session) : Prop where
  executed : start.executeAll session.executed = some session.db
  constrained : session.db.Constrained
  inserted : ∀ s ∈ session.executed, ∀ e ∈ s.insertedEvents, e ∈ session.db.events
  fresh : ∀ e ∈ session.db.events, e.id < session.nextEventId

structure Session.Extends (session session' : Session) : Prop where
  executed : session.executed ⊆ session'.executed
  events : session.db.events ⊆ session'.db.events

theorem Session.Extends.refl (session : Session) : session.Extends session :=
  ⟨List.Subset.refl _, List.Subset.refl _⟩

theorem Session.Extends.trans {a b c : Session} (h : a.Extends b) (h' : b.Extends c) :
    a.Extends c :=
  ⟨List.Subset.trans h.executed h'.executed, List.Subset.trans h.events h'.events⟩

variable {start : Db} {session session' : Session} {statement : Statement}
  {e : FinancialAmountStatusEvent}

theorem Session.Sound.begin {db : Db} (hDb : db.Constrained) {nextEventId : ℕ}
    (hFresh : ∀ e ∈ db.events, e.id < nextEventId) : Session.Sound db ⟨db, [], nextEventId⟩ where
  executed := rfl
  constrained := hDb
  inserted _ h := nomatch h
  fresh := hFresh

theorem Session.run_eq_ok : session.run statement = .ok session' ↔ session.db.accepts statement ∧
    session' = { session with
      db := session.db.apply statement
      executed := session.executed ++ [statement] } := by
  rw [run]
  by_cases h : session.db.accepts statement
  · rw [if_pos h, Except.ok.injEq]
    exact ⟨fun hEq => ⟨h, hEq.symm⟩, fun hEq => hEq.2.symm⟩
  · rw [if_neg h]
    exact ⟨(fun hEq => nomatch hEq), fun hEq => absurd hEq.1 h⟩

theorem Session.fits_of_insertEvent {session' : Session}
    (h : session.insertEvent e = .ok session') : fitsNumeric 18 e.new.amount := by
  rw [insertEvent] at h
  obtain ⟨inserted, hRun, -⟩ := exists_of_bind_eq_ok h
  have hAccepted := (run_eq_ok.mp hRun).1
  simp only [Db.accepts, Db.acceptsEvent, FinancialAmountStatusEvent.rowAccepted, Bool.and_eq_true]
    at hAccepted
  exact hAccepted.1.1.1.1.2

theorem Session.insertEvent_eq_ok (hId : e.id = session.nextEventId)
    (hAccepted : session.db.accepts (.insertEvent e)) : session.insertEvent e =
      .ok ⟨session.db.apply (.insertEvent e), session.executed ++ [.insertEvent e],
        session.nextEventId + 1⟩ := by
  obtain ⟨id, org, period, opportunity, measureCode, version, old, new, actor, ref, reason⟩ := e
  obtain rfl : id = session.nextEventId := hId
  rw [insertEvent, bind_of_eq_ok (run_eq_ok.mpr ⟨hAccepted, rfl⟩)]
  rfl

theorem Db.executeAll_append {db final : Db} {statements : List Statement}
    (hRun : db.executeAll statements = some final) (hAccepted : final.accepts statement) :
    db.executeAll (statements ++ [statement]) = some (final.apply statement) := by
  rw [executeAll] at hRun
  rw [executeAll, List.foldlM_append, hRun]
  simp [execute, hAccepted]

theorem Session.Sound.apply (h : session.Sound start) (hAccepted : session.db.accepts statement)
    {next : ℕ} (hNext : ∀ e ∈ (session.db.apply statement).events, e.id < next) :
    Session.Sound start ⟨session.db.apply statement, session.executed ++ [statement], next⟩ where
  executed := Db.executeAll_append h.executed hAccepted
  constrained := h.constrained.apply hAccepted
  inserted s hs e he := by
    change e ∈ (session.db.apply statement).events
    rw [Db.apply_events]
    obtain hs | hs := List.mem_append.mp hs
    · exact List.mem_append_left _ (h.inserted s hs e he)
    · exact List.mem_append_right _ (List.mem_singleton.mp hs ▸ he)
  fresh := hNext

theorem Session.commit_eq_ok {final : Db} : session.commit = .ok final ↔
    (∀ s ∈ session.executed, session.db.triggersPass s) ∧ final = session.db := by
  rw [commit, ← List.all_eq_true]
  by_cases hPass : session.executed.all session.db.triggersPass
  · rw [if_pos hPass, Except.ok.injEq]
    exact ⟨fun hEq => ⟨hPass, hEq.symm⟩, fun hEq => hEq.2.symm⟩
  · rw [if_neg hPass]
    exact ⟨(fun hEq => nomatch hEq), fun hEq => absurd hEq.1 hPass⟩

theorem Session.Sound.commit_of_valid (h : session.Sound start) (hValid : session.db.Valid) :
    session.commit = .ok session.db := by
  refine commit_eq_ok.mpr ⟨?_, rfl⟩
  intro s hs
  exact hValid.triggersPass (h.inserted s hs)

theorem Session.Sound.commit_eq_ok (h : session.Sound start) {final : Db} :
    session.commit = .ok final ↔ start.commitTransaction session.executed = some final := by
  rw [Db.commitTransaction_eq_some, h.executed, Session.commit_eq_ok, Option.some.injEq]
  constructor
  · rintro ⟨hPass, rfl⟩
    exact ⟨rfl, hPass⟩
  · rintro ⟨rfl, hPass⟩
    exact ⟨hPass, rfl⟩

end Sessions

section Sending

variable {start db final : Db} {session session' : Session} {statement : Statement}
  {statements : List Statement} {allowed : Statement → Prop}

structure Session.Sends (allowed : Statement → Prop) (start : Db) (session : Session) : Prop extends
    session.Sound start where
  sent : ∀ s ∈ session.executed, allowed s

theorem Session.Sends.begin (hDb : db.Constrained) {nextEventId : ℕ}
    (hFresh : ∀ e ∈ db.events, e.id < nextEventId) :
    Session.Sends allowed db ⟨db, [], nextEventId⟩ where
  toSound := .begin hDb hFresh
  sent _ h := nomatch h

theorem Session.Sends.run (h : session.Sends allowed start)
    (hRun : session.run statement = .ok session') (hNoEvent : statement.insertedEvents = [])
    (hAllowed : allowed statement) :
    session'.Sends allowed start := by
  obtain ⟨hAccepts, rfl⟩ := Session.run_eq_ok.mp hRun
  have hFresh : ∀ e ∈ (session.db.apply statement).events, e.id < session.nextEventId := by
    rw [Db.apply_events, hNoEvent, List.append_nil]
    exact h.fresh
  refine ⟨h.toSound.apply hAccepts hFresh, ?_⟩
  intro s hs
  obtain hs | hs := List.mem_append.mp hs
  · exact h.sent s hs
  · exact List.mem_singleton.mp hs ▸ hAllowed

theorem Session.Sends.insertEvent (h : session.Sends allowed start)
    {event : FinancialAmountStatusEvent} (hInsert : session.insertEvent event = .ok session')
    (hAllowed : allowed (.insertEvent { event with id := session.nextEventId })) :
    session'.Sends allowed start ∧
      session'.db = session.db.apply (.insertEvent { event with id := session.nextEventId }) := by
  obtain ⟨ran, hRun, hNext⟩ := exists_of_bind_eq_ok hInsert
  obtain ⟨hAccepts, rfl⟩ := Session.run_eq_ok.mp hRun
  cases hNext
  have hFresh :
    ∀ e ∈ (session.db.apply (.insertEvent { event with id := session.nextEventId })).events,
      e.id < session.nextEventId + 1 := by
    intro e he
    obtain he | he := List.mem_append.mp he
    · exact (h.fresh e he).trans (Nat.lt_succ_self _)
    · rw [List.mem_singleton.mp he]
      exact Nat.lt_succ_self _
  refine ⟨⟨h.toSound.apply hAccepts hFresh, ?_⟩, rfl⟩
  intro s hs
  obtain hs | hs := List.mem_append.mp hs
  · exact h.sent s hs
  · exact List.mem_singleton.mp hs ▸ hAllowed

theorem Db.rebatePeriodActual_of_executeAll (h : db.executeAll statements = some final)
    {row : RebatePeriodActual} (hRow : row ∈ final.rebatePeriodActuals) :
    row ∈ db.rebatePeriodActuals ∨
      .insertRebatePeriodActual row ∈ statements ∨ .updateRebatePeriodActual row ∈ statements := by
  induction statements generalizing db with
  | nil =>
    cases h
    exact .inl hRow
  | cons head rest ih =>
    obtain ⟨-, hRest⟩ := executeAll_cons.mp h
    obtain hOld | hSent | hSent := ih hRest
    · cases head with
      | insertRebatePeriodActual new =>
        obtain hOld | hNew := List.mem_append.mp hOld
        · exact .inl hOld
        · exact .inr (.inl (List.mem_singleton.mp hNew ▸ List.mem_cons_self))
      | updateRebatePeriodActual new =>
        obtain ⟨rfl, -⟩ | ⟨hOld, -⟩ := mem_replace hOld
        · exact .inr (.inr List.mem_cons_self)
        · exact .inl hOld
      | insertEvent e | insertEvidence evidence => exact .inl hOld
      | insertOpportunity new | updateOpportunity new => exact .inl hOld
    · exact .inr (.inl (List.mem_cons_of_mem _ hSent))
    · exact .inr (.inr (List.mem_cons_of_mem _ hSent))

end Sending

end ProcureFoundation.Evidence
