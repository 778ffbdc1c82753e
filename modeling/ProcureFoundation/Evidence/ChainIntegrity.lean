import ProcureFoundation.Evidence.SnapshotAgreement

/-!
# The event log under concurrent transactions

The application role may only insert. Transactions interleave freely, and the chain
trigger of an event sees the committed rows and its own transaction's at the moment it
runs, less those that row security hides. A unique index makes an insert wait for a
conflicting row of another open transaction, so no two stored rows ever conflict,
committed or not. The evidence and parent triggers can only forbid further runs and are
left out here.
-/

namespace ProcureFoundation.Evidence

open VersionedLog KeyedRows

structure OpenTransaction where
  own : List FinancialAmountStatusEvent
  judged : List FinancialAmountStatusEvent

structure EventLog where
  committed : List FinancialAmountStatusEvent
  active : ℕ → Option OpenTransaction

namespace EventLog

def set (log : EventLog) (t : ℕ) (tx : Option OpenTransaction) : EventLog :=
  { log with active := Function.update log.active t tx }

def Stored (log : EventLog) (e : FinancialAmountStatusEvent) : Prop :=
  e ∈ log.committed ∨ ∃ t tx, log.active t = some tx ∧ e ∈ tx.own

/-- The chain trigger of a row may run at any time before the commit, and a commit needs
a successful run for every own row. -/
inductive Step : EventLog → EventLog → Prop where
  | begin {log : EventLog} {t : ℕ} (hIdle : log.active t = none) :
      Step log (log.set t (some ⟨[], []⟩))
  | insertEvent {log : EventLog} {t : ℕ} {tx : OpenTransaction} {e : FinancialAmountStatusEvent}
      (hActive : log.active t = some tx) (hAccepted : e.rowAccepted)
      (hFree : ∀ f, log.Stored f → f.id ≠ e.id ∧ uqFamevSeq e f) :
      Step log (log.set t (some { tx with own := tx.own ++ [e] }))
  | fireTrigger {log : EventLog} {t : ℕ} {tx : OpenTransaction} {e : FinancialAmountStatusEvent}
      (sees : FinancialAmountStatusEvent → Bool) (hActive : log.active t = some tx) (hOwn : e ∈ tx.own)
      (hPass : checkEventChainIntegrity ((log.committed ++ tx.own).filter sees) e) :
      Step log (log.set t (some { tx with judged := e :: tx.judged }))
  | commit {log : EventLog} {t : ℕ} {tx : OpenTransaction} (hActive : log.active t = some tx)
      (hJudged : ∀ e ∈ tx.own, e ∈ tx.judged) :
      Step log { log.set t none with committed := log.committed ++ tx.own }
  | abort {log : EventLog} {t : ℕ} {tx : OpenTransaction} (hActive : log.active t = some tx) :
      Step log (log.set t none)

/-- A row of a transaction that its trigger has accepted: the predecessor it found is
committed or will be committed together with it. -/
def Anchored (log : EventLog) (tx : OpenTransaction) (e : FinancialAmountStatusEvent) : Prop :=
  e.eventVersion = 1 ∨ ∃ prev, (prev ∈ log.committed ∨ prev ∈ tx.own) ∧ prev.series = e.series ∧
    prev.eventVersion = e.eventVersion - 1 ∧ Continues prev e

/-- The log together with what every open transaction would add to it. -/
structure Invariant (log : EventLog) : Prop where
  accepted : ∀ e, log.Stored e → e.rowAccepted
  sequence : ∀ e f, log.Stored e → log.Stored f → e.series = f.series →
    e.eventVersion = f.eventVersion → e = f
  committedNodup : log.committed.Nodup
  own : ∀ t tx, log.active t = some tx → tx.own.Nodup ∧ ∀ e ∈ tx.own, e ∉ log.committed
  ownDisjoint : ∀ t tx u ux, log.active t = some tx → log.active u = some ux → t ≠ u →
    ∀ e ∈ tx.own, e ∉ ux.own
  predecessor : ∀ e ∈ log.committed, e.eventVersion ≠ 1 → ∃ prev ∈ log.committed,
    prev.series = e.series ∧ prev.eventVersion = e.eventVersion - 1 ∧ Continues prev e
  judged : ∀ t tx, log.active t = some tx → ∀ e ∈ tx.judged, log.Anchored tx e

section Steps

variable {log log' : EventLog} {t u : ℕ} {tx ux : OpenTransaction} {e : FinancialAmountStatusEvent}

theorem set_active_self (log : EventLog) (t : ℕ) (new : Option OpenTransaction) :
    (log.set t new).active t = new := Function.update_self ..

theorem set_active_some {new : OpenTransaction} (h : (log.set t (some new)).active u = some ux) :
    u = t ∧ ux = new ∨ u ≠ t ∧ log.active u = some ux := by
  by_cases hu : u = t
  · subst hu
    simp only [set, Function.update_self] at h
    exact .inl ⟨rfl, (Option.some.inj h).symm⟩
  · simp only [set, Function.update_of_ne hu] at h
    exact .inr ⟨hu, h⟩

theorem set_active_none (h : (log.set t none).active u = some ux) :
    u ≠ t ∧ log.active u = some ux := by
  by_cases hu : u = t
  · subst hu
    simp only [set, Function.update_self] at h
    cases h
  · simp only [set, Function.update_of_ne hu] at h
    exact ⟨hu, h⟩

theorem Invariant.begin (h : log.Invariant) : (log.set t (some ⟨[], []⟩)).Invariant := by
  have hStored : ∀ e, (log.set t (some ⟨[], []⟩)).Stored e → log.Stored e := by
    rintro e (hCommitted | ⟨u, ux, hActive, hOwn⟩)
    · exact .inl hCommitted
    · obtain ⟨-, rfl⟩ | ⟨-, hActive⟩ := set_active_some hActive
      · cases hOwn
      · exact .inr ⟨u, ux, hActive, hOwn⟩
  constructor
  · intro e he
    exact h.accepted e (hStored e he)
  · intro e f he hf
    exact h.sequence e f (hStored e he) (hStored f hf)
  · exact h.committedNodup
  · intro u ux hActive
    obtain ⟨-, rfl⟩ | ⟨-, hActive⟩ := set_active_some hActive
    · exact ⟨List.nodup_nil, fun _ he => nomatch he⟩
    · exact h.own u ux hActive
  · intro u ux v vx hu hv hNe
    obtain ⟨-, rfl⟩ | ⟨-, hu⟩ := set_active_some hu
    · exact fun _ he => nomatch he
    · obtain ⟨-, rfl⟩ | ⟨-, hv⟩ := set_active_some hv
      · exact fun _ _ he => nomatch he
      · exact h.ownDisjoint u ux v vx hu hv hNe
  · exact h.predecessor
  · intro u ux hActive
    obtain ⟨-, rfl⟩ | ⟨-, hActive⟩ := set_active_some hActive
    · exact fun _ he => nomatch he
    · exact h.judged u ux hActive

theorem Invariant.insertEvent (h : log.Invariant) (hActive : log.active t = some tx)
    (hAccepted : e.rowAccepted) (hFree : ∀ f, log.Stored f → f.id ≠ e.id ∧ uqFamevSeq e f) :
    (log.set t (some { tx with own := tx.own ++ [e] })).Invariant := by
  have hNew : ¬log.Stored e := fun he => (hFree e he).1 rfl
  have hStored : ∀ f, (log.set t (some { tx with own := tx.own ++ [e] })).Stored f →
      log.Stored f ∨ f = e := by
    rintro f (hCommitted | ⟨u, ux, hu, hOwn⟩)
    · exact .inl (.inl hCommitted)
    · obtain ⟨-, rfl⟩ | ⟨-, hu⟩ := set_active_some hu
      · obtain hOwn | hLast := List.mem_append.mp hOwn
        · exact .inl (.inr ⟨t, tx, hActive, hOwn⟩)
        · exact .inr (List.mem_singleton.mp hLast)
      · exact .inl (.inr ⟨u, ux, hu, hOwn⟩)
  have hVersion : ∀ f, log.Stored f → f.series = e.series → f.eventVersion ≠ e.eventVersion := by
    intro f hf hSeries
    exact eventVersion_ne_of_uqFamevSeq hAccepted hSeries (hFree f hf).2
  constructor
  · intro f hf
    obtain hf | rfl := hStored f hf
    · exact h.accepted f hf
    · exact hAccepted
  · intro f g hf hg hSeries hSame
    obtain hfOld | rfl := hStored f hf
    · obtain hgOld | rfl := hStored g hg
      · exact h.sequence f g hfOld hgOld hSeries hSame
      · exact absurd hSame (hVersion f hfOld hSeries)
    · obtain hgOld | rfl := hStored g hg
      · exact absurd hSame.symm (hVersion g hgOld hSeries.symm)
      · rfl
  · exact h.committedNodup
  · intro u ux hu
    obtain ⟨-, rfl⟩ | ⟨-, hu⟩ := set_active_some hu
    · obtain ⟨hNodup, hCommitted⟩ := h.own t tx hActive
      refine ⟨List.nodup_append.mpr ⟨hNodup, List.nodup_singleton _, ?_⟩, ?_⟩
      · intro f hf g hg hSame
        rw [hSame, List.mem_singleton.mp hg] at hf
        exact hNew (.inr ⟨t, tx, hActive, hf⟩)
      · intro f hf
        obtain hf | hf := List.mem_append.mp hf
        · exact hCommitted f hf
        · rw [List.mem_singleton.mp hf]
          exact fun he => hNew (.inl he)
    · exact h.own u ux hu
  · intro u ux v vx hu hv hNe f hf
    obtain ⟨rfl, rfl⟩ | ⟨-, huOld⟩ := set_active_some hu
    · obtain ⟨rfl, rfl⟩ | ⟨-, hvOld⟩ := set_active_some hv
      · exact absurd rfl hNe
      · obtain hf | hf := List.mem_append.mp hf
        · exact h.ownDisjoint u tx v vx hActive hvOld hNe f hf
        · rw [List.mem_singleton.mp hf]
          exact fun he => hNew (.inr ⟨v, vx, hvOld, he⟩)
    · obtain ⟨rfl, rfl⟩ | ⟨-, hvOld⟩ := set_active_some hv
      · intro hIn
        obtain hIn | hIn := List.mem_append.mp hIn
        · exact h.ownDisjoint u ux v tx huOld hActive hNe f hf hIn
        · rw [List.mem_singleton.mp hIn] at hf
          exact hNew (.inr ⟨u, ux, huOld, hf⟩)
      · exact h.ownDisjoint u ux v vx huOld hvOld hNe f hf
  · exact h.predecessor
  · intro u ux hu f hf
    obtain ⟨-, rfl⟩ | ⟨-, hu⟩ := set_active_some hu
    · obtain hFirst | ⟨prev, hPrev, hLinked⟩ := h.judged t tx hActive f hf
      · exact .inl hFirst
      · exact .inr ⟨prev, hPrev.imp_right (List.mem_append_left _), hLinked⟩
    · exact h.judged u ux hu f hf

theorem Invariant.fireTrigger (h : log.Invariant) {sees : FinancialAmountStatusEvent → Bool}
    (hActive : log.active t = some tx)
    (hPass : checkEventChainIntegrity ((log.committed ++ tx.own).filter sees) e) :
    (log.set t (some { tx with judged := e :: tx.judged })).Invariant := by
  have hStored : ∀ f, (log.set t (some { tx with judged := e :: tx.judged })).Stored f →
      log.Stored f := by
    rintro f (hCommitted | ⟨u, ux, hu, hOwn⟩)
    · exact .inl hCommitted
    · obtain ⟨-, rfl⟩ | ⟨-, hu⟩ := set_active_some hu
      · exact .inr ⟨t, tx, hActive, hOwn⟩
      · exact .inr ⟨u, ux, hu, hOwn⟩
  constructor
  · intro f hf
    exact h.accepted f (hStored f hf)
  · intro f g hf hg
    exact h.sequence f g (hStored f hf) (hStored g hg)
  · exact h.committedNodup
  · intro u ux hu
    obtain ⟨-, rfl⟩ | ⟨-, hu⟩ := set_active_some hu
    · exact h.own t tx hActive
    · exact h.own u ux hu
  · intro u ux v vx hu hv hNe
    obtain ⟨rfl, rfl⟩ | ⟨-, huOld⟩ := set_active_some hu
    · obtain ⟨rfl, rfl⟩ | ⟨-, hvOld⟩ := set_active_some hv
      · exact absurd rfl hNe
      · exact h.ownDisjoint u tx v vx hActive hvOld hNe
    · obtain ⟨rfl, rfl⟩ | ⟨-, hvOld⟩ := set_active_some hv
      · exact h.ownDisjoint u ux v tx huOld hActive hNe
      · exact h.ownDisjoint u ux v vx huOld hvOld hNe
  · exact h.predecessor
  · intro u ux hu f hf
    obtain ⟨-, rfl⟩ | ⟨-, hu⟩ := set_active_some hu
    · obtain rfl | hf := List.mem_cons.mp hf
      · refine (checkEventChainIntegrity_eq_true.mp hPass).imp_right ?_
        rintro ⟨prev, hFound, hContinues⟩
        obtain ⟨hMem, hSeries, hVersion⟩ := precedingEvent_some hFound
        exact ⟨prev, List.mem_append.mp (List.mem_filter.mp hMem).1, hSeries, hVersion, hContinues⟩
      · exact h.judged t tx hActive f hf
    · exact h.judged u ux hu f hf

theorem Invariant.commit (h : log.Invariant) (hActive : log.active t = some tx)
    (hJudged : ∀ e ∈ tx.own, e ∈ tx.judged) :
    EventLog.Invariant { log.set t none with committed := log.committed ++ tx.own } := by
  have hStored : ∀ f,
    EventLog.Stored { log.set t none with committed := log.committed ++ tx.own } f →
      log.Stored f := by
    rintro f (hCommitted | ⟨u, ux, hu, hOwn⟩)
    · obtain hOld | hOwn := List.mem_append.mp hCommitted
      · exact .inl hOld
      · exact .inr ⟨t, tx, hActive, hOwn⟩
    · exact .inr ⟨u, ux, (set_active_none hu).2, hOwn⟩
  obtain ⟨hNodup, hFresh⟩ := h.own t tx hActive
  constructor
  · intro f hf
    exact h.accepted f (hStored f hf)
  · intro f g hf hg
    exact h.sequence f g (hStored f hf) (hStored g hg)
  · refine List.nodup_append.mpr ⟨h.committedNodup, hNodup, ?_⟩
    intro f hf g hg hSame
    exact hFresh g hg (hSame ▸ hf)
  · intro u ux hu
    obtain ⟨hNe, hu⟩ := set_active_none hu
    refine ⟨(h.own u ux hu).1, ?_⟩
    intro f hf hCommitted
    obtain hOld | hOwn := List.mem_append.mp hCommitted
    · exact (h.own u ux hu).2 f hf hOld
    · exact h.ownDisjoint u ux t tx hu hActive hNe f hf hOwn
  · intro u ux v vx hu hv
    exact h.ownDisjoint u ux v vx (set_active_none hu).2 (set_active_none hv).2
  · intro f hf hNotFirst
    obtain hOld | hOwn := List.mem_append.mp hf
    · obtain ⟨prev, hPrev, hLinked⟩ := h.predecessor f hOld hNotFirst
      exact ⟨prev, List.mem_append_left _ hPrev, hLinked⟩
    · obtain hFirst | ⟨prev, hPrev, hLinked⟩ := h.judged t tx hActive f (hJudged f hOwn)
      · exact absurd hFirst hNotFirst
      · exact ⟨prev, List.mem_append.mpr hPrev, hLinked⟩
  · intro u ux hu f hf
    obtain hFirst | ⟨prev, hPrev, hLinked⟩ := h.judged u ux (set_active_none hu).2 f hf
    · exact .inl hFirst
    · exact .inr ⟨prev, hPrev.imp_left (List.mem_append_left _), hLinked⟩

theorem Invariant.abort (h : log.Invariant) : (log.set t none).Invariant := by
  have hStored : ∀ f, (log.set t none).Stored f → log.Stored f := by
    rintro f (hCommitted | ⟨u, ux, hu, hOwn⟩)
    · exact .inl hCommitted
    · exact .inr ⟨u, ux, (set_active_none hu).2, hOwn⟩
  constructor
  · intro f hf
    exact h.accepted f (hStored f hf)
  · intro f g hf hg
    exact h.sequence f g (hStored f hf) (hStored g hg)
  · exact h.committedNodup
  · intro u ux hu
    exact h.own u ux (set_active_none hu).2
  · intro u ux v vx hu hv
    exact h.ownDisjoint u ux v vx (set_active_none hu).2 (set_active_none hv).2
  · exact h.predecessor
  · intro u ux hu
    exact h.judged u ux (set_active_none hu).2

theorem Invariant.step (h : log.Invariant) (hStep : Step log log') : log'.Invariant := by
  cases hStep with
  | begin => exact h.begin
  | insertEvent hActive hAccepted hFree => exact h.insertEvent hActive hAccepted hFree
  | fireTrigger sees hActive hOwn hPass => exact h.fireTrigger hActive hPass
  | commit hActive hJudged => exact h.commit hActive hJudged
  | abort => exact h.abort

theorem Step.committed_prefix (hStep : Step log log') : log.committed <+: log'.committed := by
  cases hStep with
  | commit => exact List.prefix_append _ _
  | _ => exact List.prefix_rfl

theorem committed_prefix (hRun : Relation.ReflTransGen Step log log') :
    log.committed <+: log'.committed := by
  induction hRun with
  | refl => exact List.prefix_rfl
  | tail _ hStep ih => exact ih.trans hStep.committed_prefix

theorem Invariant.run (h : log.Invariant) (hRun : Relation.ReflTransGen Step log log') :
    log'.Invariant := by
  induction hRun with
  | refl => exact h
  | tail _ hStep ih => exact ih.step hStep

end Steps

end EventLog

/-- The versions of every parent and measure run from one without gap or repetition, the
first event has no past, and each later one continues its predecessor. -/
structure ChainIntegrity (events : List FinancialAmountStatusEvent) : Prop where
  nodup : events.Nodup
  versions : ∀ series, ∃ n : ℕ, versions FinancialAmountStatusEvent.series
    FinancialAmountStatusEvent.eventVersion {e | e ∈ events} series = Set.Icc 1 (n : ℤ)
  unique : ∀ e ∈ events, ∀ f ∈ events, e.series = f.series → e.eventVersion = f.eventVersion → e = f
  genesis : ∀ e ∈ events, e.eventVersion = 1 → e.old = AmountState.null
  successor : ∀ e ∈ events, ∀ f ∈ events, e.series = f.series →
    f.eventVersion = e.eventVersion + 1 → f.old = e.new
  downgrade : ∀ e ∈ events, ∀ f ∈ events, e.series = f.series →
    f.eventVersion = e.eventVersion + 1 →
    ∀ before after, tier e.new.status = some before → tier f.new.status = some after →
      after < before → f.changeReasonCode ∈ downgradeReasons

theorem EventLog.Invariant.chainIntegrity {log : EventLog} (h : log.Invariant) :
    ChainIntegrity log.committed := by
  have hLinked : Linked FinancialAmountStatusEvent.series FinancialAmountStatusEvent.eventVersion
    Continues
      {e | e ∈ log.committed} := by
    constructor
    · intro e he
      exact FinancialAmountStatusEvent.eventVersion_pos (h.accepted e (.inl he))
    · intro e he f hf
      exact h.sequence e f (.inl he) (.inl hf)
    · exact h.predecessor
  constructor
  · exact h.committedNodup
  · exact hLinked.versions_eq_Icc (List.finite_toSet _)
  · exact hLinked.unique
  · intro e he hFirst
    exact FinancialAmountStatusEvent.old_eq_null (h.accepted e (.inl he)) hFirst
  · intro e he f hf hSeries hNext
    exact (hLinked.successor_linked he hf hSeries hNext).1
  · intro e he f hf hSeries hNext
    exact (hLinked.successor_linked he hf hSeries hNext).2

/-- From the backfilled log, in which every event is a first one, every run of concurrent
transactions keeps the chain whole and the committed events in place. -/
theorem chainIntegrity_of_run {log log' : EventLog} (hIdle : ∀ t, log.active t = none)
    (hStored : EventsStored log.committed) (hGenesis : ∀ e ∈ log.committed, e.eventVersion = 1)
    (hRun : Relation.ReflTransGen EventLog.Step log log') :
    ChainIntegrity log'.committed ∧ ∀ later, Relation.ReflTransGen EventLog.Step log' later →
      log'.committed <+: later.committed := by
  have hOnlyCommitted : ∀ e, log.Stored e → e ∈ log.committed := by
    rintro e (hCommitted | ⟨t, tx, hActive, -⟩)
    · exact hCommitted
    · rw [hIdle t] at hActive
      cases hActive
  have hStart : log.Invariant := by
    constructor
    · intro e he
      exact hStored.accepted e (hOnlyCommitted e he)
    · intro e f he hf
      exact hStored.sequence (hOnlyCommitted e he) (hOnlyCommitted f hf)
    · exact List.Nodup.of_map _ hStored.keys
    · intro t tx hActive
      cases (hIdle t).symm.trans hActive
    · intro t tx u ux hActive
      cases (hIdle t).symm.trans hActive
    · intro e he hNotFirst
      exact absurd (hGenesis e he) hNotFirst
    · intro t tx hActive
      cases (hIdle t).symm.trans hActive
  exact ⟨(hStart.run hRun).chainIntegrity, fun later hLater => EventLog.committed_prefix hLater⟩

theorem chainIntegrity_of_estimated_quarter :
    ChainIntegrity [openQuarterGenesis, openQuarterEstimated] := by
  let backfilled : EventLog := ⟨[openQuarterGenesis], fun _ => none⟩
  let opened := backfilled.set 0 (some ⟨[], []⟩)
  let inserted := opened.set 0 (some ⟨[openQuarterEstimated], []⟩)
  let judged := inserted.set 0 (some ⟨[openQuarterEstimated], [openQuarterEstimated]⟩)
  have hFree : ∀ f, opened.Stored f → f.id ≠ openQuarterEstimated.id ∧
      uqFamevSeq openQuarterEstimated f := by
    rintro f (hCommitted | ⟨t, tx, hActive, hOwn⟩)
    · cases List.mem_singleton.mp hCommitted
      decide
    · obtain ⟨-, rfl⟩ | ⟨-, hActive⟩ := EventLog.set_active_some hActive
      · cases hOwn
      · cases hActive
  have hBegin : EventLog.Step backfilled opened := .begin rfl
  have hInsert : EventLog.Step opened inserted :=
    @EventLog.Step.insertEvent opened 0 ⟨[], []⟩ openQuarterEstimated (EventLog.set_active_self ..)
      (by decide) hFree
  have hFire : EventLog.Step inserted judged :=
    @EventLog.Step.fireTrigger inserted 0 ⟨[openQuarterEstimated], []⟩ openQuarterEstimated
      (fun _ => true)
      (EventLog.set_active_self ..) List.mem_cons_self (by decide)
  have hCommit := @EventLog.Step.commit judged 0 ⟨[openQuarterEstimated], [openQuarterEstimated]⟩
    (EventLog.set_active_self ..) fun _ he => he
  have hStored : EventsStored [openQuarterGenesis] :=
    Table.nil.append (by decide) (fun _ h => nomatch h) uqFamevSeq_comm fun _ h => nomatch h
  exact (chainIntegrity_of_run (fun _ => rfl) hStored (by decide)
    ((((Relation.ReflTransGen.single hBegin).tail hInsert).tail hFire).tail hCommit)).1

end ProcureFoundation.Evidence
