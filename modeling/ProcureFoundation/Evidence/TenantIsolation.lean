import ProcureFoundation.Evidence.TenantTransactions

/-!
# Events stay with their tenant

The foreign key from an event to its parent does not match tenants. An event that one
organisation inserts for a parent of another would need a predecessor in its series, since
the parent owns version one; the chain trigger sees only predecessors of the inserting
organisation, and the first of these would have to be version one again.
-/

namespace ProcureFoundation.Evidence

open ThreeValued KeyedRows

/-- Every parent has its genesis events, and events carry their parent's organisation. -/
structure Db.TenantMatched (db : Db) : Prop extends db.Constrained where
  evidenceMatched : db.EvidenceMatched
  genesis : ∀ measure parentId, (db.snapshot measure parentId).isSome →
    ∃ e ∈ db.events, measure.governs parentId e ∧ e.eventVersion = 1
  matched : ∀ e ∈ db.events, ∀ measure parentId snapshot, Measure.governs measure parentId e →
    db.snapshot measure parentId = some snapshot → e.organisationId = snapshot.organisationId

section Commit

variable {start : Db} {currentOrgId : Option ℕ} {transaction : TenantTransaction}
  {measure : Measure} {parentId : ℕ} {snapshot : Snapshot} {e : FinancialAmountStatusEvent}

/-- An inserted event belongs to the tenant and continues an event that the tenant sees. -/
theorem TenantTransaction.Progress.inserted (h : transaction.Progress start currentOrgId)
    (hPass : transaction.triggersPass currentOrgId) (he : e ∈ transaction.db.events)
    (hNew : e ∉ start.events) : currentOrgId = some e.organisationId ∧
      checkConfirmedEventHasSufficientEvidence (transaction.db.visible currentOrgId).evidence e ∧
      (e.eventVersion = 1 ∨ ∃ prev ∈ transaction.db.events,
        currentOrgId = some prev.organisationId ∧
        prev.series = e.series ∧ prev.eventVersion = e.eventVersion - 1) := by
  rw [h.events] at he
  obtain ⟨statement, hFired, hInserted⟩ :=
    List.mem_flatMap.mp ((List.mem_append.mp he).resolve_left hNew)
  have hOwn : currentOrgId = some e.organisationId := by
    have hStatement := h.own statement hFired
    cases statement with
    | insertEvent inserted => exact List.mem_singleton.mp hInserted ▸ hStatement
    | _ => cases hInserted
  obtain ⟨hEvidence, hChain⟩ :=
    Statement.triggersPass_insertedEvents hInserted (List.all_eq_true.mp hPass statement hFired)
  refine ⟨hOwn, hEvidence, ?_⟩
  obtain hFirst | ⟨prev, hFound, -⟩ := checkEventChainIntegrity_eq_true.mp hChain
  · exact .inl hFirst
  · obtain ⟨hMem, hSeries, hVersion⟩ := precedingEvent_some hFound
    obtain ⟨hPrev, hPrevOwn⟩ := Db.mem_visible_events.mp hMem
    exact .inr ⟨prev, hPrev, hPrevOwn, hSeries, hVersion⟩

theorem Measure.governs_of_same_series {f : FinancialAmountStatusEvent} (he : e.rowAccepted)
    (hSeries : f.series = e.series) (h : measure.governs parentId e) : measure.governs parentId f :=
  Measure.governs_of_series (hSeries.trans ((Measure.governs_iff_series he).mp h))

/-- The tenant has no events for a parent that another organisation owned before. -/
theorem TenantTransaction.Progress.no_own_event (h : transaction.Progress start currentOrgId)
    (hStart : start.TenantMatched) (hPass : transaction.triggersPass currentOrgId)
    (hParent : start.snapshot measure parentId = some snapshot)
    (hForeign : currentOrgId ≠ some snapshot.organisationId) (he : e ∈ transaction.db.events)
    (hGoverns : measure.governs parentId e) :
    currentOrgId ≠ some e.organisationId := by
  have hOld : ∀ f ∈ start.events, measure.governs parentId f →
      currentOrgId ≠ some f.organisationId := by
    intro f hf hfGoverns
    rw [hStart.matched f hf measure parentId snapshot hfGoverns hParent]
    exact hForeign
  have hStored := h.constrained.events
  -- The versions of the tenant's own events would have to descend below the parent's first.
  induction hVersion : e.eventVersion.toNat using Nat.strong_induction_on generalizing e with
  | _ version ih =>
    intro hOwn
    have hNew : e ∉ start.events := fun hIn => hOld e hIn hGoverns hOwn
    obtain ⟨-, -, hFirst | ⟨prev, hPrev, hPrevOwn, hSeries, hPrevVersion⟩⟩ :=
      h.inserted hPass he hNew
    · obtain ⟨genesis, hGenesis, hGenesisGoverns, hGenesisVersion⟩ :=
        hStart.genesis measure parentId (hParent ▸ rfl)
      have hGenesisMem : genesis ∈ transaction.db.events :=
        h.events ▸ List.mem_append_left _ hGenesis
      have hSame :=
        hStored.sequence he hGenesisMem (((Measure.governs_iff_series (hStored.accepted e he)).mp
          hGoverns).trans ((Measure.governs_iff_series (hStored.accepted genesis hGenesisMem)).mp
          hGenesisGoverns).symm) (hFirst.trans hGenesisVersion.symm)
      exact hNew (hSame ▸ hGenesis)
    · have hPositive := FinancialAmountStatusEvent.eventVersion_pos (hStored.accepted prev hPrev)
      refine ih prev.eventVersion.toNat ?_ hPrev
        (Measure.governs_of_same_series (hStored.accepted e he) hSeries hGoverns) rfl hPrevOwn
      omega

theorem TenantTransaction.Progress.genesis_of_new (h : transaction.Progress start currentOrgId)
    (hStart : start.TenantMatched) (hPass : transaction.triggersPass currentOrgId)
    (hNew : start.snapshot measure parentId = none) (he : e ∈ transaction.db.events)
    (hGoverns : measure.governs parentId e) :
    ∃ first ∈ transaction.db.events, measure.governs parentId first ∧ first.eventVersion = 1 := by
  have hStored := h.constrained.events
  induction hVersion : e.eventVersion.toNat using Nat.strong_induction_on generalizing e with
  | _ version ih =>
    have hInserted : e ∉ start.events := by
      intro hIn
      have hParent := hStart.eventParents e hIn measure parentId hGoverns
      rw [hNew] at hParent
      cases hParent
    obtain ⟨-, -, hFirst | ⟨prev, hPrev, -, hSeries, hPrevVersion⟩⟩ := h.inserted hPass he hInserted
    · exact ⟨e, he, hGoverns, hFirst⟩
    · have hPositive := FinancialAmountStatusEvent.eventVersion_pos (hStored.accepted prev hPrev)
      refine ih prev.eventVersion.toNat ?_ hPrev
        (Measure.governs_of_same_series (hStored.accepted e he) hSeries hGoverns) rfl
      omega

theorem TenantTransaction.Progress.matched (h : transaction.Progress start currentOrgId)
    (hStart : start.TenantMatched) (hPass : transaction.triggersPass currentOrgId)
    (he : e ∈ transaction.db.events) (hGoverns : measure.governs parentId e)
    (hSnapshot : transaction.db.snapshot measure parentId = some snapshot) :
    e.organisationId = snapshot.organisationId := by
  by_cases hForeign : currentOrgId = some snapshot.organisationId
  · by_cases hOld : e ∈ start.events
    · obtain ⟨before, hBefore⟩ :=
        Option.isSome_iff_exists.mp (hStart.eventParents e hOld measure parentId hGoverns)
      have hSame := hStart.matched e hOld measure parentId before hGoverns hBefore
      by_cases hBeforeForeign : currentOrgId = some before.organisationId
      · exact hSame.trans (Option.some.inj (hBeforeForeign.symm.trans hForeign))
      · have hKept := (h.foreign measure parentId before hBeforeForeign).mpr hBefore
        rw [hSame, Option.some.inj (hKept.symm.trans hSnapshot)]
    · exact Option.some.inj ((h.inserted hPass he hOld).1.symm.trans hForeign)
  · have hBefore := (h.foreign measure parentId snapshot hForeign).mp hSnapshot
    by_cases hOld : e ∈ start.events
    · exact hStart.matched e hOld measure parentId snapshot hGoverns hBefore
    · exact absurd (h.inserted hPass he hOld).1 (h.no_own_event hStart hPass hBefore hForeign he hGoverns)

theorem TenantTransaction.Progress.genesis (h : transaction.Progress start currentOrgId)
    (hStart : start.TenantMatched) (hPass : transaction.triggersPass currentOrgId)
    (hSnapshot : transaction.db.snapshot measure parentId = some snapshot) :
    ∃ first ∈ transaction.db.events, measure.governs parentId first ∧ first.eventVersion = 1 := by
  cases hBefore : start.snapshot measure parentId with
  | some before =>
    obtain ⟨first, hFirst, hGenesis⟩ := hStart.genesis measure parentId (hBefore ▸ rfl)
    exact ⟨first, h.events ▸ List.mem_append_left _ hFirst, hGenesis⟩
  | none =>
    have hOwn : currentOrgId = some snapshot.organisationId := by
      by_contra hForeign
      cases hBefore.symm.trans ((h.foreign measure parentId snapshot hForeign).mp hSnapshot)
    have hTouched : ∃ statement ∈ transaction.fired, statement.touches measure parentId := by
      by_contra hNone
      push Not at hNone
      cases hBefore.symm.trans (h.untouched measure parentId snapshot hNone hSnapshot)
    obtain ⟨statement, hFired, hTouches⟩ := hTouched
    have hVisible := h.constrained.visible_snapshot.mpr ⟨hSnapshot, hOwn⟩
    obtain ⟨current, hCurrent⟩ :=
      Db.agrees_of_triggersPass (h.constrained.visible_events currentOrgId) hTouches
        (List.all_eq_true.mp hPass statement hFired) hVisible
    exact h.genesis_of_new hStart hPass hBefore (Db.mem_visible_events.mp hCurrent.mem).1 hCurrent.governs

/-- A committed transaction of any tenant keeps the tenants apart. -/
theorem Db.TenantMatched.commit (hStart : start.TenantMatched) {db : Db}
    (hCommit : TenantCommit start db) : db.TenantMatched := by
  obtain ⟨currentOrgId, changes, hCommit⟩ := hCommit
  obtain ⟨transaction, hRun, hPass, rfl⟩ := Db.commitAs_eq_some.mp hCommit
  have hProgress := Db.executeAllAs_progress hStart.toConstrained hStart.evidenceMatched hRun
  refine ⟨hProgress.constrained, hProgress.evidenceMatched, ?_, ?_⟩
  · intro measure parentId hParent
    obtain ⟨snapshot, hSnapshot⟩ := Option.isSome_iff_exists.mp hParent
    exact hProgress.genesis hStart hPass hSnapshot
  · intro e he measure parentId snapshot hGoverns hSnapshot
    exact hProgress.matched hStart hPass he hGoverns hSnapshot

theorem Db.TenantMatched.run (hStart : start.TenantMatched) {db : Db}
    (hRun : Relation.ReflTransGen TenantCommit start db) : db.TenantMatched := by
  induction hRun with
  | refl => exact hStart
  | tail _ hCommit ih => exact ih.commit hCommit

end Commit

def Db.InParentTenant (db : Db) (e : FinancialAmountStatusEvent) : Prop :=
  (∃ row ∈ db.rebatePeriodActuals, e.rebatePeriodActualId = some row.id ∧
    e.organisationId = row.organisationId) ∨
    ∃ row ∈ db.opportunities, e.opportunityId = some row.id ∧ e.organisationId = row.organisationId

theorem Db.TenantMatched.inParentTenant {db : Db} (h : db.TenantMatched)
    {e : FinancialAmountStatusEvent} (he : e ∈ db.events) : db.InParentTenant e := by
  have hAccepted := h.events.accepted e he
  obtain ⟨measure, parentId, hSeries⟩ := FinancialAmountStatusEvent.series_of_rowAccepted hAccepted
  have hGoverns := Measure.governs_of_series hSeries
  obtain ⟨snapshot, hSnapshot⟩ :=
    Option.isSome_iff_exists.mp (h.eventParents e he measure parentId hGoverns)
  have hMatched := h.matched e he measure parentId snapshot hGoverns hSnapshot
  cases measure with
  | expectedAmount =>
    obtain ⟨row, hRow, rfl⟩ := Option.map_eq_some_iff.mp hSnapshot
    exact .inl ⟨row, mem_of_lookup hRow, (key_of_lookup hRow).symm ▸ hGoverns.1, hMatched⟩
  | annualFinancialImpact | realisedSavings =>
    obtain ⟨row, hRow, rfl⟩ := Option.map_eq_some_iff.mp hSnapshot
    exact .inr ⟨row, mem_of_lookup hRow, (key_of_lookup hRow).symm ▸ hGoverns.1, hMatched⟩

/-- In every run of committed transactions no event crosses a tenant boundary. -/
theorem events_never_cross_tenants {start db : Db} (hStart : start.TenantMatched)
    (hRun : Relation.ReflTransGen TenantCommit start db) : ∀ e ∈ db.events, db.InParentTenant e :=
  fun _ he => (hStart.run hRun).inParentTenant he

theorem Db.empty_tenantMatched : Db.empty.TenantMatched where
  toConstrained := Db.empty_valid.toConstrained
  evidenceMatched _ h := nomatch h
  genesis := by
    rintro (_ | _) _ h <;> cases h
  matched _ h := nomatch h

/-- The recorded quarter of one organisation, and the refusal of an event that another
organisation attaches to it. -/
theorem recorded_quarter_in_tenant : (∀ e ∈ openQuarterDb.events, openQuarterDb.InParentTenant e) ∧
    openQuarterDb.commitAs (some 2)
    [.write (.insertEvent { openQuarterEstimated with organisationId := 2 })] =
      none := by
  have hCommit : TenantCommit Db.empty openQuarterDb :=
    ⟨some 1, openQuarterRecorded.map .write, by decide +kernel⟩
  exact ⟨events_never_cross_tenants Db.empty_tenantMatched (.single hCommit), by decide +kernel⟩

end ProcureFoundation.Evidence
