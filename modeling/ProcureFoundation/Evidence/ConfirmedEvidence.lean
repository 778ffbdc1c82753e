import ProcureFoundation.Evidence.TenantIsolation

/-!
# Evidence of confirmed events

The sufficiency trigger asks for documents only where it knows the basis of a confirmed
event. That it thereby asks for them of every confirmed event follows from the state
combinations, which leave a confirmed saving one basis. The documents carry the tenant of
the event by their foreign key, and stay because nobody may delete them.
-/

namespace ProcureFoundation.Evidence

open ThreeValued

def Documented (evidence : List FinancialAmountEvidence) (e : FinancialAmountStatusEvent)
    (types : List String) : Prop :=
  ∃ row ∈ evidence, row.eventId = e.id ∧ row.evidenceType ∈ types

/-- What a confirmed event of each measure has to show, one document for each entry. -/
def Measure.documents : Measure → List (List String)
  | .expectedAmount => [["supplier_statement", "credit_note"]]
  | .annualFinancialImpact => []
  | .realisedSavings =>
    [["documented_baseline"], ["actual_cost_source"], ["variance_calculation_reference"]]

section Sufficiency

variable {evidence : List FinancialAmountEvidence} {e : FinancialAmountStatusEvent}
  {measure : Measure}

theorem FinancialAmountStatusEvent.stateCombination (h : e.rowAccepted) :
    passes (ckFamevStateCombination e) := by
  simp only [rowAccepted, Bool.and_eq_true] at h
  exact h.1.1.2

theorem sourceBasis_of_confirmed_savings (h : e.rowAccepted)
    (hMeasure : e.measureCode = "realised_savings") (hConfirmed : e.new.status = some "confirmed") :
    e.new.sourceBasis = some "reconciled_actuals" := by
  have hState := FinancialAmountStatusEvent.stateCombination h
  cases hBasis : e.new.sourceBasis with
  | none => simp [ckFamevStateCombination, hMeasure, hConfirmed, hBasis] at hState
  | some basis =>
    simp [ckFamevStateCombination, hMeasure, hConfirmed, hBasis] at hState
    rw [hState.2.1]

theorem checkConfirmedEventHasSufficientEvidence_eq_true (h : e.rowAccepted)
    (hMeasure : e.measureCode = measure.code) (hConfirmed : e.new.status = some "confirmed") :
    checkConfirmedEventHasSufficientEvidence evidence e = true ↔
      ∀ types ∈ measure.documents, Documented evidence e types := by
  cases measure with
  | expectedAmount =>
    simp [checkConfirmedEventHasSufficientEvidence, hConfirmed, hMeasure, Measure.code,
      Measure.documents, Documented]
  | annualFinancialImpact =>
    simp [checkConfirmedEventHasSufficientEvidence, hConfirmed, hMeasure, Measure.code,
      Measure.documents]
  | realisedSavings =>
    have hBasis := sourceBasis_of_confirmed_savings h hMeasure hConfirmed
    simp [checkConfirmedEventHasSufficientEvidence, hConfirmed, hMeasure, hBasis, Measure.code,
      Measure.documents, Documented, and_assoc]

end Sufficiency

/-- The evidence table's foreign key holds, and every event has the evidence it needs. -/
structure Db.EvidenceSound (db : Db) : Prop extends db.Constrained where
  evidenceMatched : db.EvidenceMatched
  sufficient : ∀ e ∈ db.events, checkConfirmedEventHasSufficientEvidence db.evidence e

structure Db.ConfirmedDocumented (db : Db) : Prop where
  savings : ∀ e ∈ db.events, e.measureCode = "realised_savings" → e.new.status = some "confirmed" →
    ∀ type ∈ ["documented_baseline", "actual_cost_source", "variance_calculation_reference"],
      Documented db.evidence e [type]
  expected : ∀ e ∈ db.events, e.measureCode = "expected_amount" → e.new.status = some "confirmed" →
    Documented db.evidence e ["supplier_statement", "credit_note"]
  tenant : ∀ e ∈ db.events, ∀ evidence ∈ db.evidence, evidence.eventId = e.id →
    evidence.organisationId = e.organisationId

section Runs

variable {start db db' : Db}

theorem Db.EvidenceSound.confirmedDocumented (h : db.EvidenceSound) : db.ConfirmedDocumented where
  savings e he hMeasure hConfirmed type hType := by
    have hDocuments := (@checkConfirmedEventHasSufficientEvidence_eq_true _ e .realisedSavings
      (h.events.accepted e he) hMeasure hConfirmed).mp (h.sufficient e he)
    apply hDocuments
    simpa [Measure.documents] using hType
  expected e he hMeasure hConfirmed :=
    (@checkConfirmedEventHasSufficientEvidence_eq_true _ e .expectedAmount
      (h.events.accepted e he) hMeasure
      hConfirmed).mp (h.sufficient e he) _ List.mem_cons_self
  tenant e he evidence hEvidence hId := by
    obtain ⟨other, hOther, hOtherId, hOrganisation⟩ := h.evidenceMatched evidence hEvidence
    obtain rfl := KeyedRows.eq_of_key_eq h.events.keys hOther he (hOtherId.trans hId)
    exact hOrganisation.symm

/-- What the trigger has seen of the tenant's evidence suffices among all evidence. -/
theorem Db.EvidenceSound.commit (h : start.EvidenceSound) (hCommit : TenantCommit start db) :
    db.EvidenceSound ∧ start.evidence ⊆ db.evidence := by
  obtain ⟨currentOrgId, changes, hCommit⟩ := hCommit
  obtain ⟨transaction, hRun, hPass, rfl⟩ := Db.commitAs_eq_some.mp hCommit
  have hProgress := Db.executeAllAs_progress h.toConstrained h.evidenceMatched hRun
  refine ⟨⟨hProgress.constrained, hProgress.evidenceMatched, ?_⟩, hProgress.evidence⟩
  intro e he
  by_cases hOld : e ∈ start.events
  · exact checkConfirmedEventHasSufficientEvidence_mono hProgress.evidence (h.sufficient e hOld)
  · obtain ⟨-, hSufficient, -⟩ := hProgress.inserted hPass he hOld
    exact checkConfirmedEventHasSufficientEvidence_mono (List.filter_subset_self _) hSufficient

theorem Db.EvidenceSound.run (h : start.EvidenceSound)
    (hRun : Relation.ReflTransGen TenantCommit start db) :
    db.EvidenceSound ∧ start.evidence ⊆ db.evidence := by
  induction hRun with
  | refl => exact ⟨h, List.Subset.refl _⟩
  | tail _ hCommit ih =>
    obtain ⟨hSound, hKept⟩ := ih.1.commit hCommit
    exact ⟨hSound, List.Subset.trans ih.2 hKept⟩

/-- In every state of a run confirmed events are documented by their own tenant, and what
documents them stays in every later state. -/
theorem confirmed_always_has_evidence (hStart : start.EvidenceSound)
    (hRun : Relation.ReflTransGen TenantCommit start db) :
    db.ConfirmedDocumented ∧ ∀ db', Relation.ReflTransGen TenantCommit db db' →
      db.evidence ⊆ db'.evidence := by
  have hSound := (hStart.run hRun).1
  exact ⟨hSound.confirmedDocumented, fun db' hLater => (hSound.run hLater).2⟩

theorem Db.empty_evidenceSound : Db.empty.EvidenceSound where
  toConstrained := Db.empty_valid.toConstrained
  evidenceMatched _ h := nomatch h
  sufficient _ h := nomatch h

def quarterConfirmed : List RowChange :=
  [.write (.insertEvent { openQuarterGenesis with
      id := 2
      eventVersion := 2
      old := openQuarterGenesis.new
      new := { AmountState.null with
        amount := some ⟨1000000⟩
        status := some "confirmed"
        sourceBasis := some "supplier_statement"
        approvedAt := some 1
        approvedByUserId := some 1 } }),
    .write (.insertEvidence ⟨1, 2, "supplier_statement", "ST-1"⟩),
    .write (.updateRebatePeriodActual { openQuarter with
      expectedAmount := some ⟨1000000⟩
      expectedAmountStatus := "confirmed"
      expectedAmountSourceBasis := some "supplier_statement"
      expectedAmountApprovedAt := some 1
      expectedAmountApprovedByUserId := some 1
      expectedAmountCurrentEventId := some 2 })]

theorem confirmed_quarter_documented : ∃ db : Db, db.ConfirmedDocumented ∧
    ∃ e ∈ db.events, e.new.status = some "confirmed" := by
  have hRecorded : TenantCommit Db.empty openQuarterDb :=
    ⟨some 1, openQuarterRecorded.map .write, by decide +kernel⟩
  have hSome : (openQuarterDb.commitAs (some 1) quarterConfirmed).isSome := by decide +kernel
  have hConfirmed : ((openQuarterDb.commitAs (some 1) quarterConfirmed).getD Db.empty).events.any
      fun e => e.new.status == some "confirmed" := by decide +kernel
  obtain ⟨db, hCommit⟩ := Option.isSome_iff_exists.mp hSome
  rw [hCommit] at hConfirmed
  obtain ⟨e, he, hStatus⟩ := List.any_eq_true.mp hConfirmed
  exact ⟨db, (confirmed_always_has_evidence Db.empty_evidenceSound
    ((Relation.ReflTransGen.single hRecorded).tail ⟨_, _, hCommit⟩)).1, e, he,
    beq_iff_eq.mp hStatus⟩

end Runs

end ProcureFoundation.Evidence
