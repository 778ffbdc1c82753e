import ProcureFoundation.Contracts.ExtractionRoute

/-!
# The verification gate

An extraction is staged as pending, and the only operation that marks one as verified by a person
first demands that it is marked so already. So no run of operations lets a staged extraction through
the gate.
-/

namespace ProcureFoundation.Contracts

open Outcome KeyedRows

/-- What the model located in a document: the value of each field it found. -/
def ContractExtractionOutput := String → Option String

def nextExtractionId (extractions : List ContractExtraction) : ℕ :=
  (extractions.map ContractExtraction.id).foldr max 0 + 1

theorem ne_nextExtractionId {extractions : List ContractExtraction} {row : ContractExtraction}
    (h : row ∈ extractions) : row.id ≠ nextExtractionId extractions := by
  have hLe : row.id ≤ (extractions.map ContractExtraction.id).foldr max 0 := by
    induction extractions with
    | nil => exact nomatch h
    | cons first rest ih =>
      rw [List.map_cons, List.foldr_cons]
      obtain rfl | hRest := List.mem_cons.mp h
      · exact le_max_left ..
      · exact (ih hRest).trans (le_max_right ..)
  unfold nextExtractionId
  omega

def stagedRow (store : ContractStore) (contractId : Option ℕ) (output : ContractExtractionOutput) :
    ContractExtraction where
  id := nextExtractionId store.extractions
  contractId := contractId
  extractedFields name := (output name).map fun value => ⟨some value⟩
  verificationStatus := "pending"
  verifiedByUserId := none

def stageExtraction (store : ContractStore) (contractId : Option ℕ)
    (output : ContractExtractionOutput) : Except String (ContractStore × ContractExtraction) :=
  if contractId.all fun id => (store.contracts.map fun contract => contract.id).contains id then
    .ok ({ store with
      extractions := store.extractions ++ [stagedRow store contractId output]
      extractionIds := by
        rw [List.map_append]
        refine List.Nodup.append store.extractionIds (List.nodup_singleton _) fun id hOld hNew => ?_
        obtain ⟨row, hRow, rfl⟩ := List.mem_map.mp hOld
        exact ne_nextExtractionId hRow (List.mem_singleton.mp hNew) },
        stagedRow store contractId output)
  else .error "insert violates foreign key constraint"

inductive GateOperation where
  | stage (contractId : Option ℕ) (output : ContractExtractionOutput)
  | verify (call : VerifyCall)

def GateOperation.after (driver : Driver) (store : ContractStore) : GateOperation → ContractStore
  | stage contractId output =>
    match stageExtraction store contractId output with
    | .ok result => result.1
    | .error _ => store
  | verify call => call.after driver store

/-- After some operations the extraction is verified and the fields that are asked for are on its
contract. -/
def PassesGate (driver : Driver) (store : ContractStore) (extraction : ContractExtraction)
    (fieldNames : List String) : Prop :=
  ∃ operations : List GateOperation,
    (∃ row ∈ (operations.foldl (GateOperation.after driver) store).extractions,
      row.id = extraction.id ∧ row.verificationStatus = "human_verified") ∧
    ∃ contract ∈ (operations.foldl (GateOperation.after driver) store).contracts,
      extraction.contractId = some contract.id ∧
        ∀ field text, promotable extraction.extractedFields fieldNames field = some text →
          driver.value field text = .ok (contract.get field)

/-- The extraction is stored, and as pending. -/
def PendingIn (store : ContractStore) (id : ℕ) : Prop :=
  ∃ row ∈ store.extractions, row.id = id ∧ row.verificationStatus = "pending"

section Gate

variable {driver : Driver} {store committed : ContractStore} {call : VerifyCall} {id : ℕ}
  {contractId : Option ℕ} {output : ContractExtractionOutput} {extraction : ContractExtraction}

/-- A verification replaces an extraction that was verified before. -/
theorem extractions_of_verify {response : Except String DerivedFields}
    (h : verifyContractExtraction driver store call = .ok (committed, response)) :
    ∃ old ∈ store.extractions, old.verificationStatus = "human_verified" ∧
      ∃ new : ContractExtraction, new.id = old.id ∧
        committed.extractions = replace ContractExtraction.id new store.extractions := by
  unfold verifyContractExtraction at h
  split at h
  · exact nomatch h
  · obtain ⟨contract, -, hAfterContract⟩ := exists_of_bind_eq_ok h
    obtain ⟨old, hExtraction, hAfterExtraction⟩ := exists_of_bind_eq_ok hAfterContract
    obtain ⟨result, hRun, hAfterRun⟩ := exists_of_bind_eq_ok hAfterExtraction
    obtain ⟨updated, hUpdated, hCommitted⟩ := exists_of_bind_eq_ok hAfterRun
    obtain ⟨rfl, -⟩ := Prod.mk.inj (Except.ok.inj hCommitted)
    obtain ⟨⟨hVerified, -⟩, -, hNew⟩ := promoteExtractionFields_eq_ok.mp hRun
    refine ⟨old, (getExtraction_eq_ok.mp hExtraction).1, hVerified, result.2, by rw [hNew], ?_⟩
    unfold ContractStore.update at hUpdated
    split at hUpdated
    · obtain rfl := Except.ok.inj hUpdated
      rfl
    · exact nomatch hUpdated

theorem pending_after (h : PendingIn store id) (operation : GateOperation) :
    PendingIn (operation.after driver store) id := by
  obtain ⟨row, hRow, hId, hPending⟩ := h
  cases operation with
  | stage contractId output =>
    rw [GateOperation.after, stageExtraction]
    split
    · rename_i result hStaged
      split at hStaged
      · obtain rfl := Except.ok.inj hStaged
        exact ⟨row, List.mem_append_left _ hRow, hId, hPending⟩
      · exact nomatch hStaged
    · exact ⟨row, hRow, hId, hPending⟩
  | verify call =>
    rw [GateOperation.after, VerifyCall.after]
    split
    · rename_i result hVerify
      obtain ⟨old, hOld, hVerified, new, hNewId, hExtractions⟩ := extractions_of_verify hVerify
      refine ⟨row, ?_, hId, hPending⟩
      rw [hExtractions]
      refine mem_replace_of_ne hRow fun hKey => ?_
      obtain rfl := eq_of_key_eq store.extractionIds hRow hOld (hKey.trans hNewId)
      rw [hPending] at hVerified
      exact absurd hVerified (by decide)
    · exact ⟨row, hRow, hId, hPending⟩

theorem pending_of_run (h : PendingIn store id) (operations : List GateOperation) :
    PendingIn (operations.foldl (GateOperation.after driver) store) id := by
  induction operations generalizing store with
  | nil => exact h
  | cons operation operations ih => exact ih (pending_after h operation)

theorem not_passesGate (h : PendingIn store extraction.id) (fieldNames : List String) :
    ¬ PassesGate driver store extraction fieldNames := by
  rintro ⟨operations, ⟨row, hRow, hId, hVerified⟩, -⟩
  obtain ⟨pending, hMem, hPendingId, hPending⟩ := @pending_of_run driver _ _ h operations
  obtain rfl := eq_of_key_eq (ContractStore.extractionIds _) hRow hMem (hId.trans hPendingId.symm)
  rw [hPending] at hVerified
  exact absurd hVerified (by decide)

theorem pending_of_staged (h : stageExtraction store contractId output = .ok (committed, extraction)) :
    PendingIn committed extraction.id := by
  unfold stageExtraction at h
  split at h
  · obtain ⟨rfl, rfl⟩ := Prod.mk.inj (Except.ok.inj h)
    exact ⟨_, List.mem_append_right _ (List.mem_singleton_self _), rfl, rfl⟩
  · exact nomatch h

/-- An extraction that has been staged stays pending in every run, so it never passes the gate. -/
theorem staged_never_verified (driver : Driver)
    (h : stageExtraction store contractId output = .ok (committed, extraction)) :
    (∀ operations : List GateOperation,
      PendingIn (operations.foldl (GateOperation.after driver) committed) extraction.id) ∧
      ∀ fieldNames, ¬ PassesGate driver committed extraction fieldNames :=
  ⟨pending_of_run (pending_of_staged h), not_passesGate (pending_of_staged h)⟩

end Gate

/-- The model located the title in the document of contract 1. -/
def cocoaOutput : ContractExtractionOutput :=
  fun name => if name = "title" then some "Cocoa supply 2027" else none

def cocoaStaged : ContractExtraction := stagedRow twoContracts (some 1) cocoaOutput

theorem stageExtraction_cocoa : ∃ committed, stageExtraction twoContracts (some 1) cocoaOutput =
    .ok (committed, cocoaStaged) := ⟨_, rfl⟩

theorem cocoa_never_verified : ∃ committed, (∀ operations : List GateOperation,
    PendingIn (operations.foldl (GateOperation.after typedDriver) committed) cocoaStaged.id) ∧
      ∀ fieldNames, ¬ PassesGate typedDriver committed cocoaStaged fieldNames := by
  obtain ⟨committed, hStaged⟩ := stageExtraction_cocoa
  exact ⟨committed, staged_never_verified typedDriver hStaged⟩

/-- The title of a staged extraction does not reach the contract. -/
theorem title_not_promoted : ∃ committed, stageExtraction twoContracts (some 1) cocoaOutput =
    .ok (committed, cocoaStaged) ∧ ¬ PassesGate typedDriver committed cocoaStaged ["title"] := by
  obtain ⟨committed, hStaged⟩ := stageExtraction_cocoa
  exact ⟨committed, hStaged, not_passesGate (pending_of_staged hStaged) ["title"]⟩

end ProcureFoundation.Contracts
