import ProcureFoundation.Consolidation.ScanRuns
import ProcureFoundation.Foundation.ReadThenWrite

/-!
# Reviews of consolidation flags

A reviewer takes a flag from one status to the next, and a recommendation or a rejection is final.
The review loads the flag, decides on the status that it has loaded, and writes without a lock. When
every review writes to the row that it has loaded, the reviews of a flag follow the transitions one
after the other.
-/

namespace ProcureFoundation.Consolidation

open Matching

inductive ConsolidationReviewAction where
  | markUnderReview
  | recommendConsolidation
  | reject
deriving DecidableEq

def ConsolidationReviewAction.value : ConsolidationReviewAction → String
  | markUnderReview => "mark_under_review"
  | recommendConsolidation => "recommend_consolidation"
  | reject => "reject"

namespace FlagStatus

def value : FlagStatus → String
  | flagged => "flagged"
  | underReview => "under_review"
  | consolidationRecommended => "consolidation_recommended"
  | rejected => "rejected"

def values : List FlagStatus := [flagged, underReview, consolidationRecommended, rejected]

def ofValue (text : String) : Option FlagStatus := values.find? fun status => status.value = text

end FlagStatus

def actionTargetStatus : ConsolidationReviewAction → FlagStatus
  | .markUnderReview => .underReview
  | .recommendConsolidation => .consolidationRecommended
  | .reject => .rejected

def allowedTransitions : FlagStatus → List FlagStatus
  | .flagged => [.underReview, .consolidationRecommended, .rejected]
  | .underReview => [.consolidationRecommended, .rejected]
  | .consolidationRecommended | .rejected => []

def determineConsolidationFlagTransition (currentStatus : String)
    (action : ConsolidationReviewAction) : Except String FlagStatus :=
  match FlagStatus.ofValue currentStatus with
  | none => .error s!"Unknown current status: '{currentStatus}'"
  | some status =>
    if actionTargetStatus action ∈ allowedTransitions status then .ok (actionTargetStatus action)
    else .error
      s!"Cannot go from '{currentStatus}' to '{(actionTargetStatus action).value}' via action '{action.value}'"

/-- The columns of a flag that a review writes besides the status. -/
structure FlagReview where
  reviewNotes : Option String
  reviewedByUserId : Option ℕ
  reviewedAt : Option ℕ

structure ReviewRecord where
  organisationId : ℕ
  userId : ℕ
  publicId : ℕ
  newStatus : FlagStatus
  reviewAction : ConsolidationReviewAction

/-- The reviews go by the organisation and the public identifier of their flag. -/
structure ReviewWorld where
  store : Store
  review : ℕ → ℕ → FlagReview
  auditLogs : List ReviewRecord

structure ReviewIntent where
  organisationId : ℕ
  userId : ℕ
  publicId : ℕ
  action : ConsolidationReviewAction
  notes : Option String
  reviewedAt : ℕ

/-- The row that a review has loaded, and the status that it will write. -/
structure ReviewDecision where
  intent : ReviewIntent
  flag : SupplierConsolidationFlag
  review : FlagReview
  newStatus : FlagStatus

def IsFlag (organisationId publicId : ℕ) (flag : SupplierConsolidationFlag) : Prop :=
  flag.publicId = publicId ∧ flag.organisationId = organisationId

instance (organisationId publicId : ℕ) (flag : SupplierConsolidationFlag) :
    Decidable (IsFlag organisationId publicId flag) :=
  inferInstanceAs (Decidable (_ ∧ _))

def loadFlag (store : Store) (organisationId publicId : ℕ) : Option SupplierConsolidationFlag :=
  store.flags.find? fun flag => IsFlag organisationId publicId flag

def SupplierConsolidationFlag.withStatus (flag : SupplierConsolidationFlag) (status : FlagStatus) :
    SupplierConsolidationFlag :=
  { flag with input := { flag.input with status } }

def Store.writeStatus (store : Store) (organisationId publicId : ℕ) (status : FlagStatus) : Store :=
  { store with flags := store.flags.map fun flag =>
      if IsFlag organisationId publicId flag then flag.withStatus status else flag }

/-- An update leaves out a column that is set to what was loaded. -/
def writeChanged {α : Type} [DecidableEq α] (loaded written current : α) : α :=
  if written = loaded then current else written

def decideReview (intent : ReviewIntent) (world : ReviewWorld) : Option ReviewDecision :=
  (loadFlag world.store intent.organisationId intent.publicId).bind fun flag =>
    match determineConsolidationFlagTransition flag.input.status.value intent.action with
    | .error _ => none
    | .ok newStatus =>
      some ⟨intent, flag, world.review intent.organisationId intent.publicId, newStatus⟩

def ReviewDecision.columns (decision : ReviewDecision) (current : FlagReview) : FlagReview where
  reviewNotes := writeChanged decision.review.reviewNotes decision.intent.notes current.reviewNotes
  reviewedByUserId := writeChanged decision.review.reviewedByUserId (some decision.intent.userId)
    current.reviewedByUserId
  reviewedAt :=
    writeChanged decision.review.reviewedAt (some decision.intent.reviewedAt) current.reviewedAt

def writeReview (decision : ReviewDecision) (world : ReviewWorld) : ReviewWorld where
  store := world.store.writeStatus decision.intent.organisationId decision.intent.publicId
    decision.newStatus
  review organisationId publicId :=
    if organisationId = decision.intent.organisationId ∧ publicId = decision.intent.publicId then
      decision.columns (world.review organisationId publicId)
    else world.review organisationId publicId
  auditLogs := world.auditLogs ++
    [⟨decision.intent.organisationId, decision.intent.userId, decision.intent.publicId,
    decision.newStatus, decision.intent.action⟩]

/-- Reviews, among scans and new suppliers and purchases. -/
def reviewConsolidationFlag (tools : TextTools) (uuid : ℕ → ℕ) :
    ReadThenWrite ReviewWorld ReviewIntent ReviewDecision Event where
  decide := decideReview
  write := writeReview
  other event world := { world with store := world.store.apply tools uuid event }

namespace ReviewWorld

def statusOf (world : ReviewWorld) (organisationId publicId : ℕ) : Option FlagStatus :=
  (loadFlag world.store organisationId publicId).map fun flag => flag.input.status

/-- The statuses that the audit log has for a flag. -/
def recorded (world : ReviewWorld) (organisationId publicId : ℕ) : List FlagStatus :=
  (world.auditLogs.filter fun entry => entry.organisationId = organisationId ∧
    entry.publicId = publicId).map
    ReviewRecord.newStatus

end ReviewWorld

def Allowed (status next : FlagStatus) : Prop := next ∈ allowedTransitions status

instance (status next : FlagStatus) : Decidable (Allowed status next) :=
  inferInstanceAs (Decidable (_ ∈ _))

/-- How many reviews a flag can still have. -/
def FlagStatus.remaining : FlagStatus → ℕ
  | flagged => 2
  | underReview => 1
  | consolidationRecommended | rejected => 0

section Rules

variable {tools : TextTools} {uuid : ℕ → ℕ} {store : Store} {world start : ReviewWorld}
  {organisationId publicId : ℕ} {flag : SupplierConsolidationFlag} {status next : FlagStatus}
  {action : ConsolidationReviewAction} {intent : ReviewIntent} {decision : ReviewDecision}

@[simp] theorem FlagStatus.ofValue_value : FlagStatus.ofValue status.value = some status := by
  cases status <;> decide

theorem determine_eq_ok : determineConsolidationFlagTransition status.value action = .ok next ↔
    next = actionTargetStatus action ∧ Allowed status next := by
  rw [determineConsolidationFlagTransition, FlagStatus.ofValue_value]
  dsimp only
  split
  · rename_i hAllowed
    constructor
    · intro h
      obtain rfl := Except.ok.inj h
      exact ⟨rfl, hAllowed⟩
    · rintro ⟨rfl, -⟩
      rfl
  · rename_i hRefused
    refine iff_of_false (fun h => nomatch h) ?_
    rintro ⟨rfl, hAllowed⟩
    exact hRefused hAllowed

theorem decideReview_eq_some (h : decideReview intent world = some decision) :
    decision.intent = intent ∧ loadFlag world.store intent.organisationId intent.publicId =
      some decision.flag ∧ Allowed decision.flag.input.status decision.newStatus := by
  obtain ⟨flag, hFlag, h⟩ := Option.bind_eq_some_iff.mp h
  split at h
  · exact nomatch h
  · rename_i newStatus hStatus
    obtain rfl := Option.some.inj h
    exact ⟨rfl, hFlag, (determine_eq_ok.mp hStatus).2⟩

theorem insertFlags_prefix (flags : List SupplierConsolidationFlag)
    (inputs : List ConsolidationFlagInput) :
    flags <+: insertFlags uuid organisationId flags inputs := by
  induction inputs generalizing flags with
  | nil => exact List.prefix_rfl
  | cons input inputs ih => exact (List.prefix_append _ _).trans (ih _)

theorem flags_apply (tools : TextTools) (uuid : ℕ → ℕ) (store : Store) (event : Event) :
    store.flags <+: (store.apply tools uuid event).flags := by
  cases event with
  | addSupplier supplier =>
    rw [Store.apply, Store.addSupplier]
    split <;> exact List.prefix_rfl
  | addInvoiceLine line => exact List.prefix_rfl
  | addTransaction line => exact List.prefix_rfl
  | scan organisation listing => exact insertFlags_prefix _ _

/-- Nothing but a review changes a flag. -/
theorem loadFlag_apply (hFlag : loadFlag store organisationId publicId = some flag)
    (event : Event) :
    loadFlag (store.apply tools uuid event) organisationId publicId = some flag := by
  obtain ⟨added, hAdded⟩ := flags_apply tools uuid store event
  rw [loadFlag, ← hAdded, List.find?_append, ← loadFlag, hFlag]
  rfl

theorem loadFlag_writeStatus (store : Store) (organisationId publicId otherOrganisation otherId : ℕ)
    (status : FlagStatus) :
    loadFlag (store.writeStatus organisationId publicId status) otherOrganisation otherId =
      (loadFlag store otherOrganisation otherId).map fun flag =>
        if otherOrganisation = organisationId ∧ otherId = publicId then flag.withStatus status
          else flag := by
  have hSame :
    ((fun flag => decide (IsFlag otherOrganisation otherId flag)) ∘
      fun flag : SupplierConsolidationFlag =>
        if IsFlag organisationId publicId flag then flag.withStatus status else flag) =
        fun flag => decide (IsFlag otherOrganisation otherId flag) := by
    funext flag
    dsimp only [Function.comp_apply]
    split
    · rfl
    · rfl
  rw [loadFlag, Store.writeStatus, List.find?_map, hSame, ← loadFlag]
  refine Option.map_congr fun flag hFlag => ?_
  have hFound := List.find?_some hFlag
  obtain ⟨rfl, rfl⟩ := of_decide_eq_true hFound
  refine if_congr ?_ rfl rfl
  rw [IsFlag, and_comm]

theorem statusOf_write_self (decision : ReviewDecision)
    (hFlag : loadFlag world.store decision.intent.organisationId
    decision.intent.publicId = some flag) :
    (writeReview decision world).statusOf decision.intent.organisationId
      decision.intent.publicId = some decision.newStatus := by
  rw [ReviewWorld.statusOf, writeReview, loadFlag_writeStatus, hFlag, Option.map_some,
    Option.map_some, if_pos ⟨rfl, rfl⟩]
  rfl

theorem statusOf_write_other (decision : ReviewDecision)
    (hOther : ¬(organisationId = decision.intent.organisationId ∧
      publicId = decision.intent.publicId)) :
    (writeReview decision world).statusOf organisationId publicId =
      world.statusOf organisationId publicId := by
  rw [ReviewWorld.statusOf, writeReview, loadFlag_writeStatus, Option.map_map, ReviewWorld.statusOf]
  refine Option.map_congr fun flag _ => ?_
  rw [Function.comp_apply, if_neg hOther]

theorem recorded_write_self (decision : ReviewDecision) :
    (writeReview decision world).recorded decision.intent.organisationId decision.intent.publicId =
      world.recorded decision.intent.organisationId decision.intent.publicId ++
        [decision.newStatus] := by
  simp [ReviewWorld.recorded, writeReview]

theorem recorded_write_other (decision : ReviewDecision)
    (hOther : ¬(organisationId = decision.intent.organisationId ∧
      publicId = decision.intent.publicId)) :
    (writeReview decision world).recorded organisationId publicId =
      world.recorded organisationId publicId := by
  have hFalse :
      ¬(decision.intent.organisationId = organisationId ∧ decision.intent.publicId = publicId) :=
    fun h => hOther ⟨h.1.symm, h.2.symm⟩
  simp [ReviewWorld.recorded, writeReview, hFalse]

/-- From a status on, the log has an allowed transition for each review, and the flag has the status
of the last one. -/
def Follows (start world : ReviewWorld) (organisationId publicId : ℕ) (status : FlagStatus) :
    Prop :=
  ∃ decided, world.recorded organisationId publicId = start.recorded organisationId publicId ++
    decided ∧
    (status :: decided).IsChain Allowed ∧ world.statusOf organisationId publicId =
      (status :: decided).getLast?

theorem Follows.refl (h : start.statusOf organisationId publicId = some status) :
    Follows start start organisationId publicId status :=
  ⟨[], (List.append_nil _).symm, .singleton _, h⟩

theorem Follows.write (h : Follows start world organisationId publicId status)
    (hDecide : decideReview intent world = some decision) :
    Follows start (writeReview decision world) organisationId publicId status := by
  obtain ⟨rfl, hFlag, hAllowed⟩ := decideReview_eq_some hDecide
  obtain ⟨decided, hRecorded, hChain, hStatus⟩ := h
  by_cases hSame : organisationId = decision.intent.organisationId ∧
    publicId = decision.intent.publicId
  · obtain ⟨rfl, rfl⟩ := hSame
    have hCurrent : (status :: decided).getLast? = some decision.flag.input.status := by
      rw [← hStatus, ReviewWorld.statusOf, hFlag, Option.map_some]
    refine ⟨decided ++ [decision.newStatus], ?_, ?_, ?_⟩
    · rw [recorded_write_self, hRecorded, List.append_assoc]
    · rw [← List.cons_append, List.isChain_append]
      refine ⟨hChain, .singleton _, fun last hLast next hNext => ?_⟩
      rw [hCurrent, Option.mem_some_iff] at hLast
      rw [List.head?_cons, Option.mem_some_iff] at hNext
      rwa [← hLast, ← hNext]
    · rw [statusOf_write_self decision hFlag, ← List.cons_append, List.getLast?_concat]
  · refine ⟨decided, ?_, hChain, ?_⟩
    · rw [recorded_write_other decision hSame, hRecorded]
    · rw [statusOf_write_other decision hSame, hStatus]

theorem Follows.other (h : Follows start world organisationId publicId status) (event : Event) :
    Follows start ((reviewConsolidationFlag tools uuid).other event world) organisationId publicId
      status := by
  obtain ⟨decided, hRecorded, hChain, hStatus⟩ := h
  refine ⟨decided, hRecorded, hChain, ?_⟩
  obtain ⟨last, hLast⟩ :=
    Option.isSome_iff_exists.mp (List.getLast?_isSome.mpr (List.cons_ne_nil status decided))
  rw [hLast] at hStatus ⊢
  obtain ⟨flag, hFlag, rfl⟩ := Option.map_eq_some_iff.mp hStatus
  rw [ReviewWorld.statusOf, reviewConsolidationFlag, loadFlag_apply hFlag, Option.map_some]

theorem Follows.serial (tools : TextTools) (uuid : ℕ → ℕ)
    (h : Follows start world organisationId publicId status)
    (events : List (SerialEvent ReviewIntent Event)) : Follows start
      (runFrom (reviewConsolidationFlag tools uuid).serialStep world events) organisationId publicId
        status := by
  induction events generalizing world with
  | nil => exact h
  | cons event events ih =>
    refine ih ?_
    cases event with
    | other event => exact h.other event
    | act intent =>
      rw [ReadThenWrite.serialStep]
      cases hDecide : (reviewConsolidationFlag tools uuid).decide intent world with
      | none => exact h
      | some decision => exact h.write hDecide

theorem length_le_remaining {decided : List FlagStatus} (h : (status :: decided).IsChain Allowed) :
    decided.length ≤ status.remaining := by
  induction decided generalizing status with
  | nil => exact Nat.zero_le _
  | cons next decided ih =>
    obtain ⟨hAllowed, hRest⟩ := List.isChain_cons_cons.mp h
    have hNext : next.remaining < status.remaining := by
      revert hAllowed
      cases status <;> cases next <;> decide
    exact (ih hRest).trans_lt hNext

end Rules

/-- When every review writes to the flag as it has loaded it, whatever other requests come in
between, the reviews do what they do one after the other: the log records allowed transitions from
each status on, never more than two for a flag and none after a recommendation or a rejection. -/
theorem reviews_follow_transitions (tools : TextTools) (uuid : ℕ → ℕ)
    (desk : Desk ReviewWorld ReviewIntent ReviewDecision)
    (events : List (DeskEvent ReviewIntent Event))
    (hUndisturbed : EveryStep (reviewConsolidationFlag tools uuid).step
      (reviewConsolidationFlag tools uuid).Undisturbed desk events) :
    (runFrom (reviewConsolidationFlag tools uuid).step desk events).world =
        runFrom (reviewConsolidationFlag tools uuid).serialStep desk.world
          ((reviewConsolidationFlag tools uuid).serialisedRun desk events) ∧
      ∀ organisationId publicId status, desk.world.statusOf organisationId publicId = some status →
        ∃ decided, (runFrom (reviewConsolidationFlag tools uuid).step desk events).world.recorded
          organisationId publicId =
            desk.world.recorded organisationId publicId ++ decided ∧
          (status :: decided).IsChain Allowed ∧ decided.length ≤ status.remaining ∧
            (runFrom (reviewConsolidationFlag tools uuid).step desk events).world.statusOf
              organisationId publicId = (status :: decided).getLast? := by
  have hSerial := ReadThenWrite.world_runFrom hUndisturbed
  refine ⟨hSerial, fun organisationId publicId status hStatus => ?_⟩
  obtain ⟨decided, hRecorded, hChain, hLast⟩ := (Follows.refl hStatus).serial tools uuid
    ((reviewConsolidationFlag tools uuid).serialisedRun desk events)
  rw [hSerial]
  exact ⟨decided, hRecorded, hChain, length_le_remaining hChain, hLast⟩

def flourFlag : SupplierConsolidationFlag :=
  ⟨1, 1, ⟨1, 2, "Cake flour 10kg", "Cake flour", .quantize 4 (9 / 10), none, .flagged,
    .scored .fuzzy⟩⟩

def branFlag : SupplierConsolidationFlag :=
  ⟨2, 1, ⟨1, 2, "Wheat bran 5kg", "Bran", .quantize 4 (9 / 10), none, .flagged, .scored .fuzzy⟩⟩

def flourDesk : Desk ReviewWorld ReviewIntent ReviewDecision where
  world := ⟨⟨[], [], [], [flourFlag, branFlag], List.nodup_nil⟩, fun _ _ => ⟨none, none, none⟩, []⟩
  held _ := none

def flourReview (userId : ℕ) (action : ConsolidationReviewAction) : ReviewIntent :=
  ⟨1, userId, 1, action, none, userId⟩

def branReview : ReviewIntent := ⟨1, 8, 2, .reject, none, 8⟩

/-- Two reviewers load the flag before either writes, and the rejection is overwritten. -/
example : (runFrom (reviewConsolidationFlag (ratioTools 1) id).step flourDesk
    [.read 1 (flourReview 7 .reject), .read 2 (flourReview 8 .recommendConsolidation), .write 1,
      .write 2]).world.recorded 1 1 = [.rejected, .consolidationRecommended] :=
  rfl

/-- The review of the bran and a new supplier come between what the first review of the flour reads
and writes. -/
def flourReviews : List (DeskEvent ReviewIntent Event) :=
  [.read 1 (flourReview 7 .markUnderReview), .read 3 branReview,
    .other (.addSupplier ⟨3, 3, 1, "Millers", none⟩), .write 3,
    .write 1, .read 2 (flourReview 8 .reject), .write 2]

theorem flourReviews_undisturbed : EveryStep (reviewConsolidationFlag (ratioTools 1) id).step
    (reviewConsolidationFlag (ratioTools 1) id).Undisturbed flourDesk flourReviews := by
  refine ⟨trivial, trivial, trivial, ?_, ?_, trivial, ReadThenWrite.undisturbed_read _ _ _, trivial⟩
  · intro intent decision hHeld
    cases hHeld
    rfl
  · intro intent decision hHeld
    cases hHeld
    rfl

theorem flour_reviews_follow :
    ∃ decided, (runFrom (reviewConsolidationFlag (ratioTools 1) id).step flourDesk
      flourReviews).world.recorded 1 1 =
        flourDesk.world.recorded 1 1 ++ decided ∧ (.flagged :: decided).IsChain Allowed ∧
          decided.length ≤ FlagStatus.flagged.remaining ∧
            (runFrom (reviewConsolidationFlag (ratioTools 1) id).step flourDesk
              flourReviews).world.statusOf 1 1 = (.flagged :: decided).getLast? :=
  (reviews_follow_transitions (ratioTools 1) id flourDesk flourReviews flourReviews_undisturbed).2 1
    1 .flagged rfl

end ProcureFoundation.Consolidation
