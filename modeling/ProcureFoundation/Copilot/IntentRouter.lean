import ProcureFoundation.Users.Permissions

/-!
# The intent router

A language model names an intent as a text. The router takes the text for one of the intents that
were registered with a handler and a permission, or refuses it. A refusal quotes the texts that it
names.
-/

namespace ProcureFoundation.Copilot

open Users

inductive Intent where
  | spendBySupplier
  | spendBySku
  | abcClassification
  | paretoContributors
  | priceVarianceCheck
  | rebateStatus
  | contractExpiryCheck
  | unsupported
deriving DecidableEq

namespace Intent

def values : List Intent :=
  [spendBySupplier, spendBySku, abcClassification, paretoContributors, priceVarianceCheck,
    rebateStatus, contractExpiryCheck, unsupported]

def value : Intent → String
  | spendBySupplier => "spend_by_supplier"
  | spendBySku => "spend_by_sku"
  | abcClassification => "abc_classification"
  | paretoContributors => "pareto_contributors"
  | priceVarianceCheck => "price_variance_check"
  | rebateStatus => "rebate_status"
  | contractExpiryCheck => "contract_expiry_check"
  | unsupported => "unsupported"

def ofValue (text : String) : Option Intent := values.find? fun intent => intent.value = text

end Intent

inductive CopilotError where
  | unsupportedIntent (message : String)
  | permissionDenied (message : String)
  | valueError (message : String)
  | database
  | provider (message : String)
deriving DecidableEq

structure IntentHandlerEntry (η : Type) where
  intent : Intent
  requiredPermission : Permission
  handler : η
  description : String

structure IntentRouter (η : Type) where
  registry : List (IntentHandlerEntry η)

namespace IntentRouter

variable {η : Type} (quoted : String → String) (router : IntentRouter η)

def find (intent : Intent) : Option (IntentHandlerEntry η) :=
  router.registry.find? fun entry => entry.intent = intent

def getEntry (intent : Intent) : Except CopilotError (IntentHandlerEntry η) :=
  match router.find intent with
  | none => .error (.unsupportedIntent
      s!"Intent {quoted intent.value} has no registered handler - the copilot cannot act on this")
  | some entry => .ok entry

def resolveClassification (rawIntent : String) : Except CopilotError Intent :=
  match Intent.ofValue rawIntent with
  | none => .error (.unsupportedIntent s!"{quoted rawIntent} is not a recognized intent")
  | some intent =>
    if (router.find intent).isSome then .ok intent
    else .error (.unsupportedIntent s!"Intent {quoted intent.value} has no registered handler")

def availableIntentsForPrompt : List (String × String) :=
  router.registry.map fun entry => (entry.intent.value, entry.description)

end IntentRouter

def checkPermission (quoted : String → String) (role : String) (requiredPermission : Permission) :
    Except CopilotError Unit :=
  match Role.ofValue role with
  | none => .error (.valueError s!"{quoted role} is not a valid Role")
  | some held =>
    if requiredPermission ∈ rolePermissions held then .ok ()
    else .error (.permissionDenied
      s!"Role {quoted role} does not have permission {quoted requiredPermission.value} for this query")

section Rules

variable {η : Type} {router : IntentRouter η} {entry : IntentHandlerEntry η} {intent : Intent}
  {quoted : String → String} {rawIntent role : String} {requiredPermission : Permission}

theorem Intent.ofValue_eq_some : Intent.ofValue rawIntent = some intent ↔
    rawIntent = intent.value := by
  constructor
  · intro h
    have hFound := List.find?_some h
    exact (of_decide_eq_true hFound).symm
  · rintro rfl
    cases intent <;> decide

theorem IntentRouter.find_eq_some (h : router.find intent = some entry) :
    entry ∈ router.registry ∧ entry.intent = intent :=
  ⟨List.mem_of_find?_eq_some h, of_decide_eq_true (List.find?_some h :)⟩

theorem IntentRouter.resolveClassification_eq_ok :
    router.resolveClassification quoted rawIntent = .ok intent ↔
    rawIntent = intent.value ∧ (router.find intent).isSome := by
  rw [resolveClassification, ← Intent.ofValue_eq_some]
  cases hIntent : Intent.ofValue rawIntent with
  | none => exact iff_of_false (fun h => nomatch h) fun h => nomatch h.1
  | some found =>
    dsimp only
    split
    · rename_i hFound
      rw [Except.ok.injEq, Option.some.injEq]
      exact ⟨fun h => ⟨h, h ▸ hFound⟩, fun h => h.1⟩
    · rename_i hMissing
      refine iff_of_false (fun h => nomatch h) ?_
      rintro ⟨hSame, hFound⟩
      exact hMissing (Option.some.inj hSame ▸ hFound)

theorem IntentRouter.getEntry_eq_ok : router.getEntry quoted intent = .ok entry ↔
    router.find intent = some entry := by
  rw [getEntry]
  cases router.find intent with
  | none => exact iff_of_false (fun h => nomatch h) fun h => nomatch h
  | some found => rw [Except.ok.injEq, Option.some.injEq]

theorem checkPermission_eq_ok : checkPermission quoted role requiredPermission = .ok () ↔
    requiredPermission ∈ heldPermissions role := by
  rw [checkPermission, heldPermissions]
  cases Role.ofValue role with
  | none => exact iff_of_false (by rintro ⟨⟩) List.not_mem_nil
  | some held =>
    dsimp only
    split
    · rename_i hHeld
      exact iff_of_true rfl hHeld
    · rename_i hMissing
      exact iff_of_false (by rintro ⟨⟩) hMissing

end Rules

end ProcureFoundation.Copilot
