import Mathlib.Tactic.Common

/-!
# Roles and permissions

Every role has an explicit set of permissions. A check reads the role of the claims as one of the
roles, and raises a `ValueError` for any other text.
-/

namespace ProcureFoundation.Users

inductive Role where
  | owner | admin | executive | finance | procurementManager | buyer | operations | analyst | consultant | viewer
deriving DecidableEq

inductive Permission where
  | uploadData | deleteDatasets | viewFinancials | editSuppliers | approveOpportunities | configureIntegrations
  | viewContracts | manageUsers | generateReports | accessAi | exportData | approvePriceIncreases | approveSavings
  | manageOrganisation
deriving DecidableEq

namespace Role

def values : List Role :=
  [owner, admin, executive, finance, procurementManager, buyer, operations, analyst,
    consultant, viewer]

def value : Role → String
  | owner => "owner"
  | admin => "admin"
  | executive => "executive"
  | finance => "finance"
  | procurementManager => "procurement_manager"
  | buyer => "buyer"
  | operations => "operations"
  | analyst => "analyst"
  | consultant => "consultant"
  | viewer => "viewer"

def ofValue (text : String) : Option Role := values.find? fun role => role.value = text

end Role

namespace Permission

def values : List Permission :=
  [uploadData, deleteDatasets, viewFinancials, editSuppliers, approveOpportunities,
    configureIntegrations,
    viewContracts, manageUsers, generateReports, accessAi, exportData, approvePriceIncreases,
    approveSavings, manageOrganisation]

def value : Permission → String
  | uploadData => "upload_data"
  | deleteDatasets => "delete_datasets"
  | viewFinancials => "view_financials"
  | editSuppliers => "edit_suppliers"
  | approveOpportunities => "approve_opportunities"
  | configureIntegrations => "configure_integrations"
  | viewContracts => "view_contracts"
  | manageUsers => "manage_users"
  | generateReports => "generate_reports"
  | accessAi => "access_ai"
  | exportData => "export_data"
  | approvePriceIncreases => "approve_price_increases"
  | approveSavings => "approve_savings"
  | manageOrganisation => "manage_organisation"

end Permission

open Permission in
def rolePermissions : Role → List Permission
  | .owner => values
  | .admin => values.filter fun permission => permission ≠ manageOrganisation
  | .executive =>
    [viewFinancials, viewContracts, generateReports, accessAi, approveOpportunities, approveSavings,
      exportData]
  | .finance =>
    [viewFinancials, viewContracts, generateReports, accessAi, approveSavings, exportData]
  | .procurementManager =>
    [uploadData, viewFinancials, editSuppliers, viewContracts, generateReports, accessAi,
      exportData, approvePriceIncreases]
  | .buyer => [uploadData, accessAi, viewFinancials]
  | .operations => [viewFinancials, accessAi]
  | .analyst => [viewFinancials, accessAi, generateReports]
  | .consultant => [viewFinancials, generateReports, accessAi, exportData]
  | .viewer => [viewFinancials]

/-- What a request to the users API can raise. -/
inductive Refusal where
  | valueError (message : String)
  | permissionDenied (message : String)
  | conflict (message : String)
  | notFound (message : String)
  | authentication (message : String)
  | database (message : String)

structure AccessTokenClaims where
  userId : ℕ
  activeOrgId : ℕ
  role : String

def requirePermission (permission : Permission) (claims : AccessTokenClaims) :
    Except Refusal AccessTokenClaims :=
  match Role.ofValue claims.role with
  | none => .error (.valueError s!"'{claims.role}' is not a valid Role")
  | some role =>
    if permission ∈ rolePermissions role then .ok claims
    else .error (.permissionDenied s!"Role '{role.value}' does not have permission '{permission.value}'")

/-- What the checks allow to a membership with this role. -/
def heldPermissions (text : String) : List Permission :=
  match Role.ofValue text with
  | some role => rolePermissions role
  | none => []

section Rules

variable {text : String} {role : Role} {permission : Permission}
  {claims checked : AccessTokenClaims}

theorem Role.ofValue_value : ofValue role.value = some role := by
  cases role <;> decide

theorem Role.ofValue_eq_some : ofValue text = some role ↔ text = role.value := by
  constructor
  · intro h
    have hFound := List.find?_some h
    exact (of_decide_eq_true hFound).symm
  · rintro rfl
    exact ofValue_value

/-- Every role's text is shorter than its column. -/
theorem Role.value_length : role.value.length < 32 := by
  cases role <;> decide

theorem heldPermissions_value : heldPermissions role.value = rolePermissions role := by
  rw [heldPermissions, Role.ofValue_value]

theorem requirePermission_eq_ok : requirePermission permission claims = .ok checked ↔
    permission ∈ heldPermissions claims.role ∧ checked = claims := by
  unfold requirePermission heldPermissions
  cases Role.ofValue claims.role with
  | none => exact iff_of_false (fun h => nomatch h) fun h => List.not_mem_nil h.1
  | some role =>
    dsimp only
    split
    · rename_i hHeld
      rw [Except.ok.injEq, and_iff_right hHeld]
      exact eq_comm
    · rename_i hRefused
      exact iff_of_false (fun h => nomatch h) fun h => hRefused h.1

/-- No check of this role raises a `ValueError`. -/
def Checkable (text : String) : Prop :=
  ∀ permission claims message, claims.role = text →
    requirePermission permission claims ≠ .error (.valueError message)

theorem checkable_iff : Checkable text ↔ ∃ role : Role, text = role.value := by
  simp only [← Role.ofValue_eq_some]
  constructor
  · intro h
    cases hRole : Role.ofValue text with
    | none =>
      have hRaised : requirePermission .manageUsers ⟨0, 0, text⟩ =
          .error (.valueError s!"'{text}' is not a valid Role") := by
        simp only [requirePermission, hRole]
      exact absurd hRaised (h .manageUsers _ _ rfl)
    | some role => exact ⟨role, rfl⟩
  · rintro ⟨role, hRole⟩ permission claims message rfl
    unfold requirePermission
    rw [hRole]
    dsimp only
    split
    · exact fun h => nomatch h
    · exact fun h => nomatch Except.error.inj h

theorem mem_manageUsers : .manageUsers ∈ rolePermissions role ↔ role = .owner ∨ role = .admin := by
  cases role <;> decide

/-- Only owners and admins manage users. -/
theorem role_of_manageUsers (h : .manageUsers ∈ heldPermissions text) :
    text = Role.owner.value ∨ text = Role.admin.value := by
  unfold heldPermissions at h
  cases hRole : Role.ofValue text with
  | none =>
    rw [hRole] at h
    exact absurd h List.not_mem_nil
  | some role =>
    rw [hRole] at h
    rw [Role.ofValue_eq_some.mp hRole]
    obtain rfl | rfl := mem_manageUsers.mp h
    · exact .inl rfl
    · exact .inr rfl

theorem subset_owner : rolePermissions role ⊆ rolePermissions .owner := by
  cases role <;> decide

theorem subset_admin : rolePermissions role ⊆ rolePermissions .admin ↔ role ≠ .owner := by
  cases role <;> decide

end Rules

end ProcureFoundation.Users
