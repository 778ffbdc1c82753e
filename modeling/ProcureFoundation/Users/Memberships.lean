import ProcureFoundation.Users.Permissions
import ProcureFoundation.Foundation.StoredColumns
import ProcureFoundation.Foundation.KeyedRows
import ProcureFoundation.Foundation.Outcomes

/-!
# Invitations and updates of memberships

A member acts in an organisation with the role of the membership there. Whoever may manage users can
invite a user with any text as the role, and set the role and the status of every membership of the
organisation.
-/

namespace ProcureFoundation.Users

open Outcome KeyedRows

structure User where
  id : ℕ
  publicId : ℕ
  firstName : String
  lastName : String
  email : String

inductive MembershipStatus where
  | invited | active | suspended | removed

def MembershipStatus.value : MembershipStatus → String
  | invited => "invited"
  | active => "active"
  | suspended => "suspended"
  | removed => "removed"

structure OrganisationMembership where
  publicId : ℕ
  userId : ℕ
  organisationId : ℕ
  role : String
  status : String
deriving DecidableEq

def OrganisationMembership.userOrg (membership : OrganisationMembership) : ℕ × ℕ :=
  (membership.userId, membership.organisationId)

structure UserRows where
  users : List User
  memberships : List OrganisationMembership

/-- The unique keys of the two tables, and the users of the memberships. -/
structure UserRows.Constraints (rows : UserRows) : Prop where
  userIds : (rows.users.map User.id).Nodup
  userPublicIds : (rows.users.map User.publicId).Nodup
  emails : (rows.users.map User.email).Nodup
  publicIds : (rows.memberships.map OrganisationMembership.publicId).Nodup
  userOrg : (rows.memberships.map OrganisationMembership.userOrg).Nodup
  users : ∀ membership ∈ rows.memberships, membership.userId ∈ rows.users.map User.id

instance (rows : UserRows) : Decidable rows.Constraints :=
  decidable_of_iff ((rows.users.map User.id).Nodup ∧ (rows.users.map User.publicId).Nodup ∧
    (rows.users.map User.email).Nodup ∧
      (rows.memberships.map OrganisationMembership.publicId).Nodup ∧
      (rows.memberships.map OrganisationMembership.userOrg).Nodup ∧
        ∀ membership ∈ rows.memberships, membership.userId ∈ rows.users.map User.id)
    ⟨fun ⟨h1, h2, h3, h4, h5, h6⟩ => ⟨h1, h2, h3, h4, h5, h6⟩, fun h =>
      ⟨h.1, h.2, h.3, h.4, h.5, h.6⟩⟩

structure UserTables extends UserRows where
  constraints : toUserRows.Constraints

def UserRows.commit (rows : UserRows) : Except Refusal UserTables :=
  if h : rows.Constraints then .ok ⟨rows, h⟩
    else .error (.database "the tables violate a constraint")

def writeText (length : ℕ) (text : String) : Except Refusal String :=
  (writeVarchar length text).mapError .database

/-- The lengths are those that the schema demands. -/
structure UserInvite where
  email : String
  firstName : String
  lastName : String
  role : String
  firstNameLength : 1 ≤ firstName.length ∧ firstName.length ≤ 128
  lastNameLength : 1 ≤ lastName.length ∧ lastName.length ≤ 128

/-- A field may be left out, or given as `null` or as a text. -/
structure MembershipUpdate where
  role : Option (Option String)
  status : Option (Option String)

/-- The identifiers that are generated for the rows of a new user and a new membership. -/
structure NewKeys where
  userId : ℕ
  userPublicId : ℕ
  membershipPublicId : ℕ

structure MembershipRead where
  publicId : ℕ
  userPublicId : ℕ
  email : String
  firstName : String
  lastName : String
  role : String
  status : String

def membershipRead (membership : OrganisationMembership) (user : User) : MembershipRead :=
  ⟨membership.publicId, user.publicId, user.email, user.firstName, user.lastName, membership.role,
    membership.status⟩

def UserInvite.newUser (payload : UserInvite) (keys : NewKeys) : User :=
  ⟨keys.userId, keys.userPublicId, payload.firstName, payload.lastName, payload.email⟩

def UserRows.userOf (rows : UserRows) (email : String) : Option User :=
  rows.users.find? fun user => user.email = email

def addUser (rows : UserRows) (user : User) : Except Refusal UserRows := do
  let firstName ← writeText 128 user.firstName
  let lastName ← writeText 128 user.lastName
  let email ← writeText 320 user.email
  return { rows with users := rows.users ++ [{ user with firstName, lastName, email }] }

/-- The user of the invitation, and the rows once they hold the user. -/
def invitedUser (rows : UserRows) (keys : NewKeys) (claims : AccessTokenClaims)
    (payload : UserInvite) : Except Refusal (UserRows × User) :=
  match rows.userOf payload.email with
  | none => do
    let added ← addUser rows (payload.newUser keys)
    return (added, payload.newUser keys)
  | some user =>
    if (user.id, claims.activeOrgId) ∈ rows.memberships.map OrganisationMembership.userOrg then
      .error (.conflict "User is already a member of this organisation")
    else .ok (rows, user)

def inviteUser (tables : UserTables) (keys : NewKeys) (claims : AccessTokenClaims)
    (payload : UserInvite) : Except Refusal (UserTables × MembershipRead) := do
  let invited ← invitedUser tables.toUserRows keys claims payload
  let role ← writeText 32 payload.role
  let membership : OrganisationMembership :=
    ⟨keys.membershipPublicId, invited.2.id, claims.activeOrgId, role,
      MembershipStatus.invited.value⟩
  let committed ← UserRows.commit { invited.1 with memberships := invited.1.memberships ++ [membership] }
  return (committed, membershipRead { membership with role := payload.role } invited.2)

/-- A column after an update of its field. -/
def updateColumn (length : ℕ) (current : String) : Option (Option String) → Except Refusal String
  | none => .ok current
  | some none => .error (.database "null value violates not-null constraint")
  | some (some text) => writeText length text

def UserRows.membershipOf (rows : UserRows) (publicId organisationId : ℕ) :
    Option OrganisationMembership :=
  rows.memberships.find? fun membership => membership.publicId = publicId ∧
    membership.organisationId = organisationId

/-- The membership is named by the number of a UUID, when the text of the path is one. -/
def updateMembership (tables : UserTables) (claims : AccessTokenClaims)
    (membershipPublicId : Option ℕ) (payload : MembershipUpdate) :
    Except Refusal (UserTables × MembershipRead) :=
  match membershipPublicId with
  | none => .error (.database "invalid input for query argument")
  | some publicId =>
    match tables.membershipOf publicId claims.activeOrgId with
    | none => .error (.notFound "Membership not found")
    | some membership =>
      match lookup User.id tables.users membership.userId with
      | none => .error (.notFound "Membership not found")
      | some user => do
        let role ← updateColumn 32 membership.role payload.role
        let status ← updateColumn 16 membership.status payload.status
        let committed ← UserRows.commit { tables.toUserRows with
          memberships := replace OrganisationMembership.publicId { membership with role, status }
            tables.memberships }
        return (committed, membershipRead { membership with
          role := (payload.role.getD none).getD membership.role
          status := (payload.status.getD none).getD membership.status } user)

inductive UserRequest where
  | invite (keys : NewKeys) (payload : UserInvite)
  | update (membershipPublicId : Option ℕ) (payload : MembershipUpdate)

def UserRequest.run (tables : UserTables) (claims : AccessTokenClaims) :
    UserRequest → Except Refusal (UserTables × MembershipRead)
  | .invite keys payload => inviteUser tables keys claims payload
  | .update membershipPublicId payload => updateMembership tables claims membershipPublicId payload

/-- A request of a user in an organisation. -/
structure UserCall where
  userId : ℕ
  activeOrgId : ℕ
  request : UserRequest

/-- The active membership that a call is made under. -/
def UserCall.actor (rows : UserRows) (call : UserCall) : Option OrganisationMembership :=
  rows.memberships.find? fun membership => membership.userId = call.userId ∧
    membership.organisationId = call.activeOrgId ∧ membership.status = MembershipStatus.active.value

def UserCall.run (tables : UserTables) (call : UserCall) :
    Except Refusal (UserTables × MembershipRead) :=
  match call.actor tables.toUserRows with
  | none => .error (.authentication "No active organisation membership for this user")
  | some actor => do
    let claims ← requirePermission .manageUsers ⟨call.userId, call.activeOrgId, actor.role⟩
    call.request.run tables claims

/-- A request that raises is rolled back. -/
def UserCall.after (tables : UserTables) (call : UserCall) : UserTables :=
  match call.run tables with
  | .ok result => result.1
  | .error _ => tables

section Rules

variable {rows : UserRows} {tables : UserTables} {user : User} {membership : OrganisationMembership}
  {length : ℕ} {text written current : String} {field : Option (Option String)}

theorem writeText_eq_ok : writeText length text = .ok written ↔
    textFits length (some text) = true ∧ written = cutVarchar length text := by
  rw [← writeVarchar_eq_ok, writeText]
  cases writeVarchar length text with
  | error message => exact iff_of_false (fun h => nomatch h) fun h => nomatch h
  | ok value => exact ⟨fun h => congrArg _ (Except.ok.inj h), fun h => congrArg _ (Except.ok.inj h)⟩

/-- A field that is given has a text that fits its column. -/
def Fits (length : ℕ) (field : Option (Option String)) : Prop :=
  ∀ value, field = some value → ∃ text, value = some text ∧ textFits length (some text) = true

def storedText (length : ℕ) (current : String) (field : Option (Option String)) : String :=
  ((field.getD none).map (cutVarchar length)).getD current

theorem updateColumn_eq_ok : updateColumn length current field = .ok text ↔
    Fits length field ∧ text = storedText length current field := by
  cases field with
  | none =>
    have hFits : Fits length none := fun value hValue => nomatch hValue
    rw [and_iff_right hFits, updateColumn, Except.ok.injEq]
    exact eq_comm
  | some value =>
    cases value with
    | none =>
      refine iff_of_false (fun h => nomatch h) ?_
      rintro ⟨hFits, -⟩
      obtain ⟨given, hGiven, -⟩ := hFits none rfl
      exact nomatch hGiven
    | some given =>
      rw [updateColumn, writeText_eq_ok]
      refine and_congr_left fun _ =>
        ⟨fun hText value hValue => ⟨given, (Option.some.inj hValue).symm, hText⟩, fun hFits => ?_⟩
      obtain ⟨same, hSame, hText⟩ := hFits _ rfl
      rwa [Option.some.inj hSame]

theorem commit_eq_ok : rows.commit = .ok tables ↔ tables.toUserRows = rows := by
  unfold UserRows.commit
  constructor
  · intro h
    split at h
    · rw [← Except.ok.inj h]
    · exact nomatch h
  · rintro rfl
    rw [dif_pos tables.constraints]

theorem nodup_map_append {ρ κ : Type*} {key : ρ → κ} {rows : List ρ} {row : ρ} :
    ((rows ++ [row]).map key).Nodup ↔ (rows.map key).Nodup ∧ key row ∉ rows.map key := by
  rw [List.map_append, List.map_singleton, ← List.concat_eq_append, List.nodup_concat, and_comm]

theorem constraints_append_membership :
    UserRows.Constraints { rows with memberships := rows.memberships ++ [membership] } ↔
      rows.Constraints ∧
        membership.publicId ∉ rows.memberships.map OrganisationMembership.publicId ∧
        membership.userOrg ∉ rows.memberships.map OrganisationMembership.userOrg ∧
          membership.userId ∈ rows.users.map User.id := by
  constructor
  · intro h
    obtain ⟨hPublicIds, hPublicId⟩ := nodup_map_append.mp h.publicIds
    obtain ⟨hUserOrgs, hUserOrg⟩ := nodup_map_append.mp h.userOrg
    obtain ⟨hUsers, hUser⟩ := List.forall_mem_append.mp h.users
    exact ⟨⟨h.userIds, h.userPublicIds, h.emails, hPublicIds, hUserOrgs, hUsers⟩, hPublicId,
      hUserOrg, hUser membership (List.mem_singleton_self _)⟩
  · rintro ⟨h, hPublicId, hUserOrg, hUser⟩
    refine ⟨h.userIds, h.userPublicIds, h.emails, nodup_map_append.mpr ⟨h.publicIds, hPublicId⟩,
      nodup_map_append.mpr ⟨h.userOrg, hUserOrg⟩,
      List.forall_mem_append.mpr ⟨h.users, fun added hAdded => ?_⟩⟩
    rw [List.mem_singleton.mp hAdded]
    exact hUser

theorem constraints_append_user (hRows : rows.Constraints) :
    UserRows.Constraints { rows with users := rows.users ++ [user] } ↔
      user.id ∉ rows.users.map User.id ∧ user.publicId ∉ rows.users.map User.publicId ∧
        user.email ∉ rows.users.map User.email := by
  constructor
  · intro h
    exact ⟨(nodup_map_append.mp h.userIds).2, (nodup_map_append.mp h.userPublicIds).2,
      (nodup_map_append.mp h.emails).2⟩
  · rintro ⟨hId, hPublicId, hEmail⟩
    refine ⟨nodup_map_append.mpr ⟨hRows.userIds, hId⟩,
      nodup_map_append.mpr ⟨hRows.userPublicIds, hPublicId⟩,
      nodup_map_append.mpr ⟨hRows.emails, hEmail⟩, hRows.publicIds, hRows.userOrg,
      fun other hOther => ?_⟩
    rw [List.map_append]
    exact List.mem_append_left _ (hRows.users other hOther)

/-- An update of a membership keeps its keys. -/
theorem constraints_replace (hRows : rows.Constraints) {updated : OrganisationMembership}
    (hMem : membership ∈ rows.memberships) (hPublicId : updated.publicId = membership.publicId)
    (hUserOrg : updated.userOrg = membership.userOrg) : UserRows.Constraints { rows with
      memberships := replace OrganisationMembership.publicId updated rows.memberships } := by
  have hKept : (replace OrganisationMembership.publicId updated rows.memberships).map
    OrganisationMembership.userOrg =
      rows.memberships.map OrganisationMembership.userOrg := by
    refine map_replace fun old hOld hKey => ?_
    rw [eq_of_key_eq hRows.publicIds hOld hMem (hKey.trans hPublicId), hUserOrg]
  refine ⟨hRows.userIds, hRows.userPublicIds, hRows.emails, ?_, ?_, fun other hOther => ?_⟩
  · rw [map_key_replace]
    exact hRows.publicIds
  · rw [hKept]
    exact hRows.userOrg
  · obtain ⟨rfl, -⟩ | ⟨hOld, -⟩ := mem_replace hOther
    · rw [(Prod.mk.inj hUserOrg).1]
      exact hRows.users membership hMem
    · exact hRows.users other hOld

end Rules

end ProcureFoundation.Users
