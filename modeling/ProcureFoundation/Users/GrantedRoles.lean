import ProcureFoundation.Users.Memberships
import ProcureFoundation.Foundation.EveryStep

/-!
# The roles that members grant

Managing users stays within the privilege of the acting member exactly when every role that is
granted is one of the roles, and the role of the owner is granted by an owner.
-/

namespace ProcureFoundation.Users

open Outcome KeyedRows

/-- The membership has a role that it did not have before. -/
def Gives (rows after : UserRows) (membership : OrganisationMembership) : Prop :=
  membership ∈ after.memberships ∧
    ∀ old ∈ rows.memberships, old.publicId = membership.publicId → old.role ≠ membership.role

def RolesCheckable (rows : UserRows) : Prop :=
  ∀ membership ∈ rows.memberships, Checkable membership.role

/-- A call leaves roles that can be checked, and gives no permission that the acting member does not
hold. -/
structure KeepsPrivilege (tables : UserTables) (call : UserCall) : Prop where
  roles : RolesCheckable (call.after tables).toUserRows
  grants : ∀ actor, call.actor tables.toUserRows = some actor → ∀ membership,
    Gives tables.toUserRows (call.after tables).toUserRows membership →
      heldPermissions membership.role ⊆ heldPermissions actor.role

/-- The texts of a new user fit their columns, and the user's keys are not in use. -/
structure Enrols (rows : UserRows) (user : User) : Prop where
  firstName : textFits 128 (some user.firstName) = true
  lastName : textFits 128 (some user.lastName) = true
  email : textFits 320 (some user.email) = true
  id : user.id ∉ rows.users.map User.id
  publicId : user.publicId ∉ rows.users.map User.publicId
  emailFree : cutVarchar 320 user.email ∉ rows.users.map User.email

structure Invites (rows : UserRows) (keys : NewKeys) (organisationId : ℕ) (payload : UserInvite) :
    Prop where
  role : textFits 32 (some payload.role) = true
  publicId : keys.membershipPublicId ∉ rows.memberships.map OrganisationMembership.publicId
  known : ∀ user, rows.userOf payload.email = some user →
    (user.id, organisationId) ∉ rows.memberships.map OrganisationMembership.userOrg
  unknown : rows.userOf payload.email = none → Enrols rows (payload.newUser keys)

structure Updates (rows : UserRows) (organisationId : ℕ) (membershipPublicId : Option ℕ)
    (payload : MembershipUpdate) : Prop where
  target : ∃ publicId membership, membershipPublicId = some publicId ∧
    rows.membershipOf publicId organisationId = some membership
  role : Fits 32 payload.role
  status : Fits 16 payload.status

def UserRequest.Accepted (rows : UserRows) (organisationId : ℕ) : UserRequest → Prop
  | .invite keys payload => Invites rows keys organisationId payload
  | .update membershipPublicId payload => Updates rows organisationId membershipPublicId payload

/-- The call is made by an active member who may manage users, and the tables take its request. -/
def GoesThrough (rows : UserRows) (call : UserCall) : Prop :=
  (∃ actor, call.actor rows = some actor ∧ .manageUsers ∈ heldPermissions actor.role) ∧
    call.request.Accepted rows call.activeOrgId

/-- The role of an invitation, or of an update if its membership has another one. -/
def UserCall.givenRole (rows : UserRows) (call : UserCall) : Option String :=
  match call.request with
  | .invite _ payload => some payload.role
  | .update membershipPublicId payload => do
    let membership ← rows.membershipOf (← membershipPublicId) call.activeOrgId
    let role ← (← payload.role)
    if role = membership.role then none else some role

/-- A call that goes through gives one of the roles, and that of the owner only if an owner makes
it. -/
def GrantsWithin (tables : UserTables) (call : UserCall) : Prop :=
  GoesThrough tables.toUserRows call → ∀ text, call.givenRole tables.toUserRows = some text →
    ∃ role : Role, text = role.value ∧ (role = .owner →
      ∃ actor, call.actor tables.toUserRows = some actor ∧ actor.role = Role.owner.value)

section Requests

variable {tables : UserTables} {rows added : UserRows} {user : User} {keys : NewKeys}
  {claims : AccessTokenClaims} {payload : UserInvite} {update : MembershipUpdate}
  {invited : UserRows × User} {result : UserTables × MembershipRead} {membershipPublicId : Option ℕ}

def storedUser (user : User) : User :=
  { user with
    firstName := cutVarchar 128 user.firstName
    lastName := cutVarchar 128 user.lastName
    email := cutVarchar 320 user.email }

theorem addUser_eq_ok : addUser rows user = .ok added ↔
    (textFits 128 (some user.firstName) = true ∧ textFits 128 (some user.lastName) = true ∧
      textFits 320 (some user.email) = true) ∧
        added = { rows with users := rows.users ++ [storedUser user] } := by
  constructor
  · intro h
    obtain ⟨firstName, hFirst, h⟩ := exists_of_bind_eq_ok h
    obtain ⟨lastName, hLast, h⟩ := exists_of_bind_eq_ok h
    obtain ⟨email, hEmail, h⟩ := exists_of_bind_eq_ok h
    obtain ⟨hFirstFits, rfl⟩ := writeText_eq_ok.mp hFirst
    obtain ⟨hLastFits, rfl⟩ := writeText_eq_ok.mp hLast
    obtain ⟨hEmailFits, rfl⟩ := writeText_eq_ok.mp hEmail
    exact ⟨⟨hFirstFits, hLastFits, hEmailFits⟩, (Except.ok.inj h).symm⟩
  · rintro ⟨⟨hFirst, hLast, hEmail⟩, rfl⟩
    rw [addUser, bind_of_eq_ok (writeText_eq_ok.mpr ⟨hFirst, rfl⟩),
      bind_of_eq_ok (writeText_eq_ok.mpr ⟨hLast, rfl⟩),
      bind_of_eq_ok (writeText_eq_ok.mpr ⟨hEmail, rfl⟩)]
    rfl

theorem invitedUser_known (hUser : rows.userOf payload.email = some user) :
    invitedUser rows keys claims payload = .ok invited ↔
      (user.id, claims.activeOrgId) ∉ rows.memberships.map OrganisationMembership.userOrg ∧
        invited = (rows, user) := by
  unfold invitedUser
  rw [hUser]
  dsimp only
  split
  · rename_i hMember
    exact iff_of_false (fun h => nomatch h) fun h => h.1 hMember
  · rename_i hNewcomer
    rw [and_iff_right hNewcomer, Except.ok.injEq]
    exact eq_comm

theorem invitedUser_unknown (hUser : rows.userOf payload.email = none) :
    invitedUser rows keys claims payload = .ok invited ↔
      addUser rows (payload.newUser keys) = .ok invited.1 ∧ invited.2 = payload.newUser keys := by
  unfold invitedUser
  rw [hUser]
  dsimp only
  rw [bind_pure_eq_ok]
  constructor
  · rintro ⟨added, hAdded, rfl⟩
    exact ⟨hAdded, rfl⟩
  · rintro ⟨hAdded, hNew⟩
    exact ⟨invited.1, hAdded, Prod.ext rfl hNew⟩

def newMembership (keys : NewKeys) (organisationId : ℕ) (payload : UserInvite) (user : User) :
    OrganisationMembership :=
  ⟨keys.membershipPublicId, user.id, organisationId, cutVarchar 32 payload.role,
    MembershipStatus.invited.value⟩

theorem inviteUser_eq_ok : inviteUser tables keys claims payload = .ok result ↔
    ∃ invited, invitedUser tables.toUserRows keys claims payload = .ok invited ∧
      textFits 32 (some payload.role) = true ∧
        result.1.toUserRows = { invited.1 with
          memberships :=
            invited.1.memberships ++ [newMembership keys claims.activeOrgId payload invited.2] } ∧
          result.2 = membershipRead { newMembership keys claims.activeOrgId payload invited.2 with
            role := payload.role } invited.2 := by
  constructor
  · intro h
    obtain ⟨invited, hInvited, h⟩ := exists_of_bind_eq_ok h
    obtain ⟨role, hRole, h⟩ := exists_of_bind_eq_ok h
    obtain ⟨committed, hCommitted, rfl⟩ := bind_pure_eq_ok.mp h
    obtain ⟨hFits, rfl⟩ := writeText_eq_ok.mp hRole
    exact ⟨invited, hInvited, hFits, commit_eq_ok.mp hCommitted, rfl⟩
  · rintro ⟨invited, hInvited, hFits, hRows, hRead⟩
    rw [inviteUser, bind_of_eq_ok hInvited, bind_of_eq_ok (writeText_eq_ok.mpr ⟨hFits, rfl⟩),
      bind_pure_eq_ok]
    exact ⟨result.1, commit_eq_ok.mpr hRows, Prod.ext rfl hRead⟩

theorem memberships_of_invitedUser (h : invitedUser rows keys claims payload = .ok invited) :
    invited.1.memberships = rows.memberships := by
  cases hUser : rows.userOf payload.email with
  | none =>
    rw [(addUser_eq_ok.mp ((invitedUser_unknown hUser).mp h).1).2]
  | some user =>
    rw [((invitedUser_known hUser).mp h).2]

theorem invites_of_ok (h : inviteUser tables keys claims payload = .ok result) :
    Invites tables.toUserRows keys claims.activeOrgId payload := by
  obtain ⟨invited, hInvited, hFits, hRows, -⟩ := inviteUser_eq_ok.mp h
  have hConstraints := result.1.constraints
  rw [hRows] at hConstraints
  obtain ⟨hInvitedRows, hPublicId, -⟩ := constraints_append_membership.mp hConstraints
  rw [memberships_of_invitedUser hInvited] at hPublicId
  refine ⟨hFits, hPublicId, fun user hUser => ((invitedUser_known hUser).mp hInvited).1,
    fun hUser => ?_⟩
  obtain ⟨⟨hFirst, hLast, hEmail⟩, hAdded⟩ :=
    addUser_eq_ok.mp ((invitedUser_unknown hUser).mp hInvited).1
  rw [hAdded] at hInvitedRows
  obtain ⟨hId, hUserPublicId, hFree⟩ := (constraints_append_user tables.constraints).mp hInvitedRows
  exact ⟨hFirst, hLast, hEmail, hId, hUserPublicId, hFree⟩

theorem exists_invited (h : Invites tables.toUserRows keys claims.activeOrgId payload) :
    ∃ invited, invitedUser tables.toUserRows keys claims payload = .ok invited ∧
      invited.1.Constraints ∧
      (invited.2.id, claims.activeOrgId) ∉ tables.memberships.map OrganisationMembership.userOrg ∧
        invited.2.id ∈ invited.1.users.map User.id := by
  cases hUser : tables.userOf payload.email with
  | some user =>
    exact ⟨(tables.toUserRows, user), (invitedUser_known hUser).mpr ⟨h.known user hUser, rfl⟩,
      tables.constraints, h.known user hUser, List.mem_map_of_mem (List.mem_of_find?_eq_some hUser)⟩
  | none =>
    have hEnrols := h.unknown hUser
    refine ⟨(_, payload.newUser keys), (invitedUser_unknown hUser).mpr
      ⟨addUser_eq_ok.mpr ⟨⟨hEnrols.firstName, hEnrols.lastName, hEnrols.email⟩, rfl⟩, rfl⟩,
      (constraints_append_user tables.constraints).mpr
        ⟨hEnrols.id, hEnrols.publicId, hEnrols.emailFree⟩, ?_, ?_⟩
    · intro hMember
      obtain ⟨membership, hMem, hUserOrg⟩ := List.mem_map.mp hMember
      have hKnown := tables.constraints.users membership hMem
      rw [(Prod.mk.inj hUserOrg).1] at hKnown
      exact hEnrols.id hKnown
    · rw [List.map_append]
      exact List.mem_append_right _ (List.mem_singleton_self _)

theorem exists_invite (h : Invites tables.toUserRows keys claims.activeOrgId payload) :
    ∃ result, inviteUser tables keys claims payload = .ok result := by
  obtain ⟨invited, hInvited, hRows, hUserOrg, hUser⟩ := exists_invited h
  have hSame := memberships_of_invitedUser hInvited
  have hConstraints : UserRows.Constraints { invited.1 with
      memberships :=
        invited.1.memberships ++ [newMembership keys claims.activeOrgId payload invited.2] } := by
    refine constraints_append_membership.mpr ⟨hRows, ?_, ?_, hUser⟩
    · rw [hSame]
      exact h.publicId
    · rw [hSame]
      exact hUserOrg
  exact ⟨(⟨_, hConstraints⟩, _), inviteUser_eq_ok.mpr ⟨invited, hInvited, h.role, rfl, rfl⟩⟩

theorem membershipOf_eq_some {publicId organisationId : ℕ} {membership : OrganisationMembership}
    (h : rows.membershipOf publicId organisationId = some membership) :
    membership ∈ rows.memberships ∧ membership.publicId = publicId := by
  have hFound := List.find?_some h
  exact ⟨List.mem_of_find?_eq_some h, (of_decide_eq_true hFound).1⟩

def updatedMembership (update : MembershipUpdate) (membership : OrganisationMembership) :
    OrganisationMembership :=
  { membership with
    role := storedText 32 membership.role update.role
    status := storedText 16 membership.status update.status }

theorem updateMembership_ok {committed : UserTables} {publicId : ℕ}
    {membership : OrganisationMembership}
    (h : tables.membershipOf publicId claims.activeOrgId = some membership) :
    (∃ read, updateMembership tables claims (some publicId) update = .ok (committed, read)) ↔
      (Fits 32 update.role ∧ Fits 16 update.status) ∧
        committed.toUserRows = { tables.toUserRows with
        memberships := replace OrganisationMembership.publicId (updatedMembership update membership)
          tables.memberships } := by
  have hUser := tables.constraints.users membership (membershipOf_eq_some h).1
  obtain ⟨user, hUser⟩ := Option.isSome_iff_exists.mp (lookup_isSome.mpr hUser)
  unfold updateMembership
  dsimp only
  rw [h]
  dsimp only
  rw [hUser]
  dsimp only
  constructor
  · rintro ⟨read, hRun⟩
    obtain ⟨role, hRole, hRun⟩ := exists_of_bind_eq_ok hRun
    obtain ⟨status, hStatus, hRun⟩ := exists_of_bind_eq_ok hRun
    obtain ⟨written, hWritten, hResult⟩ := bind_pure_eq_ok.mp hRun
    obtain ⟨hRoleFits, rfl⟩ := updateColumn_eq_ok.mp hRole
    obtain ⟨hStatusFits, rfl⟩ := updateColumn_eq_ok.mp hStatus
    rw [(Prod.mk.inj hResult).1]
    exact ⟨⟨hRoleFits, hStatusFits⟩, commit_eq_ok.mp hWritten⟩
  · rintro ⟨⟨hRole, hStatus⟩, hRows⟩
    rw [bind_of_eq_ok (updateColumn_eq_ok.mpr ⟨hRole, rfl⟩),
      bind_of_eq_ok (updateColumn_eq_ok.mpr ⟨hStatus, rfl⟩)]
    exact ⟨_, bind_of_eq_ok (commit_eq_ok.mpr hRows) _⟩

theorem updates_of_ok (h : updateMembership tables claims membershipPublicId update = .ok result) :
    Updates tables.toUserRows claims.activeOrgId membershipPublicId update := by
  cases membershipPublicId with
  | none => exact nomatch h
  | some publicId =>
    cases hFound : tables.membershipOf publicId claims.activeOrgId with
    | none =>
      rw [updateMembership] at h
      dsimp only at h
      rw [hFound] at h
      exact nomatch h
    | some membership =>
      obtain ⟨⟨hRole, hStatus⟩, -⟩ := (updateMembership_ok hFound).mp ⟨result.2, h⟩
      exact ⟨⟨publicId, membership, rfl, hFound⟩, hRole, hStatus⟩

theorem exists_update (h : Updates tables.toUserRows claims.activeOrgId membershipPublicId update) :
    ∃ result, updateMembership tables claims membershipPublicId update = .ok result := by
  obtain ⟨publicId, membership, rfl, hFound⟩ := h.target
  have hConstraints := constraints_replace tables.constraints (membershipOf_eq_some hFound).1
    (rfl : (updatedMembership update membership).publicId = membership.publicId) rfl
  obtain ⟨read, hRun⟩ := (updateMembership_ok hFound).mpr
    ⟨⟨h.role, h.status⟩, (rfl : UserTables.toUserRows ⟨_, hConstraints⟩ = _)⟩
  exact ⟨_, hRun⟩

end Requests

section Calls

variable {tables : UserTables} {rows after : UserRows} {call : UserCall}
  {membership : OrganisationMembership} {request : UserRequest} {claims : AccessTokenClaims}
  {result : UserTables × MembershipRead} {text : String}

theorem request_returns_iff : (∃ result, request.run tables claims = .ok result) ↔
    request.Accepted tables.toUserRows claims.activeOrgId := by
  cases request with
  | invite keys payload => exact ⟨fun ⟨_, hRun⟩ => invites_of_ok hRun, exists_invite⟩
  | update membershipPublicId payload => exact ⟨fun ⟨_, hRun⟩ => updates_of_ok hRun, exists_update⟩

theorem run_eq_ok : call.run tables = .ok result ↔
    ∃ actor, (call.actor tables.toUserRows = some actor ∧
      .manageUsers ∈ heldPermissions actor.role) ∧
      call.request.run tables ⟨call.userId, call.activeOrgId, actor.role⟩ = .ok result := by
  unfold UserCall.run
  cases call.actor tables.toUserRows with
  | none => exact iff_of_false (fun h => nomatch h) fun ⟨_, h, _⟩ => nomatch h.1
  | some actor =>
    constructor
    · intro h
      obtain ⟨claims, hClaims, hRun⟩ := exists_of_bind_eq_ok h
      obtain ⟨hHeld, rfl⟩ := requirePermission_eq_ok.mp hClaims
      exact ⟨actor, ⟨rfl, hHeld⟩, hRun⟩
    · rintro ⟨other, ⟨hOther, hHeld⟩, hRun⟩
      obtain rfl := Option.some.inj hOther
      exact (bind_of_eq_ok (requirePermission_eq_ok.mpr ⟨hHeld, rfl⟩) _).trans hRun

theorem run_returns_iff : (∃ result, call.run tables = .ok result) ↔
    GoesThrough tables.toUserRows call := by
  constructor
  · rintro ⟨result, h⟩
    obtain ⟨actor, hActor, hRun⟩ := run_eq_ok.mp h
    exact ⟨⟨actor, hActor⟩, request_returns_iff.mp ⟨result, hRun⟩⟩
  · rintro ⟨⟨actor, hActor⟩, hAccepted⟩
    obtain ⟨result, hRun⟩ :=
      (@request_returns_iff tables call.request ⟨call.userId, call.activeOrgId, actor.role⟩).mpr
        hAccepted
    exact ⟨result, run_eq_ok.mpr ⟨actor, hActor, hRun⟩⟩

theorem not_gives_self : ¬Gives rows rows membership := fun h => h.2 membership h.1 rfl rfl

theorem exists_old_of_not_gives (hMem : membership ∈ after.memberships)
    (h : ¬Gives rows after membership) : ∃ old ∈ rows.memberships, old.role = membership.role := by
  by_contra hNone
  exact h ⟨hMem, fun old hOld _ hRole => hNone ⟨old, hOld, hRole⟩⟩

theorem eq_of_cutVarchar {role : Role} (h : cutVarchar 32 text = role.value) : text = role.value :=
  (cutVarchar_eq role.value_length).mp h

theorem cutVarchar_role (role : Role) : cutVarchar 32 role.value = role.value :=
  (cutVarchar_eq role.value_length).mpr rfl

/-- The memberships after an invitation. -/
theorem memberships_of_invite {keys : NewKeys} {payload : UserInvite}
    (h : inviteUser tables keys claims payload = .ok result) : ∃ user, result.1.memberships =
      tables.memberships ++ [newMembership keys claims.activeOrgId payload user] := by
  obtain ⟨invited, hInvited, -, hRows, -⟩ := inviteUser_eq_ok.mp h
  rw [hRows, memberships_of_invitedUser hInvited]
  exact ⟨invited.2, rfl⟩

/-- The membership that an update is about, and the memberships after it. -/
theorem memberships_of_update {membershipPublicId : Option ℕ} {update : MembershipUpdate}
    (h : updateMembership tables claims membershipPublicId update = .ok result) :
    ∃ publicId membership,
      membershipPublicId = some publicId ∧ tables.membershipOf publicId claims.activeOrgId =
        some membership ∧ Fits 32 update.role ∧ result.1.memberships =
          replace OrganisationMembership.publicId (updatedMembership update membership)
            tables.memberships := by
  obtain ⟨publicId, membership, rfl, hFound⟩ := (updates_of_ok h).target
  obtain ⟨⟨hRole, -⟩, hRows⟩ := (updateMembership_ok hFound).mp ⟨result.2, h⟩
  exact ⟨publicId, membership, rfl, hFound, hRole, by rw [hRows]⟩

theorem givenRole_update {userId organisationId publicId : ℕ} {update : MembershipUpdate}
    (hFound : rows.membershipOf publicId organisationId = some membership) :
    UserCall.givenRole rows ⟨userId, organisationId, .update (some publicId) update⟩ = some text ↔
      update.role = some (some text) ∧ text ≠ membership.role := by
  unfold UserCall.givenRole
  dsimp only [Option.bind_eq_bind, Option.bind_some]
  rw [hFound, Option.bind_some]
  cases update.role with
  | none => exact iff_of_false (fun h => nomatch h) fun h => nomatch h.1
  | some value =>
    cases value with
    | none => exact iff_of_false (fun h => nomatch h) fun h => nomatch Option.some.inj h.1
    | some role =>
      rw [Option.bind_some, Option.bind_some]
      split
      · rename_i hSame
        refine iff_of_false (fun h => nomatch h) ?_
        rintro ⟨hRole, hNe⟩
        exact hNe (Option.some.inj (Option.some.inj hRole) ▸ hSame)
      · rename_i hNe
        constructor
        · intro h
          obtain rfl := Option.some.inj h
          exact ⟨rfl, hNe⟩
        · intro h
          exact Option.some.inj h.1

theorem role_of_gives (hRoles : RolesCheckable tables.toUserRows) (h : call.run tables = .ok result)
    (hGives : Gives tables.toUserRows result.1.toUserRows membership) :
    ∃ text, call.givenRole tables.toUserRows = some text ∧
      membership.role = cutVarchar 32 text := by
  obtain ⟨userId, organisationId, request⟩ := call
  obtain ⟨actor, -, hRun⟩ := run_eq_ok.mp h
  cases request with
  | invite keys payload =>
    obtain ⟨user, hMemberships⟩ := memberships_of_invite hRun
    have hMem := hGives.1
    rw [hMemberships] at hMem
    obtain hOld | hNew := List.mem_append.mp hMem
    · exact absurd rfl (hGives.2 membership hOld rfl)
    · rw [List.mem_singleton.mp hNew]
      exact ⟨payload.role, rfl, rfl⟩
  | update membershipPublicId update =>
    obtain ⟨publicId, target, rfl, hFound, hFits, hMemberships⟩ := memberships_of_update hRun
    have hMem := hGives.1
    rw [hMemberships] at hMem
    obtain ⟨rfl, -⟩ | ⟨hOld, -⟩ := mem_replace hMem
    · have hChanged := hGives.2 target (membershipOf_eq_some hFound).1 rfl
      cases hRole : update.role with
      | none =>
        refine absurd ?_ hChanged
        rw [updatedMembership, hRole]
        rfl
      | some value =>
        obtain ⟨text, rfl, -⟩ := hFits value hRole
        have hStored : (updatedMembership update target).role = cutVarchar 32 text := by
          rw [updatedMembership, hRole]
          rfl
        refine ⟨text, (givenRole_update hFound).mpr ⟨hRole, ?_⟩, hStored⟩
        rintro rfl
        obtain ⟨role, hValue⟩ := checkable_iff.mp (hRoles target (membershipOf_eq_some hFound).1)
        rw [hStored, hValue, cutVarchar_role] at hChanged
        exact hChanged rfl
    · exact absurd rfl (hGives.2 membership hOld rfl)

theorem gives_of_given (hRoles : RolesCheckable tables.toUserRows)
    (h : call.run tables = .ok result) (hText : call.givenRole tables.toUserRows = some text) :
    ∃ membership, Gives tables.toUserRows result.1.toUserRows membership ∧
      membership.role = cutVarchar 32 text := by
  obtain ⟨userId, organisationId, request⟩ := call
  obtain ⟨actor, -, hRun⟩ := run_eq_ok.mp h
  cases request with
  | invite keys payload =>
    obtain ⟨user, hMemberships⟩ := memberships_of_invite hRun
    obtain rfl := Option.some.inj hText
    refine ⟨newMembership keys organisationId payload user, ⟨?_, fun old hOld hPublicId => ?_⟩, rfl⟩
    · rw [hMemberships]
      exact List.mem_append_right _ (List.mem_singleton_self _)
    · exact absurd (List.mem_map.mpr ⟨old, hOld, hPublicId⟩) (invites_of_ok hRun).publicId
  | update membershipPublicId update =>
    obtain ⟨publicId, target, rfl, hFound, -, hMemberships⟩ := memberships_of_update hRun
    obtain ⟨hRole, hNe⟩ := (givenRole_update hFound).mp hText
    have hTarget := (membershipOf_eq_some hFound).1
    have hStored : (updatedMembership update target).role = cutVarchar 32 text := by
      rw [updatedMembership, hRole]
      rfl
    refine ⟨updatedMembership update target, ⟨?_, fun old hOld hPublicId => ?_⟩, hStored⟩
    · rw [hMemberships]
      exact mem_replace_self hTarget rfl
    · rw [eq_of_key_eq tables.constraints.publicIds hOld hTarget hPublicId, hStored]
      intro hSame
      obtain ⟨role, hValue⟩ := checkable_iff.mp (hRoles target hTarget)
      rw [hValue] at hSame hNe
      exact hNe (eq_of_cutVarchar hSame.symm)

end Calls

section Privilege

variable {tables : UserTables} {call : UserCall} {text : String} {role : Role}

/-- The permissions of a role are those of a member who manages users, unless it is the owner's and
the member an admin. -/
theorem held_subset_iff (hHeld : .manageUsers ∈ heldPermissions text) :
    heldPermissions role.value ⊆ heldPermissions text ↔
      (role = .owner → text = Role.owner.value) := by
  obtain rfl | rfl := role_of_manageUsers hHeld
  · rw [heldPermissions_value, heldPermissions_value]
    exact iff_of_true subset_owner fun _ => rfl
  · rw [heldPermissions_value, heldPermissions_value, subset_admin]
    exact imp_congr_right fun _ => iff_of_false (fun h => h) (by decide)

theorem keepsPrivilege_iff (hRoles : RolesCheckable tables.toUserRows) :
    KeepsPrivilege tables call ↔ GrantsWithin tables call := by
  constructor
  · intro hKeeps hThrough text hText
    obtain ⟨result, hRun⟩ := run_returns_iff.mpr hThrough
    have hAfter : call.after tables = result.1 := by rw [UserCall.after, hRun]
    obtain ⟨membership, hGives, hRole⟩ := gives_of_given hRoles hRun hText
    rw [← hAfter] at hGives
    obtain ⟨role, hValue⟩ := checkable_iff.mp (hKeeps.roles membership hGives.1)
    obtain rfl := eq_of_cutVarchar (hRole.symm.trans hValue)
    obtain ⟨actor, hActor, hHeld⟩ := hThrough.1
    have hSubset := hKeeps.grants actor hActor membership hGives
    rw [hValue, held_subset_iff hHeld] at hSubset
    exact ⟨role, rfl, fun hOwner => ⟨actor, hActor, hSubset hOwner⟩⟩
  · intro hWithin
    cases hRun : call.run tables with
    | error refusal =>
      have hAfter : call.after tables = tables := by rw [UserCall.after, hRun]
      refine ⟨hAfter.symm ▸ hRoles, fun actor hActor membership hGives => ?_⟩
      rw [hAfter] at hGives
      exact absurd hGives not_gives_self
    | ok result =>
      have hAfter : call.after tables = result.1 := by rw [UserCall.after, hRun]
      have hThrough := run_returns_iff.mp ⟨result, hRun⟩
      have hGiven : ∀ membership, Gives tables.toUserRows result.1.toUserRows membership →
          ∃ role : Role, membership.role = role.value ∧ (role = .owner →
            ∃ actor, call.actor tables.toUserRows = some actor ∧
              actor.role = Role.owner.value) := by
        intro membership hGives
        obtain ⟨text, hText, hRole⟩ := role_of_gives hRoles hRun hGives
        obtain ⟨role, rfl, hOwner⟩ := hWithin hThrough text hText
        exact ⟨role, hRole.trans (cutVarchar_role role), hOwner⟩
      constructor
      · rw [hAfter]
        intro membership hMem
        by_cases hGives : Gives tables.toUserRows result.1.toUserRows membership
        · obtain ⟨role, hRole, -⟩ := hGiven membership hGives
          exact checkable_iff.mpr ⟨role, hRole⟩
        · obtain ⟨old, hOld, hRole⟩ := exists_old_of_not_gives hMem hGives
          exact hRole ▸ hRoles old hOld
      · rw [hAfter]
        intro actor hActor membership hGives
        obtain ⟨role, hRole, hOwner⟩ := hGiven membership hGives
        obtain ⟨same, hSame, hHeld⟩ := hThrough.1
        obtain rfl := Option.some.inj (hActor.symm.trans hSame)
        rw [hRole, held_subset_iff hHeld]
        intro hIsOwner
        obtain ⟨same, hSame, hOwns⟩ := hOwner hIsOwner
        rwa [Option.some.inj (hActor.symm.trans hSame)]

/-- In every run of calls, the members stay within their privilege exactly when they grant the roles
within it. -/
theorem privilege_kept_iff (tables : UserTables) (hRoles : RolesCheckable tables.toUserRows)
    (calls : List UserCall) :
    EveryStep (fun tables call => call.after tables) KeepsPrivilege tables calls ↔
      EveryStep (fun tables call => call.after tables) GrantsWithin tables calls :=
  @EveryStep.congr_of_inv _ _ _ _ _ (fun tables => RolesCheckable tables.toUserRows) _ _
    (fun _ _ hRoles => keepsPrivilege_iff hRoles) (fun _ _ _ hKeeps => hKeeps.roles) hRoles

end Privilege

def founder : User := ⟨1, 1, "Nomsa", "Dube", "nomsa@example.com"⟩

def deputy : User := ⟨2, 2, "Pieter", "Botha", "pieter@example.com"⟩

/-- An organisation with an owner and an admin. -/
def bakery : UserTables where
  users := [founder, deputy]
  memberships := [⟨1, 1, 1, "owner", "active"⟩, ⟨2, 2, 1, "admin", "active"⟩]
  constraints := by decide

/-- The admin gives a role to the own membership. -/
def takesRole (text : String) : UserCall := ⟨2, 1, .update (some 2) ⟨some (some text), none⟩⟩

theorem bakery_checkable : RolesCheckable bakery.toUserRows := by
  intro membership hMem
  obtain rfl | hMem := List.mem_cons.mp hMem
  · exact checkable_iff.mpr ⟨.owner, rfl⟩
  · obtain rfl := List.mem_singleton.mp hMem
    exact checkable_iff.mpr ⟨.admin, rfl⟩

theorem takesRole_owner : ((takesRole "owner").after bakery).memberships =
    [⟨1, 1, 1, "owner", "active"⟩, ⟨2, 2, 1, "owner", "active"⟩] := by
  decide

theorem takesRole_superuser : ((takesRole "superuser").after bakery).memberships =
    [⟨1, 1, 1, "owner", "active"⟩, ⟨2, 2, 1, "superuser", "active"⟩] := by
  decide

/-- An admin becomes an owner, or gets a role that no check can read. -/
theorem admin_escalates : RolesCheckable bakery.toUserRows ∧
    ¬EveryStep (fun tables call => call.after tables) KeepsPrivilege bakery [takesRole "owner"] ∧
    ¬EveryStep (fun tables call => call.after tables) KeepsPrivilege bakery [takesRole "superuser"] := by
  refine ⟨bakery_checkable, fun h => ?_, fun h => ?_⟩
  · have hGives : Gives bakery.toUserRows ((takesRole "owner").after bakery).toUserRows
        ⟨2, 2, 1, "owner", "active"⟩ := by
      refine ⟨?_, by decide⟩
      rw [takesRole_owner]
      exact List.mem_cons_of_mem _ (List.mem_singleton_self _)
    exact absurd (h.1.grants ⟨2, 2, 1, "admin", "active"⟩ (by decide) _ hGives) (by decide)
  · have hMem : ⟨2, 2, 1, "superuser", "active"⟩ ∈
        ((takesRole "superuser").after bakery).memberships := by
      rw [takesRole_superuser]
      exact List.mem_cons_of_mem _ (List.mem_singleton_self _)
    obtain ⟨role, hRole⟩ := checkable_iff.mp (h.1.roles _ hMem)
    revert hRole
    cases role <;> decide

theorem bakery_privilege_kept_iff :
    EveryStep (fun tables call => call.after tables) KeepsPrivilege bakery
      [takesRole "finance", takesRole "admin"] ↔
      EveryStep (fun tables call => call.after tables) GrantsWithin bakery
        [takesRole "finance", takesRole "admin"] :=
  privilege_kept_iff bakery bakery_checkable [takesRole "finance", takesRole "admin"]

end ProcureFoundation.Users
