import ProcureFoundation.Users.AccessTokens
import ProcureFoundation.Users.GrantedRoles

/-!
# Accounts

Users register with an organisation of their own, log in to one of the organisations that they are
active members of, and switch between these. Each of the three makes a pair of tokens for one
membership. What a transaction sees of the memberships depends on the user and the organisation that
it has set.
-/

namespace ProcureFoundation.Users

open Outcome KeyedRows

structure Organisation where
  id : ℕ
  publicId : ℕ
  name : String

/-- The columns of a user that the sign-in reads and writes. -/
structure Credential where
  passwordHash : String
  active : Bool
  lastLoginAt : Option ℚ≥0

structure RefreshToken where
  userId : ℕ
  familyId : String
  tokenHash : String
  revoked : Bool
  expiresAt : ℚ≥0

structure AuditLog where
  organisationId : ℕ
  userId : ℕ
  action : String
  entityType : String
  entityId : String

/-- The credentials go by the identifier of the user, the creation of a membership by its public
identifier. -/
structure AccountRows where
  tables : UserTables
  credential : ℕ → Credential
  createdAt : ℕ → ℚ≥0
  organisations : List Organisation
  refreshTokens : List RefreshToken
  auditLogs : List AuditLog

structure AccountRows.Constraints (rows : AccountRows) : Prop where
  organisationIds : (rows.organisations.map Organisation.id).Nodup
  organisationPublicIds : (rows.organisations.map Organisation.publicId).Nodup
  tokenHashes : (rows.refreshTokens.map RefreshToken.tokenHash).Nodup
  tokenUsers : ∀ token ∈ rows.refreshTokens, token.userId ∈ rows.tables.users.map User.id
  organisations : ∀ membership ∈ rows.tables.memberships,
    membership.organisationId ∈ rows.organisations.map Organisation.id

instance (rows : AccountRows) : Decidable rows.Constraints :=
  decidable_of_iff ((rows.organisations.map Organisation.id).Nodup ∧
    (rows.organisations.map Organisation.publicId).Nodup ∧
    (rows.refreshTokens.map RefreshToken.tokenHash).Nodup ∧
      (∀ token ∈ rows.refreshTokens, token.userId ∈ rows.tables.users.map User.id) ∧
        ∀ membership ∈ rows.tables.memberships,
        membership.organisationId ∈ rows.organisations.map Organisation.id)
    ⟨fun ⟨h1, h2, h3, h4, h5⟩ => ⟨h1, h2, h3, h4, h5⟩, fun h => ⟨h.1, h.2, h.3, h.4, h.5⟩⟩

structure Accounts extends AccountRows where
  constraints : toAccountRows.Constraints

def AccountRows.commit (rows : AccountRows) : Except Refusal Accounts :=
  if h : rows.Constraints then .ok ⟨rows, h⟩
    else .error (.database "the tables violate a constraint")

/-- What a transaction has set for the policies of the memberships. -/
structure RowContext where
  currentUserId : Option ℕ
  currentOrgId : Option ℕ

def RowContext.unset : RowContext := ⟨none, none⟩

def RowContext.setCurrentUserId (context : RowContext) (userId : ℕ) : RowContext :=
  { context with currentUserId := some userId }

def RowContext.setCurrentOrgId (context : RowContext) (organisationId : ℕ) : RowContext :=
  { context with currentOrgId := some organisationId }

def tenantIsolation (context : RowContext) (membership : OrganisationMembership) : Bool :=
  context.currentOrgId = some membership.organisationId

def selfMembershipSelect (context : RowContext) (membership : OrganisationMembership) : Bool :=
  context.currentUserId = some membership.userId

/-- A row is selected under either policy. -/
def selectMemberships (context : RowContext) (rows : UserRows) : List OrganisationMembership :=
  rows.memberships.filter fun membership => tenantIsolation context membership ||
    selfMembershipSelect context membership

/-- A row is inserted under the policy for all commands. -/
def insertMembership (context : RowContext) (rows : UserRows)
    (membership : OrganisationMembership) : Except Refusal UserRows :=
  if tenantIsolation context membership then
    .ok { rows with memberships := rows.memberships ++ [membership] }
  else .error (.database
    "new row violates row-level security policy for table \"organisation_memberships\"")

/-- The hashes, of passwords with a salt. -/
structure Hashing where
  hashPassword : String → String → String
  verifyPassword : String → String → Bool
  hashToken : String → String

structure App where
  settings : Settings
  jwt : Jwt
  hashing : Hashing

structure TokenPair where
  accessToken : String
  refreshToken : String

/-- The lengths are those that the schema demands. -/
structure RegisterRequest where
  firstName : String
  lastName : String
  email : String
  password : String
  organisationName : String
  firstNameLength : 1 ≤ firstName.length ∧ firstName.length ≤ 128
  lastNameLength : 1 ≤ lastName.length ∧ lastName.length ≤ 128
  passwordLength : 12 ≤ password.length ∧ password.length ≤ 256
  organisationNameLength : 1 ≤ organisationName.length ∧ organisationName.length ≤ 255

structure LoginRequest where
  email : String
  password : String

/-- What is generated for a registration. -/
structure RegisterKeys extends NewKeys where
  organisationId : ℕ
  organisationPublicId : ℕ
  salt : String
  familyId : String

inductive RegisterRefusal where
  | registrationDisabled (message : String)
  | refused (refusal : Refusal)

def AccountRows.organisationOf (rows : AccountRows) (id : ℕ) : Option Organisation :=
  lookup Organisation.id rows.organisations id

section Services

variable (app : App)

def issueTokens (rows : AccountRows) (claims : AccessTokenClaims) (familyId : String) (now : ℚ≥0) :
    AccountRows × TokenPair :=
  let refreshToken := app.jwt.encode (refreshPayload app.settings claims.userId familyId now)
  let stored : RefreshToken := ⟨claims.userId, familyId, app.hashing.hashToken refreshToken, false,
    now + app.settings.refreshTokenExpireDays * 86400⟩
  ({ rows with refreshTokens := rows.refreshTokens ++ [stored] },
    ⟨app.jwt.encode (accessPayload app.settings claims now), refreshToken⟩)

def RegisterRequest.newUser (payload : RegisterRequest) (keys : RegisterKeys) : User :=
  ⟨keys.userId, keys.userPublicId, payload.firstName, payload.lastName, payload.email⟩

def RegisterKeys.founding (keys : RegisterKeys) : OrganisationMembership :=
  ⟨keys.membershipPublicId, keys.userId, keys.organisationId, Role.owner.value,
    MembershipStatus.active.value⟩

def RegisterKeys.claims (keys : RegisterKeys) : AccessTokenClaims :=
  ⟨keys.userId, keys.organisationId, Role.owner.value⟩

/-- The transaction of a registration. -/
def enrol (accounts : Accounts) (keys : RegisterKeys) (payload : RegisterRequest) (now : ℚ≥0) :
    Except Refusal (Accounts × TokenPair) := do
  let enrolled ← addUser accounts.tables.toUserRows (payload.newUser keys)
  let name ← writeText 255 payload.organisationName
  let context := (RowContext.unset.setCurrentUserId keys.userId).setCurrentOrgId keys.organisationId
  let founded ← insertMembership context enrolled keys.founding
  let tables ← founded.commit
  let issued := issueTokens app {
    tables
    credential := Function.update accounts.credential keys.userId
      ⟨app.hashing.hashPassword keys.salt payload.password, true, none⟩
    createdAt := Function.update accounts.createdAt keys.membershipPublicId now
    organisations :=
      accounts.organisations ++ [⟨keys.organisationId, keys.organisationPublicId, name⟩]
    refreshTokens := accounts.refreshTokens
    auditLogs := accounts.auditLogs ++
      [⟨keys.organisationId, keys.userId, "organisation_registered", "organisation",
      keys.organisationId.repr⟩] } keys.claims keys.familyId now
  let committed ← issued.1.commit
  return (committed, issued.2)

def register (accounts : Accounts) (keys : RegisterKeys) (payload : RegisterRequest) (now : ℚ≥0) :
    Except RegisterRefusal (Accounts × TokenPair) :=
  if app.settings.allowSelfRegistration then
    match accounts.tables.userOf payload.email with
    | some _ => .error (.refused (.conflict "An account with this email already exists"))
    | none => (enrol app accounts keys payload now).mapError .refused
  else .error (.registrationDisabled "Self-registration is disabled in this environment.")

/-- The active membership of a user that was created first, of those that the transaction sees. -/
def firstMembership (context : RowContext) (accounts : Accounts) (userId : ℕ) :
    Option OrganisationMembership :=
  List.argmin (fun membership => accounts.createdAt membership.publicId)
    ((selectMemberships context accounts.tables.toUserRows).filter fun membership =>
      membership.userId = userId ∧ membership.status = MembershipStatus.active.value)

/-- What a login reads before it makes tokens. -/
def loginClaims (accounts : Accounts) (payload : LoginRequest) : Except Refusal AccessTokenClaims :=
  match accounts.tables.userOf payload.email with
  | none => .error (.authentication "Invalid email or password")
  | some user =>
    if (accounts.credential user.id).active = true ∧
        app.hashing.verifyPassword payload.password (accounts.credential user.id).passwordHash =
          true then
      match firstMembership (RowContext.unset.setCurrentUserId user.id) accounts user.id with
      | none => .error (.authentication "No active organisation membership for this user")
      | some membership => .ok ⟨user.id, membership.organisationId, membership.role⟩
    else .error (.authentication "Invalid email or password")

/-- The membership of a user in the organisation of a public identifier, of those that the
transaction sees. -/
def membershipIn (context : RowContext) (accounts : Accounts) (userId organisationPublicId : ℕ) :
    Option OrganisationMembership :=
  (selectMemberships context accounts.tables.toUserRows).find? fun membership =>
    membership.userId = userId ∧
    (accounts.organisationOf membership.organisationId).any (fun organisation =>
      organisation.publicId = organisationPublicId) = true

/-- What a switch of the organisation reads before it makes tokens. -/
def switchClaims (accounts : Accounts) (userId organisationPublicId : ℕ) :
    Except Refusal AccessTokenClaims :=
  match membershipIn (RowContext.unset.setCurrentUserId userId) accounts userId organisationPublicId with
  | none => .error (.permissionDenied "No membership found for the requested organisation")
  | some membership =>
    if membership.status = MembershipStatus.active.value then
      .ok ⟨userId, membership.organisationId, membership.role⟩
    else .error (.permissionDenied "Membership is not active")

inductive SignIn where
  | login
  | switchOrg

/-- The claims that a sign-in has read, before it makes tokens for them. -/
structure PendingSignIn where
  signIn : SignIn
  claims : AccessTokenClaims

def PendingSignIn.writes (pending : PendingSignIn) (rows : AccountRows) (now : ℚ≥0) : AccountRows :=
  match pending.signIn with
  | .login => { rows with
      credential := Function.update rows.credential pending.claims.userId
        { rows.credential pending.claims.userId with lastLoginAt := some now } }
  | .switchOrg => { rows with
      auditLogs :=
        rows.auditLogs ++ [⟨pending.claims.activeOrgId, pending.claims.userId, "org_context_switch",
          "organisation", pending.claims.activeOrgId.repr⟩] }

def PendingSignIn.complete (pending : PendingSignIn) (accounts : Accounts) (familyId : String)
    (now : ℚ≥0) : Except Refusal (Accounts × TokenPair) := do
  let issued :=
    issueTokens app (pending.writes accounts.toAccountRows now) pending.claims familyId now
  let committed ← issued.1.commit
  return (committed, issued.2)

/-- The placeholder password of a user who is invited, and its salt. -/
structure Placeholder where
  salt : String
  password : String

/-- The tables after a request to the users API, with the other columns of the rows that it has
added. -/
def AccountRows.withTables (rows : AccountRows) (tables : UserTables) (placeholder : Placeholder)
    (now : ℚ≥0) : UserRequest → AccountRows
  | .invite keys payload => { rows with
      tables
      credential := if (rows.tables.userOf payload.email).isSome then rows.credential
        else Function.update rows.credential keys.userId
          ⟨app.hashing.hashPassword placeholder.salt placeholder.password, true, none⟩
      createdAt := Function.update rows.createdAt keys.membershipPublicId now }
  | .update .. => { rows with tables }

/-- A request to the users API with the claims of a member who may manage users. -/
def manageUsers (accounts : Accounts) (claims : AccessTokenClaims) (placeholder : Placeholder)
    (request : UserRequest) (now : ℚ≥0) : Except Refusal (Accounts × MembershipRead) := do
  let result ← request.run accounts.tables claims
  let committed ← (accounts.toAccountRows.withTables app result.1 placeholder now request).commit
  return (committed, result.2)

end Services

end ProcureFoundation.Users
