import ProcureFoundation.Users.Accounts
import ProcureFoundation.Foundation.RunMoments

/-!
# Runs of sign-ins and of the users API

Requests read and write in transactions of their own, so others can commit between what a request
reads and what it writes. The clock never goes back. In every run that presents no forged token, the
tokens that are taken were made for memberships that were active when the sign-in read them, and
only the organisation's own members change its memberships.
-/

namespace ProcureFoundation.Users

open Outcome KeyedRows

/-- What a request has read before it writes. -/
inductive PendingRequest where
  | signIn (pending : PendingSignIn)
  | manage (claims : AccessTokenClaims)

/-- The payloads are those of the tokens that have been handed out. -/
structure SignInState where
  now : ℚ≥0
  accounts : Accounts
  pending : ℕ → Option PendingRequest
  signed : List TokenPayload

/-- The requests are numbered. -/
inductive SignInAction where
  | register (keys : RegisterKeys) (payload : RegisterRequest)
  | login (request : ℕ) (payload : LoginRequest)
  | switchOrg (request : ℕ) (authorization : Option String) (organisationPublicId : ℕ)
  | complete (request : ℕ) (familyId : String)
  | authorise (request : ℕ) (authorization : Option String)
  | manage (request : ℕ) (placeholder : Placeholder) (userRequest : UserRequest)
  | abandon (request : ℕ)

structure SignInEvent where
  delay : ℚ≥0
  action : SignInAction

def signedPayloads (settings : Settings) (claims : AccessTokenClaims) (familyId : String)
    (now : ℚ≥0) : List TokenPayload :=
  [accessPayload settings claims now, refreshPayload settings claims.userId familyId now]

namespace SignInState

def wait (state : SignInState) (delay : ℚ≥0) : SignInState :=
  { state with now := state.now + delay }

def put (state : SignInState) (request : ℕ) (pending : Option PendingRequest) : SignInState :=
  { state with pending := Function.update state.pending request pending }

/-- A commit, with the tokens that it hands out. -/
def commit (state : SignInState) (accounts : Accounts) (payloads : List TokenPayload) :
    SignInState :=
  { state with accounts, signed := state.signed ++ payloads }

/-- The claims that a request to the users API is made with. -/
def managingClaims (app : App) (state : SignInState) (authorization : Option String) :
    Except Refusal AccessTokenClaims := do
  let decoded ← getCurrentClaims app.jwt state.now authorization
  requirePermission .manageUsers decoded.toAccessTokenClaims

def switchingClaims (app : App) (state : SignInState) (authorization : Option String)
    (organisationPublicId : ℕ) : Except Refusal AccessTokenClaims := do
  let decoded ← getCurrentClaims app.jwt state.now authorization
  switchClaims state.accounts decoded.userId organisationPublicId

/-- A request that raises leaves nothing behind. -/
def act (app : App) (state : SignInState) : SignInAction → SignInState
  | .register keys payload =>
    match register app state.accounts keys payload state.now with
    | .error _ => state
    | .ok result =>
      state.commit result.1 (signedPayloads app.settings keys.claims keys.familyId state.now)
  | .login request payload =>
    match loginClaims app state.accounts payload with
    | .error _ => state
    | .ok claims => state.put request (some (.signIn ⟨.login, claims⟩))
  | .switchOrg request authorization organisationPublicId =>
    match state.switchingClaims app authorization organisationPublicId with
    | .error _ => state
    | .ok claims => state.put request (some (.signIn ⟨.switchOrg, claims⟩))
  | .complete request familyId =>
    match state.pending request with
    | some (.signIn pending) =>
      match pending.complete app state.accounts familyId state.now with
      | .error _ => state.put request none
      | .ok result => (state.put request none).commit result.1
          (signedPayloads app.settings pending.claims familyId state.now)
    | some (.manage _) | none => state
  | .authorise request authorization =>
    match state.managingClaims app authorization with
    | .error _ => state
    | .ok claims => state.put request (some (.manage claims))
  | .manage request placeholder userRequest =>
    match state.pending request with
    | some (.manage claims) =>
      match manageUsers app state.accounts claims placeholder userRequest state.now with
      | .error _ => state.put request none
      | .ok result => (state.put request none).commit result.1 []
    | some (.signIn _) | none => state
  | .abandon request => state.put request none

def step (app : App) (state : SignInState) (event : SignInEvent) : SignInState :=
  (state.wait event.delay).act app event.action

/-- Nobody has signed in, and no request is under way. -/
structure Fresh (state : SignInState) : Prop where
  signed : state.signed = []
  pending : ∀ request, state.pending request = none

/-- The claims are those of an active membership. -/
def HasActive (state : SignInState) (claims : AccessTokenClaims) : Prop :=
  ∃ membership ∈ state.accounts.tables.memberships, membership.userId = claims.userId ∧
    membership.organisationId = claims.activeOrgId ∧ membership.role = claims.role ∧
      membership.status = MembershipStatus.active.value

def membershipsOf (state : SignInState) (organisationId : ℕ) : List OrganisationMembership :=
  state.accounts.tables.memberships.filter fun membership => membership.organisationId =
    organisationId

end SignInState

/-- The token of the header, if its signature is valid, is one of those that have been handed out.
-/
def Unforged (app : App) (signed : List TokenPayload) (authorization : Option String) : Prop :=
  ∀ token payload, bearerToken authorization = some token → app.jwt.signed token = some payload →
    payload ∈ signed

def SignInAction.authorization : SignInAction → Option String
  | .switchOrg _ authorization _ | .authorise _ authorization => authorization
  | .register .. | .login .. | .complete .. | .manage .. | .abandon .. => none

def PresentsSigned (app : App) (state : SignInState) (event : SignInEvent) : Prop :=
  Unforged app state.signed event.action.authorization

def Settings.lifetime (settings : Settings) : ℕ := settings.accessTokenExpireMinutes * 60

/-- The header bears the token that was made for the claims at the moment. -/
def Bears (app : App) (authorization : Option String) (claims : AccessTokenClaims) (moment : ℚ≥0) :
    Prop :=
  ∃ token, bearerToken authorization = some token ∧
    app.jwt.signed token = some (accessPayload app.settings claims moment)

/-- The request that reads a membership to sign in with. -/
def SignInAction.signingIn : SignInAction → Option ℕ
  | .login request _ | .switchOrg request _ _ => some request
  | .register .. | .complete .. | .authorise .. | .manage .. | .abandon .. => none

section Tokens

variable (app : App) (start : SignInState) (claims : AccessTokenClaims) (past : List SignInEvent)
  (event : SignInEvent)

/-- The request read the claims of a sign-in from a membership that was active. -/
structure ReadsActive (request : ℕ) (pending : PendingSignIn) : Prop where
  action : event.action.signingIn = some request
  active : ((runFrom (SignInState.step app) start past).wait event.delay).HasActive pending.claims
  read : (runFrom (SignInState.step app) start (past ++ [event])).pending request =
    some (.signIn pending)

/-- A registration makes a token for the membership that it founds, a sign-in for the one that it
has read. -/
inductive Issues : Prop where
  | registers (keys : RegisterKeys) (payload : RegisterRequest)
      (hAction : event.action = .register keys payload) (hClaims : keys.claims = claims)
      (hActive : (runFrom (SignInState.step app) start (past ++ [event])).HasActive claims)
  | completes (request : ℕ) (familyId : String) (signIn : SignIn)
      (hAction : event.action = .complete request familyId)
      (hPending : (runFrom (SignInState.step app) start past).pending request =
        some (.signIn ⟨signIn, claims⟩))
      (hRead : OneStep (fun earlier reading =>
        ReadsActive app start earlier reading request ⟨signIn, claims⟩) past)

/-- A request of the run has made a token for the claims at the moment. -/
def Granted (events : List SignInEvent) (moment : ℚ≥0) : Prop :=
  OneStep (fun past event => Issues app start claims past event ∧
    moment = (runFrom (SignInState.step app) start past).now + event.delay) events

/-- The request was taken with a token of the run for the claims, which may manage users. -/
structure Authorises (request : ℕ) (authorization : Option String) (moment : ℚ≥0) : Prop where
  action : event.action = .authorise request authorization
  held : .manageUsers ∈ heldPermissions claims.role
  granted : Granted app start claims past moment
  bears : Bears app authorization claims moment
  taken : getCurrentClaims app.jwt ((runFrom (SignInState.step app) start past).now + event.delay)
    authorization = .ok (claimsAt app.settings claims moment)

/-- What has let the request manage users under the claims. -/
def Authorised (events : List SignInEvent) (request : ℕ) : Prop :=
  OneStep (fun past event => ∃ authorization moment,
    Authorises app start claims past event request authorization moment)
    events

end Tokens

section Reads

variable {app : App} {accounts : Accounts} {claims : AccessTokenClaims} {context : RowContext}
  {membership : OrganisationMembership} {userId organisationPublicId : ℕ} {state : SignInState}

theorem mem_of_select {rows : UserRows} (h : membership ∈ selectMemberships context rows) :
    membership ∈ rows.memberships :=
  (List.mem_filter.mp h).1

theorem active_of_firstMembership (h : firstMembership context accounts userId = some membership) :
    membership ∈ accounts.tables.memberships ∧ membership.userId = userId ∧
      membership.status = MembershipStatus.active.value := by
  obtain ⟨hMem, hFound⟩ := List.mem_filter.mp (List.argmin_mem h)
  exact ⟨mem_of_select hMem, of_decide_eq_true hFound⟩

theorem active_of_loginClaims {payload : LoginRequest}
    (h : loginClaims app state.accounts payload = .ok claims) : state.HasActive claims := by
  unfold loginClaims at h
  split at h
  · exact nomatch h
  · split at h
    · split at h
      · exact nomatch h
      · rename_i membership hFirst
        obtain rfl := Except.ok.inj h
        obtain ⟨hMem, hUser, hActive⟩ := active_of_firstMembership hFirst
        exact ⟨membership, hMem, hUser, rfl, rfl, hActive⟩
    · exact nomatch h

theorem active_of_switchClaims
    (h : switchClaims state.accounts userId organisationPublicId = .ok claims) :
    state.HasActive claims := by
  unfold switchClaims at h
  split at h
  · exact nomatch h
  · rename_i membership hFound
    split at h
    · rename_i hActive
      obtain rfl := Except.ok.inj h
      have hMatches := List.find?_some hFound
      exact ⟨membership, mem_of_select (List.mem_of_find?_eq_some hFound),
        (of_decide_eq_true hMatches).1, rfl, rfl, hActive⟩
    · exact nomatch h

end Reads

section Writes

variable {app : App} {accounts committed : Accounts} {claims : AccessTokenClaims}
  {keys : RegisterKeys} {payload : RegisterRequest} {now : ℚ≥0} {familyId : String}
  {pending : PendingSignIn} {placeholder : Placeholder} {request : UserRequest} {rows : AccountRows}
  {tokens : TokenPair} {read : MembershipRead} {organisationId : ℕ}

theorem accountCommit_eq_ok : rows.commit = .ok committed ↔ committed.toAccountRows = rows := by
  unfold AccountRows.commit
  constructor
  · intro h
    split at h
    · rw [← Except.ok.inj h]
    · exact nomatch h
  · rintro rfl
    rw [dif_pos committed.constraints]

theorem insert_founding {rows : UserRows} :
    insertMembership
      ((RowContext.unset.setCurrentUserId keys.userId).setCurrentOrgId keys.organisationId) rows
      keys.founding = .ok { rows with memberships := rows.memberships ++ [keys.founding] } :=
  if_pos (decide_eq_true rfl)

/-- A registration adds the founding membership, in an organisation of its own. -/
theorem founded_of_enrol (h : enrol app accounts keys payload now = .ok (committed, tokens)) :
    committed.tables.memberships = accounts.tables.memberships ++ [keys.founding] ∧
      keys.organisationId ∉ accounts.organisations.map Organisation.id := by
  obtain ⟨enrolled, hEnrolled, h⟩ := exists_of_bind_eq_ok h
  obtain ⟨name, hName, h⟩ := exists_of_bind_eq_ok h
  obtain ⟨founded, hFounded, h⟩ := exists_of_bind_eq_ok h
  obtain ⟨tables, hTables, h⟩ := exists_of_bind_eq_ok h
  obtain ⟨written, hWritten, h⟩ := exists_of_bind_eq_ok h
  obtain ⟨rfl, -⟩ := Prod.mk.inj (Except.ok.inj h)
  rw [accountCommit_eq_ok] at hWritten
  obtain ⟨-, rfl⟩ := addUser_eq_ok.mp hEnrolled
  rw [insert_founding] at hFounded
  obtain rfl := Except.ok.inj hFounded
  constructor
  · rw [hWritten]
    exact congrArg UserRows.memberships (commit_eq_ok.mp hTables)
  · have hIds := written.constraints.organisationIds
    rw [hWritten] at hIds
    exact (nodup_map_append.mp hIds).2

theorem founded_of_register (h : register app accounts keys payload now = .ok (committed, tokens)) :
    committed.tables.memberships = accounts.tables.memberships ++ [keys.founding] ∧
      keys.organisationId ∉ accounts.organisations.map Organisation.id := by
  unfold register at h
  split at h
  · split at h
    · exact nomatch h
    · cases hEnrol : enrol app accounts keys payload now with
      | error refusal =>
        rw [hEnrol] at h
        exact nomatch h
      | ok result =>
        rw [hEnrol] at h
        obtain rfl := Except.ok.inj h
        exact founded_of_enrol hEnrol
  · exact nomatch h

theorem tables_of_complete (h : pending.complete app accounts familyId now = .ok (committed, tokens)) :
    committed.tables = accounts.tables := by
  obtain ⟨written, hWritten, h⟩ := exists_of_bind_eq_ok h
  obtain ⟨rfl, -⟩ := Prod.mk.inj (Except.ok.inj h)
  rw [accountCommit_eq_ok] at hWritten
  rw [hWritten]
  obtain ⟨signIn, claims⟩ := pending
  cases signIn with
  | login => rfl
  | switchOrg => rfl

theorem tables_of_withTables {tables : UserTables} :
    (rows.withTables app tables placeholder now request).tables = tables := by
  cases request with
  | invite keys payload => rfl
  | update membershipPublicId payload => rfl

theorem request_of_manage
    (h : manageUsers app accounts claims placeholder request now = .ok (committed, read)) :
    request.run accounts.tables claims = .ok (committed.tables, read) := by
  obtain ⟨result, hRun, h⟩ := exists_of_bind_eq_ok h
  obtain ⟨written, hWritten, h⟩ := exists_of_bind_eq_ok h
  obtain ⟨rfl, rfl⟩ := Prod.mk.inj (Except.ok.inj h)
  rw [accountCommit_eq_ok] at hWritten
  rw [hRun, hWritten, tables_of_withTables]

theorem membershipOf_organisation {rows : UserRows} {publicId : ℕ}
    {membership : OrganisationMembership}
    (h : rows.membershipOf publicId organisationId = some membership) :
    membership.organisationId = organisationId := by
  have hFound := List.find?_some h
  exact (of_decide_eq_true hFound).2

/-- A request changes the memberships of its own organisation only. -/
theorem kept_of_request {tables after : UserTables}
    (h : request.run tables claims = .ok (after, read))
    (hOther : claims.activeOrgId ≠ organisationId) :
    after.memberships.filter (fun membership => membership.organisationId = organisationId) =
      tables.memberships.filter fun membership => membership.organisationId = organisationId := by
  cases request with
  | invite keys payload =>
    obtain ⟨user, hMemberships⟩ := memberships_of_invite h
    rw [hMemberships, List.filter_append, List.filter_singleton]
    simp [newMembership, hOther]
  | update membershipPublicId payload =>
    obtain ⟨publicId, target, rfl, hFound, -, hMemberships⟩ := memberships_of_update h
    have hTarget := (membershipOf_eq_some hFound).1
    have hForeign : target.organisationId ≠ organisationId := by
      rw [membershipOf_organisation hFound]
      exact hOther
    rw [hMemberships]
    refine filter_replace (decide_eq_false hForeign) fun old hOld hKey => ?_
    rw [eq_of_key_eq tables.constraints.publicIds hOld hTarget hKey]
    exact decide_eq_false hForeign

end Writes

/-- What an action can do to the state. -/
inductive SignInState.Moves (app : App) (state : SignInState) (action : SignInAction) :
    SignInState → Prop where
  | stays : Moves app state action state
  | drops (request : ℕ) : Moves app state action (state.put request none)
  | founds (keys : RegisterKeys) (payload : RegisterRequest) (accounts : Accounts)
      (hAction : action = .register keys payload)
      (hMemberships : accounts.tables.memberships = state.accounts.tables.memberships ++
        [keys.founding])
      (hNew : keys.organisationId ∉ state.accounts.organisations.map Organisation.id) :
      Moves app state action
        (state.commit accounts (signedPayloads app.settings keys.claims keys.familyId state.now))
  | reads (request : ℕ) (pending : PendingSignIn) (hAction : action.signingIn = some request)
      (hActive : state.HasActive pending.claims) :
      Moves app state action (state.put request (some (.signIn pending)))
  | authorises (request : ℕ) (authorization : Option String) (claims : AccessTokenClaims)
      (hAction : action = .authorise request authorization)
      (hClaims : state.managingClaims app authorization = .ok claims) :
      Moves app state action (state.put request (some (.manage claims)))
  | signsIn (request : ℕ) (pending : PendingSignIn) (familyId : String) (accounts : Accounts)
      (hAction : action = .complete request familyId)
      (hPending : state.pending request = some (.signIn pending))
      (hTables : accounts.tables = state.accounts.tables) :
      Moves app state action ((state.put request none).commit accounts
        (signedPayloads app.settings pending.claims familyId state.now))
  | manages (request : ℕ) (placeholder : Placeholder) (userRequest : UserRequest)
      (claims : AccessTokenClaims) (accounts : Accounts) (read : MembershipRead)
      (hAction : action = .manage request placeholder userRequest)
      (hPending : state.pending request = some (.manage claims))
      (hRun : userRequest.run state.accounts.tables claims = .ok (accounts.tables, read)) :
      Moves app state action ((state.put request none).commit accounts [])

section Steps

variable {app : App} {state next : SignInState} {action : SignInAction}
  {authorization : Option String} {payload : TokenPayload} {claims : AccessTokenClaims}
  {request organisationId : ℕ} {pending : PendingSignIn}

theorem active_of_switchingClaims
    (h : state.switchingClaims app authorization organisationId = .ok claims) :
    state.HasActive claims := by
  obtain ⟨decoded, -, hSwitch⟩ := exists_of_bind_eq_ok h
  exact active_of_switchClaims hSwitch

theorem moves_act (app : App) (state : SignInState) (action : SignInAction) :
    state.Moves app action (state.act app action) := by
  cases action with
  | register keys payload =>
    rw [SignInState.act]
    cases hRun : register app state.accounts keys payload state.now with
    | error refusal => exact .stays
    | ok result =>
      obtain ⟨hMemberships, hNew⟩ := founded_of_register hRun
      exact .founds keys payload result.1 rfl hMemberships hNew
  | login request payload =>
    rw [SignInState.act]
    cases hRun : loginClaims app state.accounts payload with
    | error refusal => exact .stays
    | ok claims => exact .reads request ⟨.login, claims⟩ rfl (active_of_loginClaims hRun)
  | switchOrg request authorization organisationPublicId =>
    rw [SignInState.act]
    cases hRun : state.switchingClaims app authorization organisationPublicId with
    | error refusal => exact .stays
    | ok claims => exact .reads request ⟨.switchOrg, claims⟩ rfl (active_of_switchingClaims hRun)
  | complete request familyId =>
    rw [SignInState.act]
    cases hPending : state.pending request with
    | none => exact .stays
    | some read =>
      cases read with
      | manage claims => exact .stays
      | signIn pending =>
        dsimp only
        cases hRun : pending.complete app state.accounts familyId state.now with
        | error refusal => exact .drops request
        | ok result => exact .signsIn request pending familyId result.1 rfl hPending (tables_of_complete hRun)
  | authorise request authorization =>
    rw [SignInState.act]
    cases hRun : state.managingClaims app authorization with
    | error refusal => exact .stays
    | ok claims => exact .authorises request authorization claims rfl hRun
  | manage request placeholder userRequest =>
    rw [SignInState.act]
    cases hPending : state.pending request with
    | none => exact .stays
    | some read =>
      cases read with
      | signIn pending => exact .stays
      | manage claims =>
        dsimp only
        cases hRun : manageUsers app state.accounts claims placeholder userRequest state.now with
        | error refusal => exact .drops request
        | ok result =>
          exact .manages request placeholder userRequest claims result.1 result.2 rfl hPending
            (request_of_manage hRun)
  | abandon request => exact .drops request

theorem now_of_moves (h : state.Moves app action next) : next.now = state.now := by
  cases h <;> rfl

/-- What is pending was so before, or has been put there. -/
theorem pending_put {new old : Option PendingRequest} {changed : ℕ}
    (h : (state.put changed new).pending request = old) :
    state.pending request = old ∨ changed = request ∧ new = old := by
  dsimp only [SignInState.put] at h
  by_cases hSame : request = changed
  · rw [hSame, Function.update_self] at h
    exact .inr ⟨hSame.symm, h⟩
  · rw [Function.update_of_ne hSame] at h
    exact .inl h

theorem signIn_of_moves (h : state.Moves app action next)
    (hPending : next.pending request = some (.signIn pending)) :
    state.pending request = some (.signIn pending) ∨
      action.signingIn = some request ∧ state.HasActive pending.claims := by
  cases h with
  | stays => exact .inl hPending
  | founds keys payload accounts hAction hMemberships hNew => exact .inl hPending
  | drops changed => exact (pending_put hPending).imp_right fun hNone => nomatch hNone.2
  | signsIn changed other familyId accounts hAction hOther hTables =>
    exact (pending_put hPending).imp_right fun hNone => nomatch hNone.2
  | manages changed placeholder userRequest claims accounts read hAction hOther hRun =>
    exact (pending_put hPending).imp_right fun hNone => nomatch hNone.2
  | authorises changed header claims hAction hClaims =>
    exact (pending_put hPending).imp_right fun hOther => nomatch hOther.2
  | reads changed other hAction hActive =>
    refine (pending_put hPending).imp_right ?_
    rintro ⟨rfl, hSame⟩
    obtain rfl := PendingRequest.signIn.inj (Option.some.inj hSame)
    exact ⟨hAction, hActive⟩

/-- A request that manages users puts no sign-in under way. -/
theorem signIn_of_managing {event : SignInEvent} {placeholder : Placeholder}
    {userRequest : UserRequest} {changed : ℕ}
    (hAction : event.action = .manage changed placeholder userRequest)
    (hPending : (state.step app event).pending request = some (.signIn pending)) :
    state.pending request = some (.signIn pending) := by
  rw [SignInState.step, hAction, SignInState.act] at hPending
  split at hPending
  · split at hPending
    · exact (pending_put hPending).resolve_right fun hNone => nomatch hNone.2
    · exact (pending_put hPending).resolve_right fun hNone => nomatch hNone.2
  · exact hPending
  · exact hPending

theorem manage_of_moves (h : state.Moves app action next)
    (hPending : next.pending request = some (.manage claims)) :
    state.pending request = some (.manage claims) ∨
      ∃ authorization, action = .authorise request authorization ∧
        state.managingClaims app authorization = .ok claims := by
  cases h with
  | stays => exact .inl hPending
  | founds keys payload accounts hAction hMemberships hNew => exact .inl hPending
  | drops changed => exact (pending_put hPending).imp_right fun hNone => nomatch hNone.2
  | signsIn changed other familyId accounts hAction hOther hTables =>
    exact (pending_put hPending).imp_right fun hNone => nomatch hNone.2
  | manages changed placeholder userRequest other accounts read hAction hOther hRun =>
    exact (pending_put hPending).imp_right fun hNone => nomatch hNone.2
  | reads changed other hAction hActive => exact (pending_put hPending).imp_right fun hOther =>
    nomatch hOther.2
  | authorises changed authorization other hAction hClaims =>
    refine (pending_put hPending).imp_right ?_
    rintro ⟨rfl, hSame⟩
    obtain rfl := PendingRequest.manage.inj (Option.some.inj hSame)
    exact ⟨authorization, hAction, hClaims⟩

/-- New payloads are signed for a registration, or for a sign-in that is pending. -/
theorem signed_of_moves (h : state.Moves app action next) (hPayload : payload ∈ next.signed) :
    payload ∈ state.signed ∨ ∃ claims familyId,
      payload ∈ signedPayloads app.settings claims familyId state.now ∧
      ((∃ keys request, action = .register keys request ∧ keys.claims = claims ∧
        next.HasActive claims) ∨ ∃ request signIn, action = .complete request familyId ∧
          state.pending request = some (.signIn ⟨signIn, claims⟩)) := by
  cases h with
  | stays => exact .inl hPayload
  | drops changed => exact .inl hPayload
  | reads changed pending hAction hActive => exact .inl hPayload
  | authorises changed authorization claims hAction hClaims => exact .inl hPayload
  | manages changed placeholder userRequest claims accounts read hAction hPending hRun =>
    rw [SignInState.commit, List.append_nil] at hPayload
    exact .inl hPayload
  | founds keys request accounts hAction hMemberships hNew =>
    refine (List.mem_append.mp hPayload).imp_right fun hMade =>
      ⟨keys.claims, keys.familyId, hMade,
        .inl ⟨keys, request, hAction, rfl, keys.founding, ?_, rfl, rfl, rfl, rfl⟩⟩
    dsimp only [SignInState.commit]
    rw [hMemberships]
    exact List.mem_append_right _ (List.mem_singleton_self _)
  | signsIn changed pending familyId accounts hAction hPending hTables =>
    exact (List.mem_append.mp hPayload).imp_right fun hMade =>
      ⟨pending.claims, familyId, hMade, .inr ⟨changed, pending.signIn, hAction, hPending⟩⟩

/-- The memberships of an organisation change by a registration of the organisation, or by a
managing request in it. -/
theorem membershipsOf_of_moves (h : state.Moves app action next)
    (hKnown : organisationId ∈ state.accounts.organisations.map Organisation.id)
    (hChange : next.membershipsOf organisationId ≠ state.membershipsOf organisationId) :
    ∃ request placeholder userRequest claims, action = .manage request placeholder userRequest ∧
      state.pending request = some (.manage claims) ∧ claims.activeOrgId = organisationId := by
  cases h with
  | stays => exact absurd rfl hChange
  | drops changed => exact absurd rfl hChange
  | reads changed pending hAction hActive => exact absurd rfl hChange
  | authorises changed authorization claims hAction hClaims => exact absurd rfl hChange
  | founds keys payload accounts hAction hMemberships hNew =>
    refine absurd ?_ hChange
    have hForeign : keys.founding.organisationId ≠ organisationId := by
      rintro rfl
      exact hNew hKnown
    dsimp only [SignInState.membershipsOf, SignInState.commit]
    rw [hMemberships, List.filter_append, List.filter_singleton, decide_eq_false hForeign,
      cond_false, List.append_nil]
  | signsIn changed pending familyId accounts hAction hPending hTables =>
    refine absurd ?_ hChange
    dsimp only [SignInState.membershipsOf, SignInState.commit]
    rw [hTables]
  | manages changed placeholder userRequest claims accounts read hAction hPending hRun =>
    by_cases hOwn : claims.activeOrgId = organisationId
    · exact ⟨changed, placeholder, userRequest, claims, hAction, hPending, hOwn⟩
    · exact absurd (kept_of_request hRun hOwn) hChange

end Steps

section Runs

variable {app : App} {start : SignInState} {events later : List SignInEvent} {event : SignInEvent}
  {claims : AccessTokenClaims} {moment after : ℚ≥0} {authorization : Option String}
  {decoded : DecodedClaims} {payload : TokenPayload} {familyId : String}

theorem now_le_step (state : SignInState) (event : SignInEvent) :
    state.now ≤ (state.step app event).now := by
  rw [SignInState.step, now_of_moves (moves_act app (state.wait event.delay) event.action)]
  exact le_self_add

theorem now_le_runFrom : start.now ≤ (runFrom (SignInState.step app) start events).now := by
  induction events generalizing start with
  | nil => exact le_rfl
  | cons first events ih => exact (now_le_step start first).trans ih

theorem Granted.made (h : Granted app start claims events moment) :
    moment ≤ (runFrom (SignInState.step app) start events).now := by
  obtain ⟨past, event, ⟨rest, rfl⟩, -, rfl⟩ := h
  have hStep : (runFrom (SignInState.step app) start past).now + event.delay =
      (runFrom (SignInState.step app) start (past ++ [event])).now := by
    rw [runFrom_concat, SignInState.step, now_of_moves (moves_act app _ event.action)]
    rfl
  rw [hStep, @runFrom_append _ _ _ _ (past ++ [event])]
  exact now_le_runFrom

/-- The signed payload that claims are read from tells the moment that it was made. -/
theorem claims_of_signed {sub : String}
    (hPayload : decoded.payload sub ∈ signedPayloads app.settings claims familyId moment)
    (hSub : sub.toNat? = some decoded.userId) :
    decoded.payload sub = accessPayload app.settings claims moment ∧
      decoded = claimsAt app.settings claims moment := by
  obtain hAccess | hRefresh := List.mem_pair.mp hPayload
  · exact ⟨hAccess, sub_accessPayload hAccess.symm hSub⟩
  · exact nomatch hRefresh

/-- Where the tokens and the requests under way come from. -/
structure Provenance (app : App) (start : SignInState) (events : List SignInEvent) : Prop where
  signed : ∀ payload ∈ (runFrom (SignInState.step app) start events).signed,
    ∃ claims familyId moment,
    Granted app start claims events moment ∧
      payload ∈ signedPayloads app.settings claims familyId moment
  signIn : ∀ request pending, (runFrom (SignInState.step app) start events).pending request =
    some (.signIn pending) →
    OneStep (fun past event => ReadsActive app start past event request pending) events
  manage : ∀ request claims, (runFrom (SignInState.step app) start events).pending request =
    some (.manage claims) → Authorised app start claims events request

theorem Provenance.taken (h : Provenance app start events)
    (hUnforged : Unforged app (runFrom (SignInState.step app) start events).signed authorization)
    {now : ℚ≥0} (hClaims : getCurrentClaims app.jwt now authorization = .ok decoded) :
    ∃ moment, Granted app start decoded.toAccessTokenClaims events moment ∧
      Bears app authorization decoded.toAccessTokenClaims moment ∧
        decoded = claimsAt app.settings decoded.toAccessTokenClaims moment ∧
          now < (⌊moment⌋₊ + app.settings.lifetime : ℕ) := by
  obtain ⟨token, hToken, hDecode⟩ := getCurrentClaims_eq_ok.mp hClaims
  obtain ⟨sub, hSub, hSigned, -, hExpires⟩ := decodeAccessToken_eq_ok.mp hDecode
  obtain ⟨claims, familyId, moment, hGranted, hMem⟩ := h.signed _ (hUnforged token _ hToken hSigned)
  obtain ⟨hPayload, rfl⟩ := claims_of_signed hMem hSub
  exact ⟨moment, hGranted, ⟨token, hToken, hPayload ▸ hSigned⟩, rfl, hExpires⟩

theorem Provenance.nil (hFresh : start.Fresh) : Provenance app start [] where
  signed payload hPayload := by
    rw [runFrom, List.foldl_nil, hFresh.signed] at hPayload
    exact absurd hPayload List.not_mem_nil
  signIn request pending hPending := nomatch (hFresh.pending request).symm.trans hPending
  manage request claims hPending := nomatch (hFresh.pending request).symm.trans hPending

theorem Provenance.concat (h : Provenance app start events)
    (hPresents : PresentsSigned app (runFrom (SignInState.step app) start events) event) :
    Provenance app start (events ++ [event]) := by
  have hMoves :=
    moves_act app ((runFrom (SignInState.step app) start events).wait event.delay) event.action
  have hNext : runFrom (SignInState.step app) start (events ++ [event]) =
      ((runFrom (SignInState.step app) start events).wait event.delay).act app event.action :=
        runFrom_concat
  constructor
  · intro payload hPayload
    rw [hNext] at hPayload
    obtain hOld | ⟨claims, familyId, hMade, hIssues⟩ := signed_of_moves hMoves hPayload
    · obtain ⟨claims, familyId, moment, hGranted, hMade⟩ := h.signed payload hOld
      exact ⟨claims, familyId, moment, hGranted.append, hMade⟩
    · refine ⟨claims, familyId, _, .now ⟨?_, rfl⟩, hMade⟩
      obtain ⟨keys, request, hAction, hClaims, hActive⟩ | ⟨request, signIn, hAction, hPending⟩ :=
        hIssues
      · exact .registers keys request hAction hClaims (hNext ▸ hActive)
      · exact .completes request familyId signIn hAction hPending (h.signIn request _ hPending)
  · intro request pending hPending
    obtain hOld | ⟨hAction, hActive⟩ := signIn_of_moves hMoves (hNext ▸ hPending)
    · exact (h.signIn request pending hOld).append
    · exact .now ⟨hAction, hActive, hPending⟩
  · intro request claims hPending
    obtain hOld | ⟨authorization, hAction, hClaims⟩ := manage_of_moves hMoves (hNext ▸ hPending)
    · exact (h.manage request claims hOld).append
    · obtain ⟨decoded, hDecoded, hAllowed⟩ := exists_of_bind_eq_ok hClaims
      obtain ⟨hHeld, rfl⟩ := requirePermission_eq_ok.mp hAllowed
      rw [PresentsSigned, hAction] at hPresents
      obtain ⟨moment, hGranted, hBears, hMade, -⟩ := h.taken hPresents hDecoded
      exact .now ⟨authorization, moment, hAction, hHeld, hGranted, hBears, hMade ▸ hDecoded⟩

theorem provenance_of_run (hFresh : start.Fresh)
    (hRun : EveryStep (SignInState.step app) (PresentsSigned app) start events) :
    Provenance app start events :=
  hRun.run_inv (.nil hFresh) fun _ _ hPresents h => h.concat hPresents

/-- In every run, a request is taken exactly with a token that a request of the run has made of a
membership which was active when it read it, and only until the token expires. -/
theorem current_claims_iff (app : App) (start : SignInState) (events : List SignInEvent)
    (hFresh : start.Fresh)
    (hRun : EveryStep (SignInState.step app) (PresentsSigned app) start events)
    (authorization : Option String)
    (hUnforged : Unforged app (runFrom (SignInState.step app) start events).signed authorization)
    (decoded : DecodedClaims) :
    getCurrentClaims app.jwt (runFrom (SignInState.step app) start events).now authorization =
      .ok decoded ↔ ∃ moment, Granted app start decoded.toAccessTokenClaims events moment ∧
        Bears app authorization decoded.toAccessTokenClaims moment ∧
          decoded = claimsAt app.settings decoded.toAccessTokenClaims moment ∧
            (runFrom (SignInState.step app) start events).now <
              (⌊moment⌋₊ + app.settings.lifetime : ℕ) := by
  constructor
  · intro hClaims
    exact (provenance_of_run hFresh hRun).taken hUnforged hClaims
  · rintro ⟨moment, hGranted, ⟨token, hToken, hSigned⟩, hDecoded, hNow⟩
    rw [hDecoded]
    exact (getCurrentClaims_of_signed hToken hSigned hGranted.made).mpr hNow

/-- In every run, whatever changes the memberships of an organisation is a managing request that
acts under claims in it which may manage its users, and that was taken with a token of the run for
these claims. -/
theorem membership_changes_authorised (app : App) (start : SignInState)
    (before after : List SignInEvent) (event : SignInEvent) (hFresh : start.Fresh)
    (hRun : EveryStep (SignInState.step app) (PresentsSigned app) start (before ++ event :: after))
    (organisationId : ℕ) (hKnown : organisationId ∈
      (runFrom (SignInState.step app) start before).accounts.organisations.map Organisation.id)
    (hChange : (runFrom (SignInState.step app) start (before ++ [event])).membershipsOf organisationId ≠
      (runFrom (SignInState.step app) start before).membershipsOf organisationId) :
    ∃ request placeholder userRequest claims,
      event.action = .manage request placeholder userRequest ∧
      (runFrom (SignInState.step app) start before).pending request = some (.manage claims) ∧
        claims.activeOrgId = organisationId ∧ .manageUsers ∈ heldPermissions claims.role ∧
          Authorised app start claims before request := by
  obtain ⟨hBefore, -⟩ := EveryStep.append_iff.mp hRun
  have hMoves :=
    moves_act app ((runFrom (SignInState.step app) start before).wait event.delay) event.action
  rw [runFrom_concat] at hChange
  obtain ⟨request, placeholder, userRequest, claims, hAction, hPending, hOwn⟩ :=
    membershipsOf_of_moves hMoves hKnown hChange
  have hAuthorised := (provenance_of_run hFresh hBefore).manage request claims hPending
  obtain ⟨past, authorising, -, authorization, moment, hAuthorises⟩ := id hAuthorised
  exact ⟨request, placeholder, userRequest, claims, hAction, hPending, hOwn, hAuthorises.held,
    hAuthorised⟩

/-- No sign-in under way has read the claims. -/
def NotReading (claims : AccessTokenClaims) (state : SignInState) : Prop :=
  ∀ request signIn, state.pending request ≠ some (.signIn ⟨signIn, claims⟩)

/-- While no membership of the claims is active and no sign-in has read them, no token is made for
them. -/
structure Closed (app : App) (start : SignInState) (claims : AccessTokenClaims)
    (events : List SignInEvent) : Prop where
  notReading : NotReading claims (runFrom (SignInState.step app) start events)
  signed : ∀ sub decoded, decoded.toAccessTokenClaims = claims → sub.toNat? = some decoded.userId →
    DecodedClaims.payload decoded sub ∈ (runFrom (SignInState.step app) start events).signed →
      DecodedClaims.payload decoded sub ∈ start.signed

theorem Closed.concat (h : Closed app start claims events)
    (hBefore : ¬(runFrom (SignInState.step app) start events).HasActive claims)
    (hAfter : ¬(runFrom (SignInState.step app) start (events ++ [event])).HasActive claims) :
    Closed app start claims (events ++ [event]) := by
  have hMoves :=
    moves_act app ((runFrom (SignInState.step app) start events).wait event.delay) event.action
  constructor
  · intro request signIn hPending
    rw [runFrom_concat] at hPending
    obtain hOld | ⟨-, hActive⟩ := signIn_of_moves hMoves hPending
    · exact h.notReading request signIn hOld
    · exact hBefore hActive
  · intro sub decoded hClaims hSub hPayload
    rw [runFrom_concat] at hPayload hAfter
    obtain hOld | ⟨others, familyId, hMade, hOrigin⟩ := signed_of_moves hMoves hPayload
    · exact h.signed sub decoded hClaims hSub hOld
    · obtain rfl : others = claims := by
        rw [← hClaims, (claims_of_signed hMade hSub).2]
        rfl
      obtain ⟨-, -, -, -, hActive⟩ | ⟨request, signIn, -, hPending⟩ := hOrigin
      · exact absurd hActive hAfter
      · exact absurd hPending (h.notReading request signIn)

theorem closed_of_inactive (hReading : NotReading claims start)
    (hInactive : ∀ past, past <+: events →
      ¬(runFrom (SignInState.step app) start past).HasActive claims) :
    Closed app start claims events := by
  induction events using List.reverseRecOn with
  | nil => exact ⟨hReading, fun _ _ _ _ hPayload => hPayload⟩
  | append_singleton events event ih =>
    refine (ih fun past hPast => hInactive past (hPast.trans (List.prefix_append _ _))).concat ?_ ?_
    · exact hInactive events (List.prefix_append _ _)
    · exact hInactive _ List.prefix_rfl

/-- A membership that stops being active ends no token that was made of it before. Once it has not
been active for the lifetime of a token, no request is taken with its claims, provided that no
sign-in was under way that had read it when it was active, and that no token is forged. -/
theorem revoked_after_lifetime (app : App) (start : SignInState) (before after : List SignInEvent)
    (hFresh : start.Fresh)
    (hRun : EveryStep (SignInState.step app) (PresentsSigned app) start (before ++ after))
    (claims : AccessTokenClaims)
    (hReading : NotReading claims (runFrom (SignInState.step app) start before))
    (hInactive : ∀ past, past <+: after →
      ¬(runFrom (SignInState.step app) start (before ++ past)).HasActive claims) :
    (∀ authorization moment, Granted app start claims before moment →
      Bears app authorization claims moment →
      (runFrom (SignInState.step app) start (before ++ after)).now <
        (⌊moment⌋₊ + app.settings.lifetime : ℕ) →
        getCurrentClaims app.jwt (runFrom (SignInState.step app) start (before ++ after)).now
          authorization = .ok (claimsAt app.settings claims moment)) ∧
    ((runFrom (SignInState.step app) start before).now + app.settings.lifetime ≤
        (runFrom (SignInState.step app) start (before ++ after)).now →
      ∀ authorization,
      Unforged app (runFrom (SignInState.step app) start (before ++ after)).signed authorization →
        ∀ decoded, decoded.toAccessTokenClaims = claims →
          getCurrentClaims app.jwt (runFrom (SignInState.step app) start (before ++ after)).now
            authorization ≠ .ok decoded) := by
  obtain ⟨hBefore, -⟩ := EveryStep.append_iff.mp hRun
  constructor
  · rintro authorization moment hGranted ⟨token, hToken, hSigned⟩ hNow
    have hMade : moment ≤ (runFrom (SignInState.step app) start (before ++ after)).now := by
      rw [runFrom_append]
      exact hGranted.made.trans now_le_runFrom
    exact (getCurrentClaims_of_signed hToken hSigned hMade).mpr hNow
  · intro hLifetime authorization hUnforged decoded hClaims hTaken
    have hClosed : Closed app (runFrom (SignInState.step app) start before) claims after := by
      refine closed_of_inactive hReading fun past hPast => ?_
      rw [← runFrom_append]
      exact hInactive past hPast
    obtain ⟨token, hToken, hDecode⟩ := getCurrentClaims_eq_ok.mp hTaken
    obtain ⟨sub, hSub, hSigned, -, hExpires⟩ := decodeAccessToken_eq_ok.mp hDecode
    have hPayload := hUnforged token _ hToken hSigned
    rw [runFrom_append] at hPayload
    obtain ⟨others, familyId, moment, hGranted, hMade⟩ :=
      (provenance_of_run hFresh hBefore).signed _ (hClosed.signed sub decoded hClaims hSub hPayload)
    rw [(claims_of_signed hMade hSub).2] at hExpires
    have hFloor : ((⌊moment⌋₊ + app.settings.lifetime : ℕ) : ℚ≥0) ≤
        moment + app.settings.lifetime := by
      rw [Nat.cast_add]
      exact add_le_add_left (Nat.floor_le zero_le) _
    have hDue := hFloor.trans (add_le_add_left hGranted.made _)
    exact hExpires.not_ge (hDue.trans hLifetime)

end Runs

section Dairy

/-- Salted passwords and tokens that are stored as they are. -/
def dairyApp : App where
  settings := ⟨15, 14, true⟩
  jwt := PlainText.jwt
  hashing := ⟨fun salt password => password ++ salt, fun password hash =>
    password.toList <+: hash.toList, id⟩

def noAccounts : Accounts where
  tables := ⟨⟨[], []⟩, by decide⟩
  credential _ := ⟨"", false, none⟩
  createdAt _ := 0
  organisations := []
  refreshTokens := []
  auditLogs := []
  constraints := by decide

def noSignIns : SignInState := ⟨0, noAccounts, fun _ => none, []⟩

theorem noSignIns_fresh : noSignIns.Fresh := ⟨rfl, fun _ => rfl⟩

def dairyKeys : RegisterKeys := ⟨⟨1, 1, 1⟩, 1, 1, "salt", "family"⟩

def dairyOwner : RegisterRequest where
  firstName := "Lerato"
  lastName := "Nkosi"
  email := "lerato@example.com"
  password := "correct horse battery"
  organisationName := "Dairy"
  firstNameLength := by decide
  lastNameLength := by decide
  passwordLength := by decide
  organisationNameLength := by decide

def dairyHeader : Option String :=
  some ("Bearer " ++ dairyApp.jwt.encode (accessPayload dairyApp.settings dairyKeys.claims 5))

def registers : SignInEvent := ⟨5, .register dairyKeys dairyOwner⟩

def authorises : SignInEvent := ⟨60, .authorise 1 dairyHeader⟩

/-- The owner suspends the own membership. -/
def suspends : SignInEvent :=
  ⟨1, .manage 1 ⟨"", ""⟩ (.update (some 1) ⟨none, some (some "suspended")⟩)⟩

def waits : SignInEvent := ⟨900, .abandon 2⟩

theorem unforged_none (app : App) (signed : List TokenPayload) : Unforged app signed none :=
  fun _ _ hToken => nomatch hToken

theorem unforged_bearer (app : App) {signed : List TokenPayload} {payload : TokenPayload}
    (hPayload : payload ∈ signed) :
    Unforged app signed (some ("Bearer " ++ app.jwt.encode payload)) := by
  intro token other hToken hSigned
  rw [bearerToken_bearer (app.jwt.strip_encode payload), Option.some.injEq] at hToken
  rw [← hToken, app.jwt.signed_encode, Option.some.injEq] at hSigned
  rwa [← hSigned]

theorem registers_signed : (SignInState.step dairyApp noSignIns registers).signed =
    signedPayloads dairyApp.settings dairyKeys.claims "family" 5 := by
  decide +kernel

theorem dairyHeader_unforged {state : SignInState}
    (hSigned : state.signed = signedPayloads dairyApp.settings dairyKeys.claims "family" 5) :
    Unforged dairyApp state.signed dairyHeader := by
  refine unforged_bearer dairyApp ?_
  rw [hSigned]
  exact List.mem_cons_self

theorem dairy_presents : EveryStep (SignInState.step dairyApp) (PresentsSigned dairyApp) noSignIns
    [registers, authorises, suspends, waits] :=
  ⟨unforged_none _ _, dairyHeader_unforged registers_signed, unforged_none _ _, unforged_none _ _,
    trivial⟩

/-- The state of the dairy's requests after some events. -/
def dairyAfter (events : List SignInEvent) : SignInState :=
  runFrom (SignInState.step dairyApp) noSignIns events

theorem dairy_current_claims :
    getCurrentClaims dairyApp.jwt (dairyAfter [registers]).now dairyHeader =
    .ok (claimsAt dairyApp.settings dairyKeys.claims 5) ↔
    ∃ moment, Granted dairyApp noSignIns dairyKeys.claims [registers] moment ∧
      Bears dairyApp dairyHeader dairyKeys.claims moment ∧
        claimsAt dairyApp.settings dairyKeys.claims 5 =
          claimsAt dairyApp.settings dairyKeys.claims moment ∧
          (dairyAfter [registers]).now < (⌊moment⌋₊ + dairyApp.settings.lifetime : ℕ) :=
  current_claims_iff dairyApp noSignIns [registers] noSignIns_fresh ⟨unforged_none _ _, trivial⟩
    dairyHeader
    (dairyHeader_unforged registers_signed) (claimsAt dairyApp.settings dairyKeys.claims 5)

theorem authorises_step : dairyAfter [registers, authorises] =
    ((dairyAfter [registers]).wait 60).put 1 (some (.manage dairyKeys.claims)) := by
  have hNow : ((dairyAfter [registers]).wait 60).now = 65 := by decide +kernel
  have hClaims : getCurrentClaims dairyApp.jwt 65 dairyHeader =
      .ok (claimsAt dairyApp.settings dairyKeys.claims 5) :=
    (getCurrentClaims_made (by decide)).mpr (by decide)
  have hManaging : ((dairyAfter [registers]).wait 60).managingClaims dairyApp dairyHeader =
      .ok dairyKeys.claims := by
    rw [SignInState.managingClaims, hNow, bind_of_eq_ok hClaims, requirePermission_eq_ok]
    exact ⟨by decide, rfl⟩
  have hStep : dairyAfter [registers, authorises] =
      ((dairyAfter [registers]).wait 60).act dairyApp (.authorise 1 dairyHeader) := rfl
  rw [hStep, SignInState.act, hManaging]

theorem suspends_step : dairyAfter [registers, authorises, suspends] =
    (((dairyAfter [registers]).wait 60).put 1 (some (.manage dairyKeys.claims))).step dairyApp
      suspends := by
  rw [← authorises_step]
  rfl

theorem suspends_memberships :
    (dairyAfter [registers, authorises, suspends]).accounts.tables.memberships =
    [⟨1, 1, 1, "owner", "suspended"⟩] := by
  rw [suspends_step]
  decide

theorem suspends_inactive :
    ¬(dairyAfter [registers, authorises, suspends]).HasActive dairyKeys.claims := by
  rw [SignInState.HasActive, suspends_memberships]
  decide

theorem dairy_change_authorised : ∃ request placeholder userRequest claims,
    suspends.action = .manage request placeholder userRequest ∧
      (dairyAfter [registers, authorises]).pending request = some (.manage claims) ∧
        claims.activeOrgId = 1 ∧ .manageUsers ∈ heldPermissions claims.role ∧
          Authorised dairyApp noSignIns claims [registers, authorises] request := by
  refine membership_changes_authorised dairyApp noSignIns [registers, authorises]
    [waits] suspends noSignIns_fresh
    dairy_presents 1 ?_ ?_
  · rw [← dairyAfter, authorises_step]
    decide
  · intro hSame
    have hBefore : (dairyAfter [registers, authorises]).membershipsOf 1 =
        [⟨1, 1, 1, "owner", "active"⟩] := by
      rw [authorises_step]
      decide
    have hAfter : (dairyAfter [registers, authorises, suspends]).membershipsOf 1 =
        [⟨1, 1, 1, "owner", "suspended"⟩] := by
      rw [SignInState.membershipsOf, suspends_memberships]
      rfl
    exact absurd (hAfter.symm.trans (hSame.trans hBefore)) (by decide)

theorem dairy_notReading :
    NotReading dairyKeys.claims (dairyAfter [registers, authorises, suspends]) := by
  intro request signIn hPending
  rw [suspends_step] at hPending
  obtain hOld | hManage := pending_put (signIn_of_managing rfl hPending)
  · have hRegistered : ((noSignIns.wait 5).act dairyApp registers.action).pending request =
        some (.signIn ⟨signIn, dairyKeys.claims⟩) := hOld
    obtain hNone | ⟨-, membership, hMem, -⟩ :=
      signIn_of_moves (moves_act dairyApp _ registers.action) hRegistered
    · exact nomatch (noSignIns_fresh.pending request).symm.trans hNone
    · exact absurd hMem List.not_mem_nil
  · cases hManage.2

theorem registers_granted :
    Granted dairyApp noSignIns dairyKeys.claims [registers, authorises, suspends] 5 := by
  refine ⟨[], registers, ⟨[authorises, suspends], rfl⟩,
    .registers dairyKeys dairyOwner rfl rfl ?_, by decide +kernel⟩
  rw [SignInState.HasActive]
  decide +kernel

theorem dairyHeader_bears : Bears dairyApp dairyHeader dairyKeys.claims 5 :=
  ⟨_, bearerToken_bearer (dairyApp.jwt.strip_encode _), dairyApp.jwt.signed_encode _⟩

/-- The owner's token is taken after the membership has been suspended, and no longer when it has
expired. -/
theorem dairy_revoked :
    getCurrentClaims dairyApp.jwt (dairyAfter [registers, authorises, suspends]).now dairyHeader =
      .ok (claimsAt dairyApp.settings dairyKeys.claims 5) ∧
    getCurrentClaims dairyApp.jwt (dairyAfter [registers, authorises, suspends, waits]).now dairyHeader ≠
      .ok (claimsAt dairyApp.settings dairyKeys.claims 5) := by
  have hNow : (dairyAfter [registers, authorises, suspends]).now = 66 := by
    rw [suspends_step]
    decide +kernel
  have hInactive : ∀ past, past <+: [waits] →
      ¬(runFrom (SignInState.step dairyApp) noSignIns
        ([registers, authorises, suspends] ++ past)).HasActive
        dairyKeys.claims := by
    intro past hPast
    obtain rfl | rfl : past = [] ∨ past = [waits] := by
      cases past with
      | nil => exact .inl rfl
      | cons first rest =>
        obtain ⟨rfl, hRest⟩ := List.cons_prefix_cons.mp hPast
        rw [List.prefix_nil.mp hRest]
        exact .inr rfl
    · exact suspends_inactive
    · exact suspends_inactive
  obtain ⟨hEarly, -⟩ :=
    EveryStep.append_iff.mp (show EveryStep (SignInState.step dairyApp) (PresentsSigned dairyApp)
      noSignIns ([registers, authorises, suspends] ++ [waits]) from dairy_presents)
  constructor
  · refine (revoked_after_lifetime dairyApp noSignIns [registers, authorises, suspends] [] noSignIns_fresh
      hEarly dairyKeys.claims dairy_notReading fun past hPast =>
        hInactive past (hPast.trans List.nil_prefix)).1 dairyHeader 5 registers_granted
          dairyHeader_bears ?_
    rw [List.append_nil, ← dairyAfter, hNow]
    decide +kernel
  · refine (revoked_after_lifetime dairyApp noSignIns [registers, authorises, suspends]
      [waits] noSignIns_fresh
      dairy_presents dairyKeys.claims dairy_notReading hInactive).2 ?_ dairyHeader ?_
      (claimsAt dairyApp.settings dairyKeys.claims 5) rfl
    · have hLater : (dairyAfter [registers, authorises, suspends, waits]).now = 966 := by
        have hWaits : (dairyAfter [registers, authorises, suspends, waits]).now =
            (dairyAfter [registers, authorises, suspends]).now + 900 := rfl
        rw [hWaits, hNow]
        decide +kernel
      rw [← dairyAfter, ← dairyAfter, hNow]
      exact hLater.symm ▸ (by decide +kernel)
    · refine dairyHeader_unforged ?_
      have hSigned : (dairyAfter [registers, authorises, suspends]).signed =
          signedPayloads dairyApp.settings dairyKeys.claims "family" 5 := by
        rw [suspends_step]
        decide +kernel
      exact hSigned

end Dairy

end ProcureFoundation.Users
