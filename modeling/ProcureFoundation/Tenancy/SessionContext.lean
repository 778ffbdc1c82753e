import Mathlib
import ProcureFoundation.Foundation.EveryStep
import ProcureFoundation.Foundation.ThreeValued

/-!
# The tenant of a transaction

Sessions share a pool of connections and hold one only during a transaction. A setting that is local
to a transaction is gone when it ends, and reads as NULL or as the empty text from then on. The hook
on the beginning of a transaction sets the organisation of the session again, so what a statement
reads is that of its own session, whichever connection it runs on.
-/

namespace ProcureFoundation.Tenancy

open ThreeValued

structure BigInt where
  value : ℤ
  inRange : -2 ^ 63 ≤ value ∧ value < 2 ^ 63
deriving DecidableEq

namespace BigInt

def text (n : BigInt) : String := n.value.repr

/-- The cast of a text to a bigint. -/
def ofText (text : String) : Except String BigInt :=
  match text.toInt? with
  | some value =>
    if h : -2 ^ 63 ≤ value ∧ value < 2 ^ 63 then .ok ⟨value, h⟩
    else .error ("value \"" ++ text ++ "\" is out of range for type bigint")
  | none => .error ("invalid input syntax for type bigint: \"" ++ text ++ "\"")

@[simp] theorem ofText_text (n : BigInt) : ofText n.text = .ok n := by
  rw [ofText, text, Int.toInt?_repr]
  exact dif_pos n.inRange

theorem text_ne_empty (n : BigInt) : n.text ≠ "" := by
  rw [text, Int.repr_eq_if]
  split
  · exact Nat.repr_ne_empty
  · simp

end BigInt

/-- What a setting reads as that was local to a transaction that has ended. -/
inductive Residue where
  | null
  | empty

def Residue.reading : Residue → Option String
  | null => none
  | empty => some ""

/-- The empty text becomes NULL before the cast. -/
def nullIfEmpty (setting : Option String) : Option String := setting.filter fun text => text != ""

/-- The policy of the tenant tables on a row of an organisation. -/
def tenantIsolation (currentOrgId : Option String) (organisationId : BigInt) :
    Except String Truth := do
  let current ← (nullIfEmpty currentOrgId).mapM BigInt.ofText
  return equals (some organisationId) current

structure Connection where
  holder : Option ℕ
  transactionValue : Option String
  residue : Residue

/-- The reading of the organisation on a connection. -/
def Connection.currentOrgId (connection : Connection) : Option String :=
  connection.transactionValue.or connection.residue.reading

/-- A session with the organisation of its request, if it has one, the connection of its
transaction, and the organisation that it has set by a call in this transaction. -/
structure DbSession where
  orgId : Option BigInt
  connection : Option ℕ
  calledOrgId : Option BigInt

structure World where
  connections : ℕ → Connection
  sessions : ℕ → Option DbSession

/-- No session, and no connection in a transaction. -/
def World.idle (residues : ℕ → Residue) : World where
  connections c := ⟨none, none, residues c⟩
  sessions _ := none

def setConfig (org : BigInt) (connection : Connection) : Connection :=
  { connection with transactionValue := some org.text }

/-- The hook that runs when a session begins a transaction. -/
def applyTenantContext (session : DbSession) (connection : Connection) : Connection :=
  match session.orgId with
  | none => connection
  | some org => setConfig org connection

inductive Statement where
  | query
  | setCurrentUserId (user : BigInt)
  | setCurrentOrgId (org : BigInt)

/-- The session numbers the connections that it is given; a commit and a rollback end a transaction
alike. -/
inductive Event where
  | openSession (s : ℕ) (orgId : Option BigInt) (c : ℕ)
  | statement (s : ℕ) (statement : Statement) (c : ℕ)
  | commit (s : ℕ) (residue : Residue)
  | rollback (s : ℕ) (residue : Residue)
  | close (s : ℕ) (residue : Residue)

namespace World

variable (w : World)

/-- A session begins a transaction on a connection that is not in use. -/
def begin (s : ℕ) (session : DbSession) (c : ℕ) : Option World :=
  if (w.connections c).holder.isSome then none
  else some {
    connections := Function.update w.connections c
      (applyTenantContext session { w.connections c with holder := some s })
    sessions := Function.update w.sessions s
      (some { session with connection := some c, calledOrgId := none }) }

/-- A statement runs in the transaction of its session, which begins with it if there is none. -/
def begun (s c : ℕ) : Option World :=
  (w.sessions s).bind fun session => if session.connection.isSome then some w
    else w.begin s session c

def perform (s : ℕ) (session : DbSession) : Statement → World
  | .query | .setCurrentUserId _ => w
  | .setCurrentOrgId org =>
    match session.connection with
    | none => w
    | some c =>
      { connections := Function.update w.connections c (setConfig org (w.connections c))
        sessions := Function.update w.sessions s (some { session with calledOrgId := some org }) }

/-- The end of a transaction gives the connection back to the pool. -/
def endTransaction (s : ℕ) (session : DbSession) (residue : Residue) : World :=
  match session.connection with
  | none => w
  | some c =>
    { connections := Function.update w.connections c ⟨none, none, residue⟩
      sessions := Function.update w.sessions s
        (some { session with connection := none, calledOrgId := none }) }

def removeSession (s : ℕ) : World := { w with sessions := Function.update w.sessions s none }

def step : Event → Option World
  | .openSession s orgId c => if (w.sessions s).isSome then none
    else w.begin s ⟨orgId, none, none⟩ c
  | .statement s statement c =>
    (w.begun s c).bind fun begun => (begun.sessions s).map fun session =>
      begun.perform s session statement
  | .commit s residue | .rollback s residue => (w.sessions s).map fun session =>
    w.endTransaction s session residue
  | .close s residue => (w.sessions s).map fun session =>
    (w.endTransaction s session residue).removeSession s

/-- What is not possible does not happen. -/
def after (event : Event) : World := (w.step event).getD w

end World

/-- The organisation that was set for the transaction. -/
def DbSession.contextOrgId (session : DbSession) : Option BigInt :=
  session.calledOrgId.or session.orgId

structure InContext (session : DbSession) (currentOrgId : Option String) : Prop where
  ownOrganisation : ∀ org, session.orgId = some org → session.calledOrgId = none →
    currentOrgId = some org.text
  noOrganisation : session.orgId = none → session.calledOrgId = none → currentOrgId = none ∨
    currentOrgId = some ""
  isolated : ∀ organisationId, ∃ verdict, tenantIsolation currentOrgId organisationId =
    .ok verdict ∧ (holds verdict = true → session.contextOrgId = some organisationId)

/-- A statement that runs does so on a connection with the context of its session. -/
def RunsInContext (w : World) : Event → Prop
  | .statement s _ c => ∀ begun session, w.begun s c = some begun →
    begun.sessions s = some session →
      ∃ held, session.connection = some held ∧
        InContext session (begun.connections held).currentOrgId
  | .openSession .. | .commit .. | .rollback .. | .close .. => True

/-- Connections that are not in use have no value, and the connection of a session has the value of
its context. -/
structure World.Sound (w : World) : Prop where
  idle : ∀ c, (w.connections c).holder = none → (w.connections c).transactionValue = none
  held : ∀ s session c, w.sessions s = some session → session.connection = some c →
    (w.connections c).holder = some s ∧ (w.connections c).transactionValue =
      session.contextOrgId.map BigInt.text

section Policy

variable {currentOrgId : Option String} {org organisationId : BigInt}

theorem tenantIsolation_text : tenantIsolation (some org.text) organisationId =
    .ok (equals (some organisationId) (some org)) := by
  have hText : nullIfEmpty (some org.text) = some org.text := by
    rw [nullIfEmpty, Option.filter_some, if_pos (bne_iff_ne.mpr org.text_ne_empty)]
  rw [tenantIsolation, hText, Option.mapM_some, BigInt.ofText_text]
  rfl

theorem tenantIsolation_residue (residue : Residue) :
    tenantIsolation residue.reading organisationId = .ok none := by
  cases residue with
  | null => rfl
  | empty => rfl

/-- A reading that comes from the context of a session keeps to it. -/
theorem inContext_of_value {session : DbSession} {connection : Connection}
    (h : connection.transactionValue = session.contextOrgId.map BigInt.text) :
    InContext session connection.currentOrgId := by
  rw [Connection.currentOrgId, h]
  refine ⟨fun org hOwn hCalled => ?_, fun hOwn hCalled => ?_, fun organisationId => ?_⟩
  · rw [DbSession.contextOrgId, hCalled, hOwn]
    rfl
  · rw [DbSession.contextOrgId, hCalled, hOwn]
    cases connection.residue with
    | null => exact .inl rfl
    | empty => exact .inr rfl
  · cases hContext : session.contextOrgId with
    | none => exact ⟨none, tenantIsolation_residue connection.residue, fun hHolds => nomatch hHolds⟩
    | some org =>
      refine ⟨_, tenantIsolation_text, fun hHolds => ?_⟩
      rw [equals_some, holds_some, decide_eq_true_iff] at hHolds
      rw [hHolds]

end Policy

section Steps

variable {w begun : World} {s c : ℕ} {session : DbSession} {connection : Connection}

theorem World.Sound.of_idle (residues : ℕ → Residue) : (World.idle residues).Sound where
  idle _ _ := rfl
  held _ _ _ hSession := nomatch hSession

/-- A session takes, uses or gives back a connection that no other session holds. -/
theorem World.Sound.update (hSound : w.Sound)
    (hFree : (w.connections c).holder = none ∨ (w.connections c).holder = some s)
    (hIdle : connection.holder = none → connection.transactionValue = none)
    (hHeld : ∀ held, session.connection = some held → held = c ∧ connection.holder = some s ∧
      connection.transactionValue = session.contextOrgId.map BigInt.text) :
    World.Sound ⟨Function.update w.connections c connection,
      Function.update w.sessions s (some session)⟩ := by
  constructor
  · intro other hOther
    dsimp only at hOther ⊢
    by_cases hSame : other = c
    · subst hSame
      rw [Function.update_self] at hOther ⊢
      exact hIdle hOther
    · rw [Function.update_of_ne hSame] at hOther ⊢
      exact hSound.idle other hOther
  · intro t other held hOther hConnection
    dsimp only at hOther ⊢
    by_cases hSession : t = s
    · subst hSession
      rw [Function.update_self] at hOther
      obtain rfl := Option.some.inj hOther
      obtain ⟨rfl, hHolder, hValue⟩ := hHeld held hConnection
      rw [Function.update_self]
      exact ⟨hHolder, hValue⟩
    · rw [Function.update_of_ne hSession] at hOther
      obtain ⟨hHolder, hValue⟩ := hSound.held t other held hOther hConnection
      have hNe : held ≠ c := by
        rintro rfl
        rw [hHolder] at hFree
        obtain hNone | hSame := hFree
        · exact nomatch hNone
        · exact hSession (Option.some.inj hSame)
      rw [Function.update_of_ne hNe]
      exact ⟨hHolder, hValue⟩

theorem World.Sound.begin (hSound : w.Sound) (hBegin : w.begin s session c = some begun) :
    begun.Sound := by
  unfold World.begin at hBegin
  split at hBegin
  · exact nomatch hBegin
  · rename_i hFree
    obtain rfl := Option.some.inj hBegin
    rw [Option.isSome_iff_ne_none, not_not] at hFree
    refine hSound.update (.inl hFree) ?_ ?_
    · intro hHolder
      unfold applyTenantContext at hHolder
      split at hHolder
      · exact nomatch hHolder
      · exact nomatch hHolder
    · intro held hHeld
      refine ⟨(Option.some.inj hHeld).symm, ?_⟩
      unfold applyTenantContext DbSession.contextOrgId
      cases hOrg : session.orgId with
      | none => exact ⟨rfl, hSound.idle c hFree⟩
      | some org => exact ⟨rfl, rfl⟩

theorem World.Sound.inTransaction (hSound : w.Sound) (hBegun : w.begun s c = some begun) :
    begun.Sound := by
  obtain ⟨session, -, hBegun⟩ := Option.bind_eq_some_iff.mp hBegun
  split at hBegun
  · obtain rfl := Option.some.inj hBegun
    exact hSound
  · exact hSound.begin hBegun

theorem World.Sound.perform (hSound : w.Sound) (hSession : w.sessions s = some session)
    (statement : Statement) : (w.perform s session statement).Sound := by
  cases statement with
  | query => exact hSound
  | setCurrentUserId user => exact hSound
  | setCurrentOrgId org =>
    rw [World.perform]
    cases hConnection : session.connection with
    | none => exact hSound
    | some c =>
      obtain ⟨hHolder, -⟩ := hSound.held s session c hSession hConnection
      refine hSound.update (.inr hHolder) ?_ ?_
      · intro hNone
        exact absurd (hHolder.symm.trans hNone) (Option.some_ne_none _)
      · intro held hHeld
        exact ⟨(Option.some.inj hHeld).symm, hHolder, rfl⟩

theorem World.Sound.endTransaction (hSound : w.Sound) (hSession : w.sessions s = some session)
    (residue : Residue) : (w.endTransaction s session residue).Sound := by
  rw [World.endTransaction]
  cases hConnection : session.connection with
  | none => exact hSound
  | some c =>
    obtain ⟨hHolder, -⟩ := hSound.held s session c hSession hConnection
    exact hSound.update (.inr hHolder) (fun _ => rfl) fun _ hHeld => nomatch hHeld

theorem World.Sound.removeSession (hSound : w.Sound) (s : ℕ) : (w.removeSession s).Sound := by
  refine ⟨hSound.idle, fun t session c hSession hConnection => ?_⟩
  dsimp only [World.removeSession] at hSession
  by_cases hSame : t = s
  · subst hSame
    rw [Function.update_self] at hSession
    exact nomatch hSession
  · rw [Function.update_of_ne hSame] at hSession
    exact hSound.held t session c hSession hConnection

theorem World.Sound.after (hSound : w.Sound) (event : Event) : (w.after event).Sound := by
  rw [World.after]
  cases hStep : w.step event with
  | none => exact hSound
  | some next =>
    cases event with
    | openSession s orgId c =>
      rw [World.step] at hStep
      split at hStep
      · exact nomatch hStep
      · exact hSound.begin hStep
    | statement s statement c =>
      obtain ⟨begun, hBegun, hPerformed⟩ := Option.bind_eq_some_iff.mp hStep
      obtain ⟨session, hSession, rfl⟩ := Option.map_eq_some_iff.mp hPerformed
      exact (hSound.inTransaction hBegun).perform hSession statement
    | commit s residue =>
      obtain ⟨session, hSession, rfl⟩ := Option.map_eq_some_iff.mp hStep
      exact hSound.endTransaction hSession residue
    | rollback s residue =>
      obtain ⟨session, hSession, rfl⟩ := Option.map_eq_some_iff.mp hStep
      exact hSound.endTransaction hSession residue
    | close s residue =>
      obtain ⟨session, hSession, rfl⟩ := Option.map_eq_some_iff.mp hStep
      exact (hSound.endTransaction hSession residue).removeSession s

/-- A session that has begun a transaction holds a connection. -/
theorem World.isSome_connection (hBegun : w.begun s c = some begun)
    (hSession : begun.sessions s = some session) : session.connection.isSome = true := by
  obtain ⟨before, hBefore, hBegun⟩ := Option.bind_eq_some_iff.mp hBegun
  split at hBegun
  · rename_i hConnection
    obtain rfl := Option.some.inj hBegun
    obtain rfl := Option.some.inj (hBefore.symm.trans hSession)
    exact hConnection
  · unfold World.begin at hBegun
    split at hBegun
    · exact nomatch hBegun
    · obtain rfl := Option.some.inj hBegun
      dsimp only at hSession
      rw [Function.update_self] at hSession
      obtain rfl := Option.some.inj hSession
      rfl

theorem World.Sound.runsInContext (hSound : w.Sound) (event : Event) : RunsInContext w event := by
  cases event with
  | statement s statement c =>
    intro begun session hBegun hSession
    obtain ⟨held, hHeld⟩ := Option.isSome_iff_exists.mp (World.isSome_connection hBegun hSession)
    obtain ⟨-, hValue⟩ := (hSound.inTransaction hBegun).held s session held hSession hHeld
    exact ⟨held, hHeld, inContext_of_value hValue⟩
  | openSession s orgId c => trivial
  | commit s residue => trivial
  | rollback s residue => trivial
  | close s residue => trivial

/-- In every interleaving of sessions over the pool each statement runs in the context of its own
session. -/
theorem statements_run_in_context (residues : ℕ → Residue) (events : List Event) :
    EveryStep World.after RunsInContext (World.idle residues) events :=
  EveryStep.of_inv (fun _ event (hSound : World.Sound _) => hSound.runsInContext event)
    (fun _ event hSound => hSound.after event) (World.Sound.of_idle residues)

end Steps

end ProcureFoundation.Tenancy
