import ProcureFoundation.Foundation.RunMoments

/-!
# Reading before writing

A request reads the world and decides what it will write, and writes it later; other requests can
write in between. A run in which every request would still decide the same when it writes ends as
the requests do one after the other, in the order of their writes.
-/

namespace ProcureFoundation

/-- How an intent reads the world and what a decision does to it, and what other steps do. -/
structure ReadThenWrite (σ ι δ β : Type*) where
  decide : ι → σ → Option δ
  write : δ → σ → σ
  other : β → σ → σ

structure Desk (σ ι δ : Type*) where
  world : σ
  held : ℕ → Option (ι × δ)

/-- The requests are numbered. -/
inductive DeskEvent (ι β : Type*) where
  | read (request : ℕ) (intent : ι)
  | write (request : ℕ)
  | other (step : β)

inductive SerialEvent (ι β : Type*) where
  | act (intent : ι)
  | other (step : β)

namespace ReadThenWrite

variable {σ ι δ β : Type*} (system : ReadThenWrite σ ι δ β)

def step (desk : Desk σ ι δ) : DeskEvent ι β → Desk σ ι δ
  | .read request intent =>
    { desk with held := Function.update desk.held request ((system.decide intent desk.world).map (Prod.mk intent)) }
  | .write request =>
    match desk.held request with
    | none => desk
    | some (_, decision) =>
      ⟨system.write decision desk.world, Function.update desk.held request none⟩
  | .other step => { desk with world := system.other step desk.world }

/-- The request reads and writes without anything in between. -/
def serialStep (world : σ) : SerialEvent ι β → σ
  | .act intent =>
    match system.decide intent world with
    | none => world
    | some decision => system.write decision world
  | .other step => system.other step world

/-- What a request writes is what it would decide now. -/
def Undisturbed (desk : Desk σ ι δ) : DeskEvent ι β → Prop
  | .write request => ∀ intent decision, desk.held request = some (intent, decision) →
      system.decide intent desk.world = some decision
  | .read .. | .other .. => True

/-- The steps that change the world, a request with its intent at the time of its write. -/
def serialised (desk : Desk σ ι δ) : DeskEvent ι β → List (SerialEvent ι β)
  | .read .. => []
  | .write request => ((desk.held request).map fun held => .act held.1).toList
  | .other step => [.other step]

def serialisedRun : Desk σ ι δ → List (DeskEvent ι β) → List (SerialEvent ι β)
  | _, [] => []
  | desk, event :: events => serialised desk event ++ serialisedRun (system.step desk event) events

variable {system} {desk : Desk σ ι δ} {event : DeskEvent ι β} {events : List (DeskEvent ι β)}

/-- A write right after its reading is undisturbed. -/
theorem undisturbed_read (desk : Desk σ ι δ) (request : ℕ) (intent : ι) :
    system.Undisturbed (system.step desk (.read request intent)) (.write request) := by
  intro other decision hHeld
  dsimp only [step] at hHeld ⊢
  rw [Function.update_self, Option.map_eq_some_iff] at hHeld
  obtain ⟨decided, hDecided, hSame⟩ := hHeld
  obtain ⟨rfl, rfl⟩ := Prod.mk.inj hSame
  exact hDecided

theorem world_step (h : system.Undisturbed desk event) :
    (system.step desk event).world = runFrom system.serialStep desk.world (serialised desk event) := by
  cases event with
  | read request intent => rfl
  | other step => rfl
  | write request =>
    rw [step, serialised]
    cases hHeld : desk.held request with
    | none => rfl
    | some pending =>
      have hDecide := h pending.1 pending.2 hHeld
      rw [Option.map_some, Option.toList_some, runFrom, List.foldl_cons, List.foldl_nil, serialStep,
        hDecide]

/-- An undisturbed run ends in the world of the requests one after the other. -/
theorem world_runFrom (h : EveryStep system.step system.Undisturbed desk events) :
    (runFrom system.step desk events).world = runFrom system.serialStep desk.world
      (system.serialisedRun desk events) := by
  induction events generalizing desk with
  | nil => rfl
  | cons event events ih =>
    obtain ⟨hEvent, hEvents⟩ := h
    rw [serialisedRun, runFrom_append, ← world_step hEvent, ← ih hEvents]
    rfl

end ReadThenWrite

end ProcureFoundation
