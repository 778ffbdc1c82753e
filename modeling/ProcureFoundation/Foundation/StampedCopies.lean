import Mathlib.Data.Set.Insert

/-!
# Stamped copies

Every committed state bears a stamp, and each commit brings a stamp that no state before
it has borne. What is known of a copy holds only while the copy's stamp is the current
one: a commit puts all older copies out of date at once, and none of them comes back.
-/

namespace ProcureFoundation

variable {σ : Type*} {known : Set σ} {current new stamp : σ} {p q : Prop}

/-- A copy under a known stamp, and what holds of it while that stamp is current. -/
structure StampedCopy (known : Set σ) (current stamp : σ) (p : Prop) : Prop where
  known : stamp ∈ known
  holds : stamp = current → p

namespace StampedCopy

theorem take (hKnown : current ∈ known) (h : p) : StampedCopy known current current p :=
  ⟨hKnown, fun _ => h⟩

theorem imp (h : StampedCopy known current stamp p) (hpq : p → q) :
    StampedCopy known current stamp q :=
  ⟨h.known, fun hStamp => hpq (h.holds hStamp)⟩

/-- After a commit under a new stamp nothing is left to show of an old copy. -/
theorem commit (h : StampedCopy known current stamp p) (hNew : new ∉ known) (q : Prop) :
    StampedCopy (insert new known) new stamp q :=
  ⟨Set.mem_insert_of_mem new h.known, fun hStamp => absurd (hStamp ▸ h.known) hNew⟩

end StampedCopy

end ProcureFoundation
