import Mathlib.Order.Lattice
import Mathlib.Tactic.Common

/-!
# Three-valued conditions over nullable columns

A condition is true, false or unknown. A CHECK rejects a row only when its
condition is false, whereas IF and WHERE act only when it is true, so the two
readings differ exactly on unknown conditions. Both commute with the connectives.
-/

namespace ProcureFoundation.ThreeValued

/-- The value `none` is the unknown truth value. -/
abbrev Truth := Option Bool

def conj : Truth → Truth → Truth
  | some false, _ => some false
  | _, some false => some false
  | some true, some true => some true
  | _, _ => none

def disj : Truth → Truth → Truth
  | some true, _ => some true
  | _, some true => some true
  | some false, some false => some false
  | _, _ => none

def allOf (conditions : List Truth) : Truth := conditions.foldr conj (some true)

def anyOf (conditions : List Truth) : Truth := conditions.foldr disj (some false)

variable {α : Type*}

def isNull (x : Option α) : Truth := some x.isNone

def isNotNull (x : Option α) : Truth := some x.isSome

def equals [DecidableEq α] : Option α → Option α → Truth
  | some x, some y => some (decide (x = y))
  | _, _ => none

def differs [DecidableEq α] (x y : Option α) : Truth := (equals x y).map not

def isIn [DecidableEq α] (x : Option α) (values : List α) : Truth :=
  x.map fun value => decide (value ∈ values)

def notIn [DecidableEq α] (x : Option α) (values : List α) : Truth := (isIn x values).map not

def atMost [LinearOrder α] : Option α → Option α → Truth
  | some x, some y => some (decide (x ≤ y))
  | _, _ => none

def below [LinearOrder α] : Option α → Option α → Truth
  | some x, some y => some (decide (x < y))
  | _, _ => none

/-- The null-safe comparison is never unknown. -/
def isDistinctFrom [DecidableEq α] (x y : Option α) : Truth := some (decide (x ≠ y))

/-- A CHECK accepts a row unless its condition is false. -/
def passes (condition : Truth) : Bool := condition != some false

/-- IF and WHERE take a condition only when it is true. -/
def holds (condition : Truth) : Bool := condition == some true

@[simp] theorem passes_conj (a b : Truth) : passes (conj a b) = (passes a && passes b) := by
  rcases a with _ | _ | _ <;> rcases b with _ | _ | _ <;> rfl

@[simp] theorem passes_disj (a b : Truth) : passes (disj a b) = (passes a || passes b) := by
  rcases a with _ | _ | _ <;> rcases b with _ | _ | _ <;> rfl

@[simp] theorem holds_conj (a b : Truth) : holds (conj a b) = (holds a && holds b) := by
  rcases a with _ | _ | _ <;> rcases b with _ | _ | _ <;> rfl

@[simp] theorem holds_disj (a b : Truth) : holds (disj a b) = (holds a || holds b) := by
  rcases a with _ | _ | _ <;> rcases b with _ | _ | _ <;> rfl

@[simp] theorem passes_some (b : Bool) : passes (some b) = b := by cases b <;> rfl

@[simp] theorem holds_some (b : Bool) : holds (some b) = b := by cases b <;> rfl

@[simp] theorem holds_none : holds none = false := rfl

@[simp] theorem passes_allOf (conditions : List Truth) :
    passes (allOf conditions) = conditions.all passes := by
  induction conditions with
  | nil => rfl
  | cons head tail ih =>
    rw [List.all_cons, ← ih, ← passes_conj]
    rfl

@[simp] theorem passes_anyOf (conditions : List Truth) :
    passes (anyOf conditions) = conditions.any passes := by
  induction conditions with
  | nil => rfl
  | cons head tail ih =>
    rw [List.any_cons, ← ih, ← passes_disj]
    rfl

@[simp] theorem holds_anyOf (conditions : List Truth) :
    holds (anyOf conditions) = conditions.any holds := by
  induction conditions with
  | nil => rfl
  | cons head tail ih =>
    rw [List.any_cons, ← ih, ← holds_disj]
    rfl

@[simp] theorem passes_isNull (x : Option α) : passes (isNull x) = x.isNone := passes_some _

@[simp] theorem passes_isNotNull (x : Option α) : passes (isNotNull x) = x.isSome := passes_some _

section Comparisons

variable [DecidableEq α]

@[simp] theorem holds_isDistinctFrom (x y : Option α) :
    holds (isDistinctFrom x y) = decide (x ≠ y) := holds_some _

@[simp] theorem equals_some (x y : α) : equals (some x) (some y) = some (decide (x = y)) := rfl

@[simp] theorem differs_some (x y : α) :
    differs (some x) (some y) = some (!decide (x = y)) := rfl

@[simp] theorem isIn_some (x : α) (values : List α) :
    isIn (some x) values = some (decide (x ∈ values)) := rfl

@[simp] theorem notIn_some (x : α) (values : List α) :
    notIn (some x) values = some (!decide (x ∈ values)) := rfl

end Comparisons

end ProcureFoundation.ThreeValued
