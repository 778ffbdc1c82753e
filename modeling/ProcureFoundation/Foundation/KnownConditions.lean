import ProcureFoundation.Foundation.ThreeValued

/-!
# Known conditions

A comparison with a null is unknown, and a CHECK lets an unknown condition pass. A conjunction that
tests a column for null in front of each comparison of it is known whatever the row holds.
-/

namespace ProcureFoundation.ThreeValued

def Known (condition : Truth) : Prop := condition.isSome

theorem known_some (b : Bool) : Known (some b) := rfl

theorem Known.conj {a b : Truth} (ha : Known a) (hb : Known b) : Known (conj a b) := by
  rcases a with _ | _ | _
  · exact nomatch ha
  · exact known_some false
  · rcases b with _ | _ | _
    · exact nomatch hb
    · exact known_some false
    · exact known_some true

theorem Known.disj {a b : Truth} (ha : Known a) (hb : Known b) : Known (disj a b) := by
  rcases a with _ | _ | _
  · exact nomatch ha
  · rcases b with _ | _ | _
    · exact nomatch hb
    · exact known_some false
    · exact known_some true
  · exact known_some true

theorem known_anyOf {conditions : List Truth} (h : ∀ condition ∈ conditions, Known condition) :
    Known (anyOf conditions) := by
  induction conditions with
  | nil => exact known_some false
  | cons condition conditions ih =>
    exact (h condition List.mem_cons_self).disj
      (ih fun other hOther => h other (List.mem_cons_of_mem _ hOther))

section Guards

variable {α : Type*} {x y : Option α} {rest : List Truth}

theorem known_value {b : Bool} (h : Known (allOf rest)) : Known (allOf (some b :: rest)) :=
  (known_some b).conj h

theorem known_isNull (h : Known (allOf rest)) : Known (allOf (isNull x :: rest)) :=
  (known_some _).conj h

theorem known_isNotNull (h : Known (allOf rest)) : Known (allOf (isNotNull x :: rest)) :=
  (known_some _).conj h

theorem known_guarded_equals [DecidableEq α] {value : α} (h : Known (allOf rest)) :
    Known (allOf (isNotNull x :: equals x (some value) :: rest)) := by
  cases x with
  | none => exact known_some false
  | some content => exact (known_some _).conj (known_value h)

theorem known_guarded_isIn [DecidableEq α] {values : List α} (h : Known (allOf rest)) :
    Known (allOf (isNotNull x :: isIn x values :: rest)) := by
  cases x with
  | none => exact known_some false
  | some content => exact (known_some _).conj (known_value h)

theorem known_guarded_atMost [LinearOrder α] (h : Known (allOf rest)) :
    Known (allOf (isNotNull x :: isNotNull y :: atMost x y :: rest)) := by
  cases x with
  | none => exact known_some false
  | some low =>
    cases y with
    | none => exact known_some false
    | some high => exact (known_some _).conj ((known_some _).conj (known_value h))

end Guards

end ProcureFoundation.ThreeValued
