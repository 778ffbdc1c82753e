import Mathlib.Data.List.Nodup
import Mathlib.Tactic.Common

/-!
# First touches

Elements that come again and again are kept once, in the order in which they come for the first
time.
-/

namespace ProcureFoundation

variable {α : Type*} [DecidableEq α]

def touch (seen : List α) (x : α) : List α := if x ∈ seen then seen else seen ++ [x]

/-- What has been touched, each once and in the order of the first time. -/
structure FirstTouches (seen touched : List α) : Prop where
  nodup : seen.Nodup
  mem_iff : ∀ x, x ∈ seen ↔ x ∈ touched
  order : seen.Pairwise fun x y => touched.idxOf x < touched.idxOf y

namespace FirstTouches

variable {seen touched : List α} {x : α}

theorem nil : FirstTouches ([] : List α) [] where
  nodup := List.nodup_nil
  mem_iff _ := Iff.rfl
  order := List.Pairwise.nil

theorem order_append (h : FirstTouches seen touched) (more : List α) :
    seen.Pairwise fun x y => (touched ++ more).idxOf x < (touched ++ more).idxOf y := by
  refine h.order.imp_of_mem fun hx hy hLess => ?_
  rw [List.idxOf_append_of_mem ((h.mem_iff _).mp hx),
    List.idxOf_append_of_mem ((h.mem_iff _).mp hy)]
  exact hLess

theorem touch (h : FirstTouches seen touched) (x : α) : FirstTouches (touch seen x)
    (touched ++ [x]) := by
  unfold ProcureFoundation.touch
  by_cases hSeen : x ∈ seen
  · rw [if_pos hSeen]
    refine ⟨h.nodup, fun y => ?_, h.order_append [x]⟩
    rw [List.mem_append, List.mem_singleton, h.mem_iff, or_iff_left_of_imp]
    rintro rfl
    exact (h.mem_iff y).mp hSeen
  · rw [if_neg hSeen]
    refine ⟨?_, fun y => ?_, ?_⟩
    · rw [← List.concat_eq_append]
      exact h.nodup.concat hSeen
    · rw [List.mem_append, List.mem_append, h.mem_iff]
    · rw [List.pairwise_append]
      refine ⟨h.order_append [x], List.pairwise_singleton _ _, fun y hy z hz => ?_⟩
      obtain rfl := List.mem_singleton.mp hz
      have hTouched : y ∈ touched := (h.mem_iff y).mp hy
      rw [List.idxOf_append_of_mem hTouched, List.idxOf_append_of_notMem fun hz =>
        hSeen ((h.mem_iff z).mpr hz)]
      exact Nat.lt_add_right _ (List.idxOf_lt_length_of_mem hTouched)

end FirstTouches

end ProcureFoundation
