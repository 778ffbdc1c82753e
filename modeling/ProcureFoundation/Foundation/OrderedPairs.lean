import Mathlib.Data.List.Basic
import Mathlib.Tactic.Common

/-!
# Pairs in the order of a list

The pairs of a list are those of its first element with each later one, followed by those of the
rest. Two distinct elements form one of them in one of the two orders.
-/

namespace ProcureFoundation

variable {α : Type*} {a b : α} {xs : List α}

def pairsOf : List α → List (α × α)
  | [] => []
  | x :: xs => xs.map (Prod.mk x) ++ pairsOf xs

theorem mem_pairsOf_cons {x : α} : (a, b) ∈ pairsOf (x :: xs) ↔
    (a = x ∧ b ∈ xs) ∨ (a, b) ∈ pairsOf xs := by
  rw [pairsOf, List.mem_append, List.mem_map]
  refine or_congr_left ?_
  constructor
  · rintro ⟨y, hMem, hEq⟩
    obtain ⟨rfl, rfl⟩ := Prod.mk.inj hEq
    exact ⟨rfl, hMem⟩
  · rintro ⟨rfl, hMem⟩
    exact ⟨b, hMem, rfl⟩

theorem mem_of_mem_pairsOf (h : (a, b) ∈ pairsOf xs) : a ∈ xs ∧ b ∈ xs := by
  induction xs with
  | nil => exact absurd h List.not_mem_nil
  | cons x xs ih =>
    obtain ⟨rfl, hMem⟩ | hRest := mem_pairsOf_cons.mp h
    · exact ⟨List.mem_cons_self, List.mem_cons_of_mem _ hMem⟩
    · exact ⟨List.mem_cons_of_mem _ (ih hRest).1, List.mem_cons_of_mem _ (ih hRest).2⟩

theorem ne_of_mem_pairsOf (hNodup : xs.Nodup) (h : (a, b) ∈ pairsOf xs) : a ≠ b := by
  induction xs with
  | nil => exact absurd h List.not_mem_nil
  | cons x xs ih =>
    rw [List.nodup_cons] at hNodup
    obtain ⟨rfl, hMem⟩ | hRest := mem_pairsOf_cons.mp h
    · exact fun hEq => hNodup.1 (hEq ▸ hMem)
    · exact ih hNodup.2 hRest

end ProcureFoundation
