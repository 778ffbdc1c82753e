import Mathlib.Data.List.Forall2
import Mathlib.Tactic.Common

/-!
# Outcomes

Computations that return a value or raise: a sequence returns when its parts do, and a
list of computations returns the list of their values.
-/

namespace ProcureFoundation.Outcome

variable {ε α β : Type}

theorem exists_of_bind_eq_ok {x : Except ε α} {f : α → Except ε β} {result : β}
    (h : (x >>= f) = .ok result) : ∃ value, x = .ok value ∧ f value = .ok result := by
  cases x with
  | error e => exact nomatch h
  | ok value => exact ⟨value, rfl, h⟩

theorem bind_of_eq_ok {x : Except ε α} {value : α} (h : x = .ok value) (f : α → Except ε β) :
    (x >>= f) = f value := by
  rw [h]
  rfl

theorem exists_of_map_eq_ok {x : Except ε α} {f : α → β} {result : β} (h : x.map f = .ok result) :
    ∃ value, x = .ok value ∧ f value = result := by
  cases x with
  | error e => exact nomatch h
  | ok value => exact ⟨value, rfl, Except.ok.inj h⟩

theorem eq_ok_of_mapError {ε' : Type} {x : Except ε α} {f : ε → ε'} {value : α}
    (h : x.mapError f = .ok value) : x = .ok value := by
  cases x with
  | error e => exact nomatch h
  | ok found => rw [Except.ok.inj h]

theorem bind_of_eq_error {x : Except ε α} {e : ε} (h : x = .error e) (f : α → Except ε β) :
    (x >>= f) = .error e := by
  rw [h]
  rfl

theorem bind_pure_eq_ok {x : Except ε α} {g : α → β} {result : β} :
    (x >>= fun value => pure (g value)) = .ok result ↔
      ∃ value, x = .ok value ∧ result = g value := by
  constructor
  · intro h
    obtain ⟨value, hValue, hResult⟩ := exists_of_bind_eq_ok h
    exact ⟨value, hValue, (Except.ok.inj hResult).symm⟩
  · rintro ⟨value, rfl, rfl⟩
    rfl

theorem bind_pure_eq_error {x : Except ε α} {g : α → β} {e : ε} :
    (x >>= fun value => pure (g value)) = .error e ↔ x = .error e := by
  cases x with
  | error other =>
    exact ⟨fun h => congrArg _ (Except.error.inj h), fun h => congrArg _ (Except.error.inj h)⟩
  | ok value => exact iff_of_false (fun h => nomatch h) fun h => nomatch h

theorem exists_bind {x : Except ε α} {f : α → Except ε β} (hx : ∃ value, x = .ok value)
    (hf : ∀ value, ∃ result, f value = .ok result) : ∃ result, (x >>= f) = .ok result := by
  obtain ⟨value, hValue⟩ := hx
  rw [bind_of_eq_ok hValue]
  exact hf value

theorem exists_of_any {x : Except ε α} {p : α → Bool} (h : x.toOption.any p = true) :
    ∃ value, x = .ok value ∧ p value = true := by
  cases x with
  | error e => exact nomatch h
  | ok value => exact ⟨value, rfl, h⟩

theorem mapM_eq_ok {f : α → Except ε β} {xs : List α} {ys : List β} :
    xs.mapM f = .ok ys ↔ List.Forall₂ (fun x y => f x = .ok y) xs ys := by
  induction xs generalizing ys with
  | nil =>
    rw [List.mapM_nil, List.forall₂_nil_left_iff]
    constructor
    · intro h
      exact (Except.ok.inj h).symm
    · rintro rfl
      rfl
  | cons x xs ih =>
    rw [List.mapM_cons]
    constructor
    · intro h
      obtain ⟨y, hy, h⟩ := exists_of_bind_eq_ok h
      obtain ⟨rest, hRest, h⟩ := exists_of_bind_eq_ok h
      obtain rfl := Except.ok.inj h
      exact .cons hy (ih.mp hRest)
    · rintro (_ | ⟨hy, hRest⟩)
      rw [bind_of_eq_ok hy, bind_of_eq_ok (ih.mpr hRest)]
      rfl

section Elements

variable {γ : Type} {f : α → Except ε β} {g : α → γ} {k : β → γ} {xs : List α} {ys : List β} {x : α}
  {y : β}

theorem exists_mapM (h : ∀ x ∈ xs, ∃ y, f x = .ok y) : ∃ ys, xs.mapM f = .ok ys := by
  induction xs with
  | nil => exact ⟨[], rfl⟩
  | cons x xs ih =>
    obtain ⟨⟨y, hy⟩, hRest⟩ := List.forall_mem_cons.mp h
    obtain ⟨ys, hys⟩ := ih hRest
    exact ⟨y :: ys, mapM_eq_ok.mpr (.cons hy (mapM_eq_ok.mp hys))⟩

theorem exists_of_mem_mapM (h : xs.mapM f = .ok ys) (hx : x ∈ xs) : ∃ y, f x = .ok y := by
  rw [mapM_eq_ok] at h
  induction h with
  | nil => exact nomatch hx
  | cons hHead _ ih =>
    obtain rfl | hRest := List.mem_cons.mp hx
    · exact ⟨_, hHead⟩
    · exact ih hRest

theorem exists_source_of_mem (h : xs.mapM f = .ok ys) (hy : y ∈ ys) : ∃ x ∈ xs, f x = .ok y := by
  rw [mapM_eq_ok] at h
  induction h with
  | nil => exact nomatch hy
  | cons hHead _ ih =>
    obtain rfl | hRest := List.mem_cons.mp hy
    · exact ⟨_, List.mem_cons_self, hHead⟩
    · obtain ⟨x, hx, hSource⟩ := ih hRest
      exact ⟨x, List.mem_cons_of_mem _ hx, hSource⟩

theorem map_eq_of_mapM (h : xs.mapM f = .ok ys) (hf : ∀ x y, f x = .ok y → k y = g x) :
    ys.map k = xs.map g := by
  rw [mapM_eq_ok] at h
  induction h with
  | nil => rfl
  | cons hHead _ ih => rw [List.map_cons, List.map_cons, ih, hf _ _ hHead]

theorem mapM_map_eq_ok {h : α → γ} {k : γ → Except ε β} {j : α → β}
    (hElements : ∀ x ∈ xs, k (h x) = .ok (j x)) : (xs.map h).mapM k = .ok (xs.map j) := by
  rw [mapM_eq_ok, List.forall₂_map_left_iff, List.forall₂_map_right_iff, List.forall₂_same]
  exact hElements

end Elements

/-- When an element returns under a condition of its own, the list returns when all its elements
pass. -/
theorem mapM_eq_ok_iff {f : α → Except ε β} {passes : α → Prop} {g : α → β}
    (hf : ∀ x y, f x = .ok y ↔ passes x ∧ y = g x) {xs : List α} {ys : List β} :
    xs.mapM f = .ok ys ↔ (∀ x ∈ xs, passes x) ∧ ys = xs.map g := by
  rw [mapM_eq_ok]
  induction xs generalizing ys with
  | nil =>
    rw [List.forall₂_nil_left_iff]
    constructor
    · intro h
      exact ⟨fun x hx => (List.not_mem_nil hx).elim, h⟩
    · intro h
      exact h.2
  | cons x xs ih =>
    rw [List.forall₂_cons_left_iff, List.forall_mem_cons, List.map_cons]
    constructor
    · rintro ⟨y, rest, hy, hRest, rfl⟩
      obtain ⟨hx, rfl⟩ := (hf x y).mp hy
      obtain ⟨hAll, rfl⟩ := ih.mp hRest
      exact ⟨⟨hx, hAll⟩, rfl⟩
    · rintro ⟨⟨hx, hAll⟩, rfl⟩
      exact ⟨g x, xs.map g, (hf x _).mpr ⟨hx, rfl⟩, ih.mpr ⟨hAll, rfl⟩, rfl⟩

theorem exists_mapM_mapM {γ : Type} {f : α → Except ε β} {g : β → Except ε γ} {R : α → γ → Prop}
    {xs : List α} : (∃ zs, (∃ ys, xs.mapM f = .ok ys ∧ ys.mapM g = .ok zs) ∧ List.Forall₂ R xs zs) ↔
      ∀ x ∈ xs, ∃ z, (∃ y, f x = .ok y ∧ g y = .ok z) ∧ R x z := by
  simp only [mapM_eq_ok]
  induction xs with
  | nil => exact iff_of_true ⟨[], ⟨[], .nil, .nil⟩, .nil⟩ fun x hx => (List.not_mem_nil hx).elim
  | cons x xs ih =>
    rw [List.forall_mem_cons, ← ih]
    constructor
    · rintro ⟨_, ⟨_, hys, hzs⟩, hR⟩
      cases hys with
      | cons hy hys =>
        cases hzs with
        | cons hz hzs =>
          cases hR with
          | cons hx hR => exact ⟨⟨_, ⟨_, hy, hz⟩, hx⟩, _, ⟨_, hys, hzs⟩, hR⟩
    · rintro ⟨⟨z, ⟨y, hy, hz⟩, hx⟩, zs, ⟨ys, hys, hzs⟩, hR⟩
      exact ⟨z :: zs, ⟨y :: ys, .cons hy hys, .cons hz hzs⟩, .cons hx hR⟩

end ProcureFoundation.Outcome
