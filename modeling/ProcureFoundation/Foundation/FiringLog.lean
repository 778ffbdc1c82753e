import Mathlib.Data.List.Nodup
import Mathlib.Tactic.Common

/-!
# Firing logs

At each time some kinds of events are due, and those that the log does not hold yet are added to it.
No kind is added twice, and each is added at the first time at which it is due.
-/

namespace ProcureFoundation

variable {κ τ : Type} [DecidableEq κ] (due : τ → List κ)

def fire (log : List (κ × τ)) (time : τ) : List (κ × τ) :=
  log ++ ((due time).filter fun kind => decide (kind ∉ log.map Prod.fst)).map fun kind =>
    (kind, time)

def fireAll (log : List (κ × τ)) (times : List τ) : List (κ × τ) := times.foldl (fire due) log

variable {due} {log : List (κ × τ)} {times : List τ} {time : τ} {kind : κ}

theorem map_fst_fire : (fire due log time).map Prod.fst =
    log.map Prod.fst ++ (due time).filter fun kind => decide (kind ∉ log.map Prod.fst) := by
  rw [fire, List.map_append, List.map_map]
  exact congrArg _ (List.map_id _)

theorem mem_kinds_fire : kind ∈ (fire due log time).map Prod.fst ↔
    kind ∈ log.map Prod.fst ∨ kind ∈ due time := by
  rw [map_fst_fire, List.mem_append, List.mem_filter, decide_eq_true_iff]
  by_cases hFired : kind ∈ log.map Prod.fst
  · exact iff_of_true (.inl hFired) (.inl hFired)
  · rw [and_iff_left hFired]

theorem nodup_fire (hDue : (due time).Nodup) (hLog : (log.map Prod.fst).Nodup) :
    ((fire due log time).map Prod.fst).Nodup := by
  rw [map_fst_fire]
  refine hLog.append (hDue.filter _) fun kind hFired hNew => ?_
  rw [List.mem_filter, decide_eq_true_iff] at hNew
  exact hNew.2 hFired

/-- A kind that the log holds already is not added again. -/
theorem mem_fireAll_of_fired (h : kind ∈ log.map Prod.fst) :
    (kind, time) ∈ fireAll due log times ↔ (kind, time) ∈ log := by
  induction times generalizing log with
  | nil => exact Iff.rfl
  | cons next times ih =>
    rw [fireAll, List.foldl_cons, ← fireAll, ih (mem_kinds_fire.mpr (.inl h)), fire,
      List.mem_append]
    refine or_iff_left fun hNew => ?_
    obtain ⟨other, hOther, hEq⟩ := List.mem_map.mp hNew
    rw [(Prod.mk.inj hEq).1, List.mem_filter, decide_eq_true_iff] at hOther
    exact hOther.2 h

/-- A kind that the log does not hold is added at the first time at which it is due. -/
theorem mem_fireAll (h : kind ∉ log.map Prod.fst) :
    (kind, time) ∈ fireAll due log times ↔
      times.find? (fun time => decide (kind ∈ due time)) = some time := by
  induction times generalizing log with
  | nil => exact iff_of_false (fun hMem => h (List.mem_map_of_mem hMem)) (fun hFound => nomatch hFound)
  | cons next times ih =>
    rw [fireAll, List.foldl_cons, ← fireAll]
    by_cases hDue : kind ∈ due next
    · have hFires : (kind, time) ∈ fire due log next ↔ next = time := by
        rw [fire, List.mem_append, or_iff_right fun hMem => h (List.mem_map_of_mem hMem),
          List.mem_map]
        constructor
        · rintro ⟨_, -, hEq⟩
          exact (Prod.mk.inj hEq).2
        · rintro rfl
          exact ⟨kind, List.mem_filter.mpr ⟨hDue, decide_eq_true h⟩, rfl⟩
      rw [mem_fireAll_of_fired (mem_kinds_fire.mpr (.inr hDue)), hFires,
        List.find?_cons_of_pos (by simpa using hDue), Option.some.injEq]
    · have hNotFired : kind ∉ (fire due log next).map Prod.fst := fun hFired =>
        (mem_kinds_fire.mp hFired).elim h hDue
      rw [ih hNotFired, List.find?_cons_of_neg (by simpa using hDue)]

theorem find?_eq_time [DecidableEq τ] {found : τ} :
    times.find? (fun other => decide (other = time)) = some found ↔
      found = time ∧ time ∈ times := by
  constructor
  · intro h
    have hFound := List.find?_some h
    rw [decide_eq_true_iff] at hFound
    subst hFound
    exact ⟨rfl, List.mem_of_find?_eq_some h⟩
  · rintro ⟨rfl, hMem⟩
    have hSome : (times.find? fun other => decide (other = found)).isSome = true :=
      List.find?_isSome.mpr ⟨found, hMem, decide_eq_true rfl⟩
    obtain ⟨other, hOther⟩ := Option.isSome_iff_exists.mp hSome
    have hEq := List.find?_some hOther
    rw [decide_eq_true_iff] at hEq
    rw [hOther, hEq]

end ProcureFoundation
