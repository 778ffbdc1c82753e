import Mathlib.Data.Int.ConditionallyCompleteOrder
import Mathlib.Data.Set.Finite.Lemmas
import Mathlib.Order.ConditionallyCompleteLattice.Basic
import Mathlib.Order.Interval.Set.Basic
import Mathlib.Tactic.Common

/-!
# Versioned logs

A log keeps entries of many series, each entry carrying a version within its own
series. If versions are positive and never repeated, and every entry past the first
finds its immediate predecessor in the log, then each series is numbered `1..n`
and consecutive entries are linked. One step back is enough: nothing is assumed
about the order in which entries arrived.
-/

namespace ProcureFoundation.VersionedLog

variable {ε κ : Type*}

structure Linked (key : ε → κ) (version : ε → ℤ) (link : ε → ε → Prop) (log : Set ε) : Prop where
  positive : ∀ e ∈ log, 0 < version e
  unique : ∀ e ∈ log, ∀ f ∈ log, key e = key f → version e = version f → e = f
  predecessor : ∀ e ∈ log, version e ≠ 1 →
    ∃ p ∈ log, key p = key e ∧ version p = version e - 1 ∧ link p e

def versions (key : ε → κ) (version : ε → ℤ) (log : Set ε) (k : κ) : Set ℤ :=
  {v | ∃ e ∈ log, key e = k ∧ version e = v}

variable {key : ε → κ} {version : ε → ℤ} {link : ε → ε → Prop} {log : Set ε}

theorem Linked.empty : Linked key version link ∅ where
  positive _ he := he.elim
  unique _ he := he.elim
  predecessor _ he := he.elim

theorem Linked.successor_linked (h : Linked key version link log) {e f : ε} (he : e ∈ log)
    (hf : f ∈ log) (hKey : key e = key f) (hNext : version f = version e + 1) : link e f := by
  have hPos := h.positive e he
  obtain ⟨p, hp, hpKey, hpVersion, hLink⟩ := h.predecessor f hf (by omega)
  have hEq : p = e := h.unique p hp e he (hpKey.trans hKey.symm) (by omega)
  exact hEq ▸ hLink

theorem Linked.mem_versions_of_le (h : Linked key version link log) {k : κ} {v w : ℤ}
    (hv : v ∈ versions key version log k) (hw : 1 ≤ w) (hwv : w ≤ v) :
    w ∈ versions key version log k := by
  induction v, hwv using Int.leInduction with
  | base => exact hv
  | succ v hle ih =>
    obtain ⟨e, he, hKey, hVersion⟩ := hv
    obtain ⟨p, hp, hpKey, hpVersion, _⟩ := h.predecessor e he (by omega)
    exact ih ⟨p, hp, hpKey.trans hKey, by omega⟩

/-- The versions of every series of a finite linked log are exactly `1..n`. -/
theorem Linked.versions_eq_Icc (h : Linked key version link log) (hFinite : log.Finite) (k : κ) :
    ∃ n : ℕ, versions key version log k = Set.Icc 1 (n : ℤ) := by
  have hImage : versions key version log k ⊆ version '' log := by
    rintro v ⟨e, he, _, rfl⟩
    exact ⟨e, he, rfl⟩
  rcases (versions key version log k).eq_empty_or_nonempty with hEmpty | hNonempty
  · exact ⟨0, by rw [hEmpty]; simp⟩
  · obtain ⟨top, hTop, hMax⟩ :=
      Set.exists_max_image _ id ((hFinite.image version).subset hImage) hNonempty
    obtain ⟨e, he, _, hVersion⟩ := id hTop
    have hPos := h.positive e he
    refine ⟨top.toNat, ?_⟩
    rw [Int.toNat_of_nonneg (by omega)]
    ext w
    constructor
    · rintro hw
      obtain ⟨f, hf, _, hfVersion⟩ := id hw
      have hfPos := h.positive f hf
      exact ⟨by omega, hMax w hw⟩
    · rintro ⟨hw, hwTop⟩
      exact h.mem_versions_of_le hTop hw hwTop

end ProcureFoundation.VersionedLog
