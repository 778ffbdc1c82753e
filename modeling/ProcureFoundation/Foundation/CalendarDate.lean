import Mathlib.Order.Basic
import Mathlib.Order.Lattice
import Mathlib.Tactic.Common

/-!
# Calendar dates

A date carries the proof that its day exists in its month, so every stored date is a
real one. Dates are ordered as their year, month and day read.
-/

namespace ProcureFoundation

def isLeap (year : ℕ) : Bool := year % 4 == 0 && (year % 100 != 0 || year % 400 == 0)

def daysInMonth (year month : ℕ) : ℕ :=
  if month = 2 then (if isLeap year then 29 else 28)
  else if month = 4 ∨ month = 6 ∨ month = 9 ∨ month = 11 then 30
  else 31

theorem daysInMonth_le (year month : ℕ) : daysInMonth year month ≤ 31 := by
  unfold daysInMonth
  split_ifs <;> omega

structure Date where
  year : ℕ
  month : ℕ
  day : ℕ
  valid : (1 ≤ year ∧ year ≤ 9999) ∧ (1 ≤ month ∧ month ≤ 12) ∧ 1 ≤ day ∧
    day ≤ daysInMonth year month
deriving DecidableEq

namespace Date

def make (year month day : ℕ) : Option Date :=
  if h : (1 ≤ year ∧ year ≤ 9999) ∧ (1 ≤ month ∧ month ≤ 12) ∧ 1 ≤ day ∧
    day ≤ daysInMonth year month then
    some ⟨year, month, day, h⟩
  else none

def key (d : Date) : ℕ := d.year * 10000 + d.month * 100 + d.day

theorem key_injective : Function.Injective key := by
  rintro ⟨y, m, d, _, _, _, hd⟩ ⟨y', m', d', _, _, _, hd'⟩ h
  have hd31 := hd.trans (daysInMonth_le y m)
  have hd31' := hd'.trans (daysInMonth_le y' m')
  simp only [key] at h
  obtain ⟨hy, hm, hday⟩ : y = y' ∧ m = m' ∧ d = d' := by omega
  subst hy hm hday
  rfl

def isoFormat (d : Date) : String :=
  let padded := fun width n => String.ofList ((toString n).toList.leftpad width '0')
  padded 4 d.year ++ "-" ++ padded 2 d.month ++ "-" ++ padded 2 d.day

instance : LinearOrder Date := LinearOrder.lift' key key_injective

end Date

end ProcureFoundation
