import Mathlib.Data.Int.Log
import Mathlib.Data.Rat.Floor
import Mathlib.Algebra.Order.Field.Power
import Mathlib.Algebra.BigOperators.Group.List.Basic
import Mathlib.Tactic.FieldSimp
import Mathlib.Tactic.Linarith
import Mathlib.Tactic.NormNum
import Mathlib.Tactic.Positivity
import Mathlib.Tactic.Ring

/-!
# Fixed-point decimals

A value with `s` decimals is an integer number of units of `10⁻ˢ`, so a column of
that scale cannot hold anything else. Quantizing rounds half to even, whereas
assigning to a column rounds half away from zero; both are the identity on values
that already have the scale.
-/

namespace ProcureFoundation

def roundHalfEven (q : ℚ) : ℤ :=
  let low := ⌊q⌋
  let part := q - low
  if part < 1 / 2 then low
  else if 1 / 2 < part then low + 1
  else if low % 2 = 0 then low else low + 1

def roundHalfAway (q : ℚ) : ℤ :=
  if 0 ≤ q then ⌊q + 1 / 2⌋ else -⌊-q + 1 / 2⌋

theorem roundHalfEven_intCast (n : ℤ) : roundHalfEven n = n := by
  simp [roundHalfEven]

theorem roundHalfAway_intCast (n : ℤ) : roundHalfAway n = n := by
  unfold roundHalfAway
  have hHalf : ∀ m : ℤ, ⌊(m : ℚ) + 1 / 2⌋ = m := by
    intro m
    rw [Int.floor_eq_iff]
    constructor <;> linarith
  split
  · exact hHalf n
  · have h := hHalf (-n)
    rw [Int.cast_neg] at h
    rw [h, neg_neg]

/-- A product or quotient as the arithmetic context returns it, with 28 significant digits. -/
def contextRound (q : ℚ) : ℚ :=
  let exponent := Int.log 10 |q| - 27
  roundHalfEven (q / 10 ^ exponent) * 10 ^ exponent

structure FixedPoint (s : ℕ) where
  units : ℤ
deriving DecidableEq

namespace FixedPoint

variable {s : ℕ}

def value (x : FixedPoint s) : ℚ := x.units / 10 ^ s

def quantize (s : ℕ) (q : ℚ) : FixedPoint s := ⟨roundHalfEven (q * 10 ^ s)⟩

def assign (s : ℕ) (q : ℚ) : FixedPoint s := ⟨roundHalfAway (q * 10 ^ s)⟩

instance : Zero (FixedPoint s) := ⟨⟨0⟩⟩

instance : Add (FixedPoint s) := ⟨fun x y => ⟨x.units + y.units⟩⟩

instance : Sub (FixedPoint s) := ⟨fun x y => ⟨x.units - y.units⟩⟩

theorem value_mul (x : FixedPoint s) : x.value * 10 ^ s = x.units := by
  unfold value
  field_simp

@[simp] theorem quantize_value (x : FixedPoint s) : quantize s x.value = x := by
  rw [quantize, value_mul, roundHalfEven_intCast]

@[simp] theorem assign_value (x : FixedPoint s) : assign s x.value = x := by
  rw [assign, value_mul, roundHalfAway_intCast]

@[simp] theorem assign_comp_value : assign s ∘ value = id := by
  funext x
  exact assign_value x

@[simp] theorem value_zero : (0 : FixedPoint s).value = 0 := by
  change ((0 : ℤ) : ℚ) / 10 ^ s = 0
  simp

theorem value_add (x y : FixedPoint s) : (x + y).value = x.value + y.value := by
  change ((x.units + y.units : ℤ) : ℚ) / 10 ^ s = x.units / 10 ^ s + y.units / 10 ^ s
  rw [Int.cast_add, add_div]

theorem value_sub (x y : FixedPoint s) : (x - y).value = x.value - y.value := by
  change ((x.units - y.units : ℤ) : ℚ) / 10 ^ s = x.units / 10 ^ s - y.units / 10 ^ s
  rw [Int.cast_sub, sub_div]

theorem exists_value_eq_sum (qs : List ℚ) (h : ∀ q ∈ qs, ∃ x : FixedPoint s, x.value = q) :
    ∃ x : FixedPoint s, x.value = qs.sum := by
  induction qs with
  | nil => exact ⟨0, value_zero⟩
  | cons q qs ih =>
    obtain ⟨x, hx⟩ := h q List.mem_cons_self
    obtain ⟨y, hy⟩ := ih fun q hq => h q (List.mem_cons_of_mem _ hq)
    exact ⟨x + y, by rw [value_add, hx, hy, List.sum_cons]⟩

theorem value_quantize_sum (qs : List ℚ) (h : ∀ q ∈ qs, ∃ x : FixedPoint s, x.value = q) :
    (quantize s qs.sum).value = qs.sum := by
  obtain ⟨x, hx⟩ := exists_value_eq_sum qs h
  rw [← hx, quantize_value]

theorem value_assign_sum (qs : List ℚ) (h : ∀ q ∈ qs, ∃ x : FixedPoint s, x.value = q) :
    (assign s qs.sum).value = qs.sum := by
  obtain ⟨x, hx⟩ := exists_value_eq_sum qs h
  rw [← hx, assign_value]

end FixedPoint

abbrev Money := FixedPoint 4

abbrev Percentage := FixedPoint 6

end ProcureFoundation
