import ProcureFoundation.CapitalInvestment.SignRule

/-!
# The internal rate of return

The rate at which the net present value is zero is searched for by halving, from -99.99 % to 10000
%, and only for flows with exactly one change of sign. Such flows have exactly one rate. The halving
loses it in one case: where the lower end is the rate itself and the first flow that is not zero is
an outlay, a value of zero counts as not positive, like the values beyond the rate, so that the
search moves away from it.
-/

namespace ProcureFoundation.CapitalInvestment

structure Bracket where
  low : ℚ
  high : ℚ
  npvLow : ℚ

def Bracket.mid (bracket : Bracket) : ℚ := (bracket.low + bracket.high) / 2

def narrow (cashFlows : List ℚ) (bracket : Bracket) : Bracket :=
  let npvMid := npvAtRate bracket.mid cashFlows
  if decide (0 < npvMid) = decide (0 < bracket.npvLow) then ⟨bracket.mid, bracket.high, npvMid⟩
  else { bracket with high := bracket.mid }

def search (cashFlows : List ℚ) (tolerance : ℚ) : ℕ → Bracket → Option Rate
  | 0, _ => none
  | iterations + 1, bracket =>
    if |npvAtRate bracket.mid cashFlows| < tolerance then some (roundRate bracket.mid)
    else search cashFlows tolerance iterations (narrow cashFlows bracket)

def lowestRate : ℚ := -9999 / 10000

def highestRate : ℚ := 100

def firstBracket (cashFlows : List ℚ) : Bracket :=
  ⟨lowestRate, highestRate, npvAtRate lowestRate cashFlows⟩

def calculateIrr (cashFlows : List ℚ) (maxIterations : ℕ) (tolerance : ℚ) : Option Rate :=
  if countSignChanges cashFlows ≠ 1 then none
  else if 0 < npvAtRate lowestRate cashFlows * npvAtRate highestRate cashFlows then none
  else search cashFlows tolerance maxIterations (firstBracket cashFlows)

def defaultIterations : ℕ := 200

def defaultTolerance : ℚ := 1 / 10000000

/-- The bracket after some iterations. -/
def bracketAfter (cashFlows : List ℚ) (iterations : ℕ) : Bracket :=
  (narrow cashFlows)^[iterations] (firstBracket cashFlows)

/-- The search is entered and does not end within so many iterations. -/
structure Enters (cashFlows : List ℚ) (maxIterations : ℕ) (tolerance : ℚ) (iterations : ℕ) :
    Prop where
  bracketed : npvAtRate lowestRate cashFlows * npvAtRate highestRate cashFlows ≤ 0
  allowed : iterations ≤ maxIterations
  goesOn : ∀ i < iterations, tolerance ≤ |npvAtRate (bracketAfter cashFlows i).mid cashFlows|

section Runs

variable {cashFlows : List ℚ} {bracket : Bracket} {tolerance : ℚ} {rate : Rate}

theorem narrow_width : (narrow cashFlows bracket).high - (narrow cashFlows bracket).low =
    (bracket.high - bracket.low) / 2 := by
  unfold narrow
  dsimp only
  split
  · rw [Bracket.mid]
    ring
  · rw [Bracket.mid]
    ring

theorem bracketAfter_succ (iterations : ℕ) :
    bracketAfter cashFlows (iterations + 1) =
      narrow cashFlows (bracketAfter cashFlows iterations) :=
  Function.iterate_succ_apply' _ _ _

theorem npvLow_narrow (h : bracket.npvLow = npvAtRate bracket.low cashFlows) :
    (narrow cashFlows bracket).npvLow = npvAtRate (narrow cashFlows bracket).low cashFlows := by
  unfold narrow
  dsimp only
  split
  · rfl
  · exact h

/-- The search returns the midpoint of the first bracket at which the value is small. -/
theorem search_eq_some_iff {iterations : ℕ} :
    search cashFlows tolerance iterations bracket = some rate ↔
    ∃ i < iterations,
      (∀ j < i, tolerance ≤ |npvAtRate ((narrow cashFlows)^[j] bracket).mid cashFlows|) ∧
      |npvAtRate ((narrow cashFlows)^[i] bracket).mid cashFlows| < tolerance ∧
      rate = roundRate ((narrow cashFlows)^[i] bracket).mid := by
  induction iterations generalizing bracket with
  | zero =>
    constructor
    · intro h
      cases h
    · rintro ⟨i, hi, -⟩
      exact absurd hi (Nat.not_lt_zero i)
  | succ iterations ih =>
    rw [search]
    split
    · rename_i hSmall
      constructor
      · intro h
        exact ⟨0, Nat.succ_pos _, fun j hj => absurd hj (Nat.not_lt_zero j), hSmall,
          (Option.some.inj h).symm⟩
      · rintro ⟨i, -, hBefore, -, rfl⟩
        cases i with
        | zero => rfl
        | succ i => exact absurd hSmall (hBefore 0 (Nat.succ_pos i)).not_gt
    · rename_i hLarge
      rw [ih]
      constructor
      · rintro ⟨i, hi, hBefore, hSmall, hRate⟩
        refine ⟨i + 1, Nat.succ_lt_succ hi, ?_, hSmall, hRate⟩
        intro j hj
        cases j with
        | zero => exact not_lt.mp hLarge
        | succ j => exact hBefore j (Nat.lt_of_succ_lt_succ hj)
      · rintro ⟨i, hi, hBefore, hSmall, hRate⟩
        cases i with
        | zero => exact absurd hSmall hLarge
        | succ i =>
          exact ⟨i, Nat.lt_of_succ_lt_succ hi, fun j hj => hBefore (j + 1) (Nat.succ_lt_succ hj),
            hSmall, hRate⟩

theorem calculateIrr_eq_some_iff {maxIterations : ℕ} :
    calculateIrr cashFlows maxIterations tolerance = some rate ↔
    countSignChanges cashFlows = 1 ∧ ∃ i, Enters cashFlows maxIterations tolerance i ∧
      i < maxIterations ∧
      |npvAtRate (bracketAfter cashFlows i).mid cashFlows| < tolerance ∧
      rate = roundRate (bracketAfter cashFlows i).mid := by
  unfold calculateIrr
  by_cases hOne : countSignChanges cashFlows = 1
  · rw [if_neg (not_not.mpr hOne)]
    by_cases hProduct : 0 < npvAtRate lowestRate cashFlows * npvAtRate highestRate cashFlows
    · rw [if_pos hProduct]
      constructor
      · intro h
        cases h
      · rintro ⟨-, i, hEnters, -⟩
        exact absurd hProduct hEnters.bracketed.not_gt
    · rw [if_neg hProduct, search_eq_some_iff]
      constructor
      · rintro ⟨i, hi, hBefore, hSmall, hRate⟩
        exact ⟨hOne, i, ⟨not_lt.mp hProduct, hi.le, hBefore⟩, hi, hSmall, hRate⟩
      · rintro ⟨-, i, hEnters, hi, hSmall, hRate⟩
        exact ⟨i, hi, hEnters.goesOn, hSmall, hRate⟩
  · rw [if_pos hOne]
    constructor
    · intro h
      cases h
    · rintro ⟨hSame, -⟩
      exact absurd hSame hOne

end Runs

section Brackets

variable {cashFlows : List ℚ} {bracket : Bracket} {root : ℝ} {maxIterations i : ℕ} {tolerance : ℚ}

structure Encloses (bracket : Bracket) (root : ℝ) : Prop where
  low : bracket.low ≤ root
  high : root ≤ bracket.high

theorem signs_at (h : countSignChanges cashFlows = 1) (hRoot : IsIrr cashFlows root) :
    ∃ s : ℚ, s * s = 1 ∧
    ∀ r : ℚ, -1 < r → (0 < s * npvAtRate r cashFlows ↔ (r : ℝ) < root) ∧
      (s * npvAtRate r cashFlows < 0 ↔ root < r) := by
  by_cases hFirst : outlayFirst cashFlows
  · refine ⟨1, one_mul 1, fun r hr => ?_⟩
    rw [one_mul]
    exact signs_of_outlayFirst h hFirst hRoot hr
  · refine ⟨-1, by rw [neg_mul_neg, one_mul], fun r hr => ?_⟩
    rw [neg_one_mul, neg_pos, neg_neg_iff_pos]
    exact (signs_of_outlayLast h hFirst hRoot hr).symm

theorem lowestRate_gt : -1 < lowestRate := by norm_num [lowestRate]

theorem lowestRate_lt_highestRate : lowestRate < highestRate := by
  norm_num [lowestRate, highestRate]

/-- The search is entered exactly where the rate lies in the first bracket. -/
theorem bracketed_iff (h : countSignChanges cashFlows = 1) (hRoot : IsIrr cashFlows root) :
    npvAtRate lowestRate cashFlows * npvAtRate highestRate cashFlows ≤ 0 ↔
      Encloses (firstBracket cashFlows) root := by
  obtain ⟨s, hs, hSigns⟩ := signs_at h hRoot
  obtain ⟨hLowPos, hLowNeg⟩ := hSigns lowestRate lowestRate_gt
  obtain ⟨hHighPos, hHighNeg⟩ := hSigns highestRate (lowestRate_gt.trans lowestRate_lt_highestRate)
  have hOrder : (lowestRate : ℝ) < highestRate := by exact_mod_cast lowestRate_lt_highestRate
  have hProduct : npvAtRate lowestRate cashFlows * npvAtRate highestRate cashFlows =
      s * npvAtRate lowestRate cashFlows * (s * npvAtRate highestRate cashFlows) := by
    rw [mul_mul_mul_comm, hs, one_mul]
  rw [hProduct]
  constructor
  · intro hNonpos
    constructor
    · by_contra hNot
      have hBelow : root < lowestRate := not_le.mp hNot
      exact hNonpos.not_gt
        (mul_pos_of_neg_of_neg (hLowNeg.mpr hBelow) (hHighNeg.mpr (hBelow.trans hOrder)))
    · by_contra hNot
      have hAbove : (highestRate : ℝ) < root := not_le.mp hNot
      exact hNonpos.not_gt (mul_pos (hLowPos.mpr (hOrder.trans hAbove)) (hHighPos.mpr hAbove))
  · rintro ⟨hLow, hHigh⟩
    exact mul_nonpos_of_nonneg_of_nonpos (not_lt.mp fun hNeg => (hLowNeg.mp hNeg).not_ge hLow)
      (not_lt.mp fun hPos => (hHighPos.mp hPos).not_ge hHigh)

theorem mid_between (hOrder : bracket.low < bracket.high) :
    bracket.low < bracket.mid ∧ bracket.mid < bracket.high := by
  unfold Bracket.mid
  constructor
  · linarith
  · linarith

theorem narrow_low (h : decide (0 < npvAtRate bracket.mid cashFlows) = decide (0 < bracket.npvLow)) :
    narrow cashFlows bracket = ⟨bracket.mid, bracket.high, npvAtRate bracket.mid cashFlows⟩ :=
  if_pos h

theorem narrow_high (h : decide (0 < npvAtRate bracket.mid cashFlows) ≠ decide (0 < bracket.npvLow)) :
    narrow cashFlows bracket = ⟨bracket.low, bracket.mid, bracket.npvLow⟩ := if_neg h

/-- What holds of a bracket apart from where the rate lies. -/
structure Proper (cashFlows : List ℚ) (bracket : Bracket) : Prop where
  above : -1 < bracket.low
  order : bracket.low < bracket.high
  npvLow : bracket.npvLow = npvAtRate bracket.low cashFlows

theorem proper_firstBracket : Proper cashFlows (firstBracket cashFlows) :=
  ⟨lowestRate_gt, lowestRate_lt_highestRate, rfl⟩

theorem Proper.narrow (h : Proper cashFlows bracket) :
    Proper cashFlows (narrow cashFlows bracket) := by
  obtain ⟨hLow, hHigh⟩ := mid_between h.order
  refine ⟨?_, ?_, npvLow_narrow h.npvLow⟩
  · unfold CapitalInvestment.narrow
    dsimp only
    split
    · exact h.above.trans hLow
    · exact h.above
  · unfold CapitalInvestment.narrow
    dsimp only
    split
    · exact hHigh
    · exact hLow

theorem proper_bracketAfter (i : ℕ) : Proper cashFlows (bracketAfter cashFlows i) := by
  induction i with
  | zero => exact proper_firstBracket
  | succ i ih =>
    rw [bracketAfter_succ]
    exact ih.narrow

/-- Where the outlay comes first and the rate is above the lower end, the half with the rate is
kept. -/
theorem narrow_of_outlayFirst (h : countSignChanges cashFlows = 1) (hFirst : outlayFirst cashFlows)
    (hRoot : IsIrr cashFlows root) (hProper : Proper cashFlows bracket)
    (hLow : bracket.low < root) : ((bracket.mid : ℝ) < root →
      narrow cashFlows bracket = ⟨bracket.mid, bracket.high, npvAtRate bracket.mid cashFlows⟩) ∧
    (root ≤ bracket.mid →
      narrow cashFlows bracket = ⟨bracket.low, bracket.mid, bracket.npvLow⟩) := by
  have hMid :=
    (signs_of_outlayFirst h hFirst hRoot (hProper.above.trans (mid_between hProper.order).1)).1
  have hPos : 0 < bracket.npvLow := by
    rw [hProper.npvLow]
    exact (signs_of_outlayFirst h hFirst hRoot hProper.above).1.mpr hLow
  constructor
  · intro hBelow
    exact narrow_low ((decide_eq_true (hMid.mpr hBelow)).trans (decide_eq_true hPos).symm)
  · intro hAbove
    refine narrow_high ?_
    rw [decide_eq_true hPos, decide_eq_false fun hMidPos => (hMid.mp hMidPos).not_ge hAbove]
    exact Bool.false_ne_true

/-- Where the lower end is the rate itself and the outlay comes first, the upper half is kept. -/
theorem narrow_of_lost (h : countSignChanges cashFlows = 1) (hFirst : outlayFirst cashFlows)
    (hRoot : IsIrr cashFlows root) (hProper : Proper cashFlows bracket)
    (hLow : root ≤ bracket.low) :
    narrow cashFlows bracket = ⟨bracket.mid, bracket.high, npvAtRate bracket.mid cashFlows⟩ := by
  obtain ⟨hLess, -⟩ := mid_between hProper.order
  have hLessReal : (bracket.low : ℝ) < bracket.mid := by exact_mod_cast hLess
  have hNotPos : ∀ {r : ℚ}, -1 < r → root ≤ r → ¬0 < npvAtRate r cashFlows := fun hr hAbove hPos =>
    ((signs_of_outlayFirst h hFirst hRoot hr).1.mp hPos).not_ge hAbove
  refine narrow_low ?_
  rw [hProper.npvLow, decide_eq_false (hNotPos hProper.above hLow),
    decide_eq_false (hNotPos (hProper.above.trans hLess) (hLow.trans hLessReal.le))]

theorem narrow_of_outlayLast (h : countSignChanges cashFlows = 1) (hFirst : ¬outlayFirst cashFlows)
    (hRoot : IsIrr cashFlows root) (hProper : Proper cashFlows bracket)
    (hLow : bracket.low ≤ root) : ((bracket.mid : ℝ) ≤ root →
      narrow cashFlows bracket = ⟨bracket.mid, bracket.high, npvAtRate bracket.mid cashFlows⟩) ∧
    (root < bracket.mid →
      narrow cashFlows bracket = ⟨bracket.low, bracket.mid, bracket.npvLow⟩) := by
  have hMid :=
    (signs_of_outlayLast h hFirst hRoot (hProper.above.trans (mid_between hProper.order).1)).1
  have hNotPos : ¬0 < bracket.npvLow := by
    rw [hProper.npvLow]
    exact fun hPos => ((signs_of_outlayLast h hFirst hRoot hProper.above).1.mp hPos).not_ge hLow
  constructor
  · intro hBelow
    refine narrow_low ?_
    rw [decide_eq_false hNotPos, decide_eq_false fun hPos => (hMid.mp hPos).not_ge hBelow]
  · intro hAbove
    refine narrow_high ?_
    rw [decide_eq_false hNotPos, decide_eq_true (hMid.mpr hAbove)]
    exact Bool.false_ne_true.symm

/-- The bracket still to be halved holds the rate, and not at its lower end where the outlay comes
first. -/
structure Tracks (cashFlows : List ℚ) (root : ℝ) (bracket : Bracket) : Prop where
  encloses : Encloses bracket root
  strict : outlayFirst cashFlows → bracket.low < root

theorem Tracks.narrow (h : countSignChanges cashFlows = 1) (hRoot : IsIrr cashFlows root)
    (hProper : Proper cashFlows bracket) (hTracks : Tracks cashFlows root bracket) :
    Tracks cashFlows root (narrow cashFlows bracket) := by
  by_cases hFirst : outlayFirst cashFlows
  · obtain ⟨hUpper, hLower⟩ := narrow_of_outlayFirst h hFirst hRoot hProper (hTracks.strict hFirst)
    obtain hBelow | hAbove := lt_or_ge (bracket.mid : ℝ) root
    · rw [hUpper hBelow]
      exact ⟨⟨hBelow.le, hTracks.encloses.high⟩, fun _ => hBelow⟩
    · rw [hLower hAbove]
      exact ⟨⟨hTracks.encloses.low, hAbove⟩, hTracks.strict⟩
  · obtain ⟨hUpper, hLower⟩ := narrow_of_outlayLast h hFirst hRoot hProper hTracks.encloses.low
    obtain hBelow | hAbove := le_or_gt (bracket.mid : ℝ) root
    · rw [hUpper hBelow]
      exact ⟨⟨hBelow, hTracks.encloses.high⟩, fun hOutlay => absurd hOutlay hFirst⟩
    · rw [hLower hAbove]
      exact ⟨⟨hTracks.encloses.low, hAbove.le⟩, fun hOutlay => absurd hOutlay hFirst⟩

theorem tracks_bracketAfter (h : countSignChanges cashFlows = 1) (hRoot : IsIrr cashFlows root)
    (hFirst : Tracks cashFlows root (firstBracket cashFlows)) (i : ℕ) :
    Tracks cashFlows root (bracketAfter cashFlows i) := by
  induction i with
  | zero => exact hFirst
  | succ i ih =>
    rw [bracketAfter_succ]
    exact ih.narrow h hRoot (proper_bracketAfter i)

/-- The search moves away from the rate. -/
structure Lost (cashFlows : List ℚ) : Prop where
  oneChange : countSignChanges cashFlows = 1
  atLowest : npvAtRate lowestRate cashFlows = 0
  outlay : outlayFirst cashFlows

theorem Lost.isIrr (h : Lost cashFlows) : IsIrr cashFlows lowestRate := by
  refine ⟨by exact_mod_cast lowestRate_gt, ?_⟩
  rw [realNpv_cast, h.atLowest, Rat.cast_zero]

theorem tracks_firstBracket (h : countSignChanges cashFlows = 1) (hRoot : IsIrr cashFlows root)
    (hEncloses : Encloses (firstBracket cashFlows) root) (hLost : ¬Lost cashFlows) :
    Tracks cashFlows root (firstBracket cashFlows) := by
  refine ⟨hEncloses, fun hFirst => lt_of_le_of_ne hEncloses.low fun hEq => hLost ⟨h, ?_, hFirst⟩⟩
  have hZero := hRoot.zero
  rw [← hEq, realNpv_cast] at hZero
  exact_mod_cast hZero

/-- What the check of the signs and the bracket are for. -/
structure BracketSound (cashFlows : List ℚ) (maxIterations : ℕ) (tolerance : ℚ) : Prop where
  unique : countSignChanges cashFlows = 1 → ∃! r, IsIrr cashFlows r
  kept : countSignChanges cashFlows = 1 → ∀ i, Enters cashFlows maxIterations tolerance i →
    ∀ r, IsIrr cashFlows r → Encloses (bracketAfter cashFlows i) r
  halved : ∀ i, (bracketAfter cashFlows (i + 1)).high - (bracketAfter cashFlows (i + 1)).low =
    ((bracketAfter cashFlows i).high - (bracketAfter cashFlows i).low) / 2
  refused : countSignChanges cashFlows = 1 →
    0 < npvAtRate lowestRate cashFlows * npvAtRate highestRate cashFlows →
    ∀ r : ℝ, IsIrr cashFlows r → r < lowestRate ∨ highestRate < r
  none : countSignChanges cashFlows = 0 → (∃ cf ∈ cashFlows, cf ≠ 0) → ∀ r, ¬IsIrr cashFlows r

/-- One halving of a bracket with the rate at its lower end leaves the rate outside. -/
theorem not_bracketSound_of_lost (hLost : Lost cashFlows) (hIterations : maxIterations ≠ 0)
    (hLarge : tolerance ≤ |npvAtRate ((lowestRate + highestRate) / 2) cashFlows|) :
    ¬BracketSound cashFlows maxIterations tolerance := by
  intro hSound
  have hEnters : Enters cashFlows maxIterations tolerance 1 := by
    refine ⟨by rw [hLost.atLowest, zero_mul], Nat.one_le_iff_ne_zero.mpr hIterations, fun i hi => ?_⟩
    rw [Nat.lt_one_iff.mp hi]
    exact hLarge
  have hKept := (hSound.kept hLost.oneChange 1 hEnters _ hLost.isIrr).low
  have hMoved := narrow_of_lost hLost.oneChange hLost.outlay hLost.isIrr proper_firstBracket le_rfl
  rw [bracketAfter_succ, bracketAfter, Function.iterate_zero_apply, hMoved] at hKept
  exact (Rat.cast_le.mp hKept).not_gt (@mid_between (firstBracket cashFlows) lowestRate_lt_highestRate).1

/-- The bracket is sound exactly where the rate is not lost, or the search ends before the bracket
is halved. -/
theorem bracketSound_iff (cashFlows : List ℚ) (maxIterations : ℕ) (tolerance : ℚ) :
    BracketSound cashFlows maxIterations tolerance ↔ (countSignChanges cashFlows = 1 →
      npvAtRate lowestRate cashFlows ≠ 0 ∨ ¬outlayFirst cashFlows ∨ maxIterations = 0 ∨
        |npvAtRate ((lowestRate + highestRate) / 2) cashFlows| < tolerance) := by
  constructor
  · intro hSound hOne
    by_contra hNot
    rw [not_or, not_or, not_or, not_not, not_not, not_lt] at hNot
    obtain ⟨hZero, hFirst, hIterations, hLarge⟩ := hNot
    have hLost : Lost cashFlows := ⟨hOne, hZero, hFirst⟩
    exact not_bracketSound_of_lost hLost hIterations hLarge hSound
  · intro hCondition
    refine ⟨existsUnique_isIrr, ?_, ?_, ?_, not_isIrr_of_no_change⟩
    · intro hOne i hEnters root hRoot
      have hFirst := (bracketed_iff hOne hRoot).mp hEnters.bracketed
      by_cases hLost : Lost cashFlows
      · obtain hNonzero | hLast | hNone | hSmall := hCondition hOne
        · exact absurd hLost.atLowest hNonzero
        · exact absurd hLost.outlay hLast
        · have hStart := Nat.le_zero.mp (hNone ▸ hEnters.allowed)
          rw [hStart]
          exact hFirst
        · have hStart : i = 0 :=
            Nat.eq_zero_of_not_pos fun hPos => (hEnters.goesOn 0 hPos).not_gt hSmall
          rw [hStart]
          exact hFirst
      · exact (tracks_bracketAfter hOne hRoot (tracks_firstBracket hOne hRoot hFirst hLost) i).encloses
    · intro i
      rw [bracketAfter_succ, narrow_width]
    · intro hOne hPos r hr
      by_contra hNot
      rw [not_or, not_lt, not_lt] at hNot
      exact ((bracketed_iff hOne hr).mpr ⟨hNot.1, hNot.2⟩).not_gt hPos

/-- An outlay of 10000 that returns 1 a year later has the rate -99.99 %, and one halving leaves it
outside. -/
theorem not_forall_brackets_sound : ¬BracketSound [-10000, 1] defaultIterations defaultTolerance ∧
    (bracketAfter [-10000, 1] 1).low = 990001 / 20000 := by
  have hLost : Lost [-10000, 1] := ⟨by decide +kernel, by decide +kernel, by decide +kernel⟩
  exact ⟨not_bracketSound_of_lost hLost (by decide) (by decide +kernel), by decide +kernel⟩

end Brackets

end ProcureFoundation.CapitalInvestment
