import Mathlib.Algebra.Order.Archimedean.Real.Basic
import ProcureFoundation.CapitalInvestment.NetPresentValue

/-!
# The rule of signs for cash flows

Flows whose signs change once have exactly one rate above -100 % at which their net present value is
zero: where the outlay comes first the value is positive below that rate and negative above it, and
the other way round where it comes last. Flows of one sign have no such rate.
-/

namespace ProcureFoundation.CapitalInvestment

section SignRule

variable {K : Type} [Field K] [LinearOrder K] [IsStrictOrderedRing K] {c d : K} {cs : List K}

/-- The sign flips of neighbours, where no flow is zero. -/
def flips (flows : List K) : ℕ :=
  ((flows.tail.zip flows).filter fun pair => decide (0 < pair.1) != decide (0 < pair.2)).length

omit [IsStrictOrderedRing K] in
theorem flips_cons : flips (c :: d :: cs) = (if decide (0 < d) = decide (0 < c) then 0 else 1) +
    flips (d :: cs) := by
  have hZip : (c :: d :: cs).tail.zip (c :: d :: cs) = (d, c) :: (d :: cs).tail.zip (d :: cs) := rfl
  rw [flips, hZip]
  by_cases hSame : decide (0 < d) = decide (0 < c)
  · have hEqual : ¬(decide (0 < d) != decide (0 < c)) = true := fun h => bne_iff_ne.mp h hSame
    rw [if_pos hSame, List.filter_cons, if_neg hEqual, zero_add, flips]
  · have hFlip : (decide (0 < d) != decide (0 < c)) = true := bne_iff_ne.mpr hSame
    rw [if_neg hSame, List.filter_cons, if_pos hFlip, List.length_cons, add_comm, flips]

omit [IsStrictOrderedRing K] in
theorem sameSign_of_flips_eq_zero (h : flips (c :: cs) = 0) :
    ∀ d ∈ c :: cs, decide (0 < d) = decide (0 < c) := by
  induction cs generalizing c with
  | nil =>
    intro d hd
    rw [List.mem_singleton.mp hd]
  | cons e cs ih =>
    rw [flips_cons] at h
    obtain ⟨hFirst, hRest⟩ := Nat.add_eq_zero_iff.mp h
    have hSame : decide (0 < e) = decide (0 < c) := by
      by_contra hNot
      rw [if_neg hNot] at hFirst
      exact one_ne_zero hFirst
    intro d hd
    obtain rfl | hd := List.mem_cons.mp hd
    · rfl
    · exact (ih hRest d hd).trans hSame

omit [IsStrictOrderedRing K] in
theorem split_of_flips_eq_one (h : flips (c :: cs) = 1) :
    ∃ before e after, c :: cs = before ++ e :: after ∧
    before ≠ [] ∧ (∀ d ∈ before, decide (0 < d) = decide (0 < c)) ∧
      ∀ d ∈ e :: after, decide (0 < d) = !decide (0 < c) := by
  induction cs generalizing c with
  | nil => exact absurd h zero_ne_one
  | cons e cs ih =>
    rw [flips_cons] at h
    by_cases hSame : decide (0 < e) = decide (0 < c)
    · rw [if_pos hSame, zero_add] at h
      obtain ⟨before, f, after, hSplit, -, hBefore, hAfter⟩ := ih h
      rw [hSame] at hBefore hAfter
      refine ⟨c :: before, f, after, congrArg (c :: ·) hSplit, List.cons_ne_nil c before,
        ?_, hAfter⟩
      intro d hd
      obtain rfl | hd := List.mem_cons.mp hd
      · rfl
      · exact hBefore d hd
    · rw [if_neg hSame] at h
      have hAfter := sameSign_of_flips_eq_zero (Nat.add_left_cancel (n := 1) h)
      refine ⟨[c], e, cs, rfl, List.cons_ne_nil c [], ?_, ?_⟩
      · intro d hd
        rw [List.mem_singleton.mp hd]
      · intro d hd
        rw [hAfter d hd]
        exact Bool.eq_not_of_ne hSame

end SignRule

section Split

variable {K : Type} [Field K] [LinearOrder K] [IsStrictOrderedRing K] {cashFlows : List K}

def outlayFirst (cashFlows : List K) : Prop := ∃ cf, cashFlows.find? (· ≠ 0) = some cf ∧ cf < 0

instance : Decidable (outlayFirst cashFlows) :=
  decidable_of_iff (((cashFlows.find? (· ≠ 0)).any (· < 0)) = true) (by
    rw [outlayFirst, Option.any_eq_true]
    exact exists_congr fun cf => and_congr_right fun _ => decide_eq_true_iff)

omit [IsStrictOrderedRing K] in
theorem countSignChanges_eq_one (h : countSignChanges cashFlows = 1) : ∃ c e before after,
    cashFlows = before ++ after ∧ c ≠ 0 ∧ e ≠ 0 ∧ c ∈ before ∧ e ∈ after ∧
      cashFlows.find? (· ≠ 0) = some c ∧ (∀ d ∈ before, d = 0 ∨ decide (0 < d) = decide (0 < c)) ∧
      (∀ d ∈ after, d = 0 ∨ decide (0 < d) = !decide (0 < c)) := by
  unfold countSignChanges at h
  dsimp only at h
  split at h
  · cases h
  · rename_i hLength
    cases hFlows : cashFlows.filter (· ≠ 0) with
    | nil =>
      rw [hFlows] at hLength
      exact absurd Nat.two_pos hLength
    | cons c rest =>
      rw [hFlows] at h
      obtain ⟨runBefore, e, runAfter, hSplit, hSome, hBefore, hAfter⟩ := split_of_flips_eq_one h
      rw [hSplit] at hFlows
      obtain ⟨before, after, hFlow, hFirst, hSecond⟩ := List.filter_eq_append_iff.mp hFlows
      have hNonzero : ∀ {d : K} {flows run : List K}, flows.filter (· ≠ 0) = run → d ∈ run →
          d ∈ flows ∧ d ≠ 0 := by
        rintro d flows _ rfl hd
        obtain ⟨hMem, hd⟩ := List.mem_filter.mp hd
        exact ⟨hMem, of_decide_eq_true hd⟩
      have hRun : ∀ {flows run : List K} {P : K → Prop}, flows.filter (· ≠ 0) = run →
        (∀ d ∈ run, P d) →
          ∀ d ∈ flows, d = 0 ∨ P d := by
        rintro flows _ P rfl hAll d hd
        by_cases hZero : d = 0
        · exact .inl hZero
        · exact .inr (hAll d (List.mem_filter.mpr ⟨hd, decide_eq_true hZero⟩))
      obtain ⟨hMemC, hc⟩ : c ∈ before ∧ c ≠ 0 := by
        cases hRunBefore : runBefore with
        | nil => exact absurd hRunBefore hSome
        | cons d tail =>
          rw [hRunBefore, List.cons_append] at hSplit
          obtain rfl := (List.cons.inj hSplit).1
          exact hNonzero hFirst (hRunBefore ▸ List.mem_cons_self)
      obtain ⟨hMemE, he⟩ := hNonzero hSecond List.mem_cons_self
      refine ⟨c, e, before, after, hFlow, hc, he, hMemC, hMemE, ?_, hRun hFirst hBefore,
        hRun hSecond hAfter⟩
      rw [← List.head?_filter, hFlows, ← hSplit]
      rfl

omit [IsStrictOrderedRing K] in
theorem sameSign_of_countSignChanges_eq_zero (h : countSignChanges cashFlows = 0)
    (hNonzero : ∃ cf ∈ cashFlows, cf ≠ 0) :
    (∀ cf ∈ cashFlows, 0 ≤ cf) ∧ (∃ cf ∈ cashFlows, 0 < cf) ∨ (∀ cf ∈ cashFlows, cf ≤ 0) ∧
      ∃ cf ∈ cashFlows, cf < 0 := by
  have hSame : ∀ c rest, cashFlows.filter (· ≠ 0) = c :: rest → ∀ d ∈ c :: rest,
      decide (0 < d) = decide (0 < c) := by
    intro c rest hFlows
    unfold countSignChanges at h
    dsimp only at h
    rw [hFlows] at h
    cases rest with
    | nil =>
      intro d hd
      rw [List.mem_singleton.mp hd]
    | cons e rest =>
      refine sameSign_of_flips_eq_zero ?_
      have hLong : ¬(c :: e :: rest).length < 2 := Nat.not_lt.mpr (Nat.le_add_left 2 rest.length)
      rwa [if_neg hLong] at h
  obtain ⟨cf, hMem, hcf⟩ := hNonzero
  have hFiltered : cf ∈ cashFlows.filter (· ≠ 0) := List.mem_filter.mpr ⟨hMem, decide_eq_true hcf⟩
  cases hFlows : cashFlows.filter (· ≠ 0) with
  | nil =>
    rw [hFlows] at hFiltered
    exact absurd hFiltered List.not_mem_nil
  | cons c rest =>
    obtain ⟨hMemC, hc⟩ :=
      List.mem_filter.mp (hFlows ▸ List.mem_cons_self : c ∈ cashFlows.filter (· ≠ 0))
    have hSigns : ∀ d ∈ cashFlows, d = 0 ∨ decide (0 < d) = decide (0 < c) := by
      intro d hd
      by_cases hZero : d = 0
      · exact .inl hZero
      · exact .inr (hSame c rest hFlows d (hFlows ▸ List.mem_filter.mpr ⟨hd, decide_eq_true hZero⟩))
    obtain hNeg | hPos := lt_or_gt_of_ne (of_decide_eq_true hc)
    · refine .inr ⟨fun d hd => ?_, c, hMemC, hNeg⟩
      rw [decide_eq_false hNeg.not_gt] at hSigns
      obtain rfl | hd := hSigns d hd
      · exact le_rfl
      · exact not_lt.mp (of_decide_eq_false hd)
    · refine .inl ⟨fun d hd => ?_, c, hMemC, hPos⟩
      rw [decide_eq_true hPos] at hSigns
      obtain rfl | hd := hSigns d hd
      · exact le_rfl
      · exact (of_decide_eq_true hd).le

omit [IsStrictOrderedRing K] in
theorem crossesOnce_of_outlayFirst (h : countSignChanges cashFlows = 1)
    (hFirst : outlayFirst cashFlows) : CrossesOnce cashFlows := by
  obtain ⟨c, e, before, after, rfl, -, he, hMemC, hMemE, hFind, hBefore, hAfter⟩ :=
    countSignChanges_eq_one h
  obtain ⟨cf, hFound, hc⟩ := hFirst
  obtain rfl := Option.some.inj (hFind.symm.trans hFound)
  have hNotPos : decide (0 < c) = false := decide_eq_false hc.not_gt
  rw [hNotPos] at hBefore hAfter
  have hSecond : ∀ d ∈ after, d = 0 ∨ 0 < d := fun d hd => (hAfter d hd).imp_right of_decide_eq_true
  refine ⟨before, after, rfl, ?_, ⟨c, hMemC, hc⟩, ?_, e, hMemE, (hSecond e hMemE).resolve_left he⟩
  · intro d hd
    obtain rfl | hd := hBefore d hd
    · exact le_rfl
    · exact not_lt.mp (of_decide_eq_false hd)
  · intro d hd
    obtain rfl | hd := hSecond d hd
    · exact le_rfl
    · exact hd.le

theorem crossesOnce_neg (h : countSignChanges cashFlows = 1) (hFirst : ¬outlayFirst cashFlows) :
    CrossesOnce (cashFlows.map (- ·)) := by
  obtain ⟨c, e, before, after, rfl, hc, he, hMemC, hMemE, hFind, hBefore, hAfter⟩ :=
    countSignChanges_eq_one h
  have hPos : 0 < c := (lt_or_gt_of_ne hc).resolve_left fun hNeg => hFirst ⟨c, hFind, hNeg⟩
  rw [decide_eq_true hPos] at hBefore hAfter
  have hSecond : ∀ d ∈ after, d ≤ 0 := by
    intro d hd
    obtain rfl | hd := hAfter d hd
    · exact le_rfl
    · exact not_lt.mp (of_decide_eq_false hd)
  refine ⟨before.map (- ·), after.map (- ·), List.map_append, ?_,
    ⟨-c, List.mem_map_of_mem hMemC, neg_neg_of_pos hPos⟩,
    ?_, -e, List.mem_map_of_mem hMemE, neg_pos.mpr (lt_of_le_of_ne (hSecond e hMemE) he)⟩
  · rw [List.forall_mem_map]
    intro d hd
    obtain rfl | hd := hBefore d hd
    · exact neg_zero.le
    · exact (neg_neg_of_pos (of_decide_eq_true hd)).le
  · rw [List.forall_mem_map]
    exact fun d hd => neg_nonneg.mpr (hSecond d hd)

end Split

section Rates

variable {cs : List ℝ} {root r : ℝ}

theorem inv_lt_inv_of_rates (hRoot : -1 < root) (hr : -1 < r) : (1 + root)⁻¹ < (1 + r)⁻¹ ↔
    r < root := by
  rw [inv_lt_inv₀ (neg_lt_iff_pos_add'.mp hRoot) (neg_lt_iff_pos_add'.mp hr), add_lt_add_iff_left]

theorem inv_pos_of_rate (hr : -1 < r) : 0 < (1 + r)⁻¹ := inv_pos.mpr (neg_lt_iff_pos_add'.mp hr)

/-- Where the outlay comes first, the value is positive below the rate at which it is zero and
negative above. -/
theorem signs_of_crossesOnce (h : CrossesOnce cs) (hRoot : -1 < root)
    (hZero : npvAtRate root cs = 0) (hr : -1 < r) :
    (0 < npvAtRate r cs ↔ r < root) ∧ (npvAtRate r cs < 0 ↔ root < r) := by
  rw [npvAtRate_eq] at hZero
  rw [npvAtRate_eq]
  have hBelow : r < root → 0 < powerSum (1 + r)⁻¹ cs := fun hLess =>
    h.pos_of_lt (inv_pos_of_rate hRoot) ((inv_lt_inv_of_rates hRoot hr).mpr hLess) hZero.ge
  have hAbove : root < r → powerSum (1 + r)⁻¹ cs < 0 := fun hGreater =>
    h.neg_of_lt (inv_pos_of_rate hr) ((inv_lt_inv_of_rates hr hRoot).mpr hGreater) hZero.le
  refine ⟨⟨fun hPos => ?_, hBelow⟩, ⟨fun hNeg => ?_, hAbove⟩⟩
  · obtain hLess | rfl | hGreater := lt_trichotomy r root
    · exact hLess
    · exact absurd hZero hPos.ne'
    · exact absurd hPos (hAbove hGreater).not_gt
  · obtain hLess | rfl | hGreater := lt_trichotomy r root
    · exact absurd hNeg (hBelow hLess).not_gt
    · exact absurd hZero hNeg.ne
    · exact hGreater

theorem existsUnique_of_crossesOnce (h : CrossesOnce cs) : ∃! r, -1 < r ∧ npvAtRate r cs = 0 := by
  obtain ⟨x, hx, hZero⟩ := h.exists_root
  have hRate : -1 < x⁻¹ - 1 := by
    linarith [inv_pos.mpr hx]
  have hValue : npvAtRate (x⁻¹ - 1) cs = 0 := by
    rw [npvAtRate_eq, add_sub_cancel, inv_inv, hZero]
  refine ⟨x⁻¹ - 1, ⟨hRate, hValue⟩, ?_⟩
  rintro r ⟨hr, hOther⟩
  obtain ⟨hPos, hNeg⟩ := signs_of_crossesOnce h hRate hValue hr
  obtain hLess | hEq | hGreater := lt_trichotomy r (x⁻¹ - 1)
  · exact absurd hOther (hPos.mpr hLess).ne'
  · exact hEq
  · exact absurd hOther (hNeg.mpr hGreater).ne

end Rates

section Roots

variable {cashFlows : List ℚ} {root : ℝ} {r : ℚ}

noncomputable def realNpv (cashFlows : List ℚ) (r : ℝ) : ℝ :=
  npvAtRate r (cashFlows.map (Rat.castHom ℝ))

/-- A rate above -100 % at which the exact net present value is zero. -/
structure IsIrr (cashFlows : List ℚ) (r : ℝ) : Prop where
  above : -1 < r
  zero : realNpv cashFlows r = 0

theorem realNpv_cast (r : ℚ) : realNpv cashFlows r = npvAtRate r cashFlows :=
  npvAtRate_map (Rat.castHom ℝ)

theorem realNpv_neg (r : ℝ) : realNpv (cashFlows.map (- ·)) r = -realNpv cashFlows r := by
  rw [realNpv, realNpv, ← npvAtRate_neg, List.map_map, List.map_map]
  refine congrArg _ (List.map_congr_left fun cf _ => ?_)
  exact map_neg (Rat.castHom ℝ) cf

theorem isIrr_neg_iff {r : ℝ} : IsIrr (cashFlows.map (- ·)) r ↔ IsIrr cashFlows r := by
  constructor
  · intro h
    exact ⟨h.above, neg_eq_zero.mp ((realNpv_neg r).symm.trans h.zero)⟩
  · intro h
    exact ⟨h.above, (realNpv_neg r).trans (neg_eq_zero.mpr h.zero)⟩

theorem crossesOnce_cast (h : CrossesOnce cashFlows) :
    CrossesOnce (cashFlows.map (Rat.castHom ℝ)) := by
  obtain ⟨before, after, rfl, hBefore, ⟨c, hMemC, hc⟩, hAfter, e, hMemE, he⟩ := h.runs
  refine ⟨before.map _, after.map _, List.map_append, ?_,
    ⟨_, List.mem_map_of_mem hMemC, Rat.cast_lt_zero.mpr hc⟩, ?_,
    _, List.mem_map_of_mem hMemE, Rat.cast_pos.mpr he⟩
  · rw [List.forall_mem_map]
    exact fun d hd => Rat.cast_nonpos.mpr (hBefore d hd)
  · rw [List.forall_mem_map]
    exact fun d hd => Rat.cast_nonneg.mpr (hAfter d hd)

theorem existsUnique_isIrr (h : countSignChanges cashFlows = 1) : ∃! r, IsIrr cashFlows r := by
  by_cases hFirst : outlayFirst cashFlows
  · obtain ⟨r, ⟨hAbove, hZero⟩, hOnly⟩ :=
      existsUnique_of_crossesOnce (crossesOnce_cast (crossesOnce_of_outlayFirst h hFirst))
    exact ⟨r, ⟨hAbove, hZero⟩, fun other hOther => hOnly other ⟨hOther.above, hOther.zero⟩⟩
  · obtain ⟨r, ⟨hAbove, hZero⟩, hOnly⟩ :=
      existsUnique_of_crossesOnce (crossesOnce_cast (crossesOnce_neg h hFirst))
    refine ⟨r, isIrr_neg_iff.mp ⟨hAbove, hZero⟩, fun other hOther => ?_⟩
    exact hOnly other ⟨hOther.above, (isIrr_neg_iff.mpr hOther).zero⟩

theorem signs_of_outlayFirst (h : countSignChanges cashFlows = 1) (hFirst : outlayFirst cashFlows)
    (hRoot : IsIrr cashFlows root) (hr : -1 < r) :
    (0 < npvAtRate r cashFlows ↔ (r : ℝ) < root) ∧ (npvAtRate r cashFlows < 0 ↔ root < r) := by
  have hReal : (-1 : ℝ) < r := by exact_mod_cast hr
  have hSigns := signs_of_crossesOnce (crossesOnce_cast (crossesOnce_of_outlayFirst h hFirst))
    hRoot.above hRoot.zero hReal
  change (0 < realNpv cashFlows r ↔ _) ∧ (realNpv cashFlows r < 0 ↔ _) at hSigns
  rwa [realNpv_cast, Rat.cast_pos, Rat.cast_lt_zero] at hSigns

theorem signs_of_outlayLast (h : countSignChanges cashFlows = 1) (hFirst : ¬outlayFirst cashFlows)
    (hRoot : IsIrr cashFlows root) (hr : -1 < r) :
    (0 < npvAtRate r cashFlows ↔ root < r) ∧ (npvAtRate r cashFlows < 0 ↔ (r : ℝ) < root) := by
  have hReal : (-1 : ℝ) < r := by exact_mod_cast hr
  have hNegated := isIrr_neg_iff.mpr hRoot
  have hSigns := signs_of_crossesOnce (crossesOnce_cast (crossesOnce_neg h hFirst)) hNegated.above
    hNegated.zero hReal
  change (0 < realNpv (cashFlows.map (- ·)) r ↔ _) ∧
    (realNpv (cashFlows.map (- ·)) r < 0 ↔ _) at hSigns
  rw [realNpv_neg, realNpv_cast, neg_pos, neg_neg_iff_pos, Rat.cast_pos, Rat.cast_lt_zero] at hSigns
  exact hSigns.symm

/-- Flows of one sign, not all of them zero, have no rate at which the value is zero. -/
theorem not_isIrr_of_no_change (h : countSignChanges cashFlows = 0)
    (hNonzero : ∃ cf ∈ cashFlows, cf ≠ 0) (r : ℝ) : ¬IsIrr cashFlows r := by
  intro hIrr
  have hx := inv_pos_of_rate hIrr.above
  have hZero := hIrr.zero
  obtain ⟨hSign, cf, hMem, hcf⟩ | ⟨hSign, cf, hMem, hcf⟩ :=
    sameSign_of_countSignChanges_eq_zero h hNonzero
  · rw [realNpv, npvAtRate_eq] at hZero
    refine (powerSum_pos hx ?_ ⟨_, List.mem_map_of_mem hMem, Rat.cast_pos.mpr hcf⟩).ne' hZero
    rw [List.forall_mem_map]
    exact fun d hd => Rat.cast_nonneg.mpr (hSign d hd)
  · have hNegated := (isIrr_neg_iff.mpr hIrr).zero
    rw [realNpv, npvAtRate_eq] at hNegated
    refine (powerSum_pos hx ?_
      ⟨_, List.mem_map_of_mem (List.mem_map_of_mem hMem), Rat.cast_pos.mpr (neg_pos.mpr hcf)⟩).ne'
      hNegated
    rw [List.forall_mem_map, List.forall_mem_map]
    exact fun d hd => Rat.cast_nonneg.mpr (neg_nonneg.mpr (hSign d hd))

end Roots

end ProcureFoundation.CapitalInvestment
