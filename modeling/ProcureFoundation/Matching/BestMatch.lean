import ProcureFoundation.Matching.Scorer

/-!
# The best match

What a row of a price list is matched with: the first of the highest-scoring new items when one of
them is plausible. The order of the new items decides between equal scores only, and more items
never lower the score.
-/

namespace ProcureFoundation.Matching

variable {tools : TextTools} {oldItem newItem : CandidateItem}
  {newItems others : List CandidateItem}

def Plausible (tools : TextTools) (oldItem newItem : CandidateItem) : Prop :=
  noPlausibleMatchFloor ≤ (scorePair tools oldItem newItem).1

/-- Nobody is plausible. -/
def noMatch (oldItem : CandidateItem) : MatchResult :=
  ⟨oldItem.key, none, 0, .unmatched, .noCandidate⟩

def matchWith (tools : TextTools) (oldItem newItem : CandidateItem) : MatchResult where
  oldKey := oldItem.key
  newKey := some newItem.key
  confidence := (scorePair tools oldItem newItem).1
  method := (scorePair tools oldItem newItem).2
  status := classifyStatus (scorePair tools oldItem newItem).1

/-- The one with the higher confidence, the first of them when it is the same. -/
def MatchResult.better (first second : MatchResult) : MatchResult :=
  if first.confidence < second.confidence then second else first

section Characterised

theorem Claims.le (h : Claims tools oldItem newItems newItem) {item : CandidateItem}
    (hItem : item ∈ newItems) :
    (scorePair tools oldItem item).1 ≤ (scorePair tools oldItem newItem).1 :=
  (claims_iff_isFirstBest.mp h).2.le hItem

theorem findBestMatch_of_claims (h : Claims tools oldItem newItems newItem) :
    findBestMatch tools oldItem newItems = matchWith tools oldItem newItem := by
  obtain ⟨hPlausible, hFirst⟩ := claims_iff_isFirstBest.mp h
  rw [findBestMatch, firstBest_eq_some.mpr hFirst]
  exact if_neg hPlausible.not_gt

theorem exists_claims (h : ∃ item ∈ newItems, Plausible tools oldItem item) :
    ∃ item, Claims tools oldItem newItems item := by
  obtain ⟨item, hMem, hPlausible⟩ := h
  have hLow : (-1 : ℚ) < noPlausibleMatchFloor := by norm_num [noPlausibleMatchFloor]
  obtain ⟨-, hBelow⟩ | ⟨best, -, hBest⟩ :=
    firstBest_fold (fun newItem => (scorePair tools oldItem newItem).1) (-1) newItems
  · exact absurd (hBelow item hMem) (hLow.trans_le hPlausible).not_ge
  · exact ⟨best, claims_iff_isFirstBest.mpr ⟨hPlausible.trans (hBest.le hMem), hBest⟩⟩

theorem findBestMatch_of_none (h : ∀ item ∈ newItems, ¬Plausible tools oldItem item) :
    findBestMatch tools oldItem newItems = noMatch oldItem := by
  rw [findBestMatch]
  cases hBest : firstBest (fun newItem => (scorePair tools oldItem newItem).1) (-1) newItems with
  | none => rfl
  | some best => exact if_pos (not_le.mp (h best (firstBest_eq_some.mp hBest).mem))

theorem findBestMatch_or (tools : TextTools) (oldItem : CandidateItem)
    (newItems : List CandidateItem) :
    ((∀ item ∈ newItems, ¬Plausible tools oldItem item) ∧ findBestMatch tools oldItem newItems =
      noMatch oldItem) ∨
    ∃ item, Claims tools oldItem newItems item ∧ findBestMatch tools oldItem newItems =
      matchWith tools oldItem item := by
  by_cases hSome : ∃ item ∈ newItems, Plausible tools oldItem item
  · obtain ⟨item, hClaims⟩ := exists_claims hSome
    exact .inr ⟨item, hClaims, findBestMatch_of_claims hClaims⟩
  · have hNone : ∀ item ∈ newItems, ¬Plausible tools oldItem item :=
      fun item hMem hItem => hSome ⟨item, hMem, hItem⟩
    exact .inl ⟨hNone, findBestMatch_of_none hNone⟩

theorem confidence_pos (h : Claims tools oldItem newItems newItem) :
    0 < (matchWith tools oldItem newItem).confidence := by
  have hFloor : (0 : ℚ) < noPlausibleMatchFloor := by norm_num [noPlausibleMatchFloor]
  exact hFloor.trans_le h.1

end Characterised

section Orders

theorem findBestMatch_perm (hPerm : others.Perm newItems) :
    (findBestMatch tools oldItem others).confidence =
      (findBestMatch tools oldItem newItems).confidence ∧
      (findBestMatch tools oldItem others).status =
        (findBestMatch tools oldItem newItems).status := by
  obtain ⟨hNone, hMatch⟩ | ⟨item, hClaims, hMatch⟩ := findBestMatch_or tools oldItem newItems
  · have hOthers := findBestMatch_of_none fun item hMem => hNone item (hPerm.mem_iff.mp hMem)
    rw [hMatch, hOthers]
    exact ⟨rfl, rfl⟩
  · obtain ⟨hNone, -⟩ | ⟨other, hOther, hOtherMatch⟩ := findBestMatch_or tools oldItem others
    · exact absurd hClaims.1 (hNone item (hPerm.mem_iff.mpr hClaims.mem))
    · have hScore : (scorePair tools oldItem other).1 = (scorePair tools oldItem item).1 :=
        le_antisymm (hClaims.le (hPerm.mem_iff.mp hOther.mem)) (hOther.le (hPerm.mem_iff.mpr hClaims.mem))
      rw [hMatch, hOtherMatch]
      exact ⟨hScore, congrArg classifyStatus hScore⟩

end Orders

section Concatenation

variable {other : CandidateItem}

theorem Claims.append_right (h : Claims tools oldItem newItems newItem)
    (hOthers : ∀ item ∈ others, (scorePair tools oldItem item).1 ≤
      (scorePair tools oldItem newItem).1) :
    Claims tools oldItem (newItems ++ others) newItem := by
  obtain ⟨hPlausible, before, after, rfl, hBefore, hAfter⟩ := h
  refine ⟨hPlausible, before,
    after ++ others, by rw [List.append_assoc, List.cons_append], hBefore, ?_⟩
  exact List.forall_mem_append.mpr ⟨hAfter, hOthers⟩

theorem Claims.append_left (h : Claims tools oldItem others other)
    (hItems : ∀ item ∈ newItems, (scorePair tools oldItem item).1 <
      (scorePair tools oldItem other).1) :
    Claims tools oldItem (newItems ++ others) other := by
  obtain ⟨hPlausible, before, after, rfl, hBefore, hAfter⟩ := h
  refine ⟨hPlausible, newItems ++ before, after, (List.append_assoc _ _ _).symm, ?_, hAfter⟩
  exact List.forall_mem_append.mpr ⟨hItems, hBefore⟩

theorem score_lt_of_claims (h : Claims tools oldItem others other)
    (hItem : ¬Plausible tools oldItem newItem) :
    (scorePair tools oldItem newItem).1 < (scorePair tools oldItem other).1 :=
  (not_le.mp hItem).trans_le h.1

theorem findBestMatch_append (tools : TextTools) (oldItem : CandidateItem)
    (newItems others : List CandidateItem) : findBestMatch tools oldItem (newItems ++ others) =
      (findBestMatch tools oldItem newItems).better (findBestMatch tools oldItem others) := by
  obtain ⟨hNone, hMatch⟩ | ⟨item, hClaims, hMatch⟩ := findBestMatch_or tools oldItem newItems
  · obtain ⟨hOthers, hOtherMatch⟩ | ⟨other, hOther, hOtherMatch⟩ :=
      findBestMatch_or tools oldItem others
    · rw [hMatch, hOtherMatch, findBestMatch_of_none (List.forall_mem_append.mpr ⟨hNone, hOthers⟩)]
      exact (if_neg (lt_irrefl _)).symm
    · rw [hMatch, hOtherMatch, findBestMatch_of_claims
        (hOther.append_left fun item hMem => score_lt_of_claims hOther (hNone item hMem))]
      exact (if_pos (confidence_pos hOther)).symm
  · obtain ⟨hOthers, hOtherMatch⟩ | ⟨other, hOther, hOtherMatch⟩ :=
      findBestMatch_or tools oldItem others
    · rw [hMatch, hOtherMatch, findBestMatch_of_claims
        (hClaims.append_right fun item hMem => (score_lt_of_claims hClaims (hOthers item hMem)).le)]
      exact (if_neg (confidence_pos hClaims).not_gt).symm
    · rw [hMatch, hOtherMatch]
      obtain hHigher | hLower :=
        lt_or_ge (scorePair tools oldItem item).1 (scorePair tools oldItem other).1
      · rw [findBestMatch_of_claims (hOther.append_left fun _ hMem => (hClaims.le hMem).trans_lt hHigher)]
        exact (if_pos hHigher).symm
      · rw [findBestMatch_of_claims (hClaims.append_right fun _ hMem => (hOther.le hMem).trans hLower)]
        exact (if_neg hLower.not_gt).symm

theorem confidence_le_append (tools : TextTools) (oldItem : CandidateItem)
    (newItems others : List CandidateItem) :
    (findBestMatch tools oldItem newItems).confidence ≤
      (findBestMatch tools oldItem (newItems ++ others)).confidence := by
  rw [findBestMatch_append, MatchResult.better]
  split
  · rename_i hHigher
    exact hHigher.le
  · exact le_rfl

end Concatenation

/-- What the match of an old item with the new items is. -/
structure IsBestMatch (tools : TextTools) (oldItem : CandidateItem)
    (newItems : List CandidateItem) : Prop where
  none_iff : ((findBestMatch tools oldItem newItems).status = .noCandidate ∧
      (findBestMatch tools oldItem newItems).newKey = none) ↔
    ∀ item ∈ newItems, (scorePair tools oldItem item).1 < noPlausibleMatchFloor
  first : (∃ item ∈ newItems, noPlausibleMatchFloor ≤ (scorePair tools oldItem item).1) →
    ∃ before best after, newItems = before ++ best :: after ∧
      (∀ item ∈ before, (scorePair tools oldItem item).1 < (scorePair tools oldItem best).1) ∧
      (∀ item ∈ after, (scorePair tools oldItem item).1 ≤ (scorePair tools oldItem best).1) ∧
      findBestMatch tools oldItem newItems =
        ⟨oldItem.key, some best.key, (scorePair tools oldItem best).1,
        (scorePair tools oldItem best).2, classifyStatus (scorePair tools oldItem best).1⟩
  perm : ∀ others : List CandidateItem, others.Perm newItems →
    (findBestMatch tools oldItem others).confidence =
      (findBestMatch tools oldItem newItems).confidence ∧
      (findBestMatch tools oldItem others).status = (findBestMatch tools oldItem newItems).status
  appended : ∀ others : List CandidateItem,
    (findBestMatch tools oldItem newItems).confidence ≤
      (findBestMatch tools oldItem (newItems ++ others)).confidence
  concatenated : ∀ others : List CandidateItem, findBestMatch tools oldItem (newItems ++ others) =
    (findBestMatch tools oldItem newItems).better (findBestMatch tools oldItem others)

theorem best_match_is_argmax (tools : TextTools) (oldItem : CandidateItem)
    (newItems : List CandidateItem) : IsBestMatch tools oldItem newItems where
  none_iff := by
    obtain ⟨hNone, hMatch⟩ | ⟨item, hClaims, hMatch⟩ := findBestMatch_or tools oldItem newItems
    · rw [hMatch]
      exact iff_of_true ⟨rfl, rfl⟩ fun item hMem => not_le.mp (hNone item hMem)
    · rw [hMatch]
      refine iff_of_false ?_ fun hBelow => (hBelow item hClaims.mem).not_ge hClaims.1
      rintro ⟨hStatus, -⟩
      exact classifyStatus_ne_noCandidate _ hStatus
  first hSome := by
    obtain ⟨best, hClaims⟩ := exists_claims hSome
    have hMatch := findBestMatch_of_claims hClaims
    obtain ⟨-, before, after, hSplit, hBefore, hAfter⟩ := hClaims
    exact ⟨before, best, after, hSplit, hBefore, hAfter, hMatch⟩
  perm others := findBestMatch_perm
  appended := confidence_le_append tools oldItem newItems
  concatenated := findBestMatch_append tools oldItem newItems

end ProcureFoundation.Matching
