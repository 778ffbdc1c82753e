import ProcureFoundation.Foundation.SeparatedWords
import ProcureFoundation.Matching.VariantConflicts

/-!
# What makes a match exact

An exact match is meant to rest on an identifier or a description that both items have.
The matchers ask for a text before they strip or normalize it and compare it afterwards,
so texts of which nothing remains match one another.
-/

namespace ProcureFoundation.Matching

open Text

/-- What is asked of the library functions on text. -/
structure TextTools.Lawful (tools : TextTools) : Prop where
  lower_eq_empty : ∀ text, tools.lower text = "" ↔ text = ""
  sequenceRatio_le_one : ∀ textA textB, tools.sequenceRatio textA textB ≤ 1
  blend_without_tokens : ∀ charScore, charScore ≤ 1 → tools.blend charScore 0 ≤ 4 / 10

def MatchMethod.isExact : MatchMethod → Bool
  | .sku | .barcode | .exactDescription => true
  | .fuzzy | .unmatched => false

structure SharesSku (tools : TextTools) (oldSku newSku : Option String) : Prop where
  same : tools.lower (strip (oldSku.getD "")) = tools.lower (strip (newSku.getD ""))
  notBlank : strip (oldSku.getD "") ≠ ""

structure SharesBarcode (oldBarcode newBarcode : Option String) : Prop where
  same : strip (oldBarcode.getD "") = strip (newBarcode.getD "")
  notBlank : strip (oldBarcode.getD "") ≠ ""

structure SharesDescription (tools : TextTools) (oldDescription newDescription : String) :
    Prop where
  same : normalizeDescription tools oldDescription = normalizeDescription tools newDescription
  notBlank : normalizeDescription tools oldDescription ≠ ""

/-- The items have an identifier or a description in common of which something remains. -/
def RealIdentity (tools : TextTools) (oldItem newItem : CandidateItem) : Prop :=
  SharesSku tools oldItem.supplierSku newItem.supplierSku ∨
    SharesBarcode oldItem.barcode newItem.barcode ∨
    SharesDescription tools oldItem.description newItem.description

/-- Texts that are there, but of which the given function leaves nothing. -/
def ErasedBy (clean : String → String) (textA textB : String) : Prop :=
  (textA ≠ "" ∧ clean textA = "") ∧ textB ≠ "" ∧ clean textB = ""

/-- Both supplier SKUs are blank, or both barcodes, or nothing remains of both descriptions. -/
def ErasedIdentity (tools : TextTools) (oldItem newItem : CandidateItem) : Prop :=
  ErasedBy strip (oldItem.supplierSku.getD "") (newItem.supplierSku.getD "") ∨
    ErasedBy strip (oldItem.barcode.getD "") (newItem.barcode.getD "") ∨
      ErasedBy (normalizeDescription tools) oldItem.description newItem.description

def descriptionWords (tools : TextTools) (item : CandidateItem) : List String :=
  words (· == ' ') (normalizeDescription tools item.description).toList

structure Unrelated (tools : TextTools) (oldItem newItem : CandidateItem) : Prop where
  sku : ¬ SharesSku tools oldItem.supplierSku newItem.supplierSku
  barcode : ¬ SharesBarcode oldItem.barcode newItem.barcode
  noSharedWord : ∀ word ∈ descriptionWords tools oldItem, word ∉ descriptionWords tools newItem

variable {tools : TextTools} {oldItem newItem : CandidateItem}

@[simp] theorem strip_empty : strip "" = "" := rfl

/-- Texts that are there have the same cleaned form if something remains that is the same, or
nothing remains of either. -/
theorem same_cleaned_iff {clean : String → String} (hEmpty : clean "" = "") {textA textB : String} :
    (textA ≠ "" ∧ textB ≠ "") ∧ clean textA = clean textB ↔
      clean textA = clean textB ∧ clean textA ≠ "" ∨ ErasedBy clean textA textB := by
  constructor
  · rintro ⟨⟨hA, hB⟩, hSame⟩
    by_cases hBlank : clean textA = ""
    · exact .inr ⟨⟨hA, hBlank⟩, hB, hSame ▸ hBlank⟩
    · exact .inl ⟨hSame, hBlank⟩
  · rintro (⟨hSame, hBlank⟩ | ⟨⟨hA, hBlankA⟩, hB, hBlankB⟩)
    · refine ⟨⟨fun hNone => hBlank ?_, fun hNone => hBlank ?_⟩, hSame⟩
      · rw [hNone, hEmpty]
      · rw [hSame, hNone, hEmpty]
    · exact ⟨⟨hA, hB⟩, hBlankA.trans hBlankB.symm⟩

theorem erasedBy_lower (hTools : tools.Lawful) {clean : String → String} {textA textB : String} :
    ErasedBy (fun text => tools.lower (clean text)) textA textB ↔ ErasedBy clean textA textB := by
  simp only [ErasedBy, hTools.lower_eq_empty]

theorem matchBySku_iff (hTools : tools.Lawful) {oldSku newSku : Option String} :
    matchBySku tools oldSku newSku = true ↔
      SharesSku tools oldSku newSku ∨ ErasedBy strip (oldSku.getD "") (newSku.getD "") := by
  have hEmpty : tools.lower (strip "") = "" := (hTools.lower_eq_empty _).mpr strip_empty
  simp only [matchBySku, Bool.and_eq_true, bne_iff_ne, beq_iff_eq]
  rw [@same_cleaned_iff (fun text => tools.lower (strip text)) hEmpty, erasedBy_lower hTools]
  refine or_congr_left ⟨fun h => ⟨h.1, fun hBlank => ?_⟩, fun h => ⟨h.same, fun hBlank => ?_⟩⟩
  · exact h.2 ((hTools.lower_eq_empty _).mpr hBlank)
  · exact h.notBlank ((hTools.lower_eq_empty _).mp hBlank)

theorem matchByBarcode_iff {oldBarcode newBarcode : Option String} :
    matchByBarcode oldBarcode newBarcode = true ↔
    SharesBarcode oldBarcode newBarcode ∨ ErasedBy strip (oldBarcode.getD "")
    (newBarcode.getD "") := by
  simp only [matchByBarcode, Bool.and_eq_true, bne_iff_ne, beq_iff_eq]
  rw [same_cleaned_iff strip_empty]
  exact or_congr_left ⟨fun h => ⟨h.1, h.2⟩, fun h => ⟨h.same, h.notBlank⟩⟩

theorem normalizeDescription_empty : normalizeDescription tools "" = "" := if_pos rfl

theorem matchByExactNormalizedDescription_iff {oldDescription newDescription : String} :
    matchByExactNormalizedDescription tools oldDescription newDescription = true ↔
      SharesDescription tools oldDescription newDescription ∨
        ErasedBy (normalizeDescription tools) oldDescription newDescription := by
  simp only [matchByExactNormalizedDescription, Bool.and_eq_true, bne_iff_ne, beq_iff_eq]
  rw [same_cleaned_iff normalizeDescription_empty]
  exact or_congr_left ⟨fun h => ⟨h.1, h.2⟩, fun h => ⟨h.same, h.notBlank⟩⟩

theorem isExact_scorePair : (scorePair tools oldItem newItem).2.isExact = true ↔
    matchBySku tools oldItem.supplierSku newItem.supplierSku = true ∨
      matchByBarcode oldItem.barcode newItem.barcode = true ∨
        matchByExactNormalizedDescription tools oldItem.description newItem.description = true := by
  rw [scorePair]
  split
  · rename_i hSku
    exact iff_of_true rfl (.inl hSku)
  · rename_i hSku
    split
    · rename_i hBarcode
      exact iff_of_true rfl (.inr (.inl hBarcode))
    · rename_i hBarcode
      split
      · rename_i hDescription
        exact iff_of_true rfl (.inr (.inr hDescription))
      · rename_i hDescription
        refine iff_of_false Bool.false_ne_true ?_
        rintro (h | h | h)
        · exact hSku h
        · exact hBarcode h
        · exact hDescription h

/-- The exact methods find what the items really share, and what has been erased in both. -/
theorem isExact_iff (hTools : tools.Lawful) : (scorePair tools oldItem newItem).2.isExact = true ↔
    RealIdentity tools oldItem newItem ∨ ErasedIdentity tools oldItem newItem := by
  rw [isExact_scorePair, matchBySku_iff hTools, matchByBarcode_iff,
    matchByExactNormalizedDescription_iff, RealIdentity, ErasedIdentity]
  tauto

theorem classifyStatus_eq_autoMatched {confidence : ℚ} :
    classifyStatus confidence = .autoMatched ↔ autoMatchThreshold ≤ confidence := by
  unfold classifyStatus
  split
  · rename_i hAuto
    exact iff_of_true rfl hAuto
  · rename_i hLow
    refine iff_of_false ?_ hLow
    split
    · exact fun h => nomatch h
    · exact fun h => nomatch h

theorem autoMatchThreshold_le_of_isExact (h : (scorePair tools oldItem newItem).2.isExact = true) :
    autoMatchThreshold ≤ (scorePair tools oldItem newItem).1 := by
  revert h
  rw [scorePair]
  split
  · intro _
    norm_num [autoMatchThreshold]
  · split
    · intro _
      norm_num [autoMatchThreshold]
    · split
      · intro _
        norm_num [autoMatchThreshold]
      · intro hFuzzy
        exact absurd hFuzzy Bool.false_ne_true

section Words

theorem mem_normalizeTokens {raw token : String} (h : token ∈ normalizeTokens tools raw) :
    token ≠ "" ∧ ' ' ∉ token.toList := by
  obtain ⟨hToken, -⟩ := List.mem_filter.mp h
  obtain ⟨piece, hPiece, rfl⟩ := List.mem_map.mp hToken
  obtain ⟨hSplit, hNonempty⟩ := List.mem_filter.mp hPiece
  rw [String.toList_ofList]
  constructor
  · intro hEmpty
    rw [← String.toList_eq_nil_iff, String.toList_ofList] at hEmpty
    exact of_decide_eq_true hNonempty hEmpty
  · intro hBlank
    have hSpace := mem_splitOnP hSplit ' ' hBlank
    exact absurd hSpace (by decide)

theorem descriptionWords_ne_nil (h : normalizeDescription tools oldItem.description ≠ "") :
    descriptionWords tools oldItem ≠ [] := by
  unfold normalizeDescription at h
  split at h
  · exact absurd rfl h
  · rename_i hRaw
    obtain ⟨token, tokens, hTokens⟩ : ∃ token tokens,
        normalizeTokens tools oldItem.description = token :: tokens := by
      refine List.exists_cons_of_ne_nil fun hNil => h ?_
      rw [hNil]
      rfl
    have hToken := mem_normalizeTokens (hTokens ▸ List.mem_cons_self)
    have hPieces : (normalizeDescription tools oldItem.description).toList.splitOnP (· == ' ') =
        (normalizeTokens tools oldItem.description).map String.toList := by
      rw [normalizeDescription, if_neg hRaw, String.toList_intercalate, ← List.splitOn_eq_splitOnP]
      refine List.splitOn_intercalate ' ' ?_ ?_
      · intro piece hPiece
        obtain ⟨other, hOther, rfl⟩ := List.mem_map.mp hPiece
        exact (mem_normalizeTokens hOther).2
      · rw [hTokens]
        exact List.cons_ne_nil _ _
    rw [descriptionWords, words, hPieces, hTokens, List.map_cons, List.filter_cons_of_pos]
    · exact List.cons_ne_nil _ _
    · refine decide_eq_true fun hEmpty => hToken.1 ?_
      rwa [String.toList_eq_nil_iff] at hEmpty

end Words

theorem Unrelated.not_realIdentity (h : Unrelated tools oldItem newItem) :
    ¬ RealIdentity tools oldItem newItem := by
  rintro (hSku | hBarcode | ⟨hSame, hBlank⟩)
  · exact h.sku hSku
  · exact h.barcode hBarcode
  · obtain ⟨word, hWord⟩ := List.exists_mem_of_ne_nil _ (descriptionWords_ne_nil hBlank)
    refine h.noSharedWord word hWord ?_
    rwa [descriptionWords, ← hSame]

theorem Unrelated.tokenOverlapRatio_eq_zero (h : Unrelated tools oldItem newItem) :
    tokenOverlapRatio (normalizeDescription tools oldItem.description)
      (normalizeDescription tools newItem.description) = 0 := by
  have hShared : (identityTokens (normalizeDescription tools oldItem.description)).filter
      (· ∈ identityTokens (normalizeDescription tools newItem.description)) = [] := by
    rw [List.filter_eq_nil_iff]
    intro word hOld hNew
    have hWord : ∀ {text : String}, word ∈ identityTokens text →
        word ∈ words (· == ' ') text.toList :=
      fun hToken => List.mem_dedup.mp (List.mem_filter.mp hToken).1
    exact h.noSharedWord word (hWord hOld) (hWord (of_decide_eq_true hNew))
  unfold tokenOverlapRatio
  dsimp only
  split
  · rfl
  · rw [hShared, List.length_nil, Nat.cast_zero, zero_div]

theorem Unrelated.score_lt (hTools : tools.Lawful) (h : Unrelated tools oldItem newItem) :
    combinedDescriptionScore tools oldItem.description newItem.description <
      autoMatchThreshold := by
  have hRatio : fuzzyRatio tools (normalizeDescription tools oldItem.description)
      (normalizeDescription tools newItem.description) ≤ 1 := by
    unfold fuzzyRatio
    split
    · exact zero_le_one
    · exact hTools.sequenceRatio_le_one _ _
  unfold combinedDescriptionScore
  dsimp only
  rw [h.tokenOverlapRatio_eq_zero]
  refine (hTools.blend_without_tokens _ hRatio).trans_lt ?_
  norm_num [autoMatchThreshold]

/-- Items that share nothing are matched automatically exactly when something was erased in both. -/
theorem Unrelated.autoMatched_iff (hTools : tools.Lawful) (h : Unrelated tools oldItem newItem) :
    classifyStatus (scorePair tools oldItem newItem).1 = .autoMatched ↔
      ErasedIdentity tools oldItem newItem := by
  have hExact : (scorePair tools oldItem newItem).2.isExact = true ↔
      ErasedIdentity tools oldItem newItem := by
    rw [isExact_iff hTools, or_iff_right h.not_realIdentity]
  rw [← hExact, classifyStatus_eq_autoMatched]
  constructor
  · intro hAuto
    by_contra hFuzzy
    rw [isExact_scorePair, not_or, not_or, Bool.not_eq_true, Bool.not_eq_true, Bool.not_eq_true]
      at hFuzzy
    rw [scorePair_of_no_exact_match hFuzzy.1 hFuzzy.2.1 hFuzzy.2.2] at hAuto
    refine absurd (h.score_lt hTools) (not_lt.mpr ?_)
    split at hAuto
    · exact hAuto.trans (min_le_left _ _)
    · exact hAuto
  · exact autoMatchThreshold_le_of_isExact

theorem ratioTools_lawful {ratio : ℚ} (h : ratio ≤ 1) : (ratioTools ratio).Lawful where
  lower_eq_empty text := by
    change String.ofList (text.toList.map Char.toLower) = "" ↔ text = ""
    rw [← String.toList_eq_nil_iff, String.toList_ofList, List.map_eq_nil_iff,
      String.toList_eq_nil_iff]
  sequenceRatio_le_one _ _ := h
  blend_without_tokens charScore hScore := by
    change (4 * charScore + 6 * 0) / 10 ≤ 4 / 10
    linarith

end ProcureFoundation.Matching
