import ProcureFoundation.Matching.Scorer

/-!
# Conflicting variants

A description can name several variants, and a phrase of one group can extend a word of
another. The search for a group stops at the first one of the list, so two descriptions
that conflict further down are scored as if they agreed.
-/

namespace ProcureFoundation.Matching

open Text

/-- The words of the variant follow one another in the description. -/
def ContainsVariant (normalized variant : String) : Prop :=
  variant.toList.splitOn ' ' <:+: normalized.toList.splitOn ' '

instance (normalized variant : String) : Decidable (ContainsVariant normalized variant) :=
  inferInstanceAs (Decidable (_ <:+: _))

def ContainsGroup (normalized : String) (group : List String) : Prop :=
  ∃ variant ∈ group, ContainsVariant normalized variant

instance (normalized : String) (group : List String) : Decidable (ContainsGroup normalized group) :=
  inferInstanceAs (Decidable (∃ variant ∈ group, _))

/-- The first description names a variant of a group that the second does not mention. -/
def NamesOwnGroup (normalizedA normalizedB : String) : Prop :=
  ∃ group ∈ variantConflictGroups, ContainsGroup normalizedA group ∧
    ¬ ContainsGroup normalizedB group

/-- The first description has a phrase where the second has only a variant that is part of it. -/
def ExtendsVariant (normalizedA normalizedB : String) : Prop :=
  ∃ group ∈ variantConflictGroups, ∃ phrase ∈ group, ContainsVariant normalizedA phrase ∧
    ¬ ContainsGroup normalizedB group ∧ ∃ other ∈ variantConflictGroups, ∃ variant ∈ other,
      ContainsVariant phrase variant ∧ ContainsVariant normalizedB variant

def VariantsConflict (normalizedA normalizedB : String) : Prop :=
  (NamesOwnGroup normalizedA normalizedB ∧ NamesOwnGroup normalizedB normalizedA) ∨
    ExtendsVariant normalizedA normalizedB ∨ ExtendsVariant normalizedB normalizedA

instance (normalizedA normalizedB : String) : Decidable (NamesOwnGroup normalizedA normalizedB) :=
  inferInstanceAs (Decidable (∃ group ∈ variantConflictGroups, _))

instance (normalizedA normalizedB : String) : Decidable (ExtendsVariant normalizedA normalizedB) :=
  inferInstanceAs (Decidable (∃ group ∈ variantConflictGroups, ∃ phrase ∈ group, _))

instance (normalizedA normalizedB : String) :
    Decidable (VariantsConflict normalizedA normalizedB) :=
  inferInstanceAs (Decidable (_ ∨ _))

variable {normalized normalizedA normalizedB variant : String} {group : List String}

/-- A phrase stands somewhere in the description, or a word is one of its words. -/
def Mentions (normalized variant : String) : Prop :=
  (' ' ∈ variant.toList ∧ variant.toList <:+: normalized.toList) ∨
    (' ' ∉ variant.toList ∧ variant.toList ∈ normalized.toList.splitOn ' ')

def MentionsGroup (normalized : String) (group : List String) : Prop :=
  ∃ variant ∈ group, Mentions normalized variant

/-- Of the groups in their order, the first that the description mentions. -/
def FirstMentioned (normalized : String) (group : List String) : Prop :=
  ∃ before after, variantConflictGroups = before ++ group :: after ∧
    MentionsGroup normalized group ∧ ∀ earlier ∈ before, ¬MentionsGroup normalized earlier

/-- The two descriptions mention different groups first. -/
def FirstMentionsDiffer (normalizedA normalizedB : String) : Prop :=
  ∃ groupA groupB, FirstMentioned normalizedA groupA ∧ FirstMentioned normalizedB groupB ∧
    groupA ≠ groupB

theorem mentionsGroup_iff : MentionsGroup normalized group ↔ (group.any fun variant =>
    if ' ' ∈ variant.toList then decide (variant.toList <:+: normalized.toList)
    else decide (variant.toList ∈ normalized.toList.splitOn ' ')) = true := by
  rw [List.any_eq_true, MentionsGroup]
  refine exists_congr fun variant => and_congr_right fun _ => ?_
  unfold Mentions
  split
  · rename_i hPhrase
    simp only [hPhrase, decide_eq_true_iff, true_and, not_true, false_and, or_false]
  · rename_i hWord
    simp only [hWord, decide_eq_true_iff, false_and, not_false_iff, true_and, false_or]

theorem findVariantGroup_eq_some : findVariantGroup normalized = some group ↔
    FirstMentioned normalized group := by
  rw [findVariantGroup, List.find?_eq_some_iff_append, FirstMentioned]
  constructor
  · rintro ⟨hGroup, before, after, hGroups, hBefore⟩
    refine ⟨before, after, hGroups, mentionsGroup_iff.mpr hGroup, ?_⟩
    intro earlier hEarlier hMentions
    have hNot := hBefore earlier hEarlier
    rw [Bool.not_eq_true', ← Bool.not_eq_true] at hNot
    exact hNot (mentionsGroup_iff.mp hMentions)
  · rintro ⟨before, after, hGroups, hGroup, hBefore⟩
    refine ⟨mentionsGroup_iff.mp hGroup, before, after, hGroups, ?_⟩
    intro earlier hEarlier
    rw [Bool.not_eq_true', ← Bool.not_eq_true]
    exact fun hMentions => hBefore earlier hEarlier (mentionsGroup_iff.mpr hMentions)

theorem NamesOwnGroup.ne (h : NamesOwnGroup normalizedA normalizedB) :
    normalizedA ≠ normalizedB := by
  rintro rfl
  obtain ⟨group, -, hContains, hNot⟩ := h
  exact hNot hContains

theorem ExtendsVariant.ne (h : ExtendsVariant normalizedA normalizedB) :
    normalizedA ≠ normalizedB := by
  rintro rfl
  obtain ⟨group, -, phrase, hPhrase, hContains, hNot, -⟩ := h
  exact hNot ⟨phrase, hPhrase, hContains⟩

theorem VariantsConflict.ne (h : VariantsConflict normalizedA normalizedB) :
    normalizedA ≠ normalizedB := by
  obtain h | h | h := h
  · exact h.1.ne
  · exact h.ne
  · exact h.ne.symm

theorem NamesOwnGroup.contains (h : NamesOwnGroup normalizedA normalizedB) :
    ∃ group ∈ variantConflictGroups, ContainsGroup normalizedA group := by
  obtain ⟨group, hGroup, hContains, -⟩ := h
  exact ⟨group, hGroup, hContains⟩

theorem ExtendsVariant.contains (h : ExtendsVariant normalizedA normalizedB) :
    (∃ group ∈ variantConflictGroups, ContainsGroup normalizedA group) ∧
      ∃ group ∈ variantConflictGroups, ContainsGroup normalizedB group := by
  obtain ⟨group, hGroup, phrase, hPhrase, hContains, -, other, hOther, variant, hVariant, -,
    hPart⟩ := h
  exact ⟨⟨group, hGroup, phrase, hPhrase, hContains⟩, other, hOther, variant, hVariant, hPart⟩

theorem VariantsConflict.contains (h : VariantsConflict normalizedA normalizedB) :
    (∃ group ∈ variantConflictGroups, ContainsGroup normalizedA group) ∧
      ∃ group ∈ variantConflictGroups, ContainsGroup normalizedB group := by
  obtain h | h | h := h
  · exact ⟨h.1.contains, h.2.contains⟩
  · exact h.contains
  · exact h.contains.symm

theorem ContainsGroup.ne_empty (hGroup : group ∈ variantConflictGroups)
    (h : ContainsGroup normalized group) : normalized ≠ "" := by
  rintro rfl
  obtain ⟨variant, hVariant, hContains⟩ := h
  have hNone : ∀ group ∈ variantConflictGroups, ∀ variant ∈ group, ¬ContainsVariant "" variant := by
    decide +kernel
  exact hNone group hGroup variant hVariant hContains

variable {tools : TextTools} {oldItem newItem : CandidateItem} {confidence : ℚ}

theorem hasConflictingVariant_iff {descriptionA descriptionB : String} :
    hasConflictingVariant tools descriptionA descriptionB = true ↔
      FirstMentionsDiffer (normalizeDescription tools descriptionA)
      (normalizeDescription tools descriptionB) := by
  simp only [FirstMentionsDiffer, ← findVariantGroup_eq_some]
  unfold hasConflictingVariant
  split
  · rename_i groupA groupB hGroupA hGroupB
    rw [hGroupA, hGroupB, bne_iff_ne]
    constructor
    · intro hNe
      exact ⟨groupA, groupB, rfl, rfl, hNe⟩
    · rintro ⟨_, _, hA, hB, hNe⟩
      rwa [Option.some.inj hA, Option.some.inj hB]
  · rename_i hNotBoth
    refine iff_of_false Bool.false_ne_true ?_
    rintro ⟨groupA, groupB, hGroupA, hGroupB, -⟩
    exact hNotBoth groupA groupB hGroupA hGroupB

theorem classifyStatus_of_capped (h : confidence ≤ variantConflictScoreCap) :
    classifyStatus confidence = .manualReviewRequired := by
  have hReview : confidence < reviewRecommendedThreshold :=
    h.trans_lt (by norm_num [variantConflictScoreCap, reviewRecommendedThreshold])
  have hAuto : confidence < autoMatchThreshold :=
    hReview.trans (by norm_num [reviewRecommendedThreshold, autoMatchThreshold])
  rw [classifyStatus, if_neg (not_le.mpr hAuto), if_neg (not_le.mpr hReview)]

theorem scorePair_of_no_exact_match
    (hSku : matchBySku tools oldItem.supplierSku newItem.supplierSku = false)
    (hBarcode : matchByBarcode oldItem.barcode newItem.barcode = false)
    (hDescription : matchByExactNormalizedDescription tools oldItem.description
      newItem.description = false) :
    (scorePair tools oldItem newItem).1 =
      if hasConflictingVariant tools oldItem.description newItem.description then
        min (combinedDescriptionScore tools oldItem.description newItem.description)
          variantConflictScoreCap
      else combinedDescriptionScore tools oldItem.description newItem.description := by
  rw [scorePair, hSku, hBarcode, hDescription]
  rfl

theorem VariantsConflict.no_exact_match {oldDescription newDescription : String}
    (h : VariantsConflict (normalizeDescription tools oldDescription)
      (normalizeDescription tools newDescription)) :
    matchByExactNormalizedDescription tools oldDescription newDescription = false := by
  rw [matchByExactNormalizedDescription, beq_eq_false_iff_ne.mpr h.ne, Bool.and_false]

/-- The tools with another sequence matcher. -/
def TextTools.withRatio (tools : TextTools) (ratio : String → String → ℚ) : TextTools :=
  { tools with sequenceRatio := ratio }

theorem normalizeDescription_withRatio (ratio : String → String → ℚ) (raw : String) :
    normalizeDescription (tools.withRatio ratio) raw = normalizeDescription tools raw := rfl

/-- Whatever ratio in the unit interval the sequence matcher gives, the pair is capped and left to
manual review. -/
def AlwaysCapped (tools : TextTools) (oldItem newItem : CandidateItem) : Prop :=
  ∀ ratio : String → String → ℚ, (∀ textA textB, 0 ≤ ratio textA textB ∧ ratio textA textB ≤ 1) →
    (scorePair (tools.withRatio ratio) oldItem newItem).1 ≤ variantConflictScoreCap ∧
      classifyStatus (scorePair (tools.withRatio ratio) oldItem newItem).1 = .manualReviewRequired

theorem combinedDescriptionScore_withRatio {oldDescription newDescription : String}
    (hConflict : VariantsConflict (normalizeDescription tools oldDescription)
      (normalizeDescription tools newDescription))
    (ratio : String → String → ℚ) :
    combinedDescriptionScore (tools.withRatio ratio) oldDescription newDescription =
      tools.blend (ratio (normalizeDescription tools oldDescription)
        (normalizeDescription tools newDescription))
        (tokenOverlapRatio (normalizeDescription tools oldDescription)
          (normalizeDescription tools newDescription)) := by
  obtain ⟨⟨groupA, hGroupA, hContainsA⟩, groupB, hGroupB, hContainsB⟩ := hConflict.contains
  have hRatio : fuzzyRatio (tools.withRatio ratio) (normalizeDescription tools oldDescription)
      (normalizeDescription tools newDescription) =
        ratio (normalizeDescription tools oldDescription) (normalizeDescription tools newDescription) :=
    if_neg (not_or.mpr ⟨hContainsA.ne_empty hGroupA, hContainsB.ne_empty hGroupB⟩)
  rw [combinedDescriptionScore, normalizeDescription_withRatio,
    normalizeDescription_withRatio, hRatio]
  rfl

/-- Two items with conflicting variants are capped for every sequence matcher exactly when they
mention different groups first, or share so few words that no matcher lifts them over the cap. -/
theorem variant_conflict_capped_iff (tools : TextTools)
    (hBlend : ∀ tokenScore, Monotone fun x => tools.blend x tokenScore)
    {oldItem newItem : CandidateItem}
    (hSku : matchBySku tools oldItem.supplierSku newItem.supplierSku = false)
    (hBarcode : matchByBarcode oldItem.barcode newItem.barcode = false)
    (hConflict : VariantsConflict (normalizeDescription tools oldItem.description)
      (normalizeDescription tools newItem.description)) :
    AlwaysCapped tools oldItem newItem ↔
      FirstMentionsDiffer (normalizeDescription tools oldItem.description)
          (normalizeDescription tools newItem.description) ∨
        tools.blend 1 (tokenOverlapRatio (normalizeDescription tools oldItem.description)
          (normalizeDescription tools newItem.description)) ≤ variantConflictScoreCap := by
  have hScore : ∀ ratio, (scorePair (tools.withRatio ratio) oldItem newItem).1 =
      if hasConflictingVariant tools oldItem.description newItem.description then
        min (combinedDescriptionScore (tools.withRatio ratio) oldItem.description newItem.description)
          variantConflictScoreCap
      else combinedDescriptionScore (tools.withRatio ratio) oldItem.description
        newItem.description := fun ratio =>
    @scorePair_of_no_exact_match (tools.withRatio ratio) oldItem newItem hSku hBarcode
      hConflict.no_exact_match
  simp only [AlwaysCapped, and_iff_left_of_imp classifyStatus_of_capped, hScore,
    combinedDescriptionScore_withRatio hConflict, ← hasConflictingVariant_iff]
  split
  · rename_i hCapped
    exact iff_of_true (fun _ _ => min_le_right _ _) (.inl hCapped)
  · rename_i hFree
    rw [or_iff_right hFree]
    constructor
    · intro h
      exact h (fun _ _ => 1) fun _ _ => ⟨zero_le_one, le_rfl⟩
    · intro hWords ratio hRatio
      exact (hBlend _ (hRatio _ _).2).trans hWords

def describedItem (description : String) : CandidateItem := ⟨description, none, none, description⟩

theorem mature_mild_capped : AlwaysCapped (ratioTools (21 / 25))
    (describedItem "Cheddar Cheese Mature 2kg") (describedItem "Cheddar Cheese Mild 2kg") := by
  refine (variant_conflict_capped_iff (ratioTools (21 / 25)) (ratioTools_blend _) (by decide +kernel)
    (by decide +kernel) (by decide +kernel)).mpr (.inl ?_)
  rw [← hasConflictingVariant_iff]
  decide +kernel

theorem extra_mature_not_capped :
    ¬ ∀ (tools : TextTools) (oldItem newItem : CandidateItem),
      matchBySku tools oldItem.supplierSku newItem.supplierSku = false →
      matchByBarcode oldItem.barcode newItem.barcode = false →
      VariantsConflict (normalizeDescription tools oldItem.description)
        (normalizeDescription tools newItem.description) →
      (scorePair tools oldItem newItem).1 ≤ variantConflictScoreCap ∧
        classifyStatus (scorePair tools oldItem newItem).1 = .manualReviewRequired := by
  intro h
  have hCapped := (h (ratioTools (9 / 10)) (describedItem "Extra Mature Cheddar Cheese Block")
    (describedItem "Mature Cheddar Cheese Block") (by decide +kernel) (by decide +kernel)
      (by decide +kernel)).1
  revert hCapped
  decide +kernel

end ProcureFoundation.Matching
