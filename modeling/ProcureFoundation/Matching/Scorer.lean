import ProcureFoundation.Foundation.BestRows
import ProcureFoundation.Matching.PackParser

/-!
# Scoring candidate pairs

A pair of rows scores by its supplier SKU, its barcode, its normalized description or,
failing these, by the similarity of the descriptions; each old row takes the first of its
highest-scoring new rows, unless none is plausible. The library functions on text beyond
ASCII and the floating-point similarity are parameters.
-/

namespace ProcureFoundation.Matching

open Text

/-- What the scorer takes from the language: lower case, word characters, the ratio of a
sequence matcher, and `0.4` and `0.6` parts of two ratios rounded to four digits. -/
structure TextTools where
  lower : String → String
  isWord : Char → Bool
  sequenceRatio : String → String → ℚ
  blend : ℚ → ℚ → ℚ

inductive MatchMethod where
  | sku
  | barcode
  | exactDescription
  | fuzzy
  | unmatched
deriving DecidableEq

inductive MatchStatus where
  | autoMatched
  | reviewRecommended
  | manualReviewRequired
  | noCandidate
deriving DecidableEq

structure CandidateItem where
  key : String
  supplierSku : Option String
  barcode : Option String
  description : String
deriving DecidableEq

structure MatchResult where
  oldKey : String
  newKey : Option String
  confidence : ℚ
  method : MatchMethod
  status : MatchStatus
deriving DecidableEq

def autoMatchThreshold : ℚ := 95 / 100
def reviewRecommendedThreshold : ℚ := 80 / 100
def noPlausibleMatchFloor : ℚ := 45 / 100
def variantConflictScoreCap : ℚ := 55 / 100

def stopwords : List String := ["the", "a", "an", "of", "and", "with", "in"]

def packNoiseWords : List String :=
  ["x", "ml", "l", "kg", "g", "ea", "each", "unit", "units", "case", "of"]

def variantConflictGroups : List (List String) :=
  [["mature", "matured"], ["mild"], ["medium"], ["extra mature"], ["smooth"], ["original"],
    ["lite", "light"],
    ["zero", "sugar free", "no sugar"], ["diet"], ["full cream", "full-cream"],
    ["low fat", "fat free", "fatfree"],
    ["spicy", "hot"], ["unsalted"], ["salted"], ["smoked"], ["unsmoked"]]

def isBoundary (a b : Char) : Bool := (a.isDigit && b.isAlpha) || (a.isAlpha && b.isDigit)

def separateDigits : List Char → List Char
  | a :: b :: rest =>
    if isBoundary a b then a :: ' ' :: separateDigits (b :: rest)
      else a :: separateDigits (b :: rest)
  | chars => chars

def words (isSeparator : Char → Bool) (chars : List Char) : List String :=
  ((chars.splitOnP isSeparator).filter (· ≠ [])).map String.ofList

/-- Given a string, whether each of its characters is part of one number. -/
def isUnitLike (token : String) : Bool :=
  ((takeNumber token.toList).map fun number => number.2 == []).getD false

def matchByBarcode (oldBarcode newBarcode : Option String) : Bool :=
  oldBarcode.getD "" != "" && newBarcode.getD "" != "" && strip (oldBarcode.getD "") ==
    strip (newBarcode.getD "")

def requiresHumanReview (status : MatchStatus) : Bool :=
  status ∈ [MatchStatus.reviewRecommended, .manualReviewRequired, .noCandidate]

def classifyStatus (confidence : ℚ) : MatchStatus :=
  if autoMatchThreshold ≤ confidence then .autoMatched
  else if reviewRecommendedThreshold ≤ confidence then .reviewRecommended
  else .manualReviewRequired

variable (tools : TextTools)

def normalizeTokens (raw : String) : List String :=
  let text := (tools.lower raw).toList.map fun c => if tools.isWord c || isSpace c then c else ' '
  (words isSpace (separateDigits text)).filter (· ∉ stopwords)

def normalizeDescription (raw : String) : String :=
  if raw = "" then "" else " ".intercalate (normalizeTokens tools raw)

def identityTokens (normalized : String) : List String :=
  ((words (· == ' ') normalized.toList).dedup).filter fun token =>
    decide (token ∉ packNoiseWords) && !isUnitLike token

def tokenOverlapRatio (textA textB : String) : ℚ :=
  let tokensA := identityTokens textA
  let tokensB := identityTokens textB
  if tokensA = [] ∨ tokensB = [] then 0
  else (tokensA.filter (· ∈ tokensB)).length / (tokensA ++ tokensB).dedup.length

def fuzzyRatio (textA textB : String) : ℚ :=
  if textA = "" ∨ textB = "" then 0 else tools.sequenceRatio textA textB

def combinedDescriptionScore (oldDescription newDescription : String) : ℚ :=
  let normA := normalizeDescription tools oldDescription
  let normB := normalizeDescription tools newDescription
  tools.blend (fuzzyRatio tools normA normB) (tokenOverlapRatio normA normB)

def findVariantGroup (normalized : String) : Option (List String) :=
  let tokens := normalized.toList.splitOn ' '
  variantConflictGroups.find? fun group => group.any fun variant =>
    if ' ' ∈ variant.toList then decide (variant.toList <:+: normalized.toList)
    else decide (variant.toList ∈ tokens)

def hasConflictingVariant (descriptionA descriptionB : String) : Bool :=
  match findVariantGroup (normalizeDescription tools descriptionA),
    findVariantGroup (normalizeDescription tools descriptionB) with
  | some groupA, some groupB => groupA != groupB
  | _, _ => false

def matchBySku (oldSku newSku : Option String) : Bool :=
  oldSku.getD "" != "" && newSku.getD "" != "" &&
    tools.lower (strip (oldSku.getD "")) == tools.lower (strip (newSku.getD ""))

def matchByExactNormalizedDescription (oldDescription newDescription : String) : Bool :=
  oldDescription != "" && newDescription != "" &&
    normalizeDescription tools oldDescription == normalizeDescription tools newDescription

def scorePair (oldItem newItem : CandidateItem) : ℚ × MatchMethod :=
  if matchBySku tools oldItem.supplierSku newItem.supplierSku then (1, .sku)
  else if matchByBarcode oldItem.barcode newItem.barcode then (1, .barcode)
  else if matchByExactNormalizedDescription tools oldItem.description newItem.description then
    (98 / 100, .exactDescription)
  else
    let score := combinedDescriptionScore tools oldItem.description newItem.description
    (if hasConflictingVariant tools oldItem.description newItem.description then
      min score variantConflictScoreCap else score, .fuzzy)

def findBestMatch (oldItem : CandidateItem) (newItems : List CandidateItem) : MatchResult :=
  match firstBest (fun newItem => (scorePair tools oldItem newItem).1) (-1) newItems with
  | none => ⟨oldItem.key, none, 0, .unmatched, .noCandidate⟩
  | some best =>
    let (score, method) := scorePair tools oldItem best
    if score < noPlausibleMatchFloor then ⟨oldItem.key, none, 0, .unmatched, .noCandidate⟩
    else ⟨oldItem.key, some best.key, score, method, classifyStatus score⟩

/-- The new item is plausible, scores more than those before it and no less than those after it. -/
def Claims (oldItem : CandidateItem) (newItems : List CandidateItem) (newItem : CandidateItem) :
    Prop :=
  noPlausibleMatchFloor ≤ (scorePair tools oldItem newItem).1 ∧
    ∃ before after, newItems = before ++ newItem :: after ∧
      (∀ item ∈ before, (scorePair tools oldItem item).1 < (scorePair tools oldItem newItem).1) ∧
      ∀ item ∈ after, (scorePair tools oldItem item).1 ≤ (scorePair tools oldItem newItem).1

variable {tools} {oldItem newItem : CandidateItem} {newItems : List CandidateItem}

theorem claims_iff_isFirstBest : Claims tools oldItem newItems newItem ↔
    noPlausibleMatchFloor ≤ (scorePair tools oldItem newItem).1 ∧
      IsFirstBest (fun item => (scorePair tools oldItem item).1) (-1) newItems newItem := by
  constructor
  · rintro ⟨hFloor, before, after, hEq, hBefore, hAfter⟩
    have hLow : (-1 : ℚ) < noPlausibleMatchFloor := by norm_num [noPlausibleMatchFloor]
    exact ⟨hFloor, before, after, hEq, hLow.trans_le hFloor, hBefore, hAfter⟩
  · rintro ⟨hFloor, before, after, hEq, -, hBefore, hAfter⟩
    exact ⟨hFloor, before, after, hEq, hBefore, hAfter⟩

theorem Claims.mem (h : Claims tools oldItem newItems newItem) : newItem ∈ newItems :=
  (claims_iff_isFirstBest.mp h).2.mem

theorem findBestMatch_cases (tools : TextTools) (oldItem : CandidateItem)
    (newItems : List CandidateItem) :
    ((∀ item, ¬ Claims tools oldItem newItems item) ∧
      (findBestMatch tools oldItem newItems).newKey = none ∧
      (findBestMatch tools oldItem newItems).status = .noCandidate) ∨
    ∃ item, Claims tools oldItem newItems item ∧ (findBestMatch tools oldItem newItems).newKey =
      some item.key ∧
      (findBestMatch tools oldItem newItems).status =
        classifyStatus (scorePair tools oldItem item).1 := by
  rw [findBestMatch]
  cases hBest : firstBest (fun item => (scorePair tools oldItem item).1) (-1) newItems with
  | none =>
    refine .inl ⟨fun item hClaims => ?_, rfl, rfl⟩
    rw [firstBest_eq_some.mpr (claims_iff_isFirstBest.mp hClaims).2] at hBest
    exact nomatch hBest
  | some best =>
    have hFirst := firstBest_eq_some.mp hBest
    dsimp only
    split
    · rename_i hLow
      refine .inl ⟨fun item hClaims => ?_, rfl, rfl⟩
      rw [claims_iff_isFirstBest] at hClaims
      rw [hClaims.2.unique hFirst] at hClaims
      exact absurd hClaims.1 (not_le.mpr hLow)
    · rename_i hPlausible
      exact .inr ⟨best, claims_iff_isFirstBest.mpr ⟨not_lt.mp hPlausible, hFirst⟩, rfl, rfl⟩

theorem classifyStatus_ne_noCandidate (confidence : ℚ) :
    classifyStatus confidence ≠ .noCandidate := by
  unfold classifyStatus
  split
  · exact fun h => nomatch h
  · split
    · exact fun h => nomatch h
    · exact fun h => nomatch h

theorem Claims.unique {other : CandidateItem} (h : Claims tools oldItem newItems newItem)
    (hOther : Claims tools oldItem newItems other) : newItem = other :=
  (claims_iff_isFirstBest.mp h).2.unique (claims_iff_isFirstBest.mp hOther).2

/-- Text tools for descriptions of ASCII letters whose sequences match to the given ratio. -/
def ratioTools (ratio : ℚ) : TextTools where
  lower := fun text => String.ofList (text.toList.map Char.toLower)
  isWord := fun c => c.isAlphanum || c == '_'
  sequenceRatio := fun _ _ => ratio
  blend := fun charScore tokenScore => (4 * charScore + 6 * tokenScore) / 10

theorem ratioTools_blend (ratio tokenScore : ℚ) :
    Monotone fun x => (ratioTools ratio).blend x tokenScore := by
  intro x y hLe
  have hSum : 4 * x + 6 * tokenScore ≤ 4 * y + 6 * tokenScore := by linarith
  exact div_le_div_of_nonneg_right hSum (by norm_num)

end ProcureFoundation.Matching
