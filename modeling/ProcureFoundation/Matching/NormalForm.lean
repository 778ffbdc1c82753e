import Mathlib.Data.List.Chain
import ProcureFoundation.Foundation.AsciiText
import ProcureFoundation.Foundation.SeparatedWords
import ProcureFoundation.Matching.VariantConflicts

/-!
# The normal form of a description

The tokens of a description are words without digits beside letters and without stopwords. Joined by
single spaces they are left alone by every step that made them, so a second normalization changes
nothing. On ASCII text what is no word character separates words, and a stopword adds none.
-/

namespace ProcureFoundation.Matching

open Text

/-- What is relied on of lowercasing and of the word characters: characters that stand in a
lowercased text are left alone, and ASCII text is treated letter by letter. -/
structure TextTools.LowersText (tools : TextTools) : Prop where
  lowered : ∀ text, (∀ c ∈ text.toList, ∃ source, c ∈ (tools.lower source).toList) →
    tools.lower text = text
  lower_ascii : ∀ text, (∀ c ∈ text.toList, c.toNat < 128) →
    tools.lower text = String.ofList (text.toList.map Char.toLower)
  space : ∀ c, isSpace c = true → tools.isWord c = false
  word_ascii : ∀ c, c.toNat < 128 → tools.isWord c = (c.isAlphanum || c == '_')

/-- Single spaces between words that are no stopwords, and no digit beside a letter. -/
structure NormalForm (text : String) : Prop where
  spaces : ∀ c ∈ text.toList, isSpace c = true → c = ' '
  single : ¬[' ', ' '] <:+: text.toList
  start : text.toList.head? ≠ some ' '
  finish : text.toList.getLast? ≠ some ' '
  separated : text.toList.IsChain fun a b => isBoundary a b = false
  noStopword : ∀ token ∈ text.toList.splitOn ' ', String.ofList token ∉ stopwords

section Digits

variable {chars rest : List Char}

theorem isBoundary_space (c : Char) : isBoundary c ' ' = false ∧ isBoundary ' ' c = false := by
  have hDigit : (' ' : Char).isDigit = false := rfl
  have hAlpha : (' ' : Char).isAlpha = false := rfl
  rw [isBoundary, isBoundary, hDigit, hAlpha, Bool.and_false, Bool.and_false, Bool.false_and,
    Bool.false_and]
  exact ⟨rfl, rfl⟩

theorem head_separateDigits : (separateDigits chars).head? = chars.head? := by
  unfold separateDigits
  split
  · split
    · rfl
    · rfl
  · rfl

theorem isChain_separateDigits (chars : List Char) :
    (separateDigits chars).IsChain fun a b => isBoundary a b = false := by
  induction chars with
  | nil => exact .nil
  | cons a rest ih =>
    cases rest with
    | nil => exact .singleton a
    | cons b rest =>
      rw [separateDigits]
      split
      · refine .cons_cons (isBoundary_space a).1
          (List.isChain_cons.mpr ⟨fun c _ => (isBoundary_space c).2, ih⟩)
      · refine List.isChain_cons.mpr ⟨fun c hc => ?_, ih⟩
        rw [head_separateDigits] at hc
        obtain rfl := Option.some.inj hc
        exact Bool.eq_false_iff.mpr ‹_›

theorem separateDigits_of_isChain (h : chars.IsChain fun a b => isBoundary a b = false) :
    separateDigits chars = chars := by
  induction chars with
  | nil => rfl
  | cons a rest ih =>
    cases rest with
    | nil => rfl
    | cons b rest =>
      obtain ⟨hBoundary, hRest⟩ := List.isChain_cons_cons.mp h
      rw [separateDigits, if_neg (Bool.eq_false_iff.mp hBoundary), ih hRest]

theorem mem_separateDigits {c : Char} (h : c ∈ separateDigits chars) : c ∈ chars ∨ c = ' ' := by
  induction chars with
  | nil => exact .inl h
  | cons a rest ih =>
    cases rest with
    | nil => exact .inl h
    | cons b rest =>
      rw [separateDigits] at h
      split at h
      · obtain rfl | h := List.mem_cons.mp h
        · exact .inl List.mem_cons_self
        · obtain rfl | h := List.mem_cons.mp h
          · exact .inr rfl
          · exact (ih h).imp_left (List.mem_cons_of_mem a)
      · obtain rfl | h := List.mem_cons.mp h
        · exact .inl List.mem_cons_self
        · exact (ih h).imp_left (List.mem_cons_of_mem a)

theorem getLast_separateDigits : (separateDigits chars).getLast? = chars.getLast? := by
  induction chars with
  | nil => rfl
  | cons a rest ih =>
    cases rest with
    | nil => rfl
    | cons b rest =>
      have hSome : separateDigits (b :: rest) ≠ [] := by
        intro hNil
        have hHead := @head_separateDigits (b :: rest)
        rw [hNil] at hHead
        cases hHead
      rw [separateDigits]
      split
      · rw [List.getLast?_cons_of_ne_nil (List.cons_ne_nil _ _),
          List.getLast?_cons_of_ne_nil hSome, ih,
          List.getLast?_cons_of_ne_nil (List.cons_ne_nil _ _)]
      · rw [List.getLast?_cons_of_ne_nil hSome, ih,
          List.getLast?_cons_of_ne_nil (List.cons_ne_nil _ _)]

theorem separateDigits_append (h : ∀ a ∈ chars.getLast?, ∀ b ∈ rest.head?, isBoundary a b = false) :
    separateDigits (chars ++ rest) = separateDigits chars ++ separateDigits rest := by
  induction chars with
  | nil => rfl
  | cons a chars ih =>
    cases chars with
    | nil =>
      cases rest with
      | nil => rfl
      | cons b rest =>
        rw [List.singleton_append, separateDigits, if_neg (Bool.eq_false_iff.mp (h a rfl b rfl))]
        rfl
    | cons next chars =>
      have hRest :=
        ih fun c hc => h c (by rwa [List.getLast?_cons_of_ne_nil (List.cons_ne_nil _ _)])
      rw [List.cons_append, List.cons_append, separateDigits,
        separateDigits, ← List.cons_append, hRest]
      split
      · rfl
      · rfl

end Digits

/-- A word as it stands in a normalized description. -/
structure NormalToken (tools : TextTools) (token : List Char) : Prop where
  nonempty : token ≠ []
  noSpace : ∀ c ∈ token, isSpace c = false
  word : ∀ c ∈ token, tools.isWord c = true
  lowered : ∀ c ∈ token, ∃ source, c ∈ (tools.lower source).toList
  separated : token.IsChain fun a b => isBoundary a b = false

section Tokens

variable {tools : TextTools} {raw token : String}

/-- A character that is neither of a word nor a space counts as a space. -/
def cleaned (tools : TextTools) (c : Char) : Char := if tools.isWord c || isSpace c then c else ' '

def rawTokens (tools : TextTools) (chars : List Char) : List (List Char) :=
  pieces isSpace (separateDigits (chars.map (cleaned tools)))

theorem normalizeTokens_eq : normalizeTokens tools raw =
    ((rawTokens tools (tools.lower raw).toList).map String.ofList).filter fun token =>
      decide (token ∉ stopwords) := by
  have hFilter : ∀ parts : List (List Char), (parts.filter fun piece => decide (piece ≠ [])) =
      parts.filter fun piece => !piece.isEmpty := by
    intro parts
    refine List.filter_congr fun piece _ => ?_
    cases piece with
    | nil => rfl
    | cons c rest => rfl
  rw [normalizeTokens, words, rawTokens, pieces, ← hFilter]
  rfl

theorem isSpace_blank : isSpace ' ' = true := rfl

theorem cleaned_eq_of_noSpace {c d : Char} (h : cleaned tools c = d) (hSpace : isSpace d = false) :
    d = c ∧ tools.isWord d = true := by
  unfold cleaned at h
  split at h
  · rename_i hKept
    subst h
    rw [hSpace, Bool.or_false] at hKept
    exact ⟨rfl, hKept⟩
  · rw [← h, isSpace_blank] at hSpace
    cases hSpace

theorem normalToken_of_mem (h : token ∈ normalizeTokens tools raw) :
    NormalToken tools token.toList ∧ token ∉ stopwords := by
  rw [normalizeTokens_eq] at h
  obtain ⟨hToken, hStop⟩ := List.mem_filter.mp h
  obtain ⟨piece, hPiece, rfl⟩ := List.mem_map.mp hToken
  obtain ⟨hNonempty, hNoSpace, hInfix⟩ := mem_pieces hPiece
  rw [String.toList_ofList]
  have hSource : ∀ c ∈ piece, c ∈ (tools.lower raw).toList ∧ tools.isWord c = true := by
    intro c hc
    obtain hMem | rfl := mem_separateDigits (hInfix.subset hc)
    · obtain ⟨source, hSource, hCleaned⟩ := List.mem_map.mp hMem
      obtain ⟨rfl, hWord⟩ := cleaned_eq_of_noSpace hCleaned (hNoSpace c hc)
      exact ⟨hSource, hWord⟩
    · exact absurd (hNoSpace ' ' hc) (by decide)
  exact ⟨⟨hNonempty, hNoSpace, fun c hc => (hSource c hc).2, fun c hc => ⟨raw, (hSource c hc).1⟩,
    isChain_of_isInfix (isChain_separateDigits _) hInfix⟩, of_decide_eq_true hStop⟩

theorem toList_normalizeDescription (hTools : tools.LowersText) :
    (normalizeDescription tools raw).toList =
    [' '].intercalate ((normalizeTokens tools raw).map String.toList) := by
  unfold normalizeDescription
  split
  · rename_i hEmpty
    have hLower := hTools.lower_ascii "" fun c hc => absurd hc (by simp)
    rw [hEmpty, normalizeTokens_eq, hLower]
    rfl
  · rw [String.toList_intercalate]
    rfl

theorem exists_normalToken {word : List Char}
    (h : word ∈ (normalizeTokens tools raw).map String.toList) :
    NormalToken tools word ∧ String.ofList word ∉ stopwords := by
  obtain ⟨token, hToken, rfl⟩ := List.mem_map.mp h
  rw [String.ofList_toList]
  exact normalToken_of_mem hToken

theorem separated_normalizeDescription (hTools : tools.LowersText) :
    (normalizeDescription tools raw).toList.IsChain fun a b => isBoundary a b = false := by
  rw [toList_normalizeDescription hTools]
  refine isChain_intercalate fun word hWord => ?_
  obtain ⟨hToken, -⟩ := exists_normalToken hWord
  exact ⟨hToken.nonempty, hToken.separated, fun a _ => isBoundary_space a⟩

theorem normalForm_normalizeDescription (hTools : tools.LowersText) (raw : String) :
    NormalForm (normalizeDescription tools raw) := by
  have hTokens := fun word => @exists_normalToken tools raw word
  have hBlank : ∀ word ∈ (normalizeTokens tools raw).map String.toList, ' ' ∉ word := by
    intro word hWord hMem
    exact absurd ((hTokens word hWord).1.noSpace ' ' hMem) (by decide)
  refine ⟨?_, ?_, ?_, ?_, separated_normalizeDescription hTools, ?_⟩
  · rw [toList_normalizeDescription hTools]
    intro c hc hSpace
    obtain rfl | ⟨word, hWord, hMem⟩ := mem_intercalate_singleton hc
    · rfl
    · rw [(hTokens word hWord).1.noSpace c hMem] at hSpace
      cases hSpace
  · rw [toList_normalizeDescription hTools]
    intro hDouble
    have hChain : ([' '].intercalate ((normalizeTokens tools raw).map String.toList)).IsChain
        fun a b => ¬(a = ' ' ∧ b = ' ') := by
      refine isChain_intercalate fun word hWord =>
        ⟨(hTokens word hWord).1.nonempty, ?_, fun a ha => ?_⟩
      · refine (List.pairwise_of_forall_mem_list fun a ha b _ => ?_).isChain
        exact fun hBoth => hBlank word hWord (hBoth.1 ▸ ha)
      · have hNot : a ≠ ' ' := fun hSame => hBlank word hWord (hSame ▸ ha)
        exact ⟨fun h => hNot h.1, fun h => hNot h.2⟩
    exact (List.isChain_pair.mp (isChain_of_isInfix hChain hDouble)) ⟨rfl, rfl⟩
  · rw [toList_normalizeDescription hTools]
    intro hStart
    cases hList : (normalizeTokens tools raw).map String.toList with
    | nil =>
      rw [hList] at hStart
      cases hStart
    | cons word words =>
      have hWord : word ∈ (normalizeTokens tools raw).map String.toList :=
        hList ▸ List.mem_cons_self
      rw [hList, head_intercalate (hTokens word hWord).1.nonempty] at hStart
      exact hBlank word hWord (List.mem_of_head? hStart)
  · rw [toList_normalizeDescription hTools]
    intro hFinish
    obtain ⟨word, hWord, hMem⟩ :=
      getLast_intercalate_mem (fun word hWord => (hTokens word hWord).1.nonempty) hFinish
    exact hBlank word hWord hMem
  · rw [toList_normalizeDescription hTools]
    intro token hToken
    cases hList : (normalizeTokens tools raw).map String.toList with
    | nil =>
      rw [hList] at hToken
      obtain rfl := List.mem_singleton.mp hToken
      decide
    | cons word words =>
      rw [List.splitOn_intercalate ' ' hBlank (hList ▸ List.cons_ne_nil word words)] at hToken
      exact (hTokens token hToken).2

theorem normalizeTokens_normalizeDescription (hTools : tools.LowersText) :
    normalizeTokens tools (normalizeDescription tools raw) = normalizeTokens tools raw := by
  have hTokens := fun word => @exists_normalToken tools raw word
  have hMem : ∀ c ∈ (normalizeDescription tools raw).toList,
      c = ' ' ∨ ∃ word ∈ (normalizeTokens tools raw).map String.toList, c ∈ word := by
    intro c hc
    rw [toList_normalizeDescription hTools] at hc
    exact mem_intercalate_singleton hc
  have hLower : tools.lower (normalizeDescription tools raw) = normalizeDescription tools raw := by
    refine hTools.lowered _ fun c hc => ?_
    obtain rfl | ⟨word, hWord, hInWord⟩ := hMem c hc
    · refine ⟨String.ofList [' '], ?_⟩
      rw [hTools.lower_ascii, String.toList_ofList, String.toList_ofList]
      · exact List.mem_cons_self
      · simp
    · exact (hTokens word hWord).1.lowered c hInWord
  have hCleaned : (normalizeDescription tools raw).toList.map (cleaned tools) =
      (normalizeDescription tools raw).toList := by
    refine (List.map_congr_left fun c hc => ?_).trans (List.map_id _)
    refine if_pos ?_
    obtain rfl | ⟨word, hWord, hInWord⟩ := hMem c hc
    · rw [isSpace_blank, Bool.or_true]
    · rw [(hTokens word hWord).1.word c hInWord, Bool.true_or]
  have hPieces : rawTokens tools (normalizeDescription tools raw).toList =
      (normalizeTokens tools raw).map String.toList := by
    rw [rawTokens, hCleaned, separateDigits_of_isChain (separated_normalizeDescription hTools),
      toList_normalizeDescription hTools]
    exact pieces_intercalate isSpace_blank fun word hWord =>
      ⟨(hTokens word hWord).1.nonempty, (hTokens word hWord).1.noSpace⟩
  have hRead : ((normalizeTokens tools raw).map String.toList).map String.ofList =
      normalizeTokens tools raw := by
    rw [List.map_map]
    refine (List.map_congr_left fun token _ => ?_).trans (List.map_id _)
    exact String.ofList_toList
  rw [normalizeTokens_eq, hLower, hPieces, hRead, List.filter_eq_self]
  intro token hToken
  exact decide_eq_true (normalToken_of_mem hToken).2

theorem normalizeDescription_idempotent (hTools : tools.LowersText) (raw : String) :
    normalizeDescription tools (normalizeDescription tools raw) =
      normalizeDescription tools raw := by
  rw [← String.toList_inj, toList_normalizeDescription hTools, toList_normalizeDescription hTools,
    normalizeTokens_normalizeDescription hTools]

theorem normalizeDescription_congr {other : String} (hTools : tools.LowersText)
    (h : normalizeTokens tools raw = normalizeTokens tools other) :
    normalizeDescription tools raw = normalizeDescription tools other := by
  rw [← String.toList_inj, toList_normalizeDescription hTools,
    toList_normalizeDescription hTools, h]

end Tokens

/-- No word of the first text goes on in the second. -/
def WordsApart (tools : TextTools) (chars rest : List Char) : Prop :=
  ∀ a ∈ chars.getLast?, ∀ b ∈ rest.head?, tools.isWord a = false ∨ tools.isWord b = false

section Ascii

variable {tools : TextTools} {chars rest : List Char} {c : Char}

def asciiWords (tools : TextTools) (chars : List Char) : List (List Char) :=
  rawTokens tools (chars.map Char.toLower)

theorem normalizeTokens_ascii (hTools : tools.LowersText) (h : IsAscii chars) :
    normalizeTokens tools (String.ofList chars) =
    ((asciiWords tools chars).map String.ofList).filter fun token =>
      decide (token ∉ stopwords) := by
  rw [normalizeTokens_eq, hTools.lower_ascii, String.toList_ofList, String.toList_ofList]
  · rfl
  · rwa [String.toList_ofList]

theorem toLower_ascii (h : c.toNat < 128) : c.toLower.toNat < 128 ∧
    (c.toLower.isAlphanum || c.toLower == '_') = (c.isAlphanum || c == '_') :=
  @of_ascii c (fun c => c.toLower.toNat < 128 ∧
    (c.toLower.isAlphanum || c.toLower == '_') = (c.isAlphanum || c == '_')) (by decide +kernel) h

theorem isSpace_cleaned (hTools : tools.LowersText) (h : c.toNat < 128)
    (hWord : tools.isWord c = false) : isSpace (cleaned tools c.toLower) = true := by
  obtain ⟨hLower, hSame⟩ := toLower_ascii h
  rw [hTools.word_ascii c h, ← hSame, ← hTools.word_ascii _ hLower] at hWord
  unfold cleaned
  split
  · rename_i hKept
    rwa [hWord, Bool.false_or] at hKept
  · rfl

theorem isBoundary_of_isSpace (h : isSpace c = true) (d : Char) :
    isBoundary c d = false ∧ isBoundary d c = false := by
  have hAll : ∀ code ∈ spaceCodes, (Char.ofNat code).isDigit = false ∧
      (Char.ofNat code).isAlpha = false := by
    decide +kernel
  obtain ⟨hDigit, hAlpha⟩ := hAll c.toNat (List.contains_iff_mem.mp h)
  rw [Char.ofNat_toNat] at hDigit hAlpha
  rw [isBoundary, isBoundary, hDigit, hAlpha, Bool.and_false, Bool.and_false, Bool.false_and,
    Bool.false_and]
  exact ⟨rfl, rfl⟩

theorem asciiWords_append (hTools : tools.LowersText) (hChars : IsAscii chars)
    (hRest : IsAscii rest) (h : WordsApart tools chars rest) :
    asciiWords tools (chars ++ rest) = asciiWords tools chars ++
      asciiWords tools rest := by
  have hSpaces : Apart isSpace ((chars.map Char.toLower).map (cleaned tools))
      ((rest.map Char.toLower).map (cleaned tools)) := by
    intro a ha b hb
    rw [List.map_map, List.getLast?_map] at ha
    rw [List.map_map, List.head?_map] at hb
    obtain ⟨last, hLast, rfl⟩ := Option.map_eq_some_iff.mp ha
    obtain ⟨first, hFirst, rfl⟩ := Option.map_eq_some_iff.mp hb
    exact (h last hLast first hFirst).imp
      (isSpace_cleaned hTools (hChars last (List.mem_of_getLast? hLast)))
      (isSpace_cleaned hTools (hRest first (List.mem_of_head? hFirst)))
  rw [asciiWords, rawTokens, List.map_append, List.map_append, separateDigits_append, pieces_append]
  · rfl
  · intro a ha b hb
    rw [getLast_separateDigits] at ha
    rw [head_separateDigits] at hb
    exact hSpaces a ha b hb
  · intro a ha b hb
    obtain hSpace | hSpace := hSpaces a ha b hb
    · exact (isBoundary_of_isSpace hSpace b).1
    · exact (isBoundary_of_isSpace hSpace a).2

theorem asciiWords_of_noWord (hTools : tools.LowersText) (hChars : IsAscii chars)
    (h : ∀ c ∈ chars, tools.isWord c = false) : asciiWords tools chars = [] := by
  have hSpaces : ∀ c ∈ (chars.map Char.toLower).map (cleaned tools), isSpace c = true := by
    rw [List.map_map]
    intro c hc
    obtain ⟨source, hSource, rfl⟩ := List.mem_map.mp hc
    exact isSpace_cleaned hTools (hChars source hSource) (h source hSource)
  rw [asciiWords, rawTokens, separateDigits_of_isChain, pieces_of_separators hSpaces]
  exact (List.pairwise_of_forall_mem_list fun a ha b _ =>
    (isBoundary_of_isSpace (hSpaces a ha) b).1).isChain

theorem asciiWords_stopword (hTools : tools.LowersText) (hChars : IsAscii chars)
    (h : String.ofList (chars.map Char.toLower) ∈ stopwords) :
    asciiWords tools chars = [chars.map Char.toLower] := by
  have hAll : ∀ stop ∈ stopwords, stop.toList ≠ [] ∧
      (stop.toList.all fun c => c.isAlphanum && (!c.isDigit && !isSpace c)) = true := by
        decide +kernel
  obtain ⟨hSome, hLetters⟩ := hAll _ h
  rw [String.toList_ofList] at hSome hLetters
  simp only [List.all_eq_true, Bool.and_eq_true, Bool.not_eq_true'] at hLetters
  have hCleaned : (chars.map Char.toLower).map (cleaned tools) = chars.map Char.toLower := by
    refine (List.map_congr_left fun c hc => if_pos ?_).trans (List.map_id _)
    obtain ⟨source, hSource, hLower⟩ := List.mem_map.mp hc
    have hAscii : c.toNat < 128 := hLower ▸ (toLower_ascii (hChars source hSource)).1
    rw [hTools.word_ascii c hAscii, (hLetters c hc).1, Bool.true_or, Bool.true_or]
  rw [asciiWords, rawTokens, hCleaned, separateDigits_of_isChain, pieces_of_word hSome fun c hc =>
    (hLetters c hc).2.2]
  refine (List.pairwise_of_forall_mem_list fun a ha b hb => ?_).isChain
  rw [isBoundary, (hLetters a ha).2.1, (hLetters b hb).2.1, Bool.false_and, Bool.and_false]
  rfl

variable {before run spaces after left word right : List Char}

/-- Between two texts a run without a word character separates their words, whatever it is made of.
-/
theorem asciiWords_run (hTools : tools.LowersText) (hBefore : IsAscii before) (hRun : IsAscii run)
    (hAfter : IsAscii after) (hSome : run ≠ []) (h : ∀ c ∈ run, tools.isWord c = false) :
    asciiWords tools (before ++ run ++ after) = asciiWords tools before ++
      asciiWords tools after := by
  have hHead : WordsApart tools before run := fun a _ b hb => .inr (h b (List.mem_of_head? hb))
  have hTail : WordsApart tools (before ++ run) after := by
    intro a ha b _
    rw [List.getLast?_append_of_ne_nil _ hSome] at ha
    exact .inl (h a (List.mem_of_getLast? ha))
  rw [asciiWords_append hTools (hBefore.append hRun) hAfter hTail,
    asciiWords_append hTools hBefore hRun hHead,
    asciiWords_of_noWord hTools hRun h, List.append_nil]

theorem asciiWords_inserted (hTools : tools.LowersText) (hLeft : IsAscii left)
    (hWord : IsAscii word) (hRight : IsAscii right)
    (hLeftNoWord : ∀ c ∈ left, tools.isWord c = false)
    (hRightNoWord : ∀ c ∈ right, tools.isWord c = false)
    (hStop : String.ofList (word.map Char.toLower) ∈ stopwords) :
    asciiWords tools (left ++ word ++ right) = [word.map Char.toLower] := by
  have hHead : WordsApart tools left word :=
    fun a ha _ _ => .inl (hLeftNoWord a (List.mem_of_getLast? ha))
  have hTail : WordsApart tools (left ++ word) right :=
    fun _ _ b hb => .inr (hRightNoWord b (List.mem_of_head? hb))
  rw [asciiWords_append hTools (hLeft.append hWord) hRight hTail,
    asciiWords_append hTools hLeft hWord hHead,
    asciiWords_of_noWord hTools hLeft hLeftNoWord, asciiWords_of_noWord hTools hRight hRightNoWord,
    asciiWords_stopword hTools hWord hStop, List.append_nil, List.nil_append]

theorem normalizeTokens_inserted (hTools : tools.LowersText) (hBefore : IsAscii before)
    (hLeft : IsAscii left) (hWord : IsAscii word) (hRight : IsAscii right) (hAfter : IsAscii after)
    (hLeftNoWord : ∀ c ∈ left, tools.isWord c = false)
    (hRightNoWord : ∀ c ∈ right, tools.isWord c = false)
    (hStop : String.ofList (word.map Char.toLower) ∈ stopwords)
    (hBegins : WordsApart tools before (left ++ word ++ right))
    (hEnds : WordsApart tools (left ++ word ++ right) after)
    (hApart : WordsApart tools before after) :
    normalizeTokens tools (String.ofList (before ++ (left ++ word ++ right) ++ after)) =
      normalizeTokens tools (String.ofList (before ++ after)) := by
  have hInserted := (hLeft.append hWord).append hRight
  have hWordSome : word ≠ [] := by
    rintro rfl
    revert hStop
    decide
  have hEndsAll : WordsApart tools (before ++ (left ++ word ++ right)) after := by
    intro a ha b hb
    rw [List.getLast?_append_of_ne_nil _ (by
      rw [List.append_assoc, Ne, List.append_eq_nil_iff, List.append_eq_nil_iff]
      exact fun hNil => hWordSome hNil.2.1)] at ha
    exact hEnds a ha b hb
  rw [normalizeTokens_ascii hTools ((hBefore.append hInserted).append hAfter),
    normalizeTokens_ascii hTools (hBefore.append hAfter),
    asciiWords_append hTools (hBefore.append hInserted) hAfter hEndsAll,
    asciiWords_append hTools hBefore hInserted hBegins,
    asciiWords_append hTools hBefore hAfter hApart,
    asciiWords_inserted hTools hLeft hWord hRight hLeftNoWord hRightNoWord hStop, List.map_append,
    List.map_append, List.map_append, List.filter_append, List.filter_append, List.filter_append]
  have hDropped : ([word.map Char.toLower].map String.ofList).filter
      (fun token => decide (token ∉ stopwords)) = [] := by
    rw [List.map_singleton, List.filter_cons_of_neg, List.filter_nil]
    rw [decide_eq_true_iff]
    exact not_not_intro hStop
  rw [hDropped, List.append_nil]

end Ascii

/-- Normalizing again changes nothing, and on ASCII text neither the case of a letter nor
punctuation nor a stopword between two words does. -/
theorem normalizeDescription_stable (tools : TextTools) (hTools : tools.LowersText) :
    (∀ raw, normalizeDescription tools (normalizeDescription tools raw) =
      normalizeDescription tools raw) ∧
    (∀ raw, NormalForm (normalizeDescription tools raw)) ∧
    (∀ chars others, IsAscii chars → IsAscii others →
      chars.map Char.toLower = others.map Char.toLower →
      normalizeDescription tools (String.ofList chars) =
        normalizeDescription tools (String.ofList others)) ∧
    (∀ before run spaces after, IsAscii before → IsAscii run → IsAscii after → run ≠ [] →
      (∀ c ∈ run, tools.isWord c = false) → spaces ≠ [] → (∀ c ∈ spaces, c = ' ') →
        normalizeDescription tools (String.ofList (before ++ run ++ after)) =
          normalizeDescription tools (String.ofList (before ++ spaces ++ after))) ∧
    ∀ before left word right after, IsAscii before → IsAscii left → IsAscii word → IsAscii right →
      IsAscii after → (∀ c ∈ left, tools.isWord c = false) → (∀ c ∈ right, tools.isWord c = false) →
        String.ofList (word.map Char.toLower) ∈ stopwords →
          WordsApart tools before (left ++ word ++ right) →
          WordsApart tools (left ++ word ++ right) after → WordsApart tools before after →
            normalizeDescription tools (String.ofList (before ++ (left ++ word ++ right) ++ after)) =
              normalizeDescription tools (String.ofList (before ++ after)) := by
  refine ⟨normalizeDescription_idempotent hTools, normalForm_normalizeDescription hTools,
    ?_, ?_, ?_⟩
  · intro chars others hChars hOthers hSame
    refine normalizeDescription_congr hTools ?_
    rw [normalizeTokens_ascii hTools hChars, normalizeTokens_ascii hTools hOthers, asciiWords,
      asciiWords, hSame]
  · intro before run spaces after hBefore hRun hAfter hSome hNoWord hSpacesSome hSpaces
    have hBlank : IsAscii spaces := fun c hc => by
      rw [hSpaces c hc]
      simp
    have hBlankNoWord : ∀ c ∈ spaces, tools.isWord c = false := fun c hc => by
      rw [hSpaces c hc]
      exact hTools.space ' ' rfl
    refine normalizeDescription_congr hTools ?_
    rw [normalizeTokens_ascii hTools ((hBefore.append hRun).append hAfter),
      normalizeTokens_ascii hTools ((hBefore.append hBlank).append hAfter),
      asciiWords_run hTools hBefore hRun hAfter hSome hNoWord,
      asciiWords_run hTools hBefore hBlank hAfter hSpacesSome hBlankNoWord]
  · intro before left word right after hBefore hLeft hWord hRight hAfter hLeftNoWord hRightNoWord
      hStop hBegins hEnds hApart
    exact normalizeDescription_congr hTools
      (normalizeTokens_inserted hTools hBefore hLeft hWord hRight hAfter hLeftNoWord
      hRightNoWord hStop hBegins hEnds hApart)

theorem ratioTools_lowersText (ratio : ℚ) : (ratioTools ratio).LowersText where
  lowered text h := by
    have hSame : text.toList.map Char.toLower = text.toList := by
      refine (List.map_congr_left fun c hc => ?_).trans (List.map_id _)
      obtain ⟨source, hSource⟩ := h c hc
      rw [ratioTools, String.toList_ofList] at hSource
      obtain ⟨d, -, rfl⟩ := List.mem_map.mp hSource
      exact toLower_toLower d
    exact (congrArg String.ofList hSame).trans String.ofList_toList
  lower_ascii _ _ := rfl
  space c h := by
    have hAll : ∀ code ∈ spaceCodes, ((Char.ofNat code).isAlphanum || Char.ofNat code == '_') =
      false := by decide +kernel
    have hChar := hAll c.toNat (List.contains_iff_mem.mp h)
    rwa [Char.ofNat_toNat] at hChar
  word_ascii _ _ := rfl

theorem normalizeDescription_stable_of_cola :
    NormalForm (normalizeDescription (ratioTools 1) "  Coca-Cola   Zero!! 330ml x24  ") ∧
      normalizeDescription (ratioTools 1)
      (normalizeDescription (ratioTools 1) "  Coca-Cola   Zero!! 330ml x24  ") =
        normalizeDescription (ratioTools 1) "  Coca-Cola   Zero!! 330ml x24  " :=
  ⟨(normalizeDescription_stable (ratioTools 1) (ratioTools_lowersText 1)).2.1 _,
    (normalizeDescription_stable (ratioTools 1) (ratioTools_lowersText 1)).1 _⟩

end ProcureFoundation.Matching
