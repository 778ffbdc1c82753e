import ProcureFoundation.Foundation.AsciiText
import ProcureFoundation.Matching.PackParser

/-!
# The grammar of pack texts

A pack text is two numbers and a unit, a case, a count or a number with a unit, with spaces between
its parts and its letters in either case. The four patterns are tried in order and no text is read
by two of them: the units of mass and volume are not those of a count, and none of them begins with
an x.
-/

namespace ProcureFoundation.Matching

open Text

/-- A decimal literal: digits, and digits after a point where there is one. -/
structure Literal where
  whole : List Char
  fraction : List Char
  wholeSome : whole ≠ []
  digits : ∀ c ∈ whole ++ fraction, isDigit c = true

namespace Literal

def chars (literal : Literal) : List Char :=
  literal.whole ++ if literal.fraction = [] then [] else '.' :: literal.fraction

def value (literal : Literal) : ℚ :=
  digitsValue (literal.whole ++ literal.fraction) / 10 ^ literal.fraction.length

end Literal

def Spaces (chars : List Char) : Prop := ∀ c ∈ chars, isSpace c = true

/-- The letters of a word in either case. -/
def Spells (word : String) (chars : List Char) : Prop := chars.map Char.toLower = word.toList

/-- What a pack text says. -/
inductive PackReading where
  | multi (quantity size : Literal) (unit : String)
  | case (quantity : Literal)
  | count (quantity : Literal)
  | single (size : Literal) (unit : String)

namespace PackReading

def quantity : PackReading → ℚ
  | multi quantity _ _ | case quantity | count quantity => quantity.value
  | single _ _ => 1

def size : PackReading → ℚ
  | multi _ size _ | single size _ => size.value
  | case _ | count _ => 1

def unit : PackReading → String
  | multi _ _ unit | single _ unit => unit
  | case _ | count _ => "each"

/-- The parsed pack of a reading, with products that are rounded as given. -/
structure Means (round : ℚ → ℚ) (reading : PackReading) (pack : ParsedPack) : Prop where
  packQuantity : pack.packQuantity = reading.quantity
  unitSize : pack.unitSize = reading.size
  unit : pack.unit = reading.unit
  base : ∃ factor, unitConversions reading.unit = some (pack.baseUnit, factor) ∧
    pack.baseQuantity = round (round (reading.quantity * reading.size) * factor)

end PackReading

/-- The grammar: which text says what. -/
inductive Reads : List Char → PackReading → Prop where
  | multi {quantity size : Literal} {unit : String} {a b c x word : List Char}
      (hUnit : (unitConversions unit).isSome) (ha : Spaces a) (hb : Spaces b) (hc : Spaces c)
      (hx : Spells "x" x) (hWord : Spells unit word) :
      Reads (quantity.chars ++ (a ++ (x ++ (b ++ (size.chars ++ (c ++ word))))))
        (.multi quantity size unit)
  | case {quantity : Literal} {word a : List Char} (hWord : Spells "case" word) (ha : Spaces a) :
      Reads (word ++ (a ++ quantity.chars)) (.case quantity)
  | caseOf {quantity : Literal} {word a of b : List Char} (hWord : Spells "case" word)
      (ha : Spaces a) (hOf : Spells "of" of) (hb : Spaces b) :
      Reads (word ++ (a ++ (of ++ (b ++ quantity.chars))))
        (.case quantity)
  | count {quantity : Literal} {unit : String} {factor : ℚ} {a word : List Char}
      (hUnit : unitConversions unit = some (.each, factor)) (ha : Spaces a) (hWord : Spells unit word) :
      Reads (quantity.chars ++ (a ++ word)) (.count quantity)
  | single {size : Literal} {unit : String} {baseUnit : BaseUnit} {factor : ℚ} {a word : List Char}
      (hUnit : unitConversions unit = some (baseUnit, factor)) (hMeasure : baseUnit ≠ .each)
      (ha : Spaces a) (hWord : Spells unit word) :
      Reads (size.chars ++ (a ++ word)) (.single size unit)

def buildWith (round : ℚ → ℚ) (packQuantity unitSize : ℚ) (unit : String) : Option ParsedPack :=
  (unitConversions unit).map fun (baseUnit, factor) =>
    { packQuantity, unitSize, unit, baseUnit, baseQuantity := round (round (packQuantity * unitSize) * factor) }

def parseChars (round : ℚ → ℚ) (chars : List Char) : Option ParsedPack :=
  match matchMultiPack chars with
  | some (quantity, size, unit) => buildWith round quantity size unit
  | none =>
    match matchCase chars with
    | some quantity => buildWith round quantity 1 "each"
    | none =>
      match matchCount chars with
      | some quantity => buildWith round quantity 1 "each"
      | none => (matchSingle chars).bind fun (size, unit) => buildWith round 1 size unit

/-- The parser with the rounding of its products as a parameter. -/
def parsePackStringWith (round : ℚ → ℚ) (raw : String) : Option ParsedPack :=
  parseChars round (stripChars raw.toList)

theorem parsePackString_eq (raw : String) :
    parsePackString raw = parsePackStringWith contextRound raw := rfl

section Scanning

variable {chars rest spaces written : List Char} {literal : Literal} {value : ℚ} {word : String}
  {c : Char}

theorem span_append {p : Char → Bool} {xs ys : List Char} (hxs : ∀ c ∈ xs, p c = true)
    (hys : ∀ c ∈ ys.head?, p c = false) : (xs ++ ys).takeWhile p = xs ∧
      (xs ++ ys).dropWhile p = ys := by
  rw [List.takeWhile_append_of_pos hxs, List.dropWhile_append_of_pos hxs]
  cases ys with
  | nil => exact ⟨List.append_nil _, rfl⟩
  | cons c ys =>
    have hc : ¬p c = true := Bool.eq_false_iff.mp (hys c rfl)
    rw [List.takeWhile_cons_of_neg hc, List.dropWhile_cons_of_neg hc, List.append_nil]
    exact ⟨rfl, rfl⟩

theorem isDigit_point : isDigit '.' = false := rfl

/-- A literal is taken as a whole where neither a digit nor a point follows. -/
theorem takeNumber_literal (h : ∀ c ∈ rest.head?, isDigit c = false ∧ c ≠ '.') :
    takeNumber (literal.chars ++ rest) = some (literal.value, rest) := by
  have hWhole : ∀ c ∈ literal.whole, isDigit c = true :=
    fun c hc => literal.digits c (List.mem_append_left _ hc)
  have hFraction : ∀ c ∈ literal.fraction, isDigit c = true :=
    fun c hc => literal.digits c (List.mem_append_right _ hc)
  have hRest : ∀ c ∈ rest.head?, isDigit c = false := fun c hc => (h c hc).1
  unfold takeNumber Literal.chars Literal.value
  by_cases hNone : literal.fraction = []
  · rw [if_pos hNone, List.append_nil, (span_append hWhole hRest).1, (span_append hWhole hRest).2,
      hNone, List.append_nil]
    dsimp only
    rw [if_neg literal.wholeSome, List.length_nil, pow_zero, div_one]
    split
    · exact absurd rfl (h '.' rfl).2
    · rfl
  · have hPoint : ∀ c ∈ ('.' :: (literal.fraction ++ rest)).head?, isDigit c = false := by
      intro c hc
      obtain rfl := Option.some.inj hc
      exact isDigit_point
    rw [if_neg hNone, List.append_assoc, List.cons_append, (span_append hWhole hPoint).1,
      (span_append hWhole hPoint).2]
    dsimp only
    rw [if_neg literal.wholeSome]
    change (if (literal.fraction ++ rest).takeWhile isDigit = [] then _ else _) = _
    rw [(span_append hFraction hRest).1, (span_append hFraction hRest).2, if_neg hNone]

theorem exists_literal (h : takeNumber chars = some (value, rest)) :
    ∃ literal : Literal, chars = literal.chars ++ rest ∧ literal.value = value := by
  have hWhole : ∀ c ∈ chars.takeWhile isDigit, isDigit c = true :=
    fun c hc => List.mem_takeWhile_imp hc
  have hSplit := List.takeWhile_append_dropWhile (p := isDigit) (l := chars)
  unfold takeNumber at h
  dsimp only at h
  split at h
  · cases h
  · rename_i hSome
    have hPlain : ∀ rest', some ((digitsValue (chars.takeWhile isDigit) : ℚ), rest') =
      some (value, rest) →
        rest' = chars.dropWhile isDigit → ∃ literal : Literal, chars = literal.chars ++ rest ∧
          literal.value = value := by
      rintro rest' hEq rfl
      obtain ⟨rfl, rfl⟩ := Prod.mk.inj (Option.some.inj hEq)
      refine ⟨⟨chars.takeWhile isDigit, [], hSome, by rwa [List.append_nil]⟩, ?_, ?_⟩
      · rw [Literal.chars, if_pos rfl, List.append_nil, hSplit]
      · rw [Literal.value]
        dsimp only
        rw [List.append_nil, List.length_nil, pow_zero, div_one]
    split at h
    · rename_i tail hPoint
      split at h
      · exact hPlain _ h rfl
      · rename_i hFraction
        obtain ⟨rfl, rfl⟩ := Prod.mk.inj (Option.some.inj h)
        refine ⟨⟨chars.takeWhile isDigit, tail.takeWhile isDigit, hSome, ?_⟩, ?_, rfl⟩
        · intro c hc
          exact (List.mem_append.mp hc).elim (hWhole c) fun hTail => List.mem_takeWhile_imp hTail
        · rw [Literal.chars, if_neg hFraction, List.append_assoc, List.cons_append,
            List.takeWhile_append_dropWhile, ← hPoint, hSplit]
    · exact hPlain _ h rfl

theorem skipSpaces_append (hSpaces : Spaces spaces) (h : ∀ c ∈ rest.head?, isSpace c = false) :
    skipSpaces (spaces ++ rest) = rest :=
  (span_append hSpaces h).2

theorem exists_spaces (chars : List Char) :
    ∃ spaces, Spaces spaces ∧ chars = spaces ++ skipSpaces chars :=
  ⟨chars.takeWhile isSpace, fun _ hc => List.mem_takeWhile_imp hc,
    List.takeWhile_append_dropWhile.symm⟩

theorem dropWord_append (h : written.map foldCase = word.toList) :
    dropWord word (written ++ rest) = some rest := by
  have hLength : word.toList.length = written.length := by rw [← h, List.length_map]
  unfold dropWord
  rw [if_pos, hLength, List.drop_left]
  rw [List.map_append, h]
  exact List.prefix_append _ _

theorem exists_written (h : dropWord word chars = some rest) :
    ∃ written, chars = written ++ rest ∧ written.map foldCase = word.toList := by
  unfold dropWord at h
  split at h
  · rename_i hPrefix
    obtain rfl := Option.some.inj h
    refine ⟨chars.take word.toList.length, (List.take_append_drop _ _).symm, ?_⟩
    rw [List.map_take]
    exact (List.prefix_iff_eq_take.mp hPrefix).symm
  · cases h

theorem takeNumber_eq_none (h : ∀ c ∈ chars.head?, isDigit c = false) :
    takeNumber chars = none := by
  have hWhole := (@span_append isDigit [] chars (fun c hc => (List.not_mem_nil hc).elim) h).1
  rw [List.nil_append] at hWhole
  unfold takeNumber
  rw [hWhole]
  exact if_pos rfl

theorem isDigit_of_isSpace (h : isSpace c = true) : isDigit c = false ∧ c ≠ '.' := by
  have hAll : ∀ code ∈ spaceCodes, isDigit (Char.ofNat code) = false ∧ Char.ofNat code ≠ '.' := by
    decide +kernel
  have hChar := hAll c.toNat (List.contains_iff_mem.mp h)
  rwa [Char.ofNat_toNat] at hChar

theorem exists_head_literal (literal : Literal) : ∃ c tail, literal.chars = c :: tail ∧
    isDigit c = true := by
  obtain ⟨c, tail, hWhole⟩ := List.exists_cons_of_ne_nil literal.wholeSome
  refine ⟨c, _, by rw [Literal.chars, hWhole, List.cons_append], literal.digits c ?_⟩
  rw [hWhole]
  exact List.mem_append_left _ List.mem_cons_self

theorem isSpace_head_literal (literal : Literal) : ∀ c ∈ (literal.chars ++ rest).head?,
    isSpace c = false := by
  obtain ⟨first, tail, hChars, hDigit⟩ := exists_head_literal literal
  rw [hChars]
  intro c hc
  obtain rfl := Option.some.inj hc
  by_contra hSpace
  rw [(isDigit_of_isSpace (Bool.not_eq_false _ ▸ hSpace)).1] at hDigit
  cases hDigit

/-- After spaces stands what stands before them. -/
theorem head_spaces (hSpaces : Spaces spaces) (h : ∀ c ∈ rest.head?, isDigit c = false ∧ c ≠ '.') :
    ∀ c ∈ (spaces ++ rest).head?, isDigit c = false ∧ c ≠ '.' := by
  cases spaces with
  | nil => exact h
  | cons first spaces =>
    intro c hc
    obtain rfl := Option.some.inj hc
    exact isDigit_of_isSpace (hSpaces first List.mem_cons_self)

end Scanning

section Letters

variable {chars rest written spaces : List Char} {word unit : String} {c : Char}
  {baseUnit : BaseUnit} {factor : ℚ}

/-- Small letters of the alphabet, at least one. -/
def IsWord (word : String) : Prop := word.toList ≠ [] ∧ word.toList.all Char.isLower = true

instance (word : String) : Decidable (IsWord word) := inferInstanceAs (Decidable (_ ∧ _))

theorem foldCase_ascii (hc : c.toNat < 128) : foldCase c = c.toLower := by
  rw [foldCase, if_neg (by omega), if_neg (by omega), if_neg (by omega)]

theorem map_foldCase (h : IsAscii chars) : chars.map foldCase = chars.map Char.toLower :=
  List.map_congr_left fun c hc => foldCase_ascii (h c hc)

theorem lowerUnit_ascii (h : IsAscii chars) :
    lowerUnit chars = String.ofList (chars.map Char.toLower) := by
  have hMap : (chars.map fun c => if c.toNat = 0x212a then 'k' else c.toLower) =
      chars.map Char.toLower := by
    refine List.map_congr_left fun c hc => if_neg ?_
    have hAscii := h c hc
    omega
  rw [lowerUnit, hMap]

theorem letter_ascii (hc : c.toNat < 128) (h : c.toLower.isLower = true) :
    isSpace c = false ∧ isDigit c = false ∧ c ≠ '.' :=
  @of_ascii c (fun c => c.toLower.isLower = true → isSpace c = false ∧ isDigit c = false ∧ c ≠ '.')
    (by decide +kernel) hc h

theorem Spells.isLower (h : Spells word written) (hWord : IsWord word) :
    ∀ c ∈ written, c.toLower.isLower = true := by
  intro c hc
  have hMem : c.toLower ∈ word.toList := h ▸ List.mem_map_of_mem hc
  exact List.all_eq_true.mp hWord.2 _ hMem

theorem Spells.ne_nil (h : Spells word written) (hWord : IsWord word) : written ≠ [] := by
  rintro rfl
  exact hWord.1 h.symm

theorem Spells.head (h : Spells word written) (hWord : IsWord word) (hAscii : IsAscii written) :
    ∀ c ∈ (written ++ rest).head?, isSpace c = false ∧ isDigit c = false ∧ c ≠ '.' := by
  intro c hc
  rw [List.head?_append_of_ne_nil _ (h.ne_nil hWord)] at hc
  have hMem := List.mem_of_head? hc
  exact letter_ascii (hAscii c hMem) (h.isLower hWord c hMem)

theorem Spells.dropWord (h : Spells word written) (hAscii : IsAscii written) :
    dropWord word (written ++ rest) = some rest :=
  dropWord_append ((map_foldCase hAscii).trans h)

theorem exists_spells (hAscii : IsAscii chars) (h : dropWord word chars = some rest) :
    ∃ written, chars = written ++ rest ∧ Spells word written := by
  obtain ⟨written, rfl, hWritten⟩ := exists_written h
  exact ⟨written, rfl, (map_foldCase (isAscii_append.mp hAscii).1).symm.trans hWritten⟩

/-- A word is not dropped where another letter or a digit stands. -/
theorem dropWord_eq_none (hWord : IsWord word) (hAscii : IsAscii chars)
    (h : ∀ c ∈ chars.head?, word.toList.head? ≠ some c.toLower) (hSome : chars ≠ []) :
    dropWord word chars = none := by
  by_contra hDropped
  obtain ⟨rest, hRest⟩ := Option.ne_none_iff_exists'.mp hDropped
  obtain ⟨written, rfl, hSpells⟩ := exists_spells hAscii hRest
  obtain ⟨c, tail, rfl⟩ := List.exists_cons_of_ne_nil (hSpells.ne_nil hWord)
  refine h c rfl ?_
  rw [← hSpells]
  rfl

theorem unit_word (h : unitConversions unit = some (baseUnit, factor)) :
    IsWord unit ∧ unit.toList.head? ≠ some 'x' := by
  unfold unitConversions at h
  split at h
  case h_19 => cases h
  all_goals decide +kernel

theorem each_iff : (∃ factor, unitConversions unit = some (.each, factor)) ↔
    unit ∈ ["unit", "units", "each", "ea"] := by
  constructor
  · rintro ⟨factor, h⟩
    unfold unitConversions at h
    split at h
    case h_19 => cases h
    all_goals first
      | decide
      | cases h
  · intro h
    simp only [List.mem_cons, List.not_mem_nil, or_false] at h
    obtain rfl | rfl | rfl | rfl := h
    · exact ⟨1, rfl⟩
    · exact ⟨1, rfl⟩
    · exact ⟨1, rfl⟩
    · exact ⟨1, rfl⟩

theorem all_isLetter (h : Spells word written) (hWord : IsWord word) (hAscii : IsAscii written) :
    written ≠ [] ∧ written.all isLetter = true := by
  refine ⟨h.ne_nil hWord, List.all_eq_true.mpr fun c hc => ?_⟩
  rw [isLetter, foldCase_ascii (hAscii c hc)]
  exact h.isLower hWord c hc

theorem lowerUnit_of_spells (h : Spells word written) (hAscii : IsAscii written) :
    lowerUnit written = word := by
  rw [lowerUnit_ascii hAscii, h, String.ofList_toList]

theorem spells_lowerUnit (hAscii : IsAscii chars) : Spells (lowerUnit chars) chars := by
  rw [Spells, lowerUnit_ascii hAscii, String.toList_ofList]

end Letters

section Patterns

variable {chars a b c x of word : List Char} {quantity size : Literal} {unit : String} {q s : ℚ}

theorem isWord_x : IsWord "x" := by decide

theorem isWord_case : IsWord "case" := by decide

theorem isWord_of : IsWord "of" := by decide

theorem matchMultiPack_written (hAscii : IsAscii (a ++ (x ++ (b ++ (size.chars ++ (c ++ word))))))
    (ha : Spaces a) (hb : Spaces b) (hc : Spaces c) (hx : Spells "x" x) (hWord : Spells unit word)
    (hUnit : IsWord unit) :
    matchMultiPack (quantity.chars ++ (a ++ (x ++ (b ++ (size.chars ++ (c ++ word)))))) =
      some (quantity.value, size.value, unit) := by
  obtain ⟨-, hAscii⟩ := isAscii_append.mp hAscii
  obtain ⟨hAsciiX, hAscii⟩ := isAscii_append.mp hAscii
  obtain ⟨-, hAscii⟩ := isAscii_append.mp hAscii
  obtain ⟨-, hAscii⟩ := isAscii_append.mp hAscii
  obtain ⟨-, hAsciiWord⟩ := isAscii_append.mp hAscii
  have hHeadX := fun rest => @Spells.head rest _ _ hx isWord_x hAsciiX
  have hHeadWord : ∀ d ∈ word.head?, isSpace d = false ∧ isDigit d = false ∧ d ≠ '.' := by
    have hHead := @Spells.head [] _ _ hWord hUnit hAsciiWord
    rwa [List.append_nil] at hHead
  unfold matchMultiPack
  rw [takeNumber_literal (head_spaces ha fun d hd => (hHeadX _ d hd).2), Option.bind_eq_bind,
    Option.bind_some]
  dsimp only
  rw [skipSpaces_append ha fun d hd => (hHeadX _ d hd).1, hx.dropWord hAsciiX, Option.bind_eq_bind,
    Option.bind_some,
    skipSpaces_append hb (isSpace_head_literal size),
    takeNumber_literal (head_spaces hc fun d hd => (hHeadWord d hd).2), Option.bind_some]
  dsimp only
  rw [skipSpaces_append hc fun d hd => (hHeadWord d hd).1,
    if_pos (all_isLetter hWord hUnit hAsciiWord), lowerUnit_of_spells hWord hAsciiWord]

theorem exists_multi (hAscii : IsAscii chars) (h : matchMultiPack chars = some (q, s, unit)) :
    ∃ (quantity size : Literal) (a x b c word : List Char),
      chars = quantity.chars ++ (a ++ (x ++ (b ++ (size.chars ++ (c ++ word))))) ∧ Spaces a ∧
        Spaces b ∧ Spaces c ∧
        Spells "x" x ∧ Spells unit word ∧ quantity.value = q ∧ size.value = s := by
  obtain ⟨⟨first, rest⟩, hFirst, h⟩ := Option.bind_eq_some_iff.mp h
  obtain ⟨afterX, hX, h⟩ := Option.bind_eq_some_iff.mp h
  obtain ⟨⟨second, rest'⟩, hSecond, h⟩ := Option.bind_eq_some_iff.mp h
  dsimp only at h hX
  obtain ⟨quantity, rfl, rfl⟩ := exists_literal hFirst
  obtain ⟨a, ha, hRest⟩ := exists_spaces rest
  obtain ⟨-, hAsciiRest⟩ := isAscii_append.mp hAscii
  rw [hRest] at hAsciiRest
  obtain ⟨-, hAsciiX⟩ := isAscii_append.mp hAsciiRest
  obtain ⟨x, hSkipped, hSpellsX⟩ := exists_spells hAsciiX hX
  obtain ⟨b, hb, hAfterX⟩ := exists_spaces afterX
  obtain ⟨size, hSize, rfl⟩ := exists_literal hSecond
  obtain ⟨c, hc, hRest'⟩ := exists_spaces rest'
  split at h
  · obtain ⟨rfl, hRest''⟩ := Prod.mk.inj (Option.some.inj h)
    obtain ⟨rfl, rfl⟩ := Prod.mk.inj hRest''
    have hChars : rest = a ++ (x ++ (b ++ (size.chars ++ (c ++ skipSpaces rest')))) := by
      rw [← hRest', ← hSize, ← hAfterX, ← hSkipped, ← hRest]
    have hAsciiWord : IsAscii (skipSpaces rest') := by
      have hAll := (isAscii_append.mp hAscii).2
      rw [hChars] at hAll
      simp only [isAscii_append] at hAll
      exact hAll.2.2.2.2.2
    exact ⟨quantity, size, a, x, b, c, skipSpaces rest', by rw [← hChars], ha, hb, hc, hSpellsX,
      spells_lowerUnit hAsciiWord, rfl, rfl⟩
  · cases h

theorem dropWord_literal {name : String} (hName : IsWord name)
    (hAscii : IsAscii (quantity.chars ++ chars)) :
    dropWord name (quantity.chars ++ chars) = none := by
  obtain ⟨first, tail, hChars, hDigit⟩ := exists_head_literal quantity
  rw [hChars, List.cons_append] at hAscii ⊢
  refine dropWord_eq_none hName hAscii (fun c hc hHead => ?_) (List.cons_ne_nil _ _)
  obtain rfl := Option.some.inj hc
  have hLower := List.all_eq_true.mp hName.2 _ (List.mem_of_head? hHead)
  rw [(letter_ascii (hAscii first List.mem_cons_self) hLower).2.1] at hDigit
  cases hDigit

theorem takeNumber_last (quantity : Literal) :
    takeNumber quantity.chars = some (quantity.value, []) := by
  have h := @takeNumber_literal [] quantity fun c hc => by cases hc
  rwa [List.append_nil] at h

theorem skipSpaces_literal (ha : Spaces a) : skipSpaces (a ++ quantity.chars) = quantity.chars := by
  have hHead := @isSpace_head_literal [] quantity
  rw [List.append_nil] at hHead
  exact skipSpaces_append ha hHead

theorem matchCase_written (hAscii : IsAscii (word ++ (a ++ quantity.chars)))
    (hWord : Spells "case" word) (ha : Spaces a) :
    matchCase (word ++ (a ++ quantity.chars)) = some quantity.value := by
  obtain ⟨hAsciiWord, hAscii⟩ := isAscii_append.mp hAscii
  obtain ⟨-, hAsciiQuantity⟩ := isAscii_append.mp hAscii
  have hNoOf : dropWord "of" quantity.chars = none := by
    have h := @dropWord_literal [] quantity "of" isWord_of (by rwa [List.append_nil])
    rwa [List.append_nil] at h
  unfold matchCase
  rw [hWord.dropWord hAsciiWord, Option.bind_eq_bind, Option.bind_some, skipSpaces_literal ha]
  dsimp only
  rw [hNoOf, Option.map_none, Option.getD_none, takeNumber_last, Option.bind_eq_bind,
    Option.bind_some]
  exact if_pos rfl

theorem matchCase_of_written (hAscii : IsAscii (word ++ (a ++ (of ++ (b ++ quantity.chars)))))
    (hWord : Spells "case" word) (ha : Spaces a) (hOf : Spells "of" of) (hb : Spaces b) :
    matchCase (word ++ (a ++ (of ++ (b ++ quantity.chars)))) = some quantity.value := by
  obtain ⟨hAsciiWord, hAscii⟩ := isAscii_append.mp hAscii
  obtain ⟨-, hAscii⟩ := isAscii_append.mp hAscii
  obtain ⟨hAsciiOf, -⟩ := isAscii_append.mp hAscii
  unfold matchCase
  rw [hWord.dropWord hAsciiWord, Option.bind_eq_bind, Option.bind_some,
    skipSpaces_append ha fun d hd => (hOf.head isWord_of hAsciiOf d hd).1]
  dsimp only
  rw [hOf.dropWord hAsciiOf, Option.map_some, Option.getD_some, skipSpaces_literal hb,
    takeNumber_last, Option.bind_eq_bind, Option.bind_some]
  exact if_pos rfl

theorem exists_case (hAscii : IsAscii chars) (h : matchCase chars = some q) :
    ∃ quantity : Literal, quantity.value = q ∧ Reads chars (.case quantity) := by
  obtain ⟨rest, hRest, hAfter⟩ := Option.bind_eq_some_iff.mp h
  obtain ⟨⟨value, final⟩, hFinal, hValue⟩ := Option.bind_eq_some_iff.mp hAfter
  clear h hAfter
  dsimp only at hValue hFinal
  obtain ⟨word, rfl, hWord⟩ := exists_spells hAscii hRest
  obtain ⟨a, ha, hSkipped⟩ := exists_spaces rest
  split at hValue
  · rename_i hEnd
    obtain rfl := Option.some.inj hValue
    obtain ⟨quantity, hQuantity, rfl⟩ := exists_literal hFinal
    rw [hEnd, List.append_nil] at hQuantity
    refine ⟨quantity, rfl, ?_⟩
    cases hOf : dropWord "of" (skipSpaces rest) with
    | none =>
      rw [hOf, Option.map_none, Option.getD_none] at hQuantity
      rw [hSkipped, hQuantity]
      exact .case hWord ha
    | some afterOf =>
      rw [hOf, Option.map_some, Option.getD_some] at hQuantity
      have hAsciiRest : IsAscii (skipSpaces rest) := by
        have hAll := (isAscii_append.mp hAscii).2
        rw [hSkipped] at hAll
        exact (isAscii_append.mp hAll).2
      obtain ⟨of, hWritten, hSpells⟩ := exists_spells hAsciiRest hOf
      obtain ⟨b, hb, hAfter⟩ := exists_spaces afterOf
      rw [hSkipped, hWritten, hAfter, hQuantity]
      exact .caseOf hWord ha hSpells hb
  · cases hValue

theorem matchCount_spelled {baseUnit : BaseUnit} {factor : ℚ} (hAscii : IsAscii (a ++ word))
    (ha : Spaces a) (hWord : Spells unit word)
    (hUnit : unitConversions unit = some (baseUnit, factor)) :
    matchCount (quantity.chars ++ (a ++ word)) =
      if unit ∈ ["unit", "units", "each", "ea"] then some quantity.value else none := by
  obtain ⟨-, hAsciiWord⟩ := isAscii_append.mp hAscii
  have hHead := @Spells.head [] _ _ hWord (unit_word hUnit).1 hAsciiWord
  rw [List.append_nil] at hHead
  unfold matchCount
  rw [takeNumber_literal (head_spaces ha fun d hd => (hHead d hd).2), Option.bind_eq_bind,
    Option.bind_some]
  dsimp only
  rw [skipSpaces_append ha fun d hd => (hHead d hd).1, map_foldCase hAsciiWord, hWord,
    String.ofList_toList]

theorem matchCount_written {factor : ℚ} (hAscii : IsAscii (a ++ word)) (ha : Spaces a)
    (hWord : Spells unit word) (hUnit : unitConversions unit = some (.each, factor)) :
    matchCount (quantity.chars ++ (a ++ word)) = some quantity.value := by
  rw [matchCount_spelled hAscii ha hWord hUnit]
  exact if_pos (each_iff.mp ⟨factor, hUnit⟩)

theorem exists_count (hAscii : IsAscii chars) (h : matchCount chars = some q) :
    ∃ quantity : Literal, quantity.value = q ∧ Reads chars (.count quantity) := by
  obtain ⟨⟨value, rest⟩, hRest, h⟩ := Option.bind_eq_some_iff.mp h
  dsimp only at h
  obtain ⟨quantity, rfl, rfl⟩ := exists_literal hRest
  obtain ⟨a, ha, hSkipped⟩ := exists_spaces rest
  split at h
  · rename_i hWord
    obtain rfl := Option.some.inj h
    obtain ⟨factor, hUnit⟩ := each_iff.mpr hWord
    have hAsciiWord : IsAscii (skipSpaces rest) := by
      have hAll := (isAscii_append.mp hAscii).2
      rw [hSkipped] at hAll
      exact (isAscii_append.mp hAll).2
    have hSpells : Spells (String.ofList ((skipSpaces rest).map foldCase)) (skipSpaces rest) := by
      rw [Spells, String.toList_ofList, map_foldCase hAsciiWord]
    have hReads := @Reads.count quantity _ _ _ _ hUnit ha hSpells
    rw [← hSkipped] at hReads
    exact ⟨quantity, rfl, hReads⟩
  · cases h

theorem matchSingle_written (hAscii : IsAscii (a ++ word)) (ha : Spaces a)
    (hWord : Spells unit word) (hUnit : IsWord unit) :
    matchSingle (size.chars ++ (a ++ word)) = some (size.value, unit) := by
  obtain ⟨-, hAsciiWord⟩ := isAscii_append.mp hAscii
  have hHead := @Spells.head [] _ _ hWord hUnit hAsciiWord
  rw [List.append_nil] at hHead
  unfold matchSingle
  rw [takeNumber_literal (head_spaces ha fun d hd => (hHead d hd).2), Option.bind_eq_bind,
    Option.bind_some]
  dsimp only
  rw [skipSpaces_append ha fun d hd => (hHead d hd).1, if_pos (all_isLetter hWord hUnit hAsciiWord),
    lowerUnit_of_spells hWord hAsciiWord]

theorem exists_single (hAscii : IsAscii chars) (h : matchSingle chars = some (s, unit)) :
    ∃ (size : Literal) (a word : List Char), chars = size.chars ++ (a ++ word) ∧ Spaces a ∧
      Spells unit word ∧ size.value = s := by
  obtain ⟨⟨value, rest⟩, hRest, h⟩ := Option.bind_eq_some_iff.mp h
  dsimp only at h
  obtain ⟨size, rfl, rfl⟩ := exists_literal hRest
  obtain ⟨a, ha, hSkipped⟩ := exists_spaces rest
  split at h
  · obtain ⟨rfl, rfl⟩ := Prod.mk.inj (Option.some.inj h)
    have hAsciiWord : IsAscii (skipSpaces rest) := by
      have hAll := (isAscii_append.mp hAscii).2
      rw [hSkipped] at hAll
      exact (isAscii_append.mp hAll).2
    exact ⟨size, a, skipSpaces rest, by rw [← hSkipped], ha, spells_lowerUnit hAsciiWord, rfl⟩
  · cases h

theorem matchMultiPack_eq_none (h : ∀ d ∈ chars.head?, isDigit d = false) :
    matchMultiPack chars = none := by
  unfold matchMultiPack
  rw [takeNumber_eq_none h]
  rfl

/-- After the number stands a word that does not begin with an x. -/
theorem matchMultiPack_of_word (hAscii : IsAscii (a ++ word)) (ha : Spaces a)
    (hWord : Spells unit word) (hUnit : IsWord unit) (hNoX : unit.toList.head? ≠ some 'x') :
    matchMultiPack (quantity.chars ++ (a ++ word)) = none := by
  obtain ⟨-, hAsciiWord⟩ := isAscii_append.mp hAscii
  have hHead := @Spells.head [] _ _ hWord hUnit hAsciiWord
  rw [List.append_nil] at hHead
  have hDropped : dropWord "x" word = none := by
    refine dropWord_eq_none isWord_x hAsciiWord (fun d hd hX => hNoX ?_) (hWord.ne_nil hUnit)
    rw [← hWord, List.head?_map, hd]
    exact hX.symm
  unfold matchMultiPack
  rw [takeNumber_literal (head_spaces ha fun d hd => (hHead d hd).2), Option.bind_eq_bind,
    Option.bind_some]
  dsimp only
  rw [skipSpaces_append ha fun d hd => (hHead d hd).1, hDropped]
  rfl

theorem matchCase_literal (hAscii : IsAscii (quantity.chars ++ chars)) :
    matchCase (quantity.chars ++ chars) = none := by
  unfold matchCase
  rw [dropWord_literal isWord_case hAscii]
  rfl

theorem matchCount_of_measure {baseUnit : BaseUnit} {factor : ℚ} (hAscii : IsAscii (a ++ word))
    (ha : Spaces a) (hWord : Spells unit word)
    (hUnit : unitConversions unit = some (baseUnit, factor)) (hMeasure : baseUnit ≠ .each) :
    matchCount (size.chars ++ (a ++ word)) = none := by
  rw [matchCount_spelled hAscii ha hWord hUnit]
  refine if_neg fun hEach => ?_
  obtain ⟨other, hOther⟩ := each_iff.mpr hEach
  rw [hUnit] at hOther
  exact hMeasure (Prod.mk.inj (Option.some.inj hOther)).1

end Patterns

section Parsing

variable {round : ℚ → ℚ} {chars before after : List Char} {reading : PackReading}
  {pack : ParsedPack} {unit : String}

theorem means_iff : buildWith round reading.quantity reading.size reading.unit = some pack ↔
    reading.Means round pack := by
  rw [buildWith, Option.map_eq_some_iff]
  constructor
  · rintro ⟨⟨baseUnit, factor⟩, hUnit, rfl⟩
    exact ⟨rfl, rfl, rfl, factor, hUnit, rfl⟩
  · cases pack
    rintro ⟨rfl, rfl, rfl, factor, hBase, rfl⟩
    exact ⟨(_, factor), hBase, rfl⟩

theorem exists_means (h : (unitConversions reading.unit).isSome) :
    ∃ pack, reading.Means round pack := by
  obtain ⟨conversion, hUnit⟩ := Option.isSome_iff_exists.mp h
  have hBuilt : ∃ pack, buildWith round reading.quantity reading.size reading.unit = some pack := by
    rw [buildWith, hUnit]
    exact ⟨_, rfl⟩
  obtain ⟨pack, hPack⟩ := hBuilt
  exact ⟨pack, means_iff.mp hPack⟩

theorem Reads.unit_isSome (h : Reads chars reading) : (unitConversions reading.unit).isSome := by
  cases h with
  | multi hUnit _ _ _ _ _ => exact hUnit
  | case _ _ => rfl
  | caseOf _ _ _ _ => rfl
  | count _ _ _ => rfl
  | single hUnit _ _ _ => exact Option.isSome_iff_exists.mpr ⟨_, hUnit⟩

/-- What the grammar reads is what the four patterns find. -/
theorem parseChars_of_reads (hAscii : IsAscii chars) (h : Reads chars reading) :
    parseChars round chars = buildWith round reading.quantity reading.size reading.unit := by
  unfold parseChars
  cases h with
  | multi hUnit ha hb hc hx hWord =>
    obtain ⟨⟨baseUnit, factor⟩, hConversion⟩ := Option.isSome_iff_exists.mp hUnit
    rw [matchMultiPack_written (isAscii_append.mp hAscii).2 ha hb hc hx hWord (unit_word hConversion).1]
    rfl
  | case hWord ha =>
    rw [matchMultiPack_eq_none fun d hd =>
      (hWord.head isWord_case (isAscii_append.mp hAscii).1 d hd).2.1,
      matchCase_written hAscii hWord ha]
    rfl
  | caseOf hWord ha hOf hb =>
    rw [matchMultiPack_eq_none fun d hd =>
      (hWord.head isWord_case (isAscii_append.mp hAscii).1 d hd).2.1,
      matchCase_of_written hAscii hWord ha hOf hb]
    rfl
  | count hUnit ha hWord =>
    have hAsciiWord := (isAscii_append.mp hAscii).2
    rw [matchMultiPack_of_word hAsciiWord ha hWord (unit_word hUnit).1 (unit_word hUnit).2,
      matchCase_literal hAscii, matchCount_written hAsciiWord ha hWord hUnit]
    rfl
  | single hUnit hMeasure ha hWord =>
    have hAsciiWord := (isAscii_append.mp hAscii).2
    rw [matchMultiPack_of_word hAsciiWord ha hWord (unit_word hUnit).1 (unit_word hUnit).2,
      matchCase_literal hAscii,
      matchCount_of_measure hAsciiWord ha hWord hUnit hMeasure,
      matchSingle_written hAsciiWord ha hWord (unit_word hUnit).1]
    rfl

theorem exists_reads (hAscii : IsAscii chars) (h : parseChars round chars = some pack) :
    ∃ reading, Reads chars reading ∧ reading.Means round pack := by
  unfold parseChars at h
  split at h
  · rename_i q s unit hMulti
    obtain ⟨quantity, size, a, x, b, c, word, rfl, ha, hb, hc, hx, hWord, rfl, rfl⟩ :=
      exists_multi hAscii hMulti
    have hMeans := (@means_iff round (.multi quantity size unit) pack).mp h
    obtain ⟨factor, hUnit, -⟩ := hMeans.base
    exact ⟨_, .multi (Option.isSome_iff_exists.mpr ⟨_, hUnit⟩) ha hb hc hx hWord, hMeans⟩
  · split at h
    · rename_i q hCase
      obtain ⟨quantity, rfl, hReads⟩ := exists_case hAscii hCase
      exact ⟨_, hReads, means_iff.mp h⟩
    · split at h
      · rename_i q hCount
        obtain ⟨quantity, rfl, hReads⟩ := exists_count hAscii hCount
        exact ⟨_, hReads, means_iff.mp h⟩
      · rename_i hNoCount
        obtain ⟨⟨s, unit⟩, hSingle, hBuilt⟩ := Option.bind_eq_some_iff.mp h
        obtain ⟨size, a, word, rfl, ha, hWord, rfl⟩ := exists_single hAscii hSingle
        have hMeans := (@means_iff round (.single size unit) pack).mp hBuilt
        obtain ⟨factor, hUnit, -⟩ := hMeans.base
        refine ⟨_, .single hUnit (fun hEach => ?_) ha hWord, hMeans⟩
        have hConversion : unitConversions unit = some (.each, factor) := by
          rw [← hEach]
          exact hUnit
        rw [matchCount_written (isAscii_append.mp hAscii).2 ha hWord hConversion] at hNoCount
        cases hNoCount

theorem isSpace_last_literal (literal : Literal) : ∀ c ∈ (chars ++ literal.chars).getLast?,
    isSpace c = false := by
  intro c hc
  obtain ⟨first, tail, hChars, -⟩ := exists_head_literal literal
  rw [List.getLast?_append_of_ne_nil _ (hChars ▸ List.cons_ne_nil first tail)] at hc
  have hDigit : isDigit c = true := by
    unfold Literal.chars at hc
    split at hc
    · rw [List.append_nil] at hc
      exact literal.digits c (List.mem_append_left _ (List.mem_of_getLast? hc))
    · rename_i hFraction
      rw [List.getLast?_append_of_ne_nil _ (List.cons_ne_nil _ _),
        List.getLast?_cons_of_ne_nil hFraction] at hc
      exact literal.digits c (List.mem_append_right _ (List.mem_of_getLast? hc))
  by_contra hSpace
  rw [(isDigit_of_isSpace (Bool.not_eq_false _ ▸ hSpace)).1] at hDigit
  cases hDigit

theorem isSpace_last_word {word : List Char} (hWord : Spells unit word) (hUnit : IsWord unit)
    (hAscii : IsAscii word) : ∀ c ∈ (chars ++ word).getLast?, isSpace c = false := by
  intro c hc
  rw [List.getLast?_append_of_ne_nil _ (hWord.ne_nil hUnit)] at hc
  have hMem := List.mem_of_getLast? hc
  exact (letter_ascii (hAscii c hMem) (hWord.isLower hUnit c hMem)).1

/-- A text of the grammar begins and ends with no space. -/
theorem Reads.ends (h : Reads chars reading) (hAscii : IsAscii chars) :
    (∀ c ∈ (chars ++ after).head?, isSpace c = false) ∧ ∀ c ∈ chars.getLast?,
      isSpace c = false := by
  cases h with
  | multi hUnit _ _ _ _ hWord =>
    obtain ⟨⟨baseUnit, factor⟩, hConversion⟩ := Option.isSome_iff_exists.mp hUnit
    have hAsciiWord := hAscii
    simp only [isAscii_append] at hAsciiWord
    refine ⟨?_, ?_⟩
    · rw [List.append_assoc]
      exact isSpace_head_literal _
    · simp only [← List.append_assoc]
      exact isSpace_last_word hWord (unit_word hConversion).1 hAsciiWord.2.2.2.2.2.2
  | case hWord _ =>
    refine ⟨?_, ?_⟩
    · rw [List.append_assoc]
      exact fun c hc => (hWord.head isWord_case (isAscii_append.mp hAscii).1 c hc).1
    · simp only [← List.append_assoc]
      exact isSpace_last_literal _
  | caseOf hWord _ _ _ =>
    refine ⟨?_, ?_⟩
    · rw [List.append_assoc]
      exact fun c hc => (hWord.head isWord_case (isAscii_append.mp hAscii).1 c hc).1
    · simp only [← List.append_assoc]
      exact isSpace_last_literal _
  | count hUnit _ hWord =>
    refine ⟨?_, ?_⟩
    · rw [List.append_assoc]
      exact isSpace_head_literal _
    · rw [← List.append_assoc]
      exact isSpace_last_word hWord (unit_word hUnit).1 (isAscii_append.mp (isAscii_append.mp hAscii).2).2
  | single hUnit _ _ hWord =>
    refine ⟨?_, ?_⟩
    · rw [List.append_assoc]
      exact isSpace_head_literal _
    · rw [← List.append_assoc]
      exact isSpace_last_word hWord (unit_word hUnit).1 (isAscii_append.mp (isAscii_append.mp hAscii).2).2

theorem stripChars_surrounded (h : Reads chars reading) (hAscii : IsAscii chars)
    (hBefore : Spaces before) (hAfter : Spaces after) :
    stripChars (before ++ (chars ++ after)) = chars := by
  have hEnds := @Reads.ends chars after reading h hAscii
  have hReversed : ∀ c ∈ chars.reverse.head?, isSpace c = false := by
    rw [List.head?_reverse]
    exact hEnds.2
  rw [stripChars, (span_append hBefore hEnds.1).2, List.rdropWhile, List.reverse_append,
    (span_append (fun c hc => hAfter c (List.mem_reverse.mp hc)) hReversed).2, List.reverse_reverse]

end Parsing

/-- A pack text is parsed exactly when the grammar reads it, as the grammar reads it, in any case
and with any spaces around and between its parts. -/
theorem parsePackString_grammar (round : ℚ → ℚ) :
    (∀ raw, parsePackString raw = parsePackStringWith contextRound raw) ∧
    (∀ raw : String, IsAscii raw.toList → ∀ reading, Reads (stripChars raw.toList) reading →
      ∃ pack, parsePackStringWith round raw = some pack ∧ reading.Means round pack) ∧
    (∀ raw : String, IsAscii raw.toList → ∀ pack, parsePackStringWith round raw = some pack →
      ∃ reading, Reads (stripChars raw.toList) reading ∧ reading.Means round pack) ∧
    ∀ before chars after reading, IsAscii chars → Spaces before → Spaces after →
      Reads chars reading →
      ∃ pack, parsePackStringWith round (String.ofList (before ++ (chars ++ after))) = some pack ∧
        reading.Means round pack := by
  have hParsed : ∀ chars reading, IsAscii chars → Reads chars reading →
      ∃ pack, parseChars round chars = some pack ∧ reading.Means round pack := by
    intro chars reading hAscii hReads
    obtain ⟨pack, hMeans⟩ := @exists_means round reading hReads.unit_isSome
    exact ⟨pack, (parseChars_of_reads hAscii hReads).trans (means_iff.mpr hMeans), hMeans⟩
  have hStripped : ∀ raw : String, IsAscii raw.toList → IsAscii (stripChars raw.toList) := by
    intro raw hAscii
    obtain ⟨before, after, hRaw, -⟩ := exists_stripChars raw.toList
    rw [hRaw] at hAscii
    exact (isAscii_append.mp (isAscii_append.mp hAscii).2).1
  refine ⟨parsePackString_eq, fun raw hAscii reading hReads =>
    hParsed _ reading (hStripped raw hAscii) hReads,
    fun raw hAscii pack hPack => exists_reads (hStripped raw hAscii) hPack, ?_⟩
  intro before chars after reading hAscii hBefore hAfter hReads
  rw [parsePackStringWith, String.toList_ofList, stripChars_surrounded hReads hAscii hBefore hAfter]
  exact hParsed chars reading hAscii hReads

end ProcureFoundation.Matching
