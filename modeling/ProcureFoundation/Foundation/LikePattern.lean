import Mathlib.Computability.Language
import Mathlib.Data.List.Infix

/-!
# Patterns of a search

In a pattern a percent sign stands for any text and an underscore for any character, unless a
backslash before them makes them stand for themselves. A pattern must not end with such a backslash.
What a pattern finds is the product of the languages of its pieces.
-/

namespace ProcureFoundation.LikePattern

inductive Piece where
  | literal (c : Char)
  | anyOne
  | anyText
deriving DecidableEq

def pieceOf (c : Char) : Piece :=
  if c = '%' then .anyText
  else if c = '_' then .anyOne
  else .literal c

def pieces : List Char → Option (List Piece)
  | [] => some []
  | c :: rest =>
    if c = '\\' then
      match rest with
      | [] => none
      | escaped :: rest => (pieces rest).map (.literal escaped :: ·)
    else (pieces rest).map (pieceOf c :: ·)

def reads : List Piece → List Char → Bool
  | [], text => text.isEmpty
  | .literal c :: rest, text =>
    match text with
    | [] => false
    | d :: text => c == d && reads rest text
  | .anyOne :: rest, text =>
    match text with
    | [] => false
    | _ :: text => reads rest text
  | .anyText :: rest, text => text.tails.any (reads rest)

def like (text pattern : List Char) : Option Bool :=
  (pieces pattern).map fun found => reads found text

def Piece.language : Piece → Language Char
  | literal c => {[c]}
  | anyOne => {text | ∃ c, text = [c]}
  | anyText => Set.univ

/-- What a pattern finds. -/
def language (found : List Piece) : Language Char := (found.map Piece.language).prod

def Plain (text : List Char) : Prop := ∀ c ∈ text, c ≠ '\\' ∧ c ≠ '%' ∧ c ≠ '_'

instance (text : List Char) : Decidable (Plain text) := inferInstanceAs (Decidable (∀ c ∈ text, _))

variable {found others : List Piece} {text pattern suffix : List Char} {c : Char}

theorem mem_language_nil : text ∈ language [] ↔ text = [] := Language.mem_one text

theorem mem_language_cons {piece : Piece} : text ∈ language (piece :: found) ↔
    ∃ first ∈ piece.language, ∃ rest ∈ language found, first ++ rest = text := by
  rw [language, List.map_cons, List.prod_cons, Language.mem_mul]
  rfl

theorem mem_language_append : text ∈ language (found ++ others) ↔
    ∃ first ∈ language found, ∃ rest ∈ language others, first ++ rest = text := by
  rw [language, List.map_append, List.prod_append, Language.mem_mul]
  rfl

theorem reads_iff : reads found text = true ↔ text ∈ language found := by
  induction found generalizing text with
  | nil => rw [reads, List.isEmpty_iff, mem_language_nil]
  | cons piece found ih =>
    rw [mem_language_cons]
    cases piece with
    | literal c =>
      cases text with
      | nil =>
        refine iff_of_false Bool.false_ne_true ?_
        rintro ⟨first, rfl, rest, -, hText⟩
        exact List.cons_ne_nil _ _ hText
      | cons d text =>
        rw [reads, Bool.and_eq_true, beq_iff_eq, ih]
        constructor
        · rintro ⟨rfl, hRest⟩
          exact ⟨[c], rfl, text, hRest, rfl⟩
        · rintro ⟨first, rfl, rest, hRest, hText⟩
          obtain ⟨rfl, rfl⟩ := List.cons_eq_cons.mp hText
          exact ⟨rfl, hRest⟩
    | anyOne =>
      cases text with
      | nil =>
        refine iff_of_false Bool.false_ne_true ?_
        rintro ⟨first, ⟨c, rfl⟩, rest, -, hText⟩
        exact List.cons_ne_nil _ _ hText
      | cons d text =>
        rw [reads, ih]
        constructor
        · exact fun hRest => ⟨[d], ⟨d, rfl⟩, text, hRest, rfl⟩
        · rintro ⟨first, ⟨c, rfl⟩, rest, hRest, hText⟩
          obtain ⟨-, rfl⟩ := List.cons_eq_cons.mp hText
          exact hRest
    | anyText =>
      rw [reads, List.any_eq_true]
      constructor
      · rintro ⟨rest, hRest, hReads⟩
        obtain ⟨first, rfl⟩ := (List.mem_tails _ _).mp hRest
        exact ⟨first, trivial, rest, ih.mp hReads, rfl⟩
      · rintro ⟨first, -, rest, hRest, rfl⟩
        exact ⟨rest, (List.mem_tails _ _).mpr (List.suffix_append first rest), ih.mpr hRest⟩

theorem mem_language_literals {chars : List Char} : text ∈ language (chars.map Piece.literal) ↔
    text = chars := by
  induction chars generalizing text with
  | nil => exact mem_language_nil
  | cons c chars ih =>
    rw [List.map_cons, mem_language_cons]
    constructor
    · rintro ⟨first, rfl, rest, hRest, rfl⟩
      rw [ih.mp hRest]
      rfl
    · rintro rfl
      exact ⟨[c], rfl, chars, ih.mpr rfl, rfl⟩

theorem mem_language_anyText : text ∈ language [.anyText] := by
  rw [mem_language_cons]
  exact ⟨text, trivial, [], mem_language_nil.mpr rfl, List.append_nil text⟩

/-- Between percent signs a pattern is looked for anywhere in the text. -/
theorem mem_language_surrounded :
    text ∈ language (.anyText :: (found ++ [.anyText])) ↔
      ∃ part ∈ language found, part <:+: text := by
  rw [mem_language_cons]
  constructor
  · rintro ⟨before, -, rest, hRest, rfl⟩
    obtain ⟨part, hPart, after, -, rfl⟩ := mem_language_append.mp hRest
    exact ⟨part, hPart, before, after, by rw [List.append_assoc]⟩
  · rintro ⟨part, hPart, before, after, rfl⟩
    refine ⟨before, trivial, part ++ after, ?_, by rw [List.append_assoc]⟩
    exact mem_language_append.mpr ⟨part, hPart, after, mem_language_anyText, rfl⟩

theorem pieces_escaped (c : Char) (rest : List Char) :
    pieces ('\\' :: c :: rest) = (pieces rest).map (.literal c :: ·) := rfl

theorem pieces_cons (h : c ≠ '\\') (rest : List Char) :
    pieces (c :: rest) = (pieces rest).map (pieceOf c :: ·) := by
  rw [pieces.eq_def]
  exact if_neg h

theorem pieces_append (h : pieces pattern = some found) :
    pieces (pattern ++ suffix) = (pieces suffix).map (found ++ ·) := by
  induction pattern using pieces.induct generalizing found with
  | case1 =>
    obtain rfl := Option.some.inj h
    exact Option.map_id'.symm
  | case2 => exact nomatch h
  | case3 escaped rest ih =>
    rw [pieces_escaped, Option.map_eq_some_iff] at h
    obtain ⟨others, hOthers, rfl⟩ := h
    rw [List.cons_append, List.cons_append, pieces_escaped, ih hOthers, Option.map_map]
    rfl
  | case4 c rest hNot ih =>
    rw [pieces_cons hNot, Option.map_eq_some_iff] at h
    obtain ⟨others, hOthers, rfl⟩ := h
    rw [List.cons_append, pieces_cons hNot, ih hOthers, Option.map_map]
    rfl

theorem pieces_plain (h : Plain text) : pieces text = some (text.map Piece.literal) := by
  induction text with
  | nil => rfl
  | cons c text ih =>
    obtain ⟨hEscape, hPercent, hUnderscore⟩ := h c List.mem_cons_self
    rw [pieces_cons hEscape, ih fun d hd => h d (List.mem_cons_of_mem _ hd), pieceOf,
      if_neg hPercent, if_neg hUnderscore]
    rfl

/-- A text that is no pattern ends with a backslash that is not escaped. -/
theorem exists_of_pieces_eq_none (h : pieces text = none) :
    ∃ start found, text = start ++ ['\\'] ∧ pieces start = some found := by
  induction text using pieces.induct with
  | case1 => exact nomatch h
  | case2 => exact ⟨[], [], rfl, rfl⟩
  | case3 escaped rest ih =>
    rw [pieces_escaped, Option.map_eq_none_iff] at h
    obtain ⟨start, found, rfl, hStart⟩ := ih h
    refine ⟨'\\' :: escaped :: start, .literal escaped :: found, rfl, ?_⟩
    rw [pieces_escaped, hStart]
    rfl
  | case4 c rest hNot ih =>
    rw [pieces_cons hNot, Option.map_eq_none_iff] at h
    obtain ⟨start, found, rfl, hStart⟩ := ih h
    refine ⟨c :: start, pieceOf c :: found, rfl, ?_⟩
    rw [pieces_cons hNot, hStart]
    rfl

/-- A text between percent signs is always a pattern, as a backslash at its end escapes the second
sign. -/
theorem pieces_surrounded (text : List Char) : pieces ('%' :: (text ++ ['%'])) =
    (match pieces text with
      | some found => some (.anyText :: (found ++ [.anyText]))
      | none => (pieces text.dropLast).map fun found => .anyText :: (found ++ [.literal '%'])) := by
  rw [pieces_cons (by decide)]
  cases hText : pieces text with
  | some found =>
    rw [pieces_append hText]
    rfl
  | none =>
    obtain ⟨start, found, rfl, hStart⟩ := exists_of_pieces_eq_none hText
    rw [List.append_assoc, pieces_append hStart, List.dropLast_concat, hStart]
    rfl

theorem mem_language_ending : text ∈ language (.anyText :: (found ++ [.literal c])) ↔
    ∃ part ∈ language found, part ++ [c] <:+ text := by
  rw [mem_language_cons]
  constructor
  · rintro ⟨before, -, rest, hRest, rfl⟩
    obtain ⟨part, hPart, last, hLast, rfl⟩ := mem_language_append.mp hRest
    obtain rfl := (@mem_language_literals last [c]).mp hLast
    exact ⟨part, hPart, before, rfl⟩
  · rintro ⟨part, hPart, before, rfl⟩
    refine ⟨before, trivial, part ++ [c], ?_, rfl⟩
    exact mem_language_append.mpr ⟨part, hPart, [c], (@mem_language_literals [c] [c]).mpr rfl, rfl⟩

/-- What a text finds that is written between percent signs. -/
def FindsInside (name text : List Char) : Prop :=
  match pieces name with
  | some found => ∃ part ∈ language found, part <:+: text
  | none => ∃ found, pieces name.dropLast = some found ∧ ∃ part ∈ language found,
      part ++ ['%'] <:+ text

theorem like_surrounded (name text : List Char) :
    ∃ finds, like text ('%' :: (name ++ ['%'])) = some finds ∧
      (finds = true ↔ FindsInside name text) := by
  rw [like, pieces_surrounded, FindsInside]
  cases hName : pieces name with
  | some found => exact ⟨_, rfl, reads_iff.trans mem_language_surrounded⟩
  | none =>
    obtain ⟨start, found, rfl, hStart⟩ := exists_of_pieces_eq_none hName
    rw [List.dropLast_concat, hStart]
    refine ⟨_, rfl, reads_iff.trans (mem_language_ending.trans ?_)⟩
    constructor
    · exact fun h => ⟨found, rfl, h⟩
    · rintro ⟨others, hOthers, h⟩
      exact Option.some.inj hOthers ▸ h

theorem findsInside_plain {name : List Char} (h : Plain name) : FindsInside name text ↔
    name <:+: text := by
  rw [FindsInside, pieces_plain h]
  constructor
  · rintro ⟨part, hPart, hInfix⟩
    exact mem_language_literals.mp hPart ▸ hInfix
  · exact fun hInfix => ⟨name, mem_language_literals.mpr rfl, hInfix⟩

end ProcureFoundation.LikePattern
