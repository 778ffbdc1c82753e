import Mathlib.Data.List.Chain
import Mathlib.Data.List.Infix
import Mathlib.Tactic.Common

/-!
# Separated words

The words of a list are its longest runs without a separator. Where a separator stands between two
lists their words are those of the one and then those of the other, and words that are joined by
single separators are read back.
-/

namespace ProcureFoundation

variable {α : Type*} {p : α → Bool} {xs ys piece : List α}

theorem mem_splitOnP (h : piece ∈ xs.splitOnP p) : ∀ x ∈ piece, p x = false := by
  induction xs generalizing piece with
  | nil =>
    rw [List.splitOnP_nil, List.mem_singleton] at h
    subst h
    exact fun x hx => (List.not_mem_nil hx).elim
  | cons y xs ih =>
    rw [List.splitOnP_cons_eq_if_modifyHead] at h
    split at h
    · obtain rfl | h := List.mem_cons.mp h
      · exact fun x hx => (List.not_mem_nil hx).elim
      · exact ih h
    · rename_i hy
      obtain ⟨first, rest, hPieces⟩ := List.exists_cons_of_ne_nil (List.splitOnP_ne_nil p xs)
      rw [hPieces, List.modifyHead_cons] at h
      obtain rfl | h := List.mem_cons.mp h
      · intro x hx
        obtain rfl | hx := List.mem_cons.mp hx
        · exact Bool.eq_false_iff.mpr hy
        · exact ih (hPieces ▸ List.mem_cons_self) x hx
      · exact ih (hPieces ▸ List.mem_cons_of_mem _ h)

theorem isPrefix_head_splitOnP {first : List α} {rest : List (List α)}
    (h : xs.splitOnP p = first :: rest) : first <+: xs := by
  induction xs generalizing first rest with
  | nil =>
    rw [List.splitOnP_nil] at h
    obtain ⟨rfl, -⟩ := List.cons_eq_cons.mp h
    exact List.prefix_rfl
  | cons y xs ih =>
    rw [List.splitOnP_cons_eq_if_modifyHead] at h
    split at h
    · obtain ⟨rfl, -⟩ := List.cons_eq_cons.mp h
      exact List.nil_prefix
    · obtain ⟨next, others, hPieces⟩ := List.exists_cons_of_ne_nil (List.splitOnP_ne_nil p xs)
      rw [hPieces, List.modifyHead_cons] at h
      obtain ⟨rfl, -⟩ := List.cons_eq_cons.mp h
      exact List.cons_prefix_cons.mpr ⟨rfl, ih hPieces⟩

theorem infix_of_mem_splitOnP (h : piece ∈ xs.splitOnP p) : piece <:+: xs := by
  induction xs generalizing piece with
  | nil =>
    rw [List.splitOnP_nil, List.mem_singleton] at h
    exact h ▸ List.infix_rfl
  | cons y xs ih =>
    obtain ⟨first, rest, hPieces⟩ := List.exists_cons_of_ne_nil (List.splitOnP_ne_nil p (y :: xs))
    rw [hPieces] at h
    obtain rfl | hRest := List.mem_cons.mp h
    · exact (isPrefix_head_splitOnP hPieces).isInfix
    · rw [List.splitOnP_cons_eq_if_modifyHead] at hPieces
      refine List.infix_cons (ih ?_)
      split at hPieces
      · obtain ⟨-, rfl⟩ := List.cons_eq_cons.mp hPieces
        exact hRest
      · obtain ⟨next, others, hTail⟩ := List.exists_cons_of_ne_nil (List.splitOnP_ne_nil p xs)
        rw [hTail, List.modifyHead_cons] at hPieces
        obtain ⟨-, rfl⟩ := List.cons_eq_cons.mp hPieces
        exact hTail ▸ List.mem_cons_of_mem next hRest

variable (p) in
def pieces (xs : List α) : List (List α) := (xs.splitOnP p).filter fun piece => !piece.isEmpty

theorem mem_pieces (h : piece ∈ pieces p xs) : piece ≠ [] ∧ (∀ x ∈ piece, p x = false) ∧
    piece <:+: xs := by
  obtain ⟨hPiece, hSome⟩ := List.mem_filter.mp h
  refine ⟨fun hNil => ?_, mem_splitOnP hPiece, infix_of_mem_splitOnP hPiece⟩
  rw [hNil] at hSome
  cases hSome

theorem pieces_nil : pieces p ([] : List α) = [] := rfl

theorem pieces_append_cons {separator : α} (h : p separator = true) :
    pieces p (xs ++ separator :: ys) = pieces p xs ++ pieces p ys := by
  rw [pieces, List.splitOnP_append_cons xs ys h, List.filter_append]
  rfl

theorem pieces_of_word (hWord : xs ≠ []) (h : ∀ x ∈ xs, p x = false) : pieces p xs = [xs] := by
  rw [pieces, List.splitOnP_eq_singleton h]
  refine List.filter_cons_of_pos ?_
  rwa [Bool.not_eq_true', ← Bool.not_eq_true, List.isEmpty_iff]

theorem pieces_of_separators (h : ∀ x ∈ xs, p x = true) : pieces p xs = [] := by
  induction xs with
  | nil => rfl
  | cons x xs ih =>
    obtain ⟨hx, hRest⟩ := List.forall_mem_cons.mp h
    have hSplit := @pieces_append_cons α p [] xs x hx
    rwa [List.nil_append, pieces_nil, List.nil_append, ih hRest] at hSplit

/-- A separator stands at the end of the first list or at the beginning of the second, or one of
them is empty. -/
def Apart (p : α → Bool) (xs ys : List α) : Prop := ∀ a ∈ xs.getLast?, ∀ b ∈ ys.head?, p a = true ∨
    p b = true

theorem pieces_append (h : Apart p xs ys) : pieces p (xs ++ ys) = pieces p xs ++ pieces p ys := by
  obtain rfl | ⟨before, a, rfl⟩ := xs.eq_nil_or_concat
  · rw [List.nil_append, pieces_nil, List.nil_append]
  · cases ys with
    | nil => rw [List.append_nil, pieces_nil, List.append_nil]
    | cons b after =>
      rw [List.concat_eq_append] at h ⊢
      obtain ha | hb := h a List.getLast?_concat b rfl
      · rw [List.append_assoc, List.singleton_append, pieces_append_cons ha, pieces_append_cons ha,
          pieces_nil, List.append_nil]
      · have hAfter := @pieces_append_cons α p [] after b hb
        rw [List.nil_append, pieces_nil, List.nil_append] at hAfter
        rw [pieces_append_cons hb, hAfter]

theorem pieces_intercalate {separator : α} {words : List (List α)} (hSeparator : p separator = true)
    (h : ∀ word ∈ words, word ≠ [] ∧ ∀ x ∈ word, p x = false) :
    pieces p ([separator].intercalate words) = words := by
  induction words with
  | nil => rfl
  | cons word words ih =>
    obtain ⟨⟨hSome, hWord⟩, hRest⟩ := List.forall_mem_cons.mp h
    cases words with
    | nil => rw [List.intercalate_singleton, pieces_of_word hSome hWord]
    | cons next words =>
      rw [List.intercalate_cons_cons, List.append_assoc, List.singleton_append,
        pieces_append_cons hSeparator, pieces_of_word hSome hWord, ih hRest, List.singleton_append]

section Joined

variable {separator x : α} {word : List α} {words : List (List α)} {R : α → α → Prop}

theorem mem_intercalate_singleton (h : x ∈ [separator].intercalate words) :
    x = separator ∨ ∃ word ∈ words, x ∈ word := by
  induction words with
  | nil => exact absurd h List.not_mem_nil
  | cons word words ih =>
    cases words with
    | nil =>
      rw [List.intercalate_singleton] at h
      exact .inr ⟨word, List.mem_cons_self, h⟩
    | cons next words =>
      rw [List.intercalate_cons_cons, List.append_assoc, List.mem_append, List.mem_append,
        List.mem_singleton] at h
      obtain hWord | hSeparator | hRest := h
      · exact .inr ⟨word, List.mem_cons_self, hWord⟩
      · exact .inl hSeparator
      · obtain hSeparator | ⟨other, hOther, hx⟩ := ih hRest
        · exact .inl hSeparator
        · exact .inr ⟨other, List.mem_cons_of_mem word hOther, hx⟩

theorem head_intercalate (hWord : word ≠ []) :
    ([separator].intercalate (word :: words)).head? = word.head? := by
  cases words with
  | nil => rw [List.intercalate_singleton]
  | cons next words =>
    rw [List.intercalate_cons_cons, List.append_assoc, List.head?_append_of_ne_nil _ hWord]

theorem getLast_intercalate_mem (h : ∀ word ∈ words, word ≠ [])
    (hx : ([separator].intercalate words).getLast? = some x) : ∃ word ∈ words, x ∈ word := by
  induction words with
  | nil => cases hx
  | cons word words ih =>
    obtain ⟨hWord, hRest⟩ := List.forall_mem_cons.mp h
    cases words with
    | nil =>
      rw [List.intercalate_singleton] at hx
      exact ⟨word, List.mem_cons_self, List.mem_of_getLast? hx⟩
    | cons next words =>
      have hTail : [separator].intercalate (next :: words) ≠ [] := by
        intro hNil
        have hHead := @head_intercalate _ separator _ words (hRest next List.mem_cons_self)
        rw [hNil] at hHead
        exact hRest next List.mem_cons_self (List.head?_eq_none_iff.mp hHead.symm)
      rw [List.intercalate_cons_cons, List.getLast?_append_of_ne_nil _ hTail] at hx
      obtain ⟨other, hOther, hMem⟩ := ih hRest hx
      exact ⟨other, List.mem_cons_of_mem word hOther, hMem⟩

/-- A relation between neighbours holds in the joined words when it holds in each of them and beside
the separators. -/
theorem isChain_of_isInfix (h : xs.IsChain R) (hInfix : ys <:+: xs) : ys.IsChain R := by
  obtain ⟨before, after, rfl⟩ := hInfix
  exact h.left_of_append.right_of_append

theorem isChain_intercalate (h : ∀ word ∈ words, word ≠ [] ∧ word.IsChain R ∧ ∀ a ∈ word,
    R a separator ∧ R separator a) : ([separator].intercalate words).IsChain R := by
  induction words with
  | nil => exact .nil
  | cons word words ih =>
    obtain ⟨⟨-, hChain, hBeside⟩, hRest⟩ := List.forall_mem_cons.mp h
    cases words with
    | nil =>
      rw [List.intercalate_singleton]
      exact hChain
    | cons next words =>
      obtain ⟨hNext, -, hNextBeside⟩ := hRest next List.mem_cons_self
      rw [List.intercalate_cons_cons, List.append_assoc, List.singleton_append]
      refine List.isChain_append.mpr ⟨hChain, List.isChain_cons.mpr ⟨fun b hb => ?_, ih hRest⟩,
        fun a ha b hb => ?_⟩
      · rw [head_intercalate hNext] at hb
        exact (hNextBeside b (List.mem_of_head? hb)).2
      · obtain rfl := Option.some.inj hb
        exact (hBeside a (List.mem_of_getLast? ha)).1

end Joined

end ProcureFoundation
