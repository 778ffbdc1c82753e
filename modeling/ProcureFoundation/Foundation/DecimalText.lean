import Mathlib.Data.Nat.Log
import ProcureFoundation.Foundation.FixedPoint
import ProcureFoundation.Foundation.PythonText

/-!
# Decimal numbers as text

The decimal type with its special values, and its constructor from text: surrounding white
space is dropped, underscores are skipped, and what is left must be an optional sign
followed by a number, an infinity or a NaN, in any case and with the digits of any script.
-/

namespace ProcureFoundation

open Text

inductive Decimal where
  | finite (negative : Bool) (coefficient : ℕ) (exponent : ℤ)
  | infinity (negative : Bool)
  | nan (signaling negative : Bool) (payload : ℕ)
deriving DecidableEq

namespace Decimal

def toRat : Decimal → Option ℚ
  | finite negative coefficient exponent =>
    some ((if negative then -1 else 1) * coefficient * (10 : ℚ) ^ exponent)
  | infinity _ | nan _ _ _ => none

def isNan : Decimal → Bool
  | nan _ _ _ => true
  | finite _ _ _ | infinity _ => false

/-- The ordering with zero; comparing a NaN raises. -/
def isNegative : Decimal → Except String Bool
  | finite negative coefficient _ => .ok (negative && coefficient != 0)
  | infinity negative => .ok negative
  | nan _ _ _ => .error "InvalidOperation"

def isZero : Decimal → Bool
  | finite _ coefficient _ => coefficient == 0
  | infinity _ | nan _ _ _ => false

def takeSign : List Char → Bool × List Char
  | '-' :: rest => (true, rest)
  | '+' :: rest => (false, rest)
  | chars => (false, chars)

def exponentOfChars : List Char → Option ℤ
  | [] => some 0
  | mark :: rest =>
    let digits := (takeSign rest).2
    if (mark = 'e' ∨ mark = 'E') ∧ digits ≠ [] ∧ digits.all isDigit then
      some (if (takeSign rest).1 then -digitsValue digits else digitsValue digits)
    else none

def splitFraction : List Char → List Char × List Char
  | '.' :: rest => (rest.takeWhile isDigit, rest.dropWhile isDigit)
  | rest => ([], rest)

/-- Whether the widest context represents the number without rounding or clamping it. -/
def Representable (coefficient : ℕ) (exponent : ℤ) : Prop :=
  -1999999999999999997 ≤ exponent ∧ exponent + Nat.log 10 coefficient ≤ 999999999999999999

instance (coefficient : ℕ) (exponent : ℤ) : Decidable (Representable coefficient exponent) :=
  inferInstanceAs (Decidable (_ ∧ _))

def numberOfChars (negative : Bool) (chars : List Char) : Option Decimal :=
  let whole := chars.takeWhile isDigit
  let fraction := (splitFraction (chars.dropWhile isDigit)).1
  let coefficient := digitsValue (whole ++ fraction)
  if whole ++ fraction = [] then none
  else
    (exponentOfChars (splitFraction (chars.dropWhile isDigit)).2).bind fun written =>
      let exponent := written - fraction.length
      if Representable coefficient exponent then some (finite negative coefficient exponent)
        else none

def nanOfChars (signaling negative : Bool) (digits : List Char) : Option Decimal :=
  if digits.all isDigit then some (nan signaling negative (digitsValue digits)) else none

def unsignedOfChars (negative : Bool) (chars : List Char) : Option Decimal :=
  let lower := chars.map Char.toLower
  if lower = "inf".toList ∨ lower = "infinity".toList then some (infinity negative)
  else if "nan".toList <+: lower then nanOfChars false negative (chars.drop 3)
  else if "snan".toList <+: lower then nanOfChars true negative (chars.drop 4)
  else numberOfChars negative chars

def ofChars (chars : List Char) : Option Decimal :=
  let written := (stripChars chars).filter (· ≠ '_')
  unsignedOfChars (takeSign written).1 (takeSign written).2

/-- The constructor from text; `none` is the error it raises. -/
def ofString (text : String) : Option Decimal := ofChars text.toList

@[simp] theorem ofString_strip (text : String) : ofString (strip text) = ofString text := by
  rw [ofString, toList_strip, ofChars, stripChars_stripChars]
  rfl

def InGrammar (c : Char) : Prop := isDigit c = true ∨ c.toLower ∈ "+-.einfatys".toList

theorem takeSign_inGrammar {chars : List Char} (h : ∀ c ∈ (takeSign chars).2, InGrammar c) :
    ∀ c ∈ chars, InGrammar c := by
  unfold takeSign at h
  split at h
  · exact List.forall_mem_cons.mpr ⟨.inr (by decide), h⟩
  · exact List.forall_mem_cons.mpr ⟨.inr (by decide), h⟩
  · exact h

theorem all_isDigit_inGrammar {chars : List Char} (h : chars.all isDigit = true) :
    ∀ c ∈ chars, InGrammar c :=
  fun c hc => .inl (List.all_eq_true.mp h c hc)

theorem exponentOfChars_inGrammar {chars : List Char} {exponent : ℤ}
    (h : exponentOfChars chars = some exponent) : ∀ c ∈ chars, InGrammar c := by
  cases chars with
  | nil => exact fun c hc => nomatch hc
  | cons mark rest =>
    simp only [exponentOfChars, Option.ite_none_right_eq_some] at h
    obtain ⟨⟨hMark, -, hDigits⟩, -⟩ := h
    refine List.forall_mem_cons.mpr ⟨.inr ?_, takeSign_inGrammar (all_isDigit_inGrammar hDigits)⟩
    obtain rfl | rfl := hMark
    · decide
    · decide

theorem takeWhile_isDigit_inGrammar (chars : List Char) : ∀ c ∈ chars.takeWhile isDigit,
    InGrammar c :=
  fun _ hc => .inl (List.mem_takeWhile_imp hc)

theorem splitFraction_inGrammar {chars : List Char}
    (h : ∀ c ∈ (splitFraction chars).2, InGrammar c) : ∀ c ∈ chars, InGrammar c := by
  unfold splitFraction at h
  split at h
  · rename_i rest
    refine List.forall_mem_cons.mpr ⟨.inr (by decide), fun c hc => ?_⟩
    rw [← List.takeWhile_append_dropWhile (p := isDigit) (l := rest)] at hc
    exact (List.mem_append.mp hc).elim (takeWhile_isDigit_inGrammar rest c) (h c)
  · exact h

theorem numberOfChars_inGrammar {negative : Bool} {chars : List Char} {number : Decimal}
    (h : numberOfChars negative chars = some number) : ∀ c ∈ chars, InGrammar c := by
  simp only [numberOfChars, Option.ite_none_left_eq_some, Option.bind_eq_some_iff] at h
  obtain ⟨-, exponent, hExponent, -⟩ := h
  intro c hc
  rw [← List.takeWhile_append_dropWhile (p := isDigit) (l := chars)] at hc
  exact (List.mem_append.mp hc).elim (takeWhile_isDigit_inGrammar chars c)
    (splitFraction_inGrammar (exponentOfChars_inGrammar hExponent) c)

theorem inGrammar_of_toLower_mem {c : Char} {chars : List Char} {word : String}
    (h : c.toLower ∈ chars.map Char.toLower) (hWord : chars.map Char.toLower = word.toList)
    (hLetters : word.toList ⊆ "+-.einfatys".toList) : InGrammar c :=
  .inr (hLetters (hWord ▸ h))

theorem nanOfChars_inGrammar {signaling negative : Bool} {chars : List Char} {word : String}
    {number : Decimal} (hWord : word.toList <+: chars.map Char.toLower)
    (hLetters : word.toList ⊆ "+-.einfatys".toList)
    (h : nanOfChars signaling negative (chars.drop word.toList.length) = some number) :
    ∀ c ∈ chars, InGrammar c := by
  simp only [nanOfChars, Option.ite_none_right_eq_some] at h
  have hTaken : (chars.take word.toList.length).map Char.toLower = word.toList := by
    rw [List.map_take]
    exact (List.prefix_iff_eq_take.mp hWord).symm
  intro c hc
  rw [← List.take_append_drop word.toList.length chars] at hc
  obtain hTake | hDrop := List.mem_append.mp hc
  · exact inGrammar_of_toLower_mem (List.mem_map_of_mem hTake) hTaken hLetters
  · exact all_isDigit_inGrammar h.1 c hDrop

theorem unsignedOfChars_inGrammar {negative : Bool} {chars : List Char} {number : Decimal}
    (h : unsignedOfChars negative chars = some number) : ∀ c ∈ chars, InGrammar c := by
  simp only [unsignedOfChars] at h
  split at h
  · rename_i hWord
    intro c hc
    obtain hInf | hInfinity := hWord
    · exact inGrammar_of_toLower_mem (List.mem_map_of_mem hc) hInf (by decide)
    · exact inGrammar_of_toLower_mem (List.mem_map_of_mem hc) hInfinity (by decide)
  split at h
  · rename_i hNan
    exact nanOfChars_inGrammar hNan (by decide) h
  split at h
  · rename_i hSnan
    exact nanOfChars_inGrammar hSnan (by decide) h
  · exact numberOfChars_inGrammar h

theorem ofString_eq_none {text : String} {c : Char} (hMem : c ∈ text.toList)
    (hSpace : isSpace c = false) (hUnderscore : c ≠ '_') (hGrammar : ¬ InGrammar c) :
    ofString text = none := by
  cases hNumber : ofString text with
  | none => rfl
  | some number =>
    refine absurd (takeSign_inGrammar (unsignedOfChars_inGrammar hNumber) c ?_) hGrammar
    exact List.mem_filter.mpr ⟨mem_stripChars hMem hSpace, decide_eq_true hUnderscore⟩

end Decimal

end ProcureFoundation
