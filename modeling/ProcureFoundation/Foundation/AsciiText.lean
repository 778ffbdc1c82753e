import Mathlib.Tactic.Common

/-!
# ASCII text

Whatever holds of each of the 128 characters holds of every character of an ASCII text.
-/

namespace ProcureFoundation.Text

def IsAscii (chars : List Char) : Prop := ∀ c ∈ chars, c.toNat < 128

variable {chars rest : List Char} {c : Char}

theorem of_ascii {P : Char → Prop} (h : ∀ n < 128, P (Char.ofNat n)) (hc : c.toNat < 128) :
    P c := by
  have hChar := h c.toNat hc
  rwa [Char.ofNat_toNat] at hChar

theorem toLower_toLower (c : Char) : c.toLower.toLower = c.toLower := by
  delta Char.toLower
  grind

theorem isAscii_append : IsAscii (chars ++ rest) ↔ IsAscii chars ∧ IsAscii rest :=
  List.forall_mem_append

theorem IsAscii.append (hChars : IsAscii chars) (hRest : IsAscii rest) : IsAscii (chars ++ rest) :=
  isAscii_append.mpr ⟨hChars, hRest⟩

end ProcureFoundation.Text
