import Mathlib.Data.List.DropRight
import Mathlib.Data.List.TakeDrop

/-!
# Text

The character classes and the few string operations the readers of uploaded cells rely
on: white space, stripping, removal of a character and decimal digits of any script.
-/

namespace ProcureFoundation.Text

def spaceCodes : List ℕ :=
  [0x9, 0xa, 0xb, 0xc, 0xd, 0x1c, 0x1d, 0x1e, 0x1f, 0x20, 0x85, 0xa0, 0x1680, 0x2000, 0x2001,
    0x2002, 0x2003,
    0x2004, 0x2005, 0x2006, 0x2007, 0x2008, 0x2009, 0x200a, 0x2028, 0x2029, 0x202f, 0x205f, 0x3000]

def isSpace (c : Char) : Bool := spaceCodes.contains c.toNat

def zeroCodes : List ℕ :=
  [0x30, 0x660, 0x6f0, 0x7c0, 0x966, 0x9e6, 0xa66, 0xae6, 0xb66, 0xbe6, 0xc66, 0xce6, 0xd66, 0xde6,
    0xe50, 0xed0,
    0xf20, 0x1040, 0x1090, 0x17e0, 0x1810, 0x1946, 0x19d0, 0x1a80, 0x1a90, 0x1b50, 0x1bb0, 0x1c40,
    0x1c50, 0xa620,
    0xa8d0, 0xa900, 0xa9d0, 0xa9f0, 0xaa50, 0xabf0, 0xff10, 0x104a0, 0x10d30, 0x11066, 0x110f0,
    0x11136, 0x111d0,
    0x112f0, 0x11450, 0x114d0, 0x11650, 0x116c0, 0x11730, 0x118e0, 0x11950, 0x11c50, 0x11d50,
    0x11da0, 0x11f50,
    0x16a60, 0x16ac0, 0x16b50, 0x1d7ce, 0x1d7d8, 0x1d7e2, 0x1d7ec, 0x1d7f6, 0x1e140, 0x1e2f0,
    0x1e4f0, 0x1e950, 0x1fbf0]

def decimalDigit (c : Char) : Option ℕ :=
  (zeroCodes.find? fun code => code ≤ c.toNat ∧ c.toNat < code + 10).map (c.toNat - ·)

def isDigit (c : Char) : Bool := (decimalDigit c).isSome

def digitsValue (digits : List Char) : ℕ :=
  digits.foldl (fun value c => 10 * value + (decimalDigit c).getD 0) 0

def stripChars (chars : List Char) : List Char := (chars.dropWhile isSpace).rdropWhile isSpace

def strip (text : String) : String := String.ofList (stripChars text.toList)

def remove (c : Char) (text : String) : String := String.ofList (text.toList.filter (· ≠ c))

@[simp] theorem toList_strip (text : String) : (strip text).toList = stripChars text.toList :=
  String.toList_ofList

theorem head_dropWhile_space {chars rest : List Char} {c : Char}
    (h : chars.dropWhile isSpace = c :: rest) : isSpace c = false := by
  have hHead := List.head_dropWhile_not isSpace (l := chars) (by simp [h])
  simpa [h] using hHead

theorem dropWhile_stripChars (chars : List Char) :
    (stripChars chars).dropWhile isSpace = stripChars chars := by
  unfold stripChars
  cases hDrop : chars.dropWhile isSpace with
  | nil => rfl
  | cons c rest =>
    have hSpace := head_dropWhile_space hDrop
    obtain ⟨suffix, hSuffix⟩ := List.rdropWhile_prefix isSpace (l := c :: rest)
    cases hStripped : (c :: rest).rdropWhile isSpace with
    | nil => rfl
    | cons d kept =>
      rw [hStripped, List.cons_append, List.cons.injEq] at hSuffix
      rw [List.dropWhile_cons, hSuffix.1, hSpace]
      rfl

@[simp] theorem stripChars_stripChars (chars : List Char) :
    stripChars (stripChars chars) = stripChars chars := by
  rw [stripChars, dropWhile_stripChars]
  exact List.rdropWhile_idempotent isSpace (chars.dropWhile isSpace)

theorem mem_dropWhile_space {c : Char} {chars : List Char} (h : c ∈ chars)
    (hSpace : isSpace c = false) : c ∈ chars.dropWhile isSpace := by
  induction chars with
  | nil => exact h
  | cons d rest ih =>
    rw [List.dropWhile_cons]
    split
    · rename_i hDropped
      obtain rfl | hRest := List.mem_cons.mp h
      · rw [hSpace] at hDropped
        exact nomatch hDropped
      · exact ih hRest
    · exact h

theorem mem_stripChars {c : Char} {chars : List Char} (h : c ∈ chars) (hSpace : isSpace c = false) :
    c ∈ stripChars chars := by
  rw [stripChars, List.rdropWhile, List.mem_reverse]
  exact mem_dropWhile_space (List.mem_reverse.mpr (mem_dropWhile_space h hSpace)) hSpace

theorem remove_eq_self {c : Char} {text : String} (h : c ∉ text.toList) : remove c text = text := by
  rw [remove, List.filter_eq_self.mpr, String.ofList_toList]
  intro d hd
  exact decide_eq_true fun hEq => h (hEq ▸ hd)

theorem exists_stripChars (chars : List Char) :
    ∃ before after, chars = before ++ (stripChars chars ++ after) ∧
    (∀ c ∈ before, isSpace c = true) ∧ ∀ c ∈ after, isSpace c = true := by
  refine ⟨chars.takeWhile isSpace, (chars.dropWhile isSpace).rtakeWhile isSpace, ?_,
    fun c => List.mem_takeWhile_imp, fun c => List.mem_rtakeWhile_imp⟩
  rw [stripChars, List.rdropWhile_append_rtakeWhile, List.takeWhile_append_dropWhile]

theorem head_stripChars {chars rest : List Char} {c : Char} (h : stripChars chars = c :: rest) :
    isSpace c = false :=
  head_dropWhile_space ((dropWhile_stripChars chars).trans h)

end ProcureFoundation.Text
