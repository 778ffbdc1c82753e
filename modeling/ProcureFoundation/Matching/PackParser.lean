import ProcureFoundation.Foundation.PythonText
import ProcureFoundation.Foundation.RoundingBounds

/-!
# Pack sizes

A pack text is a multiple of a sized unit, a case, a count or a single sized unit, tried
in that order. Letters match in either case, with the four letters beyond the alphabet
that fold onto it.
-/

namespace ProcureFoundation.Matching

open Text

inductive BaseUnit where
  | kg
  | litre
  | each
deriving DecidableEq

def unitConversions : String → Option (BaseUnit × ℚ)
  | "g" | "gram" | "grams" => some (.kg, 1 / 1000)
  | "kg" | "kilogram" | "kilograms" => some (.kg, 1)
  | "ml" | "millilitre" | "millilitres" => some (.litre, 1 / 1000)
  | "l" | "litre" | "litres" | "liter" | "liters" => some (.litre, 1)
  | "each" | "unit" | "units" | "ea" => some (.each, 1)
  | _ => none

structure ParsedPack where
  packQuantity : ℚ
  unitSize : ℚ
  unit : String
  baseQuantity : ℚ
  baseUnit : BaseUnit
deriving DecidableEq

def build (packQuantity unitSize : ℚ) (unit : String) : Option ParsedPack :=
  (unitConversions unit).map fun (baseUnit, factor) =>
    { packQuantity, unitSize, unit, baseUnit
      baseQuantity := contextRound (contextRound (packQuantity * unitSize) * factor) }

def takeNumber (chars : List Char) : Option (ℚ × List Char) :=
  let whole := chars.takeWhile isDigit
  let rest := chars.dropWhile isDigit
  if whole = [] then none
  else
    match rest with
    | '.' :: tail =>
      let fraction := tail.takeWhile isDigit
      if fraction = [] then some (digitsValue whole, rest)
      else some (digitsValue (whole ++ fraction) / 10 ^ fraction.length, tail.dropWhile isDigit)
    | _ => some (digitsValue whole, rest)

def skipSpaces (chars : List Char) : List Char := chars.dropWhile isSpace

/-- The letter of the alphabet a character folds onto when case is ignored. -/
def foldCase (c : Char) : Char :=
  if c.toNat = 0x130 ∨ c.toNat = 0x131 then 'i'
  else if c.toNat = 0x17f then 's'
  else if c.toNat = 0x212a then 'k'
  else c.toLower

def isLetter (c : Char) : Bool := (foldCase c).isLower

/-- Lower case of a unit's text; of the letters beyond the alphabet only the Kelvin sign has one in
it. -/
def lowerUnit (chars : List Char) : String :=
  String.ofList (chars.map fun c => if c.toNat = 0x212a then 'k' else c.toLower)

def dropWord (word : String) (chars : List Char) : Option (List Char) :=
  if word.toList <+: chars.map foldCase then some (chars.drop word.toList.length) else none

def matchMultiPack (chars : List Char) : Option (ℚ × ℚ × String) := do
  let (quantity, rest) ← takeNumber chars
  let rest ← dropWord "x" (skipSpaces rest)
  let (size, rest) ← takeNumber (skipSpaces rest)
  let unit := skipSpaces rest
  if unit ≠ [] ∧ unit.all isLetter then some (quantity, size, lowerUnit unit) else none

def matchCase (chars : List Char) : Option ℚ := do
  let rest ← dropWord "case" chars
  let rest := skipSpaces rest
  let (quantity, rest) ← takeNumber (((dropWord "of" rest).map skipSpaces).getD rest)
  if rest = [] then some quantity else none

def matchCount (chars : List Char) : Option ℚ := do
  let (quantity, rest) ← takeNumber chars
  if String.ofList ((skipSpaces rest).map foldCase) ∈ ["unit", "units", "each", "ea"] then
    some quantity else none

def matchSingle (chars : List Char) : Option (ℚ × String) := do
  let (size, rest) ← takeNumber chars
  let unit := skipSpaces rest
  if unit ≠ [] ∧ unit.all isLetter then some (size, lowerUnit unit) else none

/-- `none` is the error for an unrecognized format. -/
def parsePackString (raw : String) : Option ParsedPack :=
  let chars := stripChars raw.toList
  match matchMultiPack chars with
  | some (quantity, size, unit) => build quantity size unit
  | none =>
    match matchCase chars with
    | some quantity => build quantity 1 "each"
    | none =>
      match matchCount chars with
      | some quantity => build quantity 1 "each"
      | none => (matchSingle chars).bind fun (size, unit) => build 1 size unit

section Nonneg

variable {chars rest : List Char} {quantity size : ℚ} {unit : String} {pack : ParsedPack}

theorem takeNumber_nonneg (h : takeNumber chars = some (quantity, rest)) : 0 ≤ quantity := by
  unfold takeNumber at h
  dsimp only at h
  split at h
  · exact nomatch h
  · split at h
    · split at h
      · obtain ⟨rfl, -⟩ := Prod.mk.inj (Option.some.inj h)
        exact Nat.cast_nonneg _
      · obtain ⟨rfl, -⟩ := Prod.mk.inj (Option.some.inj h)
        positivity
    · obtain ⟨rfl, -⟩ := Prod.mk.inj (Option.some.inj h)
      exact Nat.cast_nonneg _

theorem matchMultiPack_nonneg (h : matchMultiPack chars = some (quantity, size, unit)) :
    0 ≤ quantity ∧ 0 ≤ size := by
  obtain ⟨⟨first, rest⟩, hFirst, h⟩ := Option.bind_eq_some_iff.mp h
  obtain ⟨rest, -, h⟩ := Option.bind_eq_some_iff.mp h
  obtain ⟨⟨second, rest⟩, hSecond, h⟩ := Option.bind_eq_some_iff.mp h
  dsimp only at h
  split at h
  · obtain ⟨rfl, hRest⟩ := Prod.mk.inj (Option.some.inj h)
    obtain ⟨rfl, -⟩ := Prod.mk.inj hRest
    exact ⟨takeNumber_nonneg hFirst, takeNumber_nonneg hSecond⟩
  · exact nomatch h

theorem matchCase_nonneg (h : matchCase chars = some quantity) : 0 ≤ quantity := by
  obtain ⟨rest, -, h⟩ := Option.bind_eq_some_iff.mp h
  obtain ⟨⟨first, rest⟩, hFirst, h⟩ := Option.bind_eq_some_iff.mp h
  dsimp only at h
  split at h
  · exact Option.some.inj h ▸ takeNumber_nonneg hFirst
  · exact nomatch h

theorem matchCount_nonneg (h : matchCount chars = some quantity) : 0 ≤ quantity := by
  obtain ⟨⟨first, rest⟩, hFirst, h⟩ := Option.bind_eq_some_iff.mp h
  dsimp only at h
  split at h
  · exact Option.some.inj h ▸ takeNumber_nonneg hFirst
  · exact nomatch h

theorem matchSingle_nonneg (h : matchSingle chars = some (size, unit)) : 0 ≤ size := by
  obtain ⟨⟨first, rest⟩, hFirst, h⟩ := Option.bind_eq_some_iff.mp h
  dsimp only at h
  split at h
  · obtain ⟨rfl, -⟩ := Prod.mk.inj (Option.some.inj h)
    exact takeNumber_nonneg hFirst
  · exact nomatch h

theorem unitConversions_nonneg {baseUnit : BaseUnit} {factor : ℚ}
    (h : unitConversions unit = some (baseUnit, factor)) : 0 ≤ factor := by
  unfold unitConversions at h
  split at h
  case h_19 => exact nomatch h
  all_goals
    obtain ⟨-, rfl⟩ := Prod.mk.inj (Option.some.inj h)
    norm_num

theorem build_nonneg (hQuantity : 0 ≤ quantity) (hSize : 0 ≤ size)
    (h : build quantity size unit = some pack) : 0 ≤ pack.baseQuantity := by
  obtain ⟨⟨baseUnit, factor⟩, hUnit, rfl⟩ := Option.map_eq_some_iff.mp h
  exact contextRound_nonneg
    (mul_nonneg (contextRound_nonneg (mul_nonneg hQuantity hSize)) (unitConversions_nonneg hUnit))

theorem baseQuantity_nonneg {raw : String} (h : parsePackString raw = some pack) :
    0 ≤ pack.baseQuantity := by
  unfold parsePackString at h
  dsimp only at h
  split at h
  · rename_i hMulti
    obtain ⟨hQuantity, hSize⟩ := matchMultiPack_nonneg hMulti
    exact build_nonneg hQuantity hSize h
  · split at h
    · rename_i hCase
      exact build_nonneg (matchCase_nonneg hCase) zero_le_one h
    · split at h
      · rename_i hCount
        exact build_nonneg (matchCount_nonneg hCount) zero_le_one h
      · obtain ⟨⟨size, unit⟩, hSingle, h⟩ := Option.bind_eq_some_iff.mp h
        exact build_nonneg zero_le_one (matchSingle_nonneg hSingle) h

end Nonneg

example : (parsePackString "24 x 330ml").map (·.baseQuantity) = some (198 / 25) := by decide +kernel

example : (parsePackString "Case of 12").map (·.baseUnit) = some .each := by decide +kernel

end ProcureFoundation.Matching
