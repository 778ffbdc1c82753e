import ProcureFoundation.Foundation.FixedPoint

/-!
# Stored columns

What the columns of a table hold: a number within the digits of its column, and a text within
the length of its column, which loses the blanks in excess of it and has no null character.
-/

namespace ProcureFoundation

variable {scale length : ℕ}

def fitsNumeric (precision : ℕ) (value : Option (FixedPoint scale)) : Bool :=
  value.all fun x => decide (|x.units| < 10 ^ precision)

/-- Whether a text fits a column of the given length; blanks in excess of it are cut off. -/
def fitsVarchar (length : ℕ) (text : Option String) : Bool :=
  text.all fun s => (s.toList.drop length).all (· == ' ')

/-- The database takes no text with a null character. -/
def nullFree (text : String) : Bool := text.toList.all fun c => c.toNat != 0

def textFits (length : ℕ) (text : Option String) : Bool :=
  fitsVarchar length text && text.all nullFree

/-- A text in a column of the given length, without the blanks in excess of it. -/
def cutVarchar (length : ℕ) (text : String) : String := String.ofList (text.toList.take length)

def writeVarchar (length : ℕ) (text : String) : Except String String :=
  if textFits length (some text) then .ok (cutVarchar length text)
  else .error "value too long for the type of its column"

theorem writeVarchar_eq_ok {text written : String} : writeVarchar length text = .ok written ↔
    textFits length (some text) = true ∧ written = cutVarchar length text := by
  unfold writeVarchar
  split
  · rename_i hFits
    rw [Except.ok.injEq, and_iff_right hFits, eq_comm]
  · rename_i hFits
    exact iff_of_false (fun h => nomatch h) fun h => hFits h.1

theorem cutVarchar_eq {text shorter : String} (h : shorter.length < length) :
    cutVarchar length text = shorter ↔ text = shorter := by
  constructor
  · intro hCut
    have hTake : text.toList.take length = shorter.toList := by
      rw [← hCut, cutVarchar, String.toList_ofList]
    have hLength := congrArg List.length hTake
    rw [List.length_take, String.length_toList, String.length_toList] at hLength
    rw [List.take_of_length_le (by rw [String.length_toList]; omega)] at hTake
    exact String.toList_inj.mp hTake
  · rintro rfl
    rw [cutVarchar, List.take_of_length_le (by rw [String.length_toList]; omega),
      String.ofList_toList]

end ProcureFoundation
