import Mathlib.Algebra.GroupWithZero.Nat
import ProcureFoundation.Foundation.CalendarDate
import ProcureFoundation.Foundation.PythonText

/-!
# Dates as text

The reader of ISO dates: a year, then a month and a day or a week and a day of it, with
separators everywhere or nowhere. Only the length of the whole text is checked, in bytes, so
what follows a date without separators in a text of ten bytes is not looked at.
-/

namespace ProcureFoundation

open Text

def utf8Length (chars : List Char) : ℕ := (chars.map Char.utf8Size).sum

namespace Date

def daysBeforeYear (year : ℕ) : ℕ :=
  (year - 1) * 365 + (year - 1) / 4 - (year - 1) / 100 + (year - 1) / 400

def daysBeforeMonth (year month : ℕ) : ℕ :=
  ((List.range (month - 1)).map fun m => daysInMonth year (m + 1)).sum

def ymdToOrd (year month day : ℕ) : ℕ := daysBeforeYear year + daysBeforeMonth year month + day

def weekday (ordinal : ℕ) : ℕ := (ordinal + 6) % 7

def monthDay (year : ℕ) : ℕ → ℕ → ℕ → ℕ × ℕ
  | 0, month, n => (month, n + 1)
  | fuel + 1, month, n =>
    if n < daysInMonth year month then (month, n + 1)
      else monthDay year fuel (month + 1) (n - daysInMonth year month)

def ordToYmd (ordinal : ℕ) : ℕ × ℕ × ℕ :=
  let n := ordinal - 1
  let n400 := n / 146097
  let n100 := n % 146097 / 36524
  let n4 := n % 146097 % 36524 / 1461
  let n1 := n % 146097 % 36524 % 1461 / 365
  let year := n400 * 400 + 1 + n100 * 100 + n4 * 4 + n1
  if n1 = 4 ∨ n100 = 4 then (year - 1, 12, 31)
  else (year, monthDay year 12 1 (n % 146097 % 36524 % 1461 % 365))

/-- The Monday on which the first week of a year starts: that of the week with its first Thursday.
-/
def isoWeek1Monday (year : ℕ) : ℕ :=
  let firstDay := ymdToOrd year 1 1
  let monday := firstDay - weekday firstDay
  if 3 < weekday firstDay then monday + 7 else monday

def hasWeek (year week : ℕ) : Bool :=
  (1 ≤ week && week ≤ 52) || (week == 53 &&
    (weekday (ymdToOrd year 1 1) == 3 || (weekday (ymdToOrd year 1 1) == 2 && isLeap year)))

def isoToYmd (year week day : ℕ) : Option Date :=
  if (1 ≤ year ∧ year ≤ 9999) ∧ hasWeek year week ∧ 1 ≤ day ∧ day ≤ 7 then
    let ymd := ordToYmd (isoWeek1Monday year + (week - 1) * 7 + day - 1)
    make ymd.1 ymd.2.1 ymd.2.2
  else none

/-- A number of exactly so many digits of ASCII, and what follows it. -/
def parseDigits : ℕ → ℕ → List Char → Option (ℕ × List Char)
  | value, 0, rest => some (value, rest)
  | _, _ + 1, [] => none
  | value, count + 1, c :: rest =>
    if c.isDigit then parseDigits (10 * value + (c.toNat - '0'.toNat)) count rest else none

def takeSeparator : List Char → Bool × List Char
  | '-' :: rest => (true, rest)
  | chars => (false, chars)

/-- A second separator is required after a first one. -/
def skipSeparator (usesSeparator : Bool) (chars : List Char) : Option (List Char) :=
  if usesSeparator then
    if (takeSeparator chars).1 then some (takeSeparator chars).2 else none
  else some chars

def parseMonthDate (year : ℕ) (usesSeparator : Bool) (chars : List Char) : Option Date :=
  (parseDigits 0 2 chars).bind fun month =>
    (skipSeparator usesSeparator month.2).bind fun rest =>
      (parseDigits 0 2 rest).bind fun day => make year month.1 day.1

/-- Without a day the week's Monday is meant. -/
def parseWeekDate (year : ℕ) (usesSeparator : Bool) (chars : List Char) : Option Date :=
  (parseDigits 0 2 chars).bind fun week =>
    if week.2 = [] then isoToYmd year week.1 1
    else
      (skipSeparator usesSeparator week.2).bind fun rest =>
        (parseDigits 0 1 rest).bind fun day => isoToYmd year week.1 day.1

def parseAfterYear (year : ℕ) (usesSeparator : Bool) : List Char → Option Date
  | 'W' :: rest => parseWeekDate year usesSeparator rest
  | rest => parseMonthDate year usesSeparator rest

def parseIsoFormatDate (chars : List Char) : Option Date :=
  (parseDigits 0 4 chars).bind fun year =>
    parseAfterYear year.1 (takeSeparator year.2).1 (takeSeparator year.2).2

/-- The constructor from ISO text; `none` is the error it raises. -/
def fromIsoFormat (chars : List Char) : Option Date :=
  if utf8Length chars = 7 ∨ utf8Length chars = 8 ∨ utf8Length chars = 10 then
    parseIsoFormatDate chars else none

example : fromIsoFormat "2020-W53-5".toList = make 2021 1 1 := by decide +kernel

def usesSeparator (chars : List Char) : Bool := (takeSeparator (chars.drop 4)).1

variable {chars rest trailing : List Char} {date : Date} {value count number year : ℕ}
  {separated : Bool}

theorem not_isDigit_of_isSpace {c : Char} (h : isSpace c = true) : c.isDigit = false := by
  have hCodes : ∀ code ∈ spaceCodes, ¬ (48 ≤ code ∧ code ≤ 57) := by decide
  have hMem : c.toNat ∈ spaceCodes := List.contains_iff_mem.mp h
  rw [Bool.eq_false_iff]
  intro hDigit
  rw [Char.isDigit, Bool.and_eq_true, decide_eq_true_iff, decide_eq_true_iff] at hDigit
  exact hCodes _ hMem ⟨hDigit.1, hDigit.2⟩

theorem utf8Size_of_isDigit {c : Char} (h : c.isDigit = true) : c.utf8Size = 1 := by
  rw [Char.isDigit, Bool.and_eq_true, decide_eq_true_iff, decide_eq_true_iff] at h
  rw [Char.utf8Size_eq_one_iff]
  exact UInt32.le_trans h.2 (by decide)

theorem utf8Length_cons (c : Char) : utf8Length (c :: chars) = c.utf8Size + utf8Length chars :=
  List.sum_cons

theorem utf8Length_append : utf8Length (chars ++ rest) = utf8Length chars + utf8Length rest := by
  rw [utf8Length, List.map_append, List.sum_append]
  rfl

theorem length_le_utf8Length (chars : List Char) : chars.length ≤ utf8Length chars := by
  induction chars with
  | nil => exact le_refl 0
  | cons c chars ih =>
    have hPos := c.utf8Size_pos
    rw [utf8Length_cons, List.length_cons]
    omega

/-- Digits that have been read take a byte each, and are read again whatever follows. -/
theorem parseDigits_some (h : parseDigits value count chars = some (number, rest)) :
    ∃ digits, chars = digits ++ rest ∧ digits.length = count ∧ utf8Length digits = count ∧
      ∀ other, parseDigits value count (digits ++ other) = some (number, other) := by
  induction count generalizing value chars with
  | zero =>
    obtain ⟨rfl, rfl⟩ := Prod.mk.inj (Option.some.inj h)
    exact ⟨[], rfl, rfl, rfl, fun other => rfl⟩
  | succ count ih =>
    cases chars with
    | nil => exact nomatch h
    | cons c chars =>
      rw [parseDigits, Option.ite_none_right_eq_some] at h
      obtain ⟨hDigit, h⟩ := h
      obtain ⟨digits, rfl, hLength, hBytes, hOther⟩ := ih h
      refine ⟨c :: digits, rfl, by rw [List.length_cons, hLength], ?_, fun other => ?_⟩
      · rw [utf8Length_cons, utf8Size_of_isDigit hDigit, hBytes, Nat.add_comm]
      · rw [List.cons_append, parseDigits, if_pos hDigit]
        exact hOther other

theorem parseDigits_space (hSpaces : ∀ c ∈ trailing, isSpace c = true) :
    parseDigits value (count + 1) trailing = none := by
  cases trailing with
  | nil => rfl
  | cons c trailing =>
    rw [parseDigits, not_isDigit_of_isSpace (hSpaces c List.mem_cons_self)]
    rfl

theorem takeSeparator_of_ne {c : Char} (h : c ≠ '-') :
    takeSeparator (c :: rest) = (false, c :: rest) := by
  unfold takeSeparator
  split
  · rename_i hEq
    exact absurd (List.cons.inj hEq).1 h
  · rfl

theorem takeSeparator_space (hSpaces : ∀ c ∈ trailing, isSpace c = true) :
    takeSeparator trailing = (false, trailing) := by
  cases trailing with
  | nil => rfl
  | cons c trailing =>
    apply takeSeparator_of_ne
    rintro rfl
    exact absurd (hSpaces '-' List.mem_cons_self) (by decide)

theorem takeSeparator_append (hSpaces : ∀ c ∈ trailing, isSpace c = true) :
    takeSeparator (chars ++ trailing) =
      ((takeSeparator chars).1, (takeSeparator chars).2 ++ trailing) := by
  cases chars with
  | nil => exact takeSeparator_space hSpaces
  | cons c chars =>
    by_cases hDash : c = '-'
    · rw [hDash]
      rfl
    · rw [List.cons_append, takeSeparator_of_ne hDash, takeSeparator_of_ne hDash]
      rfl

theorem utf8Length_takeSeparator (chars : List Char) :
    utf8Length chars = (takeSeparator chars).1.toNat + utf8Length (takeSeparator chars).2 := by
  unfold takeSeparator
  split
  · exact utf8Length_cons '-'
  · exact (Nat.zero_add _).symm

theorem skipSeparator_some (hSpaces : ∀ c ∈ trailing, isSpace c = true)
    (h : skipSeparator separated chars = some rest) :
    utf8Length chars = separated.toNat + utf8Length rest ∧
      skipSeparator separated (chars ++ trailing) = some (rest ++ trailing) := by
  cases separated with
  | false =>
    obtain rfl := Option.some.inj h
    exact ⟨(Nat.zero_add _).symm, rfl⟩
  | true =>
    rw [skipSeparator, if_pos rfl, Option.ite_none_right_eq_some] at h
    obtain ⟨hSeparator, h⟩ := h
    obtain rfl := Option.some.inj h
    refine ⟨?_, ?_⟩
    · rw [utf8Length_takeSeparator, hSeparator]
    · rw [skipSeparator, if_pos rfl, takeSeparator_append hSpaces, if_pos hSeparator]

theorem parseMonthDate_some (hSpaces : ∀ c ∈ trailing, isSpace c = true)
    (h : parseMonthDate year separated chars = some date) :
    4 + separated.toNat ≤ utf8Length chars ∧ parseMonthDate year separated (chars ++ trailing) =
      some date := by
  obtain ⟨⟨month, afterMonth⟩, hMonth, hAfterMonth⟩ := Option.bind_eq_some_iff.mp h
  obtain ⟨beforeDay, hSkip, hBeforeDay⟩ := Option.bind_eq_some_iff.mp hAfterMonth
  obtain ⟨⟨day, afterDay⟩, hDay, hMade⟩ := Option.bind_eq_some_iff.mp hBeforeDay
  obtain ⟨monthDigits, rfl, -, hMonthBytes, hMonthAgain⟩ := parseDigits_some hMonth
  obtain ⟨hSkipBytes, hSkipAgain⟩ := skipSeparator_some hSpaces hSkip
  obtain ⟨dayDigits, rfl, -, hDayBytes, hDayAgain⟩ := parseDigits_some hDay
  constructor
  · rw [utf8Length_append, hMonthBytes, hSkipBytes, utf8Length_append, hDayBytes]
    omega
  · rw [parseMonthDate, List.append_assoc, hMonthAgain, Option.bind_some, hSkipAgain,
      Option.bind_some, List.append_assoc, hDayAgain, Option.bind_some]
    exact hMade

theorem parseWeekDate_some (hSpaces : ∀ c ∈ trailing, isSpace c = true) (hTrailing : trailing ≠ [])
    (h : parseWeekDate year separated chars = some date) :
    (utf8Length chars = 2 ∧ parseWeekDate year separated (chars ++ trailing) = none) ∨
      (3 + separated.toNat ≤ utf8Length chars ∧ parseWeekDate year separated (chars ++ trailing) =
        some date) := by
  obtain ⟨⟨week, afterWeek⟩, hWeek, hAfterWeek⟩ := Option.bind_eq_some_iff.mp h
  obtain ⟨weekDigits, rfl, -, hWeekBytes, hWeekAgain⟩ := parseDigits_some hWeek
  split at hAfterWeek
  · rename_i hEnd
    obtain rfl : afterWeek = [] := hEnd
    refine .inl ⟨by rwa [List.append_nil], ?_⟩
    rw [List.append_nil, parseWeekDate, hWeekAgain, Option.bind_some, if_neg hTrailing]
    dsimp only
    cases separated with
    | false =>
      rw [skipSeparator, if_neg Bool.false_ne_true, Option.bind_some, parseDigits_space hSpaces]
      rfl
    | true =>
      rw [skipSeparator, takeSeparator_space hSpaces]
      rfl
  · rename_i hMore
    obtain ⟨beforeDay, hSkip, hBeforeDay⟩ := Option.bind_eq_some_iff.mp hAfterWeek
    obtain ⟨⟨day, afterDay⟩, hDay, hMade⟩ := Option.bind_eq_some_iff.mp hBeforeDay
    obtain ⟨hSkipBytes, hSkipAgain⟩ := skipSeparator_some hSpaces hSkip
    obtain ⟨dayDigits, rfl, -, hDayBytes, hDayAgain⟩ := parseDigits_some hDay
    refine .inr ⟨?_, ?_⟩
    · rw [utf8Length_append, hWeekBytes, hSkipBytes, utf8Length_append, hDayBytes]
      omega
    · have hStill : afterWeek ++ trailing ≠ [] :=
        fun hNil => hMore (List.append_eq_nil_iff.mp hNil).1
      rw [parseWeekDate, List.append_assoc, hWeekAgain, Option.bind_some, if_neg hStill, hSkipAgain,
        Option.bind_some, List.append_assoc, hDayAgain, Option.bind_some]
      exact hMade

theorem parseAfterYear_of_ne {c : Char} (h : c ≠ 'W') :
    parseAfterYear year separated (c :: rest) = parseMonthDate year separated (c :: rest) := by
  unfold parseAfterYear
  split
  · rename_i hEq
    exact absurd (List.cons.inj hEq).1 h
  · rfl

theorem parseAfterYear_some (hSpaces : ∀ c ∈ trailing, isSpace c = true) (hTrailing : trailing ≠ [])
    (h : parseAfterYear year separated chars = some date) :
    (utf8Length chars = 3 ∧ parseAfterYear year separated (chars ++ trailing) = none) ∨
      (4 + separated.toNat ≤ utf8Length chars ∧ parseAfterYear year separated (chars ++ trailing) =
        some date) := by
  cases chars with
  | nil => exact nomatch h
  | cons c chars =>
    by_cases hWeek : c = 'W'
    · subst hWeek
      have hBytes : utf8Length ('W' :: chars) = 1 + utf8Length chars := utf8Length_cons 'W'
      rw [hBytes]
      obtain ⟨hLength, hNone⟩ | ⟨hLength, hSome⟩ := parseWeekDate_some hSpaces hTrailing h
      · exact .inl ⟨by omega, hNone⟩
      · exact .inr ⟨by omega, hSome⟩
    · rw [parseAfterYear_of_ne hWeek] at h
      rw [List.cons_append, parseAfterYear_of_ne hWeek]
      exact .inr (parseMonthDate_some hSpaces h)

/-- White space after a date is not looked at, unless the date is a week without a day. -/
theorem parseIsoFormatDate_some (hSpaces : ∀ c ∈ trailing, isSpace c = true)
    (hTrailing : trailing ≠ []) (h : parseIsoFormatDate chars = some date) :
    (utf8Length chars = 7 + (usesSeparator chars).toNat ∧
      parseIsoFormatDate (chars ++ trailing) = none) ∨
      (8 + 2 * (usesSeparator chars).toNat ≤ utf8Length chars ∧
        parseIsoFormatDate (chars ++ trailing) = some date) := by
  obtain ⟨⟨year, rest⟩, hYear, hAfterYear⟩ := Option.bind_eq_some_iff.mp h
  change parseAfterYear year (takeSeparator rest).1 (takeSeparator rest).2 = some date at hAfterYear
  obtain ⟨yearDigits, rfl, hLength, hYearBytes, hYearAgain⟩ := parseDigits_some hYear
  have hSeparator : usesSeparator (yearDigits ++ rest) = (takeSeparator rest).1 := by
    rw [usesSeparator, ← hLength, List.drop_left]
  rw [hSeparator, utf8Length_append, hYearBytes, utf8Length_takeSeparator rest, parseIsoFormatDate,
    List.append_assoc, hYearAgain, Option.bind_some, takeSeparator_append hSpaces]
  obtain ⟨hBytes, hNone⟩ | ⟨hBytes, hSome⟩ := parseAfterYear_some hSpaces hTrailing hAfterYear
  · exact .inl ⟨by omega, hNone⟩
  · exact .inr ⟨by omega, hSome⟩

/-- A date is read with white space after it only when it has no separators, and two bytes follow.
-/
theorem fromIsoFormat_append (hSpaces : ∀ c ∈ trailing, isSpace c = true)
    (hTrailing : trailing ≠ []) (h : fromIsoFormat chars = some date) :
    fromIsoFormat (chars ++ trailing) = some date ↔
      utf8Length chars = 8 ∧ usesSeparator chars = false ∧ utf8Length (chars ++ trailing) = 10 := by
  rw [fromIsoFormat, Option.ite_none_right_eq_some] at h
  obtain ⟨hLength, h⟩ := h
  have hLonger : utf8Length chars < utf8Length (chars ++ trailing) := by
    have hPos := List.length_pos_iff.mpr hTrailing
    have hBytes := length_le_utf8Length trailing
    rw [utf8Length_append]
    omega
  rw [fromIsoFormat, Option.ite_none_right_eq_some]
  obtain ⟨hBytes, hNone⟩ | ⟨hBytes, hSome⟩ := parseIsoFormatDate_some hSpaces hTrailing h
  · rw [hNone]
    constructor
    · intro hRead
      exact nomatch hRead.2
    · rintro ⟨hEight, hCompact, -⟩
      rw [hCompact, hEight] at hBytes
      exact nomatch hBytes
  · rw [hSome]
    cases hSeparator : usesSeparator chars with
    | false =>
      rw [hSeparator, Bool.toNat_false] at hBytes
      constructor
      · rintro ⟨hTotal, -⟩
        exact ⟨by omega, rfl, by omega⟩
      · rintro ⟨-, -, hTotal⟩
        exact ⟨.inr (.inr hTotal), rfl⟩
    | true =>
      rw [hSeparator, Bool.toNat_true] at hBytes
      refine iff_of_false ?_ fun hCompact => nomatch hCompact.2.1
      rintro ⟨hTotal, -⟩
      omega

end Date

end ProcureFoundation
