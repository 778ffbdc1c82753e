import ProcureFoundation.Foundation.DecimalText

/-!
# Decimal arithmetic

An operation returns a number of 28 digits, an infinity or a NaN. It raises where there is no value:
on a signaling NaN, on opposite infinities and beyond the largest exponent. Zeros are not told apart
by their sign.
-/

namespace ProcureFoundation

inductive Number where
  | finite (value : ℚ)
  | infinity (negative : Bool)
  | nan
deriving DecidableEq

/-- A number of a fixed scale, or a NaN: what quantizing returns and what a numeric column holds. -/
inductive Numeric (scale : ℕ) where
  | number (value : FixedPoint scale)
  | nan
deriving DecidableEq

/-- The operand that an operation reads; a signaling NaN raises. -/
def Decimal.operand : Decimal → Except String Number
  | .finite negative coefficient exponent =>
    .ok (.finite ((if negative then -1 else 1) * coefficient * (10 : ℚ) ^ exponent))
  | .infinity negative => .ok (.infinity negative)
  | .nan true _ _ => .error "InvalidOperation"
  | .nan false _ _ => .ok .nan

namespace Number

def ofContext (q : ℚ) : Except String Number :=
  if Int.log 10 |contextRound q| ≤ 999999 then .ok (.finite (contextRound q)) else .error "Overflow"

def neg : Number → Number
  | finite x => finite (-x)
  | infinity negative => infinity !negative
  | nan => nan

def add : Number → Number → Except String Number
  | nan, _ | _, nan => .ok nan
  | finite x, finite y => ofContext (x + y)
  | infinity negative, finite _ | finite _, infinity negative => .ok (infinity negative)
  | infinity left, infinity right => if left = right then .ok (infinity left)
      else .error "InvalidOperation"

def sub (x y : Number) : Except String Number := x.add y.neg

def mul : Number → Number → Except String Number
  | nan, _ | _, nan => .ok nan
  | finite x, finite y => ofContext (x * y)
  | infinity negative, finite x | finite x, infinity negative =>
    if x = 0 then .error "InvalidOperation" else .ok (infinity (negative != decide (x < 0)))
  | infinity left, infinity right => .ok (infinity (left != right))

def div : Number → Number → Except String Number
  | nan, _ | _, nan => .ok nan
  | finite x, finite y => if y = 0 then .error "DivisionByZero" else ofContext (x / y)
  | infinity negative, finite y => .ok (infinity (negative != decide (y < 0)))
  | finite _, infinity _ => .ok (finite 0)
  | infinity _, infinity _ => .error "InvalidOperation"

def isZero : Number → Bool
  | finite x => decide (x = 0)
  | infinity _ | nan => false

/-- Rounding to a scale raises when the result has more than 28 digits. -/
def quantize (scale : ℕ) : Number → Except String (Numeric scale)
  | finite x =>
    if |(FixedPoint.quantize scale x).units| < 10 ^ 28 then
      .ok (.number (FixedPoint.quantize scale x))
    else .error "InvalidOperation"
  | infinity _ => .error "InvalidOperation"
  | nan => .ok .nan

end Number

namespace Numeric

variable {scale : ℕ}

def toNumber : Numeric scale → Number
  | number x => .finite x.value
  | nan => .nan

def number? : Numeric scale → Option (FixedPoint scale)
  | number x => some x
  | nan => none

def column (precision : ℕ) : Numeric scale → Except String (Numeric scale)
  | number x => if |x.units| < 10 ^ precision then .ok (number x)
    else .error "numeric field overflow"
  | nan => .ok nan

/-- Assigning to a numeric column; it holds no infinity. -/
def assign (precision scale : ℕ) (amount : Decimal) : Except String (Numeric scale) :=
  match amount.toRat with
  | some q => (number (FixedPoint.assign scale q)).column precision
  | none => if amount.isNan then .ok nan else .error "numeric field overflow"

end Numeric

end ProcureFoundation
