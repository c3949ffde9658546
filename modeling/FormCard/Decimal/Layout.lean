/-!
# How a decimal number is laid out

The program prints floating-point numbers in two formats, the numbers of JSON and the values of
charts in the outline.  Both print the shortest digits that read back, but digits do not settle a
text.  A format decides where the positional notation ends, whether a whole number keeps a
fractional part, how values are called that are no number or infinite, and which way an exact tie
between two equally short texts goes.  A `Layout` is one such choice, and everything after the
digits is a function of it.

The two layouts themselves stand with the formats, in `FormCard.Json.Writer` and
`FormCard.View.Outline`.
-/

namespace FormCard.Decimal

inductive Tie where
  /-- The one whose last digit is even. -/
  | even
  /-- The one farther from zero. -/
  | up
  deriving DecidableEq, Repr

/-- The choices that a format makes for floating-point numbers. -/
structure Layout where
  /-- The rule for ties. -/
  tie : Tie
  /-- Exponents of the first digit that are written positionally, both ends included; without a
  range every number is written positionally. -/
  positional : Option (Int × Int)
  /-- Whether a whole number in positional notation ends in a point and a zero. -/
  pointZero : Bool
  /-- The text of a value that is no number. -/
  nan : String
  /-- The text of positive infinity. -/
  infinity : String
  /-- The text of negative infinity. -/
  negativeInfinity : String

namespace Layout

/-- Whether a number whose first digit stands for `10 ^ exponent` is written positionally. -/
def isPositional (layout : Layout) (exponent : Int) : Bool :=
  match layout.positional with
  | none => true
  | some (least, greatest) => least ≤ exponent && exponent ≤ greatest

/-- The positional text of `digits`, the first of which stands for `10 ^ exponent`. -/
def positionalText (layout : Layout) (digits : List Char) (exponent : Int) : List Char :=
  if exponent < 0 then
    '0' :: '.' :: List.replicate (-exponent - 1).toNat '0' ++ digits
  else
    let whole := exponent.toNat + 1
    if digits.length ≤ whole then
      digits ++ List.replicate (whole - digits.length) '0'
        ++ (if layout.pointZero then ['.', '0'] else [])
    else digits.take whole ++ '.' :: digits.drop whole

/-- The text with an exponent: one digit before the point, and a sign before the exponent. -/
def scientificText (digits : List Char) (exponent : Int) : List Char :=
  let mantissa := match digits with
    | [] => []
    | [d] => [d]
    | d :: more => d :: '.' :: more
  mantissa ++ 'e' :: (if exponent < 0 then '-' else '+') :: Nat.toDigits 10 exponent.natAbs

/-- The text of a positive number given by its digits. -/
def text (layout : Layout) (digits : List Char) (exponent : Int) : List Char :=
  if layout.isPositional exponent then layout.positionalText digits exponent
  else scientificText digits exponent

end Layout

end FormCard.Decimal
