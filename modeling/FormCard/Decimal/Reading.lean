import FormCard.Decimal.Natural

/-!
# Reading floating-point numbers

The values of a chart may be written as text, and so are the arguments of color functions.  The
texts of a number are: an optional sign, then either one of the words `inf`, `infinity` and `nan` in
any case, or digits with at most one point among or around them and an optional exponent.  The
result is the nearest floating-point number, and infinity beyond the largest.

This is not how JSON reads its numbers: `FormCard.Json.Numeral` has a grammar and a rounding of its
own.
-/

namespace FormCard.Decimal

/-- The nearest floating-point number to `mantissa * 10 ^ exponent`.  Exponents far outside the
range of numbers are answered without computing the power. -/
def nearest (mantissa : Nat) (exponent : Int) : Float :=
  let size := ((digits mantissa).length : Int) + exponent
  if mantissa = 0 ∨ size < -400 then 0
  else if 400 < size then Float.ofBits 0x7ff0000000000000
  else Float.ofScientific mantissa (exponent < 0) exponent.natAbs

def valueOf (ds : List Char) : Nat := ds.foldl (fun n d => n * 10 + digitValue d) 0

/-- An exponent: an optional sign and at least one digit, to the end of the text. -/
def exponent? (cs : List Char) : Option Int :=
  let (isNegative, ds) := match cs with
    | '-' :: ds => (true, ds)
    | '+' :: ds => (false, ds)
    | ds => (false, ds)
  if ds ≠ [] ∧ ds.all Char.isDigit then
    some (if isNegative then -(valueOf ds : Int) else valueOf ds)
  else none

/-- A number without a sign: digits, a point, an exponent. -/
def magnitude? (cs : List Char) : Option Float :=
  let (whole, rest) := spanDigits cs
  let (fraction, rest) := match rest with
    | '.' :: rest => spanDigits rest
    | rest => ([], rest)
  if whole ++ fraction = [] then none
  else
    let read (exponent : Int) := nearest (valueOf (whole ++ fraction)) (exponent - fraction.length)
    match rest with
    | [] => some (read 0)
    | c :: rest => if c = 'e' ∨ c = 'E' then (exponent? rest).map read else none

/-- The number that a text writes. -/
def float? (cs : List Char) : Option Float :=
  let (isNegative, rest) := match cs with
    | '-' :: rest => (true, rest)
    | '+' :: rest => (false, rest)
    | rest => (false, rest)
  let read := match String.ofList (rest.map Char.toLower) with
    | "inf" | "infinity" => some (Float.ofBits 0x7ff0000000000000)
    | "nan" => some (Float.ofBits 0x7ff8000000000000)
    | _ => magnitude? rest
  read.map fun x => if isNegative then -x else x

end FormCard.Decimal
