import FormCard.Json.Reading

/-!
# Numbers in a JSON text

This part of the reader is about numbers.  A numeral is scanned into its digits first and valued
afterwards, so that faults of the grammar come before those of the size.

An integer that fits 64 bits is held as it is.  Any other numeral is a floating-point number.  It is
found with one multiplication or division from the digits that fit 64 bits, which is fast and close
to the number written, but not always the nearest; the program computes it in this way, and so it is
computed here.  Exponents beyond any number are answered without computing a power: the result is
zero, or the fault that the number is out of range.
-/

namespace FormCard.Json

open FormCard.Decimal

/-- The parts of a numeral. -/
structure Numeral where
  isNegative : Bool
  whole : List Char
  fraction : List Char
  /-- Whether the exponent is negative, and its digits. -/
  exponent : Option (Bool × List Char)

namespace Numeral

/-! ## 1. Scanning -/

/-- The digits before the point: a zero alone, or digits that do not start with one. -/
def wholePart : Reader (List Char)
  | [] => .error (.here .endInValue [])
  | c :: s =>
    if c = '0' then
      if s.head?.any Char.isDigit then .error (.next .badNumber s) else .ok (.one ['0'])
    else if c.isDigit then .ok ((Part.span Char.isDigit s).behind.map (c :: ·))
    else .error (.next .badNumber (c :: s))

/-- The digits behind a point, if there is a point. -/
def fractionPart (s : List Char) : Except Fault (Part (List Char) s) :=
  match s with
  | [] => .ok (.nothing [])
  | c :: t =>
    if c = '.' then
      let digits := Part.span Char.isDigit t
      if t = [] then .error (.next .endInValue t)
      else if digits.value = [] then .error (.next .badNumber t)
      else .ok digits.behind.toPart
    else .ok (.nothing [])

/-- The sign of an exponent: whether it is negative.  There need not be one. -/
def signPart (s : List Char) : Part Bool s :=
  match s with
  | [] => .nothing false
  | c :: _ =>
    if c = '-' then (Read.one true).toPart
    else if c = '+' then (Read.one false).toPart
    else .nothing false

/-- The exponent, if there is one. -/
def exponentPart (s : List Char) : Except Fault (Part (Option (Bool × List Char)) s) :=
  match s with
  | [] => .ok (.nothing none)
  | c :: t =>
    if c = 'e' ∨ c = 'E' then
      let sign := signPart t
      let digits := Part.span Char.isDigit sign.rest
      if sign.rest = [] then .error (.here .endInValue [])
      else if digits.value = [] then .error (.next .badNumber sign.rest)
      else .ok ((sign.andThen digits).behind.toPart.map fun ds => some (sign.value, ds))
    else .ok (.nothing none)

/-- Scans a numeral without a sign. -/
def scanMagnitude (isNegative : Bool) : Reader Numeral := fun s => do
  let whole ← wholePart s
  let fraction ← fractionPart whole.rest
  let exponent ← exponentPart fraction.rest
  return (whole.andThen (fraction.andThen exponent)).map fun e =>
    ⟨isNegative, whole.value, fraction.value, e⟩

/-- Scans a numeral. -/
def scan : Reader Numeral
  | [] => scanMagnitude false []
  | c :: s =>
    if c = '-' then (scanMagnitude true s).map (·.behind) else scanMagnitude false (c :: s)

/-! ## 2. Valuing -/

/-- The largest integer of 64 bits, which bounds the digits that are kept. -/
def significandLimit : Nat := 0xffffffffffffffff

/-- The largest exponent that is read. -/
def exponentLimit : Nat := 0x7fffffff

/-- The floating-point number nearest to `10 ^ n`, for `n` at most 308. -/
def powerOfTen (n : Nat) : Float := Float.ofScientific 1 false n

/-- Divides by `10 ^ n`, in steps of 308 while the quotient is not zero. -/
def divide (x : Float) (n : Nat) : Float :=
  if n ≤ 308 then x / powerOfTen n
  else if x == 0 then x
  else divide (x / powerOfTen 308) (n - 308)
termination_by n

/-- `x * 10 ^ exponent`, unless it is too large. -/
def scale (x : Float) (exponent : Int) : Option Float :=
  if exponent < 0 then some (divide x exponent.natAbs)
  else if exponent ≤ 308 then
    let product := x * powerOfTen exponent.natAbs
    if product.isInf then none else some product
  else if x == 0 then some x
  else none

def signed (isNegative : Bool) (x : Float) : Number := .float (if isNegative then -x else x)

/-- An integer without fraction and exponent, if it fits 64 bits. -/
def integer (isNegative : Bool) (n : Nat) : Number :=
  if !isNegative then .natural n.toUInt64
  else if n = 0 ∨ 0x8000000000000000 < n then signed true (Float.ofNat n)
  else .negative (Int64.ofInt (-(n : Int)))

/-- The value of a numeral.  A numeral out of range gives the number of its digits that need not be
read to know it. -/
def value (n : Numeral) : Except Nat Number :=
  let (kept, extra) := gather significandLimit 0 n.whole
  match n.fraction, n.exponent, extra with
  | [], none, [] => .ok (integer n.isNegative kept)
  | fraction, exponent, _ =>
    let (significand, dropped) := gather significandLimit kept fraction
    let shift : Int := (extra.length : Int) - ((fraction.length - dropped.length : Nat) : Int)
    let scaled (exponent : Int) : Except Nat Number :=
      match scale (Float.ofNat significand) exponent with
      | some x => .ok (signed n.isNegative x)
      | none => .error 0
    match exponent with
    | none => scaled shift
    | some (negativeExponent, ds) =>
      match gather exponentLimit 0 ds with
      | (e, []) => scaled (if negativeExponent then shift - e else shift + e)
      | (_, _ :: unread) =>
        if significand ≠ 0 ∧ !negativeExponent then .error unread.length
        else .ok (signed n.isNegative 0)

def number : Reader Number := fun s => do
  let numeral ← scan s
  match numeral.value.value with
  | .ok n => return numeral.map fun _ => n
  | .error unread => throw ⟨.outOfRange, unread + byteCount numeral.rest⟩

end Numeral

end FormCard.Json
