import FormCard.Decimal.Layout

/-!
# The shortest decimal that reads back

A floating-point number stands for every real number nearer to it than to its neighbours.  The text
that the program prints for it has the fewest digits that still fall among these, and of the texts
with that many digits it is the nearest to the number itself.

This is computed as it is said, without tables or estimates.  All comparisons are exact: the number
and the ends of its interval are natural numbers over one denominator, and the grids of decimals are
tried from the coarsest on.  Seventeen digits always suffice, so there are seventeen grids to try at
most.  Only `render` looks at a floating-point number at all, and there at its bits.
-/

namespace FormCard.Decimal

/-! ## 1. A number and the reals that round to it -/

/-- A positive number `mantissa * 2 ^ exponent`, with what its rounding interval needs to know. -/
structure Binary where
  mantissa : Nat
  exponent : Int
  /-- The neighbour below is only half as far away as the one above. -/
  nearBelow : Bool
  deriving DecidableEq, Repr

/-- The parts of a finite positive number, from the bits of its magnitude. -/
def Binary.ofBits (bits : Nat) : Binary :=
  let fraction : Nat := bits % 0x10000000000000
  let biased : Nat := bits / 0x10000000000000
  if biased = 0 then ⟨fraction, -1074, false⟩
  else ⟨0x10000000000000 + fraction, (biased : Int) - 1075, fraction = 0 && biased ≠ 1⟩

/-- A positive number and the ends of its interval over one denominator: `low / unit`,
`value / unit` and `high / unit`. -/
structure Interval where
  low : Nat
  value : Nat
  high : Nat
  unit : Nat
  /-- Whether the ends themselves round to the number. -/
  closed : Bool

/-- The reals that round to `b`: half way to each neighbour, the ends included when the mantissa
is even. -/
def Binary.interval (b : Binary) : Interval :=
  let scale := Nat.pow 2 (b.exponent - 2).toNat
  ⟨(4 * b.mantissa - if b.nearBelow then 1 else 2) * scale, 4 * b.mantissa * scale,
    (4 * b.mantissa + 2) * scale, Nat.pow 2 (2 - b.exponent).toNat, b.mantissa % 2 = 0⟩

/-- Whether `n / unit` lies in the interval. -/
def Interval.holds (i : Interval) (n : Nat) : Bool :=
  if i.closed then i.low ≤ n && n ≤ i.high else i.low < n && n < i.high

/-- The exponent of the first decimal digit of the number. -/
def Interval.leading (i : Interval) : Int :=
  if i.unit ≤ i.value then ((Nat.toDigits 10 (i.value / i.unit)).length : Int) - 1
  else -((Nat.toDigits 10 ((i.unit + i.value - 1) / i.value - 1)).length : Int)

/-! ## 2. One grid of decimals after the other -/

/-- The number of the grid `10 ^ step` that is nearest to the number among those that lie in its
interval, if one does.  Only the two grid points around the number can be the nearest. -/
def Interval.nearest (i : Interval) (tie : Tie) (step : Int) : Option Nat :=
  let grow := Nat.pow 10 (-step).toNat
  let scaled : Interval := ⟨i.low * grow, i.value * grow, i.high * grow,
    i.unit * Nat.pow 10 step.toNat, i.closed⟩
  let below := scaled.value / scaled.unit
  let toBelow := scaled.value - below * scaled.unit
  let toAbove := (below + 1) * scaled.unit - scaled.value
  let takeBelow := toBelow < toAbove || (toBelow == toAbove && tie = .even && below % 2 == 0)
  match scaled.holds (below * scaled.unit), scaled.holds ((below + 1) * scaled.unit) with
  | true, true => some (if takeBelow then below else below + 1)
  | true, false => some below
  | false, true => some (below + 1)
  | false, false => none

/-- The digits of the shortest decimal in the interval, without zeros at the end, and the exponent
of the first of them.  Seventeen digits always suffice. -/
def Interval.shortest (i : Interval) (tie : Tie) : List Char × Int :=
  let leading := i.leading
  let found := (List.range 17).findSome? fun (more : Nat) =>
    (i.nearest tie (leading - more)).map fun n => (n, leading - more)
  let (n, step) := found.getD (0, leading)
  let ds := Nat.toDigits 10 n
  ((ds.reverse.dropWhile (· == '0')).reverse, step + (ds.length : Int) - 1)

/-! ## 3. The text of a floating-point number -/

def render (layout : Layout) (x : Float) : String :=
  let bits := x.toBits.toNat
  let magnitude := bits % 0x8000000000000000
  let infinite := 0x7ff0000000000000
  let isNegative : Bool := 0x8000000000000000 ≤ bits
  if infinite < magnitude then layout.nan
  else if magnitude = infinite then
    if isNegative then layout.negativeInfinity else layout.infinity
  else
    let body :=
      if magnitude = 0 then layout.text ['0'] 0
      else
        let (ds, exponent) := (Binary.ofBits magnitude).interval.shortest layout.tie
        layout.text ds exponent
    String.ofList (if isNegative then '-' :: body else body)

end FormCard.Decimal
