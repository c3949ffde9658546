import FormCard.Text.Blank

/-!
# Natural numbers in decimal

Natural numbers are read in several places: as numbers of JSON and of settings, and as properties
that are written as text, such as the columns of a grid.  Each place has its own limit, and beyond
it there is no number.  Digits are therefore gathered only while the number stays within a limit, so
that no step of the reading ever holds a number that does not fit.  The same gathering serves whole
numbers (`natural?`) and the significand of a floating-point number, which keeps as many digits as
fit.

In the other direction, positions of components and numbers of keys become text in paths.  It
matters there that numbers with the same text are the same (`text_injective`).  What exactly is read
as which number is the subject of `FormCard.Proofs.Spelling`.
-/

namespace FormCard.Decimal

def digitValue (c : Char) : Nat := c.toNat - '0'.toNat

/-- The digits in front of a text, and the text behind them. -/
def spanDigits (cs : List Char) : List Char × List Char :=
  (cs.takeWhile Char.isDigit, cs.dropWhile Char.isDigit)

/-- Appends digits to the number `acc` while the result is at most `limit`.  The second part is the
digits that did not fit: it starts with the digit that would have passed the limit. -/
def gather (limit : Nat) : Nat → List Char → Nat × List Char
  | acc, [] => (acc, [])
  | acc, d :: ds =>
    if acc * 10 + digitValue d ≤ limit then gather limit (acc * 10 + digitValue d) ds
    else (acc, d :: ds)

/-- The number that a text of digits writes, if there is at least one digit, there are only digits,
and the number is at most `limit`.  Leading zeros are allowed. -/
def digits? (limit : Nat) (cs : List Char) : Option Nat :=
  if cs ≠ [] ∧ cs.all Char.isDigit then
    match gather limit 0 cs with
    | (n, []) => some n
    | (_, _ :: _) => none
  else none

/-- As `digits?`, with an optional plus sign in front. -/
def natural? (limit : Nat) : List Char → Option Nat
  | '+' :: cs => digits? limit cs
  | cs => digits? limit cs

def digits (n : Nat) : List Char := Nat.toDigits 10 n

/-- The decimal text of a natural number. -/
def text (n : Nat) : String := String.ofList (digits n)

/-- The decimal text of an integer. -/
def integerText (n : Int) : String := if n < 0 then "-" ++ text n.natAbs else text n.natAbs

/-! ## Laws -/

/-- **Numbers with the same text are the same.** -/
theorem text_injective {m n : Nat} (h : text m = text n) : m = n := by
  have h := congrArg (Nat.ofDigitChars 10 · 0) (String.ofList_injective h)
  simpa [digits, Nat.ofDigitChars_toDigits] using h

end FormCard.Decimal
