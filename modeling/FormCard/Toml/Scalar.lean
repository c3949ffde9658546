import FormCard.Toml.Value
import FormCard.Decimal.Reading

/-!
# Scalars of a TOML document

Numbers, truth values, dates and times are single words: no blank, no quote and no bracket belongs
to them.  The one exception is a date and a time of day with a blank in between, which are two
words.  This part of the reader of settings is handed a word and tells what it stands for, by one
test after the other; a word that passes none of them makes the document invalid.

The settings of the program are strings and truth values.  The other scalars matter all the same,
since a file with a wrong date anywhere in it is not read at all.
-/

namespace FormCard.Toml

open FormCard.Decimal

/-! ## 1. Numbers -/

/-- Groups of digits with single underscores between them; the digits without the underscores. -/
def grouped? (isDigit : Char → Bool) (cs : List Char) : Option (List Char) :=
  let groups := cs.splitOn '_'
  if groups.all fun group => !group.isEmpty && group.all isDigit then some groups.flatten else none

/-- A sign, if there is one, and the rest. -/
def signOf (cs : List Char) : Option Char × List Char :=
  match cs with
  | '+' :: rest => (some '+', rest)
  | '-' :: rest => (some '-', rest)
  | rest => (none, rest)

/-- Digits in groups of which the first is zero only if it is alone. -/
def wholeDigits? (cs : List Char) : Option (List Char) :=
  (grouped? Char.isDigit cs).filter fun ds => ds.head? ≠ some '0' || ds.length = 1

def fits (n : Int) : Bool := -0x8000000000000000 ≤ n && n < 0x8000000000000000

/-- The digits of a base above ten may be letters. -/
def baseDigit? (base : Nat) (c : Char) : Option Nat :=
  let value :=
    if '0' ≤ c ∧ c ≤ '9' then c.toNat - '0'.toNat
    else if 'a' ≤ c ∧ c ≤ 'f' then c.toNat - 'a'.toNat + 10
    else if 'A' ≤ c ∧ c ≤ 'F' then c.toNat - 'A'.toNat + 10
    else base
  if value < base then some value else none

/-- The value of digits in groups, in some base. -/
def based? (base : Nat) (cs : List Char) : Option Int :=
  (grouped? (fun c => (baseDigit? base c).isSome) cs).map fun ds =>
    ((ds.filterMap (baseDigit? base)).foldl (fun n d => n * base + d) 0 : Nat)

/-- An integer in base ten with an optional sign, or in another base without one. -/
def integer? (cs : List Char) : Option Int :=
  let read := match cs with
    | '0' :: 'x' :: ds => based? 16 ds
    | '0' :: 'o' :: ds => based? 8 ds
    | '0' :: 'b' :: ds => based? 2 ds
    | cs =>
      let (sign, ds) := signOf cs
      (wholeDigits? ds).map fun ds => if sign = some '-' then -(valueOf ds : Int) else valueOf ds
  read.filter fits

/-- A character between the sign and the point or exponent of a number. -/
def isGroupChar (c : Char) : Bool := c.isDigit || c = '_'

/-- The exponent of a number: a sign and groups of digits, which may start with zero. -/
def exponentDigits? (cs : List Char) : Option (List Char) :=
  match cs with
  | [] => some []
  | c :: rest =>
    if c = 'e' ∨ c = 'E' then
      let (sign, ds) := signOf rest
      (grouped? Char.isDigit ds).map fun ds => 'e' :: sign.toList ++ ds
    else none

/-- A number with a point, an exponent or both.  A number beyond the largest is refused. -/
def float? (cs : List Char) : Option Float := do
  let (sign, body) := signOf cs
  let whole ← wholeDigits? (body.takeWhile isGroupChar)
  let text ← match body.dropWhile isGroupChar with
    | [] => none
    | '.' :: rest => do
      let fraction ← grouped? Char.isDigit (rest.takeWhile isGroupChar)
      let exponent ← exponentDigits? (rest.dropWhile isGroupChar)
      pure ('.' :: fraction ++ exponent)
    | rest => exponentDigits? rest
  (Decimal.float? (sign.toList ++ whole ++ text)).filter fun x => !(x.isInf && x > 0)

/-- The words for values that are not finite, with an optional sign. -/
def specialFloat? (cs : List Char) : Option Float :=
  let (_, body) := signOf cs
  if body = ['i', 'n', 'f'] ∨ body = ['n', 'a', 'n'] then Decimal.float? cs else none

/-! ## 2. Dates and times -/

/-- A number of exactly so many digits, within bounds. -/
def field? (width least greatest : Nat) (cs : List Char) : Option Nat :=
  if cs.length = width ∧ cs.all Char.isDigit ∧ least ≤ valueOf cs ∧ valueOf cs ≤ greatest then
    some (valueOf cs)
  else none

/-- The number of days of a month. -/
def daysOf (year month : Nat) : Nat :=
  if month = 2 then
    if year % 4 = 0 ∧ (year % 100 ≠ 0 ∨ year % 400 = 0) then 29 else 28
  else if month = 4 ∨ month = 6 ∨ month = 9 ∨ month = 11 then 30
  else 31

/-- A date: year, month and day. -/
def isDate (cs : List Char) : Bool :=
  match cs.splitOn '-' with
  | [y, m, d] =>
    match field? 4 0 9999 y, field? 2 1 12 m with
    | some year, some month => (field? 2 1 (daysOf year month) d).isSome
    | _, _ => false
  | _ => false

def isClock (cs : List Char) : Bool :=
  match cs.splitOn ':' with
  | [h, m] => (field? 2 0 23 h).isSome && (field? 2 0 59 m).isSome
  | _ => false

/-- A time of day: hours, minutes, seconds and parts of a second. -/
def isTime (cs : List Char) : Bool :=
  match cs.splitOn ':' with
  | [h, m, s] =>
    let fraction := s.dropWhile Char.isDigit
    (field? 2 0 23 h).isSome && (field? 2 0 59 m).isSome
      && (field? 2 0 60 (s.takeWhile Char.isDigit)).isSome
      && match fraction with
        | [] => true
        | c :: digits => c = '.' && !digits.isEmpty && digits.all Char.isDigit
  | _ => false

/-- Whether a character starts the distance of a local time from the universal one. -/
def startsOffset (c : Char) : Bool := c = 'Z' || c = 'z' || c = '+' || c = '-'

/-- A time of day that may be followed by its distance from the universal time. -/
def isZonedTime (cs : List Char) : Bool :=
  isTime (cs.takeWhile (!startsOffset ·)) &&
    match cs.dropWhile (!startsOffset ·) with
    | [] => true
    | c :: rest => if c = 'Z' ∨ c = 'z' then rest.isEmpty else isClock rest

/-- Whether a character stands between a date and a time in one word. -/
def isDelimiter (c : Char) : Bool := c = 'T' || c = 't'

/-- A date with a time in the same word. -/
def isDateTime (cs : List Char) : Bool :=
  isDate (cs.takeWhile (!isDelimiter ·)) && isZonedTime ((cs.dropWhile (!isDelimiter ·)).drop 1)

/-! ## 3. Words -/

/-- The characters of the words for scalars. -/
def isWordChar (c : Char) : Bool :=
  c.isDigit || c.isAlpha || c = '_' || c = '+' || c = '-' || c = '.' || c = ':'

/-- The value that a word stands for. -/
def scalar? (word : List Char) : Option Value :=
  if word = ['t', 'r', 'u', 'e'] then some (.boolean true)
  else if word = ['f', 'a', 'l', 's', 'e'] then some (.boolean false)
  else if isDate word || isTime word || isDateTime word then some (.moment (String.ofList word))
  else ((float? word).or (specialFloat? word)).map Value.float
    |>.or ((integer? word).map Value.integer)

end FormCard.Toml
