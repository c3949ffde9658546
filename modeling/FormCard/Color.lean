import FormCard.Color.Names
import FormCard.Text.Blank
import FormCard.Decimal.Reading

/-!
# Texts that write a color

The colors of a card come from its author and from the host, and the program passes them on as they
are written.  All it asks is whether a text is a color, for otherwise a default takes its place.  So
this module has a test, `isColor`, and no type of colors.

A color is written as a name, as hexadecimal digits with or without a hash in front, or as one of
the functions `rgb`, `hsl`, `hwb` and `hsv` of three or four arguments.  Blanks around the text and
the case of its letters do not matter, and ranges of arguments are not checked.  A channel of two
characters may be a plus sign and a digit, as in any number with a sign.
-/

namespace FormCard.Color

open FormCard.Text

/-! ## 1. Hexadecimal digits -/

def isHexDigit (c : Char) : Bool :=
  ('0' ≤ c && c ≤ '9') || ('a' ≤ c && c ≤ 'f') || ('A' ≤ c && c ≤ 'F')

/-- Channels of two characters: two digits, or a plus sign and one digit. -/
def areChannels : List Char → Bool
  | [] => true
  | a :: b :: cs => (isHexDigit a || a = '+') && isHexDigit b && areChannels cs
  | _ => false

/-- Three or four channels of one digit, or of two characters. -/
def isHex (cs : List Char) : Bool :=
  match cs.length with
  | 3 | 4 => cs.all isHexDigit
  | 6 | 8 => areChannels cs
  | _ => false

/-! ## 2. Functions -/

/-- How an argument is given. -/
inductive Amount where
  | plain
  | percent
  deriving DecidableEq, Repr

def isFloat (cs : List Char) : Bool := (Decimal.float? cs).isSome

/-- A number, or a number with a percent sign. -/
def amount? (cs : List Char) : Option Amount :=
  if isFloat cs then some .plain
  else if cs.getLast? = some '%' ∧ isFloat cs.dropLast then some .percent
  else none

/-- The units of an angle, of which the last is no unit at all. -/
def angleUnits : List String := ["deg", "grad", "rad", "turn", ""]

/-- A number with the unit of an angle. -/
def isAngle (cs : List Char) : Bool :=
  angleUnits.any fun unit =>
    unit.toList.isSuffixOf cs && isFloat (cs.take (cs.length - unit.toList.length))

/-- Amounts given in the same way. -/
def alike (amounts : List (List Char)) : Bool :=
  amounts.all (amount? · = some .plain) || amounts.all (amount? · = some .percent)

/-- The opacity, which may be left out. -/
def isOpacity (rest : List (List Char)) : Bool :=
  match rest with
  | [] => true
  | [opacity] => (amount? opacity).isSome
  | _ => false

/-- Whether a function of this name takes these arguments. -/
def isCall (name : String) (arguments : List (List Char)) : Bool :=
  match arguments with
  | a :: b :: c :: rest =>
    if name ∈ ["rgb", "rgba"] then alike [a, b, c] && isOpacity rest
    else if name ∈ ["hsl", "hsla", "hwb", "hwba", "hsv", "hsva"] then
      isAngle a && alike [b, c] && isOpacity rest
    else false
  | _ => false

/-- The arguments between parentheses: commas and slashes separate them as blanks do. -/
def arguments (cs : List Char) : List (List Char) :=
  words (cs.map fun c => if c = ',' ∨ c = '/' then ' ' else c)

/-! ## 3. Colors -/

/-- Lower case of the letters that can occur in a color; the sign for the unit kelvin counts as a
letter. -/
def lower (c : Char) : Char := if c = '\u212a' then 'k' else c.toLower

/-- Whether a text in lower case that has no hash in front is a color. -/
def isUnmarkedColor (cs : List Char) : Bool :=
  if String.ofList cs = "transparent" ∨ String.ofList cs ∈ names then true
  else if '(' ∈ cs ∧ cs.getLast? = some ')' then
    isCall (String.ofList (trimEnd (cs.takeWhile (· ≠ '('))))
      (arguments ((cs.dropWhile (· ≠ '(')).drop 1).dropLast)
  else isHex cs

/-- Whether a text in lower case, without blanks around it, is a color. -/
def isLowerColor (cs : List Char) : Bool :=
  match cs with
  | '#' :: digits => isHex digits
  | cs => isUnmarkedColor cs

def isColor (s : String) : Bool :=
  isLowerColor ((trimEnd (trimStart s.toList)).map lower)

end FormCard.Color
