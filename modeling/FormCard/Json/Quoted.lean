import FormCard.Json.Reading

/-!
# Strings in a JSON text

This part of the reader takes strings apart, keys of objects included.  The characters of a string
are read one at a time: a plain character stands for itself, an escape for the character that it
names, and a pair of escaped surrogates for one character beyond the first plane.  A surrogate
without its partner is a fault, for no text can hold it; so are the control characters of ASCII,
which have to be escaped.

Most of the module is about faults.  An escape may be wrong in several ways, and each is reported
with its own cause at its own place, up to the number of bytes that were looked at when a text ends
in the middle of four digits.
-/

namespace FormCard.Json

def hexValue? (c : Char) : Option Nat :=
  if '0' ≤ c ∧ c ≤ '9' then some (c.toNat - '0'.toNat)
  else if 'a' ≤ c ∧ c ≤ 'f' then some (c.toNat - 'a'.toNat + 10)
  else if 'A' ≤ c ∧ c ≤ 'F' then some (c.toNat - 'A'.toNat + 10)
  else none

/-- The value of four hexadecimal digits. -/
def hexUnit? : List Char → Option Nat
  | [a, b, c, d] => do
    return (((← hexValue? a) * 16 + (← hexValue? b)) * 16 + (← hexValue? c)) * 16 + (← hexValue? d)
  | _ => none

/-- What is wrong with a text that does not start with four hexadecimal digits: it ends too early,
or its first four bytes are something else. -/
def hexFault (s : List Char) : Fault :=
  if byteCount s < 4 then ⟨.endInString, 0⟩ else ⟨.badEscape, byteCount s - 4⟩

def hexUnit (s : List Char) : Except Fault (Part Nat s) :=
  match hexUnit? (s.take 4) with
  | some n => .ok (.drop 4 n)
  | none => .error (hexFault s)

/-- Whether a code unit is the first of a pair. -/
def isHighSurrogate (n : Nat) : Bool := 0xd800 ≤ n && n < 0xdc00

/-- Whether a code unit is the second of a pair. -/
def isLowSurrogate (n : Nat) : Bool := 0xdc00 ≤ n && n < 0xe000

/-- The character that a pair of code units stands for. -/
def pairChar (high low : Nat) : Char :=
  Char.ofNat ((high - 0xd800) * 0x400 + (low - 0xdc00) + 0x10000)

/-- Reads `c`, which must follow the first unit of a pair. -/
def pairMark (c : Char) (s : List Char) : Except Fault (Part Unit s) :=
  match s with
  | [] => .error ⟨.endInString, 0⟩
  | d :: t => if d = c then .ok (Read.one ()).toPart else .error (.next .halfPair (d :: t))

/-- Reads the character behind a backslash and a `u`. -/
def unicodeEscape (s : List Char) : Except Fault (Part Char s) := do
  let high ← hexUnit s
  if isLowSurrogate high.value then throw (.here .loneSurrogate high.rest)
  if isHighSurrogate high.value then
    let backslash ← pairMark '\\' high.rest
    let letter ← pairMark 'u' backslash.rest
    let low ← hexUnit letter.rest
    if isLowSurrogate low.value then
      return (high.andThen (backslash.andThen (letter.andThen low))).map (pairChar high.value)
    else throw (.here .loneSurrogate low.rest)
  else return high.map Char.ofNat

/-- The character that a letter behind a backslash names. -/
def letterEscape? : Char → Option Char
  | '"' => some '"'
  | '\\' => some '\\'
  | '/' => some '/'
  | 'b' => some '\x08'
  | 'f' => some '\x0c'
  | 'n' => some '\n'
  | 'r' => some '\r'
  | 't' => some '\t'
  | _ => none

/-- Reads the rest of an escape, behind its backslash. -/
def escapeRest (s : List Char) : Except Fault (Part Char s) :=
  match s with
  | [] => .error ⟨.endInString, 0⟩
  | c :: t =>
    if c = 'u' then (unicodeEscape t).map (·.behind.toPart)
    else match letterEscape? c with
      | some d => .ok (Read.one d).toPart
      | none => .error (.next .badEscape (c :: t))

/-- Reads the characters up to the closing quote.  `read` holds the last ones first. -/
def stringRest {start : List Char} (read : List Char) (s : List Char)
    (inside : s.length < start.length) : Except Fault (Read String start) :=
  match s with
  | [] => .error ⟨.endInString, 0⟩
  | c :: t =>
    if c = '"' then .ok ⟨String.ofList read.reverse, t, length_lt_of_cons inside⟩
    else if c = '\\' then
      match escapeRest t with
      | .error fault => .error fault
      | .ok e =>
        stringRest (e.value :: read) e.rest (Nat.lt_of_le_of_lt e.within (length_lt_of_cons inside))
    else if c.toNat < 0x20 then .error (.next .controlCharacter (c :: t))
    else stringRest (c :: read) t (length_lt_of_cons inside)
termination_by s.length
decreasing_by
  · exact Nat.lt_succ_of_le e.within
  · exact length_lt_cons c t

end FormCard.Json
