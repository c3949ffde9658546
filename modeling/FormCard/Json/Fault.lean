import FormCard.Json.Writer

/-!
# What can be wrong with a JSON text

If the text of a card is no JSON, the program shows what is wrong in place of the card: the cause in
words, and the line and the column where it showed.  Both are part of the output that users see, so
both are modelled to the letter.

A `Fault` names its cause and how much of the text had not been read when it showed.  Counting what
is left lets a reader work on the rest of a text alone; `Fault.locate` turns the count into a line
and a column once, when the whole text is at hand.  Columns count bytes, and some causes show before
the offending byte is read and some behind it, which is the difference between `Fault.here` and
`Fault.next`.
-/

namespace FormCard.Json

/-- A value found where a string was wanted. -/
inductive Found where
  | null
  | bool (b : Bool)
  | number (n : Number)
  | sequence
  | map

/-- The words for a value that is no string. -/
def Found.text : Found → String
  | null => "null"
  | bool b => "boolean `" ++ boolText b ++ "`"
  | number (.float x) => "floating point `" ++ (Number.float x).text ++ "`"
  | number n => "integer `" ++ n.text ++ "`"
  | sequence => "sequence"
  | map => "map"

/-- Why a text is not the JSON that was wanted. -/
inductive Cause where
  | endInValue
  | endInString
  | endInList
  | endInObject
  | noValue
  | badWord
  | badNumber
  | outOfRange
  | controlCharacter
  | badEscape
  | loneSurrogate
  | halfPair
  | noCommaOrBracket
  | noCommaOrBrace
  | trailingComma
  | badKey
  | noColon
  | trailingText
  | tooDeep
  | notString (found : Found)

/-- The wording of a cause. -/
def Cause.message : Cause → String
  | endInValue => "EOF while parsing a value"
  | endInString => "EOF while parsing a string"
  | endInList => "EOF while parsing a list"
  | endInObject => "EOF while parsing an object"
  | noValue => "expected value"
  | badWord => "expected ident"
  | badNumber => "invalid number"
  | outOfRange => "number out of range"
  | controlCharacter => "control character (\\u0000-\\u001F) found while parsing a string"
  | badEscape => "invalid escape"
  | loneSurrogate => "lone leading surrogate in hex escape"
  | halfPair => "unexpected end of hex escape"
  | noCommaOrBracket => "expected `,` or `]`"
  | noCommaOrBrace => "expected `,` or `\x7d`"
  | trailingComma => "trailing comma"
  | badKey => "key must be a string"
  | noColon => "expected `:`"
  | trailingText => "trailing characters"
  | tooDeep => "recursion limit exceeded"
  | notString found => "invalid type: " ++ found.text ++ ", expected a string"

/-- A cause, and the number of bytes that were unread when it showed. -/
structure Fault where
  cause : Cause
  left : Nat

def byteCount : List Char → Nat
  | [] => 0
  | c :: cs => c.utf8Size + byteCount cs

/-- A fault with all of `rest` unread. -/
def Fault.here (cause : Cause) (rest : List Char) : Fault := ⟨cause, byteCount rest⟩

/-- A fault at the first byte of `rest`, which counts as read; at the end of the text there is none
to count. -/
def Fault.next (cause : Cause) (rest : List Char) : Fault := ⟨cause, byteCount rest - 1⟩

/-- A cause at a place: lines count from one, columns are the bytes read of the line. -/
structure SyntaxError where
  cause : Cause
  line : Nat
  column : Nat

/-- The place of a fault in its text. -/
def Fault.locate (text : String) (fault : Fault) : SyntaxError :=
  let bytes := text.toUTF8.toList
  let read := bytes.take (bytes.length - fault.left)
  ⟨fault.cause, read.count 10 + 1, (read.reverse.takeWhile (· != 10)).length⟩

/-- The wording of an error with its place. -/
def SyntaxError.message (e : SyntaxError) : String :=
  e.cause.message ++ " at line " ++ Decimal.text e.line ++ " column " ++ Decimal.text e.column

end FormCard.Json
